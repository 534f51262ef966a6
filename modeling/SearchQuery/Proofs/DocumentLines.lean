import SearchQuery.Toml.Document

/-!
# A document line by line

What a reader takes off the front of a text, put together from what its parts take: a key, a value
that is written without quotes, a header, a pair, and from the statements the whole document. The
proof that less is left belongs to every reading and is of no interest here, so it is hidden.
-/
namespace SearchQuery.Toml

variable {α : Type} {c : Char} {cs ds rest after : List Char} {k : Key} {item : Item}

/-- The reader takes a value off the front of a text and leaves the rest. -/
def Takes (reader : Reader α) (cs : List Char) (value : α) (rest : List Char) : Prop :=
  ∃ r, reader cs = some r ∧ r.value = value ∧ r.rest = rest

/-- A name that can stand without quotes. -/
structure BareName (name : List Char) : Prop where
  written : name ≠ []
  bare : name.all isBareKey = true

theorem takes_keyName (bare : isBareKey c = true) :
    Takes keyName (c :: cs) (String.ofList (c :: cs.takeWhile isBareKey))
      (cs.dropWhile isBareKey) := by
  have noDouble : c = '"' → False := by rintro rfl; cases bare
  have noSingle : c = '\'' → False := by rintro rfl; cases bare
  unfold Takes
  rw [keyName.eq_4 c cs noDouble noSingle, if_pos bare]
  exact ⟨_, rfl, rfl, rfl⟩

/-- A key of one name. -/
theorem takes_key {name : String} (first : Takes keyName cs name rest)
    (last : (skipSpace rest).head? ≠ some '.') : Takes key cs ⟨[], name⟩ rest := by
  obtain ⟨r, read, rfl, rfl⟩ := first
  have single : names cs = some (r.map fun name => ⟨[], name⟩) := by
    rw [names, read]
    simp only [Option.bind_eq_bind, Option.bind_some]
    split
    · rename_i h
      rw [h] at last
      exact absurd rfl last
    · rfl
  refine ⟨r.map fun name => ⟨[], name⟩, ?_, rfl, rfl⟩
  rw [key, single]
  rfl

theorem takes_scalar {length : Nat} (unquoted : c ≠ '"' ∧ c ≠ '\'')
    (run : runLength (c :: cs) = length) (long : 0 < length)
    (written : run? ((c :: cs).take length) = some item) :
    Takes scalar (c :: cs) item ((c :: cs).drop length) := by
  subst run
  generalize whole : c :: cs = text at *
  unfold Takes scalar
  split
  · cases whole
  · cases whole; exact absurd rfl unquoted.1
  · cases whole; exact absurd rfl unquoted.2
  · simp only [written, Option.bind_eq_bind, Option.bind_some]
    rw [dif_pos long]
    exact ⟨_, rfl, rfl, rfl⟩

/-- A word that stands for a value: no quote or bracket in front, and no date. -/
structure ValueWord (word : List Char) (item : Item) : Prop where
  start : ∃ first tail, word = first :: tail ∧ first ∉ ['"', '\'', '[', '{']
  run : word.all isRun = true
  undated : Moment.date? word = none
  denotes : run? word = some item

theorem ValueWord.takes_value {word : List Char} (value : ValueWord word item)
    (next : isRun c = false) (depth : Nat) :
    Takes (Toml.value (depth + 1)) (word ++ c :: rest) item (c :: rest) := by
  have run : (word ++ c :: rest).takeWhile isRun = word := by
    rw [List.takeWhile_append_of_pos (List.all_eq_true.mp value.run),
      List.takeWhile_cons_of_neg (by simp [next]), List.append_nil]
  have length : runLength (word ++ c :: rest) = word.length := by
    rw [runLength, run, value.undated]
  obtain ⟨first, tail, rfl, noBracket⟩ := value.start
  simp only [List.mem_cons, List.not_mem_nil, or_false, not_or] at noBracket
  obtain ⟨noDouble, noSingle, noArray, noTable⟩ := noBracket
  have written : run? ((first :: (tail ++ c :: rest)).take (first :: tail).length) = some item := by
    rw [← List.cons_append, List.take_left, value.denotes]
  have behind : (first :: (tail ++ c :: rest)).drop (first :: tail).length = c :: rest := by
    rw [← List.cons_append, List.drop_left]
  have taken := takes_scalar ⟨noDouble, noSingle⟩ length (Nat.succ_pos _) written
  rw [List.append_eq, behind] at taken
  obtain ⟨r, read, rfl, left⟩ := taken
  refine ⟨r, ?_, rfl, left⟩
  have flat := Toml.value.eq_4 (first :: (tail ++ c :: rest)) depth (by simp [noArray])
    (by simp [noTable])
  exact flat.trans read

theorem takes_header (named : Takes key (skipSpace cs) k rest)
    (closed : skipSpace rest = ']' :: after) : Takes header cs (.openTable k) after := by
  obtain ⟨r, read, rfl, rfl⟩ := named
  unfold Takes header headerKey
  rw [read]
  simp only [Option.map_some, Option.bind_eq_bind, Option.bind_some]
  split
  · rename_i h
    obtain rfl : _ = after := (List.cons.inj (h.symm.trans closed)).2
    exact ⟨_, rfl, rfl, rfl⟩
  · rename_i h
    exact absurd closed (h _)

theorem takes_assignment (named : Takes key cs k rest) (equals : skipSpace rest = '=' :: ds)
    (written : Takes (value depthLimit) (skipSpace ds) item after) :
    Takes assignment cs (.assign k item) after := by
  obtain ⟨r, read, rfl, rfl⟩ := named
  obtain ⟨v, read_value, rfl, rfl⟩ := written
  unfold Takes assignment
  rw [read]
  simp only [Option.bind_eq_bind, Option.bind_some]
  split
  · rename_i h
    obtain rfl : _ = ds := (List.cons.inj (h.symm.trans equals)).2
    rw [read_value]
    exact ⟨_, rfl, rfl, rfl⟩
  · rename_i h
    exact absurd equals (h _)

theorem takes_statement_header {statement : Statement} (single : cs.head? ≠ some '[')
    (header : Takes header cs statement rest) :
    Takes Toml.statement ('[' :: cs) statement rest := by
  obtain ⟨r, read, rfl, rfl⟩ := header
  refine ⟨r.behind '[', ?_, rfl, rfl⟩
  have alone : ∀ tail, cs = '[' :: tail → False := by
    rintro tail rfl
    exact single rfl
  rw [statement.eq_2 cs alone, read]
  rfl

theorem takes_statement_assignment {statement : Statement} (start : c ≠ '[')
    (assigned : Takes assignment (c :: cs) statement rest) :
    Takes Toml.statement (c :: cs) statement rest := by
  obtain ⟨r, read, rfl, rfl⟩ := assigned
  refine ⟨r, ?_, rfl, rfl⟩
  have noHeader : ∀ tail, c :: cs = '[' :: tail → False := by
    rintro tail shape
    exact start (List.cons.inj shape).1
  rw [statement.eq_3 (c :: cs) (fun tail => noHeader _) noHeader, read]

/-- A text that can stand between quotes as it is. -/
structure PlainText (text : List Char) : Prop where
  written : text ≠ []
  plain : ∀ c ∈ text, isVisible c = true ∧ c ≠ '"' ∧ c ≠ '\\'

theorem takes_double {text : List Char}
    (plain : ∀ c ∈ text, isVisible c = true ∧ c ≠ '"' ∧ c ≠ '\\') :
    Takes Quote.double (text ++ '"' :: rest) text rest := by
  induction text with
  | nil =>
    unfold Takes
    rw [List.nil_append, Quote.double]
    exact ⟨_, rfl, rfl, rfl⟩
  | cons c text ih =>
    obtain ⟨⟨visible, noQuote, noEscape⟩, others⟩ := List.forall_mem_cons.mp plain
    obtain ⟨r, read, inner, left⟩ := ih others
    have step := Quote.double.eq_4 c (text ++ '"' :: rest) noQuote noEscape
    rw [if_pos visible, read] at step
    exact ⟨_, step, congrArg _ inner, left⟩

theorem PlainText.takes_value {text : List Char} (plain : PlainText text) (depth : Nat) :
    Takes (Toml.value (depth + 1)) ('"' :: (text ++ '"' :: rest)) (.text (String.ofList text))
      rest := by
  have content : Takes Quote.double (text ++ '"' :: rest) text rest := takes_double plain.plain
  obtain ⟨r, read, inner, left⟩ := content
  have single : ∀ ds, text ++ '"' :: rest = '"' :: '"' :: ds → False := by
    obtain ⟨c, tail, rfl⟩ := List.exists_cons_of_ne_nil plain.written
    rintro ds shape
    exact (plain.plain c List.mem_cons_self).2.1 (List.cons.inj shape).1
  have quoted := Quote.text.eq_3 (text ++ '"' :: rest) single
  have flat := Toml.value.eq_4 ('"' :: (text ++ '"' :: rest)) depth (by simp) (by simp)
  rw [read] at quoted
  refine ⟨((r.map String.ofList).behind '"').map .text, ?_, ?_, left⟩
  · exact flat.trans (congrArg (Option.map fun r : Read String _ => r.map Item.text) quoted)
  · exact congrArg (Item.text ∘ String.ofList) inner

/-! ### Lines -/

theorem BareName.takes_key {name : List Char} (bare : BareName name) (next : isBareKey c = false)
    (last : (skipSpace (c :: rest)).head? ≠ some '.') :
    Takes key (name ++ c :: rest) ⟨[], String.ofList name⟩ (c :: rest) := by
  obtain ⟨first, tail, rfl⟩ := List.exists_cons_of_ne_nil bare.written
  obtain ⟨head_bare, tail_bare⟩ := List.forall_mem_cons.mp (List.all_eq_true.mp bare.bare)
  have taken : Takes keyName (first :: (tail ++ c :: rest)) _ _ := takes_keyName head_bare
  rw [List.takeWhile_append_of_pos tail_bare, List.dropWhile_append_of_pos tail_bare,
    List.takeWhile_cons_of_neg (by simp [next]), List.dropWhile_cons_of_neg (by simp [next]),
    List.append_nil] at taken
  exact Toml.takes_key taken last

theorem statements_eq (cs : List Char) : statements cs =
    match skipLayout cs with
    | [] => some []
    | c :: ds => (statement (c :: ds)).bind fun s =>
      (afterStatement (skipSpace s.rest)).bind fun rest => (statements rest).map (s.value :: ·) := by
  rw [statements]
  split
  · rename_i blank
    rw [blank]
  · rename_i c ds start
    split
    · rename_i failed
      simp only [start, failed, Option.bind_none]
    · rename_i s read
      split
      · rename_i failed
        simp only [start, read, failed, Option.bind_some, Option.bind_none]
      · rename_i rest ended
        simp only [start, read, ended, Option.bind_some]

/-- Layout in front of a statement says nothing. -/
theorem statements_congr (same : skipLayout cs = skipLayout ds) : statements cs = statements ds := by
  rw [statements_eq, same, ← statements_eq]

theorem statements_nil : statements [] = some [] := by
  have blank : skipLayout [] = [] := by simp [skipLayout]
  rw [statements_eq, blank]

theorem statements_of_line {statement : Statement} (start : skipLayout cs = c :: ds)
    (first : Takes Toml.statement (c :: ds) statement rest)
    (ended : afterStatement (skipSpace rest) = some after) :
    statements cs = (statements after).map (statement :: ·) := by
  obtain ⟨r, read, rfl, rfl⟩ := first
  rw [statements_eq, start]
  simp only [read, ended, Option.bind_some]

theorem skipLayout_of_written (written : c ∉ [' ', '\t', '\n', '\r', '#']) :
    skipLayout (c :: cs) = c :: cs := by
  simp only [List.mem_cons, List.not_mem_nil, or_false, not_or] at written
  obtain ⟨space, tab, feed, carriage, sign⟩ := written
  rw [skipLayout] <;> simp_all

theorem BareName.ne_of_mem {name : List Char} (bare : BareName name) (member : c ∈ name) {d : Char}
    (other : isBareKey d = false) : c ≠ d := by
  rintro rfl
  rw [List.all_eq_true.mp bare.bare c member] at other
  cases other

/-- A truth value as it is written. -/
def truthText (b : Bool) : List Char := if b then "true".toList else "false".toList

theorem valueWord_truthText (b : Bool) : ValueWord (truthText b) (.boolean b) := by
  cases b with
  | true => exact ⟨⟨'t', _, rfl, by decide⟩, by decide, by decide, rfl⟩
  | false => exact ⟨⟨'f', _, rfl, by decide⟩, by decide, by decide, rfl⟩

theorem statements_header_line {name : List Char} (bare : BareName name) (rest : List Char) :
    statements ('[' :: (name ++ ']' :: '\n' :: rest)) =
      (statements rest).map (.openTable ⟨[], String.ofList name⟩ :: ·) := by
  have named : Takes key (name ++ ']' :: '\n' :: rest) ⟨[], String.ofList name⟩
      (']' :: '\n' :: rest) := bare.takes_key (by decide) (by simp [skipSpace, isSpace])
  obtain ⟨first, tail, rfl⟩ := List.exists_cons_of_ne_nil bare.written
  have unspaced : skipSpace (first :: tail ++ ']' :: '\n' :: rest) =
      first :: tail ++ ']' :: '\n' :: rest := by
    have noSpace := bare.ne_of_mem List.mem_cons_self (d := ' ') (by decide)
    have noTab := bare.ne_of_mem List.mem_cons_self (d := '\t') (by decide)
    simp [skipSpace, isSpace, noSpace, noTab]
  have single : (first :: tail ++ ']' :: '\n' :: rest).head? ≠ some '[' := by
    have noBracket := bare.ne_of_mem List.mem_cons_self (d := '[') (by decide)
    simp [noBracket]
  have closed : skipSpace (']' :: '\n' :: rest) = ']' :: '\n' :: rest := by
    simp [skipSpace, isSpace]
  rw [← unspaced] at named
  have header := takes_statement_header single (takes_header named closed)
  exact statements_of_line (skipLayout_of_written (by decide)) header rfl

/-- A pair on a line of its own, with spaces around the equals sign. -/
theorem statements_pair_line {name written : List Char} (bare : BareName name)
    (unspaced : skipSpace (written ++ '\n' :: rest) = written ++ '\n' :: rest)
    (taken : Takes (value depthLimit) (written ++ '\n' :: rest) item ('\n' :: rest)) :
    statements (name ++ ' ' :: '=' :: ' ' :: (written ++ '\n' :: rest)) =
      (statements rest).map (.assign ⟨[], String.ofList name⟩ item :: ·) := by
  have named : Takes key (name ++ ' ' :: '=' :: ' ' :: (written ++ '\n' :: rest))
      ⟨[], String.ofList name⟩ (' ' :: '=' :: ' ' :: (written ++ '\n' :: rest)) :=
    bare.takes_key (by decide) (by simp [skipSpace, isSpace])
  have behind : skipSpace (' ' :: (written ++ '\n' :: rest)) = written ++ '\n' :: rest := unspaced
  rw [← behind] at taken
  have assigned := takes_assignment named rfl taken
  obtain ⟨first, tail, rfl⟩ := List.exists_cons_of_ne_nil bare.written
  have visible : first ∉ [' ', '\t', '\n', '\r', '#'] := by
    intro member
    have layout : [' ', '\t', '\n', '\r', '#'].all (!isBareKey ·) = true := by decide
    have mark := List.all_eq_true.mp layout first member
    exact bare.ne_of_mem List.mem_cons_self (by simpa using mark) rfl
  have noHeader := bare.ne_of_mem List.mem_cons_self (d := '[') (by decide)
  exact statements_of_line (skipLayout_of_written visible)
    (takes_statement_assignment noHeader assigned) rfl

theorem statements_truth_line {name : List Char} (bare : BareName name) (b : Bool)
    (rest : List Char) :
    statements (name ++ ' ' :: '=' :: ' ' :: (truthText b ++ '\n' :: rest)) =
      (statements rest).map (.assign ⟨[], String.ofList name⟩ (.boolean b) :: ·) := by
  have unspaced : skipSpace (truthText b ++ '\n' :: rest) = truthText b ++ '\n' :: rest := by
    cases b <;> rfl
  exact statements_pair_line bare unspaced ((valueWord_truthText b).takes_value rfl _)

theorem statements_text_line {name text : List Char} (bare : BareName name) (plain : PlainText text)
    (rest : List Char) :
    statements (name ++ ' ' :: '=' :: ' ' :: '"' :: (text ++ '"' :: '\n' :: rest)) =
      (statements rest).map (.assign ⟨[], String.ofList name⟩ (.text (String.ofList text)) :: ·) := by
  have quoted : '"' :: (text ++ '"' :: '\n' :: rest) = ('"' :: (text ++ ['"'])) ++ '\n' :: rest := by
    simp
  have taken : Takes (value depthLimit) ('"' :: (text ++ '"' :: '\n' :: rest)) _ _ :=
    plain.takes_value _
  rw [quoted] at taken ⊢
  exact statements_pair_line bare (by simp [skipSpace, isSpace]) taken

theorem read_of_statements {document : String} {statements : List Statement} {progress : Progress}
    (text : withoutMark document.toList = cs) (lines : Toml.statements cs = some statements)
    (built : statements.foldlM Progress.add {} = some progress) :
    read document = some progress.entries := by
  rw [read, text, lines]
  simp only [Option.bind_eq_bind, Option.bind_some, built]
  rfl

end SearchQuery.Toml
