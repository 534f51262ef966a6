import SearchQuery.Proofs.Lexemes

/-!
# Spelling

Any literal is written between quotes, with a backslash before every quote and backslash in it. An
operator is written by a marker, by one of its symbols, or by one of its keywords in any case. A
literal is read back whatever follows it; an operator is read back in front of a blank, which can
neither make a symbol a pair nor go on a word.
-/
namespace SearchQuery.Token

/-- A character of a literal as it is written between quotes. -/
def Quoted.ofChar (c : Char) : Quoted :=
  if noQuote : c = '"' then .escaped c
  else if noBackslash : c = '\\' then .escaped c
  else .plain c noQuote noBackslash

theorem Quoted.char_ofChar (c : Char) : (ofChar c).char = c := by
  unfold ofChar
  split_ifs <;> rfl

/-- A literal between quotes. -/
def quote (literal : String) : List Char :=
  '"' :: (literal.toList.flatMap fun c => if c = '"' ∨ c = '\\' then ['\\', c] else [c]) ++ ['"']

theorem quote_eq_text (literal : String) :
    quote literal = (Lexeme.quotation (literal.toList.map Quoted.ofChar) .quote).text := by
  have escapes : ∀ c, (Quoted.ofChar c).text = if c = '"' ∨ c = '\\' then ['\\', c] else [c] := by
    intro c
    unfold Quoted.ofChar
    split_ifs <;> simp_all [Quoted.text]
  simp only [quote, Lexeme.text, List.flatMap_map, escapes]
  rfl

theorem scan_quote (text : String) (rest : List Char) :
    scan (quote text ++ rest) = literal text :: scan rest := by
  have stands := Lexeme.Stands.quotation (text.toList.map Quoted.ofChar) (.inl rfl : _ ∨ rest = [])
  rw [quote_eq_text, scan_lexeme stands]
  have content : (text.toList.map Quoted.ofChar).map Quoted.char = text.toList := by
    have same : Quoted.char ∘ Quoted.ofChar = id := funext Quoted.char_ofChar
    rw [List.map_map, same, List.map_id]
  rw [Lexeme.token, content, String.ofList_toList]

/-- Blanks that keep what stands before them apart from what stands behind them. -/
structure Gap (gap : List Char) : Prop where
  blank : Blank gap
  ne_nil : gap ≠ []

end SearchQuery.Token

namespace SearchQuery.Operator
open Token

/-- The ways to write an operator. -/
inductive Spelled : Operator → List Char → Prop
  | marker (mark : Mark) : Spelled mark.operator [mark.char]
  | symbol {op : Operator} {written : List Char} (writes : written ∈ op.symbols) : Spelled op written
  | keyword {op : Operator} {word : List Char} (writes : op.isKeyword word = true) : Spelled op word

theorem exists_spelled (op : Operator) : ∃ written, op.Spelled written := by
  cases op with
  | lparen => exact ⟨_, .marker .opening⟩
  | rparen => exact ⟨_, .marker .closing⟩
  | comma => exact ⟨_, .marker .comma⟩
  | null => exact ⟨"null?".toList, .keyword (by decide)⟩
  | notNull => exact ⟨"has".toList, .keyword (by decide)⟩
  | _ => exact ⟨_, .symbol List.mem_cons_self⟩

theorem inWord_of_toLower {c : Char} (inside : Lexeme.InWord c.toLower) :
    Lexeme.InWord c := by
  unfold Char.toLower at inside
  split at inside
  · rename_i capital
    have low : 65 ≤ c.toNat := capital.1
    have high : c.toNat ≤ 90 := capital.2
    constructor
    · simp [Text.isBlank, Text.blanks, Text.Ranges.covers]
      omega
    · intro member
      simp only [List.mem_cons, List.not_mem_nil, or_false] at member
      rcases member with rfl | rfl | rfl | rfl | rfl | rfl | rfl | rfl | rfl | rfl | rfl <;>
        revert low high <;> decide
  · exact inside

theorem keywords_inside {op : Operator} {keyword : String} (member : keyword ∈ op.keywords) :
    ∃ c cs, keyword.toList = c :: cs ∧ (Lexeme.InWord c ∧ c ≠ '-') ∧
      cs.all (decide <| Lexeme.InWord ·) = true := by
  cases op <;> simp only [keywords, List.mem_cons, List.not_mem_nil, or_false] at member
  all_goals
    rcases member with rfl | rfl <;> exact ⟨_, _, rfl, by decide, by decide⟩

/-- A keyword, in any case, is a word. -/
theorem keyword_inside {op : Operator} {word : List Char} (writes : op.isKeyword word = true) :
    ∃ c cs, word = c :: cs ∧ (Lexeme.InWord c ∧ c ≠ '-') ∧ ∀ d ∈ cs, Lexeme.InWord d := by
  have member : String.ofList (word.map Char.toLower) ∈ op.keywords := List.contains_iff_mem.mp writes
  obtain ⟨c', cs', lower, starts, inside⟩ := keywords_inside member
  rw [String.toList_ofList] at lower
  obtain ⟨c, cs, rfl, rfl, rfl⟩ := List.map_eq_cons_iff.mp lower
  refine ⟨c, cs, rfl, ⟨inWord_of_toLower starts.1, ?_⟩, ?_⟩
  · rintro rfl
    exact starts.2 rfl
  · intro d belongs
    have lower := List.all_eq_true.mp inside _ (List.mem_map_of_mem belongs)
    exact inWord_of_toLower (of_decide_eq_true lower)

theorem token_of_keyword {op : Operator} {word : List Char} (writes : op.isKeyword word = true) :
    (Lexeme.word word).token = .operator op := by
  have known := ofKeyword?_eq_some_iff.mpr writes
  rw [ofKeyword?_eq_find?] at known
  rw [Lexeme.token, known]

theorem single_or_pair {op : Operator} {written : List Char} (writes : written ∈ op.symbols) :
    (∃ c, written = [c]) ∨ ∃ c d, written = [c, d] := by
  cases op <;> simp only [symbols, List.mem_cons, List.not_mem_nil, or_false] at writes
  all_goals
    rcases writes with rfl | rfl <;> first | exact .inl ⟨_, rfl⟩ | exact .inr ⟨_, _, rfl⟩

theorem notBlank_of_pair {op : Operator} {c d : Char} (writes : [c, d] ∈ op.symbols) :
    Text.isBlank d = false := by
  have known := ofSymbol?_eq_some_iff.mpr writes
  unfold ofSymbol? at known
  split at known <;> simp_all <;> decide

theorem not_inWord_of_blank {c : Char} (blank : Text.isBlank c = true) : ¬ Lexeme.InWord c := by
  intro inside
  rw [inside.1] at blank
  cases blank

/-- In front of a blank, or at the end, the spelling of an operator is a lexeme of its own. -/
theorem Spelled.exists_lexeme {op : Operator} {written : List Char} (spelled : op.Spelled written)
    {rest : List Char} (apart : ∀ d ∈ rest.head?, Text.isBlank d = true) :
    ∃ l : Lexeme, l.text = written ∧ l.token = .operator op ∧ l.Stands rest := by
  cases spelled with
  | marker mark => exact ⟨.marker mark, rfl, rfl, .marker mark rest⟩
  | symbol writes =>
    refine ⟨.symbol op written, rfl, rfl, ?_⟩
    rcases single_or_pair writes with ⟨c, rfl⟩ | ⟨c, d, rfl⟩
    · refine .single writes ?_
      intro d first op' pair
      have notBlank := notBlank_of_pair pair
      rw [apart d first] at notBlank
      cases notBlank
    · exact .pair rest writes
  | keyword writes =>
    obtain ⟨c, cs, rfl, starts, inside⟩ := keyword_inside writes
    have ends : ∀ d ∈ rest.head?, ¬ Lexeme.InWord d := fun d first =>
      not_inWord_of_blank (apart d first)
    exact ⟨.word (c :: cs), rfl, token_of_keyword writes, .word starts inside ends⟩

end SearchQuery.Operator

namespace SearchQuery.Token

theorem scan_spelled {op : Operator} {written rest : List Char} (spelled : op.Spelled written)
    (apart : ∀ d ∈ rest.head?, Text.isBlank d = true) :
    scan (written ++ rest) = operator op :: scan rest := by
  obtain ⟨l, rfl, token, stands⟩ := spelled.exists_lexeme apart
  rw [scan_lexeme stands, token]

theorem Gap.apart {gap : List Char} (isGap : Gap gap) (rest : List Char) :
    ∀ d ∈ (gap ++ rest).head?, Text.isBlank d = true := by
  obtain ⟨c, cs, rfl⟩ := List.exists_cons_of_ne_nil isGap.ne_nil
  intro d first
  obtain rfl : c = d := by simpa using first
  exact isGap.blank c List.mem_cons_self

/-- The texts that write tokens one behind the other: a literal between quotes, a marker bare, an
operator with gaps around it. -/
inductive Spells : List Token → List Char → Prop
  | nil : Spells [] []
  | literal {ts : List Token} {cs : List Char} (text : String) (others : Spells ts cs) :
      Spells (literal text :: ts) (quote text ++ cs)
  | marker {ts : List Token} {cs : List Char} (mark : Mark) (others : Spells ts cs) :
      Spells (operator mark.operator :: ts) (mark.char :: cs)
  | operator {ts : List Token} {op : Operator} {before written after cs : List Char}
      (gapBefore : Gap before) (spelled : op.Spelled written) (gapAfter : Gap after)
      (others : Spells ts cs) :
      Spells (operator op :: ts) (before ++ (written ++ (after ++ cs)))

theorem Spells.scan_eq {ts : List Token} {cs : List Char} (spells : Spells ts cs) : scan cs = ts := by
  induction spells with
  | nil => rw [scan]
  | literal text _ ih => rw [scan_quote, ih]
  | @marker ts cs mark _ ih =>
    have stands : scan ((Lexeme.marker mark).text ++ cs) = _ := scan_lexeme (.marker mark cs)
    rw [ih] at stands
    exact stands
  | @operator ts op before written after cs gapBefore spelled gapAfter _ ih =>
    rw [scan_blank gapBefore.blank, scan_spelled spelled (gapAfter.apart cs),
      scan_blank gapAfter.blank, ih]

theorem exists_spells (ts : List Token) : ∃ cs, Spells ts cs := by
  induction ts with
  | nil => exact ⟨[], .nil⟩
  | cons t ts ih =>
    obtain ⟨cs, others⟩ := ih
    have space : Gap [' '] := ⟨List.forall_mem_singleton.mpr rfl, by decide⟩
    cases t with
    | literal text => exact ⟨_, .literal text others⟩
    | operator op =>
      obtain ⟨written, spelled⟩ := op.exists_spelled
      exact ⟨_, .operator space spelled space others⟩

end SearchQuery.Token
