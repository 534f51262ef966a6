import SearchQuery.Json
import SearchQuery.Proofs.QuotedText

/-!
# Reading JSON text

A JSON text is cut into its pieces, between which there may be any white space: strings, and the six
marks that set off lists, records, items and fields. The pieces are then put together with one open
list or record for each level. In a string a backslash stands in front of a letter or of four
hexadecimal digits; two numbers of which neither alone is a character can make one together. Of the
values that JSON has, those without numbers, truth values and nulls are read. What is written is read
back, with any white space behind it.
-/
namespace SearchQuery.Json
open Text

/-! ### Strings -/

/-- The character that a letter behind a backslash stands for. -/
def letter? : Char → Option Char
  | '"' => some '"'
  | '\\' => some '\\'
  | '/' => some '/'
  | 'b' => some '\x08'
  | 'f' => some '\x0c'
  | 'n' => some '\n'
  | 'r' => some '\r'
  | 't' => some '\t'
  | _ => none

/-- The numbers in a string whose opening quote was read, and the text behind the closing one. -/
def content : List Char → Option (List Nat × List Char)
  | [] => none
  | '"' :: rest => some ([], rest)
  | '\\' :: 'u' :: a :: b :: c :: d :: cs => do
    let number ← Hex.ofDigits? [a, b, c, d]
    (content cs).map fun (numbers, rest) => (number :: numbers, rest)
  | '\\' :: c :: cs => do
    let letter ← letter? c
    (content cs).map fun (numbers, rest) => (letter.toNat :: numbers, rest)
  | c :: cs =>
    if c < ' ' ∨ c = '\\' then none
    else (content cs).map fun (numbers, rest) => (c.toNat :: numbers, rest)

/-- Two numbers that make a character together, the first of which has its upper half. -/
def isPair (upper lower : Nat) : Bool :=
  0xD800 ≤ upper && upper < 0xDC00 && 0xDC00 ≤ lower && lower < 0xE000

/-- The characters that numbers make, one each or one for a pair. -/
def characters? : List Nat → Option (List Char)
  | [] => some []
  | n :: ns =>
    if n.isValidChar then (characters? ns).map (Char.ofNat n :: ·)
    else match ns with
      | [] => none
      | lower :: ns =>
        if isPair n lower then
          (characters? ns).map (Char.ofNat (0x10000 + 0x400 * (n - 0xD800) + (lower - 0xDC00)) :: ·)
        else none

/-- A number in front does not change where the text goes on. -/
theorem exists_of_prefixed {read? : Option (List Nat × List Char)} {number : Nat}
    {numbers : List Nat} {rest : List Char}
    (prefixed : (read?.map fun (numbers, rest) => (number :: numbers, rest)) =
      some (numbers, rest)) : ∃ others, read? = some (others, rest) := by
  obtain ⟨⟨others, behind⟩, read, same⟩ := Option.map_eq_some_iff.mp prefixed
  cases same
  exact ⟨others, read⟩

theorem length_content {cs rest : List Char} {numbers : List Nat}
    (read : content cs = some (numbers, rest)) : rest.length < cs.length := by
  fun_induction content cs generalizing numbers rest with
  | case1 => cases read
  | case2 =>
    cases read
    exact Nat.lt_succ_self _
  | case3 a b c d cs ih =>
    obtain ⟨number, -, read⟩ := Option.bind_eq_some_iff.mp read
    obtain ⟨_, others⟩ := exists_of_prefixed read
    have shorter := ih others
    simp only [List.length_cons]
    omega
  | case4 c cs _ ih =>
    obtain ⟨letter, -, read⟩ := Option.bind_eq_some_iff.mp read
    obtain ⟨_, others⟩ := exists_of_prefixed read
    exact Nat.lt_trans (ih others) (Nat.lt_add_of_pos_right Nat.two_pos)
  | case5 => cases read
  | case6 c cs _ _ _ _ ih =>
    obtain ⟨_, others⟩ := exists_of_prefixed read
    exact Nat.lt_succ_of_lt (ih others)

theorem content_end (rest : List Char) : content ('"' :: rest) = some ([], rest) := by
  rw [content]

theorem content_letter {letter c : Char} (stands : letter? letter = some c) (rest : List Char) :
    content ('\\' :: letter :: rest) =
      (content rest).map fun (numbers, behind) => (c.toNat :: numbers, behind) := by
  have noNumber : letter ≠ 'u' := by
    rintro rfl
    cases stands
  simp [content, noNumber, stands]

theorem content_plain {c : Char} (noQuote : c ≠ '"') (noEscape : c ≠ '\\') (visible : ¬ c < ' ')
    (rest : List Char) : content (c :: rest) =
      (content rest).map fun (numbers, behind) => (c.toNat :: numbers, behind) := by
  have plain : ¬ (c < ' ' ∨ c = '\\') := not_or.mpr ⟨visible, noEscape⟩
  rw [content, if_neg plain]
  · exact noQuote
  · exact fun _ _ _ _ _ escaped _ => noEscape escaped
  · exact fun _ _ escaped _ => noEscape escaped

theorem toNat_lt_of_lt_space {c : Char} (control : c < ' ') : c.toNat < 32 := control

theorem ofDigits?_control {c : Char} (control : c < ' ') :
    Hex.ofDigits? ['0', '0', Hex.digit (c.toNat / 16), Hex.digit (c.toNat % 16)] =
      some c.toNat := by
  have small := toNat_lt_of_lt_space control
  have upper : Hex.value? (Hex.digit (c.toNat / 16)) = some (c.toNat / 16) :=
    Hex.value?_digit (by omega)
  have lower : Hex.value? (Hex.digit (c.toNat % 16)) = some (c.toNat % 16) :=
    Hex.value?_digit (by omega)
  have zero : Hex.value? '0' = some 0 := by decide
  simp [Hex.ofDigits?, zero, upper, lower]
  omega

theorem content_control {c : Char} (control : c < ' ') (rest : List Char) :
    content (controlEscape c ++ rest) =
      (content rest).map fun (numbers, behind) => (c.toNat :: numbers, behind) := by
  have number := ofDigits?_control control
  simp [controlEscape, content, number]

/-- What is written for a character: a letter that stands for it, its number, or the character. -/
theorem escape_cases (c : Char) :
    (∃ letter, letter? letter = some c ∧ escape c = ['\\', letter]) ∨
      (c < ' ' ∧ escape c = controlEscape c) ∨
      (escape c = [c] ∧ c ≠ '"' ∧ c ≠ '\\' ∧ ¬ c < ' ') := by
  by_cases escaped : c = '"' ∨ c = '\\'
  · rcases escaped with rfl | rfl
    · exact .inl ⟨'"', rfl, rfl⟩
    · exact .inl ⟨'\\', rfl, rfl⟩
  by_cases backspace : c = '\x08'
  · exact .inl ⟨'b', by rw [backspace]; rfl, by rw [backspace]; rfl⟩
  by_cases tab : c = '\t'
  · exact .inl ⟨'t', by rw [tab]; rfl, by rw [tab]; rfl⟩
  by_cases feed : c = '\n'
  · exact .inl ⟨'n', by rw [feed]; rfl, by rw [feed]; rfl⟩
  by_cases page : c = '\x0c'
  · exact .inl ⟨'f', by rw [page]; rfl, by rw [page]; rfl⟩
  by_cases carriage : c = '\r'
  · exact .inl ⟨'r', by rw [carriage]; rfl, by rw [carriage]; rfl⟩
  rw [escape, if_neg escaped, if_neg backspace, if_neg tab, if_neg feed, if_neg page,
    if_neg carriage]
  by_cases control : c < ' '
  · exact .inr (.inl ⟨control, if_pos control⟩)
  · exact .inr (.inr ⟨if_neg control, (not_or.mp escaped).1, (not_or.mp escaped).2, control⟩)

theorem content_escape (c : Char) (rest : List Char) :
    content (escape c ++ rest) =
      (content rest).map fun (numbers, behind) => (c.toNat :: numbers, behind) := by
  rcases escape_cases c with ⟨letter, stands, written⟩ | ⟨control, written⟩ |
    ⟨written, noQuote, noEscape, visible⟩
  · rw [written]
    exact content_letter stands rest
  · rw [written]
    exact content_control control rest
  · rw [written]
    exact content_plain noQuote noEscape visible rest

theorem content_escaped (cs rest : List Char) :
    content (cs.flatMap escape ++ '"' :: rest) = some (cs.map Char.toNat, rest) := by
  induction cs with
  | nil => exact content_end rest
  | cons c cs ih =>
    rw [List.flatMap_cons, List.append_assoc, content_escape, ih]
    rfl

theorem characters?_toNat (cs : List Char) : characters? (cs.map Char.toNat) = some cs := by
  induction cs with
  | nil => rfl
  | cons c cs ih =>
    have valid : c.toNat.isValidChar := c.valid
    rw [List.map_cons, characters?.eq_def]
    simp only [if_pos valid, ih, Char.ofNat_toNat, Option.map_some]

/-! ### Pieces -/

inductive Piece where
  | openList | closeList | openRecord | closeRecord
  | comma | colon
  | string (text : String)
  deriving DecidableEq, Repr

def mark? : Char → Option Piece
  | '[' => some .openList
  | ']' => some .closeList
  | '\x7b' => some .openRecord
  | '\x7d' => some .closeRecord
  | ',' => some .comma
  | ':' => some .colon
  | _ => none

def isSpace (c : Char) : Bool := c = ' ' || c = '\n' || c = '\t' || c = '\r'

/-- The pieces of a text; white space between them says nothing. -/
def pieces (cs : List Char) : Option (List Piece) :=
  match cs with
  | [] => some []
  | c :: cs =>
    if isSpace c then pieces cs
    else if c = '"' then
      match h : content cs with
      | none => none
      | some (numbers, rest) => do
        have := length_content h
        let text ← characters? numbers
        (pieces rest).map (.string (String.ofList text) :: ·)
    else do
      let mark ← mark? c
      (pieces cs).map (mark :: ·)
termination_by cs.length

/-! ### Values -/

/-- A list or a record that is not closed yet, with what stands in it before the next value. -/
inductive Unclosed where
  | list (items : List Json)
  | record (fields : List (String × Json)) (name : String)

mutual

/-- The value that the pieces write, with the lists and records that are open around it, from where a
value has to start. -/
def start (opened : List Unclosed) : List Piece → Option Json
  | .string text :: ps => proceed opened (.string text) ps
  | .openList :: .closeList :: ps => proceed opened (.list []) ps
  | .openList :: ps => start (.list [] :: opened) ps
  | .openRecord :: .closeRecord :: ps => proceed opened (.record []) ps
  | .openRecord :: ps => startField opened [] ps
  | _ => none

/-- The same from where a field has to start, behind those of the innermost record that were read. -/
def startField (opened : List Unclosed) (fields : List (String × Json)) :
    List Piece → Option Json
  | .string name :: .colon :: ps => start (.record fields name :: opened) ps
  | _ => none

/-- The same from behind a value that was read. -/
def proceed (opened : List Unclosed) (value : Json) (ps : List Piece) : Option Json :=
  match opened, ps with
  | [], [] => some value
  | .list items :: opened, .comma :: ps => start (.list (items ++ [value]) :: opened) ps
  | .list items :: opened, .closeList :: ps => proceed opened (.list (items ++ [value])) ps
  | .record fields name :: opened, .comma :: ps =>
    startField opened (fields ++ [(name, value)]) ps
  | .record fields name :: opened, .closeRecord :: ps =>
    proceed opened (.record (fields ++ [(name, value)])) ps
  | _, _ => none

end

/-- The value that a text writes. -/
def ofText? (text : String) : Option Json := do
  start [] (← pieces text.toList)

mutual

/-- The pieces that a value is written with. -/
def written : Json → List Piece
  | string text => [.string text]
  | list items => .openList :: (writtenItems items ++ [.closeList])
  | record fields => .openRecord :: (writtenFields fields ++ [.closeRecord])

def writtenItems : List Json → List Piece
  | [] => []
  | [item] => written item
  | item :: items => written item ++ .comma :: writtenItems items

def writtenFields : List (String × Json) → List Piece
  | [] => []
  | [(name, value)] => .string name :: .colon :: written value
  | (name, value) :: fields =>
    .string name :: .colon :: written value ++ .comma :: writtenFields fields

end

/-! ### From a text to its pieces -/

/-- Whatever follows, the text is cut into these pieces in front of it. -/
def Cuts (text : String) (ps : List Piece) : Prop :=
  ∀ rest, pieces (text.toList ++ rest) = (pieces rest).map (ps ++ ·)

theorem pieces_nil : pieces [] = some [] := by
  rw [pieces]

theorem mark?_of_isSpace {c : Char} (space : isSpace c = true) : mark? c = none := by
  simp only [isSpace, Bool.or_eq_true, decide_eq_true_eq] at space
  rcases space with ((rfl | rfl) | rfl) | rfl <;> rfl

theorem pieces_space {c : Char} (space : isSpace c = true) (rest : List Char) :
    pieces (c :: rest) = pieces rest := by
  rw [pieces, if_pos space]

theorem pieces_mark {c : Char} {mark : Piece} (stands : mark? c = some mark) (rest : List Char) :
    pieces (c :: rest) = (pieces rest).map (mark :: ·) := by
  have noSpace : ¬ isSpace c = true := by
    intro space
    cases stands.symm.trans (mark?_of_isSpace space)
  have noQuote : c ≠ '"' := by
    rintro rfl
    cases stands
  rw [pieces, if_neg noSpace, if_neg noQuote, stands]
  rfl

theorem Cuts.append {text more : String} {ps qs : List Piece} (first : Cuts text ps)
    (second : Cuts more qs) : Cuts (text ++ more) (ps ++ qs) := by
  intro rest
  rw [String.toList_append, List.append_assoc, first, second, Option.map_map]
  simp [Function.comp_def]

/-- Marks are pieces, and white space is none. -/
theorem cuts_marks {text : String}
    (all : text.toList.all (fun c => isSpace c || (mark? c).isSome) = true) :
    Cuts text (text.toList.filterMap mark?) := by
  intro rest
  generalize text.toList = cs at all ⊢
  induction cs with
  | nil => simp
  | cons c cs ih =>
    rw [List.all_cons, Bool.and_eq_true, Bool.or_eq_true] at all
    obtain ⟨first, others⟩ := all
    rw [List.cons_append]
    rcases first with space | mark
    · rw [pieces_space space, ih others, List.filterMap_cons_none (mark?_of_isSpace space)]
    · obtain ⟨piece, stands⟩ := Option.isSome_iff_exists.mp mark
      rw [pieces_mark stands, ih others, List.filterMap_cons_some stands, Option.map_map]
      rfl

theorem cuts_spaces {text : String} (blank : text.toList.all isSpace = true) :
    Cuts text [] := by
  rw [List.all_eq_true] at blank
  have all : text.toList.all (fun c => isSpace c || (mark? c).isSome) = true :=
    List.all_eq_true.mpr fun c member => by rw [blank c member, Bool.true_or]
  have cuts := cuts_marks all
  rwa [List.filterMap_eq_nil_iff.mpr fun c member => mark?_of_isSpace (blank c member)] at cuts

theorem cuts_indent (depth : Nat) : Cuts (indent depth) [] := by
  apply cuts_spaces
  rw [indent, String.toList_ofList, List.all_replicate]
  simp [isSpace]

theorem cuts_quoted (text : String) : Cuts (quoted text) [.string text] := by
  intro rest
  have read := content_escaped text.toList rest
  rw [quoted, String.toList_ofList, List.cons_append, List.cons_append, List.append_assoc,
    List.singleton_append, pieces, if_neg (by decide), if_pos rfl]
  split
  · rename_i failed
    cases failed.symm.trans read
  · rename_i found
    cases found.symm.trans read
    simp only [characters?_toNat, Option.bind_eq_bind, Option.bind_some, String.ofList_toList]
    rfl

/-- A list or a record, with its marks around lines of their own. -/
theorem cuts_between {opening closing inside : String} {p q : Piece} {ps : List Piece}
    (opens : Cuts opening [p]) (cuts : Cuts inside ps) (closes : Cuts closing [q]) (depth : Nat) :
    Cuts (opening ++ inside ++ "\n" ++ indent depth ++ closing) (p :: (ps ++ [q])) := by
  have lineEnd : Cuts "\n" [] := cuts_marks (by decide)
  have whole := (((opens.append cuts).append lineEnd).append (cuts_indent depth)).append closes
  simpa only [List.append_nil, List.singleton_append, List.cons_append, List.nil_append] using whole

mutual

theorem cuts_render (value : Json) (depth : Nat) : Cuts (value.render depth) (written value) := by
  cases value with
  | string text =>
    rw [render, written]
    exact cuts_quoted text
  | list items =>
    have inside := cuts_renderItems items (depth + 1)
    rw [written]
    cases items with
    | nil =>
      rw [render]
      exact cuts_marks (by decide)
    | cons item items =>
      rw [render]
      · exact cuts_between (cuts_marks (by decide)) inside (cuts_marks (by decide)) depth
      · simp
  | record fields =>
    have inside := cuts_renderFields fields (depth + 1)
    rw [written]
    cases fields with
    | nil =>
      rw [render]
      exact cuts_marks (by decide)
    | cons field fields =>
      rw [render]
      · exact cuts_between (cuts_marks (by decide)) inside (cuts_marks (by decide)) depth
      · simp

theorem cuts_renderItems (items : List Json) (depth : Nat) :
    Cuts (renderItems depth items) (writtenItems items) := by
  match items with
  | [] =>
    rw [renderItems, writtenItems]
    exact cuts_marks (by decide)
  | [item] => exact (cuts_indent depth).append (cuts_render item depth)
  | item :: next :: items =>
    have comma : Cuts ",\n" [.comma] := cuts_marks (by decide)
    have first := (cuts_indent depth).append (cuts_render item depth)
    have whole := (first.append comma).append (cuts_renderItems (next :: items) depth)
    rw [renderItems, writtenItems]
    · simpa only [List.nil_append, List.append_assoc, List.singleton_append] using whole
    · simp
    · simp

theorem cuts_renderFields (fields : List (String × Json)) (depth : Nat) :
    Cuts (renderFields depth fields) (writtenFields fields) := by
  have colon : Cuts ": " [.colon] := cuts_marks (by decide)
  match fields with
  | [] =>
    rw [renderFields, writtenFields]
    exact cuts_marks (by decide)
  | [(name, value)] =>
    exact (((cuts_indent depth).append (cuts_quoted name)).append colon).append
      (cuts_render value depth)
  | (name, value) :: next :: fields =>
    have comma : Cuts ",\n" [.comma] := cuts_marks (by decide)
    have first := (((cuts_indent depth).append (cuts_quoted name)).append colon).append
      (cuts_render value depth)
    have whole := (first.append comma).append (cuts_renderFields (next :: fields) depth)
    rw [renderFields, writtenFields]
    · simpa only [List.nil_append, List.append_assoc, List.singleton_append, List.cons_append]
        using whole
    · simp
    · simp

end

/-! ### From the pieces to the value -/

theorem exists_written (value : Json) : ∃ p ps, written value = p :: ps ∧ p ≠ .closeList := by
  cases value with
  | string | list | record => exact ⟨_, _, by rw [written], by simp⟩

theorem exists_writtenItems {items : List Json} (nonempty : items ≠ []) :
    ∃ p ps, writtenItems items = p :: ps ∧ p ≠ .closeList := by
  match items with
  | [item] => exact exists_written item
  | item :: next :: items =>
    obtain ⟨p, ps, starts, notClosed⟩ := exists_written item
    refine ⟨p, ps ++ .comma :: writtenItems (next :: items), ?_, notClosed⟩
    rw [writtenItems, starts]
    · rfl
    · simp

theorem start_list {items : List Json} (nonempty : items ≠ []) (opened : List Unclosed)
    (ps : List Piece) : start opened (.openList :: (writtenItems items ++ ps)) =
      start (.list [] :: opened) (writtenItems items ++ ps) := by
  obtain ⟨p, front, starts, notClosed⟩ := exists_writtenItems nonempty
  rw [starts, List.cons_append, start]
  simp [notClosed]

theorem start_record {fields : List (String × Json)} (nonempty : fields ≠ [])
    (opened : List Unclosed) (ps : List Piece) :
    start opened (.openRecord :: (writtenFields fields ++ ps)) =
      startField opened [] (writtenFields fields ++ ps) := by
  match fields with
  | [(name, value)] =>
    rw [writtenFields, List.cons_append, start]
    simp
  | (name, value) :: next :: fields =>
    rw [writtenFields, List.cons_append, List.cons_append, start]
    · simp
    · simp

mutual

theorem start_written (value : Json) (opened : List Unclosed) (ps : List Piece) :
    start opened (written value ++ ps) = proceed opened value ps := by
  cases value with
  | string text => rw [written, List.singleton_append, start]
  | list items =>
    rw [written, List.cons_append, List.append_assoc]
    cases items with
    | nil => rw [writtenItems, List.nil_append, List.singleton_append, start]
    | cons item items =>
      rw [start_list (List.cons_ne_nil item items)]
      exact start_items (item :: items) (List.cons_ne_nil item items) [] opened ps
  | record fields =>
    rw [written, List.cons_append, List.append_assoc]
    cases fields with
    | nil => rw [writtenFields, List.nil_append, List.singleton_append, start]
    | cons field fields =>
      rw [start_record (List.cons_ne_nil field fields)]
      exact startField_fields (field :: fields) (List.cons_ne_nil field fields) [] opened ps

theorem start_items (items : List Json) (nonempty : items ≠ []) (before : List Json)
    (opened : List Unclosed) (ps : List Piece) :
    start (.list before :: opened) (writtenItems items ++ .closeList :: ps) =
      proceed opened (.list (before ++ items)) ps := by
  match items with
  | [item] => rw [writtenItems, start_written item, proceed]
  | item :: next :: items =>
    have others := start_items (next :: items) (List.cons_ne_nil next items) (before ++ [item])
      opened ps
    rw [writtenItems, List.append_assoc, start_written item, List.cons_append, proceed, others,
      ← List.append_cons]
    simp

theorem startField_fields (fields : List (String × Json)) (nonempty : fields ≠ [])
    (before : List (String × Json)) (opened : List Unclosed) (ps : List Piece) :
    startField opened before (writtenFields fields ++ .closeRecord :: ps) =
      proceed opened (.record (before ++ fields)) ps := by
  match fields with
  | [(name, value)] =>
    rw [writtenFields, List.cons_append, List.cons_append, startField, start_written value, proceed]
  | (name, value) :: next :: fields =>
    have others := startField_fields (next :: fields) (List.cons_ne_nil next fields)
      (before ++ [(name, value)]) opened ps
    rw [writtenFields, List.append_assoc, List.cons_append, List.cons_append, startField,
      start_written value, List.cons_append, proceed, others, ← List.append_cons]
    simp

end

/-- The text of a value is read as that value, also if white space stands behind it. -/
theorem ofText?_text (value : Json) {spaces : String}
    (blank : spaces.toList.all isSpace = true) :
    ofText? (value.text ++ spaces) = some value := by
  have cut := (cuts_render value 0).append (cuts_spaces blank) []
  have read := start_written value [] []
  rw [List.append_nil, pieces_nil, Option.map_some, List.append_nil, List.append_nil] at cut
  rw [List.append_nil, proceed] at read
  rw [ofText?, text, cut]
  exact read

end SearchQuery.Json
