import SearchQuery.Text.Characters
import SearchQuery.Text.Quoted

/-!
# Reading quoted text

A quoted text is read character by character: a backslash stands in front of a letter that names a
control, in front of a quote or a backslash, or in front of a number in braces. What was written is
read back, up to the closing quote and not further. All blanks in a quoted text are spaces, because
no other blank is printable.
-/
namespace SearchQuery.Text

namespace Hex

theorem value?_digit {n : Nat} (small : n < 16) : value? (digit n) = some n := by
  have each : ∀ k : Fin 16, value? (digit k) = some k.val := by decide
  exact each ⟨n, small⟩

theorem exists_digit {n : Nat} {c : Char} (member : c ∈ digits n) : ∃ k < 16, c = digit k := by
  induction n using digits.induct with
  | case1 n small =>
    rw [digits, if_pos small, List.mem_singleton] at member
    exact ⟨n, small, member⟩
  | case2 n large ih =>
    rw [digits, if_neg large, List.mem_append, List.mem_singleton] at member
    rcases member with front | last
    · exact ih front
    · exact ⟨n % 16, Nat.mod_lt n (by decide), last⟩

theorem ofDigits?_concat (cs : List Char) (c : Char) :
    ofDigits? (cs ++ [c]) = (ofDigits? cs).bind fun n => (value? c).map (16 * n + ·) := by
  simp [ofDigits?, List.foldlM_append]

theorem ofDigits?_digits (n : Nat) : ofDigits? (digits n) = some n := by
  induction n using digits.induct with
  | case1 n small =>
    rw [digits, if_pos small]
    simp [ofDigits?, value?_digit small]
  | case2 n large ih =>
    have last : n % 16 < 16 := Nat.mod_lt n (by decide)
    rw [digits, if_neg large, ofDigits?_concat, ih, Option.bind_some, value?_digit last,
      Option.map_some, Nat.div_add_mod]

end Hex

namespace Quoted

/-- The character that a letter behind a backslash stands for. -/
def letter? : Char → Option Char
  | '0' => some '\x00'
  | 't' => some '\t'
  | 'r' => some '\r'
  | 'n' => some '\n'
  | '"' => some '"'
  | '\\' => some '\\'
  | _ => none

/-- The character whose number stands in braces, of which the opening one was read. -/
def numbered? (cs : List Char) : Option (Char × List Char) :=
  match cs.dropWhile (· ≠ '\x7d') with
  | [] => none
  | _ :: rest => do
    let n ← Hex.ofDigits? (cs.takeWhile (· ≠ '\x7d'))
    if n.isValidChar then some (Char.ofNat n, rest) else none

/-- The character at the front of a quoted text, and the text behind it. -/
def character? : List Char → Option (Char × List Char)
  | [] => none
  | '\\' :: 'u' :: '\x7b' :: cs => numbered? cs
  | '\\' :: c :: cs => (letter? c).map (·, cs)
  | ['\\'] => none
  | c :: cs => some (c, cs)

theorem length_numbered? {cs rest : List Char} {c : Char} (read : numbered? cs = some (c, rest)) :
    rest.length < cs.length := by
  have shorter := (List.dropWhile_suffix (l := cs) (· ≠ '\x7d')).length_le
  unfold numbered? at read
  split at read
  · cases read
  · rename_i last behind
    rw [behind, List.length_cons] at shorter
    obtain ⟨n, -, read⟩ := Option.bind_eq_some_iff.mp read
    split at read
    · cases read
      exact shorter
    · cases read

theorem length_character? {cs rest : List Char} {c : Char}
    (read : character? cs = some (c, rest)) : rest.length < cs.length := by
  unfold character? at read
  split at read
  · cases read
  · have shorter := length_numbered? read
    simp only [List.length_cons]
    omega
  · obtain ⟨_, _, same⟩ := Option.map_eq_some_iff.mp read
    cases same
    simp only [List.length_cons]
    omega
  · cases read
  · cases read
    exact Nat.lt_succ_self _

/-- The content of a quoted text whose opening quote was read, and the text behind the closing
one. -/
def content (cs : List Char) : Option (List Char × List Char) :=
  match cs with
  | [] => none
  | '"' :: rest => some ([], rest)
  | c :: cs =>
    match h : character? (c :: cs) with
    | none => none
    | some (d, rest) =>
      have := length_character? h
      (content rest).map fun (text, behind) => (d :: text, behind)
termination_by cs.length
decreasing_by exact length_character? h

theorem length_content {cs text rest : List Char} (read : content cs = some (text, rest)) :
    rest.length < cs.length := by
  unfold content at read
  split at read
  · cases read
  · cases read
    exact Nat.lt_succ_self _
  · split at read
    · cases read
    · rename_i found
      obtain ⟨⟨inner, _⟩, others, same⟩ := Option.map_eq_some_iff.mp read
      cases same
      have shorter := length_character? found
      exact Nat.lt_trans (length_content others) shorter
termination_by cs.length

theorem numbered?_digits (c : Char) (rest : List Char) :
    numbered? (Hex.digits c.toNat ++ '\x7d' :: rest) = some (c, rest) := by
  have inside : ∀ d ∈ Hex.digits c.toNat, decide (d ≠ '\x7d') = true := by
    intro d member
    obtain ⟨k, small, rfl⟩ := Hex.exists_digit member
    have each : ∀ k : Fin 16, decide (Hex.digit k ≠ '\x7d') = true := by decide
    exact each ⟨k, small⟩
  have valid : c.toNat.isValidChar := c.valid
  unfold numbered?
  rw [List.takeWhile_append_of_pos inside, List.dropWhile_append_of_pos inside,
    List.takeWhile_cons_of_neg (by simp), List.dropWhile_cons_of_neg (by simp), List.append_nil]
  simp [Hex.ofDigits?_digits, valid]

theorem character?_byNumber (c : Char) (rest : List Char) :
    character? (byNumber c ++ rest) = some (c, rest) := by
  rw [byNumber, List.append_assoc, List.append_assoc]
  exact numbered?_digits c rest

theorem character?_plain {c : Char} (plain : c ≠ '\\') (rest : List Char) :
    character? (c :: rest) = some (c, rest) := by
  unfold character?
  split <;> simp_all

/-- What is written for a character: a letter that stands for it, its number, or the character. -/
theorem escape_cases (c : Char) :
    (∃ letter, letter? letter = some c ∧ escape c = ['\\', letter]) ∨ escape c = byNumber c ∨
      (escape c = [c] ∧ c ≠ '"' ∧ c ≠ '\\' ∧ isPrintable c = true) := by
  by_cases zero : c = '\x00'
  · exact .inl ⟨'0', by rw [zero]; rfl, by rw [zero]; rfl⟩
  by_cases tab : c = '\t'
  · exact .inl ⟨'t', by rw [tab]; rfl, by rw [tab]; rfl⟩
  by_cases carriage : c = '\r'
  · exact .inl ⟨'r', by rw [carriage]; rfl, by rw [carriage]; rfl⟩
  by_cases feed : c = '\n'
  · exact .inl ⟨'n', by rw [feed]; rfl, by rw [feed]; rfl⟩
  by_cases escaped : c = '"' ∨ c = '\\'
  · rcases escaped with rfl | rfl
    · exact .inl ⟨'"', rfl, rfl⟩
    · exact .inl ⟨'\\', rfl, rfl⟩
  rw [escape, if_neg zero, if_neg tab, if_neg carriage, if_neg feed, if_neg escaped]
  by_cases hidden : (isExtending c || isIgnorable c) = true
  · exact .inr (.inl (if_pos hidden))
  rw [if_neg hidden]
  by_cases printable : isPrintable c = true
  · rw [if_pos printable]
    exact .inr (.inr ⟨rfl, (not_or.mp escaped).1, (not_or.mp escaped).2, printable⟩)
  · exact .inr (.inl (if_neg printable))

theorem letter_mem {letter c : Char} (stands : letter? letter = some c) :
    letter ∈ ['0', 't', 'r', 'n', '"', '\\'] := by
  unfold letter? at stands
  split at stands <;> first | decide | cases stands

theorem character?_letter {letter c : Char} (stands : letter? letter = some c)
    (rest : List Char) : character? ('\\' :: letter :: rest) = some (c, rest) := by
  have noNumber : letter ≠ 'u' := by
    rintro rfl
    cases stands
  simp [character?, noNumber, stands]

/-- What is written for a character is read back as that character, whatever follows. -/
theorem character?_escape (c : Char) (rest : List Char) :
    character? (escape c ++ rest) = some (c, rest) := by
  rcases escape_cases c with ⟨letter, stands, written⟩ | written | ⟨written, -, plain, -⟩
  · rw [written]
    exact character?_letter stands rest
  · rw [written]
    exact character?_byNumber c rest
  · rw [written]
    exact character?_plain plain rest

theorem exists_escape (c : Char) : ∃ d ds, escape c = d :: ds ∧ d ≠ '"' := by
  rcases escape_cases c with ⟨letter, -, written⟩ | written | ⟨written, noQuote, -⟩
  · exact ⟨'\\', [letter], written, by decide⟩
  · exact ⟨'\\', _, written, by decide⟩
  · exact ⟨c, [], written, noQuote⟩

theorem content_end (rest : List Char) : content ('"' :: rest) = some ([], rest) := by
  rw [content]

theorem content_escape (c : Char) (rest : List Char) :
    content (escape c ++ rest) =
      (content rest).map fun (text, behind) => (c :: text, behind) := by
  have read := character?_escape c rest
  obtain ⟨d, ds, written, noQuote⟩ := exists_escape c
  rw [written, List.cons_append] at read ⊢
  rw [content]
  · split
    · rename_i failed
      cases failed.symm.trans read
    · rename_i found
      cases found.symm.trans read
      rfl
  · exact noQuote

theorem content_encode (cs rest : List Char) :
    content (cs.flatMap escape ++ '"' :: rest) = some (cs, rest) := by
  induction cs with
  | nil => exact content_end rest
  | cons c cs ih =>
    rw [List.flatMap_cons, List.append_assoc, content_escape, ih]
    rfl

/-! ### Blanks -/

end Quoted

/-- The numbers of the blanks. -/
def blankNumbers : List Nat := [
  0x9, 0xA, 0xB, 0xC, 0xD, 0x20, 0x85, 0xA0, 0x1680, 0x2000, 0x2001, 0x2002, 0x2003, 0x2004, 0x2005,
  0x2006, 0x2007, 0x2008, 0x2009, 0x200A, 0x2028, 0x2029, 0x202F, 0x205F, 0x3000]

theorem toNat_mem_blankNumbers {c : Char} (blank : isBlank c = true) : c.toNat ∈ blankNumbers := by
  simp [isBlank, blanks, Ranges.covers] at blank
  simp only [blankNumbers, List.mem_cons, List.not_mem_nil, or_false]
  omega

theorem unprintable_of_blank {n : Nat} (member : n ∈ blankNumbers) (other : n ≠ 0x20) :
    unprintable.covers n = true := by
  have each : ∀ n ∈ blankNumbers, n ≠ 0x20 → unprintable.covers n = true := by decide +kernel
  exact each n member other

theorem eq_space_of_printable {c : Char} (printable : isPrintable c = true)
    (blank : isBlank c = true) : c = ' ' := by
  by_cases space : c.toNat = 0x20
  · exact Char.toNat_inj.mp space
  · have hidden := unprintable_of_blank (toNat_mem_blankNumbers blank) space
    rw [isPrintable, hidden] at printable
    cases printable

namespace Quoted

theorem not_blank_byNumber (c : Char) : ∀ d ∈ byNumber c, isBlank d = false := by
  intro d member
  simp only [byNumber, List.mem_append, List.mem_cons, List.not_mem_nil, or_false] at member
  rcases member with ((rfl | rfl | rfl) | digit) | rfl
  · decide
  · decide
  · decide
  · obtain ⟨k, small, rfl⟩ := Hex.exists_digit digit
    have each : ∀ k : Fin 16, isBlank (Hex.digit k) = false := by decide
    exact each ⟨k, small⟩
  · decide

theorem eq_space_of_mem_escape {c d : Char} (member : d ∈ escape c) (blank : isBlank d = true) :
    d = ' ' := by
  rcases escape_cases c with ⟨letter, stands, written⟩ | written | ⟨written, -, -, printable⟩
  · have letters : ['\\', '0', 't', 'r', 'n', '"'].all (!isBlank ·) = true := by decide
    have among := letter_mem stands
    rw [written] at member
    have visible := List.all_eq_true.mp letters d (by grind)
    rw [blank] at visible
    cases visible
  · rw [written] at member
    rw [not_blank_byNumber c d member] at blank
    cases blank
  · rw [written, List.mem_singleton] at member
    rw [member] at blank ⊢
    exact eq_space_of_printable printable blank

theorem eq_space_of_mem_encode {cs : List Char} {d : Char} (member : d ∈ encode cs)
    (blank : isBlank d = true) : d = ' ' := by
  simp only [encode, List.cons_append, List.mem_cons, List.mem_append, List.mem_flatMap,
    List.not_mem_nil, or_false] at member
  rcases member with rfl | ⟨c, -, inside⟩ | rfl
  · cases blank
  · exact eq_space_of_mem_escape inside blank
  · cases blank

end Quoted
end SearchQuery.Text
