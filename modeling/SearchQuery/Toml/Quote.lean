import SearchQuery.Text.Quoted
import SearchQuery.Toml.Read

/-!
# Quoted texts in a document

A text stands between quotes on one line, or between triple quotes on any number of lines. Double
quotes admit escapes, single quotes take every character as it is. Each reader starts behind the
opening quotes. Up to two quotes may stand right before closing triple quotes.
-/
namespace SearchQuery.Toml.Quote

def scalar (digits rest : List Char) : Option (Char × List Char) := do
  let n ← Text.Hex.ofDigits? digits
  if n.isValidChar then some (Char.ofNat n, rest) else none

/-- The character that an escape stands for; its backslash was read. -/
def escape? : List Char → Option (Char × List Char)
  | 'b' :: cs => some ('\x08', cs)
  | 't' :: cs => some ('\t', cs)
  | 'n' :: cs => some ('\n', cs)
  | 'f' :: cs => some ('\x0c', cs)
  | 'r' :: cs => some ('\r', cs)
  | 'e' :: cs => some ('\x1b', cs)
  | '"' :: cs => some ('"', cs)
  | '\\' :: cs => some ('\\', cs)
  | 'x' :: a :: b :: cs => scalar [a, b] cs
  | 'u' :: a :: b :: c :: d :: cs => scalar [a, b, c, d] cs
  | 'U' :: a :: b :: c :: d :: e :: f :: g :: h :: cs => scalar [a, b, c, d, e, f, g, h] cs
  | _ => none

theorem rest_scalar {digits rest cs : List Char} {c : Char}
    (h : scalar digits rest = some (c, cs)) : cs = rest := by
  unfold scalar at h
  cases hn : Text.Hex.ofDigits? digits with
  | none => simp [hn] at h
  | some n =>
    simp only [hn, Option.bind_eq_bind, Option.bind_some] at h
    split at h <;> simp_all

theorem length_escape? {cs rest : List Char} {c : Char} (h : escape? cs = some (c, rest)) :
    rest.length < cs.length := by
  unfold escape? at h
  split at h
  case h_9 | h_10 | h_11 => obtain rfl := rest_scalar h; simp only [List.length_cons]; omega
  case h_12 => simp at h
  all_goals cases h; exact Nat.lt_succ_self _

def escape (cs : List Char) : Option (Read Char cs) :=
  match h : escape? cs with
  | some (c, rest) => some ⟨c, rest, length_escape? h⟩
  | none => none

def single : Reader (List Char)
  | [] => none
  | '\'' :: cs => some ⟨[], cs, Nat.lt_succ_self _⟩
  | c :: cs => if isVisible c then (single cs).map fun r => (r.map (c :: ·)).behind c else none

def double (cs : List Char) : Option (Read (List Char) cs) :=
  match cs with
  | [] => none
  | '"' :: cs => some ⟨[], cs, Nat.lt_succ_self _⟩
  | '\\' :: cs => do
    let e ← escape cs
    let r ← double e.rest
    return ((r.map (e.value :: ·)).lift (Nat.le_of_lt e.shorter)).behind '\\'
  | c :: cs => if isVisible c then (double cs).map fun r => (r.map (c :: ·)).behind c else none
termination_by cs.length
decreasing_by
  · exact Nat.lt_succ_of_lt e.shorter
  · exact Nat.lt_succ_self _

/-- The line end right behind opening triple quotes is no part of the text. -/
def skipLineEnd : List Char → List Char
  | '\n' :: cs => cs
  | '\r' :: '\n' :: cs => cs
  | cs => cs

theorem length_skipLineEnd (cs : List Char) : (skipLineEnd cs).length ≤ cs.length := by
  unfold skipLineEnd
  split
  · exact Nat.le_succ _
  · exact Nat.le_succ_of_le (Nat.le_succ _)
  · exact Nat.le_refl _

def skipLines : List Char → List Char
  | ' ' :: cs => skipLines cs
  | '\t' :: cs => skipLines cs
  | '\n' :: cs => skipLines cs
  | '\r' :: '\n' :: cs => skipLines cs
  | cs => cs

theorem length_skipLines (cs : List Char) : (skipLines cs).length ≤ cs.length := by
  fun_induction skipLines cs with
  | case1 _ ih | case2 _ ih | case3 _ ih => exact Nat.le_succ_of_le ih
  | case4 _ ih => exact Nat.le_succ_of_le (Nat.le_succ_of_le ih)
  | case5 => exact Nat.le_refl _

/-- What follows a backslash at the end of a line: all spaces and line ends are skipped. -/
def continued? (cs : List Char) : Option (List Char) :=
  match skipSpace cs with
  | '\n' :: ds => some (skipLines ds)
  | '\r' :: '\n' :: ds => some (skipLines ds)
  | _ => none

theorem length_continued? {cs rest : List Char} (h : continued? cs = some rest) :
    rest.length < cs.length := by
  have hs := length_skipSpace cs
  unfold continued? at h
  split at h
  · rename_i ds hd
    have := length_skipLines ds
    simp only [hd, List.length_cons, Option.some.injEq] at hs h
    subst h
    omega
  · rename_i ds hd
    have := length_skipLines ds
    simp only [hd, List.length_cons, Option.some.injEq] at hs h
    subst h
    omega
  · simp at h

/-- Three to five quotes `q`: the last three of them close a text, the others belong to it. -/
def closing? (q : Char) (cs : List Char) : Option (Read (List Char) cs) :=
  let quotes := min 5 (cs.takeWhile (· = q)).length
  if h : 3 ≤ quotes then
    some ⟨List.replicate (quotes - 3) q, cs.drop quotes, by
      have : quotes ≤ (cs.takeWhile (· = q)).length := Nat.min_le_right _ _
      have := (List.takeWhile_prefix (l := cs) (· = q)).length_le
      rw [List.length_drop]
      omega⟩
  else none

def tripleSingle (cs : List Char) : Option (Read (List Char) cs) :=
  match closing? '\'' cs with
  | some r => some r
  | none =>
    match cs with
    | [] => none
    | '\r' :: '\n' :: ds =>
      (tripleSingle ds).map fun r => ((r.map ('\n' :: ·)).behind '\n').behind '\r'
    | c :: ds =>
      if c = '\n' || isVisible c then (tripleSingle ds).map fun r => (r.map (c :: ·)).behind c
      else none

def tripleDouble (cs : List Char) : Option (Read (List Char) cs) :=
  match closing? '"' cs with
  | some r => some r
  | none =>
    match cs with
    | [] => none
    | '\\' :: ds =>
      match h : continued? ds with
      | some rest =>
        (tripleDouble rest).map fun r => (r.lift (Nat.le_of_lt (length_continued? h))).behind '\\'
      | none => do
        let e ← escape ds
        let r ← tripleDouble e.rest
        return ((r.map (e.value :: ·)).lift (Nat.le_of_lt e.shorter)).behind '\\'
    | '\r' :: '\n' :: ds =>
      (tripleDouble ds).map fun r => ((r.map ('\n' :: ·)).behind '\n').behind '\r'
    | c :: ds =>
      if c = '\n' || isVisible c then (tripleDouble ds).map fun r => (r.map (c :: ·)).behind c
      else none
termination_by cs.length
decreasing_by
  · exact Nat.lt_succ_of_lt (length_continued? h)
  · exact Nat.lt_succ_of_lt e.shorter
  · exact Nat.lt_succ_of_lt (Nat.lt_succ_self _)
  · exact Nat.lt_succ_self _

/-- A text in any of the four forms, with its quotes. -/
def text (cs : List Char) : Option (Read String cs) :=
  match cs with
  | '"' :: '"' :: '"' :: ds => (tripleDouble (skipLineEnd ds)).map fun r =>
      ((((r.map String.ofList).lift (length_skipLineEnd ds)).behind '"').behind '"').behind '"'
  | '\'' :: '\'' :: '\'' :: ds => (tripleSingle (skipLineEnd ds)).map fun r =>
      ((((r.map String.ofList).lift (length_skipLineEnd ds)).behind '\'').behind '\'').behind '\''
  | '"' :: ds => (double ds).map fun r => (r.map String.ofList).behind '"'
  | '\'' :: ds => (single ds).map fun r => (r.map String.ofList).behind '\''
  | _ => none

end SearchQuery.Toml.Quote
