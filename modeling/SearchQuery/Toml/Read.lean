/-!
# Reading from the front of a text

A reader takes something off the front of a text and says what is left, which is always less. The
layout between the parts of a document is blanks, line ends and comments.
-/
namespace SearchQuery.Toml

structure Read (α : Type) (cs : List Char) where
  value : α
  rest : List Char
  shorter : rest.length < cs.length

abbrev Reader (α : Type) := (cs : List Char) → Option (Read α cs)

namespace Read

variable {α β : Type} {cs ds : List Char}

def map (f : α → β) (r : Read α cs) : Read β cs := ⟨f r.value, r.rest, r.shorter⟩

/-- The same value, read from a text that is no shorter. -/
def lift (r : Read α ds) (h : ds.length ≤ cs.length) : Read α cs :=
  ⟨r.value, r.rest, Nat.lt_of_lt_of_le r.shorter h⟩

/-- The same value, read behind one more character. -/
def behind (c : Char) (r : Read α cs) : Read α (c :: cs) := r.lift (Nat.le_succ _)

end Read

def isSpace (c : Char) : Bool := c = ' ' || c = '\t'

/-- What may stand in a comment, and in a text apart from its delimiters: no control but the tab. -/
def isVisible (c : Char) : Bool := c = '\t' || (' ' ≤ c && c ≠ '\x7f')

def skipSpace (cs : List Char) : List Char := cs.dropWhile isSpace

theorem length_skipSpace (cs : List Char) : (skipSpace cs).length ≤ cs.length :=
  (List.dropWhile_suffix _).length_le

/-- What follows a comment whose number sign was read: a line end, the end of the text, or a
character that may stand in no document. -/
def skipComment (cs : List Char) : List Char := cs.dropWhile isVisible

theorem length_skipComment (cs : List Char) : (skipComment cs).length ≤ cs.length :=
  (List.dropWhile_suffix _).length_le

/-- Skips spaces, line ends and comments. -/
def skipLayout : List Char → List Char
  | ' ' :: cs => skipLayout cs
  | '\t' :: cs => skipLayout cs
  | '\n' :: cs => skipLayout cs
  | '\r' :: '\n' :: cs => skipLayout cs
  | '#' :: cs => skipLayout (skipComment cs)
  | cs => cs
termination_by cs => cs.length
decreasing_by
  all_goals first
    | exact Nat.lt_succ_of_le (length_skipComment _)
    | (simp only [List.length_cons]; omega)

theorem length_skipLayout (cs : List Char) : (skipLayout cs).length ≤ cs.length := by
  fun_induction skipLayout cs with
  | case1 _ ih | case2 _ ih | case3 _ ih => exact Nat.le_succ_of_le ih
  | case4 _ ih => exact Nat.le_succ_of_le (Nat.le_succ_of_le ih)
  | case5 _ ih => exact Nat.le_succ_of_le (Nat.le_trans ih (length_skipComment _))
  | case6 => exact Nat.le_refl _

variable {α : Type} {c : Char} {cs ds : List Char}

theorem length_of_skipLayout (h : skipLayout cs = c :: ds) : ds.length < cs.length := by
  have := length_skipLayout cs
  rw [h] at this
  exact this

/-- Less is left behind a character that follows what was read, than there was before it. -/
theorem Read.length_of_skipSpace (r : Read α cs) (h : skipSpace r.rest = c :: ds) :
    ds.length < cs.length := by
  have := length_skipSpace r.rest
  rw [h] at this
  exact Nat.lt_trans this r.shorter

theorem Read.length_of_skipLayout (r : Read α cs) (h : skipLayout r.rest = c :: ds) :
    ds.length < cs.length :=
  Nat.lt_trans (Toml.length_of_skipLayout h) r.shorter

end SearchQuery.Toml
