import SearchQuery.Text.Characters
import SearchQuery.Text.Emoji.Front
import SearchQuery.Text.Ligature

/-!
# Display columns

How many columns of a terminal a line takes: two for a wide character, none for one that is drawn
with its neighbour, one for any other, controls included. Characters that make up one emoji take two
columns together, ligatures take fewer than their letters, and a selector may change the columns of
the character before it. The line is measured from its end, for what follows a character decides how
it is drawn.
-/
namespace SearchQuery.Text.Columns

/-- The columns of a character that stands alone. -/
def ofChar (c : Char) : Nat :=
  if c = '\u17D8' then 3
  else if isColumnless c then 0
  else if isWide c || c = '\u17A4' then 2
  else 1

/-- Asks for the form of the character before it. -/
inductive Selector where
  | emoji
  | text
  | wide
  deriving DecidableEq, Repr

/-- The quotation marks that have a wide form. -/
def isQuote (c : Char) : Bool := c = '\u2018' || c = '\u2019' || c = '\u201C' || c = '\u201D'

def Selector.ofChar? (c : Char) : Option Selector :=
  if c = '\uFE0F' then some .emoji
  else if c = '\uFE0E' then some .text
  else if c = '\uFE01' then some .wide
  else none

/-- What stands to the right of a character and may be drawn together with it. -/
inductive Neighbour where
  | plain
  | ligature (last : Ligature)
  | emoji (front : Emoji.Front)
  deriving DecidableEq, Repr

namespace Neighbour

def ofChar (c : Char) : Neighbour :=
  match Ligature.ofChar? c, Emoji.Front.ofChar? c with
  | some l, _ => .ligature l
  | none, some e => .emoji e
  | none, none => .plain

def ofLigature? : Option Ligature → Neighbour
  | some l => .ligature l
  | none => .plain

/-- Whether a selector may stand between it and a character that is drawn with it. -/
def reaches : Neighbour → Bool
  | .ligature l => l.reaches
  | _ => false

def isJoining : Neighbour → Bool
  | .emoji e => e.isJoining
  | _ => false

/-- The columns that a character adds to what stands on its right, and what the two are to the
character before them. -/
def extend (c : Char) : Neighbour → Int × Neighbour
  | .ligature l =>
    match Ligature.across? c l, Ligature.extend? c l with
    | some l, _ => (0, .ligature l)
    | none, some (columns, last) => (columns, ofLigature? last)
    | none, none => (Columns.ofChar c, ofChar c)
  | .emoji e =>
    match Emoji.Front.extend? c e with
    | some (columns, front) => (columns, .emoji front)
    | none => (Columns.ofChar c, ofChar c)
  | .plain => (Columns.ofChar c, ofChar c)

end Neighbour

/-- A part of a line from some character to the end: its columns, the selector at its front and what
stands behind that. -/
structure Tail where
  columns : Int
  selector : Option Selector
  neighbour : Neighbour
  deriving DecidableEq, Repr

namespace Tail

def empty : Tail := ⟨0, none, .plain⟩

/-- The columns of a character whose form the selector behind it decides, and what it is to the
character before it. -/
def selected? (c : Char) (t : Tail) : Option (Int × Neighbour) :=
  match t.selector with
  | some .emoji =>
    if Emoji.hasPicture c then some (if t.neighbour.isJoining then 0 else 2, .emoji .picture)
    else none
  | some .text => if Emoji.hasSign c then some (1, .plain) else none
  | some .wide => if isQuote c then some (2, .plain) else none
  | none => none

/-- What stands behind a selector that is put in front of the rest. -/
def behindSelector (s : Selector) (t : Tail) : Neighbour :=
  if t.neighbour.reaches then t.neighbour
  else if s = .emoji ∧ t.selector = none ∧ t.neighbour.isJoining then t.neighbour
  else .plain

/-- What a character is drawn with that leaves the selector behind it without effect. -/
def behindOther (t : Tail) : Neighbour :=
  if t.selector = none ∨ t.neighbour.reaches then t.neighbour else .plain

/-- The rest of a line with one more character before it. -/
def cons (c : Char) (t : Tail) : Tail :=
  match selected? c t, Selector.ofChar? c with
  | some (columns, neighbour), _ => ⟨t.columns + columns, none, neighbour⟩
  | none, some s => ⟨t.columns, some s, behindSelector s t⟩
  | none, none =>
    let (columns, neighbour) := Neighbour.extend c t.behindOther
    ⟨t.columns + columns, none, neighbour⟩

end Tail

end SearchQuery.Text.Columns

namespace SearchQuery.Text

def columns (line : List Char) : Nat := (line.foldr Columns.Tail.cons .empty).columns.toNat

end SearchQuery.Text
