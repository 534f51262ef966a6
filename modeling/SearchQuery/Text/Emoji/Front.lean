import SearchQuery.Text.Characters
import SearchQuery.Text.Emoji

/-!
# The fronts of emoji

An emoji may be made of several characters: a picture and its skin tone, the two indicators of a
flag, pictures with joiners between them, a flag with tags. A text is measured from its end, so
`Front` says what stands at the front of what was measured, and `Front.extend?` what the character
before it adds.
-/
namespace SearchQuery.Text.Emoji

/-- What stands at the front of an emoji. Behind a joiner, indicators are counted in pairs. -/
inductive Front where
  | picture
  | tone
  | indicator
  | indicators
  | joiner
  | joinedKeycap
  | joinedIndicator
  | joinedIndicators (even : Bool)
  | joinedTags (letters digits : Nat)
  deriving DecidableEq, Repr

namespace Front

def ofChar? (c : Char) : Option Front :=
  if regional.covers c.toNat then some .indicator
  else if tones.covers c.toNat then some .tone
  else if pictured.covers c.toNat then some .picture
  else none

/-- A joiner before an emoji. -/
def join? (c : Char) : Option (Int × Front) := if c = Text.joiner then some (0, .joiner) else none

/-- The character before a joiner. -/
def beforeJoiner? (c : Char) : Option (Int × Front) :=
  if c = keycap then some (0, .joinedKeycap)
  else if tagEnd.covers c.toNat then some (0, .joinedTags 0 0)
  else match ofChar? c with
    | some .indicator => some (1, .joinedIndicator)
    | some front => some (0, front)
    | none => none

/-- A tag before others, or the black flag before all of them: they are three to six letters, or
three digits and up to four letters behind those. -/
def beforeTags? (c : Char) (letters digits : Nat) : Option (Int × Front) :=
  if tagLetters.covers c.toNat then
    if digits = 0 ∧ letters < 6 then some (0, .joinedTags (letters + 1) 0) else none
  else if tagDigits.covers c.toNat then
    if (digits = 0 ∧ letters ≤ 4) ∨ (0 < digits ∧ digits < 3) then
      some (0, .joinedTags letters (digits + 1))
    else none
  else if c = blackFlag ∧ ((digits = 0 ∧ 3 ≤ letters) ∨ digits = 3) then some (0, .picture)
  else none

/-- The columns that a character adds in front of an emoji to which it belongs, and the front of the
two. -/
def extend? (c : Char) : Front → Option (Int × Front)
  | .picture => join? c
  | .tone => if toned.covers c.toNat then some (0, .picture) else join? c
  | .indicator => if regional.covers c.toNat then some (1, .indicators) else none
  | .indicators => if regional.covers c.toNat then some (1, .indicators) else join? c
  | .joiner => beforeJoiner? c
  | .joinedKeycap => none
  | .joinedIndicator =>
    if regional.covers c.toNat then some (-1, .joinedIndicators true) else none
  | .joinedIndicators true =>
    if regional.covers c.toNat then some (3, .joinedIndicators false) else join? c
  | .joinedIndicators false =>
    if regional.covers c.toNat then some (-1, .joinedIndicators true) else join? c
  | .joinedTags letters digits => beforeTags? c letters digits

/-- Whether a picture before the emoji selector is drawn in the columns of what follows. -/
def isJoining : Front → Bool
  | .joiner | .joinedKeycap => true
  | _ => false

end Front

end SearchQuery.Text.Emoji
