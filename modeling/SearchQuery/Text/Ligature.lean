import SearchQuery.Text.Characters

/-!
# Ligatures

Letters that are drawn as one take fewer columns than they take apart. A text is measured from its
end, so a ligature is known by its last part: `Ligature` says which one could stand at the front of
what was measured, and `Ligature.extend?` what the character before it makes of it.
-/
namespace SearchQuery.Text

/-- The last part of a ligature. Where a joiner has to stand between the letters, `joined` says that
it was seen. -/
inductive Ligature where
  | alef
  | lamed (joined : Bool)
  | bugineseYa (joined : Bool)
  | bugineseVowel
  | tifinagh (joined : Bool)
  | tifinaghJoiner
  | lisuTone
  | orkhonI (joined : Bool)
  | khmerLetter
  | kiratRaiE
  | kiratRaiAI
  deriving DecidableEq, Repr

namespace Ligature

/-- The Arabic letters that are shaped like alef. -/
def alefs : Ranges := [
  (0x622, 0x623), (0x625, 0x625), (0x627, 0x627), (0x671, 0x673), (0x675, 0x675), (0x773, 0x774),
  (0x870, 0x882)]

/-- The Arabic letters that are shaped like lam. -/
def lams : Ranges := [
  (0x644, 0x644), (0x6B5, 0x6B8), (0x76A, 0x76A), (0x8A6, 0x8A6), (0x8C7, 0x8C7)]

def tifinaghConsonants : Ranges := [(0x2D31, 0x2D65), (0x2D6F, 0x2D6F)]

/-- The Khmer letters that can be written below another one. -/
def khmerLetters : Ranges := [
  (0x1780, 0x1782), (0x1784, 0x1787), (0x1789, 0x178C), (0x178E, 0x1793), (0x1795, 0x1798),
  (0x179B, 0x179D), (0x17A0, 0x17A0), (0x17A2, 0x17A2), (0x17A7, 0x17A7), (0x17AB, 0x17AC),
  (0x17AF, 0x17AF)]

/-- Characters without a column between which Arabic letters do not join. -/
def parting : Ranges := [
  (0x605, 0x605), (0x890, 0x891), (0x8E2, 0x8E2), (0x9BE, 0x9BE), (0x9D7, 0x9D7), (0xB3E, 0xB3E),
  (0xB57, 0xB57), (0xBBE, 0xBBE), (0xBD7, 0xBD7), (0xCC0, 0xCC0), (0xCC2, 0xCC2), (0xCC7, 0xCC8),
  (0xCCA, 0xCCB), (0xCD5, 0xCD6), (0xD3E, 0xD3E), (0xD4E, 0xD4E), (0xD57, 0xD57), (0xDCF, 0xDCF),
  (0xDDF, 0xDDF), (0x1160, 0x11FF), (0x1715, 0x1715), (0x1734, 0x1734), (0x180E, 0x180E),
  (0x1B35, 0x1B35), (0x1B3B, 0x1B3B), (0x1B3D, 0x1B3D), (0x1B43, 0x1B44), (0x1BAA, 0x1BAA),
  (0x1BF2, 0x1BF3), (0x200C, 0x200D), (0x2065, 0x2069), (0x302E, 0x302F), (0x3164, 0x3164),
  (0xA8FA, 0xA8FA), (0xA953, 0xA953), (0xA9C0, 0xA9C0), (0xD7B0, 0xD7C6), (0xD7CB, 0xD7FB),
  (0xFFA0, 0xFFA0), (0xFFF0, 0xFFF8), (0x111C0, 0x111C0), (0x111C2, 0x111C3), (0x11235, 0x11235),
  (0x1133E, 0x1133E), (0x1134D, 0x1134D), (0x11357, 0x11357), (0x113B8, 0x113B8),
  (0x113C2, 0x113C2), (0x113C5, 0x113C5), (0x113C7, 0x113C9), (0x113CF, 0x113CF),
  (0x113D1, 0x113D1), (0x114B0, 0x114B0), (0x114BD, 0x114BD), (0x115AF, 0x115AF),
  (0x116B6, 0x116B6), (0x11930, 0x11930), (0x1193D, 0x1193D), (0x1193F, 0x1193F),
  (0x11941, 0x11941), (0x11A84, 0x11A89), (0x11D46, 0x11D46), (0x11F02, 0x11F02),
  (0x11F41, 0x11F41), (0x16FF0, 0x16FF1), (0x1D165, 0x1D166), (0x1D16D, 0x1D172),
  (0xE0000, 0xE0000), (0xE0002, 0xE001F), (0xE0080, 0xE00FF), (0xE01F0, 0xE0FFF)]

/-- Marks that are not drawn and leave a ligature whole. -/
def unseen : Ranges := [
  (0x34F, 0x34F), (0x17B4, 0x17B5), (0x180B, 0x180D), (0x180F, 0x180F), (0xFE00, 0xFE0F),
  (0xE0100, 0xE01EF)]

def ofChar? (c : Char) : Option Ligature :=
  if alefs.covers c.toNat then some .alef
  else if c = '\u05DC' then some (.lamed false)
  else if c = '\u1A10' then some (.bugineseYa false)
  else if tifinaghConsonants.covers c.toNat then some (.tifinagh false)
  else if c = '\uA4FC' ∨ c = '\uA4FD' then some .lisuTone
  else if c.toNat = 0x10C03 then some (.orkhonI false)
  else if khmerLetters.covers c.toNat then some .khmerLetter
  else if c.toNat = 0x16D67 then some .kiratRaiE
  else if c.toNat = 0x16D68 then some .kiratRaiAI
  else none

def join : Ligature → Ligature
  | .lamed _ => .lamed true
  | .bugineseYa _ => .bugineseYa true
  | .tifinagh _ => .tifinagh true
  | .orkhonI _ => .orkhonI true
  | l => l

/-- Whether unseen characters may stand between the parts: not between the vowels of Kirat Rai. -/
def reaches : Ligature → Bool
  | .kiratRaiE | .kiratRaiAI => false
  | _ => true

/-- The ligature as seen across a character that is not drawn, if that leaves it whole. -/
def across? (c : Char) : Ligature → Option Ligature
  | .alef => if isColumnless c && !parting.covers c.toNat then some .alef else none
  | l =>
    if !l.reaches then none
    else if c = joiner then some l.join
    else if unseen.covers c.toNat then some l
    else none

/-- The columns that a character adds when it is drawn with the ligature, and what the two end. -/
def extend? (c : Char) : Ligature → Option (Int × Option Ligature)
  | .alef => if lams.covers c.toNat then some (0, none) else none
  | .lamed joined => if joined ∧ c = '\u05D0' then some (0, none) else none
  | .bugineseYa joined => if joined ∧ c = '\u1A17' then some (0, some .bugineseVowel) else none
  | .bugineseVowel => if c = '\u1A15' then some (0, none) else none
  | .tifinagh joined =>
    if c = '\u2D7F' then some (1, some .tifinaghJoiner)
    else if joined ∧ tifinaghConsonants.covers c.toNat then some (0, none)
    else none
  | .tifinaghJoiner => if tifinaghConsonants.covers c.toNat then some (-1, none) else none
  | .lisuTone => if '\uA4F8' ≤ c ∧ c ≤ '\uA4FB' then some (0, none) else none
  | .orkhonI joined => if joined ∧ c.toNat = 0x10C32 then some (0, none) else none
  | .khmerLetter => if c = '\u17D2' then some (-1, none) else none
  | .kiratRaiE =>
    if c.toNat = 0x16D63 ∨ c.toNat = 0x16D69 then some (0, none)
    else if c.toNat = 0x16D67 then some (0, some .kiratRaiAI)
    else if c.toNat = 0x16D68 then some (1, some .kiratRaiE)
    else none
  | .kiratRaiAI => if c.toNat = 0x16D63 then some (0, none) else none

end Ligature

end SearchQuery.Text
