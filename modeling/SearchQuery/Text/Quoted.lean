import SearchQuery.Text.Characters
import SearchQuery.Text.Printable

/-!
# Quoted text

A text between double quotes on one line, in which every character can be told apart. Quotes and
backslashes are escaped, four controls have a letter, and a character that extends its neighbour, is
ignorable or has no visible form is written by its number, in hexadecimal digits.
-/
namespace SearchQuery.Text.Hex

def digit (n : Nat) : Char :=
  if n < 10 then Char.ofNat ('0'.toNat + n) else Char.ofNat ('a'.toNat + (n - 10))

def digits (n : Nat) : List Char :=
  if n < 16 then [digit n] else digits (n / 16) ++ [digit (n % 16)]

def value? (c : Char) : Option Nat :=
  if '0' ≤ c ∧ c ≤ '9' then some (c.toNat - '0'.toNat)
  else if 'a' ≤ c ∧ c ≤ 'f' then some (c.toNat - 'a'.toNat + 10)
  else if 'A' ≤ c ∧ c ≤ 'F' then some (c.toNat - 'A'.toNat + 10)
  else none

/-- The number that the digits write, the most significant first; `none` if one is no digit. -/
def ofDigits? (cs : List Char) : Option Nat :=
  cs.foldlM (fun n c => (value? c).map (16 * n + ·)) 0

end SearchQuery.Text.Hex

namespace SearchQuery.Text.Quoted

def byNumber (c : Char) : List Char :=
  ['\\', 'u', '\x7b'] ++ Hex.digits c.toNat ++ ['\x7d']

def escape (c : Char) : List Char :=
  if c = '\x00' then ['\\', '0']
  else if c = '\t' then ['\\', 't']
  else if c = '\r' then ['\\', 'r']
  else if c = '\n' then ['\\', 'n']
  else if c = '"' ∨ c = '\\' then ['\\', c]
  else if isExtending c || isIgnorable c then byNumber c
  else if isPrintable c then [c]
  else byNumber c

def encode (cs : List Char) : List Char :=
  '"' :: cs.flatMap escape ++ ['"']

end SearchQuery.Text.Quoted

namespace SearchQuery.Text

def quoted (s : String) : String := String.ofList (Quoted.encode s.toList)

end SearchQuery.Text
