import SearchQuery.Text.Quoted
import SearchQuery.Text.Split

/-!
# Numbers in a document

Integers in four bases and decimal fractions, written without blanks. An underscore may stand
between two digits; a decimal integer starts with zero only if it is zero.
-/
namespace SearchQuery.Toml

/-- `coefficient · 10 ^ exponent`, with a sign. -/
structure Decimal where
  negative : Bool
  coefficient : Nat
  exponent : Int
  deriving DecidableEq, Repr

namespace Decimal

/-- The least magnitude that rounds to no finite double: half a unit beyond the greatest one. -/
def overflow : Nat := Nat.pow 2 1024 - Nat.pow 2 970

/-- Whether the nearest double is finite. Where the number of digits settles it, no power of ten is
computed. -/
def isFinite (d : Decimal) : Bool :=
  let digits : Int := (Nat.toDigits 10 d.coefficient).length
  if d.coefficient = 0 || digits + d.exponent ≤ 308 then true
  else if digits + d.exponent > 309 then false
  else if 0 ≤ d.exponent then d.coefficient * Nat.pow 10 d.exponent.toNat < overflow
  else d.coefficient < overflow * Nat.pow 10 (-d.exponent).toNat

end Decimal

namespace Number

/-- The digits without the underscores between them. -/
def digits (isDigit : Char → Bool) (cs : List Char) : Option (List Char) :=
  let groups := Text.split '_' cs
  if groups.all fun group => !group.isEmpty && group.all isDigit then some groups.flatten else none

def isBinary (c : Char) : Bool := c = '0' || c = '1'

def isOctal (c : Char) : Bool := '0' ≤ c && c ≤ '7'

def isHex (c : Char) : Bool := (Text.Hex.value? c).isSome

def ofDigits (base : Nat) (ds : List Char) : Nat :=
  ds.foldl (fun n c => base * n + (Text.Hex.value? c).getD 0) 0

/-- Decimal digits that start with zero only if they are one zero. -/
def plainDigits (cs : List Char) : Option (List Char) := do
  let ds ← digits Char.isDigit cs
  if ds.head? = some '0' && ds.length ≠ 1 then none else some ds

/-- Splits off the sign; `true` stands for minus. -/
def signed : List Char → Bool × List Char
  | '+' :: cs => (false, cs)
  | '-' :: cs => (true, cs)
  | cs => (false, cs)

def integer? : List Char → Option Int
  | '0' :: 'x' :: cs => (digits isHex cs).map fun ds => ofDigits 16 ds
  | '0' :: 'o' :: cs => (digits isOctal cs).map fun ds => ofDigits 8 ds
  | '0' :: 'b' :: cs => (digits isBinary cs).map fun ds => ofDigits 2 ds
  | cs =>
    let (negative, magnitude) := signed cs
    (plainDigits magnitude).map fun ds =>
      if negative then -(ofDigits 10 ds : Int) else ofDigits 10 ds

def isExponentMark (c : Char) : Bool := c = 'e' || c = 'E'

/-- The digits behind a point; none where there is no point. -/
def fraction? : List Char → Option (List Char)
  | [] => some []
  | '.' :: cs => digits Char.isDigit cs
  | _ => none

/-- The power of ten behind an exponent mark; zero where there is no mark. -/
def exponent? : List Char → Option Int
  | [] => some 0
  | c :: cs =>
    if isExponentMark c then
      let (negative, magnitude) := signed cs
      (digits Char.isDigit magnitude).map fun ds =>
        if negative then -(ofDigits 10 ds : Int) else ofDigits 10 ds
    else none

/-- A number with a point, an exponent or both. -/
def decimal? (cs : List Char) : Option Decimal := do
  let (negative, magnitude) := signed cs
  let mantissa := magnitude.takeWhile (!isExponentMark ·)
  let whole ← plainDigits (mantissa.takeWhile (· ≠ '.'))
  let part ← fraction? (mantissa.dropWhile (· ≠ '.'))
  let power ← exponent? (magnitude.dropWhile (!isExponentMark ·))
  if magnitude.all Char.isDigit then none
  return ⟨negative, ofDigits 10 (whole ++ part), power - part.length⟩

/-- Infinity or not a number, with or without a sign. -/
def isSpecial (cs : List Char) : Bool :=
  (signed cs).2 = ['i', 'n', 'f'] || (signed cs).2 = ['n', 'a', 'n']

end Number
end SearchQuery.Toml
