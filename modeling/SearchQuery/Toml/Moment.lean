/-!
# Dates and times in a document

A date, a time of day, or both with an optional distance from universal time. A date has to exist in
the Gregorian calendar; the seconds of a time may be left out, and may be 60.
-/
namespace SearchQuery.Toml

structure Date where
  year : Nat
  month : Nat
  day : Nat
  deriving DecidableEq, Repr

structure Clock where
  hour : Nat
  minute : Nat
  second : Option Nat
  fraction : List Char
  deriving DecidableEq, Repr

/-- A point in time; `offset` is in minutes. -/
structure Moment where
  date : Option Date
  clock : Option Clock
  offset : Option Int
  deriving DecidableEq, Repr

namespace Moment

def digitsValue? (ds : List Char) : Option Nat :=
  if ds.all Char.isDigit then
    some (ds.foldl (fun n c => 10 * n + (c.toNat - '0'.toNat)) 0)
  else none

def isLeap (year : Nat) : Bool := year % 4 = 0 && (year % 100 ≠ 0 || year % 400 = 0)

def daysIn (year month : Nat) : Nat :=
  if month = 2 then (if isLeap year then 29 else 28)
  else if month = 4 || month = 6 || month = 9 || month = 11 then 30
  else 31

def date? : List Char → Option (Date × List Char)
  | a :: b :: c :: d :: '-' :: e :: f :: '-' :: g :: h :: rest => do
    let year ← digitsValue? [a, b, c, d]
    let month ← digitsValue? [e, f]
    let day ← digitsValue? [g, h]
    if 1 ≤ month && month ≤ 12 && 1 ≤ day && day ≤ daysIn year month then
      some (⟨year, month, day⟩, rest)
    else none
  | _ => none

/-- Seconds and their fraction, if there are any. -/
def seconds? : List Char → Option (Option Nat × List Char × List Char)
  | ':' :: a :: b :: rest => do
    let second ← digitsValue? [a, b]
    if second > 60 then none
    match rest with
    | '.' :: rest =>
      let fraction := rest.takeWhile Char.isDigit
      if fraction.isEmpty then none else some (some second, fraction, rest.dropWhile Char.isDigit)
    | rest => some (some second, [], rest)
  | rest => some (none, [], rest)

def clock? : List Char → Option (Clock × List Char)
  | a :: b :: ':' :: c :: d :: rest => do
    let hour ← digitsValue? [a, b]
    let minute ← digitsValue? [c, d]
    if hour > 23 || minute > 59 then none
    let (second, fraction, rest) ← seconds? rest
    return (⟨hour, minute, second, fraction⟩, rest)
  | _ => none

/-- The distance from universal time that ends a moment; `none` where there is none to read. -/
def offset? : List Char → Option (Option Int)
  | [] => some none
  | ['Z'] | ['z'] => some (some 0)
  | [sign, a, b, ':', c, d] => do
    let hours ← digitsValue? [a, b]
    let minutes ← digitsValue? [c, d]
    if hours > 23 || minutes > 59 then none
    let distance : Int := 60 * hours + minutes
    if sign = '+' then some (some distance)
    else if sign = '-' then some (some (-distance))
    else none
  | _ => none

def ofChars? (cs : List Char) : Option Moment :=
  match date? cs with
  | some (date, []) => some ⟨some date, none, none⟩
  | some (date, c :: rest) => do
    if c ≠ 'T' && c ≠ 't' && c ≠ ' ' then none
    let (clock, rest) ← clock? rest
    let offset ← offset? rest
    return ⟨some date, some clock, offset⟩
  | none =>
    match clock? cs with
    | some (clock, []) => some ⟨none, some clock, none⟩
    | _ => none

end Moment
end SearchQuery.Toml
