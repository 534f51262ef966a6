import SearchQuery.Toml.Moment
import SearchQuery.Toml.Number

/-!
# Tables of a document

A table remembers how it came about, for that decides what may still be added to it. A header opens
a table once, and may pass through any table that is not written inline. A dotted key adds to tables
that dotted keys made, and may pass through a table that a longer header implied. The last element
of an array of tables stands for that array on the way to what lies below it.
-/
namespace SearchQuery.Toml

inductive Origin where
  | header | implied | dotted | inline
  deriving DecidableEq, Repr

inductive Item where
  | text (value : String)
  | integer (value : Int)
  | decimal (value : Decimal)
  | special
  | boolean (value : Bool)
  | moment (value : Moment)
  | array (growing : Bool) (items : List Item)
  | table (origin : Origin) (entries : List (String × Item))

abbrev Entries := List (String × Item)

/-- The names on the way to a value, and the name of the value itself. -/
structure Key where
  path : List String
  name : String
  deriving DecidableEq, Repr

namespace Entries

def get? (entries : Entries) (name : String) : Option Item := entries.lookup name

def replace (entries : Entries) (name : String) (item : Item) : Entries :=
  entries.map fun entry => if entry.1 = name then (name, item) else entry

def insert (entries : Entries) (name : String) (item : Item) : Entries := entries ++ [(name, item)]

/-- Changes the table that a header's names lead to; tables on the way that are missing are
implied. -/
def within (change : Entries → Option Entries) : List String → Entries → Option Entries
  | [], entries => change entries
  | name :: names, entries =>
    match entries.get? name with
    | none => do
      let inner ← within change names []
      return entries.insert name (.table .implied inner)
    | some (.table .inline _) => none
    | some (.table origin inner) => do
      let inner ← within change names inner
      return entries.replace name (.table origin inner)
    | some (.array true items) =>
      match items.getLast? with
      | some (.table origin inner) => do
        let inner ← within change names inner
        return entries.replace name (.array true (items.dropLast ++ [.table origin inner]))
      | _ => none
    | some _ => none

/-- Opens a table by its header, which can be done once. -/
def openTable (name : String) (entries : Entries) : Option Entries :=
  match entries.get? name with
  | none => some (entries.insert name (.table .header []))
  | some (.table .implied inner) => some (entries.replace name (.table .header inner))
  | some _ => none

/-- Opens a further element of an array of tables. -/
def openElement (name : String) (entries : Entries) : Option Entries :=
  match entries.get? name with
  | none => some (entries.insert name (.array true [.table .header []]))
  | some (.array true items) =>
    some (entries.replace name (.array true (items ++ [.table .header []])))
  | some _ => none

/-- Adds a value under a dotted key. -/
def assign (name : String) (value : Item) : List String → Entries → Option Entries
  | [], entries =>
    match entries.get? name with
    | none => some (entries.insert name value)
    | some _ => none
  | outer :: names, entries =>
    match entries.get? outer with
    | none => do
      let inner ← assign name value names []
      return entries.insert outer (.table .dotted inner)
    | some (.table .dotted inner) => do
      let inner ← assign name value names inner
      return entries.replace outer (.table .dotted inner)
    | some (.table .implied inner) =>
      if names.isEmpty then none
      else do
        let inner ← assign name value names inner
        return entries.replace outer (.table .implied inner)
    | some (.array true items) =>
      if names.isEmpty then none
      else match items.getLast? with
        | some (.table origin inner) => do
          let inner ← assign name value names inner
          return entries.replace outer (.array true (items.dropLast ++ [.table origin inner]))
        | _ => none
    | some _ => none

end Entries
end SearchQuery.Toml
