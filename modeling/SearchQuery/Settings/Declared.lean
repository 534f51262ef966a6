import SearchQuery.Settings
import SearchQuery.Toml.Document

/-!
# What a settings file declares

Every setting may be left out, and so may every section. A section is a table; it may also be an
array, whose first item then is the one setting of the section, or a moment, which declares nothing.
A named choice is a text, or a table whose only key is that name and holds nothing. Keys without a
meaning are passed over if the numbers below them are in range.

Source: `RawConfig` and `parse_config_str` of `scoped-config`.
-/
namespace SearchQuery

structure OutputSection where
  format : Option Format := none
  deriving DecidableEq, Repr

structure ParserSection where
  collapse : Option Bool := none
  deriving DecidableEq, Repr

structure LogSection where
  level : Option Level := none
  deriving DecidableEq, Repr

structure Declared where
  root : Option Bool := none
  output : Option OutputSection := none
  parser : Option ParserSection := none
  log : Option LogSection := none
  deriving DecidableEq, Repr

namespace Declared

open Toml (Item Entries)

mutual

/-- Whether every number of an item can be represented: integers in 128 bits, fractions as finite
doubles. -/
def inRange : Item → Bool
  | .integer n => -(2 ^ 127 : Int) ≤ n && n < (2 ^ 128 : Int)
  | .decimal d => d.isFinite
  | .array _ items => allInRange items
  | .table _ entries => entriesInRange entries
  | .text _ | .special | .boolean _ | .moment _ => true

def allInRange : List Item → Bool
  | [] => true
  | item :: items => inRange item && allInRange items

def entriesInRange : List (String × Item) → Bool
  | [] => true
  | (_, item) :: entries => inRange item && entriesInRange entries

end

/-- Keys other than the known ones are ignored, but what they hold has to be in range. -/
def unknownInRange (known : List String) (entries : Entries) : Bool :=
  entries.all fun entry => known.contains entry.1 || inRange entry.2

def boolean? : Item → Option Bool
  | .boolean b => some b
  | _ => none

def isEmpty : Item → Bool
  | .array _ items => items.isEmpty
  | .table _ entries => entries.isEmpty
  | _ => false

/-- One of several named choices. -/
def choice? {α : Type} (ofName? : String → Option α) : Item → Option α
  | .text name => ofName? name
  | .table _ [(name, held)] => if isEmpty held then ofName? name else none
  | _ => none

/-- The one setting of a section; `some none` if the section leaves it out. -/
def setting? {α : Type} (name : String) (read : Item → Option α) : Item → Option (Option α)
  | .table _ entries =>
    if unknownInRange [name] entries then
      match Entries.get? entries name with
      | none => some none
      | some item => (read item).map some
    else none
  | .array _ [] => some none
  | .array _ (item :: _) => (read item).map some
  | .moment _ => some none
  | _ => none

/-- What the entry of that name holds; `some none` if there is no such entry. -/
def entry? {α : Type} (name : String) (read : Item → Option α) (entries : Entries) :
    Option (Option α) :=
  match entries.get? name with
  | none => some none
  | some item => (read item).map some

def ofEntries? (entries : Entries) : Option Declared := do
  let root ← entry? "root" boolean? entries
  let output ← entry? "output" (setting? "format" (choice? Format.ofName?)) entries
  let parser ← entry? "parser" (setting? "simplify" boolean?) entries
  let log ← entry? "log" (setting? "level" (choice? Level.ofName?)) entries
  if unknownInRange ["root", "output", "parser", "log"] entries then
    return ⟨root, output.map OutputSection.mk, parser.map ParserSection.mk, log.map LogSection.mk⟩
  else none

/-- What a document declares; `none` if it is malformed or a setting has a wrong value. -/
def ofDocument? (document : String) : Option Declared := do
  ofEntries? (← Toml.read document)

end Declared
end SearchQuery
