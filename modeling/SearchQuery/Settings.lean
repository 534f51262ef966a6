/-!
# Settings

How trees are printed, whether they are collapsed first, and which log lines are shown.

Source: `OutputFormat`, `LogLevel` with `raised`, and `settings_to_toml` of `scoped-config`.
-/
namespace SearchQuery

/-- The form in which a tree is printed. -/
inductive Format where
  | tree | sexp | json
  deriving DecidableEq, Repr

namespace Format

def name : Format → String
  | tree => "tree"
  | sexp => "sexp"
  | json => "json"

def ofName? : String → Option Format
  | "tree" => some tree
  | "sexp" => some sexp
  | "json" => some json
  | _ => none

/-- A word that names no format, in lower case. -/
structure Unknown where
  word : String
  deriving DecidableEq, Repr

def Unknown.message (e : Unknown) : String :=
  "unknown output format '" ++ e.word ++ "' (expected tree, sexp or json)"

/-- The format that a word names, whatever the case of its ASCII letters. -/
def ofWord (word : String) : Except Unknown Format :=
  let lower := String.ofList (word.toList.map Char.toLower)
  match ofName? lower with
  | some format => .ok format
  | none => .error ⟨lower⟩

end Format

/-- How much is logged, from least to most. -/
inductive Level where
  | error | warn | info | debug | trace
  deriving DecidableEq, Repr

namespace Level

def name : Level → String
  | error => "error"
  | warn => "warn"
  | info => "info"
  | debug => "debug"
  | trace => "trace"

def ofName? : String → Option Level
  | "error" => some error
  | "warn" => some warn
  | "info" => some info
  | "debug" => some debug
  | "trace" => some trace
  | _ => none

def rank : Level → Nat
  | error => 0
  | warn => 1
  | info => 2
  | debug => 3
  | trace => 4

def next : Level → Level
  | error => warn
  | warn => info
  | info => debug
  | debug | trace => trace

def raised (level : Level) : Nat → Level
  | 0 => level
  | steps + 1 => level.next.raised steps

end Level

structure Settings where
  format : Format := .tree
  collapse : Bool := true
  level : Level := .warn
  deriving DecidableEq, Repr

/-- The settings as a document that declares them all. -/
def Settings.document (s : Settings) : String :=
  "[output]\nformat = \"" ++ s.format.name ++ "\"\n\n[parser]\nsimplify = " ++
    (if s.collapse then "true" else "false") ++ "\n\n[log]\nlevel = \"" ++ s.level.name ++ "\"\n"

end SearchQuery
