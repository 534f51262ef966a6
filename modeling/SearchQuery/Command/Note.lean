import SearchQuery.Command.Help
import SearchQuery.Settings.Files
import SearchQuery.Tree.Reading

/-!
# Notes of a run

What a run writes beside its result: log events, each with a level, and complaints, which are always
written.

Source: the events of `scoped-query::parser` and of `scoped parse`, and the messages of
`scoped init`, `current_dir_or_failure` and `load_config_or_failure`.
-/
namespace SearchQuery

inductive Event where
  | reading (tokens : Nat)
  | failed (e : ValueExpected)
  | sequenceRead (expressions : Nat)
  | ignored (tokens : Nat)
  | queriesRead (queries : Nat) (format : Format) (collapse : Bool)
  deriving DecidableEq, Repr

namespace Event

def level : Event → Level
  | sequenceRead _ => .trace
  | queriesRead .. => .info
  | reading _ | failed _ | ignored _ => .debug

def text : Event → String
  | reading tokens => "parsing query tokens=" ++ toString tokens
  | failed e => "query parse failed error=" ++ e.message
  | sequenceRead expressions => "parsed top-level sequence expressions=" ++ toString expressions
  | ignored tokens => "ignoring tokens after unmatched group close ignored=" ++ toString tokens
  | queriesRead queries format collapse =>
    "parsed queries queries=" ++ toString queries ++ " format=" ++ format.name ++ " simplify=" ++
      (if collapse then "true" else "false")

end Event

/-- The name of a level in front of a log line, five characters wide. -/
def Level.label : Level → String
  | error => "ERROR"
  | warn => " WARN"
  | info => " INFO"
  | debug => "DEBUG"
  | trace => "TRACE"

inductive Complaint where
  | usage
  | directoryUnknown (refusal : Refusal)
  | settings (e : SettingsError)
  | query (e : ValueExpected) (text : String)
  | homeUnknown
  | alreadyThere (path : Path)
  | unwritable (path : Path) (refusal : Refusal)
  deriving DecidableEq, Repr

def Complaint.lines : Complaint → List String
  | usage => usageLines
  | directoryUnknown refusal =>
    ["error: could not determine current directory: " ++ refusal.message]
  | settings e => ["error: failed to load configuration: " ++ e.message]
  | query e text => ["error: " ++ e.message, "  in query: " ++ text]
  | homeUnknown => ["error: could not determine home directory"]
  | alreadyThere path =>
    ["error: configuration file already exists: " ++ path.text, "use --force to overwrite"]
  | unwritable path refusal =>
    ["error: failed to write " ++ path.text ++ ": " ++ refusal.message]

inductive Note where
  | event (e : Event)
  | complaint (c : Complaint)
  deriving DecidableEq, Repr

namespace Note

/-- A log line is given without the colours and weights that its writer adds unless it is told not
to. -/
def lines : Note → List String
  | event e => [e.level.label ++ " " ++ e.text]
  | complaint c => c.lines

/-- Whether a note is written when events up to `level` are logged. -/
def isShown (level : Level) : Note → Bool
  | event e => e.level.rank ≤ level.rank
  | complaint _ => true

end Note
end SearchQuery
