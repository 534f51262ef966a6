import SearchQuery.Settings

/-!
# Invocations

The arguments name a command, options and operands. Options may stand before or behind the operands
of their command; `--` ends them. A short option may share its argument with others, and its value
may follow directly, behind an equals sign, or as the next argument. Help is asked for by an option,
which ends the reading, or by a command of its own. Everything else is a usage error: an unknown,
repeated or abbreviated option, a value where none belongs, too few or too many operands.

Source: `Cli`, `Commands`, `ParseCommand`, `TokensCommand` and `InitCommand` of `scoped`.
-/
namespace SearchQuery

inductive Subcommand where
  | parse | tokens | config | init
  deriving DecidableEq, Repr

namespace Subcommand

def ofName? : String → Option Subcommand
  | "parse" => some parse
  | "tokens" => some tokens
  | "config" => some config
  | "init" => some init
  | _ => none

/-- Whether there may be so many operands; `parse` needs one, but not to be explained. -/
def admits : Subcommand → Nat → Bool
  | parse, _ => true
  | tokens, count => count ≤ 1
  | config, count | init, count => count = 0

end Subcommand

/-- What help is asked for. -/
inductive Topic where
  | program
  | subcommand (subcommand : Subcommand)
  | help
  deriving DecidableEq, Repr

/-- The topic that is named behind the command `help`. -/
def Topic.ofNames? : List String → Option Topic
  | [] => some program
  | ["help"] => some help
  | [name] => (Subcommand.ofName? name).map subcommand
  | _ => none

inductive Command where
  | parse (queries : List String) (format : Option Format) (raw : Bool)
  | tokens (query : String)
  | config
  | init (global : Bool) (force : Bool)
  | help (topic : Topic)
  deriving DecidableEq, Repr

/-- A command, and how many levels the log is raised by. -/
structure Invocation where
  verbosity : Nat
  command : Command
  deriving DecidableEq, Repr

namespace Invocation

/-- The options and operands read so far. -/
structure Given where
  verbose : Nat := 0
  format : Option Format := none
  raw : Bool := false
  global : Bool := false
  force : Bool := false
  help : Bool := false
  operands : List String := []

namespace Given

def withFormat (g : Given) (word : List Char) : Option Given :=
  match g.format, Format.ofWord (String.ofList word) with
  | none, .ok format => some { g with format := some format }
  | _, _ => none

/-- Takes an option without a value, which may be given once; `verbose` may be repeated. -/
def withFlag (g : Given) (subcommand : Subcommand) (name : String) : Option Given :=
  match subcommand, name with
  | _, "verbose" => some { g with verbose := g.verbose + 1 }
  | .parse, "raw" => if g.raw then none else some { g with raw := true }
  | .init, "global" => if g.global then none else some { g with global := true }
  | .init, "force" => if g.force then none else some { g with force := true }
  | _, _ => none

end Given

/-- What an argument with options leaves open. -/
inductive Pending where
  | nothing (g : Given)
  | format (g : Given)
  | help (g : Given)

/-- Short options that share an argument. -/
def shorts (subcommand : Subcommand) (g : Given) : List Char → Option Pending
  | [] => some (.nothing g)
  | 'v' :: cs => shorts subcommand { g with verbose := g.verbose + 1 } cs
  | 'h' :: _ => some (.help g)
  | 'f' :: cs =>
    if subcommand = .parse then
      match cs with
      | [] => some (.format g)
      | '=' :: word => (g.withFormat word).map .nothing
      | word => (g.withFormat word).map .nothing
    else none
  | _ => none

/-- A long option, with its value if there is an equals sign. -/
def long (subcommand : Subcommand) (g : Given) (cs : List Char) : Option Pending :=
  let name := String.ofList (cs.takeWhile (· ≠ '='))
  match cs.dropWhile (· ≠ '=') with
  | [] =>
    if name = "help" then some (.help g)
    else if subcommand = .parse ∧ name = "format" then some (.format g)
    else (g.withFlag subcommand name).map .nothing
  | _ :: word =>
    if subcommand = .parse ∧ name = "format" then (g.withFormat word).map .nothing else none

/-- Whether an argument is read as an option; a lone minus sign is not. -/
def isOption (arg : String) : Bool :=
  match arg.toList with
  | '-' :: _ :: _ => true
  | _ => false

/-- What an argument leaves open, if it does not end the options. -/
def pending? (subcommand : Subcommand) (g : Given) (arg : String) : Option Pending :=
  match arg.toList with
  | '-' :: '-' :: cs => long subcommand g cs
  | '-' :: c :: cs => shorts subcommand g (c :: cs)
  | _ => some (.nothing { g with operands := g.operands ++ [arg] })

/-- Reads the arguments behind a command, up to one that asks for help. -/
def behind (subcommand : Subcommand) (g : Given) : List String → Option Given
  | [] => some g
  | arg :: args =>
    if arg = "--" then some { g with operands := g.operands ++ args }
    else match pending? subcommand g arg, args with
      | none, _ => none
      | some (.nothing g), args => behind subcommand g args
      | some (.help g), _ => some { g with help := true }
      | some (.format _), [] => none
      | some (.format g), word :: args =>
        if isOption word then none
        else match g.withFormat word.toList with
          | some g => behind subcommand g args
          | none => none

def command? (subcommand : Subcommand) (g : Given) : Option Command :=
  if g.help then
    if subcommand.admits g.operands.length then some (.help (.subcommand subcommand)) else none
  else match subcommand, g.operands with
    | .parse, [] => none
    | .parse, queries => some (.parse queries g.format g.raw)
    | .tokens, [query] => some (.tokens query)
    | .config, [] => some .config
    | .init, [] => some (.init g.global g.force)
    | _, _ => none

/-- The most that counts. -/
def verbosityLimit : Nat := 255

/-- Whether short options without a value ask for help before one of them is unknown. -/
def asksHelp (cs : List Char) : Bool := (cs.dropWhile (· = 'v')).head? = some 'h'

/-- Reads all arguments; `verbose` counts those given before the command, which yield to any that
are given behind it. -/
def ofArguments? (verbose : Nat) : List String → Option Invocation
  | [] => none
  | arg :: args =>
    match arg.toList with
    | '-' :: '-' :: cs =>
      if String.ofList cs = "verbose" then ofArguments? (verbose + 1) args
      else if String.ofList cs = "help" then some ⟨min verbose verbosityLimit, .help .program⟩
      else none
    | '-' :: c :: cs =>
      if (c :: cs).all (· = 'v') then ofArguments? (verbose + (c :: cs).length) args
      else if asksHelp (c :: cs) then some ⟨min verbose verbosityLimit, .help .program⟩
      else none
    | _ =>
      if arg = "help" then
        (Topic.ofNames? args).map fun topic => ⟨min verbose verbosityLimit, .help topic⟩
      else do
        let subcommand ← Subcommand.ofName? arg
        let given ← behind subcommand {} args
        let command ← command? subcommand given
        let count := if given.verbose = 0 then verbose else given.verbose
        return ⟨min count verbosityLimit, command⟩

end Invocation
end SearchQuery
