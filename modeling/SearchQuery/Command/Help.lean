import SearchQuery.Command.Invocation

/-!
# Help

The texts of the program and of its commands, which stand in the help and, as far as they show what
may be written, in the answer to a usage error. Their layout is plain: the columns, headings and
styles that the argument reader adds are left out.

Source: the texts of `Cli`, `ParseCommand`, `TokensCommand` and `InitCommand` of `scoped`.
-/
namespace SearchQuery

namespace Subcommand

def all : List Subcommand := [parse, tokens, config, init]

def name : Subcommand → String
  | parse => "parse"
  | tokens => "tokens"
  | config => "config"
  | init => "init"

def usage : Subcommand → String
  | parse => "scoped [-v]... parse [-f FORMAT] [--raw] QUERY..."
  | tokens => "scoped [-v]... tokens QUERY"
  | config => "scoped [-v]... config"
  | init => "scoped [-v]... init [--global] [--force]"

def about : Subcommand → String
  | parse => "Parse queries and print their syntax trees"
  | tokens => "Show the token stream for a query"
  | config => "Show effective configuration settings"
  | init => "Initialize a configuration file"

/-- The operands and options of a command alone. -/
def arguments : Subcommand → List String
  | parse => ["QUERY  Queries to parse (each argument is a separate query)",
      "-f, --format FORMAT  Output format: tree, sexp or json [default: from config, else tree]",
      "--raw  Print the tree exactly as parsed, without simplification"]
  | tokens => ["QUERY  Query to tokenize"]
  | config => []
  | init => ["--global  Create global config (~/.scoped.toml) instead of local",
      "--force  Overwrite existing config file"]

/-- What is said behind the arguments. -/
def remarks : Subcommand → List String
  | parse => ["QUERY SYNTAX:",
      "    rust                  Free-text term",
      "    age > 18              Comparison (=, !=, <>, ~, !~, <, <=, >, >=)",
      "    null? phone           Null check (also set? and has)",
      "    a and b, a & b        Both must match",
      "    a or b, a | b         Either may match",
      "    not a, !a, -a         Negation",
      "    (a or b) c            Grouping; juxtaposed expressions are ANDed",
      "    \"John Doe\"            Quoted value"]
  | tokens | config | init => []

end Subcommand

def usageLines : List String := Subcommand.all.map ("usage: " ++ ·.usage)

namespace Topic

def helpAbout : String := "Print this message or the help of the given subcommand(s)"

/-- The options of every command. -/
def options : List String :=
  ["-v, --verbose  Increase log verbosity (-v info, -vv debug, -vvv trace)",
    "-h, --help  Print help"]

def lines : Topic → List String
  | program => "Parse and inspect scoped search queries" :: usageLines ++
      Subcommand.all.map (fun command => command.name ++ "  " ++ command.about) ++
      ["help  " ++ helpAbout] ++ options
  | subcommand command =>
    [command.about, "usage: " ++ command.usage] ++ command.arguments ++ options ++ command.remarks
  | help => [helpAbout, "usage: scoped help [COMMAND]"]

end Topic
end SearchQuery
