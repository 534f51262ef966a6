import SearchQuery.Text.Split

/-!
# Starter files

A first settings file shows every setting with its default. All of it is commented out, so that the
file changes nothing until it is edited.

Source: `local_template`, `global_template` and `comment_template` of `scoped-config`.
-/
namespace SearchQuery.Starter

/-- Puts a number sign before each line that is neither empty nor a comment. -/
def commentedLine : List Char → List Char
  | [] => []
  | '#' :: cs => '#' :: cs
  | cs => '#' :: ' ' :: cs

def commented (lines : List String) : String :=
  String.join (lines.map fun line => String.ofList (commentedLine line.toList) ++ "\n")

/-- For a directory and what is below it. -/
def localLines : List String := [
  "# Configuration for the scoped query tool.",
  "#",
  "# Settings in this file apply to this directory and everything below it. Files closer to the",
  "# working directory take precedence over files further up, and ~/.scoped.toml comes last.",
  "",
  "# Stop looking for configuration in parent directories and the home directory.",
  "root = false",
  "",
  "[output]",
  "# How `scoped parse` prints a query tree: \"tree\", \"sexp\" or \"json\".",
  "format = \"tree\"",
  "",
  "[parser]",
  "# Collapse single-child logical nodes after parsing.",
  "simplify = true",
  "",
  "[log]",
  "# Log level: \"error\", \"warn\", \"info\", \"debug\" or \"trace\".",
  "level = \"warn\""]

/-- For the home directory. -/
def globalLines : List String := [
  "# Global configuration for the scoped query tool.",
  "#",
  "# Lowest precedence: any .scoped.toml between the working directory and the filesystem root",
  "# overrides these values.",
  "",
  "[output]",
  "# How `scoped parse` prints a query tree: \"tree\", \"sexp\" or \"json\".",
  "format = \"tree\"",
  "",
  "[log]",
  "# Log level: \"error\", \"warn\", \"info\", \"debug\" or \"trace\".",
  "level = \"warn\""]

def localText : String := commented localLines

def globalText : String := commented globalLines

end SearchQuery.Starter
