import SearchQuery.Json
import SearchQuery.Tree

/-!
# Printed trees

A tree is printed in one of three forms: as an outline, as an s-expression, or as JSON.

Source: `fmt_tree` and `to_sexp` of `scoped-query::ast`, the record form of `Node`, and what
`print_trees` of the command line makes of it.
-/
namespace SearchQuery.Tree

/-! ### Outlines

One line for each node, in the order of the tree read from the top, indented by two spaces for each
level.
-/

namespace Outline

def indent (depth : Nat) : String := String.ofList (List.replicate (2 * depth) ' ')

end Outline

mutual

def outlineLines (depth : Nat) : Tree → List String
  | leaf text => [Outline.indent depth ++ "Leaf(" ++ Text.quoted text ++ ")"]
  | operator op children =>
    (Outline.indent depth ++ "Operator(" ++ op.name ++ ")") :: outlinesLines (depth + 1) children
  | logical connective children =>
    (Outline.indent depth ++ "Logical(" ++ connective.name ++ ")") ::
      outlinesLines (depth + 1) children

def outlinesLines (depth : Nat) : List Tree → List String
  | [] => []
  | t :: ts => outlineLines depth t ++ outlinesLines depth ts

end

def outline (t : Tree) : String := String.join ((outlineLines 0 t).map (· ++ "\n"))

/-! ### S-expressions

A node is a list headed by the name of its operator, on one line; a leaf is an atom. An atom stands
bare unless it is empty or holds what a reader takes for a delimiter.
-/

namespace Sexp

def isDelimiter (c : Char) : Bool := Text.isBlank c || c = '(' || c = ')' || c = '"'

def atom (text : String) : String :=
  if text.isEmpty || text.toList.any isDelimiter then Text.quoted text else text

end Sexp

mutual

def sexp : Tree → String
  | leaf text => Sexp.atom text
  | operator op children => "(" ++ op.name ++ sexps children ++ ")"
  | logical connective children => "(" ++ connective.name ++ sexps children ++ ")"

/-- The children of a list, each behind a space. -/
def sexps : List Tree → String
  | [] => ""
  | t :: ts => " " ++ sexp t ++ sexps ts

end

/-! ### JSON

A node is a record that starts with its type, so that an operator node and a logical node of one
name can be told apart.
-/

mutual

def json : Tree → Json
  | leaf text => .record [("type", .string "leaf"), ("value", .string text)]
  | operator op children => .record [("type", .string "operator"), ("operator", .string op.name),
      ("children", .list (jsons children))]
  | logical connective children => .record [("type", .string "logical"),
      ("operator", .string connective.name), ("children", .list (jsons children))]

def jsons : List Tree → List Json
  | [] => []
  | t :: ts => json t :: jsons ts

end

/-- Queries with their trees, in order. -/
def jsonOfQueries (queries : List (String × Tree)) : Json :=
  .record [("queries", .list (queries.map fun query =>
    .record [("query", .string query.1), ("ast", query.2.json)]))]

end SearchQuery.Tree
