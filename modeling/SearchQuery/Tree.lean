import SearchQuery.Token

/-!
# Query trees

A leaf is a literal. An operator node applies an operator to one operand, before which it is
written, or to two, between which it is written. A logical node joins any number of sub-expressions.
The type admits every shape; which ones a reader of tokens builds is a theorem about that reader.

Source: `Node` and `simplify` of `scoped-query::ast`.
-/
namespace SearchQuery

inductive Tree where
  | leaf (text : String)
  | operator (op : Operator) (children : List Tree)
  | logical (connective : Connective) (children : List Tree)
  deriving Repr

namespace Tree

def isLeaf : Tree → Bool
  | leaf _ => true
  | _ => false

def text? : Tree → Option String
  | leaf text => some text
  | _ => none

def children : Tree → List Tree
  | leaf _ => []
  | operator _ children | logical _ children => children

def lhs? (t : Tree) : Option Tree := t.children.head?

/-- The second child of a node that has exactly two. -/
def rhs? (t : Tree) : Option Tree :=
  match t.children with
  | [_, right] => some right
  | _ => none

/-- An operator written before its operand. -/
def isUnary : Tree → Bool
  | operator _ [_] => true
  | _ => false

/-- An operator written between its operands. -/
def isBinary : Tree → Bool
  | operator _ [_, _] => true
  | _ => false

/-! ### Collapsing

A logical node with one child says nothing that the child does not say. `collapse` puts the child in
its place, everywhere in the tree; empty logical nodes and nested ones of one connective stay.
-/

mutual

def collapse : Tree → Tree
  | leaf text => leaf text
  | operator op children => operator op (collapseAll children)
  | logical _ [child] => collapse child
  | logical connective children => logical connective (collapseAll children)

def collapseAll : List Tree → List Tree
  | [] => []
  | t :: ts => collapse t :: collapseAll ts

end

end Tree
end SearchQuery
