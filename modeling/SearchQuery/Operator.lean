/-!
# Operators

The fixed vocabulary of a query: connectives, negation, null checks, comparisons, and the three
structural markers. An operator is written by a symbol of one or two characters or by a keyword.

Source: `Operator` of `scoped-query::lexer`, with `from_symbol` and `from_keyword`, and
`LogicalOperator` of `scoped-query::ast`.
-/
namespace SearchQuery

inductive Operator where
  | and | or | not | null | notNull
  | eq | ne | gt | gte | lt | lte | like | unlike
  | lparen | rparen | comma
  deriving DecidableEq, Repr

namespace Operator

def all : List Operator :=
  [and, or, not, null, notNull, eq, ne, gt, gte, lt, lte, like, unlike, lparen, rparen, comma]

def name : Operator → String
  | and => "and"
  | or => "or"
  | not => "not"
  | null => "null"
  | notNull => "notnull"
  | eq => "eq"
  | ne => "ne"
  | gt => "gt"
  | gte => "gte"
  | lt => "lt"
  | lte => "lte"
  | like => "like"
  | unlike => "unlike"
  | lparen => "lparen"
  | rparen => "rparen"
  | comma => "comma"

def ofName? (name : String) : Option Operator :=
  all.find? (·.name == name)

def isNullCheck : Operator → Bool
  | null | notNull => true
  | _ => false

def isComparison : Operator → Bool
  | eq | ne | gt | gte | lt | lte | like | unlike => true
  | _ => false

/-- The operator that one or two symbol characters write; the markers are no symbols. -/
def ofSymbol? : List Char → Option Operator
  | ['&'] | ['&', '&'] => some and
  | ['|'] | ['|', '|'] => some or
  | ['!'] | ['-'] => some not
  | ['~'] => some like
  | ['!', '~'] => some unlike
  | ['='] | ['=', '='] => some eq
  | ['!', '='] | ['<', '>'] => some ne
  | ['>'] => some gt
  | ['>', '='] => some gte
  | ['<'] => some lt
  | ['<', '='] => some lte
  | _ => none

/-- The operator that a whole word writes, whatever the case of its ASCII letters. -/
def ofKeyword? (word : List Char) : Option Operator :=
  match String.ofList (word.map Char.toLower) with
  | "and" => some and
  | "or" => some or
  | "not" => some not
  | "null?" => some null
  | "set?" | "has" => some notNull
  | _ => none

end Operator

/-- What joins the parts of a logical node. -/
inductive Connective where
  | and | or
  deriving DecidableEq, Repr

namespace Connective

/-- Joins expressions that stand side by side. -/
def juxtaposition : Connective := and

def operator : Connective → Operator
  | and => .and
  | or => .or

def ofOperator? : Operator → Option Connective
  | .and => some and
  | .or => some or
  | _ => none

def name (connective : Connective) : String := connective.operator.name

end Connective

def Operator.isConnective (op : Operator) : Bool := (Connective.ofOperator? op).isSome

end SearchQuery
