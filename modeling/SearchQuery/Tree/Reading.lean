import SearchQuery.Token
import SearchQuery.Tree

/-!
# Trees of tokens

    sequence    expressions side by side, joined by `and`
    expression  operand, then optionally a connective and an expression
    operand     group | negation | null check | comparison
    group       "(" sequence, closed by ")" or by the end
    negation    `not` (negation | group | comparison)
    comparison  an optional comma, then a value, a value compared with a value,
                or any operator before a value

The two connectives bind alike and to the right. One token decides each step. A connective with
nothing behind it keeps its left operand alone, and a comma behind a value is skipped. A sequence at
the top ends at a closing marker that closes nothing; what follows is not read. The one failure is
that a value is missing where only a value can stand.

Source: `scoped-query::parser`, §§4.2 to 4.9 of the specification. The readers are, rule by rule,
`parse_sequence`, `parse_logical_expression`, `parse_not_expression`, `parse_null_expression`,
`parse_comparison` with its prefix and infix form, and `parse_value`; `Tree.asWritten` is
`parse_tokens_unsimplified`, and `Tree.ofTokens` is `parse_tokens`.
-/
namespace SearchQuery

/-- A place where a value has to stand and something else was found, or nothing; `after` is the last
token read before it. -/
structure ValueExpected where
  found : Option Token
  after : Option Token
  deriving DecidableEq, Repr

def ValueExpected.message (e : ValueExpected) : String :=
  "value expected but found " ++
    match e.found with
    | some token => "`" ++ token.display ++ "`"
    | none => "end of input"

namespace Tree

/-- A place between tokens: the last token read and those still to read. -/
structure Cursor where
  last : Option Token
  rest : List Token
  deriving DecidableEq, Repr

namespace Cursor

def start (tokens : List Token) : Cursor := ⟨none, tokens⟩

def left (c : Cursor) : Nat := c.rest.length

def valueExpected (c : Cursor) : ValueExpected := ⟨c.rest.head?, c.last⟩

end Cursor

/-- A tree read at `c`, and the cursor behind it. -/
structure Step (c : Cursor) where
  tree : Tree
  next : Cursor
  fewer : next.left < c.left

/-- The trees of a sequence read at `c`, and the cursor behind them. -/
structure Steps (c : Cursor) where
  trees : List Tree
  next : Cursor
  noMore : next.left ≤ c.left

abbrev Reading (c : Cursor) := Except ValueExpected (Step c)

def value : (c : Cursor) → Reading c
  | ⟨_, .literal text :: ts⟩ => .ok ⟨leaf text, ⟨some (.literal text), ts⟩, Nat.lt_succ_self _⟩
  | c => .error c.valueExpected

/-- The operator `op`, which stands at the cursor, before a value. -/
def unary (last : Option Token) (op : Operator) (ts : List Token) :
    Reading ⟨last, .operator op :: ts⟩ := do
  let operand ← value ⟨some (.operator op), ts⟩
  return ⟨operator op [operand.tree], operand.next, Nat.lt_succ_of_lt operand.fewer⟩

/-- A value, alone or compared with a second one; a comma behind it is skipped. -/
def term (c : Cursor) : Reading c := do
  let first ← value c
  match h : first.next.rest with
  | .operator op :: ts =>
    have lt : ts.length < c.left := by
      have := first.fewer
      simp only [Cursor.left, h, List.length_cons] at this ⊢
      omega
    if op = .comma then return ⟨first.tree, ⟨some (.operator op), ts⟩, lt⟩
    else if op.isComparison then
      let second ← value ⟨some (.operator op), ts⟩
      return ⟨operator op [first.tree, second.tree], second.next, Nat.lt_trans second.fewer lt⟩
    else return first
  | _ => return first

def termOrUnary : (c : Cursor) → Reading c
  | ⟨last, .operator op :: ts⟩ => unary last op ts
  | c => term c

def comparison : (c : Cursor) → Reading c
  | ⟨_, .operator .comma :: ts⟩ => do
    let inner ← termOrUnary ⟨some (.operator .comma), ts⟩
    return ⟨inner.tree, inner.next, Nat.lt_succ_of_lt inner.fewer⟩
  | c => termOrUnary c

mutual

/-- The expressions up to a closing marker or the end, neither of which is read. -/
def sequence (c : Cursor) : Except ValueExpected (Steps c) :=
  match c with
  | ⟨_, []⟩ => return ⟨[], _, Nat.le_refl _⟩
  | ⟨_, .operator .rparen :: _⟩ => return ⟨[], _, Nat.le_refl _⟩
  | ⟨last, t :: ts⟩ => do
    let first ← expression last t ts
    let others ← sequence first.next
    return ⟨first.tree :: others.trees, others.next,
      Nat.le_of_lt (Nat.lt_of_le_of_lt others.noMore first.fewer)⟩
termination_by (c.left, 3)
decreasing_by
  · exact Prod.Lex.right _ (by omega)
  · exact Prod.Lex.left _ _ first.fewer

/-- A group whose opening marker stands at the cursor. -/
def group (last : Option Token) (ts : List Token) : Reading ⟨last, .operator .lparen :: ts⟩ := do
  let body ← sequence ⟨some (.operator .lparen), ts⟩
  have lt : body.next.left < ts.length + 1 := Nat.lt_succ_of_le body.noMore
  match h : body.next.rest with
  | .operator .rparen :: us =>
    return ⟨logical .juxtaposition body.trees, ⟨some (.operator .rparen), us⟩, by
      simp only [Cursor.left, h, List.length_cons] at lt ⊢; omega⟩
  | _ => return ⟨logical .juxtaposition body.trees, body.next, lt⟩
termination_by (ts.length + 1, 0)
decreasing_by exact Prod.Lex.left _ _ (Nat.lt_succ_self _)

/-- A negation whose `not` stands at the cursor. -/
def negation (last : Option Token) (ts : List Token) : Reading ⟨last, .operator .not :: ts⟩ := do
  let operand ← negated ts
  return ⟨operator .not [operand.tree], operand.next, Nat.lt_succ_of_lt operand.fewer⟩
termination_by (ts.length + 1, 0)
decreasing_by exact Prod.Lex.left _ _ (Nat.lt_succ_self _)

/-- What stands behind `not`. -/
def negated : (ts : List Token) → Reading ⟨some (.operator .not), ts⟩
  | .operator .not :: us => negation (some (.operator .not)) us
  | .operator .lparen :: us => group (some (.operator .not)) us
  | ts => comparison ⟨some (.operator .not), ts⟩
termination_by ts => (ts.length, 1)
decreasing_by all_goals exact Prod.Lex.right _ Nat.zero_lt_one

/-- An operand that starts with the token `t`. -/
def operand (last : Option Token) (t : Token) (ts : List Token) : Reading ⟨last, t :: ts⟩ :=
  match t with
  | .operator .lparen => group last ts
  | .operator .not => negation last ts
  | .operator .null => unary last .null ts
  | .operator .notNull => unary last .notNull ts
  | t => comparison ⟨last, t :: ts⟩
termination_by (ts.length + 1, 1)
decreasing_by all_goals exact Prod.Lex.right _ Nat.zero_lt_one

/-- An expression that starts with the token `t`. -/
def expression (last : Option Token) (t : Token) (ts : List Token) : Reading ⟨last, t :: ts⟩ := do
  let first ← operand last t ts
  match h : first.next.rest with
  | [.operator op] =>
    match Connective.ofOperator? op with
    | some connective =>
      return ⟨logical connective [first.tree], ⟨some (.operator op), []⟩, Nat.succ_pos _⟩
    | none => return first
  | .operator op :: u :: us =>
    have lt : us.length + 1 < ts.length + 1 := by
      have := first.fewer
      simp only [Cursor.left, h, List.length_cons] at this
      omega
    match Connective.ofOperator? op with
    | some connective => do
      let second ← expression (some (.operator op)) u us
      return ⟨logical connective [first.tree, second.tree], second.next,
        Nat.lt_trans second.fewer lt⟩
    | none => return first
  | _ => return first
termination_by (ts.length + 1, 2)
decreasing_by
  · exact Prod.Lex.right _ (by omega)
  · exact Prod.Lex.left _ _ lt

end

/-- What a sequence of tokens says at the top: the node that joins its expressions, and the tokens
behind a closing marker that closes nothing, from that marker on. -/
structure Outcome where
  root : Tree
  unread : List Token

def read (tokens : List Token) : Except ValueExpected Outcome :=
  (sequence (.start tokens)).map fun s => ⟨logical .juxtaposition s.trees, s.next.rest⟩

/-- The tree as written: its root is the node that joins the expressions at the top. -/
def asWritten (tokens : List Token) : Except ValueExpected Tree :=
  (read tokens).map (·.root)

def ofTokens (tokens : List Token) : Except ValueExpected Tree :=
  (asWritten tokens).map collapse

end Tree

def parse (query : String) : Except ValueExpected Tree := Tree.ofTokens (tokens query)

end SearchQuery
