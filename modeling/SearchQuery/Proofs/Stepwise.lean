import SearchQuery.Proofs.Grammar

/-!
# Reading token by token

The rules once more, as a program that peeks at the next token and moves past it. Nothing in it says
that it ends, or that it moves past no more tokens than there are: its rules start one another as
often as they like, up to a depth at which the run is broken off, and to move on behind the last
token is a fault. A run counts the rounds of its sequences, one for each expression they go on to.
-/
namespace SearchQuery.Stepwise
open SearchQuery.Tree (Cursor)

/-- Where a run is, and how many rounds its sequences have made. -/
structure State where
  cursor : Cursor
  rounds : Nat

/-- Why a run stops short; only a missing value is an answer. -/
inductive Stop where
  | valueExpected (e : ValueExpected)
  | movedPastEnd
  | tooDeep

abbrev Reader := ExceptT Stop (StateM State)

def peek : Reader (Option Token) := do return (← get).cursor.rest.head?

def next : Reader Unit := do
  match (← get).cursor.rest with
  | [] => throw .movedPastEnd
  | t :: ts => modify fun s => { s with cursor := ⟨some t, ts⟩ }

/-- Moves past the token `t` if that one comes next. -/
def skip (t : Token) : Reader Unit := do
  if (← peek) = some t then next

def valueExpected : Reader Tree := do throw (.valueExpected (← get).cursor.valueExpected)

def nextRound : Reader Unit := modify fun s => { s with rounds := s.rounds + 1 }

/-! ### The rules -/

def value : Reader Tree := do
  match ← peek with
  | some (.literal text) =>
    next
    return .leaf text
  | _ => valueExpected

/-- An operator, which was seen, and the value behind it. -/
def unary (op : Operator) : Reader Tree := do
  next
  return .operator op [← value]

/-- A value, alone or compared with a second one; a comma behind it is skipped. -/
def infixed : Reader Tree := do
  let first ← value
  match ← peek with
  | some (.operator op) =>
    if op = .comma then
      next
      return first
    else if op.isComparison then
      next
      return .operator op [first, ← value]
    else return first
  | _ => return first

def infixedOrUnary : Reader Tree := do
  match ← peek with
  | some (.literal _) => infixed
  | some (.operator op) => unary op
  | none => valueExpected

def comparison : Reader Tree := do
  skip (.operator .comma)
  infixedOrUnary

/-- The rules that start one another. A group takes in its markers, and a negation its `not`, which
was seen. -/
inductive Part where
  | sequence | group | expression | operand | negation | negated
  deriving DecidableEq

def connective? : Token → Option Connective
  | .operator op => Connective.ofOperator? op
  | .literal _ => none

/-- The trees that a part reads: those of a sequence, one of an expression or an operand unless the
tokens are at their end, and one of any other. -/
def read : Nat → Part → Reader (List Tree)
  | 0, _ => throw .tooDeep
  | depth + 1, .sequence => do
    match ← peek with
    | none | some (.operator .rparen) => return []
    | _ =>
      nextRound
      let first ← read depth .expression
      let others ← read depth .sequence
      return first ++ others
  | depth + 1, .group => do
    skip (.operator .lparen)
    let trees ← read depth .sequence
    skip (.operator .rparen)
    return [.logical .juxtaposition trees]
  | depth + 1, .expression => do
    let first ← read depth .operand
    match (← peek).bind connective? with
    | some connective =>
      next
      let second ← read depth .expression
      return [.logical connective (first ++ second)]
    | none => return first
  | depth + 1, .operand => do
    match ← peek with
    | none => return []
    | some (.operator .lparen) => read depth .group
    | some (.operator .not) => read depth .negation
    | some (.operator .null) => return [← unary .null]
    | some (.operator .notNull) => return [← unary .notNull]
    | some _ => return [← comparison]
  | depth + 1, .negation => do
    next
    let operand ← read depth .negated
    return [.operator .not operand]
  | depth + 1, .negated => do
    match ← peek with
    | some (.operator .not) => read depth .negation
    | some (.operator .lparen) => read depth .group
    | _ => return [← comparison]

/-- A sequence at the top, under the node that joins its expressions. -/
def top (depth : Nat) : Reader Tree := do return .logical .juxtaposition (← read depth .sequence)

/-! ### Runs -/

variable {α β : Type} {m : Reader α} {f : α → Reader β} {a : α} {answer : Except Stop β}
  {s s₁ s₂ : State}

/-- A run of `m` from `s` comes to its end at `s'`. -/
def Runs (m : Reader α) (s : State) (answer : Except Stop α) (s' : State) : Prop :=
  m.run.run s = (answer, s')

theorem runs_pure (a : α) (s : State) : Runs (pure a) s (.ok a) s := rfl

theorem Runs.bind (first : Runs m s (.ok a) s₁) (second : Runs (f a) s₁ answer s₂) :
    Runs (m >>= f) s answer s₂ := by
  unfold Runs at *
  simp only [ExceptT.run_bind, StateT.run_bind, first]
  exact second

theorem Runs.bind_error {e : Stop} (first : Runs m s (.error e) s₁) :
    Runs (m >>= f) s (.error e) s₁ := by
  unfold Runs at *
  simp only [ExceptT.run_bind, StateT.run_bind, first]
  rfl

/-- Whatever a run answers, the tree made of it is its answer. -/
theorem Runs.bind_pure {result : Except Stop α} {g : α → β} (first : Runs m s result s₁) :
    Runs (m >>= fun a => pure (g a)) s (result.map g) s₁ := by
  cases result with
  | error e => exact first.bind_error
  | ok a => exact first.bind (runs_pure _ _)

theorem runs_peek {f : Option Token → Reader β} (further : Runs (f s.cursor.rest.head?) s answer s₂) :
    Runs (peek >>= f) s answer s₂ := further

theorem runs_next (last : Option Token) (t : Token) (ts : List Token) (n : Nat) :
    Runs next ⟨⟨last, t :: ts⟩, n⟩ (.ok ()) ⟨⟨some t, ts⟩, n⟩ := rfl

theorem runs_skip (last : Option Token) (t : Token) (ts : List Token) (n : Nat) :
    Runs (skip t) ⟨⟨last, t :: ts⟩, n⟩ (.ok ()) ⟨⟨some t, ts⟩, n⟩ := by
  refine runs_peek ?_
  rw [if_pos (by rfl)]
  exact runs_next last t ts n

theorem runs_skip_other {t : Token} (other : s.cursor.rest.head? ≠ some t) :
    Runs (skip t) s (.ok ()) s := by
  refine runs_peek ?_
  rw [if_neg other]
  exact runs_pure () s

/-! ### What a rule does, by the token that comes next -/

/-- From `s` on, `m` does what `m'` does from `s'` on. -/
def Becomes (m : Reader α) (s : State) (m' : Reader α) (s' : State) : Prop :=
  m.run.run s = m'.run.run s'

theorem Becomes.runs {m' : Reader β} {m : Reader β} (becomes : Becomes m s m' s₁)
    (runs : Runs m' s₁ answer s₂) : Runs m s answer s₂ := becomes.trans runs

variable {n : Nat} {last : Option Token} {t : Token} {ts : List Token}

theorem runs_value_missing (missing : Grammar.isValue ts.head? = false) :
    Runs value ⟨⟨last, ts⟩, n⟩ (.error (.valueExpected ⟨ts.head?, last⟩)) ⟨⟨last, ts⟩, n⟩ := by
  match ts with
  | [] => rfl
  | .operator _ :: _ => rfl

theorem becomes_unary (op : Operator) (ts : List Token) :
    Becomes infixedOrUnary ⟨⟨last, .operator op :: ts⟩, n⟩
      (do return .operator op [← value]) ⟨⟨some (.operator op), ts⟩, n⟩ := rfl

theorem runs_infixed_alone (v : String) (ends : Grammar.extendsValue ts.head? = false) :
    Runs infixedOrUnary ⟨⟨last, .literal v :: ts⟩, n⟩ (.ok (.leaf v)) ⟨⟨some (.literal v), ts⟩, n⟩ := by
  match ts with
  | [] => rfl
  | .literal _ :: _ => rfl
  | .operator op :: _ => cases op <;> first | rfl | cases ends

theorem becomes_compared (v : String) {op : Operator} (compares : op.isComparison = true)
    (ts : List Token) :
    Becomes infixedOrUnary ⟨⟨last, .literal v :: .operator op :: ts⟩, n⟩
      (do return .operator op [.leaf v, ← value]) ⟨⟨some (.operator op), ts⟩, n⟩ := by
  cases op <;> first | rfl | cases compares

theorem runs_sequence_closes (depth : Nat) (ends : Grammar.closes ts.head? = true) :
    Runs (read (depth + 1) .sequence) ⟨⟨last, ts⟩, n⟩ (.ok []) ⟨⟨last, ts⟩, n⟩ := by
  rw [read]
  refine runs_peek ?_
  rcases Grammar.none_or_rparen ends with ahead | ahead
  · simp only [ahead]
    exact runs_pure _ _
  · simp only [ahead]
    exact runs_pure _ _

/-- A sequence in front of a token that does not close it makes a round. -/
theorem becomes_round (depth : Nat) (opens : t ≠ .operator .rparen) :
    Becomes (read (depth + 1) .sequence) ⟨⟨last, t :: ts⟩, n⟩
      (do
        let first ← read depth .expression
        let others ← read depth .sequence
        return first ++ others)
      ⟨⟨last, t :: ts⟩, n + 1⟩ := by
  rw [read]
  cases t with
  | literal v => rfl
  | operator op => cases op <;> first | rfl | exact absurd rfl opens

/-- Behind a negation as elsewhere, the next token tells the operand. -/
theorem becomes_negated (depth : Nat) :
    Becomes (read (depth + 1) .operand) ⟨⟨last, t :: ts⟩, n⟩
      (read (depth + 1) .negated) ⟨⟨last, t :: ts⟩, n⟩ := by
  rw [read, read]
  cases t with
  | literal v => rfl
  | operator op => cases op <;> rfl

theorem becomes_term (depth : Nat) (opens : Grammar.opensTerm t = true) :
    Becomes (read (depth + 1) .negated) ⟨⟨last, t :: ts⟩, n⟩
      (do return [← infixedOrUnary]) ⟨⟨last, t :: ts⟩, n⟩ := by
  rw [read]
  cases t with
  | literal v => rfl
  | operator op => cases op <;> first | rfl | cases opens

theorem becomes_term_comma (depth : Nat) :
    Becomes (read (depth + 1) .negated) ⟨⟨last, .operator .comma :: ts⟩, n⟩
      (do return [← infixedOrUnary]) ⟨⟨some (.operator .comma), ts⟩, n⟩ := by
  rw [read]
  rfl

theorem becomes_group (depth : Nat) :
    Becomes (read (depth + 2) .negated) ⟨⟨last, .operator .lparen :: ts⟩, n⟩
      (do
        let trees ← read depth .sequence
        skip (.operator .rparen)
        return [.logical .juxtaposition trees])
      ⟨⟨some (.operator .lparen), ts⟩, n⟩ := by
  rw [read, read]
  rfl

theorem becomes_negation (depth : Nat) :
    Becomes (read (depth + 2) .negated) ⟨⟨last, .operator .not :: ts⟩, n⟩
      (do
        let operand ← read depth .negated
        return [.operator .not operand])
      ⟨⟨some (.operator .not), ts⟩, n⟩ := by
  rw [read, read]
  rfl

/-- What becomes of an operand with the connective behind it. -/
def link (depth : Nat) (first : List Tree) : Reader (List Tree) := do
  match (← peek).bind connective? with
  | some connective =>
    next
    let second ← read depth .expression
    return [.logical connective (first ++ second)]
  | none => return first

theorem read_expression (depth : Nat) :
    read (depth + 1) .expression = read depth .operand >>= link depth := by
  rw [read]
  rfl

theorem runs_link_alone (depth : Nat) (trees : List Tree)
    (ends : Grammar.links ts.head? = false) :
    Runs (link depth trees) ⟨⟨last, ts⟩, n⟩ (.ok trees) ⟨⟨last, ts⟩, n⟩ := by
  match ts with
  | [] => rfl
  | .literal _ :: _ => rfl
  | .operator op :: _ => cases op <;> first | rfl | cases ends

theorem becomes_linked (depth : Nat) (trees : List Tree) (connective : Connective) :
    Becomes (link depth trees) ⟨⟨last, .operator connective.operator :: ts⟩, n⟩
      (do
        let others ← read depth .expression
        return [.logical connective (trees ++ others)])
      ⟨⟨some (.operator connective.operator), ts⟩, n⟩ := by
  cases connective <;> rfl

end SearchQuery.Stepwise
