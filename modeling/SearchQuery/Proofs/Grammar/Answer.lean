import SearchQuery.Proofs.Grammar

/-!
# What the rules answer

`Rule.answer` is what a reader makes of a cursor, with the bound on the tokens left forgotten. One
equation for each rule and each kind of token at the cursor says how the answer comes from those of
the rules it starts with; nothing below opens a reader again.
-/
namespace SearchQuery.Grammar
open SearchQuery.Tree

abbrev Answer := Except ValueExpected (List Tree × Cursor)

def answered {c : Cursor} (reading : Reading c) : Answer :=
  reading.map fun s => ([s.tree], s.next)

namespace Rule

/-- What a rule makes of a cursor; an operand is missing at the end of the tokens. -/
def answer : Rule → Cursor → Answer
  | term, c => answered (termOrUnary c)
  | operand, ⟨last, t :: ts⟩ => answered (Tree.operand last t ts)
  | expression, ⟨last, t :: ts⟩ => answered (Tree.expression last t ts)
  | sequence, c => (Tree.sequence c).map fun s => (s.trees, s.next)
  | _, c => .error c.valueExpected

/-- The group that a body makes, which takes in its closing marker. -/
def close : List Tree × Cursor → List Tree × Cursor
  | (trees, ⟨_, .operator .rparen :: ts⟩) =>
    ([.logical .juxtaposition trees], ⟨some (.operator .rparen), ts⟩)
  | (trees, c) => ([.logical .juxtaposition trees], c)

/-- What an operand becomes with the connective behind it. -/
def link : List Tree × Cursor → Answer
  | (trees, ⟨last, .operator op :: ts⟩) =>
    match Connective.ofOperator? op with
    | none => .ok (trees, ⟨last, .operator op :: ts⟩)
    | some connective =>
      if ts = [] then .ok ([.logical connective trees], ⟨some (.operator op), []⟩)
      else (answer expression ⟨some (.operator op), ts⟩).map fun (others, c) =>
        ([.logical connective (trees ++ others)], c)
  | (trees, c) => .ok (trees, c)

theorem answer_term_operator (last : Option Token) (op : Operator) (ts : List Token) :
    answer term ⟨last, .operator op :: ts⟩ =
      (answered (value ⟨some (.operator op), ts⟩)).map fun (trees, c) => ([.operator op trees], c) := by
  simp only [answer, termOrUnary, unary, answered]
  cases value ⟨some (.operator op), ts⟩ <;> rfl

theorem answered_comparison_comma (last : Option Token) (ts : List Token) :
    answered (comparison ⟨last, .operator .comma :: ts⟩) =
      answer term ⟨some (.operator .comma), ts⟩ := by
  simp only [answer, comparison, answered]
  cases termOrUnary ⟨some (.operator .comma), ts⟩ <;> rfl

theorem answered_comparison (last : Option Token) (t : Token) (ts : List Token)
    (notComma : t ≠ .operator .comma) :
    answered (comparison ⟨last, t :: ts⟩) = answer term ⟨last, t :: ts⟩ := by
  rw [comparison]
  · rfl
  · simp_all

theorem answer_operand_comma (last : Option Token) (ts : List Token) :
    answer operand ⟨last, .operator .comma :: ts⟩ = answer term ⟨some (.operator .comma), ts⟩ := by
  simp only [answer, Tree.operand]
  exact answered_comparison_comma last ts

theorem answer_operand_term (last : Option Token) (t : Token) (ts : List Token)
    (opens : opensTerm t = true) :
    answer operand ⟨last, t :: ts⟩ = answer term ⟨last, t :: ts⟩ := by
  have notComma : t ≠ .operator .comma := by rintro rfl; simp [opensTerm] at opens
  simp only [answer]
  unfold Tree.operand
  split
  · simp [opensTerm] at opens
  · simp [opensTerm] at opens
  · rfl
  · rfl
  · exact answered_comparison last t ts notComma

theorem answer_operand_lparen (last : Option Token) (ts : List Token) :
    answer operand ⟨last, .operator .lparen :: ts⟩ =
      (answer sequence ⟨some (.operator .lparen), ts⟩).map close := by
  simp only [answer, Tree.operand, Tree.group, answered]
  cases Tree.sequence ⟨some (.operator .lparen), ts⟩ with
  | error e => rfl
  | ok body =>
    obtain ⟨trees, ⟨l, r⟩, noMore⟩ := body
    rcases r with _ | ⟨op | _, _⟩
    · rfl
    · cases op <;> rfl
    · rfl

/-- What stands behind a negation is told apart anew, with a null check left to the comparison. -/
theorem answered_negated (ts : List Token) :
    answered (negated ts) = answer operand ⟨some (.operator .not), ts⟩ := by
  unfold negated
  split
  · simp only [answer, Tree.operand]
  · simp only [answer, Tree.operand]
  · cases ts with
    | nil => rfl
    | cons t us =>
      by_cases comma : t = .operator .comma
      · rw [comma, answered_comparison_comma, answer_operand_comma]
      · have opens : opensTerm t = true := by
          cases t <;> simp_all [opensTerm]
        rw [answered_comparison _ t us comma, answer_operand_term _ t us opens]

theorem answer_operand_not (last : Option Token) (ts : List Token) :
    answer operand ⟨last, .operator .not :: ts⟩ =
      (answer operand ⟨some (.operator .not), ts⟩).map fun (trees, c) =>
        ([.operator .not trees], c) := by
  rw [← answered_negated]
  simp only [answer, Tree.operand, Tree.negation, answered]
  cases negated ts <;> rfl

theorem answer_expression (last : Option Token) (ts : List Token) :
    answer expression ⟨last, ts⟩ = answer operand ⟨last, ts⟩ >>= link := by
  cases ts with
  | nil => rfl
  | cons t ts =>
    simp only [answer]
    unfold Tree.expression
    simp only [answered]
    cases Tree.operand last t ts with
    | error e => rfl
    | ok first =>
      obtain ⟨x, ⟨l, r⟩, fewer⟩ := first
      rcases r with _ | ⟨op | _, _ | ⟨u, us⟩⟩
      · rfl
      · cases op <;> rfl
      · cases joins : Connective.ofOperator? op with
        | none => cases op <;> first | rfl | cases joins
        | some connective =>
          simp only [Except.map, bind, Except.bind, joins, link, answer, answered]
          cases Tree.expression (some (.operator op)) u us <;> rfl
      · rfl
      · rfl

theorem answer_sequence_closes (last : Option Token) (ts : List Token)
    (ends : closes ts.head? = true) :
    answer sequence ⟨last, ts⟩ = .ok ([], ⟨last, ts⟩) := by
  simp only [answer]
  match ts with
  | [] => rw [Tree.sequence]; rfl
  | .operator .rparen :: us => rw [Tree.sequence]; rfl

theorem answer_sequence_cons (last : Option Token) (t : Token) (ts : List Token)
    (opens : t ≠ .operator .rparen) :
    answer sequence ⟨last, t :: ts⟩ = answer expression ⟨last, t :: ts⟩ >>= fun (first, c) =>
      (answer sequence c).map fun (others, c) => (first ++ others, c) := by
  simp only [answer, answered]
  rw [Tree.sequence]
  · cases Tree.expression last t ts with
    | error e => rfl
    | ok first =>
      simp only [Except.map, bind, Except.bind]
      cases Tree.sequence first.next <;> rfl
  · simp_all

theorem answered_value_missing (last : Option Token) (ts : List Token)
    (missing : isValue ts.head? = false) :
    answered (value ⟨last, ts⟩) = .error ⟨ts.head?, last⟩ := by
  match ts with
  | [] => rfl
  | .operator _ :: _ => rfl

theorem answer_term_value (last : Option Token) (v : String) (ts : List Token)
    (ends : extendsValue ts.head? = false) :
    answer term ⟨last, .literal v :: ts⟩ = .ok ([.leaf v], ⟨some (.literal v), ts⟩) := by
  match ts with
  | [] => rfl
  | .literal _ :: _ => rfl
  | .operator op :: _ => cases op <;> first | rfl | cases ends

theorem answer_term_separated (last : Option Token) (v : String) (ts : List Token) :
    answer term ⟨last, .literal v :: .operator .comma :: ts⟩ =
      .ok ([.leaf v], ⟨some (.operator .comma), ts⟩) := rfl

theorem answer_term_compared (last : Option Token) (v : String) (op : Operator) (ts : List Token)
    (compares : op.isComparison = true) :
    answer term ⟨last, .literal v :: .operator op :: ts⟩ =
      (answered (value ⟨some (.operator op), ts⟩)).map fun (trees, c) =>
        ([.operator op (.leaf v :: trees)], c) := by
  have notComma : op ≠ .comma := by rintro rfl; cases compares
  simp only [answer, termOrUnary, Tree.term, value, bind, Except.bind, answered, if_neg notComma,
    if_pos compares]
  match ts with
  | [] => rfl
  | .literal _ :: _ => rfl
  | .operator _ :: _ => rfl

theorem link_alone (trees : List Tree) (last : Option Token) (ts : List Token)
    (ends : links ts.head? = false) : link (trees, ⟨last, ts⟩) = .ok (trees, ⟨last, ts⟩) := by
  match ts with
  | [] => rfl
  | .literal _ :: _ => rfl
  | .operator op :: _ => cases op <;> first | rfl | cases ends

theorem link_trailing (trees : List Tree) (last : Option Token) (connective : Connective) :
    link (trees, ⟨last, [.operator connective.operator]⟩) =
      .ok ([.logical connective trees], ⟨some (.operator connective.operator), []⟩) := by
  cases connective <;> rfl

theorem link_linked (trees : List Tree) (last : Option Token) (connective : Connective)
    (t : Token) (ts : List Token) :
    link (trees, ⟨last, .operator connective.operator :: t :: ts⟩) =
      (answer expression ⟨some (.operator connective.operator), t :: ts⟩).map
        fun (others, c) => ([.logical connective (trees ++ others)], c) := by
  cases connective <;> rfl

end Rule
end SearchQuery.Grammar
