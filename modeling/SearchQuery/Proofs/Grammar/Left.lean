import SearchQuery.Proofs.Grammar.Agreement

/-!
# What a reader leaves

Every reader that answers has read at least one token, leaves the tokens behind it as they are, and
remembers the last one that it read. A sequence may read none. Where a value is missing, it is
missing at such a place too.
-/
namespace SearchQuery.Tree
open SearchQuery.Grammar

variable {c c' : Cursor} {last : Option Token} {t : Token} {ts : List Token} {rule : Rule}

/-- The cursor `c'` stands behind the tokens `xs` of the cursor `c`. -/
structure Cursor.Behind (c : Cursor) (xs : List Token) (c' : Cursor) : Prop where
  rest : c.rest = xs ++ c'.rest
  last : c'.last = behind c.last xs

/-- A value is missing behind some of the tokens, of which there may be none. -/
def Cursor.MissesBehind (c : Cursor) (e : ValueExpected) : Prop :=
  ∃ xs c', c.Behind xs c' ∧ e = c'.valueExpected

/-- A reading that answers has read tokens and stands behind them. -/
def Advances : Reading c → Prop
  | .ok s => ∃ xs, xs ≠ [] ∧ c.Behind xs s.next
  | .error e => c.MissesBehind e

/-- The same for the readings of a sequence, which may read nothing. -/
def Proceeds : Except ValueExpected (Steps c) → Prop
  | .ok s => ∃ xs, c.Behind xs s.next
  | .error e => c.MissesBehind e

theorem Cursor.Behind.nil (c : Cursor) : c.Behind [] c := ⟨rfl, rfl⟩

theorem behind_of_answer {trees : List Tree} (answers : rule.answer ⟨last, ts⟩ = .ok (trees, c')) :
    ∃ xs, (rule ≠ .sequence → xs ≠ []) ∧ Cursor.Behind ⟨last, ts⟩ xs c' := by
  have derived := derived_answer rule last ts
  rw [answers] at derived
  cases derived with
  | read xs parts placed reads => exact ⟨xs, reads.ne_nil, parts, placed⟩

theorem missesBehind_of_answer {e : ValueExpected} (answers : rule.answer ⟨last, ts⟩ = .error e) :
    Cursor.MissesBehind ⟨last, ts⟩ e := by
  have derived := derived_answer rule last ts
  rw [answers] at derived
  cases derived with
  | @missed xs found after rest parts ahead placed misses =>
    refine ⟨xs, ⟨after, rest⟩, ⟨parts, placed⟩, ?_⟩
    rw [← ahead]
    rfl

/-- A reader of its own that answers what a rule does. -/
theorem advances_of_answered {reading : Reading ⟨last, ts⟩} (rule : Rule) (single : rule ≠ .sequence)
    (same : answered reading = rule.answer ⟨last, ts⟩) : Advances reading := by
  cases reading with
  | ok s =>
    obtain ⟨xs, written, stands⟩ := behind_of_answer same.symm
    exact ⟨xs, written single, stands⟩
  | error e => exact missesBehind_of_answer same.symm

theorem advances_value : Advances (value ⟨last, ts⟩) := by
  match ts with
  | [] => exact ⟨[], _, .nil _, rfl⟩
  | .operator _ :: _ => exact ⟨[], _, .nil _, rfl⟩
  | .literal v :: us => exact ⟨[.literal v], List.cons_ne_nil _ _, rfl, rfl⟩

theorem advances_unary (op : Operator) : Advances (unary last op ts) :=
  advances_of_answered .term (by decide) rfl

theorem advances_termOrUnary : Advances (termOrUnary ⟨last, ts⟩) :=
  advances_of_answered .term (by decide) rfl

/-- A term stands by itself only where no operator is at the cursor; there it is a missing value. -/
theorem advances_term : Advances (term ⟨last, ts⟩) := by
  match ts with
  | [] => exact advances_of_answered .term (by decide) rfl
  | .literal v :: us => exact advances_of_answered .term (by decide) rfl
  | .operator op :: us => exact ⟨[], _, .nil _, rfl⟩

theorem advances_comparison : Advances (comparison ⟨last, ts⟩) := by
  match ts with
  | [] => exact advances_of_answered .term (by decide) rfl
  | t :: us =>
    by_cases comma : t = .operator .comma
    · subst comma
      refine advances_of_answered .operand (by decide) ?_
      rw [Rule.answered_comparison_comma, Rule.answer_operand_comma]
    · exact advances_of_answered .term (by decide) (Rule.answered_comparison last t us comma)

theorem advances_operand : Advances (operand last t ts) :=
  advances_of_answered .operand (by decide) rfl

theorem advances_group : Advances (group last ts) :=
  advances_of_answered .operand (by decide) (by simp only [Rule.answer, operand])

theorem advances_negation : Advances (negation last ts) :=
  advances_of_answered .operand (by decide) (by simp only [Rule.answer, operand])

theorem advances_negated : Advances (negated ts) :=
  advances_of_answered .operand (by decide) (Rule.answered_negated ts)

theorem advances_expression : Advances (expression last t ts) :=
  advances_of_answered .expression (by decide) rfl

theorem proceeds_sequence : Proceeds (sequence ⟨last, ts⟩) := by
  have same : (sequence ⟨last, ts⟩).map (fun s => (s.trees, s.next)) =
      Rule.answer .sequence ⟨last, ts⟩ := rfl
  generalize sequence ⟨last, ts⟩ = reading at same ⊢
  cases reading with
  | ok s =>
    obtain ⟨xs, -, stands⟩ := behind_of_answer same.symm
    exact ⟨xs, stands⟩
  | error e => exact missesBehind_of_answer same.symm

/-- What each reader leaves of the tokens `ts` behind `last`, or of those behind a token at the cursor
that it takes for granted. -/
structure ReadersAdvance (last : Option Token) (ts : List Token) : Prop where
  value : Advances (value ⟨last, ts⟩)
  unary : ∀ op, Advances (unary last op ts)
  term : Advances (term ⟨last, ts⟩)
  termOrUnary : Advances (termOrUnary ⟨last, ts⟩)
  comparison : Advances (comparison ⟨last, ts⟩)
  sequence : Proceeds (sequence ⟨last, ts⟩)
  group : Advances (group last ts)
  negation : Advances (negation last ts)
  negated : Advances (negated ts)
  operand : ∀ t, Advances (operand last t ts)
  expression : ∀ t, Advances (expression last t ts)

theorem readersAdvance (last : Option Token) (ts : List Token) : ReadersAdvance last ts where
  value := advances_value
  unary := advances_unary
  term := advances_term
  termOrUnary := advances_termOrUnary
  comparison := advances_comparison
  sequence := proceeds_sequence
  group := advances_group
  negation := advances_negation
  negated := advances_negated
  operand := fun _ => advances_operand
  expression := fun _ => advances_expression

end SearchQuery.Tree
