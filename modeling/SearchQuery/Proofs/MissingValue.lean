import SearchQuery.Proofs.Grammar.Agreement

/-!
# Where a value is missing

The one failure of a reading names the place where it arose. The tokens up to that place end with
the operator that wanted a value; they can be completed by any value, so the failure is not reported
too late, and no tokens behind the one found there avoid it, so it is not reported too early.
-/
namespace SearchQuery.Grammar
open SearchQuery.Tree

theorem behind_eq_getLast? (last : Option Token) (xs : List Token) (h : xs ≠ []) :
    behind last xs = xs.getLast? := by
  induction xs generalizing last with
  | nil => exact absurd rfl h
  | cons t ts ih =>
    cases ts with
    | nil => rfl
    | cons u us =>
      rw [behind, ih (some t) (List.cons_ne_nil u us), List.getLast?_cons_cons]

theorem Misses.sequence_ne_nil {xs next} (h : Misses .sequence xs next) : xs ≠ [] := by
  cases h with
  | head | tail => exact List.cons_ne_nil _ _

theorem Misses.no_value {rule xs next} (h : Misses rule xs next) : isValue next = false := by
  induction h with
  | nothing | noOperand => rfl
  | compared _ missing | unary missing => exact missing
  | term _ _ ih | comma _ ih | group _ ih | negation _ ih | first _ ih | second _ _ _ ih
  | head _ _ ih | tail _ _ _ ih => exact ih

/-- A rule entered behind an operator misses its value behind an operator. -/
theorem Misses.behind_operator {rule xs next} (h : Misses rule xs next) :
    ∀ before : Operator, ∃ op : Operator, behind (some (.operator before)) xs = some (.operator op) := by
  induction h with
  | nothing | noOperand => exact fun before => ⟨before, rfl⟩
  | @compared _ op | @unary op => exact fun _ => ⟨op, rfl⟩
  | term _ _ ih | first _ ih | head _ _ ih => exact ih
  | comma _ ih | group _ ih | negation _ ih => exact fun _ => ih _
  | second connective _ _ ih =>
    intro before
    rw [behind_append]
    exact ih connective.operator
  | @tail t xs x ys next _ _ others ih =>
    intro before
    -- The others read a token, so which one was read before them has no part in it.
    rw [← List.cons_append, behind_append, behind_eq_getLast? _ ys others.sequence_ne_nil,
      ← behind_eq_getLast? (some (.operator before)) ys others.sequence_ne_nil]
    exact ih before

theorem Reads.exists_singleton {rule xs next} (notSequence : rule ≠ .sequence)
    (h : ∃ trees, Reads rule xs trees next) : ∃ x, Reads rule xs [x] next := by
  obtain ⟨trees, reads⟩ := h
  obtain ⟨x, rfl⟩ := reads.singleton notSequence
  exact ⟨x, reads⟩

/-- Any value in the place where one is missing completes the reading, and every rule that waits for
it can end there. -/
theorem Misses.completed {rule xs next} (h : Misses rule xs next) (v : String) :
    ∃ trees, Reads rule (xs ++ [.literal v]) trees none := by
  induction h with
  | nothing => exact ⟨_, .value rfl⟩
  | compared compares => exact ⟨_, .compared compares⟩
  | unary => exact ⟨_, .unary⟩
  | noOperand => exact ⟨_, .term rfl (.value rfl)⟩
  | term opens _ ih =>
    obtain ⟨x, reads⟩ := Reads.exists_singleton (by decide) ih
    exact ⟨_, .term opens reads⟩
  | comma _ ih =>
    obtain ⟨x, reads⟩ := Reads.exists_singleton (by decide) ih
    exact ⟨_, .comma reads⟩
  | group _ ih =>
    obtain ⟨trees, reads⟩ := ih
    exact ⟨_, .openGroup reads⟩
  | negation _ ih =>
    obtain ⟨x, reads⟩ := Reads.exists_singleton (by decide) ih
    exact ⟨_, .negation reads⟩
  | first _ ih =>
    obtain ⟨x, reads⟩ := Reads.exists_singleton (by decide) ih
    exact ⟨_, .alone reads rfl⟩
  | second connective first _ ih =>
    obtain ⟨y, reads⟩ := Reads.exists_singleton (by decide) ih
    rw [List.append_assoc]
    exact ⟨_, .linked connective first reads⟩
  | head opens _ ih =>
    obtain ⟨x, reads⟩ := Reads.exists_singleton (by decide) ih
    exact ⟨_, .sole opens reads rfl⟩
  | @tail t xs x ys next opens first others ih =>
    obtain ⟨trees, reads⟩ := ih
    obtain ⟨u, us, rfl⟩ := List.exists_cons_of_ne_nil others.sequence_ne_nil
    have whole : Reads .sequence (t :: (xs ++ (u :: us ++ [.literal v]))) (x :: trees) none :=
      .cons opens first reads
    rw [List.cons_append, List.append_assoc]
    exact ⟨_, whole⟩

/-- `e` is the failure of `ts` behind `pre`, neither too early nor too late. -/
structure MissingAt (ts : List Token) (e : ValueExpected) (pre rest : List Token) : Prop where
  parts : ts = pre ++ rest
  after_operator : ∃ op, pre.getLast? = some (.operator op) ∧ e.after = some (.operator op)
  found_ahead : e.found = rest.head?
  found_no_value : ∀ v, e.found ≠ some (.literal v)
  unavoidable : ∀ t, rest.head? = some t → ∀ rest', ofTokens (pre ++ t :: rest') = .error e
  completed : ∀ v, ∃ tree, ofTokens (pre ++ [.literal v]) = .ok tree

/-- Every failure is localised: it stands behind an operator and in front of no value, whatever
follows the token found there cannot avoid it, and any value in its place makes a query. -/
theorem missing_value_localised {ts : List Token} {e : ValueExpected} (h : ofTokens ts = .error e) :
    ∃ pre rest, MissingAt ts e pre rest := by
  obtain ⟨pre, rest, parts, rfl, misses⟩ := misses_of_read (ofTokens_eq_error_iff.mp h)
  have last := fun before => behind_eq_getLast? before pre misses.sequence_ne_nil
  refine ⟨pre, rest, parts, ?_, rfl, ?_, ?_, ?_⟩
  · obtain ⟨op, atOperator⟩ := misses.behind_operator .not
    rw [last] at atOperator
    exact ⟨op, atOperator, (last none).trans atOperator⟩
  · intro v found
    have noValue := misses.no_value
    rw [show rest.head? = some (.literal v) from found] at noValue
    cases noValue
  · intro t ahead rest'
    have sameAhead : (t :: rest').head? = rest.head? := ahead.symm
    exact ofTokens_eq_error_iff.mpr (read_of_misses misses sameAhead)
  · intro v
    obtain ⟨trees, reads⟩ := misses.completed v
    have completed : Tree.read (pre ++ [.literal v] ++ []) = .ok ⟨.logical .juxtaposition trees, []⟩ :=
      read_of_reads reads
    rw [List.append_nil] at completed
    exact ⟨_, ofTokens_eq_ok_iff.mpr ⟨_, asWritten_eq_ok_iff.mpr ⟨_, completed⟩, rfl⟩⟩

/-- The failure of `x (a = ) y`, inside a group. -/
theorem missing_value_localised_in_group :
    ofTokens [.literal "x", .operator .lparen, .literal "a", .operator .eq, .operator .rparen,
        .literal "y"] = .error ⟨some (.operator .rparen), some (.operator .eq)⟩ ∧
      ∃ pre rest, MissingAt [.literal "x", .operator .lparen, .literal "a", .operator .eq,
        .operator .rparen, .literal "y"] ⟨some (.operator .rparen), some (.operator .eq)⟩ pre rest :=
  ⟨by cbv, missing_value_localised (by cbv)⟩

end SearchQuery.Grammar
