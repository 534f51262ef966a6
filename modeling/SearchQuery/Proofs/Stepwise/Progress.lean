import SearchQuery.Proofs.Grammar.Left
import SearchQuery.Proofs.Stepwise.Agreement

/-!
# Progress

Wherever a rule is started, it comes to its end: it has read some of the tokens and left the others
as they were, it has never moved past the last one, and what it holds to be the last token read is
that token. An expression that has a token to read reads one. So a sequence makes at most one round
for each token, and every list of tokens is read to an end.
-/
namespace SearchQuery.Stepwise
open Grammar (behind behind_append)
open SearchQuery.Tree (Cursor)

variable {α β : Type} {m : Reader α} {f : α → Reader β} {last : Option Token} {t : Token}
  {ts : List Token}

/-- A run stops short for nothing but a missing value, the one at its cursor. -/
def Proper (answer : Except Stop α) (c : Cursor) : Prop :=
  ∀ e, answer = .error e → e = .valueExpected c.valueExpected

/-- From the tokens `ts` behind `last`, a reader comes to an end behind those that it has read. -/
def Advances (m : Reader α) (last : Option Token) (ts : List Token) : Prop :=
  ∃ xs rest k answer, ts = xs ++ rest ∧ k ≤ xs.length ∧ Proper answer ⟨behind last xs, rest⟩ ∧
    ∀ n, Runs m ⟨⟨last, ts⟩, n⟩ answer ⟨⟨behind last xs, rest⟩, n + k⟩

theorem proper_ok (a : α) (c : Cursor) : Proper (.ok a) c := by
  rintro e ⟨⟩

theorem advances_pure (a : α) : Advances (pure a) last ts :=
  ⟨[], ts, 0, .ok a, rfl, Nat.le_refl _, proper_ok a _, fun _ => rfl⟩

theorem advances_valueExpected : Advances valueExpected last ts := by
  refine ⟨[], ts, 0, .error (.valueExpected ⟨ts.head?, last⟩), rfl, Nat.le_refl _, ?_, fun _ => rfl⟩
  rintro e ⟨⟩
  rfl

theorem advances_next : Advances next last (t :: ts) :=
  ⟨[t], ts, 0, .ok (), rfl, Nat.zero_le _, proper_ok () _, fun n => runs_next last t ts n⟩

theorem advances_peek {f : Option Token → Reader β} (further : Advances (f ts.head?) last ts) :
    Advances (peek >>= f) last ts := further

theorem Advances.bind (first : Advances m last ts)
    (further : ∀ a xs rest, ts = xs ++ rest → Advances (f a) (behind last xs) rest) :
    Advances (m >>= f) last ts := by
  obtain ⟨xs, rest, j, answer, parts, few, proper, runs⟩ := first
  cases answer with
  | error e =>
    refine ⟨xs, rest, j, .error e, parts, few, ?_, fun n => (runs n).bind_error⟩
    rintro e' ⟨⟩
    exact proper e rfl
  | ok a =>
    obtain ⟨ys, rest', k, answer, parts', few', proper', runs'⟩ := further a xs rest parts
    refine ⟨xs ++ ys, rest', j + k, answer, ?_, ?_, ?_, fun n => ?_⟩
    · rw [parts, parts', List.append_assoc]
    · rw [List.length_append]
      omega
    · rwa [behind_append]
    · rw [behind_append, ← Nat.add_assoc]
      exact (runs n).bind (runs' (n + j))

theorem advances_skip (t : Token) : Advances (skip t) last ts := by
  refine advances_peek ?_
  split
  · rename_i ahead
    obtain ⟨us, rfl⟩ := List.head?_eq_some_iff.mp ahead
    exact advances_next
  · exact advances_pure ()

theorem advances_value : Advances value last ts := by
  refine advances_peek ?_
  match ts with
  | [] => exact advances_valueExpected
  | .operator _ :: _ => exact advances_valueExpected
  | .literal v :: us => exact advances_next.bind fun _ _ _ _ => advances_pure _

theorem advances_unary (op : Operator) : Advances (unary op) last (t :: ts) :=
  advances_next.bind fun _ _ _ _ => advances_value.bind fun _ _ _ _ => advances_pure _

theorem advances_infixed : Advances infixed last ts := by
  refine advances_value.bind fun first xs rest _ => advances_peek ?_
  match rest with
  | [] => exact advances_pure _
  | .literal _ :: _ => exact advances_pure _
  | .operator op :: us =>
    simp only [List.head?_cons]
    split
    · exact advances_next.bind fun _ _ _ _ => advances_pure _
    · split
      · exact advances_next.bind fun _ _ _ _ => advances_value.bind fun _ _ _ _ => advances_pure _
      · exact advances_pure _

theorem advances_infixedOrUnary : Advances infixedOrUnary last ts := by
  refine advances_peek ?_
  match ts with
  | [] => exact advances_valueExpected
  | .literal _ :: _ => exact advances_infixed
  | .operator op :: _ => exact advances_unary op

theorem advances_comparison : Advances comparison last ts :=
  (advances_skip _).bind fun _ _ _ _ => advances_infixedOrUnary

/-! ### The rules that start one another -/

variable {depth : Nat}

theorem le_of_mostRounds {rule : Grammar.Rule} {k length : Nat} (few : k ≤ mostRounds rule length) :
    k ≤ length := by
  cases rule <;> simp only [mostRounds] at few <;> omega

theorem length_le_of_append {xs rest : List Token} (parts : ts = xs ++ rest) :
    rest.length ≤ ts.length := by
  rw [parts, List.length_append]
  omega

theorem advances_reader (rule : Grammar.Rule) (atToken : rule = .expression → ts ≠ [])
    (deep : 4 * ts.length + rule.rank < depth) : Advances (reader depth rule) last ts := by
  obtain ⟨xs, rest, k, rfl, -, few, follows, -, missing⟩ := exists_follows rule last ts atToken
  refine ⟨xs, rest, k, _, rfl, le_of_mostRounds few, ?_, fun n => follows depth n ?_⟩
  · intro e failed
    generalize rule.answer _ = answer at failed missing
    cases answer with
    | ok => cases failed
    | error missed =>
      obtain rfl := missing missed rfl
      cases failed
      rfl
  · rw [List.length_append] at deep
    omega

theorem advances_sequence (deep : 4 * ts.length + 3 < depth) :
    Advances (read depth .sequence) last ts := advances_reader .sequence (by simp) deep

theorem advances_negated (deep : 4 * ts.length + 1 < depth) :
    Advances (read depth .negated) last ts := advances_reader .operand (by simp) deep

theorem advances_top (deep : 4 * ts.length + 3 < depth) : Advances (top depth) last ts :=
  (advances_sequence deep).bind fun _ _ _ _ => advances_pure _

theorem advances_part (part : Part) (seen : part = .negation → ts ≠ [])
    (deep : 4 * ts.length + 4 < depth) : Advances (read depth part) last ts := by
  obtain ⟨d, rfl⟩ := Nat.exists_eq_add_one_of_ne_zero (Nat.ne_zero_of_lt deep)
  cases part with
  | sequence => exact advances_sequence (by omega)
  | negated => exact advances_negated (by omega)
  | group =>
    rw [read]
    refine (advances_skip _).bind fun _ xs rest parts => ?_
    have shorter := length_le_of_append parts
    refine (advances_sequence (by omega)).bind fun _ _ _ _ => ?_
    exact (advances_skip _).bind fun _ _ _ _ => advances_pure _
  | expression =>
    cases ts with
    | nil =>
      refine ⟨[], [], 0, .ok [], rfl, Nat.le_refl _, proper_ok _ _, fun n => ?_⟩
      exact Follows.noExpression (d + 1) n (by simp only [List.length_nil, Grammar.Rule.rank]; omega)
    | cons t us =>
      have deep' : 4 * (t :: us).length + Grammar.Rule.rank .expression < d + 1 := by
        simp only [Grammar.Rule.rank]
        omega
      exact advances_reader .expression (fun _ => List.cons_ne_nil t us) deep'
  | operand =>
    cases ts with
    | nil =>
      rw [read]
      exact advances_peek (advances_pure _)
    | cons t us =>
      have negated : Advances (read (d + 1) .negated) last (t :: us) := advances_negated (by omega)
      obtain ⟨xs, rest, k, answer, parts, few, proper, runs⟩ := negated
      exact ⟨xs, rest, k, answer, parts, few, proper, fun n => (becomes_negated d).runs (runs n)⟩
  | negation =>
    obtain ⟨t, us, rfl⟩ := List.exists_cons_of_ne_nil (seen rfl)
    rw [read]
    refine advances_next.bind fun _ xs rest parts => ?_
    have shorter := length_le_of_append parts
    exact (advances_negated (by omega)).bind fun _ _ _ _ => advances_pure _

/-- Each rule comes to its end, wherever it is started; where a rule moves past a token that the one
before it has seen, there has to be one. -/
structure RulesAdvance (last : Option Token) (ts : List Token) : Prop where
  value : Advances value last ts
  unary : ts ≠ [] → ∀ op, Advances (unary op) last ts
  infixed : Advances infixed last ts
  comparison : Advances comparison last ts
  part : ∀ part : Part, (part = .negation → ts ≠ []) →
    ∀ depth, 4 * ts.length + 4 < depth → Advances (read depth part) last ts
  top : ∀ depth, 4 * ts.length + 4 < depth → Advances (top depth) last ts

theorem rulesAdvance (last : Option Token) (ts : List Token) : RulesAdvance last ts where
  value := advances_value
  unary := by
    intro some_left op
    obtain ⟨t, us, rfl⟩ := List.exists_cons_of_ne_nil some_left
    exact advances_unary op
  infixed := advances_infixed
  comparison := advances_comparison
  part := fun part seen _ deep => advances_part part seen deep
  top := fun _ deep => advances_top (Nat.lt_of_succ_lt deep)

/-- A reader reads the tokens `xs` in front of `rest` with this answer and in `k` rounds, however many
more rules may start one another. -/
def Settles (m : Nat → Reader α) (last : Option Token) (xs rest : List Token)
    (answer : Except Stop α) (k : Nat) : Prop :=
  ∀ depth n, 4 * (xs ++ rest).length + 4 < depth →
    Runs (m depth) ⟨⟨last, xs ++ rest⟩, n⟩ answer ⟨⟨behind last xs, rest⟩, n + k⟩

theorem settles_noExpression (last : Option Token) :
    Settles (read · .expression) last [] [] (.ok []) 0 := by
  intro depth n deep
  refine Follows.noExpression depth n ?_
  simp only [List.length_nil, Grammar.Rule.rank, List.append_nil] at deep ⊢
  omega

theorem outcome_expression (last : Option Token) (t : Token) (ts : List Token) :
    outcome (Grammar.Rule.answer .expression ⟨last, t :: ts⟩) =
      ((Tree.expression last t ts).map fun s => [s.tree]).mapError .valueExpected := by
  rw [outcome, Grammar.Rule.answer]
  cases Tree.expression last t ts <;> rfl

theorem outcome_sequence (ts : List Token) :
    (outcome (Grammar.Rule.answer .sequence ⟨none, ts⟩)).map (Tree.logical .juxtaposition) =
      (Tree.asWritten ts).mapError .valueExpected := by
  rw [outcome, Tree.asWritten, Grammar.read_eq_answer]
  cases Grammar.Rule.answer .sequence ⟨none, ts⟩ <;> rfl

theorem exists_settles_expression (last : Option Token) (t : Token) (ts : List Token) :
    ∃ xs rest k, t :: ts = xs ++ rest ∧ xs ≠ [] ∧ k ≤ xs.length ∧
      Settles (read · .expression) last xs rest
        (((Tree.expression last t ts).map fun s => [s.tree]).mapError .valueExpected) k ∧
      ∀ s, Tree.expression last t ts = .ok s → s.next = ⟨behind last xs, rest⟩ := by
  obtain ⟨xs, rest, k, parts, written, few, follows, placed, -⟩ :=
    exists_follows .expression last (t :: ts) fun _ => List.cons_ne_nil t ts
  rw [outcome_expression] at follows
  refine ⟨xs, rest, k, parts, written (by simp) (by simp), le_of_mostRounds few, ?_, ?_⟩
  · intro depth n deep
    refine follows depth n ?_
    simp only [List.length_append, Grammar.Rule.rank] at deep ⊢
    omega
  · intro s read_expression
    refine placed [s.tree] s.next ?_
    simp only [Grammar.Rule.answer, Grammar.answered, read_expression, Except.map]

theorem exists_settles_top (ts : List Token) :
    ∃ xs rest k, ts = xs ++ rest ∧ k ≤ xs.length ∧
      Settles top none xs rest ((Tree.asWritten ts).mapError .valueExpected) k ∧
      ∀ o, Tree.read ts = .ok o → o.unread = rest := by
  obtain ⟨xs, rest, k, parts, -, few, follows, placed, -⟩ :=
    exists_follows .sequence none ts (by simp)
  refine ⟨xs, rest, k, parts, few, ?_, ?_⟩
  · rw [← outcome_sequence]
    intro depth n deep
    refine (follows depth n ?_).bind_pure
    simp only [List.length_append, Grammar.Rule.rank] at deep ⊢
    omega
  · intro o whole
    rw [Grammar.read_eq_answer] at whole
    cases answered : Grammar.Rule.answer .sequence ⟨none, ts⟩ with
    | error e =>
      rw [answered] at whole
      cases whole
    | ok result =>
      obtain ⟨trees, c⟩ := result
      obtain rfl := placed trees c answered
      rw [answered] at whole
      cases whole
      rfl

/-- Every rule comes to its end wherever it is started, without moving past the last token, and every
reader leaves what a rule leaves. An expression answers with nothing at the end of the tokens, where
it reads nothing; elsewhere it reads a token, and misses a value or answers with a tree. All tokens
are read to an end in no more rounds than there are tokens, whatever they are; and the program
answers what the readers do. -/
theorem rules_progress :
    (∀ last ts, Tree.ReadersAdvance last ts) ∧
    (∀ last, Settles (read · .expression) last [] [] (.ok []) 0) ∧
    (∀ last t ts, ∃ xs rest k, t :: ts = xs ++ rest ∧ xs ≠ [] ∧ k ≤ xs.length ∧
      Settles (read · .expression) last xs rest
        (((Tree.expression last t ts).map fun s => [s.tree]).mapError .valueExpected) k ∧
      ∀ s, Tree.expression last t ts = .ok s → s.next = ⟨behind last xs, rest⟩) ∧
    (∀ last ts, RulesAdvance last ts) ∧
    ∀ ts, ∃ xs rest k, ts = xs ++ rest ∧ k ≤ xs.length ∧
      Settles top none xs rest ((Tree.asWritten ts).mapError .valueExpected) k ∧
      ∀ o, Tree.read ts = .ok o → o.unread = rest :=
  ⟨Tree.readersAdvance, settles_noExpression, exists_settles_expression, rulesAdvance,
    exists_settles_top⟩

/-- Three rounds, for an expression in a group in a group, none of them closed. -/
example : ((top 40).run.run ⟨.start [.operator .lparen, .operator .lparen, .literal "a"],
    0⟩).2.rounds = 3 := by decide

end SearchQuery.Stepwise
