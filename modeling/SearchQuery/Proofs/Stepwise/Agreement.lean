import SearchQuery.Proofs.Grammar.Agreement
import SearchQuery.Proofs.Stepwise

/-!
# Rules and program

The program of peeks and moves does with the tokens what the rules of the grammar derive from them:
along a derivation, it reads the same tokens, and answers with the same trees or misses a value in
the same place. In each round a sequence reads a token, so there are no more rounds than tokens.
-/
namespace SearchQuery.Stepwise
open Grammar (Rule Reads Misses behind behind_append)

variable {rule : Rule} {xs ys rest : List Token} {trees others : List Tree} {t : Token}
  {last found : Option Token} {answer : Except Stop (List Tree)} {depth n k j : Nat}

/-- The part of the program that reads a rule of the grammar. -/
def reader (depth : Nat) : Rule → Reader (List Tree)
  | .term => do return [← infixedOrUnary]
  | .operand => read depth .negated
  | .expression => read depth .expression
  | .sequence => read depth .sequence

/-- The most rounds in so many tokens: a sequence reads a token in each, and any other rule reads a
token before its first. -/
def mostRounds : Rule → Nat → Nat
  | .sequence, length => length
  | _, length => length - 1

/-- A rule that starts behind `last` reads the tokens `xs` in front of `rest` and comes to its end
there with an answer, after `k` rounds. -/
def Follows (rule : Rule) (last : Option Token) (xs rest : List Token)
    (answer : Except Stop (List Tree)) (k : Nat) : Prop :=
  ∀ depth n, 4 * xs.length + rule.rank < depth →
    Runs (reader depth rule) ⟨⟨last, xs ++ rest⟩, n⟩ answer ⟨⟨behind last xs, rest⟩, n + k⟩

namespace Follows
variable {next : Option Token}

theorem value {v : String} (ends : Grammar.extendsValue rest.head? = false) :
    Follows .term last [.literal v] rest (.ok [.leaf v]) 0 :=
  fun _ _ _ => (runs_infixed_alone v ends).bind (runs_pure _ _)

theorem separated {v : String} :
    Follows .term last [.literal v, .operator .comma] rest (.ok [.leaf v]) 0 := fun _ _ _ => rfl

theorem compared {v w : String} {op : Operator} (compares : op.isComparison = true) :
    Follows .term last [.literal v, .operator op, .literal w] rest
      (.ok [.operator op [.leaf v, .leaf w]]) 0 :=
  fun _ _ _ => ((becomes_compared v compares _).runs rfl).bind (runs_pure _ _)

theorem unary {op : Operator} {v : String} :
    Follows .term last [.operator op, .literal v] rest (.ok [.operator op [.leaf v]]) 0 :=
  fun _ _ _ => rfl

theorem nothing : Follows .term last [] [] (.error (.valueExpected ⟨none, last⟩)) 0 :=
  fun _ _ _ => rfl

theorem compared_missing {v : String} {op : Operator} (compares : op.isComparison = true)
    (missing : Grammar.isValue rest.head? = false) :
    Follows .term last [.literal v, .operator op] rest
      (.error (.valueExpected ⟨rest.head?, some (.operator op)⟩)) 0 :=
  fun _ _ _ =>
    ((becomes_compared v compares _).runs (runs_value_missing missing).bind_error).bind_error

theorem unary_missing {op : Operator} (missing : Grammar.isValue rest.head? = false) :
    Follows .term last [.operator op] rest
      (.error (.valueExpected ⟨rest.head?, some (.operator op)⟩)) 0 :=
  fun _ _ _ => ((becomes_unary op rest).runs (runs_value_missing missing).bind_error).bind_error

theorem term (opens : Grammar.opensTerm t = true) (inner : Follows .term last (t :: xs) rest answer k) :
    Follows .operand last (t :: xs) rest answer k := by
  intro depth n deep
  obtain ⟨d, rfl⟩ := Nat.exists_eq_add_one_of_ne_zero (Nat.ne_zero_of_lt deep)
  exact (becomes_term d opens).runs (inner (d + 1) n (Nat.lt_of_succ_lt deep))

theorem comma (inner : Follows .term (some (.operator .comma)) xs rest answer k) :
    Follows .operand last (.operator .comma :: xs) rest answer k := by
  intro depth n deep
  obtain ⟨d, rfl⟩ := Nat.exists_eq_add_one_of_ne_zero (Nat.ne_zero_of_lt deep)
  refine (becomes_term_comma d).runs (inner (d + 1) n ?_)
  simp only [List.length_cons, Rule.rank] at deep ⊢
  omega

theorem noOperand : Follows .operand last [] [] (.error (.valueExpected ⟨none, last⟩)) 0 := by
  intro depth n deep
  obtain ⟨d, rfl⟩ := Nat.exists_eq_add_one_of_ne_zero (Nat.ne_zero_of_lt deep)
  rw [reader, read]
  rfl

/-- A group is done where its closing marker, if there is one, was skipped. -/
theorem body {rest' : List Token} {last' : Option Token}
    (inner : Follows .sequence (some (.operator .lparen)) xs rest (.ok trees) k)
    (closed : ∀ n, Runs (skip (.operator .rparen))
      ⟨⟨behind (some (.operator .lparen)) xs, rest⟩, n⟩ (.ok ()) ⟨⟨last', rest'⟩, n⟩)
    (deep : 4 * (xs.length + 1) + 1 < depth) :
    Runs (reader depth .operand) ⟨⟨last, .operator .lparen :: (xs ++ rest)⟩, n⟩
      (.ok [.logical .juxtaposition trees]) ⟨⟨last', rest'⟩, n + k⟩ := by
  obtain ⟨d, rfl⟩ := Nat.exists_eq_add_of_le' (show 2 ≤ depth by omega)
  have runs := inner d n (by simp only [Rule.rank]; omega)
  exact (becomes_group d).runs (runs.bind ((closed _).bind (runs_pure _ _)))

theorem group (inner : Follows .sequence (some (.operator .lparen)) xs
      (.operator .rparen :: rest) (.ok trees) k) :
    Follows .operand last (.operator .lparen :: (xs ++ [.operator .rparen])) rest
      (.ok [.logical .juxtaposition trees]) k := by
  intro depth n deep
  rw [List.cons_append, List.append_assoc, List.singleton_append, behind, behind_append]
  simp only [List.length_cons, List.length_append, Rule.rank] at deep
  exact inner.body (runs_skip _ _ rest) (by omega)

theorem openGroup (inner : Follows .sequence (some (.operator .lparen)) xs [] (.ok trees) k) :
    Follows .operand last (.operator .lparen :: xs) [] (.ok [.logical .juxtaposition trees]) k := by
  intro depth n deep
  exact inner.body (fun n => runs_skip_other (by simp)) deep

theorem group_error {e : Stop}
    (inner : Follows .sequence (some (.operator .lparen)) xs rest (.error e) k) :
    Follows .operand last (.operator .lparen :: xs) rest (.error e) k := by
  intro depth n deep
  simp only [List.length_cons, Rule.rank] at deep
  obtain ⟨d, rfl⟩ := Nat.exists_eq_add_of_le' (show 2 ≤ depth by omega)
  have runs := inner d n (by simp only [Rule.rank]; omega)
  exact (becomes_group d).runs runs.bind_error

theorem negation (inner : Follows .operand (some (.operator .not)) xs rest answer k) :
    Follows .operand last (.operator .not :: xs) rest
      (answer.map fun operand => [.operator .not operand]) k := by
  intro depth n deep
  simp only [List.length_cons, Rule.rank] at deep
  obtain ⟨d, rfl⟩ := Nat.exists_eq_add_of_le' (show 2 ≤ depth by omega)
  have runs := inner d n (by simp only [Rule.rank]; omega)
  exact (becomes_negation d).runs runs.bind_pure

/-- At the end of the tokens there is no expression to read. -/
theorem noExpression : Follows .expression last [] [] (.ok []) 0 := by
  intro depth n deep
  simp only [List.length_nil, Rule.rank] at deep
  obtain ⟨d, rfl⟩ := Nat.exists_eq_add_of_le' (show 2 ≤ depth by omega)
  rw [reader, read_expression, read]
  rfl

/-- The operand with which an expression starts. -/
theorem operand (inner : Follows .operand last xs rest answer k) (written : xs ≠ [])
    (deep : 4 * xs.length + 1 < depth) :
    Runs (read depth .operand) ⟨⟨last, xs ++ rest⟩, n⟩ answer ⟨⟨behind last xs, rest⟩, n + k⟩ := by
  obtain ⟨d, rfl⟩ := Nat.exists_eq_add_one_of_ne_zero (Nat.ne_zero_of_lt deep)
  obtain ⟨t, ts, rfl⟩ := List.exists_cons_of_ne_nil written
  exact (becomes_negated d).runs (inner (d + 1) n deep)

theorem alone (first : Follows .operand last xs rest (.ok trees) k) (written : xs ≠ [])
    (ends : Grammar.links rest.head? = false) :
    Follows .expression last xs rest (.ok trees) k := by
  intro depth n deep
  obtain ⟨d, rfl⟩ := Nat.exists_eq_add_one_of_ne_zero (Nat.ne_zero_of_lt deep)
  rw [reader, read_expression]
  exact (first.operand written (Nat.lt_of_succ_lt_succ deep)).bind (runs_link_alone d trees ends)

theorem linked {connective : Connective}
    (first : Follows .operand last xs (.operator connective.operator :: (ys ++ rest)) (.ok trees) j)
    (written : xs ≠ [])
    (second : Follows .expression (some (.operator connective.operator)) ys rest answer k) :
    Follows .expression last (xs ++ .operator connective.operator :: ys) rest
      (answer.map fun others => [.logical connective (trees ++ others)]) (j + k) := by
  intro depth n deep
  simp only [List.length_append, List.length_cons, Rule.rank] at deep
  obtain ⟨d, rfl⟩ := Nat.exists_eq_add_one_of_ne_zero (Nat.ne_zero_of_lt deep)
  rw [reader, read_expression, List.append_assoc, List.cons_append, behind_append, behind,
    ← Nat.add_assoc]
  have runs := second d (n + j) (by simp only [Rule.rank]; omega)
  refine (first.operand written (by omega)).bind ?_
  exact (becomes_linked d trees connective).runs runs.bind_pure

theorem first_error {e : Stop} (first : Follows .operand last xs rest (.error e) k)
    (written : xs ≠ []) : Follows .expression last xs rest (.error e) k := by
  intro depth n deep
  obtain ⟨d, rfl⟩ := Nat.exists_eq_add_one_of_ne_zero (Nat.ne_zero_of_lt deep)
  rw [reader, read_expression]
  exact (first.operand written (Nat.lt_of_succ_lt_succ deep)).bind_error

theorem nil (ends : Grammar.closes rest.head? = true) :
    Follows .sequence last [] rest (.ok []) 0 := by
  intro depth n deep
  obtain ⟨d, rfl⟩ := Nat.exists_eq_add_one_of_ne_zero (Nat.ne_zero_of_lt deep)
  exact runs_sequence_closes d ends

theorem cons (opens : t ≠ .operator .rparen)
    (first : Follows .expression last (t :: xs) (ys ++ rest) (.ok trees) j)
    (further : Follows .sequence (behind last (t :: xs)) ys rest answer k) :
    Follows .sequence last (t :: (xs ++ ys)) rest (answer.map (trees ++ ·)) (1 + j + k) := by
  intro depth n deep
  simp only [List.length_append, List.length_cons, Rule.rank] at deep
  obtain ⟨d, rfl⟩ := Nat.exists_eq_add_one_of_ne_zero (Nat.ne_zero_of_lt deep)
  have expression := first d (n + 1) (by simp only [List.length_cons, Rule.rank]; omega)
  have sequence := further d (n + 1 + j) (by simp only [Rule.rank]; omega)
  rw [← List.cons_append, behind_append, ← Nat.add_assoc, ← Nat.add_assoc]
  rw [List.append_assoc]
  exact (becomes_round d opens).runs (expression.bind sequence.bind_pure)

theorem cons_error {e : Stop} (opens : t ≠ .operator .rparen)
    (first : Follows .expression last (t :: xs) rest (.error e) k) :
    Follows .sequence last (t :: xs) rest (.error e) (1 + k) := by
  intro depth n deep
  simp only [List.length_cons, Rule.rank] at deep
  obtain ⟨d, rfl⟩ := Nat.exists_eq_add_one_of_ne_zero (Nat.ne_zero_of_lt deep)
  have expression := first d (n + 1) (by simp only [List.length_cons, Rule.rank]; omega)
  rw [← Nat.add_assoc]
  exact (becomes_round d opens).runs expression.bind_error

end Follows

theorem follows_of_reads {xs : List Token} {next : Option Token} (reads : Reads rule xs trees next) :
    ∀ (last : Option Token) (rest : List Token), rest.head? = next →
      ∃ k, k ≤ mostRounds rule xs.length ∧ Follows rule last xs rest (.ok trees) k := by
  induction reads with
  | value ends =>
    rintro last rest rfl
    exact ⟨0, Nat.zero_le _, .value ends⟩
  | separated =>
    intro last rest _
    exact ⟨0, Nat.zero_le _, .separated⟩
  | compared compares =>
    intro last rest _
    exact ⟨0, Nat.zero_le _, .compared compares⟩
  | unary =>
    intro last rest _
    exact ⟨0, Nat.zero_le _, .unary⟩
  | term opens inner ih =>
    intro last rest ahead
    obtain ⟨k, few, follows⟩ := ih last rest ahead
    exact ⟨k, few, follows.term opens⟩
  | comma inner ih =>
    intro last rest ahead
    obtain ⟨k, few, follows⟩ := ih (some (.operator .comma)) rest ahead
    exact ⟨k, Nat.le_trans few (Nat.sub_le _ _), follows.comma⟩
  | group body ih =>
    intro last rest _
    obtain ⟨k, few, follows⟩ := ih (some (.operator .lparen)) (.operator .rparen :: rest) rfl
    refine ⟨k, ?_, follows.group⟩
    simp only [mostRounds, List.length_cons, List.length_append] at few ⊢
    omega
  | openGroup body ih =>
    intro last rest ahead
    obtain rfl := List.head?_eq_none_iff.mp ahead
    obtain ⟨k, few, follows⟩ := ih (some (.operator .lparen)) [] rfl
    exact ⟨k, few, follows.openGroup⟩
  | negation inner ih =>
    intro last rest ahead
    obtain ⟨k, few, follows⟩ := ih (some (.operator .not)) rest ahead
    exact ⟨k, Nat.le_trans few (Nat.sub_le _ _), follows.negation⟩
  | alone first ends ih =>
    rintro last rest rfl
    obtain ⟨k, few, follows⟩ := ih last rest rfl
    exact ⟨k, few, follows.alone (first.ne_nil (by decide)) ends⟩
  | @trailing xs x connective first ih =>
    intro last rest ahead
    obtain rfl := List.head?_eq_none_iff.mp ahead
    obtain ⟨k, few, follows⟩ := ih last [.operator connective.operator] rfl
    refine ⟨k, ?_, ?_⟩
    · simp only [mostRounds, List.length_append] at few ⊢
      omega
    · have whole : Follows .expression last (xs ++ [.operator connective.operator]) []
          (.ok [.logical connective ([x] ++ [])]) (k + 0) :=
        follows.linked (first.ne_nil (by decide)) .noExpression
      rwa [List.append_nil] at whole
  | @linked xs x ys y next connective first second ihFirst ihSecond =>
    intro last rest ahead
    obtain ⟨j, few, follows⟩ := ihFirst last (.operator connective.operator :: (ys ++ rest)) rfl
    obtain ⟨k, few', further⟩ := ihSecond (some (.operator connective.operator)) rest ahead
    refine ⟨j + k, ?_, follows.linked (first.ne_nil (by decide)) further⟩
    simp only [mostRounds, List.length_append, List.length_cons] at few few' ⊢
    omega
  | nil ends =>
    rintro last rest rfl
    exact ⟨0, Nat.zero_le _, .nil ends⟩
  | @cons t xs x ys trees next opens first others ihFirst ihOthers =>
    intro last rest ahead
    obtain ⟨j, few, expression⟩ := ihFirst last (ys ++ rest) (by rw [List.head?_append, ahead])
    obtain ⟨k, few', sequence⟩ := ihOthers (behind last (t :: xs)) rest ahead
    refine ⟨1 + j + k, ?_, expression.cons opens sequence⟩
    simp only [mostRounds, List.length_cons, List.length_append] at few few' ⊢
    omega

/-- At the end of the tokens an expression is not missed but left out. -/
theorem follows_of_misses {xs : List Token} (misses : Misses rule xs found) :
    ∀ (last : Option Token) (rest : List Token), rest.head? = found →
      (rule = .expression → xs ≠ []) →
      ∃ k, k ≤ mostRounds rule xs.length ∧
        Follows rule last xs rest (.error (.valueExpected ⟨found, behind last xs⟩)) k := by
  induction misses with
  | nothing =>
    intro last rest ahead _
    obtain rfl := List.head?_eq_none_iff.mp ahead
    exact ⟨0, Nat.zero_le _, .nothing⟩
  | noOperand =>
    intro last rest ahead _
    obtain rfl := List.head?_eq_none_iff.mp ahead
    exact ⟨0, Nat.zero_le _, .noOperand⟩
  | compared compares missing =>
    rintro last rest rfl _
    exact ⟨0, Nat.zero_le _, .compared_missing compares missing⟩
  | unary missing =>
    rintro last rest rfl _
    exact ⟨0, Nat.zero_le _, .unary_missing missing⟩
  | term opens inner ih =>
    intro last rest ahead _
    obtain ⟨k, few, follows⟩ := ih last rest ahead (by simp)
    exact ⟨k, few, follows.term opens⟩
  | comma inner ih =>
    intro last rest ahead _
    obtain ⟨k, few, follows⟩ := ih (some (.operator .comma)) rest ahead (by simp)
    exact ⟨k, Nat.le_trans few (Nat.sub_le _ _), follows.comma⟩
  | group body ih =>
    intro last rest ahead _
    obtain ⟨k, few, follows⟩ := ih (some (.operator .lparen)) rest ahead (by simp)
    exact ⟨k, few, follows.group_error⟩
  | negation inner ih =>
    intro last rest ahead _
    obtain ⟨k, few, follows⟩ := ih (some (.operator .not)) rest ahead (by simp)
    exact ⟨k, Nat.le_trans few (Nat.sub_le _ _), follows.negation⟩
  | first inner ih =>
    intro last rest ahead written
    obtain ⟨k, few, follows⟩ := ih last rest ahead (by simp)
    exact ⟨k, few, follows.first_error (written rfl)⟩
  | @second xs x t ys next connective first second ih =>
    intro last rest ahead _
    obtain ⟨j, few, follows⟩ := follows_of_reads first last
      (.operator connective.operator :: (t :: ys ++ rest)) rfl
    obtain ⟨k, few', further⟩ := ih (some (.operator connective.operator)) rest ahead (by simp)
    refine ⟨j + k, ?_, ?_⟩
    · simp only [mostRounds, List.length_append, List.length_cons] at few few' ⊢
      omega
    · rw [behind_append]
      exact follows.linked (first.ne_nil (by decide)) further
  | head opens inner ih =>
    intro last rest ahead _
    obtain ⟨k, few, follows⟩ := ih last rest ahead (by simp)
    refine ⟨1 + k, ?_, follows.cons_error opens⟩
    simp only [mostRounds, List.length_cons] at few ⊢
    omega
  | @tail t xs x ys next opens first others ih =>
    intro last rest ahead _
    obtain ⟨j, few, expression⟩ := follows_of_reads first last (ys ++ rest)
      (by rw [List.head?_append, ahead])
    obtain ⟨k, few', sequence⟩ := ih (behind last (t :: xs)) rest ahead (by simp)
    refine ⟨1 + j + k, ?_, ?_⟩
    · simp only [mostRounds, List.length_cons, List.length_append] at few few' ⊢
      omega
    · rw [← List.cons_append, behind_append]
      exact expression.cons opens sequence

/-- What the program answers where a rule has this answer. -/
def outcome (answer : Grammar.Answer) : Except Stop (List Tree) :=
  (answer.map (·.1)).mapError .valueExpected

/-- Whatever tokens there are, the program does with them what the rule does. -/
theorem exists_follows (rule : Rule) (last : Option Token) (ts : List Token)
    (atToken : rule = .expression → ts ≠ []) : ∃ xs rest k, ts = xs ++ rest ∧
      (ts ≠ [] → rule ≠ .sequence → xs ≠ []) ∧ k ≤ mostRounds rule xs.length ∧
      Follows rule last xs rest (outcome (rule.answer ⟨last, ts⟩)) k ∧
      (∀ trees c, rule.answer ⟨last, ts⟩ = .ok (trees, c) → c = ⟨behind last xs, rest⟩) ∧
      ∀ e, rule.answer ⟨last, ts⟩ = .error e → e = ⟨rest.head?, behind last xs⟩ := by
  have derived := Grammar.derived_answer rule last ts
  generalize rule.answer ⟨last, ts⟩ = answer at derived ⊢
  cases derived with
  | @read xs trees place rest parts placed reads =>
    subst parts placed
    obtain ⟨k, few, follows⟩ := follows_of_reads reads last rest rfl
    refine ⟨xs, rest, k, rfl, fun _ => reads.ne_nil, few, follows, ?_, ?_⟩
    · rintro _ _ ⟨⟩
      rfl
    · rintro _ ⟨⟩
  | @missed xs found after rest parts ahead placed misses =>
    have written : ts ≠ [] → xs ≠ [] := by
      intro some_left
      obtain ⟨t, us, rfl⟩ := List.exists_cons_of_ne_nil some_left
      obtain ⟨us, rfl⟩ := misses.exists_cons parts ahead
      simp
    obtain ⟨k, few, follows⟩ :=
      follows_of_misses misses last rest ahead fun expression => written (atToken expression)
    subst parts placed ahead
    refine ⟨xs, rest, k, rfl, fun some_left _ => written some_left, few, follows, ?_, ?_⟩
    · rintro _ _ ⟨⟩
    · rintro _ ⟨⟩
      rfl

end SearchQuery.Stepwise
