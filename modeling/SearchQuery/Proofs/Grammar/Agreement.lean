import SearchQuery.Proofs.Grammar.Answer

/-!
# Readers and grammar

What the grammar derives is what the rules answer, and whatever a rule answers is derived: a reading
with the trees it makes, or the place where a value is missing. In particular every answer comes
from a prefix of the tokens at the cursor, and the token remembered as the last one read is the last
of that prefix.
-/
namespace SearchQuery.Grammar
open SearchQuery.Tree

theorem answer_of_reads {rule xs trees next} (h : Reads rule xs trees next) :
    ∀ (last : Option Token) (rest : List Token), rest.head? = next →
      rule.answer ⟨last, xs ++ rest⟩ = .ok (trees, ⟨behind last xs, rest⟩) := by
  induction h with
  | value ends =>
    rintro last rest rfl
    exact Rule.answer_term_value last _ rest ends
  | separated =>
    intro last rest _
    exact Rule.answer_term_separated last _ rest
  | compared compares =>
    intro last rest _
    exact Rule.answer_term_compared last _ _ _ compares
  | unary =>
    intro last rest _
    exact Rule.answer_term_operator last _ _
  | term opens inner ih =>
    intro last rest ahead
    exact (Rule.answer_operand_term last _ _ opens).trans (ih last rest ahead)
  | comma inner ih =>
    intro last rest ahead
    exact (Rule.answer_operand_comma last _).trans (ih _ rest ahead)
  | @group xs trees _ body ih =>
    intro last rest _
    have inner := ih (some (.operator .lparen)) (.operator .rparen :: rest) rfl
    rw [List.cons_append, Rule.answer_operand_lparen, List.append_assoc, List.singleton_append, inner]
    simp only [Except.map, Rule.close, behind, behind_append]
  | openGroup body ih =>
    intro last rest ahead
    have atEnd := List.head?_eq_none_iff.mp ahead
    subst atEnd
    rw [List.cons_append, Rule.answer_operand_lparen, ih _ [] rfl]
    rfl
  | negation inner ih =>
    intro last rest ahead
    rw [List.cons_append, Rule.answer_operand_not, ih _ rest ahead]
    rfl
  | alone first ends ih =>
    rintro last rest rfl
    rw [Rule.answer_expression, ih last rest rfl]
    exact Rule.link_alone _ _ _ ends
  | trailing connective first ih =>
    intro last rest ahead
    have atEnd := List.head?_eq_none_iff.mp ahead
    subst atEnd
    rw [List.append_nil, Rule.answer_expression, ih last [.operator connective.operator] rfl]
    simp only [behind_append]
    exact Rule.link_trailing _ _ connective
  | @linked xs x ys y next connective first second ihFirst ihSecond =>
    intro last rest ahead
    obtain ⟨t, us, rfl⟩ := List.exists_cons_of_ne_nil (second.ne_nil (by decide))
    have inner := ihFirst last (.operator connective.operator :: t :: (us ++ rest)) rfl
    rw [List.append_assoc, List.cons_append, Rule.answer_expression, List.cons_append, inner]
    simp only [bind, Except.bind, Rule.link_linked]
    rw [← List.cons_append, ihSecond _ rest ahead]
    simp only [Except.map, behind_append, behind, List.singleton_append]
  | nil ends =>
    rintro last rest rfl
    exact Rule.answer_sequence_closes last rest ends
  | @cons t xs x ys trees next opens first others ihFirst ihOthers =>
    intro last rest ahead
    have inner := ihFirst last (ys ++ rest) (by rw [List.head?_append, ahead])
    rw [List.cons_append, Rule.answer_sequence_cons _ _ _ opens, List.append_assoc,
      ← List.cons_append, inner]
    simp only [bind, Except.bind]
    rw [ihOthers _ rest ahead]
    simp only [Except.map, behind, behind_append, List.singleton_append]

theorem answer_of_misses {rule xs next} (h : Misses rule xs next) :
    ∀ (last : Option Token) (rest : List Token), rest.head? = next →
      rule.answer ⟨last, xs ++ rest⟩ = .error ⟨next, behind last xs⟩ := by
  induction h with
  | nothing | noOperand =>
    intro last rest ahead
    have atEnd := List.head?_eq_none_iff.mp ahead
    subst atEnd
    rfl
  | compared compares missing =>
    rintro last rest rfl
    rw [List.cons_append, List.cons_append, List.nil_append,
      Rule.answer_term_compared last _ _ rest compares, Rule.answered_value_missing _ rest missing]
    rfl
  | unary missing =>
    rintro last rest rfl
    rw [List.cons_append, List.nil_append, Rule.answer_term_operator,
      Rule.answered_value_missing _ rest missing]
    rfl
  | term opens inner ih =>
    intro last rest ahead
    exact (Rule.answer_operand_term last _ _ opens).trans (ih last rest ahead)
  | comma inner ih =>
    intro last rest ahead
    exact (Rule.answer_operand_comma last _).trans (ih _ rest ahead)
  | group body ih =>
    intro last rest ahead
    rw [List.cons_append, Rule.answer_operand_lparen, ih _ rest ahead]
    rfl
  | negation inner ih =>
    intro last rest ahead
    rw [List.cons_append, Rule.answer_operand_not, ih _ rest ahead]
    rfl
  | first inner ih =>
    intro last rest ahead
    rw [Rule.answer_expression, ih last rest ahead]
    rfl
  | @second xs x t ys next connective first second ih =>
    intro last rest ahead
    have inner := answer_of_reads first last (.operator connective.operator :: t :: (ys ++ rest)) rfl
    rw [List.append_assoc, List.cons_append, List.cons_append, Rule.answer_expression, inner]
    simp only [bind, Except.bind, Rule.link_linked]
    rw [← List.cons_append, ih _ rest ahead]
    simp only [Except.map, behind_append, behind]
  | head opens inner ih =>
    intro last rest ahead
    rw [List.cons_append, Rule.answer_sequence_cons _ _ _ opens, ← List.cons_append,
      ih last rest ahead]
    rfl
  | @tail t xs x ys next opens first others ih =>
    intro last rest ahead
    have inner := answer_of_reads first last (ys ++ rest) (by rw [List.head?_append, ahead])
    rw [List.cons_append, Rule.answer_sequence_cons _ _ _ opens, List.append_assoc,
      ← List.cons_append, inner]
    simp only [bind, Except.bind]
    rw [ih _ rest ahead]
    simp only [Except.map, behind, behind_append]

/-- An answer that the grammar derives from the tokens `ts` behind `last`. -/
inductive Derived (rule : Rule) (last : Option Token) (ts : List Token) : Answer → Prop
  | read (xs : List Token) {trees place rest} (parts : ts = xs ++ rest)
      (placed : place = behind last xs) (reads : Reads rule xs trees rest.head?) :
      Derived rule last ts (.ok (trees, ⟨place, rest⟩))
  | missed (xs : List Token) {found after rest} (parts : ts = xs ++ rest)
      (ahead : rest.head? = found) (placed : after = behind last xs)
      (misses : Misses rule xs found) :
      Derived rule last ts (.error ⟨found, after⟩)

namespace Derived
variable {last : Option Token} {ts : List Token} {a : Answer}

theorem unary (last : Option Token) (op : Operator) (ts : List Token) :
    Derived .term last (.operator op :: ts) (Rule.answer .term ⟨last, .operator op :: ts⟩) := by
  rw [Rule.answer_term_operator]
  match ts with
  | .literal v :: us => exact .read [.operator op, .literal v] rfl rfl .unary
  | [] => exact .missed [.operator op] rfl rfl rfl (.unary rfl)
  | .operator _ :: _ => exact .missed [.operator op] rfl rfl rfl (.unary rfl)

theorem compared (last : Option Token) (v : String) (op : Operator) (ts : List Token)
    (compares : op.isComparison = true) :
    Derived .term last (.literal v :: .operator op :: ts)
      (Rule.answer .term ⟨last, .literal v :: .operator op :: ts⟩) := by
  rw [Rule.answer_term_compared last v op ts compares]
  match ts with
  | .literal w :: us =>
    exact .read [.literal v, .operator op, .literal w] rfl rfl (.compared compares)
  | [] => exact .missed [.literal v, .operator op] rfl rfl rfl (.compared compares rfl)
  | .operator _ :: _ =>
    exact .missed [.literal v, .operator op] rfl rfl rfl (.compared compares rfl)

theorem term (last : Option Token) (ts : List Token) :
    Derived .term last ts (Rule.answer .term ⟨last, ts⟩) := by
  match ts with
  | [] => exact .missed [] rfl rfl rfl .nothing
  | .operator op :: us => exact unary last op us
  | .literal v :: us =>
    cases ends : extendsValue us.head? with
    | false =>
      rw [Rule.answer_term_value last v us ends]
      exact .read [.literal v] rfl rfl (.value ends)
    | true =>
      match us with
      | .operator op :: ws =>
        by_cases comma : op = .comma
        · subst comma
          exact .read [.literal v, .operator .comma] rfl rfl .separated
        · have compares : op.isComparison = true := by simpa [extendsValue, comma] using ends
          exact compared last v op ws compares

theorem plain {t : Token} (opens : opensTerm t = true) (inner : Derived .term last (t :: ts) a) :
    Derived .operand last (t :: ts) a := by
  cases inner with
  | read xs parts placed reads =>
    obtain ⟨x, rfl⟩ := reads.singleton (by decide)
    obtain ⟨us, rfl⟩ := reads.exists_cons (by decide) parts
    exact .read _ parts placed (.term opens reads)
  | missed xs parts ahead placed misses =>
    obtain ⟨us, rfl⟩ := misses.exists_cons parts ahead
    exact .missed _ parts ahead placed (.term opens misses)

theorem comma (inner : Derived .term (some (.operator .comma)) ts a) :
    Derived .operand last (.operator .comma :: ts) a := by
  cases inner with
  | read xs parts placed reads =>
    obtain ⟨x, rfl⟩ := reads.singleton (by decide)
    exact .read (.operator .comma :: xs) (congrArg _ parts) placed (.comma reads)
  | missed xs parts ahead placed misses =>
    exact .missed (.operator .comma :: xs) (congrArg _ parts) ahead placed (.comma misses)

theorem group (body : Derived .sequence (some (.operator .lparen)) ts a) :
    Derived .operand last (.operator .lparen :: ts) (a.map Rule.close) := by
  cases body with
  | @read xs trees place rest parts placed reads =>
    have ends := reads.stops
    match rest with
    | [] => exact .read (.operator .lparen :: xs) (congrArg _ parts) placed (.openGroup reads)
    | .operator .rparen :: us =>
      refine .read _ ?_ ?_ (.group reads)
      · rw [parts, List.cons_append, List.append_assoc, List.singleton_append]
      · rw [behind, behind_append]
        rfl
  | missed xs parts ahead placed misses =>
    exact .missed (.operator .lparen :: xs) (congrArg _ parts) ahead placed (.group misses)

theorem negation (inner : Derived .operand (some (.operator .not)) ts a) :
    Derived .operand last (.operator .not :: ts)
      (a.map fun (trees, c) => ([.operator .not trees], c)) := by
  cases inner with
  | read xs parts placed reads =>
    obtain ⟨x, rfl⟩ := reads.singleton (by decide)
    exact .read (.operator .not :: xs) (congrArg _ parts) placed (.negation reads)
  | missed xs parts ahead placed misses =>
    exact .missed (.operator .not :: xs) (congrArg _ parts) ahead placed (.negation misses)

theorem expression (first : Derived .operand last ts a)
    (second : ∀ last (us : List Token), us.length < ts.length →
      Derived .expression last us (Rule.answer .expression ⟨last, us⟩)) :
    Derived .expression last ts (a >>= Rule.link) := by
  cases first with
  | missed xs parts ahead placed misses => exact .missed xs parts ahead placed (.first misses)
  | @read xs trees place rest parts placed reads =>
    obtain ⟨x, rfl⟩ := reads.singleton (by decide)
    change Derived .expression last ts (Rule.link ([x], ⟨place, rest⟩))
    cases ends : links rest.head? with
    | false =>
      rw [Rule.link_alone _ _ rest ends]
      exact .read xs parts placed (.alone reads ends)
    | true =>
      obtain ⟨connective, ahead⟩ := connective_of_links ends
      obtain ⟨us, rfl⟩ := List.head?_eq_some_iff.mp ahead
      cases us with
      | nil =>
        rw [Rule.link_trailing]
        refine .read (xs ++ [.operator connective.operator]) ?_ ?_ (.trailing connective reads)
        · rw [parts, List.append_nil]
        · rw [behind_append]
          rfl
      | cons u us =>
        rw [Rule.link_linked]
        have fewer : (u :: us).length < ts.length := by
          simp only [parts, List.length_append, List.length_cons]
          omega
        have inner := second (some (.operator connective.operator)) (u :: us) fewer
        generalize Rule.answer .expression _ = b at inner ⊢
        cases inner with
        | read ys parts' placed' reads' =>
          obtain ⟨y, rfl⟩ := reads'.singleton (by decide)
          refine .read _ ?_ ?_ (.linked connective reads reads')
          · rw [parts, parts', List.append_assoc]
            rfl
          · rw [behind_append]
            exact placed'
        | missed ys parts' ahead' placed' misses =>
          obtain ⟨vs, rfl⟩ := misses.exists_cons parts' ahead'
          refine .missed _ ?_ ahead' ?_ (.second connective reads misses)
          · rw [parts, parts', List.append_assoc]
            rfl
          · rw [behind_append]
            exact placed'

theorem sequence {t : Token} (opens : t ≠ .operator .rparen)
    (first : Derived .expression last (t :: ts) a)
    (others : ∀ last (us : List Token), us.length < (t :: ts).length →
      Derived .sequence last us (Rule.answer .sequence ⟨last, us⟩)) :
    Derived .sequence last (t :: ts) (a >>= fun (first, c) =>
      (Rule.answer .sequence c).map fun (others, c) => (first ++ others, c)) := by
  cases first with
  | missed xs parts ahead placed misses =>
    obtain ⟨us, rfl⟩ := misses.exists_cons parts ahead
    exact .missed _ parts ahead placed (.head opens misses)
  | @read xs trees place rest parts placed reads =>
    obtain ⟨x, rfl⟩ := reads.singleton (by decide)
    obtain ⟨us, rfl⟩ := reads.exists_cons (by decide) parts
    have fewer : rest.length < (t :: ts).length := by
      rw [parts, List.length_append, List.length_cons]
      omega
    have inner := others place rest fewer
    -- The first expression saw one token ahead, which the others read or leave.
    simp only [bind, Except.bind]
    generalize Rule.answer .sequence _ = b at inner ⊢
    cases inner with
    | @read ys trees place' rest' parts' placed' reads' =>
      have ahead : rest.head? = ys.head?.or rest'.head? := by rw [parts', List.head?_append]
      refine .read _ ?_ ?_ (.cons opens (ahead ▸ reads) reads')
      · rw [parts, parts', List.cons_append, List.cons_append, List.append_assoc]
      · rw [← List.cons_append, behind_append, ← placed]
        exact placed'
    | @missed ys _ _ rest' parts' ahead' placed' misses =>
      have ahead : rest.head? = ys.head?.or rest'.head? := by rw [parts', List.head?_append]
      refine .missed _ ?_ ahead' ?_ (.tail opens (ahead' ▸ ahead ▸ reads) misses)
      · rw [parts, parts', List.cons_append, List.cons_append, List.append_assoc]
      · rw [← List.cons_append, behind_append, ← placed]
        exact placed'

end Derived

/-- A rule starts with rules of lower rank only. -/
@[simp] def Rule.rank : Rule → Nat
  | term => 0
  | operand => 1
  | expression => 2
  | sequence => 3

/-- Whatever a rule answers, the grammar derives: by recursion on the tokens left, and at one cursor
from the rule to those it starts with. -/
theorem derived_answer (rule : Rule) (last : Option Token) (ts : List Token) :
    Derived rule last ts (rule.answer ⟨last, ts⟩) := by
  match rule, ts with
  | .term, ts => exact .term last ts
  | .operand, [] => exact .missed [] rfl rfl rfl .noOperand
  | .operand, t :: us =>
    rcases opensTerm_or t with opens | rfl | rfl | rfl
    · rw [Rule.answer_operand_term _ _ _ opens]
      exact .plain opens (.term last (t :: us))
    · rw [Rule.answer_operand_comma]
      exact .comma (.term _ us)
    · rw [Rule.answer_operand_lparen]
      exact .group (derived_answer .sequence _ us)
    · rw [Rule.answer_operand_not]
      exact .negation (derived_answer .operand _ us)
  | .expression, ts =>
    rw [Rule.answer_expression]
    exact .expression (derived_answer .operand last ts) fun last us _ => derived_answer .expression last us
  | .sequence, ts =>
    cases ends : closes ts.head? with
    | true =>
      rw [Rule.answer_sequence_closes _ _ ends]
      exact .read [] rfl rfl (.nil ends)
    | false =>
      cases ts with
      | nil => cases ends
      | cons t us =>
        have opens : t ≠ .operator .rparen := by rintro rfl; cases ends
        rw [Rule.answer_sequence_cons _ _ _ opens]
        exact .sequence opens (derived_answer .expression last (t :: us)) fun last us _ =>
          derived_answer .sequence last us
termination_by (ts.length, rule.rank)

theorem read_eq_answer (ts : List Token) :
    Tree.read ts = (Rule.answer .sequence ⟨none, ts⟩).map fun (trees, c) =>
      ⟨.logical .juxtaposition trees, c.rest⟩ := by
  simp only [Tree.read, Rule.answer, Cursor.start]
  cases Tree.sequence ⟨none, ts⟩ <;> rfl

theorem read_of_reads {xs unread trees} (reads : Reads .sequence xs trees unread.head?) :
    Tree.read (xs ++ unread) = .ok ⟨.logical .juxtaposition trees, unread⟩ := by
  rw [read_eq_answer, answer_of_reads reads none unread rfl]
  rfl

theorem read_to_end {xs trees} (reads : Reads .sequence xs trees none) :
    Tree.read xs = .ok ⟨.logical .juxtaposition trees, []⟩ := by
  have whole : Tree.read (xs ++ []) = .ok ⟨.logical .juxtaposition trees, []⟩ := read_of_reads reads
  rwa [List.append_nil] at whole

theorem read_of_misses {xs rest found} (misses : Misses .sequence xs found)
    (ahead : rest.head? = found) : Tree.read (xs ++ rest) = .error ⟨found, behind none xs⟩ := by
  rw [read_eq_answer, answer_of_misses misses none rest ahead]
  rfl

/-- The tokens of an outcome: those read, as the grammar derives them, and those left unread. -/
theorem reads_of_read {ts : List Token} {outcome : Tree.Outcome} (h : Tree.read ts = .ok outcome) :
    ∃ xs trees, ts = xs ++ outcome.unread ∧ outcome.root = .logical .juxtaposition trees ∧
      Reads .sequence xs trees outcome.unread.head? := by
  rw [read_eq_answer] at h
  have derived := derived_answer .sequence none ts
  generalize Rule.answer .sequence _ = answer at h derived
  cases derived with
  | missed => cases h
  | read xs parts _ reads =>
    obtain rfl := Except.ok.inj h
    exact ⟨xs, _, parts, rfl, reads⟩

theorem misses_of_read {ts : List Token} {e : ValueExpected} (h : Tree.read ts = .error e) :
    ∃ xs rest, ts = xs ++ rest ∧ e = ⟨rest.head?, behind none xs⟩ ∧
      Misses .sequence xs rest.head? := by
  rw [read_eq_answer] at h
  have derived := derived_answer .sequence none ts
  generalize Rule.answer .sequence _ = answer at h derived
  cases derived with
  | read => cases h
  | @missed xs found after rest parts ahead placed misses =>
    obtain rfl := Except.error.inj h
    subst ahead placed
    exact ⟨xs, rest, parts, rfl, misses⟩

theorem asWritten_eq_ok_iff {ts : List Token} {root : Tree} :
    asWritten ts = .ok root ↔ ∃ unread, Tree.read ts = .ok ⟨root, unread⟩ := by
  rw [asWritten]
  cases Tree.read ts with
  | error e => exact ⟨fun h => (by cases h), fun ⟨_, h⟩ => (by cases h)⟩
  | ok outcome =>
    constructor
    · intro h
      cases h
      exact ⟨outcome.unread, rfl⟩
    · rintro ⟨unread, h⟩
      cases h
      rfl

/-- A tree as written, by the tokens read, as the grammar derives it, and those left unread. -/
theorem reads_of_asWritten {ts : List Token} {root : Tree} (h : asWritten ts = .ok root) :
    ∃ xs unread trees, Tree.read ts = .ok ⟨root, unread⟩ ∧ ts = xs ++ unread ∧
      root = .logical .juxtaposition trees ∧ Reads .sequence xs trees unread.head? := by
  obtain ⟨unread, outcome⟩ := asWritten_eq_ok_iff.mp h
  obtain ⟨xs, trees, parts, shape, reads⟩ := reads_of_read outcome
  exact ⟨xs, unread, trees, outcome, parts, shape, reads⟩

theorem ofTokens_eq_ok_iff {ts : List Token} {tree : Tree} :
    ofTokens ts = .ok tree ↔ ∃ root, asWritten ts = .ok root ∧ tree = root.collapse := by
  rw [ofTokens]
  cases asWritten ts with
  | error e => exact ⟨fun h => (by cases h), fun ⟨_, h, _⟩ => (by cases h)⟩
  | ok root =>
    constructor
    · intro h
      cases h
      exact ⟨root, rfl, rfl⟩
    · rintro ⟨root', h, rfl⟩
      cases h
      rfl

theorem ofTokens_eq_error_iff {ts : List Token} {e : ValueExpected} :
    ofTokens ts = .error e ↔ Tree.read ts = .error e := by
  rw [ofTokens, asWritten]
  cases Tree.read ts with
  | error e' =>
    constructor
    · intro h
      rw [Except.error.inj h]
    · intro h
      rw [Except.error.inj h]
      rfl
  | ok outcome => exact ⟨fun h => (by cases h), fun h => (by cases h)⟩

theorem ofTokens_of_read {ts : List Token} {root : Tree} {unread : List Token}
    (read : Tree.read ts = .ok ⟨root, unread⟩) : ofTokens ts = .ok root.collapse :=
  ofTokens_eq_ok_iff.mpr ⟨root, asWritten_eq_ok_iff.mpr ⟨unread, read⟩, rfl⟩

theorem ofTokens_of_reads {xs trees} (reads : Reads .sequence xs trees none) :
    ofTokens xs = .ok (collapse (.logical .juxtaposition trees)) :=
  ofTokens_of_read (read_to_end reads)

theorem ofTokens_of_misses {xs rest found} (misses : Misses .sequence xs found)
    (ahead : rest.head? = found) : ofTokens (xs ++ rest) = .error ⟨found, behind none xs⟩ :=
  ofTokens_eq_error_iff.mpr (read_of_misses misses ahead)

end SearchQuery.Grammar
