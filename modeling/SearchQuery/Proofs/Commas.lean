import SearchQuery.Proofs.MissingValue

/-!
# Commas between literals

A comma between two literals is read in one of two ways: behind a value that stands alone it belongs
to that value, and behind any other it sets off the operand that starts with the second literal. Both
say what the two literals say side by side. No rule reads two literals without a token between them,
so the place of the comma is always the end of one expression and the start of another in the same
sequence. Hence the comma changes neither a tree nor a failure, at any depth.
-/
namespace SearchQuery.Grammar
open SearchQuery.Tree

/-- The second tokens are the first with a comma put between two literals that stand side by side. -/
inductive Parted : List Token → List Token → Prop
  | here (u v : String) (rest : List Token) :
      Parted (.literal u :: .literal v :: rest)
        (.literal u :: .operator .comma :: .literal v :: rest)
  | behind (t : Token) {xs ys : List Token} (later : Parted xs ys) : Parted (t :: xs) (t :: ys)

theorem parted_append (front : List Token) (u v : String) (rest : List Token) :
    Parted (front ++ .literal u :: .literal v :: rest)
      (front ++ .literal u :: .operator .comma :: .literal v :: rest) := by
  induction front with
  | nil => exact .here u v rest
  | cons t front ih => exact .behind t ih

namespace Parted
variable {xs ys zs : List Token}

theorem head?_eq (parted : Parted xs zs) : zs.head? = xs.head? := by
  cases parted <;> rfl

theorem exists_cons {t : Token} (parted : Parted (t :: xs) zs) : ∃ us, zs = t :: us := by
  cases parted <;> exact ⟨_, rfl⟩

theorem not_nil : ¬ Parted [] zs := nofun

theorem not_singleton {t : Token} : ¬ Parted [t] zs := by
  intro parted
  cases parted with
  | behind _ later => exact not_nil later

/-- Behind an operator the two literals stand further on. -/
theorem of_operator {op : Operator} (parted : Parted (.operator op :: xs) zs) :
    ∃ ys, Parted xs ys ∧ zs = .operator op :: ys := by
  cases parted with
  | behind _ later => exact ⟨_, later, rfl⟩

/-- The last token read stays the last. -/
theorem behind_eq (parted : Parted xs zs) (last : Option Token) :
    Grammar.behind last zs = Grammar.behind last xs := by
  induction parted generalizing last with
  | here => rfl
  | behind t _ ih => exact ih (some t)

/-- Of two parts, one holds both literals, or each holds one. -/
inductive Append (xs ys : List Token) : List Token → Prop
  | left {us : List Token} (parted : Parted xs us) : Append xs ys (us ++ ys)
  | right {us : List Token} (parted : Parted ys us) : Append xs ys (xs ++ us)
  | between {u v : String} (ends : xs.getLast? = some (.literal u))
      (starts : ys.head? = some (.literal v)) : Append xs ys (xs ++ .operator .comma :: ys)

theorem append (parted : Parted (xs ++ ys) zs) : Append xs ys zs := by
  induction xs generalizing zs with
  | nil => exact .right parted
  | cons t xs ih =>
    cases xs with
    | nil =>
      cases parted with
      | here => exact .between rfl rfl
      | behind _ later => exact .right later
    | cons x xs =>
      cases parted with
      | here u v => exact .left (.here u v xs)
      | behind _ later =>
        cases ih later with
        | left inside => exact .left (.behind t inside)
        | right inside => exact .right inside
        | between ends starts => exact .between ends starts

end Parted

/-! ### Beside the comma -/

/-- Behind a literal, a comma ends what was read, or is read with it. -/
theorem Reads.comma_behind {rule xs trees next} {u v : String} (reads : Reads rule xs trees next)
    (ahead : next = some (.literal v)) (ends : xs.getLast? = some (.literal u)) :
    Reads rule xs trees (some (.operator .comma)) ∨
      Reads rule (xs ++ [.operator .comma]) trees next := by
  induction reads with
  | value => exact .inr .separated
  | separated => cases ends
  | compared compares => exact .inl (.compared compares)
  | unary => exact .inl .unary
  | term opens _ ih =>
    rcases ih ahead ends with before | inside
    · exact .inl (.term opens before)
    · exact .inr (.term opens inside)
  | comma inner ih =>
    rw [List.getLast?_cons_of_ne_nil (inner.ne_nil (by decide))] at ends
    rcases ih ahead ends with before | inside
    · exact .inl (.comma before)
    · exact .inr (.comma inside)
  | group =>
    rw [← List.cons_append, List.getLast?_concat] at ends
    cases ends
  | openGroup | trailing => cases ahead
  | negation inner ih =>
    rw [List.getLast?_cons_of_ne_nil (inner.ne_nil (by decide))] at ends
    rcases ih ahead ends with before | inside
    · exact .inl (.negation before)
    · exact .inr (.negation inside)
  | alone _ unlinked ih =>
    rcases ih ahead ends with before | inside
    · exact .inl (.alone before rfl)
    · exact .inr (.alone inside unlinked)
  | linked connective first second _ ih =>
    rw [List.getLast?_append_cons,
      List.getLast?_cons_of_ne_nil (second.ne_nil (by decide))] at ends
    rcases ih ahead ends with before | inside
    · exact .inl (.linked connective first before)
    · rw [List.append_assoc]
      exact .inr (.linked connective first inside)
  | nil => cases ends
  | cons _ _ others =>
    have stops := others.stops
    rw [ahead] at stops
    cases stops

/-- A comma sets off an operand that starts with a literal, and so what starts with that operand. -/
theorem Reads.comma_ahead {rule xs trees next} {v : String} (reads : Reads rule xs trees next)
    (notTerm : rule ≠ .term) (starts : xs.head? = some (.literal v)) :
    Reads rule (.operator .comma :: xs) trees next := by
  induction reads with
  | value | separated | compared | unary => exact absurd rfl notTerm
  | term _ inner => exact .comma inner
  | comma | group | openGroup | negation | nil => cases starts
  | alone _ ends ih => exact .alone (ih (by decide) starts) ends
  | trailing connective first ih =>
    rw [List.head?_append_of_ne_nil _ (first.ne_nil (by decide))] at starts
    exact .trailing connective (ih (by decide) starts)
  | linked connective first second ih =>
    rw [List.head?_append_of_ne_nil _ (first.ne_nil (by decide))] at starts
    exact .linked connective (ih (by decide) starts) second
  | cons _ _ others ih => exact .cons (by decide) (ih (by decide) starts) others

theorem Misses.comma_ahead {rule xs next} {v : String} (misses : Misses rule xs next)
    (notTerm : rule ≠ .term) (starts : xs.head? = some (.literal v)) :
    Misses rule (.operator .comma :: xs) next := by
  induction misses with
  | nothing | compared | unary => exact absurd rfl notTerm
  | noOperand | comma | group | negation => cases starts
  | term _ inner => exact .comma inner
  | first _ ih => exact .first (ih (by decide) starts)
  | second connective first second =>
    rw [List.head?_append_of_ne_nil _ (first.ne_nil (by decide))] at starts
    exact .second connective (first.comma_ahead (by decide) starts) second
  | head _ _ ih => exact .head (by decide) (ih (by decide) starts)
  | tail _ first others => exact .tail (by decide) (first.comma_ahead (by decide) starts) others

/-! ### A comma anywhere -/

/-- No term holds two literals side by side. -/
theorem Reads.not_parted {xs ys trees next} (reads : Reads .term xs trees next) :
    ¬ Parted xs ys := by
  intro parted
  cases reads with
  | value => exact parted.not_singleton
  | separated =>
    cases parted with
    | behind _ later => exact later.not_singleton
  | compared =>
    cases parted with
    | behind _ later =>
      obtain ⟨_, last, -⟩ := later.of_operator
      exact last.not_singleton
  | unary =>
    obtain ⟨_, later, -⟩ := parted.of_operator
    exact later.not_singleton

theorem Misses.not_parted {xs ys next} (misses : Misses .term xs next) : ¬ Parted xs ys := by
  intro parted
  cases misses with
  | nothing => exact parted.not_nil
  | compared =>
    cases parted with
    | behind _ later => exact later.not_singleton
  | unary => exact parted.not_singleton

/-- What is read without the comma is read with it, as the same trees. -/
theorem Reads.parted {rule xs ys trees next} (reads : Reads rule xs trees next)
    (parted : Parted xs ys) : Reads rule ys trees next := by
  -- Only where an expression ends and the next one starts can each of two parts hold one literal.
  induction reads generalizing ys with
  | value ends => exact absurd parted (Reads.value ends).not_parted
  | @separated v next => exact absurd parted (@Reads.separated v next).not_parted
  | @compared v op w next compares =>
    exact absurd parted (@Reads.compared v op w next compares).not_parted
  | @unary op v next => exact absurd parted (@Reads.unary op v next).not_parted
  | term _ inner => exact absurd parted inner.not_parted
  | comma inner =>
    obtain ⟨us, later, rfl⟩ := parted.of_operator
    exact absurd later inner.not_parted
  | group _ ih =>
    obtain ⟨us, later, rfl⟩ := parted.of_operator
    cases later.append with
    | left inside => exact .group (ih inside)
    | right inside => exact absurd inside Parted.not_singleton
    | between _ starts => cases starts
  | openGroup _ ih =>
    obtain ⟨us, later, rfl⟩ := parted.of_operator
    exact .openGroup (ih later)
  | negation _ ih =>
    obtain ⟨us, later, rfl⟩ := parted.of_operator
    exact .negation (ih later)
  | alone _ ends ih => exact .alone (ih parted) ends
  | trailing connective _ ih =>
    cases parted.append with
    | left inside => exact .trailing connective (ih inside)
    | right inside => exact absurd inside Parted.not_singleton
    | between _ starts => cases starts
  | linked connective first second ihFirst ihSecond =>
    cases parted.append with
    | left inside => exact .linked connective (ihFirst inside) second
    | right inside =>
      obtain ⟨us, later, rfl⟩ := inside.of_operator
      exact .linked connective first (ihSecond later)
    | between _ starts => cases starts
  | nil => exact absurd parted Parted.not_nil
  | @cons t xs x ys trees next opens first others ihFirst ihOthers =>
    rw [← List.cons_append] at parted
    cases parted.append with
    | left inside =>
      obtain ⟨us, rfl⟩ := inside.exists_cons
      exact .cons opens (ihFirst inside) others
    | right inside =>
      rw [← inside.head?_eq] at first
      exact .cons opens first (ihOthers inside)
    | @between u v ends starts =>
      have ahead : ys.head?.or next = some (.literal v) := by rw [starts]; rfl
      rcases first.comma_behind ahead ends with before | inside
      · exact .cons opens before (others.comma_ahead (by decide) starts)
      · rw [List.append_cons, List.cons_append, List.cons_append]
        exact .cons opens inside others

theorem Misses.parted {rule xs ys next} (misses : Misses rule xs next) (parted : Parted xs ys) :
    Misses rule ys next := by
  induction misses generalizing ys with
  | nothing | noOperand => exact absurd parted Parted.not_nil
  | compared compares missing => exact absurd parted (Misses.compared compares missing).not_parted
  | unary missing => exact absurd parted (Misses.unary missing).not_parted
  | term _ inner => exact absurd parted inner.not_parted
  | comma inner =>
    obtain ⟨us, later, rfl⟩ := parted.of_operator
    exact absurd later inner.not_parted
  | group _ ih =>
    obtain ⟨us, later, rfl⟩ := parted.of_operator
    exact .group (ih later)
  | negation _ ih =>
    obtain ⟨us, later, rfl⟩ := parted.of_operator
    exact .negation (ih later)
  | first _ ih => exact .first (ih parted)
  | second connective first second ih =>
    cases parted.append with
    | left inside => exact .second connective (first.parted inside) second
    | right inside =>
      obtain ⟨us, later, rfl⟩ := inside.of_operator
      obtain ⟨vs, rfl⟩ := later.exists_cons
      exact .second connective first (ih later)
    | between _ starts => cases starts
  | head opens _ ih =>
    obtain ⟨us, rfl⟩ := parted.exists_cons
    exact .head opens (ih parted)
  | @tail t xs x ys next opens first others ih =>
    rw [← List.cons_append] at parted
    cases parted.append with
    | left inside =>
      obtain ⟨us, rfl⟩ := inside.exists_cons
      exact .tail opens (first.parted inside) others
    | right inside =>
      rw [← inside.head?_eq] at first
      exact .tail opens first (ih inside)
    | @between u v ends starts =>
      have ahead : ys.head?.or next = some (.literal v) := by rw [starts]; rfl
      rcases first.comma_behind ahead ends with before | inside
      · exact .tail opens before (others.comma_ahead (by decide) starts)
      · rw [List.append_cons, List.cons_append, List.cons_append]
        exact .tail opens inside others

theorem asWritten_parted {ts us : List Token} (parted : Parted ts us) :
    asWritten us = asWritten ts := by
  rw [asWritten, asWritten]
  cases answer : Tree.read ts with
  | ok outcome =>
    obtain ⟨root, unread⟩ := outcome
    obtain ⟨xs, trees, rfl, rfl, reads⟩ := reads_of_read answer
    cases parted.append with
    | left inside => rw [read_of_reads (reads.parted inside)]
    | right inside =>
      rw [← inside.head?_eq] at reads
      rw [read_of_reads reads]
      rfl
    | between _ starts =>
      have stops := reads.stops
      rw [starts] at stops
      cases stops
  | error e =>
    obtain ⟨xs, rest, rfl, rfl, misses⟩ := misses_of_read answer
    cases parted.append with
    | left inside => rw [read_of_misses (misses.parted inside) rfl, inside.behind_eq]
    | right inside => rw [read_of_misses misses inside.head?_eq]
    | between _ starts =>
      have noValue := misses.no_value
      rw [starts] at noValue
      cases noValue

/-- With a comma between two literals, wherever they stand, the same tree is written, or the same
failure found at the same place, and so also once the tree is collapsed. -/
theorem comma_between_literals (front rest : List Token) (u v : String) :
    asWritten (front ++ [.literal u, .operator .comma, .literal v] ++ rest) =
        asWritten (front ++ [.literal u, .literal v] ++ rest) ∧
      ofTokens (front ++ [.literal u, .operator .comma, .literal v] ++ rest) =
        ofTokens (front ++ [.literal u, .literal v] ++ rest) := by
  have written := asWritten_parted (parted_append front u v rest)
  rw [List.append_assoc, List.append_assoc]
  exact ⟨written, congrArg (Except.map collapse) written⟩

end SearchQuery.Grammar
