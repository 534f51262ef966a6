import Mathlib.Data.List.Basic
import SearchQuery.Proofs.Collapsing
import SearchQuery.Proofs.Grammar

/-!
# Behind the end of a reading

What a rule reads up to the end of the tokens, it also reads in front of more. A closing marker ends
it as the end does, or else closes the innermost group that it left open. A connective links its last
operand: if no token follows, the connective says nothing, and if what follows lacks a value, so does
the whole.
-/
namespace SearchQuery.Grammar
open SearchQuery.Tree

/-- A token with which an operand can end. -/
def endsOperand : Option Token → Bool
  | some (.operator op) => op ≠ .lparen && !op.isConnective
  | some (.literal _) => true
  | none => false

theorem unlinked_of_endsOperand {last : Option Token} (ends : endsOperand last = true) :
    links last = false := by
  match last with
  | some (.literal _) => rfl
  | some (.operator op) =>
    simp only [endsOperand, Bool.and_eq_true, Bool.not_eq_true'] at ends
    exact ends.2

theorem links_connective (connective : Connective) :
    links (some (.operator connective.operator)) = true := by
  cases connective <;> rfl

theorem extendsValue_connective (connective : Connective) :
    extendsValue (some (.operator connective.operator)) = false := by
  cases connective <;> rfl

theorem unlinked_of_cons {t : Token} {xs : List Token}
    (unlinked : links (t :: xs).getLast? = false) : links xs.getLast? = false := by
  cases xs with
  | nil => rfl
  | cons u us => exact unlinked

theorem Reads.eq_nil {trees next} (reads : Reads .sequence [] trees next) : trees = [] := by
  cases reads with
  | nil => rfl

/-- A closing marker behind what was read to the end either ends it too or closes a group in it. -/
theorem Reads.closed {rule xs trees next} (reads : Reads rule xs trees next) (atEnd : next = none)
    (unlinked : links xs.getLast? = false) :
    Reads rule xs trees (some (.operator .rparen)) ∨
      Reads rule (xs ++ [.operator .rparen]) trees none := by
  -- Only what stands last meets the marker; whatever is in front of it is read as before.
  induction reads with
  | value => exact .inl (.value rfl)
  | separated => exact .inl .separated
  | compared compares => exact .inl (.compared compares)
  | unary => exact .inl .unary
  | term opens _ ih =>
    rcases ih atEnd unlinked with before | inside
    · exact .inl (.term opens before)
    · exact .inr (.term opens inside)
  | comma _ ih =>
    rcases ih atEnd (unlinked_of_cons unlinked) with before | inside
    · exact .inl (.comma before)
    · exact .inr (.comma inside)
  | group body => exact .inl (.group body)
  | openGroup _ ih =>
    rcases ih rfl (unlinked_of_cons unlinked) with before | inside
    -- The marker that would end the body closes this group.
    · exact .inr (.group before)
    · exact .inr (.openGroup inside)
  | negation _ ih =>
    rcases ih atEnd (unlinked_of_cons unlinked) with before | inside
    · exact .inl (.negation before)
    · exact .inr (.negation inside)
  | alone _ _ ih =>
    rcases ih atEnd unlinked with before | inside
    · exact .inl (.alone before rfl)
    · exact .inr (.alone inside rfl)
  | trailing connective =>
    rw [List.getLast?_concat, links_connective] at unlinked
    cases unlinked
  | @linked xs x ys y _ connective first second _ ih =>
    rw [List.getLast?_append_cons] at unlinked
    rcases ih atEnd (unlinked_of_cons unlinked) with before | inside
    · exact .inl (.linked connective first before)
    · rw [List.append_assoc]
      exact .inr (.linked connective first inside)
  | nil => exact .inl (.nil rfl)
  | @cons t xs x ys trees _ opens first others ihFirst ihOthers =>
    cases ys with
    | nil =>
      obtain rfl := others.eq_nil
      rw [List.append_nil] at unlinked ⊢
      rcases ihFirst atEnd unlinked with before | inside
      · exact .inl (.sole opens before rfl)
      · exact .inr (.sole opens inside rfl)
    | cons u us =>
      rw [← List.cons_append, List.getLast?_append_cons] at unlinked
      rcases ihOthers atEnd unlinked with before | inside
      · exact .inl (.cons opens first before)
      · rw [List.cons_append, List.append_assoc]
        exact .inr (.cons opens first inside)

/-- What was read up to a closing marker is read to the end as well. -/
theorem Reads.ended {rule xs trees next} (reads : Reads rule xs trees next)
    (atMarker : next = some (.operator .rparen)) : Reads rule xs trees none := by
  -- A group that is closed inside stays closed by its own marker; only what stands last meets the end.
  induction reads with
  | value => exact .value rfl
  | separated => exact .separated
  | compared compares => exact .compared compares
  | unary => exact .unary
  | term opens _ ih => exact .term opens (ih atMarker)
  | comma _ ih => exact .comma (ih atMarker)
  | group body => exact .group body
  | openGroup => cases atMarker
  | negation _ ih => exact .negation (ih atMarker)
  | alone _ _ ih => exact .alone (ih atMarker) rfl
  | trailing => cases atMarker
  | linked connective first _ _ ih => exact .linked connective first (ih atMarker)
  | nil => exact .nil rfl
  | @cons t xs x ys trees _ opens first others ihFirst ihOthers =>
    cases ys with
    | nil => exact .cons opens (ihFirst atMarker) (ihOthers atMarker)
    | cons u us => exact .cons opens first (ihOthers atMarker)

/-- Tokens read to the end are read alike in a group, whichever marker closes it. -/
theorem Reads.grouped {ts trees} (reads : Reads .sequence ts trees none)
    (unlinked : links ts.getLast? = false) :
    Reads .sequence (.operator .lparen :: (ts ++ [.operator .rparen]))
      [.logical .juxtaposition trees] none := by
  rcases reads.closed rfl unlinked with before | inside
  · exact .sole_operand (by decide) (.group before) rfl
  · exact .sole_operand (by decide) (.openGroup inside) rfl

/-- What a connective makes of tokens that were read to the end, the last of them in an operand. -/
structure LinkedBehind (connective : Connective) (rule : Rule) (xs : List Token)
    (trees : List Tree) : Prop where
  dropped : ∃ others, Reads rule (xs ++ [.operator connective.operator]) others none ∧
    collapseAll others = collapseAll trees
  missing : ∀ t ys next, Misses .expression (t :: ys) next →
    Misses rule (xs ++ .operator connective.operator :: t :: ys) next

theorem collapse_congr {connective : Connective} {ts us : List Tree}
    (same : collapseAll ts = collapseAll us) :
    collapse (.logical connective ts) = collapse (.logical connective us) := by
  have length : ts.length = us.length := by
    rw [← length_collapseAll ts, same, length_collapseAll]
  by_cases single : ts.length = 1
  · obtain ⟨t, rfl⟩ := List.length_eq_one_iff.mp single
    obtain ⟨u, rfl⟩ := List.length_eq_one_iff.mp (length ▸ single)
    simpa [collapse, collapseAll] using same
  · rw [collapse_join single, collapse_join (length ▸ single), same]

namespace LinkedBehind
variable {connective : Connective} {xs : List Token} {trees : List Tree}

/-- An operand in front of the connective is linked by it. -/
theorem of_operand {x : Tree}
    (first : Reads .operand xs [x] (some (.operator connective.operator))) :
    LinkedBehind connective .expression xs [x] where
  dropped := ⟨_, .trailing connective first, by simp [collapseAll, collapse]⟩
  missing _ _ _ misses := .second connective first misses

theorem exists_singleton {rule : Rule} {x : Tree} (notSequence : rule ≠ .sequence)
    (linked : LinkedBehind connective rule xs [x]) :
    ∃ y, Reads rule (xs ++ [.operator connective.operator]) [y] none ∧ collapse y = collapse x := by
  obtain ⟨others, reads, same⟩ := linked.dropped
  obtain ⟨y, rfl⟩ := reads.singleton notSequence
  exact ⟨y, reads, by simpa [collapseAll] using same⟩

theorem term {t : Token} {x : Tree} (opens : opensTerm t = true)
    (inside : LinkedBehind connective .term (t :: xs) [x]) :
    LinkedBehind connective .operand (t :: xs) [x] := by
  obtain ⟨y, read, same⟩ := inside.exists_singleton (by decide)
  refine ⟨⟨[y], .term opens read, by simp [collapseAll, same]⟩, ?_⟩
  intro u ys next misses
  exact .term opens (inside.missing u ys next misses)

theorem comma {x : Tree} (inside : LinkedBehind connective .term xs [x]) :
    LinkedBehind connective .operand (.operator .comma :: xs) [x] := by
  obtain ⟨y, read, same⟩ := inside.exists_singleton (by decide)
  refine ⟨⟨[y], .comma read, by simp [collapseAll, same]⟩, ?_⟩
  intro u ys next misses
  exact .comma (inside.missing u ys next misses)

theorem openGroup (inside : LinkedBehind connective .sequence xs trees) :
    LinkedBehind connective .operand (.operator .lparen :: xs) [.logical .juxtaposition trees] := by
  obtain ⟨others, read, same⟩ := inside.dropped
  refine ⟨⟨_, .openGroup read, by simp [collapseAll, collapse_congr same]⟩, ?_⟩
  intro u ys next misses
  exact .group (inside.missing u ys next misses)

theorem negation {x : Tree} (inside : LinkedBehind connective .operand xs [x]) :
    LinkedBehind connective .operand (.operator .not :: xs) [.operator .not [x]] := by
  obtain ⟨y, read, same⟩ := inside.exists_singleton (by decide)
  refine ⟨⟨_, .negation read, by simp [collapseAll, collapse, same]⟩, ?_⟩
  intro u ys next misses
  exact .negation (inside.missing u ys next misses)

theorem alone {x : Tree} (inside : LinkedBehind connective .operand xs [x]) :
    LinkedBehind connective .expression xs [x] := by
  obtain ⟨y, read, same⟩ := inside.exists_singleton (by decide)
  refine ⟨⟨[y], .alone read rfl, by simp [collapseAll, same]⟩, ?_⟩
  intro u ys next misses
  exact .first (inside.missing u ys next misses)

theorem linked {x y : Tree} {u : Token} {us : List Token} (other : Connective)
    (first : Reads .operand xs [x] (some (.operator other.operator)))
    (inside : LinkedBehind connective .expression (u :: us) [y]) :
    LinkedBehind connective .expression (xs ++ .operator other.operator :: u :: us)
      [.logical other [x, y]] := by
  obtain ⟨z, read, same⟩ := inside.exists_singleton (by decide)
  refine ⟨⟨[.logical other [x, z]], ?_, by simp [collapseAll, collapse, same]⟩, ?_⟩
  · rw [List.append_assoc]
    exact .linked other first read
  · intro t ys next misses
    rw [List.append_assoc]
    exact .second other first (inside.missing t ys next misses)

theorem sole {t : Token} {x : Tree} (opens : t ≠ .operator .rparen)
    (inside : LinkedBehind connective .expression (t :: xs) [x]) :
    LinkedBehind connective .sequence (t :: xs) [x] := by
  obtain ⟨y, read, same⟩ := inside.exists_singleton (by decide)
  refine ⟨⟨[y], .sole opens read rfl, by simp [collapseAll, same]⟩, ?_⟩
  intro u ys next misses
  exact .head opens (inside.missing u ys next misses)

theorem cons {t u : Token} {us : List Token} {x : Tree} (opens : t ≠ .operator .rparen)
    (first : Reads .expression (t :: xs) [x] (some u))
    (inside : LinkedBehind connective .sequence (u :: us) trees) :
    LinkedBehind connective .sequence (t :: (xs ++ u :: us)) (x :: trees) := by
  obtain ⟨others, read, same⟩ := inside.dropped
  refine ⟨⟨x :: others, ?_, by simp [collapseAll, same]⟩, ?_⟩
  · rw [List.cons_append, List.append_assoc]
    exact .cons opens first read
  · intro v ys next misses
    rw [List.cons_append, List.append_assoc]
    exact .tail opens first (inside.missing v ys next misses)

end LinkedBehind

/-- A connective behind what was read to the end links the operand with which it ends: the whole of a
term or an operand, or one inside. -/
theorem Reads.linkedBehind {rule xs trees next} (reads : Reads rule xs trees next)
    (atEnd : next = none) (ends : endsOperand xs.getLast? = true) (connective : Connective) :
    ((rule = .term ∨ rule = .operand) ∧
      Reads rule xs trees (some (.operator connective.operator))) ∨
      LinkedBehind connective rule xs trees := by
  -- A value or a closed group waits for the expression around it to link it; an open group, whose body
  -- is a sequence, has the operand inside.
  induction reads with
  | value => exact .inl ⟨.inl rfl, .value (extendsValue_connective connective)⟩
  | separated => exact .inl ⟨.inl rfl, .separated⟩
  | compared compares => exact .inl ⟨.inl rfl, .compared compares⟩
  | unary => exact .inl ⟨.inl rfl, .unary⟩
  | term opens _ ih =>
    rcases ih atEnd ends with ⟨-, before⟩ | inside
    · exact .inl ⟨.inr rfl, .term opens before⟩
    · exact .inr (.term opens inside)
  | comma inner ih =>
    rw [List.getLast?_cons_of_ne_nil (inner.ne_nil (by decide))] at ends
    rcases ih atEnd ends with ⟨-, before⟩ | inside
    · exact .inl ⟨.inr rfl, .comma before⟩
    · exact .inr (.comma inside)
  | group body => exact .inl ⟨.inr rfl, .group body⟩
  | @openGroup xs trees _ ih =>
    cases xs with
    | nil => cases ends
    | cons u us =>
      rcases ih rfl ends with ⟨noSequence, -⟩ | inside
      · simp at noSequence
      · exact .inr (.openGroup inside)
  | negation inner ih =>
    rw [List.getLast?_cons_of_ne_nil (inner.ne_nil (by decide))] at ends
    rcases ih atEnd ends with ⟨-, before⟩ | inside
    · exact .inl ⟨.inr rfl, .negation before⟩
    · exact .inr (.negation inside)
  | alone _ _ ih =>
    rcases ih atEnd ends with ⟨-, before⟩ | inside
    · exact .inr (.of_operand before)
    · exact .inr (.alone inside)
  | trailing other =>
    rw [List.getLast?_concat] at ends
    have unlinked := unlinked_of_endsOperand ends
    rw [links_connective] at unlinked
    cases unlinked
  | linked other first second _ ih =>
    obtain ⟨u, us, rfl⟩ := List.exists_cons_of_ne_nil (second.ne_nil (by decide))
    rw [List.getLast?_append_cons] at ends
    rcases ih atEnd ends with ⟨noExpression, -⟩ | inside
    · simp at noExpression
    · exact .inr (.linked other first inside)
  | nil => cases ends
  | @cons t xs x ys trees _ opens first others ihFirst ihOthers =>
    cases ys with
    | nil =>
      obtain rfl := others.eq_nil
      rw [List.append_nil] at ends ⊢
      rcases ihFirst atEnd ends with ⟨noExpression, -⟩ | inside
      · simp at noExpression
      · exact .inr (.sole opens inside)
    | cons u us =>
      rw [← List.cons_append, List.getLast?_append_cons] at ends
      rcases ihOthers atEnd ends with ⟨noSequence, -⟩ | inside
      · simp at noSequence
      · exact .inr (.cons opens first inside)

end SearchQuery.Grammar
