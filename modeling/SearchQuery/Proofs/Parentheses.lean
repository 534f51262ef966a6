import Mathlib.Logic.Function.Iterate
import SearchQuery.Proofs.Grammar.Agreement
import SearchQuery.Proofs.Grammar.Ends

/-!
# Parentheses around a query

A query in parentheses is a group, of which nothing is left once the tree is collapsed, however many
pairs there are. If the query leaves groups open, the added marker closes the innermost of them, and
the added group is closed by the end instead; that does not show in the tree. Only behind a
connective the marker would be taken for the start of an operand.
-/
namespace SearchQuery.Grammar
open SearchQuery.Tree

/-- The tokens in a pair of parentheses. -/
def enclosed (ts : List Token) : List Token :=
  .operator .lparen :: (ts ++ [.operator .rparen])

/-- The tree of a group that holds nothing else. -/
def grouped (t : Tree) : Tree := .logical .juxtaposition [t]

variable {ts : List Token} {root : Tree}

theorem unlinked_enclosed (ts : List Token) : links (enclosed ts).getLast? = false := by
  rw [enclosed, ← List.cons_append, List.getLast?_concat]
  rfl

theorem read_enclosed (whole : Tree.read ts = .ok ⟨root, []⟩)
    (unlinked : links ts.getLast? = false) :
    Tree.read (enclosed ts) = .ok ⟨grouped root, []⟩ := by
  obtain ⟨xs, trees, parts, rfl, reads⟩ := reads_of_read whole
  rw [List.append_nil] at parts
  subst parts
  exact read_to_end (reads.grouped unlinked)

theorem read_enclosed_iterate (whole : Tree.read ts = .ok ⟨root, []⟩)
    (unlinked : links ts.getLast? = false) (n : Nat) :
    Tree.read (enclosed^[n] ts) = .ok ⟨grouped^[n] root, []⟩ ∧
      links (enclosed^[n] ts).getLast? = false := by
  induction n with
  | zero => exact ⟨whole, unlinked⟩
  | succ n ih =>
    rw [Function.iterate_succ_apply', Function.iterate_succ_apply']
    exact ⟨read_enclosed ih.1 ih.2, unlinked_enclosed _⟩

theorem collapse_grouped_iterate (t : Tree) (n : Nat) : (grouped^[n] t).collapse = t.collapse := by
  induction n with
  | zero => rfl
  | succ n ih =>
    rw [Function.iterate_succ_apply', grouped, collapse]
    exact ih

/-- A query that is read to the end and does not end with a connective is read to the end in
parentheses, as one group around its tree; any number of pairs leaves the collapsed tree as it is. -/
theorem parentheses_around_query (whole : Tree.read ts = .ok ⟨root, []⟩)
    (unlinked : links ts.getLast? = false) :
    Tree.read ([.operator .lparen] ++ ts ++ [.operator .rparen]) = .ok ⟨.logical .and [root], []⟩ ∧
    ofTokens ([.operator .lparen] ++ ts ++ [.operator .rparen]) = ofTokens ts ∧
    ∀ n, Tree.read (enclosed^[n] ts) = .ok ⟨grouped^[n] root, []⟩ ∧
      ofTokens (enclosed^[n] ts) = ofTokens ts := by
  have pairs : ∀ n, Tree.read (enclosed^[n] ts) = .ok ⟨grouped^[n] root, []⟩ ∧
      ofTokens (enclosed^[n] ts) = ofTokens ts := by
    intro n
    have read := (read_enclosed_iterate whole unlinked n).1
    refine ⟨read, ?_⟩
    rw [ofTokens_of_read read, ofTokens_of_read whole, collapse_grouped_iterate]
  exact ⟨(pairs 1).1, (pairs 1).2, pairs⟩

/-- The tokens of `a or (not (, b = c`, which leave two groups open. -/
theorem parentheses_around_query_unclosed :
    Tree.read [.literal "a", .operator .or, .operator .lparen, .operator .not, .operator .lparen,
        .operator .comma, .literal "b", .operator .eq, .literal "c"] =
      .ok ⟨.logical .and [.logical .or [.leaf "a", .logical .and [.operator .not
        [.logical .and [.operator .eq [.leaf "b", .leaf "c"]]]]]], []⟩ ∧
    Tree.read [.operator .lparen, .literal "a", .operator .or, .operator .lparen, .operator .not,
        .operator .lparen, .operator .comma, .literal "b", .operator .eq, .literal "c",
        .operator .rparen] =
      .ok ⟨.logical .and [.logical .and [.logical .or [.leaf "a", .logical .and [.operator .not
        [.logical .and [.operator .eq [.leaf "b", .leaf "c"]]]]]]], []⟩ := by
  have whole : Tree.read [.literal "a", .operator .or, .operator .lparen, .operator .not,
      .operator .lparen, .operator .comma, .literal "b", .operator .eq, .literal "c"] =
        .ok ⟨.logical .and [.logical .or [.leaf "a", .logical .and [.operator .not
          [.logical .and [.operator .eq [.leaf "b", .leaf "c"]]]]]], []⟩ := by cbv
  exact ⟨whole, (parentheses_around_query whole rfl).1⟩

end SearchQuery.Grammar
