import SearchQuery.Proofs.Grammar.Agreement
import SearchQuery.Proofs.Grammar.Ends

/-!
# A connective with nothing behind it

A connective that lacks its right operand is dropped where the tokens end, in whatever groups are
open there. Where its group is closed behind it the connective is not dropped: the closing marker
stands where an operand has to start and is taken for an operator in front of a value, so the value
is missing and no group is closed.
-/
namespace SearchQuery.Grammar
open SearchQuery.Tree

theorem ofTokens_grouped {ts : List Token} {trees : List Tree}
    (reads : Reads .sequence ts trees none) (unlinked : links ts.getLast? = false) :
    ofTokens (.operator .lparen :: (ts ++ [.operator .rparen])) =
      .ok (collapse (.logical .juxtaposition trees)) := by
  have group := ofTokens_of_reads (reads.grouped unlinked)
  exact group

/-- Where the tokens end, a connective is dropped. -/
theorem LinkedBehind.ofTokens_dropped {connective : Connective} {ts : List Token}
    {trees : List Tree} (linked : LinkedBehind connective .sequence ts trees) :
    ofTokens (ts ++ [.operator connective.operator]) =
      .ok (collapse (.logical .juxtaposition trees)) := by
  obtain ⟨others, read, same⟩ := linked.dropped
  rw [ofTokens_of_reads read, collapse_congr same]

/-- In a group that the end closes, a connective is dropped. -/
theorem LinkedBehind.ofTokens_openGroup {connective : Connective} {ts : List Token}
    {trees : List Tree} (linked : LinkedBehind connective .sequence ts trees) :
    ofTokens (.operator .lparen :: (ts ++ [.operator connective.operator])) =
      .ok (collapse (.logical .juxtaposition trees)) := by
  obtain ⟨others, read, same⟩ := linked.dropped
  have group := ofTokens_of_reads (.sole_operand (by decide) (.openGroup read) rfl)
  rw [← collapse_congr same]
  exact group

/-- In front of a closing marker a connective waits for the value that the marker is in front of. -/
theorem LinkedBehind.ofTokens_closedGroup {connective : Connective} {ts : List Token}
    {trees : List Tree} (linked : LinkedBehind connective .sequence ts trees) {rest : List Token}
    (noValue : isValue rest.head? = false) :
    ofTokens (.operator .lparen ::
        (ts ++ .operator connective.operator :: .operator .rparen :: rest)) =
      .error ⟨rest.head?, some (.operator .rparen)⟩ := by
  have marker : Misses .expression [.operator .rparen] rest.head? :=
    .first (.term rfl (.unary noValue))
  have group : Misses .sequence
      (.operator .lparen :: (ts ++ [.operator connective.operator, .operator .rparen]))
      rest.head? :=
    .head (by decide) (.first (.group (linked.missing _ [] _ marker)))
  have failed := ofTokens_of_misses group rfl
  simpa [behind, behind_append] using failed

/-- Tokens that end with an operand say the same in a group, closed or not, and a connective behind
them changes nothing if the group is not closed. If it is closed, there is no tree. -/
theorem connective_in_group {ts : List Token} {root : Tree}
    (whole : Tree.read ts = .ok ⟨root, []⟩) (last : endsOperand ts.getLast? = true)
    (connective : Connective) :
    ofTokens (.operator .lparen :: (ts ++ [.operator .rparen])) = .ok root.collapse ∧
    ofTokens (.operator .lparen :: (ts ++ [.operator connective.operator])) = .ok root.collapse ∧
    ∀ rest, isValue rest.head? = false →
      ofTokens (.operator .lparen ::
          (ts ++ .operator connective.operator :: .operator .rparen :: rest)) =
        .error ⟨rest.head?, some (.operator .rparen)⟩ := by
  obtain ⟨xs, trees, parts, rfl, reads⟩ := reads_of_read whole
  rw [List.append_nil] at parts
  subst parts
  rcases reads.linkedBehind rfl last connective with ⟨noSequence, -⟩ | linked
  · simp at noSequence
  · refine ⟨ofTokens_grouped reads (unlinked_of_endsOperand last), linked.ofTokens_openGroup, ?_⟩
    intro rest noValue
    exact linked.ofTokens_closedGroup noValue

/-- `or` behind the tokens of `(a not b`, which leave a group open themselves. -/
theorem connective_in_group_nested :
    Tree.read [.operator .lparen, .literal "a", .operator .not, .literal "b"] =
        .ok ⟨.logical .and [.logical .and [.leaf "a", .operator .not [.leaf "b"]]], []⟩ ∧
      ofTokens [.operator .lparen, .operator .lparen, .literal "a", .operator .not, .literal "b",
        .operator .or] = .ok (.logical .and [.leaf "a", .operator .not [.leaf "b"]]) ∧
      ofTokens [.operator .lparen, .operator .lparen, .literal "a", .operator .not, .literal "b",
        .operator .or, .operator .rparen, .operator .comma] =
          .error ⟨some (.operator .comma), some (.operator .rparen)⟩ := by
  have whole : Tree.read [.operator .lparen, .literal "a", .operator .not, .literal "b"] =
      .ok ⟨.logical .and [.logical .and [.leaf "a", .operator .not [.leaf "b"]]], []⟩ := by cbv
  have group := connective_in_group whole rfl .or
  exact ⟨whole, group.2.1, group.2.2 [.operator .comma] rfl⟩

/-- A connective behind a query that ends with an operand says nothing, whatever groups, chains and
negations the operand stands in; behind a marker that closes nothing it is not read at all. -/
theorem trailing_connective_says_nothing {ts : List Token} {tree : Tree}
    (read : ofTokens ts = .ok tree) (last : endsOperand ts.getLast? = true)
    (connective : Connective) : ofTokens (ts ++ [.operator connective.operator]) = .ok tree := by
  obtain ⟨root, written, rfl⟩ := ofTokens_eq_ok_iff.mp read
  obtain ⟨front, unread, trees, -, rfl, rfl, reads⟩ := reads_of_asWritten written
  cases unread with
  | nil =>
    rw [List.append_nil] at last ⊢
    rcases reads.linkedBehind rfl last connective with ⟨noSequence, -⟩ | linked
    · simp at noSequence
    · exact linked.ofTokens_dropped
  | cons t unread =>
    have outcome : Tree.read (front ++ (t :: unread ++ [.operator connective.operator])) =
        .ok ⟨.logical .juxtaposition trees, t :: unread ++ [.operator connective.operator]⟩ :=
      read_of_reads reads
    rw [List.append_assoc]
    exact ofTokens_of_read outcome

/-- `or` behind the tokens of `a and (b or not (c,`, which leave two groups open. -/
theorem trailing_connective_says_nothing_nested :
    ofTokens [.literal "a", .operator .and, .operator .lparen, .literal "b", .operator .or,
        .operator .not, .operator .lparen, .literal "c", .operator .comma] =
      .ok (.logical .and [.leaf "a", .logical .or [.leaf "b", .operator .not [.leaf "c"]]]) ∧
    ofTokens [.literal "a", .operator .and, .operator .lparen, .literal "b", .operator .or,
        .operator .not, .operator .lparen, .literal "c", .operator .comma, .operator .or] =
      .ok (.logical .and [.leaf "a", .logical .or [.leaf "b", .operator .not [.leaf "c"]]]) := by
  have read : ofTokens [.literal "a", .operator .and, .operator .lparen, .literal "b",
      .operator .or, .operator .not, .operator .lparen, .literal "c", .operator .comma] =
        .ok (.logical .and [.leaf "a",
          .logical .or [.leaf "b", .operator .not [.leaf "c"]]]) := by cbv
  exact ⟨read, trailing_connective_says_nothing read rfl .or⟩

/-- The tokens of `(a and )`. -/
theorem connective_kept_before_rparen :
    ¬ ∀ (ts : List Token) (root : Tree) (connective : Connective),
      Tree.read ts = .ok ⟨root, []⟩ → (∃ v, ts.getLast? = some (.literal v)) →
      ∃ tree,
        ofTokens (.operator .lparen ::
          (ts ++ [.operator connective.operator, .operator .rparen])) = .ok tree ∧
        ofTokens (.operator .lparen :: (ts ++ [.operator .rparen])) = .ok tree := by
  intro dropped
  obtain ⟨tree, read, -⟩ :=
    dropped [.literal "a"] (.logical .and [.leaf "a"]) .and (by cbv) ⟨"a", rfl⟩
  have missing : ofTokens [.operator .lparen, .literal "a", .operator .and, .operator .rparen] =
      .error ⟨none, some (.operator .rparen)⟩ := by cbv
  cases missing.symm.trans read

end SearchQuery.Grammar
