import SearchQuery.Proofs.Grammar.Agreement
import SearchQuery.Proofs.Grammar.Ends

/-!
# Behind a closing marker that closes nothing

Such a marker ends the reading as the end of the tokens does. What stands in front of it is read
the same without it, and what stands behind it, whether it could be read or not, has no part in the
tree.
-/
namespace SearchQuery.Grammar
open SearchQuery.Tree

/-- Of the tokens `ts`, those read, `front`, make the tree alone. If any are left, `unread`, the
first is a closing marker, and any others behind it leave the tree as it is. -/
structure Decides (ts : List Token) (root : Tree) (front unread : List Token) : Prop where
  outcome : Tree.read ts = .ok ⟨root, unread⟩
  parts : ts = front ++ unread
  alone : Tree.read front = .ok ⟨root, []⟩
  marker : unread ≠ [] → unread.head? = some (.operator .rparen)
  hidden : unread ≠ [] → ∀ rest, Tree.read (front ++ .operator .rparen :: rest) =
    .ok ⟨root, .operator .rparen :: rest⟩

/-- The tokens read decide the tree, and an unmatched closing marker hides what is behind it. -/
theorem unmatched_close_hides {ts : List Token} {root : Tree} (h : asWritten ts = .ok root) :
    ∃ front unread, Decides ts root front unread := by
  obtain ⟨front, unread, trees, outcome, parts, rfl, reads⟩ := reads_of_asWritten h
  refine ⟨front, unread, ?_⟩
  rcases none_or_rparen reads.stops with atEnd | atMarker
  · obtain rfl := List.head?_eq_none_iff.mp atEnd
    have whole : ts = front := parts.trans (List.append_nil front)
    exact ⟨outcome, parts, whole ▸ outcome, (absurd rfl ·), (absurd rfl ·)⟩
  · rw [atMarker] at reads
    refine ⟨outcome, parts, read_to_end (reads.ended rfl), fun _ => atMarker, ?_⟩
    intro _ rest
    exact read_of_reads reads

/-- The tokens of `(a, b) not c ) and ( =`, of which those behind `c` are no query. -/
theorem unmatched_close_hides_malformed :
    asWritten [.operator .lparen, .literal "a", .operator .comma, .literal "b", .operator .rparen,
        .operator .not, .literal "c", .operator .rparen, .operator .and, .operator .lparen,
        .operator .eq] =
      .ok (.logical .and [.logical .and [.leaf "a", .leaf "b"], .operator .not [.leaf "c"]]) ∧
      ∃ front unread, Decides [.operator .lparen, .literal "a", .operator .comma, .literal "b",
        .operator .rparen, .operator .not, .literal "c", .operator .rparen, .operator .and,
        .operator .lparen, .operator .eq]
        (.logical .and [.logical .and [.leaf "a", .leaf "b"], .operator .not [.leaf "c"]])
        front unread :=
  ⟨by cbv, unmatched_close_hides (by cbv)⟩

end SearchQuery.Grammar
