import SearchQuery.Proofs.Collapsing
import SearchQuery.Proofs.Grammar.Agreement

/-!
# Shapes of nodes

A tree can have nodes of any shape, but only few are read. An operator stands between two leaves if
it compares, and else in front of one child, which is a leaf unless it is negated. A disjunction has
its two parts, or one where the tokens end behind the `or`. Collapsing leaves the operators with the
children they have, up to what is negated, and takes away the joins of one.
-/
namespace SearchQuery.Tree

/-- The children that an operator can have. -/
inductive Operands : Operator → List Tree → Prop
  | compared {op : Operator} (compares : op.isComparison = true) (left right : String) :
      Operands op [leaf left, leaf right]
  | unary (op : Operator) (text : String) : Operands op [leaf text]
  | negated (t : Tree) : Operands .not [t]

/-- A node of a tree as it is written. -/
inductive WrittenNode : Tree → Prop
  | leaf (text : String) : WrittenNode (leaf text)
  | operator {op : Operator} {children : List Tree} (operands : Operands op children) :
      WrittenNode (operator op children)
  | all (children : List Tree) : WrittenNode (logical .and children)
  | either {children : List Tree} (arity : children.length = 1 ∨ children.length = 2) :
      WrittenNode (logical .or children)

/-- A node of a collapsed tree. -/
inductive CollapsedNode : Tree → Prop
  | leaf (text : String) : CollapsedNode (leaf text)
  | operator {op : Operator} {children : List Tree} (operands : Operands op children) :
      CollapsedNode (operator op children)
  | all {children : List Tree} (arity : children.length ≠ 1) :
      CollapsedNode (logical .and children)
  | either {children : List Tree} (arity : children.length = 2) :
      CollapsedNode (logical .or children)

theorem Operands.collapseAll {op : Operator} {children : List Tree}
    (operands : Operands op children) : Operands op (collapseAll children) := by
  cases operands with
  | compared compares left right => exact .compared compares left right
  | unary _ text => exact .unary op text
  | negated t => exact .negated t.collapse

/-- A node that does not give way keeps its shape, and a join among them is no join of one. -/
theorem WrittenNode.collapse {t : Tree} (written : WrittenNode t) (many : t.head.isLone = false) :
    CollapsedNode t.collapse := by
  cases written with
  | leaf text => exact .leaf text
  | operator operands => exact .operator operands.collapseAll
  | all children =>
    have notOne := length_ne_one many
    rw [collapse_join notOne]
    apply CollapsedNode.all
    rwa [length_collapseAll]
  | @either children arity =>
    have notOne := length_ne_one many
    rw [collapse_join notOne]
    apply CollapsedNode.either
    rw [length_collapseAll]
    omega

end SearchQuery.Tree

namespace SearchQuery.Grammar
open SearchQuery.Tree

/-- Whatever rule reads it, a node has the shape of one that is written. -/
theorem Reads.writtenNodes {rule xs trees next} (reads : Reads rule xs trees next) :
    ∀ t ∈ subtreesAll trees, WrittenNode t := by
  induction reads with
  | nil => simp [subtreesAll]
  | @value v | @separated v => simp [subtreesAll, subtrees, WrittenNode.leaf]
  | @compared v op w next compares =>
    have node := WrittenNode.operator (.compared compares v w)
    simp [subtreesAll, subtrees, node, WrittenNode.leaf]
  | @unary op v =>
    have node := WrittenNode.operator (.unary op v)
    simp [subtreesAll, subtrees, node, WrittenNode.leaf]
  | term _ _ ih | comma _ ih | alone _ _ ih => exact ih
  | @group xs trees _ _ ih | @openGroup xs trees _ ih =>
    have node := WrittenNode.all trees
    simpa [subtreesAll, subtrees, Connective.juxtaposition, node] using ih
  | @negation xs x _ _ ih =>
    have node := WrittenNode.operator (.negated x)
    simpa [subtreesAll, subtrees, node] using ih
  | @trailing xs x connective _ ih =>
    have node : WrittenNode (.logical connective [x]) := by
      cases connective with
      | and => exact .all [x]
      | or => exact .either (.inl rfl)
    simpa [subtreesAll, subtrees, node] using ih
  | @linked xs x ys y _ connective _ _ ihFirst ihSecond =>
    have node : WrittenNode (.logical connective [x, y]) := by
      cases connective with
      | and => exact .all [x, y]
      | or => exact .either (.inr rfl)
    simp only [subtreesAll, subtrees, List.append_nil] at ihFirst ihSecond ⊢
    rw [List.forall_mem_cons, List.forall_mem_append]
    exact ⟨node, ihFirst, ihSecond⟩
  | cons _ _ _ ihFirst ihOthers =>
    simp only [subtreesAll, List.append_nil] at ihFirst ⊢
    rw [List.forall_mem_append]
    exact ⟨ihFirst, ihOthers⟩

/-- The tree of a query is a conjunction of what stands side by side, and every node of it, before
and after collapsing, has one of a few shapes. -/
theorem shapes_of_query (ts : List Token) :
    (∀ root, asWritten ts = .ok root →
      (∃ trees, root = .logical .and trees) ∧ ∀ t ∈ subtrees root, WrittenNode t) ∧
    ∀ tree, ofTokens ts = .ok tree → ∀ t ∈ subtrees tree, CollapsedNode t := by
  have written : ∀ root, asWritten ts = .ok root →
      (∃ trees, root = .logical .and trees) ∧ ∀ t ∈ subtrees root, WrittenNode t := by
    intro root read
    obtain ⟨xs, unread, trees, -, -, rfl, reads⟩ := reads_of_asWritten read
    refine ⟨⟨trees, rfl⟩, ?_⟩
    rw [subtrees, List.forall_mem_cons]
    exact ⟨.all trees, reads.writtenNodes⟩
  refine ⟨written, ?_⟩
  intro tree read t member
  obtain ⟨root, readRoot, rfl⟩ := ofTokens_eq_ok_iff.mp read
  rw [subtrees_collapse] at member
  obtain ⟨u, inside, rfl⟩ := List.mem_map.mp member
  obtain ⟨inRoot, many⟩ := List.mem_filter.mp inside
  exact ((written root readRoot).2 u inRoot).collapse (by simpa using many)

/-- The tokens of `(a or not , b = c or`: joins of one as they are written, and none of them left. -/
theorem shapes_of_query_unfinished :
    asWritten [.operator .lparen, .literal "a", .operator .or, .operator .not, .operator .comma,
        .literal "b", .operator .eq, .literal "c", .operator .or] =
      .ok (.logical .and [.logical .and [.logical .or [.leaf "a",
        .logical .or [.operator .not [.operator .eq [.leaf "b", .leaf "c"]]]]]]) ∧
    (∀ t ∈ subtrees (.logical .and [.logical .and [.logical .or [.leaf "a",
      .logical .or [.operator .not [.operator .eq [.leaf "b", .leaf "c"]]]]]]), WrittenNode t) ∧
    ofTokens [.operator .lparen, .literal "a", .operator .or, .operator .not, .operator .comma,
        .literal "b", .operator .eq, .literal "c", .operator .or] =
      .ok (.logical .or [.leaf "a", .operator .not [.operator .eq [.leaf "b", .leaf "c"]]]) ∧
    ∀ t ∈ subtrees (.logical .or [.leaf "a",
      .operator .not [.operator .eq [.leaf "b", .leaf "c"]]]), CollapsedNode t := by
  have written : asWritten [.operator .lparen, .literal "a", .operator .or, .operator .not,
      .operator .comma, .literal "b", .operator .eq, .literal "c", .operator .or] =
        .ok (.logical .and [.logical .and [.logical .or [.leaf "a",
          .logical .or [.operator .not [.operator .eq [.leaf "b", .leaf "c"]]]]]]) := by cbv
  have collapsed : ofTokens [.operator .lparen, .literal "a", .operator .or, .operator .not,
      .operator .comma, .literal "b", .operator .eq, .literal "c", .operator .or] =
        .ok (.logical .or [.leaf "a", .operator .not [.operator .eq [.leaf "b", .leaf "c"]]]) := by
    cbv
  exact ⟨written, ((shapes_of_query _).1 _ written).2, collapsed,
    (shapes_of_query _).2 _ collapsed⟩

end SearchQuery.Grammar
