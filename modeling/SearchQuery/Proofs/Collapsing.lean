import Mathlib.Logic.Relation
import SearchQuery.Tree

/-!
# Collapsing as rewriting

A step puts the child of one logical node that has no other child in the place of that node,
anywhere in the tree. What stands at the nodes of a tree, read from the top with the number of
children of each, determines the tree; a step takes one entry out of that list, and collapsing takes
out all entries that a step can take. So every sequence of steps ends, and all end in the same tree,
the collapsed one, which has the other nodes in their order, each with as many children as before.
-/
namespace SearchQuery.Tree

/-- What stands at a node, with the number of its children. -/
inductive Head where
  | leaf (text : String)
  | operator (op : Operator) (arity : Nat)
  | logical (connective : Connective) (arity : Nat)
  deriving DecidableEq, Repr

def Head.isLone : Head → Bool
  | logical _ 1 => true
  | _ => false

def head : Tree → Head
  | leaf text => .leaf text
  | operator op children => .operator op children.length
  | logical connective children => .logical connective children.length

mutual

/-- The tree and the trees in it, each before those that are in it. -/
def subtrees : Tree → List Tree
  | leaf text => [leaf text]
  | operator op children => operator op children :: subtreesAll children
  | logical connective children => logical connective children :: subtreesAll children

def subtreesAll : List Tree → List Tree
  | [] => []
  | t :: ts => subtrees t ++ subtreesAll ts

end

def heads (t : Tree) : List Head := (subtrees t).map head

def headsAll (ts : List Tree) : List Head := (subtreesAll ts).map head

/-- No logical node has exactly one child. -/
def Tidy (t : Tree) : Prop :=
  ∀ connective child, logical connective [child] ∉ subtrees t

/-- One logical node with one child, anywhere in the tree, gives way to that child. -/
inductive Unwraps : Tree → Tree → Prop
  | lone (connective : Connective) (child : Tree) : Unwraps (logical connective [child]) child
  | operator (op : Operator) (before after : List Tree) {t u : Tree} (inner : Unwraps t u) :
      Unwraps (operator op (before ++ t :: after)) (operator op (before ++ u :: after))
  | logical (connective : Connective) (before after : List Tree) {t u : Tree}
      (inner : Unwraps t u) :
      Unwraps (logical connective (before ++ t :: after)) (logical connective (before ++ u :: after))

/-! ### The list of heads -/

@[simp] theorem heads_leaf (text : String) : heads (leaf text) = [.leaf text] := rfl

@[simp] theorem heads_operator (op : Operator) (children : List Tree) :
    heads (operator op children) = .operator op children.length :: headsAll children := rfl

@[simp] theorem heads_logical (connective : Connective) (children : List Tree) :
    heads (logical connective children) =
      .logical connective children.length :: headsAll children := rfl

@[simp] theorem headsAll_nil : headsAll [] = [] := rfl

@[simp] theorem headsAll_cons (t : Tree) (ts : List Tree) :
    headsAll (t :: ts) = heads t ++ headsAll ts :=
  List.map_append

@[simp] theorem headsAll_append (ts us : List Tree) :
    headsAll (ts ++ us) = headsAll ts ++ headsAll us := by
  induction ts with
  | nil => rfl
  | cons t ts ih => simp [ih]

theorem head_isLone_iff {t : Tree} :
    t.head.isLone = true ↔ ∃ connective child, t = logical connective [child] := by
  match t with
  | leaf _ | operator _ _ => simp [head, Head.isLone]
  | logical _ [] | logical _ [_] | logical _ (_ :: _ :: _) => simp [head, Head.isLone]

theorem tidy_iff {t : Tree} : Tidy t ↔ ∀ h ∈ heads t, h.isLone = false := by
  constructor
  · intro tidy h member
    obtain ⟨s, inside, rfl⟩ := List.mem_map.mp member
    refine Bool.eq_false_iff.mpr fun lone => ?_
    obtain ⟨connective, child, rfl⟩ := head_isLone_iff.mp lone
    exact tidy connective child inside
  · intro free connective child inside
    have lone := free _ (List.mem_map_of_mem inside)
    cases lone

mutual

/-- The heads of a tree show where they end, and which tree they are of. -/
theorem heads_append_inj {t u : Tree} {xs ys : List Head}
    (same : heads t ++ xs = heads u ++ ys) : t = u ∧ xs = ys := by
  cases t <;> cases u <;>
    simp only [heads_leaf, heads_operator, heads_logical, List.cons_append, List.nil_append,
      List.cons.injEq, reduceCtorEq, Head.leaf.injEq, Head.operator.injEq, Head.logical.injEq,
      false_and] at same
  case leaf.leaf => exact ⟨by rw [same.1], same.2⟩
  case operator.operator =>
    obtain ⟨rfl, rfl⟩ := headsAll_append_inj same.1.2 same.2
    exact ⟨by rw [same.1.1], rfl⟩
  case logical.logical =>
    obtain ⟨rfl, rfl⟩ := headsAll_append_inj same.1.2 same.2
    exact ⟨by rw [same.1.1], rfl⟩

theorem headsAll_append_inj {ts us : List Tree} {xs ys : List Head}
    (length : ts.length = us.length) (same : headsAll ts ++ xs = headsAll us ++ ys) :
    ts = us ∧ xs = ys := by
  cases ts with
  | nil =>
    obtain rfl := List.eq_nil_of_length_eq_zero length.symm
    exact ⟨rfl, same⟩
  | cons t ts =>
    obtain ⟨u, us, rfl⟩ := List.exists_cons_of_length_eq_add_one length.symm
    rw [headsAll_cons, headsAll_cons, List.append_assoc, List.append_assoc] at same
    obtain ⟨rfl, others⟩ := heads_append_inj same
    obtain ⟨rfl, rfl⟩ := headsAll_append_inj (Nat.succ.inj length) others
    exact ⟨rfl, rfl⟩

end

theorem heads_inj {t u : Tree} (same : heads t = heads u) : t = u := by
  have all : heads t ++ [] = heads u ++ [] := by rw [same]
  exact (heads_append_inj all).1

/-! ### Collapsing drops the heads of lone children's parents -/

theorem length_collapseAll (ts : List Tree) : (collapseAll ts).length = ts.length := by
  induction ts with
  | nil => rfl
  | cons t ts ih => rw [collapseAll, List.length_cons, List.length_cons, ih]

theorem collapse_join {connective : Connective} {ts : List Tree} (notOne : ts.length ≠ 1) :
    collapse (.logical connective ts) = .logical connective (collapseAll ts) := by
  match ts with
  | [] => rfl
  | [t] => exact absurd rfl notOne
  | _ :: _ :: _ => rfl

theorem Head.not_isLone {connective : Connective} {arity : Nat} (notOne : arity ≠ 1) :
    (Head.logical connective arity).isLone = false := by
  unfold Head.isLone
  split
  · simp_all
  · rfl

theorem length_ne_one {connective : Connective} {children : List Tree}
    (many : (logical connective children).head.isLone = false) : children.length ≠ 1 := by
  intro single
  simp [head, single, Head.isLone] at many

theorem head_collapse {t : Tree} (many : t.head.isLone = false) : t.collapse.head = t.head := by
  cases t with
  | leaf text => rfl
  | operator op children => rw [collapse, head, head, length_collapseAll]
  | logical connective children =>
    rw [collapse_join (length_ne_one many), head, head, length_collapseAll]

mutual

/-- What is in a collapsed tree was in the tree, and is no node that gave way. -/
theorem subtrees_collapse (t : Tree) :
    subtrees (collapse t) = ((subtrees t).filter (!·.head.isLone)).map collapse := by
  cases t with
  | leaf text => rfl
  | operator op children =>
    rw [collapse, subtrees, subtreesAll_collapseAll children, subtrees,
      List.filter_cons_of_pos (by rfl), List.map_cons, collapse]
  | logical connective children =>
    by_cases single : ∃ child, children = [child]
    · obtain ⟨child, rfl⟩ := single
      rw [collapse, subtrees_collapse child, subtrees, subtreesAll, subtreesAll, List.append_nil]
      rfl
    · have notOne : children.length ≠ 1 := mt List.length_eq_one_iff.mp single
      rw [collapse_join notOne, subtrees, subtreesAll_collapseAll children, subtrees,
        List.filter_cons_of_pos (by simp [head, Head.not_isLone notOne]), List.map_cons,
        collapse_join notOne]

theorem subtreesAll_collapseAll (ts : List Tree) :
    subtreesAll (collapseAll ts) = ((subtreesAll ts).filter (!·.head.isLone)).map collapse := by
  cases ts with
  | nil => rfl
  | cons t ts =>
    rw [collapseAll, subtreesAll, subtreesAll, List.filter_append, List.map_append,
      subtrees_collapse t, subtreesAll_collapseAll ts]

end

theorem heads_collapse (t : Tree) : heads (collapse t) = (heads t).filter (!·.isLone) := by
  rw [heads, subtrees_collapse, heads, List.map_map, List.filter_map]
  apply List.map_congr_left
  intro u member
  exact head_collapse (by simpa using (List.mem_filter.mp member).2)

theorem tidy_collapse (t : Tree) : Tidy (collapse t) := by
  rw [tidy_iff, heads_collapse]
  intro h member
  simpa using (List.mem_filter.mp member).2

theorem collapse_eq_self_iff {t : Tree} : collapse t = t ↔ Tidy t := by
  constructor
  · intro same
    rw [← same]
    exact tidy_collapse t
  · intro tidy
    apply heads_inj
    rw [heads_collapse, List.filter_eq_self]
    intro h member
    simp [tidy_iff.mp tidy h member]

/-! ### Steps -/

/-- A step takes one entry out of the list of heads. -/
theorem Unwraps.exists_heads {t u : Tree} (step : Unwraps t u) :
    ∃ front connective back, heads t = front ++ .logical connective 1 :: back ∧
      heads u = front ++ back := by
  induction step with
  | lone connective child => exact ⟨[], connective, heads child, by simp, by simp⟩
  | @operator op before after t u _ ih =>
    obtain ⟨front, connective, back, wrapped, unwrapped⟩ := ih
    refine ⟨.operator op (before ++ t :: after).length :: (headsAll before ++ front), connective,
      back ++ headsAll after, ?_, ?_⟩
    · simp [wrapped]
    · simp [unwrapped]
  | @logical outer before after t u _ ih =>
    obtain ⟨front, connective, back, wrapped, unwrapped⟩ := ih
    refine ⟨.logical outer (before ++ t :: after).length :: (headsAll before ++ front), connective,
      back ++ headsAll after, ?_, ?_⟩
    · simp [wrapped]
    · simp [unwrapped]

theorem Unwraps.countP_isLone {t u : Tree} (step : Unwraps t u) :
    (heads t).countP Head.isLone = (heads u).countP Head.isLone + 1 := by
  obtain ⟨front, connective, back, wrapped, unwrapped⟩ := step.exists_heads
  have lone : (Head.logical connective 1).isLone = true := rfl
  rw [wrapped, unwrapped, List.countP_append, List.countP_append, List.countP_cons_of_pos lone]
  omega

theorem Unwraps.collapse_eq {t u : Tree} (step : Unwraps t u) : collapse u = collapse t := by
  obtain ⟨front, connective, back, wrapped, unwrapped⟩ := step.exists_heads
  have lone : (Head.logical connective 1).isLone = true := rfl
  apply heads_inj
  rw [heads_collapse, heads_collapse, wrapped, unwrapped, List.filter_append, List.filter_append,
    List.filter_cons_of_neg (by simp [lone])]

mutual

theorem exists_unwraps {t child : Tree} {connective : Connective}
    (inside : logical connective [child] ∈ subtrees t) : ∃ u, Unwraps t u := by
  cases t with
  | leaf text => simp [subtrees] at inside
  | operator op children =>
    rw [subtrees, List.mem_cons] at inside
    obtain ⟨before, t, after, u, rfl, step⟩ := exists_unwraps_all (inside.resolve_left nofun)
    exact ⟨_, .operator op before after step⟩
  | logical outer children =>
    rw [subtrees, List.mem_cons] at inside
    rcases inside with here | inside
    · rw [← here]
      exact ⟨child, .lone connective child⟩
    · obtain ⟨before, t, after, u, rfl, step⟩ := exists_unwraps_all inside
      exact ⟨_, .logical outer before after step⟩

theorem exists_unwraps_all {ts : List Tree} {child : Tree} {connective : Connective}
    (inside : logical connective [child] ∈ subtreesAll ts) :
    ∃ before t after u, ts = before ++ t :: after ∧ Unwraps t u := by
  cases ts with
  | nil => simp [subtreesAll] at inside
  | cons t ts =>
    rw [subtreesAll, List.mem_append] at inside
    rcases inside with first | others
    · obtain ⟨u, step⟩ := exists_unwraps first
      exact ⟨[], t, ts, u, rfl, step⟩
    · obtain ⟨before, s, after, u, rfl, step⟩ := exists_unwraps_all others
      exact ⟨t :: before, s, after, u, rfl, step⟩

end

/-- No step leads on exactly from the trees that are tidy. -/
theorem not_unwraps_iff {t : Tree} : (∀ u, ¬ Unwraps t u) ↔ Tidy t := by
  constructor
  · intro stuck connective child inside
    obtain ⟨u, step⟩ := exists_unwraps inside
    exact stuck u step
  · intro tidy u step
    obtain ⟨front, connective, back, wrapped, -⟩ := step.exists_heads
    have lone := tidy_iff.mp tidy (.logical connective 1) (by rw [wrapped]; simp)
    cases lone

/-! ### Sequences of steps -/

open Relation (ReflTransGen)

theorem collapse_eq_of_steps {t u : Tree} (steps : ReflTransGen Unwraps t u) :
    collapse u = collapse t := by
  induction steps with
  | refl => rfl
  | tail _ step ih => rw [step.collapse_eq, ih]

theorem steps_to_collapse (t : Tree) : ReflTransGen Unwraps t (collapse t) := by
  induction lones : (heads t).countP Head.isLone generalizing t with
  | zero =>
    have tidy : Tidy t := tidy_iff.mpr (by simpa using List.countP_eq_zero.mp lones)
    rw [collapse_eq_self_iff.mpr tidy]
  | succ n ih =>
    have untidy : ¬ Tidy t := by
      intro tidy
      rw [List.countP_eq_zero.mpr (by simpa using tidy_iff.mp tidy)] at lones
      cases lones
    obtain ⟨u, step⟩ : ∃ u, Unwraps t u :=
      Classical.not_forall_not.mp (mt not_unwraps_iff.mp untidy)
    have fewer := step.countP_isLone
    rw [← step.collapse_eq]
    exact .head step (ih u (by omega))

/-- A sequence of steps is no longer than there are logical nodes with one child. -/
theorem exists_end (chain : Nat → Tree) :
    ∃ i ≤ (heads (chain 0)).countP Head.isLone, ¬ Unwraps (chain i) (chain (i + 1)) := by
  induction lones : (heads (chain 0)).countP Head.isLone generalizing chain with
  | zero =>
    refine ⟨0, Nat.le_refl 0, ?_⟩
    intro step
    have fewer := step.countP_isLone
    omega
  | succ n ih =>
    by_cases step : Unwraps (chain 0) (chain 1)
    · have fewer := step.countP_isLone
      obtain ⟨i, bound, ends⟩ := ih (fun i => chain (i + 1)) (by simp only [Nat.zero_add]; omega)
      exact ⟨i + 1, by omega, ends⟩
    · exact ⟨0, Nat.zero_le _, step⟩

/-- Every sequence of steps ends, and where no step leads on is the collapsed tree. It is tidy, a
tidy tree is its own, and it is the only tree with the other nodes in their order and with as many
children each. -/
theorem collapse_normal_form (t : Tree) :
    (∀ chain : Nat → Tree, chain 0 = t →
      ∃ i ≤ (heads t).countP Head.isLone, ¬ Unwraps (chain i) (chain (i + 1))) ∧
    (∀ u, ReflTransGen Unwraps t u → ((∀ v, ¬ Unwraps u v) ↔ u = collapse t)) ∧
    ReflTransGen Unwraps t (collapse t) ∧
    Tidy (collapse t) ∧
    collapse (collapse t) = collapse t ∧
    (collapse t = t ↔ Tidy t) ∧
    (∀ u, heads u = (heads t).filter (!·.isLone) ↔ u = collapse t) := by
  refine ⟨?_, ?_, steps_to_collapse t, tidy_collapse t, ?_, collapse_eq_self_iff, ?_⟩
  · rintro chain rfl
    exact exists_end chain
  · intro u steps
    rw [not_unwraps_iff, ← collapse_eq_self_iff, collapse_eq_of_steps steps]
    exact eq_comm
  · exact collapse_eq_self_iff.mpr (tidy_collapse t)
  · intro u
    rw [← heads_collapse]
    exact ⟨heads_inj, fun same => by rw [same]⟩

/-- A negation of one leaf under three nodes: all ways of unwrapping it meet. -/
theorem collapse_normal_form_nested :
    ReflTransGen Unwraps
        (logical .and [logical .or [operator .not [logical .and [leaf "a"]]]])
        (operator .not [leaf "a"]) ∧
      ∀ v, ¬ Unwraps (operator .not [leaf "a"]) v := by
  have normal := collapse_normal_form
    (logical .and [logical .or [operator .not [logical .and [leaf "a"]]]])
  exact ⟨normal.2.2.1, (normal.2.1 _ normal.2.2.1).mpr rfl⟩

end SearchQuery.Tree
