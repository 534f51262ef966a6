import SearchQuery.Proofs.Collapsing
import SearchQuery.Proofs.Grammar.Agreement
import SearchQuery.Proofs.SexpReading

/-!
# S-expressions of queries

In the collapsed tree of a query an operator node holds `and` or `or` only in front of one operand,
and a logical node never has one child. So the number of children shows what an s-expression does
not write, and two queries have the same s-expression only if they have the same tree.
-/
namespace SearchQuery.Tree

/-- An operator node holds a connective only in front of a single operand. -/
def Head.bindsOne : Head → Bool
  | operator op arity => !op.isConnective || arity = 1
  | _ => true

def Head.unified : Head → Head
  | operator op arity =>
    match Connective.ofOperator? op with
    | some connective => logical connective arity
    | none => operator op arity
  | h => h

/-- A connective with one child is taken for an operator. -/
def Head.restored : Head → Head
  | logical connective 1 => operator connective.operator 1
  | h => h

theorem Head.restored_unified {h : Head} (binds : h.bindsOne = true) (many : h.isLone = false) :
    h.unified.restored = h := by
  cases h with
  | leaf text => rfl
  | operator op arity => cases op <;> simp_all [bindsOne, unified, restored, Operator.isConnective,
      Connective.ofOperator?, Connective.operator]
  | logical connective arity =>
    unfold restored
    split
    · rename_i same
      cases same
      cases many
    · rfl

theorem length_unifiedAll (ts : List Tree) : (unifiedAll ts).length = ts.length := by
  induction ts with
  | nil => rfl
  | cons t ts ih => rw [unifiedAll, List.length_cons, List.length_cons, ih]

theorem heads_node (op : Operator) (children : List Tree) :
    heads (Sexp.node op children) =
      (Head.operator op children.length).unified :: headsAll children := by
  cases op <;> rfl

mutual

theorem heads_unified (t : Tree) : heads t.unified = (heads t).map Head.unified := by
  cases t with
  | leaf text => rfl
  | operator op children =>
    rw [unified, heads_node, headsAll_unifiedAll children, length_unifiedAll, heads_operator,
      List.map_cons]
  | logical connective children =>
    rw [unified, heads_logical, headsAll_unifiedAll children, length_unifiedAll, heads_logical,
      List.map_cons]
    rfl

theorem headsAll_unifiedAll (ts : List Tree) :
    headsAll (unifiedAll ts) = (headsAll ts).map Head.unified := by
  cases ts with
  | nil => rfl
  | cons t ts =>
    rw [unifiedAll, headsAll_cons, headsAll_cons, List.map_append, heads_unified t,
      headsAll_unifiedAll ts]

end

/-- Where every connective of an operator node has one child and every logical node has not, nothing
is lost. -/
theorem heads_eq_restored {t : Tree} (binds : ∀ h ∈ heads t, h.bindsOne = true) (tidy : Tidy t) :
    heads t = (heads t.unified).map Head.restored := by
  rw [heads_unified, List.map_map]
  refine (List.map_id (heads t)).symm.trans (List.map_congr_left fun h member => ?_)
  exact (Head.restored_unified (binds h member) (tidy_iff.mp tidy h member)).symm

end SearchQuery.Tree

namespace SearchQuery.Grammar
open SearchQuery.Tree

theorem Reads.bindsOne {rule xs trees next} (reads : Reads rule xs trees next) :
    ∀ h ∈ headsAll trees, h.bindsOne = true := by
  induction reads with
  | value | separated | nil => simp [Head.bindsOne]
  | @compared v op w next compares =>
    have other : op.isConnective = false := by cases op <;> first | rfl | cases compares
    simp [Head.bindsOne, other]
  | unary => simp [Head.bindsOne]
  | term _ _ ih | comma _ ih | alone _ _ ih => exact ih
  | group _ ih | openGroup _ ih => simpa [Head.bindsOne] using ih
  | negation _ ih | trailing _ _ ih => simpa [Head.bindsOne] using ih
  | linked _ _ _ ihFirst ihSecond =>
    simp only [headsAll_cons, headsAll_nil, heads_logical, List.append_nil, List.mem_cons,
      List.mem_append] at ihFirst ihSecond ⊢
    rintro h (rfl | first | second)
    · rfl
    · exact ihFirst h first
    · exact ihSecond h second
  | cons _ _ _ ihFirst ihOthers =>
    rw [headsAll_cons, headsAll_nil, List.append_nil] at ihFirst
    rw [headsAll_cons]
    exact List.forall_mem_append.mpr ⟨ihFirst, ihOthers⟩

theorem bindsOne_of_ofTokens {ts : List Token} {t : Tree} (read : ofTokens ts = .ok t) :
    (∀ h ∈ heads t, h.bindsOne = true) ∧ Tidy t := by
  obtain ⟨root, written, rfl⟩ := ofTokens_eq_ok_iff.mp read
  obtain ⟨xs, unread, trees, -, -, rfl, reads⟩ := reads_of_asWritten written
  refine ⟨?_, tidy_collapse _⟩
  intro h member
  rw [heads_collapse] at member
  have inner := (List.mem_filter.mp member).1
  rw [heads_logical, List.mem_cons] at inner
  rcases inner with rfl | inner
  · rfl
  · exact reads.bindsOne h inner

/-- An s-expression is one line and is read as the tree that it was written for, up to the nodes
that hold a connective; nothing else is lost, and the trees of two queries are told apart. -/
theorem sexp_reads_back :
    (∀ t : Tree, ofSexp? t.sexp = some t.unified) ∧
    (∀ t u : Tree, t.sexp = u.sexp ↔ t.unified = u.unified) ∧
    (∀ t : Tree, OneLine t.sexp) ∧
    ∀ ts us t u, ofTokens ts = .ok t → ofTokens us = .ok u → t.sexp = u.sexp → t = u := by
  refine ⟨ofSexp?_sexp, fun _ _ => sexp_eq_iff, oneLine_sexp, ?_⟩
  intro ts us t u first second same
  obtain ⟨binds, tidy⟩ := bindsOne_of_ofTokens first
  obtain ⟨binds', tidy'⟩ := bindsOne_of_ofTokens second
  apply heads_inj
  rw [heads_eq_restored binds tidy, sexp_eq_iff.mp same, ← heads_eq_restored binds' tidy']

/-- The tokens of `, and a` and of `and a`: an operator node that is read as a logical one. -/
theorem sexp_reads_back_connective :
    ofTokens [.operator .comma, .operator .and, .literal "a"] = .ok (.operator .and [.leaf "a"]) ∧
      ofTokens [.operator .and, .literal "a"] = .ok (.operator .and [.leaf "a"]) ∧
      ofSexp? (Tree.operator .and [.leaf "a"]).sexp = some (.logical .and [.leaf "a"]) ∧
      Tree.operator .and [.leaf "a"] = .operator .and [.leaf "a"] :=
  ⟨by cbv, by cbv, sexp_reads_back.1 _,
    sexp_reads_back.2.2.2 [.operator .comma, .operator .and, .literal "a"]
      [.operator .and, .literal "a"] _ _ (by cbv) (by cbv) rfl⟩

end SearchQuery.Grammar
