import SearchQuery.Proofs.NodeShapes

/-!
# What a query means

A query is a condition on a record. Which terms a record fits, and which texts an operator relates,
is left open; negation, conjunction and disjunction have their usual meaning. An operator speaks of
texts alone, so it means nothing over any other tree than leaves. Unwrapping a join of one part
changes no meaning that there is, and every tree in the tree of a query has one, so a query means the
same as it is written and collapsed.
-/
namespace SearchQuery

/-- Which terms a record fits, and which texts an operator relates in it. -/
structure Interpretation where
  fits : String → Prop
  relates : Operator → List String → Prop

/-- Whether a join holds, by what its parts say. -/
def Connective.holds : Connective → List Prop → Prop
  | and, parts => ∀ part ∈ parts, part
  | or, parts => ∃ part ∈ parts, part

theorem Connective.holds_singleton (connective : Connective) (p : Prop) :
    connective.holds [p] = p := by
  cases connective with
  | and => exact propext List.forall_mem_singleton
  | or => simp only [holds, List.mem_singleton, exists_eq_left]

namespace Tree

/-- The texts of leaves; there are none if another tree is among them. -/
def texts? (ts : List Tree) : Option (List String) := ts.mapM text?

mutual

/-- What a tree says of a record. -/
def meaning (i : Interpretation) : Tree → Option Prop
  | leaf text => some (i.fits text)
  | operator .not [t] => (meaning i t).map Not
  | operator .not _ => none
  | operator op children => (texts? children).map (i.relates op)
  | logical connective children => (meanings i children).map connective.holds

def meanings (i : Interpretation) : List Tree → Option (List Prop)
  | [] => some []
  | t :: ts => (meaning i t).bind fun p => (meanings i ts).map (p :: ·)

end

def Means (i : Interpretation) (t : Tree) : Prop := (meaning i t).isSome

variable {i : Interpretation} {op : Operator} {t u : Tree} {children : List Tree}

theorem meaning_negation (t : Tree) : meaning i (operator .not [t]) = (meaning i t).map Not := by
  rw [meaning]

theorem meaning_operator (plain : op ≠ .not) :
    meaning i (operator op children) = (texts? children).map (i.relates op) := by
  rw [meaning] <;> simp_all

theorem meaning_logical (connective : Connective) (children : List Tree) :
    meaning i (logical connective children) = (meanings i children).map connective.holds := by
  rw [meaning]

theorem meanings_eq_mapM (i : Interpretation) (ts : List Tree) :
    meanings i ts = ts.mapM (meaning i) := by
  induction ts with
  | nil => rw [meanings]; rfl
  | cons t ts ih =>
    rw [meanings, List.mapM_cons, ih]
    cases meaning i t <;> cases ts.mapM (meaning i) <;> rfl

theorem isSome_mapM_iff {α β : Type} {f : α → Option β} {xs : List α} :
    (xs.mapM f).isSome ↔ ∀ x ∈ xs, (f x).isSome := by
  induction xs with
  | nil => simp
  | cons x xs ih =>
    rw [List.forall_mem_cons, ← ih, List.mapM_cons]
    cases f x <;> cases xs.mapM f <;> simp

theorem isSome_meanings_iff {ts : List Tree} : (meanings i ts).isSome ↔ ∀ t ∈ ts, Means i t := by
  rw [meanings_eq_mapM, isSome_mapM_iff]
  rfl

theorem means_logical_iff {connective : Connective} :
    Means i (logical connective children) ↔ ∀ t ∈ children, Means i t := by
  rw [Means, meaning_logical, Option.isSome_map, isSome_meanings_iff]

/-- A negation is of one tree. -/
theorem exists_negated (means : Means i (operator .not children)) :
    ∃ t, children = [t] ∧ Means i t := by
  match children with
  | [t] =>
    rw [Means, meaning_negation, Option.isSome_map] at means
    exact ⟨t, rfl, means⟩
  | [] | _ :: _ :: _ => simp [Means, meaning] at means

/-- What stands with an operator other than `not` is a text. -/
theorem exists_leaf (plain : op ≠ .not) (means : Means i (operator op children))
    (member : t ∈ children) : ∃ text, t = leaf text := by
  rw [Means, meaning_operator plain, Option.isSome_map, texts?, isSome_mapM_iff] at means
  have written := means t member
  cases t with
  | leaf text => exact ⟨text, rfl⟩
  | operator _ _ | logical _ _ => cases written

/-! ### Collapsing keeps meanings -/

theorem Unwraps.meaning_eq (step : Unwraps t u) (means : Means i t) :
    meaning i u = meaning i t := by
  induction step with
  | lone connective child =>
    rw [meaning_logical, meanings, meanings]
    cases meaning i child with
    | none => rfl
    | some p => exact congrArg some (connective.holds_singleton p).symm
  | @operator op before after t u inner ih =>
    by_cases negates : op = .not
    · subst negates
      obtain ⟨s, alone, part⟩ := exists_negated means
      rw [List.append_eq_singleton_iff] at alone
      obtain ⟨rfl, single⟩ := alone.resolve_right (fun others => List.cons_ne_nil t after others.2)
      obtain ⟨rfl, rfl⟩ := List.cons.inj single
      rw [List.nil_append, List.nil_append, meaning_negation, meaning_negation, ih part]
    · obtain ⟨text, rfl⟩ := exists_leaf negates means (t := t) (by simp)
      cases inner
  | @logical connective before after t u _ ih =>
    have part : Means i t := means_logical_iff.mp means t (by simp)
    rw [meaning_logical, meaning_logical, meanings_eq_mapM, meanings_eq_mapM, List.mapM_append,
      List.mapM_append, List.mapM_cons, List.mapM_cons, ih part]

open Relation (ReflTransGen)

theorem meaning_eq_of_steps (steps : ReflTransGen Unwraps t u) (means : Means i t) :
    meaning i u = meaning i t := by
  induction steps with
  | refl => rfl
  | tail _ step ih =>
    rw [step.meaning_eq (by rwa [Means, ih]), ih]

theorem meaning_collapse (means : Means i t) : meaning i (collapse t) = meaning i t :=
  meaning_eq_of_steps (steps_to_collapse t) means

/-- A comparison of a group means nothing, and something once it is collapsed. -/
example (i : Interpretation) : ¬ Means i (operator .lt [logical .and [leaf "a"], leaf "3"]) ∧
    Means i (collapse (operator .lt [logical .and [leaf "a"], leaf "3"])) :=
  ⟨nofun, rfl⟩

/-! ### Every tree in the tree of a query means something -/

theorem mem_subtrees_self (t : Tree) : t ∈ subtrees t := by
  cases t <;> simp [subtrees]

theorem mem_subtreesAll {ts : List Tree} (member : t ∈ ts) : t ∈ subtreesAll ts := by
  induction ts with
  | nil => cases member
  | cons s ts ih =>
    rw [subtreesAll, List.mem_append]
    rcases List.mem_cons.mp member with rfl | later
    · exact .inl (mem_subtrees_self t)
    · exact .inr (ih later)

theorem Operands.means (operands : Operands op children)
    (parts : ∀ t ∈ children, Means i t) : Means i (operator op children) := by
  cases operands with
  | compared compares left right =>
    have plain : op ≠ .not := by rintro rfl; cases compares
    rw [Means, meaning_operator plain]
    rfl
  | unary _ text =>
    by_cases negates : op = .not
    · rw [negates, Means, meaning_negation, Option.isSome_map]
      exact parts _ List.mem_cons_self
    · rw [Means, meaning_operator negates]
      rfl
  | negated t =>
    rw [Means, meaning_negation, Option.isSome_map]
    exact parts t List.mem_cons_self

mutual

theorem means_of_written (t : Tree) (written : ∀ s ∈ subtrees t, WrittenNode s) :
    ∀ s ∈ subtrees t, Means i s := by
  cases t with
  | leaf text => simp [subtrees, Means, meaning]
  | operator op children =>
    rw [subtrees, List.forall_mem_cons] at written ⊢
    have inside := meansAll_of_written children written.2
    cases written.1 with
    | operator operands =>
      exact ⟨operands.means fun s member => inside s (mem_subtreesAll member), inside⟩
  | logical connective children =>
    rw [subtrees, List.forall_mem_cons] at written ⊢
    have inside := meansAll_of_written children written.2
    exact ⟨means_logical_iff.mpr fun s member => inside s (mem_subtreesAll member), inside⟩

theorem meansAll_of_written (ts : List Tree) (written : ∀ s ∈ subtreesAll ts, WrittenNode s) :
    ∀ s ∈ subtreesAll ts, Means i s := by
  cases ts with
  | nil => simp [subtreesAll]
  | cons t ts =>
    rw [subtreesAll, List.forall_mem_append] at written ⊢
    exact ⟨means_of_written t written.1, meansAll_of_written ts written.2⟩

end

end Tree

namespace Grammar
open SearchQuery.Tree

/-- A query that can be read means the same as it is written and collapsed, however its terms and
operators are understood, and in both forms every tree in it means something. -/
theorem meaning_of_query (i : Interpretation) {ts : List Token} {root : Tree}
    (read : asWritten ts = .ok root) :
    ∃ tree, ofTokens ts = .ok tree ∧ (∀ t ∈ subtrees root, Means i t) ∧
      (∀ t ∈ subtrees tree, Means i t) ∧ meaning i tree = meaning i root := by
  obtain ⟨xs, unread, trees, -, -, rfl, reads⟩ := reads_of_asWritten read
  have written : ∀ t ∈ subtrees (logical .juxtaposition trees), WrittenNode t := by
    rw [subtrees, List.forall_mem_cons]
    exact ⟨.all trees, reads.writtenNodes⟩
  have means := means_of_written (i := i) _ written
  refine ⟨_, ofTokens_eq_ok_iff.mpr ⟨_, read, rfl⟩, means, ?_, ?_⟩
  · intro t member
    rw [subtrees_collapse, List.mem_map] at member
    obtain ⟨u, inside, rfl⟩ := member
    have part := means u (List.mem_of_mem_filter inside)
    rw [Means, meaning_collapse part]
    exact part
  · exact meaning_collapse (means _ (mem_subtrees_self _))

/-- The tokens of `(a) or not (b < 3)`, for a record that fits `a` and relates no texts. -/
theorem meaning_of_query_grouped :
    asWritten [.operator .lparen, .literal "a", .operator .rparen, .operator .or, .operator .not,
        .operator .lparen, .literal "b", .operator .lt, .literal "3", .operator .rparen] =
      .ok (.logical .and [.logical .or [.logical .and [.leaf "a"],
        .operator .not [.logical .and [.operator .lt [.leaf "b", .leaf "3"]]]]]) ∧
    meaning ⟨(· = "a"), fun _ _ => False⟩
        (.logical .or [.leaf "a", .operator .not [.operator .lt [.leaf "b", .leaf "3"]]]) =
      meaning ⟨(· = "a"), fun _ _ => False⟩
        (.logical .and [.logical .or [.logical .and [.leaf "a"],
          .operator .not [.logical .and [.operator .lt [.leaf "b", .leaf "3"]]]]]) := by
  have read : asWritten [.operator .lparen, .literal "a", .operator .rparen, .operator .or,
      .operator .not, .operator .lparen, .literal "b", .operator .lt, .literal "3",
      .operator .rparen] = .ok (.logical .and [.logical .or [.logical .and [.leaf "a"],
        .operator .not [.logical .and [.operator .lt [.leaf "b", .leaf "3"]]]]]) := by cbv
  obtain ⟨tree, collapsed, -, -, same⟩ := meaning_of_query ⟨(· = "a"), fun _ _ => False⟩ read
  have shape : ofTokens [.operator .lparen, .literal "a", .operator .rparen, .operator .or,
      .operator .not, .operator .lparen, .literal "b", .operator .lt, .literal "3",
      .operator .rparen] = .ok (.logical .or [.leaf "a",
        .operator .not [.operator .lt [.leaf "b", .leaf "3"]]]) := by cbv
  rw [shape] at collapsed
  rw [← Except.ok.inj collapsed] at same
  exact ⟨read, same⟩

end Grammar
end SearchQuery
