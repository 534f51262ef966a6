import SearchQuery.Text.Split

/-!
# Path texts

A path is kept as it was written. Its components are the parts between slashes without the empty
ones and the single dots; a path may start at the root, or at a single dot, which then is a
component of its own. Two texts name the same path if their components agree; `..` is a component
like any other.
-/
namespace SearchQuery

structure Path where
  text : String
  deriving DecidableEq, Repr

namespace Path

/-- Where a path starts. -/
inductive Anchor where
  | root | dot | free
  deriving DecidableEq, Repr

def Anchor.chars : Anchor → List Char
  | root => ['/']
  | dot => ['.']
  | free => []

/-- The start of a path text, and the text behind it. -/
def anchored : List Char → Anchor × List Char
  | '/' :: body => (.root, body)
  | ['.'] => (.dot, [])
  | '.' :: '/' :: body => (.dot, '/' :: body)
  | body => (.free, body)

theorem chars_anchored (cs : List Char) : (anchored cs).1.chars ++ (anchored cs).2 = cs := by
  unfold anchored
  split <;> rfl

def isSkipped (part : List Char) : Bool := part = [] || part = ['.']

/-- Without the parts at the end that are no components. -/
def trim (parts : List (List Char)) : List (List Char) :=
  (parts.reverse.dropWhile isSkipped).reverse

def components (p : Path) : Anchor × List (List Char) :=
  let (anchor, body) := anchored p.text.toList
  (anchor, (Text.split '/' body).filter (!isSkipped ·))

def same (p q : Path) : Bool := p.components = q.components

/-- The text up to the last component; the root and the empty path have none. -/
def parent? (p : Path) : Option Path :=
  let (anchor, body) := anchored p.text.toList
  match anchor, trim (Text.split '/' body) with
  | .dot, [] => some ⟨""⟩
  | _, [] => none
  | anchor, part :: parts =>
    some ⟨String.ofList (anchor.chars ++ Text.join '/' (trim (part :: parts).dropLast))⟩

/-- The path of `name` in the directory `p`. -/
def child (p : Path) (name : String) : Path :=
  if p.text.isEmpty || p.text.toList.getLast? = some '/' then ⟨p.text ++ name⟩
  else ⟨p.text ++ "/" ++ name⟩

theorem trim_append (parts : List (List Char)) : ∃ tail, trim parts ++ tail = parts := by
  refine ⟨(parts.reverse.takeWhile isSkipped).reverse, ?_⟩
  rw [trim, ← List.reverse_append, List.takeWhile_append_dropWhile, List.reverse_reverse]

theorem length_join_append (xs ys : List (List Char)) :
    (Text.join '/' xs).length ≤ (Text.join '/' (xs ++ ys)).length := by
  induction xs with
  | nil => exact Nat.zero_le _
  | cons x xs ih =>
    cases xs with
    | nil =>
      cases ys with
      | nil => exact Nat.le_refl _
      | cons y ys => simp [Text.join]
    | cons z zs =>
      rw [List.cons_append, Text.join_cons _ x (List.cons_ne_nil z zs),
        Text.join_cons _ x (by simp : (z :: zs) ++ ys ≠ [])]
      simp only [List.length_append, List.length_cons]
      omega

theorem length_join_trim (parts : List (List Char)) :
    (Text.join '/' (trim parts)).length ≤ (Text.join '/' parts).length := by
  obtain ⟨tail, h⟩ := trim_append parts
  conv => rhs; rw [← h]
  exact length_join_append _ _

theorem length_join_dropLast {parts : List (List Char)} (h : parts ≠ [])
    (last : parts.getLast h ≠ []) :
    (Text.join '/' parts.dropLast).length < (Text.join '/' parts).length := by
  induction parts with
  | nil => contradiction
  | cons x xs ih =>
    cases xs with
    | nil => exact List.length_pos_iff.mpr last
    | cons y ys =>
      have ih := ih (by simp) (by simpa using last)
      rw [List.dropLast_cons_cons, Text.join_cons _ x (by simp : y :: ys ≠ [])]
      cases hd : (y :: ys).dropLast with
      | nil => simp only [Text.join, List.length_append, List.length_cons]; omega
      | cons z zs =>
        rw [hd] at ih
        rw [Text.join_cons _ _ (by simp)]
        simp only [List.length_append, List.length_cons]
        omega

theorem getLast_trim {parts : List (List Char)} (h : trim parts ≠ []) :
    isSkipped ((trim parts).getLast h) = false := by
  have hd : (parts.reverse.dropWhile isSkipped) ≠ [] := by simpa [trim] using h
  simp only [trim, List.getLast_reverse]
  exact List.head_dropWhile_not isSkipped hd

theorem length_parent {p q : Path} (h : p.parent? = some q) :
    q.text.toList.length < p.text.toList.length := by
  have hp := chars_anchored p.text.toList
  unfold parent? at h
  simp only at h
  split at h
  · rename_i hd _
    injection h with h
    subst h
    rw [← hp, hd]
    simp [Anchor.chars]
  · simp at h
  · rename_i part parts ht
    injection h with h
    subst h
    have hne : trim (Text.split '/' (anchored p.text.toList).2) ≠ [] := by simp [ht]
    have skipped := getLast_trim hne
    have last : (trim (Text.split '/' (anchored p.text.toList).2)).getLast hne ≠ [] := by
      intro he
      rw [he] at skipped
      simp [isSkipped] at skipped
    have shorter := length_join_dropLast hne last
    have h₁ := length_join_trim (trim (Text.split '/' (anchored p.text.toList).2)).dropLast
    have h₂ := length_join_trim (Text.split '/' (anchored p.text.toList).2)
    rw [Text.join_split] at h₂
    rw [← ht, String.toList_ofList]
    conv => rhs; rw [← hp]
    simp only [List.length_append]
    omega

/-- The path and all its parents, from the inside out. -/
def ancestors (p : Path) : List Path :=
  match h : p.parent? with
  | none => [p]
  | some q =>
    have := length_parent h
    p :: ancestors q
termination_by p.text.toList.length

end Path
end SearchQuery
