import SearchQuery.Proofs.DocumentLines
import SearchQuery.Settings.Declared
import SearchQuery.Settings.Starter

/-!
# Starter files declare nothing

Every line of a commented document is empty or a comment, whatever the document says, so reading it
comes to the end without meeting a statement.
-/
namespace SearchQuery

namespace Toml

variable {cs : List Char}

theorem skipLayout_feed (cs : List Char) : skipLayout ('\n' :: cs) = skipLayout cs := by
  rw [skipLayout]

theorem skipLayout_comment {line : List Char} (visible : ∀ c ∈ line, isVisible c)
    (cs : List Char) : skipLayout ('#' :: (line ++ '\n' :: cs)) = skipLayout cs := by
  have comment : skipComment (line ++ '\n' :: cs) = '\n' :: cs := by
    rw [skipComment, List.dropWhile_append_of_pos visible]
    rfl
  rw [skipLayout, comment, skipLayout_feed]

theorem statements_of_layout (blank : skipLayout cs = []) : statements cs = some [] := by
  rw [statements_eq, blank]

end Toml

namespace Starter

open Toml (isVisible skipLayout)

variable {lines : List String}

theorem skipLayout_commentedLine {line : List Char} (visible : ∀ c ∈ line, isVisible c)
    (cs : List Char) : skipLayout (commentedLine line ++ '\n' :: cs) = skipLayout cs := by
  unfold commentedLine
  split
  · exact Toml.skipLayout_feed cs
  · exact Toml.skipLayout_comment (List.forall_mem_cons.mp visible).2 cs
  · have spaced : ∀ c ∈ ' ' :: line, isVisible c := List.forall_mem_cons.mpr ⟨rfl, visible⟩
    exact Toml.skipLayout_comment spaced cs

theorem toList_commented (lines : List String) : (commented lines).toList =
    lines.flatMap fun line => commentedLine line.toList ++ ['\n'] := by
  simp [commented, String.toList_join, List.flatMap_map]

theorem skipLayout_commented (visible : ∀ line ∈ lines, ∀ c ∈ line.toList, isVisible c) :
    skipLayout (commented lines).toList = [] := by
  rw [toList_commented]
  induction lines with
  | nil => simp [skipLayout]
  | cons line lines ih =>
    obtain ⟨first, others⟩ := List.forall_mem_cons.mp visible
    rw [List.flatMap_cons, List.append_assoc, List.singleton_append,
      skipLayout_commentedLine first, ih others]

/-- No line starts with a byte order mark. -/
theorem withoutMark_commented (lines : List String) :
    Toml.withoutMark (commented lines).toList = (commented lines).toList := by
  rw [toList_commented]
  cases lines with
  | nil => rfl
  | cons line lines =>
    rw [List.flatMap_cons]
    unfold commentedLine
    split <;> rfl

theorem ofDocument?_commented (visible : ∀ line ∈ lines, ∀ c ∈ line.toList, isVisible c) :
    Declared.ofDocument? (commented lines) = some {} := by
  have none_stated := Toml.statements_of_layout (skipLayout_commented visible)
  rw [Declared.ofDocument?, Toml.read_of_statements (withoutMark_commented lines) none_stated rfl]
  rfl

theorem visible_of_all (visible : lines.all (·.toList.all isVisible) = true) :
    ∀ line ∈ lines, ∀ c ∈ line.toList, isVisible c :=
  fun line member => List.all_eq_true.mp (List.all_eq_true.mp visible line member)

theorem ofDocument?_localText : Declared.ofDocument? localText = some {} :=
  ofDocument?_commented (visible_of_all (by decide +kernel))

theorem ofDocument?_globalText : Declared.ofDocument? globalText = some {} :=
  ofDocument?_commented (visible_of_all (by decide +kernel))

end Starter
end SearchQuery
