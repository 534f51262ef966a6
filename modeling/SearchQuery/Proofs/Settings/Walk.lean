import SearchQuery.Proofs.PathParts
import SearchQuery.Settings.Files

/-!
# The walk upward

A directory ends the walk if it holds a settings file that declares itself the root. The walk takes
the files that are present up to the first directory that ends it, that one included; if none does,
it takes all, and the global file may follow. No file is taken twice.
-/
namespace SearchQuery

theorem Store.resolve_root (store : Store) (here : Location) {p : Path} {body : List Char}
    (text : p.text.toList = '/' :: body) (whole : '\x00' ∉ body)
    (short : p.text.utf8ByteSize < Store.pathLimit) :
    store.resolve here p = store.walk Store.linkLimit [] (Store.names ('/' :: body)) := by
  simp [Store.resolve, Store.origin, text, whole, Nat.not_le.mpr short]

namespace Surroundings

variable {s : Surroundings} {directory nearest : Path} {below above directories : List Path}

/-- The walk goes no further than this directory. -/
def Ends (s : Surroundings) (directory : Path) : Prop :=
  s.isFile (directory.child settingsFileName) ∧ s.isRoot (directory.child settingsFileName)

/-- The settings files that there are in the directories. -/
def present (s : Surroundings) (directories : List Path) : List Path :=
  (directories.map (·.child settingsFileName)).filter s.isFile

theorem mem_present {file : Path} : file ∈ s.present directories ↔
    ∃ directory ∈ directories, directory.child settingsFileName = file ∧ s.isFile file := by
  simp only [present, List.mem_filter, List.mem_map]
  grind

theorem present_append (below above : List Path) :
    s.present (below ++ above) = s.present below ++ s.present above := by
  simp [present]

theorem exists_split_of_mem_present {file : Path} (member : file ∈ s.present directories) :
    ∃ below directory above, directories = below ++ directory :: above ∧
      directory.child settingsFileName = file ∧ s.isFile file := by
  obtain ⟨directory, among, named, there⟩ := mem_present.mp member
  obtain ⟨below, above, split⟩ := List.append_of_mem among
  exact ⟨below, directory, above, split, named, there⟩

theorem present_singleton (file : s.isFile (directory.child settingsFileName)) :
    s.present [directory] = [directory.child settingsFileName] := by
  simp [present, file]

theorem localFiles_append (passed : ∀ inner ∈ below, ¬ s.Ends inner) (above : List Path) :
    s.localFiles (below ++ above) =
      (s.present below ++ (s.localFiles above).1, (s.localFiles above).2) := by
  induction below with
  | nil => rfl
  | cons inner below ih =>
    have open_end := passed inner List.mem_cons_self
    have ih := ih fun other member => passed other (List.mem_cons_of_mem _ member)
    rw [List.cons_append, localFiles]
    by_cases file : s.isFile (inner.child settingsFileName)
    · have noRoot : ¬ s.isRoot (inner.child settingsFileName) := fun root => open_end ⟨file, root⟩
      simp [file, noRoot, ih, present]
    · simp [file, ih, present]

theorem localFiles_of_ends (ends : s.Ends nearest) (above : List Path) :
    s.localFiles (nearest :: above) = ([nearest.child settingsFileName], true) := by
  rw [localFiles]
  simp [ends.1, ends.2]

theorem localFiles_of_passed (passed : ∀ inner ∈ directories, ¬ s.Ends inner) :
    s.localFiles directories = (s.present directories, false) := by
  have all := localFiles_append passed []
  rw [List.append_nil] at all
  simpa [localFiles] using all

/-- The first directory that ends the walk, if there is one. -/
theorem exists_first_end (s : Surroundings) (directories : List Path) :
    (∃ below nearest above, directories = below ++ nearest :: above ∧
      (∀ inner ∈ below, ¬ s.Ends inner) ∧ s.Ends nearest) ∨
    ∀ inner ∈ directories, ¬ s.Ends inner := by
  induction directories with
  | nil => exact .inr (List.forall_mem_nil _)
  | cons directory directories ih =>
    by_cases ends : s.Ends directory
    · exact .inl ⟨[], directory, directories, rfl, List.forall_mem_nil _, ends⟩
    · rcases ih with ⟨below, nearest, above, rfl, passed, first⟩ | passed
      · exact .inl ⟨directory :: below, nearest, above, rfl, by simpa [ends] using passed, first⟩
      · exact .inr (by simpa [ends] using passed)

/-! ### The files that apply -/

/-- The global file, if it has to follow the files of the directories. -/
def globalBehind (s : Surroundings) (files : List Path) : List Path :=
  s.globalFile?.toList.filter fun file => s.isFile file && !files.any (file.same ·)

theorem mem_globalBehind {file : Path} {files : List Path} : file ∈ s.globalBehind files ↔
    s.globalFile? = some file ∧ s.isFile file ∧ ∀ other ∈ files, file.same other = false := by
  rw [globalBehind, List.mem_filter, Option.mem_toList]
  simp

theorem globalBehind_of_mem {file : Path} {files : List Path}
    (member : file ∈ s.globalBehind files) : s.globalBehind files = [file] := by
  obtain ⟨global, there, other⟩ := mem_globalBehind.mp member
  have unlisted : files.any (file.same ·) = false := List.any_eq_false.mpr (by simpa using other)
  rw [globalBehind, global, Option.toList_some]
  simp [there, unlisted]

theorem globalBehind_pairwise {R : Path → Path → Prop} (s : Surroundings) (files : List Path) :
    (s.globalBehind files).Pairwise R := by
  refine List.Pairwise.filter _ ?_
  cases s.globalFile? with
  | none => exact List.Pairwise.nil
  | some file => exact List.pairwise_singleton _ _

theorem settingsFiles_of_ends (split : directory.ancestors = below ++ nearest :: above)
    (passed : ∀ inner ∈ below, ¬ s.Ends inner) (ends : s.Ends nearest) :
    s.settingsFiles directory = s.present (below ++ [nearest]) := by
  rw [settingsFiles, split, localFiles_append passed, localFiles_of_ends ends, present_append,
    present_singleton ends.1]
  cases s.globalFile? <;> simp

theorem settingsFiles_of_passed (passed : ∀ inner ∈ directory.ancestors, ¬ s.Ends inner) :
    s.settingsFiles directory =
      s.present directory.ancestors ++ s.globalBehind (s.present directory.ancestors) := by
  rw [settingsFiles, localFiles_of_passed passed, globalBehind]
  cases s.globalFile? with
  | none => simp
  | some file =>
    simp only [Option.toList_some, List.filter_cons, List.filter_nil, Bool.not_false, Bool.true_and]
    split
    · rfl
    · rw [List.append_nil]

/-- The files of directories that do not end the walk come first. -/
theorem exists_settingsFiles_append (split : directory.ancestors = below ++ above)
    (passed : ∀ inner ∈ below, ¬ s.Ends inner) :
    ∃ rest, s.settingsFiles directory = s.present below ++ rest ∧
      ∀ outer ∈ above, s.isFile (outer.child settingsFileName) → rest ≠ [] := by
  rcases s.exists_first_end above with ⟨inner, nearest, outer, rfl, open_end, ends⟩ | open_end
  · have all : ∀ other ∈ below ++ inner, ¬ s.Ends other :=
      List.forall_mem_append.mpr ⟨passed, open_end⟩
    rw [← List.append_assoc] at split
    refine ⟨s.present (inner ++ [nearest]), ?_, ?_⟩
    · rw [settingsFiles_of_ends split all ends, List.append_assoc, present_append]
    · intro _ _ _
      rw [present_append, present_singleton ends.1]
      simp
  · have all : ∀ other ∈ directory.ancestors, ¬ s.Ends other := by
      rw [split]
      exact List.forall_mem_append.mpr ⟨passed, open_end⟩
    refine ⟨s.present above ++ s.globalBehind (s.present (below ++ above)), ?_, ?_⟩
    · rw [settingsFiles_of_passed all, split, ← List.append_assoc, ← present_append]
    · intro outer member file
      have there : outer.child settingsFileName ∈ s.present above :=
        mem_present.mpr ⟨outer, member, rfl, file⟩
      exact List.append_ne_nil_of_left_ne_nil (List.ne_nil_of_mem there) _

theorem plainName_settings : Path.PlainName settingsFileName := ⟨by decide, by decide⟩

/-- No file applies twice. -/
theorem settingsFiles_pairwise (s : Surroundings) (directory : Path) :
    (s.settingsFiles directory).Pairwise fun file other => file.same other = false := by
  have different := directory.children_pairwise plainName_settings
  rcases s.exists_first_end directory.ancestors with
    ⟨below, nearest, above, split, passed, ends⟩ | passed
  · rw [settingsFiles_of_ends split passed ends, present]
    rw [split, ← List.singleton_append, ← List.append_assoc, List.map_append] at different
    exact (List.pairwise_append.mp different).1.filter _
  · rw [settingsFiles_of_passed passed]
    refine List.pairwise_append.mpr ⟨different.filter _, globalBehind_pairwise _ _, ?_⟩
    intro file member other behind
    rw [Path.same_comm]
    exact (mem_globalBehind.mp behind).2.2 file member

/-! ### Two nested directories -/

/-- A directory `/w` that holds `/w/src`, with a settings file in it and one in the root. -/
def nested (inner outer : String) (home : Option Path) : Surroundings where
  store := (((Store.empty.put ["w"] .directory).put ["w", "src"] .directory).put
    ["w", settingsFileName] (.file inner)).put [settingsFileName] (.file outer)
  home := home
  here := []

theorem ancestors_nested : (⟨"/w/src"⟩ : Path).ancestors = [⟨"/w/src"⟩, ⟨"/w"⟩, ⟨"/"⟩] := by
  have first : (⟨"/w/src"⟩ : Path).parent? = some ⟨"/w"⟩ := by decide
  have second : (⟨"/w"⟩ : Path).parent? = some ⟨"/"⟩ := by decide
  have top : (⟨"/"⟩ : Path).parent? = none := by decide
  rw [Path.ancestors_of_parent first, Path.ancestors_of_parent second, Path.ancestors_of_top top]

section nested

variable (inner outer : String) (home : Option Path)

theorem look_nested_innermost : (nested inner outer home).store.look []
    ((⟨"/w/src"⟩ : Path).child settingsFileName) = .error .missing := by
  have text : ((⟨"/w/src"⟩ : Path).child settingsFileName).text.toList =
      '/' :: "w/src/.scoped.toml".toList := by decide
  rw [Store.look, Store.resolve_root _ _ text (by decide) (by decide)]
  rfl

theorem look_nested_inner : (nested inner outer home).store.look []
    ((⟨"/w"⟩ : Path).child settingsFileName) = .ok (.file inner) := by
  have text : ((⟨"/w"⟩ : Path).child settingsFileName).text.toList =
      '/' :: "w/.scoped.toml".toList := by decide
  rw [Store.look, Store.resolve_root _ _ text (by decide) (by decide)]
  rfl

theorem look_nested_outer : (nested inner outer home).store.look []
    ((⟨"/"⟩ : Path).child settingsFileName) = .ok (.file outer) := by
  have text : ((⟨"/"⟩ : Path).child settingsFileName).text.toList =
      '/' :: ".scoped.toml".toList := by decide
  rw [Store.look, Store.resolve_root _ _ text (by decide) (by decide)]
  rfl

theorem isFile_nested :
    (nested inner outer home).isFile ((⟨"/w/src"⟩ : Path).child settingsFileName) = false ∧
    (nested inner outer home).isFile ((⟨"/w"⟩ : Path).child settingsFileName) = true ∧
    (nested inner outer home).isFile ((⟨"/"⟩ : Path).child settingsFileName) = true := by
  have here : (nested inner outer home).here = [] := rfl
  simp [isFile, Store.isFile, Node.isFile, here, look_nested_innermost, look_nested_inner,
    look_nested_outer]

theorem readText_nested_inner : (nested inner outer home).store.readText
    (nested inner outer home).here ((⟨"/w"⟩ : Path).child settingsFileName) = .ok inner := by
  have here : (nested inner outer home).here = [] := rfl
  rw [Store.readText, here, look_nested_inner]

theorem readText_nested_outer : (nested inner outer home).store.readText
    (nested inner outer home).here ((⟨"/"⟩ : Path).child settingsFileName) = .ok outer := by
  have here : (nested inner outer home).here = [] := rfl
  rw [Store.readText, here, look_nested_outer]

end nested

end Surroundings
end SearchQuery
