import SearchQuery.Proofs.DocumentLines
import SearchQuery.Proofs.Settings.Load
import SearchQuery.Proofs.Settings.Walk

/-!
# Isolation

A settings file that is a root, or that fails to load, keeps everything above it, and the home
directory, from having any influence on the settings of the directories below. The walk reads a file
once to see whether it is a root, and passes one that fails; loading reads it again and fails there,
before any file that the walk took later. So both kinds of files have the same effect in the end.
-/
namespace SearchQuery

namespace Surroundings

variable {s s' : Surroundings} {directory nearest : Path} {below above directories : List Path}

/-- There is a settings file in the directory, and if it can be loaded it declares itself the
root. -/
def Isolates (s : Surroundings) (directory : Path) : Prop :=
  s.isFile (directory.child settingsFileName) ∧
    ∀ declared, Declared.ofFile s (directory.child settingsFileName) = .ok declared →
      declared.root = some true

/-- The settings files in the directories are the same, and have the same contents. -/
structure Agrees (s s' : Surroundings) (directories : List Path) : Prop where
  isFile : ∀ directory ∈ directories,
    s'.isFile (directory.child settingsFileName) = s.isFile (directory.child settingsFileName)
  contents : ∀ directory ∈ directories, s.isFile (directory.child settingsFileName) →
    s'.store.readText s'.here (directory.child settingsFileName) =
      s.store.readText s.here (directory.child settingsFileName)

theorem Ends.isolates (ends : s.Ends directory) : s.Isolates directory := by
  refine ⟨ends.1, ?_⟩
  intro declared loaded
  have root := ends.2
  rw [isRoot, loaded] at root
  simpa using root

/-- A file that isolates and does not end the walk fails to load. -/
theorem Isolates.ends_or_fails (isolates : s.Isolates directory) : s.Ends directory ∨
    ∃ err, Declared.ofFile s (directory.child settingsFileName) = .error err := by
  cases loaded : Declared.ofFile s (directory.child settingsFileName) with
  | error err => exact .inr ⟨err, rfl⟩
  | ok declared =>
    refine .inl ⟨isolates.1, ?_⟩
    rw [isRoot, loaded]
    simpa using isolates.2 declared loaded

namespace Agrees

theorem ofFile (agrees : Agrees s s' directories) (member : directory ∈ directories)
    (file : s.isFile (directory.child settingsFileName)) :
    Declared.ofFile s' (directory.child settingsFileName) =
      Declared.ofFile s (directory.child settingsFileName) := by
  rw [Declared.ofFile, Declared.ofFile, agrees.contents directory member file]

theorem isolates_iff (agrees : Agrees s s' directories) (member : directory ∈ directories) :
    s'.Isolates directory ↔ s.Isolates directory := by
  rw [Isolates, Isolates, agrees.isFile directory member]
  refine and_congr_right fun file => ?_
  rw [agrees.ofFile member file]

theorem present_eq (agrees : Agrees s s' directories) :
    s'.present directories = s.present directories := by
  refine List.filter_congr fun file member => ?_
  obtain ⟨directory, among, rfl⟩ := List.mem_map.mp member
  exact agrees.isFile directory among

end Agrees
end Surroundings

namespace Effective

open Surroundings

variable {s s' : Surroundings} {directory nearest : Path} {below above : List Path}

/-- Below the first directory that isolates, only the files up to it matter. -/
theorem ofDirectory_eq (split : directory.ancestors = below ++ nearest :: above)
    (passed : ∀ inner ∈ below, ¬ s.Isolates inner) (isolates : s.Isolates nearest) :
    ofDirectory s directory = ofFiles s (s.present (below ++ [nearest])) := by
  have open_end : ∀ inner ∈ below, ¬ s.Ends inner :=
    fun inner member ends => passed inner member ends.isolates
  by_cases ends : s.Ends nearest
  · rw [ofDirectory, settingsFiles_of_ends split open_end ends]
  · -- The walk goes on behind a file that fails, but loading does not get that far.
    obtain ⟨err, fails⟩ := isolates.ends_or_fails.resolve_left ends
    have front : directory.ancestors = (below ++ [nearest]) ++ above :=
      split.trans (List.append_cons _ _ _)
    have all : ∀ inner ∈ below ++ [nearest], ¬ s.Ends inner :=
      List.forall_mem_append.mpr ⟨open_end, List.forall_mem_singleton.mpr ends⟩
    obtain ⟨rest, files, -⟩ := exists_settingsFiles_append front all
    rw [ofDirectory, files]
    cases loaded : ofFiles s (s.present (below ++ [nearest])) with
    | error first => exact ofFiles_append_of_error loaded rest
    | ok e =>
      have member : nearest.child settingsFileName ∈ s.present (below ++ [nearest]) :=
        mem_present.mpr ⟨nearest, by simp, rfl, isolates.1⟩
      obtain ⟨declared, ok⟩ := loaded_of_mem loaded member
      cases fails.symm.trans ok

/-- Surroundings that agree on the files up to the first directory that isolates have the same
settings there, or fail alike: those of these files alone. What lies above, and where the home
directory is, does not matter. -/
theorem ofDirectory_eq_of_agrees (split : directory.ancestors = below ++ nearest :: above)
    (passed : ∀ inner ∈ below, ¬ s.Isolates inner) (isolates : s.Isolates nearest)
    (agrees : Agrees s s' (below ++ [nearest])) :
    ofDirectory s' directory = ofDirectory s directory ∧
      ofDirectory s directory = ofFiles s (s.present (below ++ [nearest])) := by
  have isolates' := (agrees.isolates_iff (by simp)).mpr isolates
  have passed' : ∀ inner ∈ below, ¬ s'.Isolates inner := by
    intro inner member isolates
    exact passed inner member ((agrees.isolates_iff (by simp [member])).mp isolates)
  refine ⟨?_, ofDirectory_eq split passed isolates⟩
  rw [ofDirectory_eq split passed isolates, ofDirectory_eq split passed' isolates',
    agrees.present_eq]
  refine ofFiles_congr fun path member => ?_
  obtain ⟨inner, among, rfl, file⟩ := mem_present.mp member
  exact agrees.ofFile among file

theorem ofDocument?_root : Declared.ofDocument? "root = true\n" = some { root := some true } := by
  have bare : Toml.BareName "root".toList := ⟨by decide, by decide⟩
  have lines := Toml.statements_truth_line bare true []
  rw [Toml.statements_nil] at lines
  have text : Toml.withoutMark "root = true\n".toList =
      "root".toList ++ ' ' :: '=' :: ' ' :: (Toml.truthText true ++ ['\n']) := rfl
  rw [Declared.ofDocument?, Toml.read_of_statements text lines rfl]
  rfl

/-- Below a root, a malformed file above and another home directory make no difference. -/
theorem ofDirectory_eq_of_agrees_nested :
    (nested "root = true\n" "" none).Isolates ⟨"/w"⟩ ∧
    ofDirectory (nested "root = true\n" "=" (some ⟨"/w/src"⟩)) ⟨"/w/src"⟩ =
      ofDirectory (nested "root = true\n" "" none) ⟨"/w/src"⟩ ∧
    ofDirectory (nested "root = true\n" "" none) ⟨"/w/src"⟩ =
      ofFiles (nested "root = true\n" "" none)
        ((nested "root = true\n" "" none).present [⟨"/w/src"⟩, ⟨"/w"⟩]) := by
  have file := isFile_nested "root = true\n" "" none
  have file' := isFile_nested "root = true\n" "=" (some ⟨"/w/src"⟩)
  have isolates : (nested "root = true\n" "" none).Isolates ⟨"/w"⟩ := by
    refine ⟨file.2.1, ?_⟩
    intro declared loaded
    rw [Declared.ofFile, readText_nested_inner] at loaded
    simp only [Declared.ofText, ofDocument?_root] at loaded
    cases loaded
    rfl
  have passed : ∀ inner ∈ [⟨"/w/src"⟩], ¬ (nested "root = true\n" "" none).Isolates inner := by
    rw [List.forall_mem_singleton]
    intro isolates
    exact Bool.false_ne_true (file.1.symm.trans isolates.1)
  refine ⟨isolates, ofDirectory_eq_of_agrees ancestors_nested passed isolates ⟨?_, ?_⟩⟩
  · simp [file, file']
  · simp [file, readText_nested_inner]

end Effective
end SearchQuery
