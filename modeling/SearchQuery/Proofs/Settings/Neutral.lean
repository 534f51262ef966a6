import SearchQuery.Proofs.Settings.Load
import SearchQuery.Proofs.Settings.Walk
import SearchQuery.Proofs.StoreChanges

/-!
# Files that declare nothing

A settings file that declares nothing is no root and sets nothing. Wherever it stands, at any place
of a walk or as the global file, the settings are the same without it, and so is the first failure.
-/
namespace SearchQuery

namespace Surroundings

variable {s s' : Surroundings} {directory path : Path}

/-- Every file of `s` is one of `s'`, with the same declarations, or declares nothing. -/
structure Fewer (s s' : Surroundings) : Prop where
  home : s'.home = s.home
  isFile : ∀ path, s'.isFile path → s.isFile path
  kept : ∀ path, s'.isFile path → Declared.ofFile s' path = Declared.ofFile s path
  neutral : ∀ path, s.isFile path → s'.isFile path = false → Declared.ofFile s path = .ok {}
  same : ∀ path other, path.same other → s.isFile path → s.isFile other →
    s'.isFile path → s'.isFile other

namespace Fewer

/-- A file that declares nothing ends no walk. -/
theorem ends_iff (fewer : Fewer s s') (directory : Path) :
    s'.Ends directory ↔ s.Ends directory := by
  rw [Ends, Ends]
  constructor
  · rintro ⟨file, root⟩
    rw [isRoot, fewer.kept _ file] at root
    exact ⟨fewer.isFile _ file, root⟩
  · rintro ⟨file, root⟩
    cases kept : s'.isFile (directory.child settingsFileName) with
    | false =>
      rw [isRoot, fewer.neutral _ file kept] at root
      cases root
    | true =>
      rw [isRoot] at root ⊢
      rw [fewer.kept _ kept]
      exact ⟨rfl, root⟩

theorem present_eq (fewer : Fewer s s') (directories : List Path) :
    s'.present directories = (s.present directories).filter s'.isFile := by
  rw [present, present, List.filter_filter]
  refine List.filter_congr fun path _ => ?_
  cases file : s'.isFile path with
  | false => rfl
  | true => rw [fewer.isFile path file]; rfl

theorem globalBehind_eq (fewer : Fewer s s') (directories : List Path) :
    s'.globalBehind (s'.present directories) =
      (s.globalBehind (s.present directories)).filter s'.isFile := by
  have global : s'.globalFile? = s.globalFile? := by rw [globalFile?, globalFile?, fewer.home]
  rw [globalBehind, globalBehind, List.filter_filter, global]
  refine List.filter_congr fun path _ => ?_
  cases file : s'.isFile path with
  | false => rfl
  | true =>
    have old := fewer.isFile path file
    have listed : (s'.present directories).any (path.same ·) =
        (s.present directories).any (path.same ·) := by
      rw [fewer.present_eq, List.any_filter, Bool.eq_iff_iff, List.any_eq_true, List.any_eq_true]
      refine exists_congr fun other => and_congr_right fun member => ?_
      obtain ⟨-, -, -, other_file⟩ := mem_present.mp member
      rw [Bool.and_eq_true]
      exact and_iff_right_of_imp fun alike => fewer.same path other alike old other_file file
    rw [listed, old, Bool.true_and, Bool.true_and]

theorem settingsFiles_eq (fewer : Fewer s s') (directory : Path) :
    s'.settingsFiles directory = (s.settingsFiles directory).filter s'.isFile := by
  rcases s.exists_first_end directory.ancestors with
    ⟨below, nearest, above, split, passed, ends⟩ | passed
  · have passed' : ∀ inner ∈ below, ¬ s'.Ends inner := by simpa only [fewer.ends_iff] using passed
    rw [settingsFiles_of_ends split passed ends,
      settingsFiles_of_ends split passed' ((fewer.ends_iff nearest).mpr ends), fewer.present_eq]
  · have passed' : ∀ inner ∈ directory.ancestors, ¬ s'.Ends inner := by
      simpa only [fewer.ends_iff] using passed
    rw [settingsFiles_of_passed passed, settingsFiles_of_passed passed', List.filter_append,
      fewer.globalBehind_eq, fewer.present_eq]

end Fewer

theorem isFile_of_mem_settingsFiles (member : path ∈ s.settingsFiles directory) :
    s.isFile path := by
  rcases s.exists_first_end directory.ancestors with
    ⟨below, nearest, above, split, passed, ends⟩ | passed
  · rw [settingsFiles_of_ends split passed ends] at member
    obtain ⟨-, -, -, file⟩ := mem_present.mp member
    exact file
  · rw [settingsFiles_of_passed passed] at member
    rcases List.mem_append.mp member with inside | behind
    · obtain ⟨-, -, -, file⟩ := mem_present.mp inside
      exact file
    · exact (mem_globalBehind.mp behind).2.1

end Surroundings

namespace Effective

open Surroundings

variable {s s' : Surroundings} {paths : List Path}

/-- The settings in force in a directory, or why they cannot be loaded. -/
def settingsOf (s : Surroundings) (directory : Path) : Except SettingsError Settings :=
  (ofDirectory s directory).map (·.settings)

theorem settings_cons (s : Surroundings) (path : Path) (paths : List Path) :
    (ofFiles s (path :: paths)).map (·.settings) = (Declared.ofFile s path).bind fun declared =>
      ((ofFiles s paths).map (·.settings)).map (override · declared) := by
  rw [ofFiles_eq, ofFiles_eq, readAll_cons]
  cases Declared.ofFile s path with
  | error _ => rfl
  | ok declared => cases readAll s paths <;> rfl

/-- Files that declare nothing can be left out. -/
theorem settings_filter {kept : Path → Bool}
    (neutral : ∀ path ∈ paths, kept path = false → Declared.ofFile s path = .ok {}) :
    (ofFiles s (paths.filter kept)).map (·.settings) = (ofFiles s paths).map (·.settings) := by
  induction paths with
  | nil => rfl
  | cons path paths ih =>
    obtain ⟨first, others⟩ := List.forall_mem_cons.mp neutral
    have ih := ih others
    rw [settings_cons]
    cases keep : kept path with
    | true => rw [List.filter_cons_of_pos keep, settings_cons, ih]
    | false =>
      rw [List.filter_cons_of_neg (by simp [keep]), ih, first keep]
      cases ofFiles s paths <;> rfl

/-- Without some of the files that declare nothing, every directory has the same settings. -/
theorem settingsOf_eq_of_fewer (fewer : Fewer s s') (directory : Path) :
    settingsOf s' directory = settingsOf s directory := by
  have contents : ofFiles s' ((s.settingsFiles directory).filter s'.isFile) =
      ofFiles s ((s.settingsFiles directory).filter s'.isFile) :=
    ofFiles_congr fun path member => fewer.kept path (List.mem_filter.mp member).2
  rw [settingsOf, settingsOf, ofDirectory, ofDirectory, fewer.settingsFiles_eq, contents]
  refine settings_filter fun path member gone => ?_
  exact fewer.neutral path (isFile_of_mem_settingsFiles member) gone

end Effective

namespace Surroundings

variable {store : Store} {location : Location} {text : String}

/-- Without a file that declares nothing, under whatever names, there are fewer files in this
sense. -/
theorem fewer_without (nothing : Declared.ofDocument? text = some {}) (home : Option Path)
    (here : Location) :
    Fewer ⟨store.write location text, home, here⟩ ⟨store.without location, home, here⟩ := by
  have restored : ∀ {path node}, (store.without location).look here path = .ok node →
      (store.write location text).look here path = .ok node :=
    fun looked => Store.look_write_iff.mpr (.inr looked)
  have leads_there : ∀ path, (store.write location text).isFile here path →
      (store.without location).isFile here path = false → ∃ name,
        (store.write location text).resolve here path = .ok name ∧
          store.sameFile location name := by
    intro path file gone
    obtain ⟨node, looked, isFile⟩ := Store.isFile_iff.mp file
    rcases Store.look_write_iff.mp looked with ⟨name, resolved, same, -⟩ | still
    · exact ⟨name, resolved, same⟩
    · cases gone.symm.trans (Store.isFile_iff.mpr ⟨node, still, isFile⟩)
  refine ⟨rfl, ?_, ?_, ?_, ?_⟩
  · intro path file
    obtain ⟨node, looked, isFile⟩ := Store.isFile_iff.mp file
    exact Store.isFile_iff.mpr ⟨node, restored looked, isFile⟩
  · intro path file
    obtain ⟨node, looked, -⟩ := Store.isFile_iff.mp file
    simp only [Declared.ofFile, Store.readText, looked, restored looked]
  · intro path file gone
    obtain ⟨name, resolved, same⟩ := leads_there path file gone
    have looked := Store.look_write_iff.mpr (.inl ⟨name, resolved, same, rfl⟩)
    simp only [Declared.ofFile, Store.readText_of_look looked, Declared.ofText, nothing]
  · intro path other alike _ other_file file
    obtain ⟨node, looked, -⟩ := Store.isFile_iff.mp file
    obtain ⟨location', resolved, found⟩ := Store.look_eq_ok_iff.mp looked
    have resolved := (store.sameWays_write_without location text).symm.resolve_eq_ok resolved
    refine Bool.of_not_eq_false fun gone => ?_
    obtain ⟨name, resolved', same⟩ := leads_there other other_file gone
    rw [Store.eq_of_same alike resolved resolved', Store.node?_without_of_same same] at found
    cases found

end Surroundings
end SearchQuery
