import Mathlib.Data.List.Perm.Subperm
import SearchQuery.Proofs.Settings.Walk
import SearchQuery.Proofs.StoreWays

/-!
# The files that apply

From a directory the walk goes to the parent of each path text until there is none, whatever slashes
and dots the text has. It takes the regular files of that name, in this order, from every directory
that no nearer root hides, and then the global file, unless one of those it took is a root or is the
same file. This determines the list. A file that fails to load is no root: it is taken, and the walk
goes on behind it.
-/
namespace SearchQuery

namespace Path

/-- A path and those above it: each is the parent of the one before, and the last has none. -/
inductive Upward : Path → List Path → Prop
  | top {p : Path} (last : p.parent? = none) : Upward p [p]
  | step {p q : Path} {above : List Path} (parent : p.parent? = some q) (others : Upward q above) :
      Upward p (p :: above)

theorem upward_ancestors (p : Path) : p.Upward p.ancestors := by
  induction p using ancestors.induct with
  | case1 p top =>
    rw [ancestors_of_top top]
    exact .top top
  | case2 p q parent _ ih =>
    rw [ancestors_of_parent parent]
    exact .step parent ih

theorem upward_iff {p : Path} {directories : List Path} :
    p.Upward directories ↔ directories = p.ancestors := by
  constructor
  · intro upward
    induction upward with
    | top last => rw [ancestors_of_top last]
    | step parent _ ih => rw [ancestors_of_parent parent, ih]
  · rintro rfl
    exact upward_ancestors p

/-- Every step upward takes one part away, and the last path may have no part. -/
theorem length_ancestors_le (p : Path) : p.ancestors.length ≤ p.parts.length + 1 := by
  induction p using ancestors.induct with
  | case1 p top =>
    rw [ancestors_of_top top]
    exact Nat.le_add_left 1 _
  | case2 p q parent _ ih =>
    obtain ⟨last, parts⟩ := parts_of_parent parent
    rw [ancestors_of_parent parent, parts, List.length_cons, List.length_append]
    exact Nat.add_le_add_right ih 1

end Path

namespace Surroundings

variable {s : Surroundings} {directory nearest inner file : Path}
  {below above directories nearby behind : List Path}

/-- The path leads to a file, whether that holds a text or not. -/
def RegularFile (s : Surroundings) (file : Path) : Prop :=
  ∃ node, s.store.look s.here file = .ok node ∧ node.isFile

/-- A file that can be loaded and says that it is the root. -/
def DeclaresRoot (s : Surroundings) (file : Path) : Prop :=
  ∃ declared, Declared.ofFile s file = .ok declared ∧ declared.root = some true

/-- No nearer directory holds a file that declares itself the root. -/
def Reaches (s : Surroundings) (directories : List Path) (inner : Path) : Prop :=
  ∃ below above, directories = below ++ inner :: above ∧
    ∀ nearer ∈ below, ¬ s.DeclaresRoot (nearer.child settingsFileName)

/-- The regular files in the directories that the walk reaches, in their order. -/
structure Nearby (s : Surroundings) (directories files : List Path) : Prop where
  order : files.Sublist (directories.map (·.child settingsFileName))
  mem_iff : ∀ file, file ∈ files ↔
    ∃ inner, s.Reaches directories inner ∧ inner.child settingsFileName = file ∧ s.RegularFile file

/-- The global file, if there is one that is neither hidden by a root nor taken before. -/
structure Behind (s : Surroundings) (nearby behind : List Path) : Prop where
  single : behind.length ≤ 1
  mem_iff : ∀ file, file ∈ behind ↔ s.globalFile? = some file ∧ s.RegularFile file ∧
    (∀ other ∈ nearby, ¬ s.DeclaresRoot other) ∧ ∀ other ∈ nearby, file.same other = false

theorem isFile_iff_regularFile : s.isFile file ↔ s.RegularFile file := Store.isFile_iff

theorem isRoot_iff : s.isRoot file ↔ s.DeclaresRoot file := by
  rw [isRoot, DeclaresRoot]
  cases Declared.ofFile s file <;> simp

theorem DeclaresRoot.regularFile (root : s.DeclaresRoot file) : s.RegularFile file := by
  obtain ⟨declared, loaded, -⟩ := root
  rw [Declared.ofFile, Store.readText] at loaded
  cases looked : s.store.look s.here file with
  | error e => rw [looked] at loaded; cases loaded
  | ok node =>
    refine ⟨node, looked, ?_⟩
    rw [looked] at loaded
    cases node with
    | file _ | binary => rfl
    | directory | link _ => cases loaded

theorem ends_iff_declaresRoot :
    s.Ends directory ↔ s.DeclaresRoot (directory.child settingsFileName) := by
  rw [Ends, isFile_iff_regularFile, isRoot_iff]
  exact and_iff_right_of_imp DeclaresRoot.regularFile

/-! ### What the walk reaches -/

theorem reaches_cons : s.Reaches (directory :: directories) inner ↔
    inner = directory ∨
      ¬ s.DeclaresRoot (directory.child settingsFileName) ∧ s.Reaches directories inner := by
  constructor
  · rintro ⟨below, above, split, passed⟩
    cases below with
    | nil => exact .inl (List.cons.inj split).1.symm
    | cons first below =>
      obtain ⟨rfl, rfl⟩ := List.cons.inj split
      rw [List.forall_mem_cons] at passed
      exact .inr ⟨passed.1, below, above, rfl, passed.2⟩
  · rintro (rfl | ⟨passed, below, above, rfl, others⟩)
    · exact ⟨[], directories, rfl, List.forall_mem_nil _⟩
    · exact ⟨directory :: below, above, rfl, List.forall_mem_cons.mpr ⟨passed, others⟩⟩

theorem reaches_append (passed : ∀ nearer ∈ below, ¬ s.Ends nearer) :
    s.Reaches (below ++ above) inner ↔ inner ∈ below ∨ s.Reaches above inner := by
  induction below with
  | nil => simp
  | cons first below ih =>
    rw [List.forall_mem_cons, ends_iff_declaresRoot] at passed
    rw [List.cons_append, reaches_cons, ih passed.2, List.mem_cons, or_assoc,
      and_iff_right passed.1]

theorem nearby_of_reaches {front : List Path} (among : front.Sublist directories)
    (reaches : ∀ inner, s.Reaches directories inner ↔ inner ∈ front) :
    s.Nearby directories (s.present front) := by
  constructor
  · exact List.filter_sublist.trans (among.map _)
  · intro file
    simp only [mem_present, reaches, isFile_iff_regularFile]

theorem nearby_of_ends (above : List Path) (passed : ∀ nearer ∈ below, ¬ s.Ends nearer)
    (ends : s.Ends nearest) :
    s.Nearby (below ++ nearest :: above) (s.present (below ++ [nearest])) := by
  refine nearby_of_reaches ?_ fun inner => ?_
  · rw [List.append_cons below nearest above]
    exact List.sublist_append_left _ _
  · have root := ends_iff_declaresRoot.mp ends
    rw [reaches_append passed, reaches_cons, List.mem_append, List.mem_singleton]
    simp [root]

theorem nearby_of_passed (passed : ∀ nearer ∈ directories, ¬ s.Ends nearer) :
    s.Nearby directories (s.present directories) := by
  refine nearby_of_reaches (List.Sublist.refl _) fun inner => ?_
  have all : s.Reaches (directories ++ []) inner ↔ inner ∈ directories ∨ s.Reaches [] inner :=
    reaches_append passed
  rw [List.append_nil] at all
  rw [all]
  simp [Reaches]

theorem exists_nearby_behind (s : Surroundings) (directory : Path) : ∃ nearby behind,
    s.settingsFiles directory = nearby ++ behind ∧ s.Nearby directory.ancestors nearby ∧
      s.Behind nearby behind := by
  rcases s.exists_first_end directory.ancestors with
    ⟨below, nearest, above, split, passed, ends⟩ | passed
  · have taken := nearby_of_ends above passed ends
    rw [← split] at taken
    refine ⟨_, [], ?_, taken, Nat.zero_le 1, ?_⟩
    · rw [settingsFiles_of_ends split passed ends, List.append_nil]
    · intro file
      have root : nearest.child settingsFileName ∈ s.present (below ++ [nearest]) :=
        mem_present.mpr ⟨nearest, by simp, rfl, ends.1⟩
      refine iff_of_false List.not_mem_nil ?_
      rintro ⟨-, -, noRoot, -⟩
      exact noRoot _ root (ends_iff_declaresRoot.mp ends)
  · refine ⟨_, _, settingsFiles_of_passed passed, nearby_of_passed passed, ?_, ?_⟩
    · exact Nat.le_trans (List.length_filter_le _ _) Option.length_toList_le
    · intro file
      have noRoot : ∀ other ∈ s.present directory.ancestors, ¬ s.DeclaresRoot other := by
        intro other member
        obtain ⟨inner, among, rfl, -⟩ := mem_present.mp member
        rw [← ends_iff_declaresRoot]
        exact passed inner among
      rw [mem_globalBehind, isFile_iff_regularFile, and_iff_right noRoot]

/-! ### There is one such list -/

theorem nodup_candidates (directory : Path) :
    (directory.ancestors.map (·.child settingsFileName)).Nodup := by
  refine (directory.children_pairwise plainName_settings).imp ?_
  rintro file other different rfl
  rw [file.same_refl] at different
  cases different

theorem Nearby.unique {files : List Path} (taken : s.Nearby directory.ancestors nearby)
    (taken' : s.Nearby directory.ancestors files) : nearby = files := by
  have candidates := nodup_candidates directory
  have same : ∀ file, file ∈ nearby ↔ file ∈ files := by
    intro file
    rw [taken.mem_iff, taken'.mem_iff]
  have perm := (List.perm_ext_iff_of_nodup (candidates.sublist taken.order)
    (candidates.sublist taken'.order)).mpr same
  exact (candidates.perm_iff_eq_of_sublist taken.order taken'.order).mp perm

theorem Behind.unique {files : List Path} (last : s.Behind nearby behind)
    (last' : s.Behind nearby files) : behind = files := by
  have same : ∀ file, file ∈ behind ↔ file ∈ files := by
    intro file
    rw [last.mem_iff, last'.mem_iff]
  match behind, files, last.single, last'.single with
  | [], [], _, _ => rfl
  | [file], [other], _, _ => simpa using (same file).mp List.mem_cons_self
  | [], [other], _, _ => exact absurd ((same other).mpr List.mem_cons_self) List.not_mem_nil
  | [file], [], _, _ => exact absurd ((same file).mp List.mem_cons_self) List.not_mem_nil

/-- The walk comes to an end, and the files that apply are exactly those of the directories that it
reaches and the global file behind them. They are all different. One that fails to load is among
them, and the walk goes on from it as it would without it. -/
theorem settingsFiles_exact (s : Surroundings) (directory : Path) : ∃ directories,
    (∀ others, directory.Upward others ↔ others = directories) ∧
    directories.length ≤ directory.parts.length + 1 ∧
    (∀ files, s.settingsFiles directory = files ↔ ∃ nearby behind,
      files = nearby ++ behind ∧ s.Nearby directories nearby ∧ s.Behind nearby behind) ∧
    (s.settingsFiles directory).Pairwise (fun file other => file.same other = false) ∧
    ∀ below inner above err, directories = below ++ inner :: above →
      (∀ nearer ∈ below, ¬ s.DeclaresRoot (nearer.child settingsFileName)) →
        s.RegularFile (inner.child settingsFileName) →
          Declared.ofFile s (inner.child settingsFileName) = .error err →
            inner.child settingsFileName ∈ s.settingsFiles directory ∧
              ∀ outer, s.Reaches above outer → s.Reaches directories outer := by
  obtain ⟨nearby, behind, files, taken, last⟩ := s.exists_nearby_behind directory
  refine ⟨directory.ancestors, fun _ => Path.upward_iff, directory.length_ancestors_le, ?_,
    s.settingsFiles_pairwise directory, ?_⟩
  · intro files'
    rw [files]
    constructor
    · rintro rfl
      exact ⟨nearby, behind, rfl, taken, last⟩
    · rintro ⟨nearby', behind', rfl, taken', last'⟩
      obtain rfl := taken.unique taken'
      rw [last.unique last']
  · intro below inner above err split passed regular failed
    have noRoot : ¬ s.DeclaresRoot (inner.child settingsFileName) := by
      rintro ⟨declared, loaded, -⟩
      cases failed.symm.trans loaded
    have reached : s.Reaches directory.ancestors inner := ⟨below, above, split, passed⟩
    constructor
    · rw [files]
      exact List.mem_append_left _ ((taken.mem_iff _).mpr ⟨inner, reached, rfl, regular⟩)
    · intro outer beyond
      rw [split, reaches_append (by simpa only [ends_iff_declaresRoot] using passed), reaches_cons]
      exact .inr (.inr ⟨noRoot, beyond⟩)

end Surroundings
end SearchQuery
