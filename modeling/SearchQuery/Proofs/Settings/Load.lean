import SearchQuery.Settings.Files

/-!
# Loading files

Loading succeeds if every file can be read and is well-formed; then each setting has the value of
the first file that sets it, or its default. Loading fails at the first file that fails, whatever
follows.
-/
namespace SearchQuery

/-- One of the settings: where a file declares it, and where it is in force. -/
structure Setting (α : Type) where
  declared : Declared → Option α
  inForce : Settings → α
  inForce_override : ∀ s d, inForce (Effective.override s d) = (declared d).getD (inForce s)

namespace Setting

def format : Setting Format where
  declared d := d.output.bind (·.format)
  inForce := Settings.format
  inForce_override _ _ := rfl

def collapse : Setting Bool where
  declared d := d.parser.bind (·.collapse)
  inForce := Settings.collapse
  inForce_override _ _ := rfl

def level : Setting Level where
  declared d := d.log.bind (·.level)
  inForce := Settings.level
  inForce_override _ _ := rfl

variable {α : Type} (setting : Setting α) {s : Surroundings} {path : Path} {paths : List Path}

/-- What a file sets, if it can be loaded. -/
def inFile (s : Surroundings) (path : Path) : Option α :=
  match Declared.ofFile s path with
  | .ok declared => setting.declared declared
  | .error _ => none

theorem inFile_of_ok {declared : Declared} (loaded : Declared.ofFile s path = .ok declared) :
    setting.inFile s path = setting.declared declared := by
  rw [inFile, loaded]

theorem inForce_foldr (files : List (Path × Declared)) :
    setting.inForce (files.foldr (fun file s => Effective.override s file.2) {}) =
      (files.findSome? fun file => setting.declared file.2).getD (setting.inForce {}) := by
  induction files with
  | nil => rfl
  | cons file files ih =>
    rw [List.foldr_cons, setting.inForce_override, ih, List.findSome?_cons]
    cases setting.declared file.2 <;> rfl

end Setting

namespace Effective

variable {s s' : Surroundings} {path : Path} {paths rest : List Path} {e : Effective}

/-- What the files declare, each with its path. -/
def readAll (s : Surroundings) (paths : List Path) :
    Except SettingsError (List (Path × Declared)) :=
  paths.mapM fun path => (Declared.ofFile s path).map (path, ·)

theorem ofFiles_eq (s : Surroundings) (paths : List Path) :
    ofFiles s paths = (readAll s paths).map ofDeclared := rfl

theorem readAll_cons (s : Surroundings) (path : Path) (paths : List Path) :
    readAll s (path :: paths) = (Declared.ofFile s path).bind fun declared =>
      (readAll s paths).map ((path, declared) :: ·) := by
  unfold readAll
  rw [List.mapM_cons]
  cases Declared.ofFile s path with
  | error _ => rfl
  | ok declared => rfl

theorem readAll_eq_ok_iff {files : List (Path × Declared)} : readAll s paths = .ok files ↔
    files.map (·.1) = paths ∧ ∀ file ∈ files, Declared.ofFile s file.1 = .ok file.2 := by
  induction paths generalizing files with
  | nil =>
    constructor
    · intro read
      cases read
      exact ⟨rfl, List.forall_mem_nil _⟩
    · rintro ⟨none_left, -⟩
      rw [List.map_eq_nil_iff.mp none_left]
      rfl
  | cons path paths ih =>
    rw [readAll_cons]
    constructor
    · intro read
      cases first : Declared.ofFile s path with
      | error _ => rw [first] at read; cases read
      | ok declared =>
        cases others : readAll s paths with
        | error _ => rw [first, others] at read; cases read
        | ok files' =>
          rw [first, others] at read
          cases read
          obtain ⟨named, loaded⟩ := ih.mp others
          exact ⟨by rw [List.map_cons, named], List.forall_mem_cons.mpr ⟨first, loaded⟩⟩
    · rintro ⟨named, loaded⟩
      obtain ⟨⟨_, declared⟩, files', rfl, rfl, rfl⟩ := List.map_eq_cons_iff.mp named
      obtain ⟨first, others⟩ := List.forall_mem_cons.mp loaded
      rw [first, ih.mpr ⟨rfl, others⟩]
      rfl

theorem readAll_append (s : Surroundings) (paths rest : List Path) :
    readAll s (paths ++ rest) = (readAll s paths).bind fun files =>
      (readAll s rest).map (files ++ ·) := by
  induction paths with
  | nil =>
    change readAll s rest = (readAll s rest).map ([] ++ ·)
    cases readAll s rest <;> rfl
  | cons path paths ih =>
    rw [List.cons_append, readAll_cons, readAll_cons, ih]
    cases Declared.ofFile s path with
    | error _ => rfl
    | ok declared => cases readAll s paths <;> cases readAll s rest <;> rfl

theorem ofFiles_eq_ok_iff : ofFiles s paths = .ok e ↔
    ∃ files, readAll s paths = .ok files ∧ ofDeclared files = e := by
  rw [ofFiles_eq]
  cases readAll s paths <;> simp [Except.map]

/-- A file that fails makes the loading fail, whatever follows. -/
theorem ofFiles_append_of_error {err : SettingsError} (failed : ofFiles s paths = .error err)
    (rest : List Path) : ofFiles s (paths ++ rest) = .error err := by
  rw [ofFiles_eq] at failed ⊢
  rw [readAll_append]
  cases front : readAll s paths with
  | error _ => rw [front] at failed; exact failed
  | ok files => rw [front] at failed; cases failed

theorem loaded_of_mem (ok : ofFiles s paths = .ok e) (member : path ∈ paths) :
    ∃ declared, Declared.ofFile s path = .ok declared := by
  obtain ⟨files, read, -⟩ := ofFiles_eq_ok_iff.mp ok
  obtain ⟨rfl, loaded⟩ := readAll_eq_ok_iff.mp read
  obtain ⟨file, among, rfl⟩ := List.mem_map.mp member
  exact ⟨file.2, loaded file among⟩

/-- Loading depends on nothing but what the files hold. -/
theorem ofFiles_congr (alike : ∀ path ∈ paths, Declared.ofFile s' path = Declared.ofFile s path) :
    ofFiles s' paths = ofFiles s paths := by
  have read : readAll s' paths = readAll s paths := by
    induction paths with
    | nil => rfl
    | cons path paths ih =>
      rw [readAll_cons, readAll_cons, alike path List.mem_cons_self,
        ih fun other member => alike other (List.mem_cons_of_mem _ member)]
  rw [ofFiles_eq, ofFiles_eq, read]

/-- What a setting is after loading: what the first file that sets it says, or the default. -/
theorem inForce_of_ok {α : Type} (setting : Setting α) (ok : ofFiles s paths = .ok e) :
    setting.inForce e.settings =
      (paths.findSome? (setting.inFile s)).getD (setting.inForce {}) := by
  obtain ⟨files, read, rfl⟩ := ofFiles_eq_ok_iff.mp ok
  obtain ⟨rfl, loaded⟩ := readAll_eq_ok_iff.mp read
  have declared : files.findSome? (fun file => setting.declared file.2) =
      files.findSome? (setting.inFile s ∘ (·.1)) := by
    clear read ok
    induction files with
    | nil => rfl
    | cons file files ih =>
      obtain ⟨first, others⟩ := List.forall_mem_cons.mp loaded
      rw [List.findSome?_cons, List.findSome?_cons, ih others, Function.comp_apply,
        setting.inFile_of_ok first]
  rw [List.findSome?_map, ← declared]
  exact setting.inForce_foldr files

end Effective
end SearchQuery
