import SearchQuery.Proofs.DocumentLines
import SearchQuery.Proofs.Settings.Load
import SearchQuery.Proofs.Settings.Walk

/-!
# The place of the global file

The global file is meant to come last. The walk takes it earlier when it meets the home directory
on the way up: then the files of the directories above come behind it and are overruled by it. This
is the only way in which it can come before another file; in all other cases a setting that any
other file sets does not depend on what the global file says.
-/
namespace SearchQuery

namespace Surroundings

variable {s : Surroundings} {directory : Path}

/-- The global file comes last, if it is among the files that apply. -/
def GlobalLast (s : Surroundings) (directory : Path) : Prop :=
  ∀ file ∈ s.settingsFiles directory, s.isGlobal file →
    (s.settingsFiles directory).getLast? = some file

/-- The walk reaches the home directory, does not end there, and there is a settings file above. -/
def GlobalOverrules (s : Surroundings) (directory : Path) : Prop :=
  ∃ below home above, directory.ancestors = below ++ home :: above ∧
    (∀ inner ∈ below ++ [home], ¬ s.Ends inner) ∧
    s.isFile (home.child settingsFileName) ∧ s.isGlobal (home.child settingsFileName) ∧
    ∃ outer ∈ above, s.isFile (outer.child settingsFileName)

theorem isGlobal_iff {file : Path} :
    s.isGlobal file ↔ ∃ global, s.globalFile? = some global ∧ file.same global := by
  rw [isGlobal]
  cases s.globalFile? <;> simp

theorem same_of_isGlobal {file other : Path} (global : s.isGlobal file)
    (global' : s.isGlobal other) : file.same other := by
  obtain ⟨target, found, alike⟩ := isGlobal_iff.mp global
  obtain ⟨target', found', alike'⟩ := isGlobal_iff.mp global'
  obtain rfl : target = target' := Option.some.inj (found.symm.trans found')
  rw [Path.same_iff] at *
  exact alike.trans alike'.symm

/-- The global file does not follow files that it is among. -/
theorem globalBehind_of_listed {files : List Path} {file : Path} (listed : file ∈ files)
    (global : s.isGlobal file) : s.globalBehind files = [] := by
  refine List.eq_nil_iff_forall_not_mem.mpr fun other behind => ?_
  obtain ⟨found, -, unlisted⟩ := mem_globalBehind.mp behind
  have alike := same_of_isGlobal (isGlobal_iff.mpr ⟨other, found, other.same_refl⟩) global
  exact Bool.false_ne_true ((unlisted file listed).symm.trans alike)

/-- The files behind the global file are others. -/
theorem getLast?_ne_of_behind {files behind : List Path} {file : Path}
    (taken : s.settingsFiles directory = files ++ file :: behind) (some_behind : behind ≠ []) :
    (s.settingsFiles directory).getLast? ≠ some file := by
  intro last
  have different := s.settingsFiles_pairwise directory
  rw [taken] at different last
  have later := (List.pairwise_cons.mp (List.pairwise_append.mp different).2.1).1
  obtain ⟨front, final, rfl⟩ := behind.eq_nil_or_concat.resolve_left some_behind
  rw [List.concat_eq_append] at *
  rw [← List.cons_append, ← List.append_assoc, List.getLast?_concat, Option.some.injEq] at last
  subst last
  have other := later final (by simp)
  rw [Path.same_refl] at other
  cases other

theorem GlobalOverrules.not_globalLast (overrules : s.GlobalOverrules directory) :
    ¬ s.GlobalLast directory := by
  obtain ⟨below, home, above, split, passed, file, global, outer, member, outer_file⟩ := overrules
  have front : directory.ancestors = (below ++ [home]) ++ above :=
    split.trans (List.append_cons _ _ _)
  obtain ⟨rest, taken, some_rest⟩ := exists_settingsFiles_append front passed
  rw [present_append, present_singleton file, List.append_assoc, List.singleton_append] at taken
  intro last
  exact getLast?_ne_of_behind taken (some_rest outer member outer_file)
    (last _ (by rw [taken]; simp) global)

theorem globalLast_of_not_overrules (fair : ¬ s.GlobalOverrules directory) :
    s.GlobalLast directory := by
  intro file member global
  rcases s.exists_first_end directory.ancestors with
    ⟨below, nearest, above, split, passed, ends⟩ | passed
  · rw [settingsFiles_of_ends split passed ends, present_append, present_singleton ends.1] at *
    rcases List.mem_append.mp member with inside | final
    · -- The file that ends the walk would come behind the global one.
      obtain ⟨inner, home, outer, rfl, rfl, there⟩ := exists_split_of_mem_present inside
      refine absurd ⟨inner, home, outer ++ nearest :: above, ?_, ?_, there, global, ?_⟩ fair
      · rw [split, List.append_assoc, List.cons_append]
      · intro other among
        exact passed other (by grind)
      · exact ⟨nearest, by simp, ends.1⟩
    · rw [List.mem_singleton.mp final]
      simp
  · rw [settingsFiles_of_passed passed] at *
    rcases List.mem_append.mp member with inside | final
    · obtain ⟨below, home, above, split, rfl, there⟩ := exists_split_of_mem_present inside
      have open_end : ∀ inner ∈ below ++ [home], ¬ s.Ends inner := by
        intro inner among
        exact passed inner (by rw [split]; grind)
      have none_above : s.present above = [] := by
        refine List.eq_nil_iff_forall_not_mem.mpr fun file among => fair ?_
        obtain ⟨outer, high, rfl, outer_there⟩ := mem_present.mp among
        exact ⟨below, home, above, split, open_end, there, global, outer, high, outer_there⟩
      rw [globalBehind_of_listed inside global, split, ← List.singleton_append, present_append,
        present_append, none_above, present_singleton there]
      simp
    · rw [globalBehind_of_mem final]
      simp

/-- The files that apply, without the global one. -/
def otherFiles (s : Surroundings) (directory : Path) : List Path :=
  (s.settingsFiles directory).filter (!s.isGlobal ·)

theorem exists_otherFiles_append (last : s.GlobalLast directory) :
    ∃ behind, s.settingsFiles directory = s.otherFiles directory ++ behind := by
  rcases (s.settingsFiles directory).eq_nil_or_concat with none_taken | ⟨front, final, taken⟩
  · exact ⟨[], by rw [otherFiles, none_taken]; rfl⟩
  · rw [List.concat_eq_append] at taken
    have others : front.filter (!s.isGlobal ·) = front := by
      refine List.filter_eq_self.mpr fun file member => ?_
      obtain ⟨before, behind, rfl⟩ := List.append_of_mem member
      rw [List.append_assoc, List.cons_append] at taken
      rw [Bool.not_eq_true', ← Bool.not_eq_true]
      intro global
      exact getLast?_ne_of_behind taken (by simp) (last file (by rw [taken]; simp) global)
    refine ⟨[final].filter s.isGlobal, ?_⟩
    rw [otherFiles, taken, List.filter_append, others, List.append_assoc]
    cases global : s.isGlobal final <;> simp [global]

/-- The global file comes last exactly if it does not overrule a file above the home directory. If
so, a setting that any other file sets has the value of the first of them that sets it. -/
theorem global_file_precedence (s : Surroundings) (directory : Path) :
    (s.GlobalLast directory ↔ ¬ s.GlobalOverrules directory) ∧
    (¬ s.GlobalOverrules directory → ∀ e, Effective.ofDirectory s directory = .ok e →
      ∀ {α : Type} (setting : Setting α) (file : Path), file ∈ s.otherFiles directory →
        (setting.inFile s file).isSome →
          (s.otherFiles directory).findSome? (setting.inFile s) =
            some (setting.inForce e.settings)) := by
  refine ⟨⟨fun last overrules => overrules.not_globalLast last, globalLast_of_not_overrules⟩, ?_⟩
  intro fair e loaded α setting file member sets
  obtain ⟨behind, taken⟩ := exists_otherFiles_append (globalLast_of_not_overrules fair)
  have value := Effective.inForce_of_ok setting loaded
  have some_sets : ((s.otherFiles directory).findSome? (setting.inFile s)).isSome :=
    List.findSome?_isSome_iff.mpr ⟨file, member, sets⟩
  obtain ⟨first, found⟩ := Option.isSome_iff_exists.mp some_sets
  rw [taken, List.findSome?_append, found] at value
  rw [found, value]
  rfl

/-! ### The home directory below another settings file -/

/-- A document that declares whether to collapse. -/
def collapseText (b : Bool) : String :=
  "[parser]\nsimplify = " ++ String.ofList (Toml.truthText b) ++ "\n"

theorem read_collapseText (b : Bool) : Toml.read (collapseText b) =
    some [("parser", .table .header [("simplify", .boolean b)])] := by
  have header : Toml.BareName "parser".toList := ⟨by decide, by decide⟩
  have key : Toml.BareName "simplify".toList := ⟨by decide, by decide⟩
  have lines := Toml.statements_header_line header
    ("simplify".toList ++ ' ' :: '=' :: ' ' :: (Toml.truthText b ++ ['\n']))
  rw [Toml.statements_truth_line key, Toml.statements_nil] at lines
  have text : Toml.withoutMark (collapseText b).toList =
      '[' :: ("parser".toList ++ ']' :: '\n' ::
        ("simplify".toList ++ ' ' :: '=' :: ' ' :: (Toml.truthText b ++ ['\n']))) := by
    cases b <;> rfl
  exact Toml.read_of_statements text lines rfl

theorem ofDocument?_collapseText (b : Bool) :
    Declared.ofDocument? (collapseText b) = some { parser := some ⟨some b⟩ } := by
  rw [Declared.ofDocument?, read_collapseText]
  rfl

/-- The file in `/w` does not collapse, the one in the root directory does. -/
def divided (home : Path) : Surroundings :=
  nested (collapseText false) (collapseText true) (some home)

section divided

variable (home : Path)

theorem ofFile_divided_inner :
    Declared.ofFile (divided home) ((⟨"/w"⟩ : Path).child settingsFileName) =
      .ok { parser := some ⟨some false⟩ } := by
  rw [divided, Declared.ofFile, readText_nested_inner]
  simp only [Declared.ofText, ofDocument?_collapseText]

theorem ofFile_divided_outer :
    Declared.ofFile (divided home) ((⟨"/"⟩ : Path).child settingsFileName) =
      .ok { parser := some ⟨some true⟩ } := by
  rw [divided, Declared.ofFile, readText_nested_outer]
  simp only [Declared.ofText, ofDocument?_collapseText]

theorem isGlobal_divided (file : Path) :
    (divided home).isGlobal file = file.same (home.child settingsFileName) := rfl

theorem present_divided : (divided home).present (⟨"/w/src"⟩ : Path).ancestors =
    [(⟨"/w"⟩ : Path).child settingsFileName, (⟨"/"⟩ : Path).child settingsFileName] := by
  have files := isFile_nested (collapseText false) (collapseText true) (some home)
  rw [ancestors_nested, present, divided]
  simp [files]

theorem passed_divided : ∀ inner ∈ (⟨"/w/src"⟩ : Path).ancestors, ¬ (divided home).Ends inner := by
  intro inner member ends
  have there := mem_present.mpr ⟨inner, member, rfl, ends.1⟩
  have root := ends.2
  rw [present_divided, List.mem_cons, List.mem_singleton] at there
  rw [isRoot] at root
  rcases there with named | named
  · rw [named, ofFile_divided_inner] at root
    cases root
  · rw [named, ofFile_divided_outer] at root
    cases root

variable {home}

theorem settingsFiles_divided {file : Path}
    (member : file ∈ (divided home).present (⟨"/w/src"⟩ : Path).ancestors)
    (global : (divided home).isGlobal file) : (divided home).settingsFiles ⟨"/w/src"⟩ =
      [(⟨"/w"⟩ : Path).child settingsFileName, (⟨"/"⟩ : Path).child settingsFileName] := by
  rw [settingsFiles_of_passed (passed_divided home), globalBehind_of_listed member global,
    List.append_nil, present_divided]

theorem ofDirectory_divided (files : (divided home).settingsFiles ⟨"/w/src"⟩ =
    [(⟨"/w"⟩ : Path).child settingsFileName, (⟨"/"⟩ : Path).child settingsFileName]) :
    Effective.ofDirectory (divided home) ⟨"/w/src"⟩ =
      .ok ⟨{ collapse := false }, ((⟨"/w"⟩ : Path).child settingsFileName).parent?⟩ := by
  rw [Effective.ofDirectory, files, Effective.ofFiles_eq, Effective.readAll_cons,
    Effective.readAll_cons, ofFile_divided_inner, ofFile_divided_outer]
  rfl

end divided

/-- The home directory is `/w`: its file, which does not collapse, overrules the one in the root
directory, which does. -/
theorem global_overrules_outer :
    ¬ (divided ⟨"/w"⟩).GlobalLast ⟨"/w/src"⟩ ∧
    (divided ⟨"/w"⟩).otherFiles ⟨"/w/src"⟩ = [(⟨"/"⟩ : Path).child settingsFileName] ∧
    Setting.collapse.inFile (divided ⟨"/w"⟩) ((⟨"/"⟩ : Path).child settingsFileName) = some true ∧
    ∃ e, Effective.ofDirectory (divided ⟨"/w"⟩) ⟨"/w/src"⟩ = .ok e ∧
      e.settings.collapse = false := by
  have global : (divided ⟨"/w"⟩).isGlobal ((⟨"/w"⟩ : Path).child settingsFileName) :=
    isGlobal_iff.mpr ⟨_, rfl, Path.same_refl _⟩
  have other : (divided ⟨"/w"⟩).isGlobal ((⟨"/"⟩ : Path).child settingsFileName) = false := by
    rw [isGlobal_divided]
    decide
  have files := settingsFiles_divided (by rw [present_divided]; exact List.mem_cons_self) global
  refine ⟨?_, ?_, ?_, _, ofDirectory_divided files, rfl⟩
  · intro last
    rw [← List.nil_append [_, _]] at files
    exact getLast?_ne_of_behind files (List.cons_ne_nil _ _) (last _ (by rw [files]; simp) global)
  · rw [otherFiles, files]
    simp [global, other]
  · rw [Setting.inFile_of_ok _ (ofFile_divided_outer _)]
    rfl

/-- With the home in the root directory the global file is last, and the file in `/w` decides. -/
theorem global_file_precedence_divided :
    ¬ (divided ⟨"/"⟩).GlobalOverrules ⟨"/w/src"⟩ ∧
    ((divided ⟨"/"⟩).otherFiles ⟨"/w/src"⟩).findSome? (Setting.collapse.inFile (divided ⟨"/"⟩)) =
      some false := by
  have global : (divided ⟨"/"⟩).isGlobal ((⟨"/"⟩ : Path).child settingsFileName) :=
    isGlobal_iff.mpr ⟨_, rfl, Path.same_refl _⟩
  have other : (divided ⟨"/"⟩).isGlobal ((⟨"/w"⟩ : Path).child settingsFileName) = false := by
    rw [isGlobal_divided]
    decide
  have files := settingsFiles_divided (by rw [present_divided]; simp) global
  have last : (divided ⟨"/"⟩).GlobalLast ⟨"/w/src"⟩ := by
    intro file member named
    rw [files] at member ⊢
    rcases List.mem_cons.mp member with rfl | rest
    · exact absurd named (by simp [other])
    · rw [List.mem_singleton.mp rest]
      rfl
  have precedence := global_file_precedence (divided ⟨"/"⟩) ⟨"/w/src"⟩
  have fair := precedence.1.mp last
  refine ⟨fair, precedence.2 fair _ (ofDirectory_divided files) Setting.collapse
    ((⟨"/w"⟩ : Path).child settingsFileName) ?_ ?_⟩
  · rw [otherFiles, files]
    simp [other]
  · rw [Setting.inFile_of_ok _ (ofFile_divided_inner _)]
    rfl

end Surroundings
end SearchQuery
