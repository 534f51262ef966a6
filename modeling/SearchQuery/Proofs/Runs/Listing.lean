import Mathlib.Data.List.TakeWhile
import SearchQuery.Proofs.Runs.Verbosity
import SearchQuery.Proofs.Settings.Discovery
import SearchQuery.Proofs.Settings.Document

/-!
# Reading back what `config` prints

In front of the document of the settings, `config` lists the files that apply, each on a line of its
own behind a number sign. As long as these lines are comments and nothing else, the whole text reads
as the settings. A path is written as it is, so a control character in the name of a directory ends
the comment before the line does, and a line feed ends the line before the path does.
-/
namespace SearchQuery

namespace Toml

variable {c : Char} {cs ds line : List Char} {lines : List (List Char)}

/-- A comment that starts in front of a line says nothing, and is at its end where the line is or at
a line end before that. -/
def Commented (line : List Char) : Prop := skipLayout ('#' :: (line ++ ['\n'])) = []

theorem skipComment_line (line cs : List Char) :
    skipComment (line ++ '\n' :: cs) = skipComment line ++ '\n' :: cs := by
  rw [skipComment, List.dropWhile_append]
  split
  · rename_i visible
    rw [skipComment, List.isEmpty_iff.mp visible]
    rfl
  · rfl

theorem skipLayout_carriage (alone : cs.head? ≠ some '\n') :
    skipLayout ('\r' :: cs) = '\r' :: cs := by
  cases cs with
  | nil => simp [skipLayout]
  | cons d cs =>
    have other : d ≠ '\n' := by simpa using alone
    simp [skipLayout, other]

/-- What is layout up to a line end stays layout in front of anything. -/
theorem skipLayout_line (cs : List Char) (blank : skipLayout (line ++ ['\n']) = []) :
    skipLayout (line ++ '\n' :: cs) = skipLayout cs := by
  fun_induction skipLayout line with
  | case1 line ih | case2 line ih | case3 line ih =>
    rw [List.cons_append, skipLayout] at blank ⊢
    exact ih blank
  | case4 line ih =>
    rw [List.cons_append, List.cons_append, skipLayout] at blank ⊢
    exact ih blank
  | case5 line ih =>
    rw [List.cons_append, skipLayout, skipComment_line] at blank ⊢
    exact ih blank
  | case6 line space tab feed pair sign =>
    cases line with
    | nil => exact skipLayout_feed cs
    | cons c line =>
      by_cases carriage : c = '\r'
      · subst carriage
        cases line with
        | nil => simp [skipLayout]
        | cons d line =>
          have alone : (d :: line ++ ['\n']).head? ≠ some '\n' := by
            rintro ⟨⟩
            exact pair line rfl
          rw [List.cons_append, skipLayout_carriage alone] at blank
          cases blank
      · have written : c ∉ [' ', '\t', '\n', '\r', '#'] := by simp_all
        rw [List.cons_append, skipLayout_of_written written] at blank
        cases blank

theorem Commented.skipLayout_eq (commented : Commented line) (cs : List Char) :
    skipLayout ('#' :: (line ++ '\n' :: cs)) = skipLayout cs := by
  have blank : skipLayout ('#' :: line ++ ['\n']) = [] := commented
  exact skipLayout_line cs blank

theorem Commented.behind_spaces (commented : Commented line) : Commented ("   ".toList ++ line) := by
  have spaces : skipComment ("   ".toList ++ line ++ ['\n']) = skipComment (line ++ ['\n']) := rfl
  rw [Commented, skipLayout] at commented ⊢
  rw [spaces, commented]

theorem commented_of_visible (visible : ∀ c ∈ line, isVisible c) : Commented line := by
  rw [Commented, skipLayout_comment visible]
  simp [skipLayout]

theorem isBareKey_of_control (control : isVisible c = false) : isBareKey c = false := by
  have low : c.toNat < 128 := by
    simp only [isVisible, Bool.or_eq_false_iff, Bool.and_eq_false_iff, decide_eq_false_iff_not,
      not_not] at control
    rcases control.2 with below | rfl
    · exact Nat.lt_trans (Nat.lt_of_not_le below) (by decide : ' '.toNat < 128)
    · decide
  have table : ∀ n < 128, isVisible (Char.ofNat n) = false → isBareKey (Char.ofNat n) = false := by
    decide
  have entry := table c.toNat low
  rw [Char.ofNat_toNat] at entry
  exact entry control

theorem ne_of_control (control : isVisible c = false) (d : Char) (visible : isVisible d = true) :
    c ≠ d := by
  rintro rfl
  rw [visible] at control
  cases control

/-- A character that may stand nowhere in a document, in front of whatever follows. -/
theorem statements_of_control (start : skipLayout cs = c :: ds) (control : isVisible c = false) :
    statements cs = none := by
  have noDouble := ne_of_control control '"' rfl
  have noSingle := ne_of_control control '\'' rfl
  have noBracket := ne_of_control control '[' rfl
  have noKey := isBareKey_of_control control
  have noName : names (c :: ds) = none := by
    rw [names, keyName.eq_4 c ds noDouble noSingle, noKey]
    simp
  have noStatement : statement (c :: ds) = none := by
    rw [statement.eq_3 (c :: ds) (by simp [noBracket]) (by simp [noBracket]), assignment, key, noName]
    simp
  rw [statements_eq, start]
  simp [noStatement]

/-- A line that can be written as it is: it has one end, and that is behind it. -/
structure SingleLine (line : List Char) : Prop where
  unbroken : '\n' ∉ line
  ended : line.getLast? ≠ some '\r'

theorem SingleLine.behind_spaces (single : SingleLine line) : SingleLine ("   ".toList ++ line) := by
  refine ⟨?_, ?_⟩
  · simpa using single.unbroken
  · cases line with
    | nil => decide
    | cons c line =>
      rw [List.getLast?_append_of_ne_nil _ (List.cons_ne_nil c line)]
      exact single.ended

theorem exists_control (whole : SingleLine line) (control : ¬ ∀ c ∈ line, isVisible c)
    (cs : List Char) :
    ∃ c ds, isVisible c = false ∧ skipLayout ('#' :: (line ++ '\n' :: cs)) = c :: ds := by
  have some_left : skipComment line ≠ [] := by
    rwa [skipComment, ne_eq, List.dropWhile_eq_nil_iff]
  obtain ⟨c, rest, behind⟩ := List.exists_cons_of_ne_nil some_left
  have hidden : isVisible c = false := by
    have first : isVisible ((skipComment line).head some_left) = false :=
      List.head_dropWhile_not isVisible some_left
    simpa only [behind, List.head_cons] using first
  obtain ⟨shown, rfl⟩ : c :: rest <:+ line := behind ▸ List.dropWhile_suffix isVisible
  have start : skipLayout ('#' :: (shown ++ c :: rest ++ '\n' :: cs)) =
      skipLayout (c :: (rest ++ '\n' :: cs)) := by
    rw [skipLayout, skipComment_line, behind, List.cons_append]
  refine ⟨c, rest ++ '\n' :: cs, hidden, start.trans ?_⟩
  have noFeed := whole.unbroken
  by_cases carriage : c = '\r'
  · subst carriage
    have last := whole.ended
    refine skipLayout_carriage ?_
    cases rest with
    | nil => simp at last
    | cons d rest =>
      have other : d ≠ '\n' := by rintro rfl; simp at noFeed
      simpa using other
  · refine skipLayout_of_written ?_
    have other : c ≠ '\n' := by rintro rfl; simp at noFeed
    simp [other, carriage, ne_of_control hidden ' ' rfl, ne_of_control hidden '\t' rfl,
      ne_of_control hidden '#' rfl]

/-- Lines with a number sign in front of each. -/
def signed (lines : List (List Char)) : List Char := lines.flatMap fun line => '#' :: (line ++ ['\n'])

theorem signed_cons_append (line : List Char) (lines : List (List Char)) (cs : List Char) :
    signed (line :: lines) ++ cs = '#' :: (line ++ '\n' :: (signed lines ++ cs)) := by
  simp [signed]

theorem skipLayout_signed (commented : ∀ line ∈ lines, Commented line) (cs : List Char) :
    skipLayout (signed lines ++ cs) = skipLayout cs := by
  induction lines with
  | nil => rfl
  | cons line lines ih =>
    obtain ⟨first, others⟩ := List.forall_mem_cons.mp commented
    rw [signed_cons_append, first.skipLayout_eq, ih others]

theorem statements_signed_of_control (whole : ∀ line ∈ lines, SingleLine line)
    (control : ¬ ∀ line ∈ lines, ∀ c ∈ line, isVisible c) (cs : List Char) :
    statements (signed lines ++ cs) = none := by
  induction lines with
  | nil => exact absurd (List.forall_mem_nil _) control
  | cons line lines ih =>
    obtain ⟨first, others⟩ := List.forall_mem_cons.mp whole
    rw [signed_cons_append]
    by_cases visible : ∀ c ∈ line, isVisible c
    · rw [statements_congr ((commented_of_visible visible).skipLayout_eq _)]
      refine ih others fun rest => control ?_
      exact List.forall_mem_cons.mpr ⟨visible, rest⟩
    · obtain ⟨c, ds, hidden, start⟩ := exists_control first visible (signed lines ++ cs)
      exact statements_of_control start hidden

end Toml

theorem Path.getLast?_child (p : Path) {name : String} (written : name.toList ≠ []) :
    (p.child name).text.toList.getLast? = name.toList.getLast? := by
  unfold child
  split
  · rw [String.toList_append, List.getLast?_append_of_ne_nil _ written]
  · rw [String.toList_append, List.getLast?_append_of_ne_nil _ written]

theorem Surroundings.exists_child_of_mem {s : Surroundings} {directory file : Path}
    (member : file ∈ s.settingsFiles directory) : ∃ p : Path, p.child settingsFileName = file := by
  obtain ⟨nearby, behind, files, taken, last⟩ := s.exists_nearby_behind directory
  rw [files] at member
  rcases List.mem_append.mp member with inside | behind
  · obtain ⟨p, -, named⟩ := List.mem_map.mp (taken.order.subset inside)
    exact ⟨p, named⟩
  · have global := ((last.mem_iff file).mp behind).1
    obtain ⟨home, -, named⟩ := Option.map_eq_some_iff.mp global
    exact ⟨home, named⟩

namespace Run

open Toml (Commented SingleLine isVisible signed)

variable {s : Surroundings} {arguments : List String} {verbosity : Nat} {files : List Path}
  {settings : Settings}

/-- What `config` writes in front of the document, behind number signs. -/
def remarks (files : List Path) : List (List Char) :=
  if files.isEmpty then [" no config files found, using defaults".toList]
  else " config files (highest precedence first):".toList ::
    files.map fun file => "   ".toList ++ file.text.toList

theorem toList_configText (files : List Path) (settings : Settings) :
    (configText files settings).toList =
      signed (remarks files) ++ '\n' :: settings.document.toList := by
  unfold configText remarks
  split
  · simp [signed]
  · simp [signed, unlines, String.toList_join, List.flatMap_map]

theorem withoutMark_configText (files : List Path) (settings : Settings) :
    Toml.withoutMark (configText files settings).toList = (configText files settings).toList := by
  rw [toList_configText]
  unfold remarks
  split <;> rfl

theorem forall_remarks {property : List Char → Prop}
    (none_found : property " no config files found, using defaults".toList)
    (heading : property " config files (highest precedence first):".toList) :
    (∀ line ∈ remarks files, property line) ↔
      ∀ file ∈ files, property ("   ".toList ++ file.text.toList) := by
  unfold remarks
  split
  · rename_i empty
    obtain rfl := List.isEmpty_iff.mp empty
    simpa using none_found
  · rw [List.forall_mem_cons, List.forall_mem_map, and_iff_right heading]

/-- The remarks are comments if the paths can stand in one. -/
theorem restoredBy_configText (commented : ∀ file ∈ files, Commented file.text.toList) :
    settings.RestoredBy (configText files settings) := by
  have all : ∀ line ∈ remarks files, Commented line := by
    rw [forall_remarks]
    · intro file member
      exact (commented file member).behind_spaces
    · exact Toml.commented_of_visible (List.all_eq_true.mp (by decide))
    · exact Toml.commented_of_visible (List.all_eq_true.mp (by decide))
  refine Settings.restoredBy_of_statements (withoutMark_configText files settings) ?_
  rw [toList_configText, Toml.statements_congr (Toml.skipLayout_signed all _),
    Settings.statements_feed]

theorem not_restoredBy_configText (whole : ∀ file ∈ files, SingleLine file.text.toList)
    (control : ¬ ∀ file ∈ files, ∀ c ∈ file.text.toList, isVisible c) :
    ¬ settings.RestoredBy (configText files settings) := by
  have single : ∀ line ∈ remarks files, SingleLine line := by
    rw [forall_remarks]
    · intro file member
      exact (whole file member).behind_spaces
    · exact ⟨by decide, by decide⟩
    · exact ⟨by decide, by decide⟩
  have hidden : ¬ ∀ line ∈ remarks files, ∀ c ∈ line, isVisible c := by
    rw [forall_remarks]
    · intro visible
      refine control fun file member c inside => ?_
      exact visible file member c (List.mem_append_right _ inside)
    · exact List.all_eq_true.mp (by decide)
    · exact List.all_eq_true.mp (by decide)
  refine Settings.not_restoredBy_of_statements (withoutMark_configText files settings) ?_
  rw [toList_configText, Toml.statements_signed_of_control single hidden]

theorem stdout_of_config (asks : Invocation.ofArguments? 0 arguments = some ⟨verbosity, .config⟩)
    (succeeds : (run s arguments).code = 0) : ∃ effective,
    Effective.ofDirectory s s.here.path = .ok effective ∧
      (run s arguments).stdout = configText (s.settingsFiles s.here.path) effective.settings := by
  rw [run_of_read asks, invocation, loaded] at succeeds ⊢
  cases loads : context s with
  | error complaint =>
    rw [loads] at succeeds
    cases succeeds
  | ok effective => exact ⟨effective, (context_eq_ok_iff.mp loads).2, rfl⟩

/-- What `config` prints is a document of the settings in force if what stands behind the number
signs is nothing but comments. Unless a path has a line feed in it, that is so exactly if there is
no control character in the paths but the tab. -/
theorem config_reads_back
    (asks : Invocation.ofArguments? 0 arguments = some ⟨verbosity, .config⟩)
    (succeeds : (run s arguments).code = 0) : ∃ effective,
    Effective.ofDirectory s s.here.path = .ok effective ∧
    ((∀ file ∈ s.settingsFiles s.here.path, Commented file.text.toList) →
      effective.settings.RestoredBy (run s arguments).stdout) ∧
    ((∀ file ∈ s.settingsFiles s.here.path, '\n' ∉ file.text.toList) →
      (effective.settings.RestoredBy (run s arguments).stdout ↔
        ∀ file ∈ s.settingsFiles s.here.path, ∀ c ∈ file.text.toList, isVisible c)) := by
  obtain ⟨effective, loads, printed⟩ := stdout_of_config asks succeeds
  rw [printed]
  refine ⟨effective, loads, restoredBy_configText, ?_⟩
  intro unbroken
  constructor
  · intro restored
    by_contra control
    refine not_restoredBy_configText ?_ control restored
    intro file member
    obtain ⟨p, rfl⟩ := Surroundings.exists_child_of_mem member
    refine ⟨unbroken _ member, ?_⟩
    rw [p.getLast?_child (by decide)]
    decide
  · intro visible
    exact restoredBy_configText fun file member => Toml.commented_of_visible (visible file member)

/-- In a directory of this name, which holds a settings file. -/
def named (name : String) : Surroundings where
  store := (Store.empty.put [name] .directory).put [name, Surroundings.settingsFileName]
    (.file "[parser]\nsimplify = false\n")
  home := none
  here := [name]

def punctuated : Surroundings := named "[a] = \"b\" #\té"

/-- Quotes, equals signs, number signs and tabs do no harm, but a carriage return does. -/
theorem config_reads_back_named :
    Settings.RestoredBy { collapse := false } (run punctuated ["-v", "config"]).stdout ∧
    (run (named "a\rb") ["config"]).code = 0 ∧
    ¬ Settings.RestoredBy { collapse := false } (run (named "a\rb") ["config"]).stdout := by
  have asks : Invocation.ofArguments? 0 ["-v", "config"] = some ⟨1, .config⟩ := by decide +kernel
  have asks' : Invocation.ofArguments? 0 ["config"] = some ⟨0, .config⟩ := by decide +kernel
  have succeeds : (run punctuated ["-v", "config"]).code = 0 := by decide +kernel
  have succeeds' : (run (named "a\rb") ["config"]).code = 0 := by decide +kernel
  have files : punctuated.settingsFiles punctuated.here.path =
      [⟨"/[a] = \"b\" #\té/.scoped.toml"⟩] := by decide +kernel
  have files' : (named "a\rb").settingsFiles (named "a\rb").here.path =
      [⟨"/a\rb/.scoped.toml"⟩] := by decide +kernel
  have known : Effective.ofDirectory punctuated punctuated.here.path =
      .ok ⟨{ collapse := false }, some ⟨"/[a] = \"b\" #\té"⟩⟩ := by decide +kernel
  have known' : Effective.ofDirectory (named "a\rb") (named "a\rb").here.path =
      .ok ⟨{ collapse := false }, some ⟨"/a\rb"⟩⟩ := by decide +kernel
  obtain ⟨effective, loads, -, restored⟩ := config_reads_back asks succeeds
  obtain ⟨effective', loads', -, restored'⟩ := config_reads_back asks' succeeds'
  obtain rfl := Except.ok.inj (loads.symm.trans known)
  obtain rfl := Except.ok.inj (loads'.symm.trans known')
  rw [files, List.forall_mem_singleton, List.forall_mem_singleton] at restored
  rw [files', List.forall_mem_singleton, List.forall_mem_singleton] at restored'
  refine ⟨(restored (by decide)).mpr (List.all_eq_true.mp (by decide)), succeeds', ?_⟩
  rw [restored' (by decide), ← List.all_eq_true]
  decide

/-- A line feed in the name of a directory leaves a comment, and what stands behind it is read. -/
theorem config_unread_behind_feed :
    (run (named "a\nb") ["config"]).code = 0 ∧
    Effective.ofDirectory (named "a\nb") (named "a\nb").here.path =
      .ok ⟨{ collapse := false }, some ⟨"/a\nb"⟩⟩ ∧
    Declared.ofDocument? (run (named "a\nb") ["config"]).stdout = none := by
  decide +kernel

end Run
end SearchQuery
