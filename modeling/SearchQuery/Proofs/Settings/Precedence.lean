import SearchQuery.Proofs.Settings.Global
import SearchQuery.Proofs.Settings.Load

/-!
# The first file decides

Loading goes through the files from the first. It fails with the error of the first that cannot be
read or is malformed, whatever comes behind it. If there is none, every setting has the value of the
first file that has its key in its section, and its default if no file has. A file in which the
section is missing or empty decides nothing about that setting, but may decide the others.
-/
namespace SearchQuery

/-- Where a document declares a setting: the section, the key in it, and how a value is written. -/
structure Entry (α : Type) where
  table : String
  key : String
  value? : Toml.Item → Option α

namespace Entry

variable {α : Type}

def format : Entry Format := ⟨"output", "format", Declared.choice? Format.ofName?⟩

def collapse : Entry Bool := ⟨"parser", "simplify", Declared.boolean?⟩

def level : Entry Level := ⟨"log", "level", Declared.choice? Level.ofName?⟩

/-- The document at the path has the section, and the section has the key with this value. -/
def Sets (entry : Entry α) (s : Surroundings) (path : Path) (value : α) : Prop :=
  ∃ document entries item, s.store.readText s.here path = .ok document ∧
    Toml.read document = some entries ∧ entries.get? entry.table = some item ∧
    Declared.setting? entry.key entry.value? item = some (some value)

/-- The value that a list of files gives to a setting with this default. -/
inductive Decides (entry : Entry α) (s : Surroundings) (default : α) : List Path → α → Prop
  | first {front rest : List Path} {path : Path} {value : α}
    (silent : ∀ earlier ∈ front, ∀ other, ¬ entry.Sets s earlier other)
    (sets : entry.Sets s path value) : Decides entry s default (front ++ path :: rest) value
  | default {paths : List Path} (silent : ∀ path ∈ paths, ∀ other, ¬ entry.Sets s path other) :
    Decides entry s default paths default

/-- What a document declares of the setting is what it holds there. -/
def Places (entry : Entry α) (setting : Setting α) : Prop :=
  ∀ entries declared, Declared.ofEntries? entries = some declared →
    setting.declared declared =
      ((entries.get? entry.table).bind (Declared.setting? entry.key entry.value?)).join

end Entry

namespace Surroundings

variable {s : Surroundings} {path : Path} {err : SettingsError}

/-- The file can be read and is well-formed. -/
def Loads (s : Surroundings) (path : Path) : Prop :=
  ∃ document declared, s.store.readText s.here path = .ok document ∧
    Declared.ofDocument? document = some declared

/-- The file cannot be read, or what it holds is malformed. -/
inductive Fails (s : Surroundings) (path : Path) : SettingsError → Prop
  | unreadable {refusal : Refusal} (refused : s.store.readText s.here path = .error refusal) :
    Fails s path (.unreadable path refusal)
  | malformed {document : String} (read : s.store.readText s.here path = .ok document)
    (wrong : Declared.ofDocument? document = none) : Fails s path (.malformed path)

theorem loads_iff : s.Loads path ↔ ∃ declared, Declared.ofFile s path = .ok declared := by
  rw [Loads, Declared.ofFile]
  cases s.store.readText s.here path with
  | error refusal => simp
  | ok document => cases holds : Declared.ofDocument? document <;> simp [Declared.ofText, holds]

theorem fails_iff : s.Fails path err ↔ Declared.ofFile s path = .error err := by
  rw [Declared.ofFile]
  constructor
  · rintro (⟨refused⟩ | ⟨read, wrong⟩)
    · rw [refused]
    · rw [read]
      simp only [Declared.ofText, wrong]
  · intro failed
    cases read : s.store.readText s.here path with
    | error refusal =>
      rw [read] at failed
      cases failed
      exact .unreadable read
    | ok document =>
      simp only [read, Declared.ofText] at failed
      cases wrong : Declared.ofDocument? document with
      | some declared => rw [wrong] at failed; cases failed
      | none =>
        rw [wrong] at failed
        cases failed
        exact .malformed read wrong

theorem exists_first_failure (s : Surroundings) (paths : List Path) :
    (∀ path ∈ paths, s.Loads path) ∨ ∃ front path rest err, paths = front ++ path :: rest ∧
      (∀ earlier ∈ front, s.Loads earlier) ∧ s.Fails path err := by
  induction paths with
  | nil => exact .inl (List.forall_mem_nil _)
  | cons first paths ih =>
    cases loaded : Declared.ofFile s first with
    | error err =>
      exact .inr ⟨[], first, paths, err, rfl, List.forall_mem_nil _, fails_iff.mpr loaded⟩
    | ok declared =>
      have loads : s.Loads first := loads_iff.mpr ⟨declared, loaded⟩
      rcases ih with all | ⟨front, path, rest, err, rfl, before, fails⟩
      · exact .inl (List.forall_mem_cons.mpr ⟨loads, all⟩)
      · exact .inr ⟨first :: front, path, rest, err, rfl,
          List.forall_mem_cons.mpr ⟨loads, before⟩, fails⟩

end Surroundings

/-! ### What a document says about a setting -/

namespace Declared

variable {α : Type} {entries : Toml.Entries}

theorem join_of_entry {name : String} {read : Toml.Item → Option (Option α)}
    {held : Option (Option α)} (found : entry? name read entries = some held) :
    held.join = ((entries.get? name).bind read).join := by
  unfold entry? at found
  cases there : entries.get? name with
  | none =>
    rw [there] at found
    cases found
    rfl
  | some item =>
    rw [there] at found
    obtain ⟨value, written, rfl⟩ := Option.map_eq_some_iff.mp found
    rw [Option.bind_some, written]

theorem ofEntries?_eq_some {declared : Declared} (read : ofEntries? entries = some declared) :
    ∃ output parser log,
      entry? "output" (setting? "format" (choice? Format.ofName?)) entries = some output ∧
      entry? "parser" (setting? "simplify" boolean?) entries = some parser ∧
      entry? "log" (setting? "level" (choice? Level.ofName?)) entries = some log ∧
      declared.output = output.map .mk ∧ declared.parser = parser.map .mk ∧
      declared.log = log.map .mk := by
  simp only [ofEntries?, Option.bind_eq_bind, Option.bind_eq_some_iff] at read
  obtain ⟨root, -, output, hasOutput, parser, hasParser, log, hasLog, rest⟩ := read
  split at rest
  · cases rest
    exact ⟨output, parser, log, hasOutput, hasParser, hasLog, rfl, rfl, rfl⟩
  · cases rest

theorem setting?_of_isEmpty (name : String) (read : Toml.Item → Option α) {item : Toml.Item}
    (empty : isEmpty item) : setting? name read item = some none := by
  unfold isEmpty at empty
  split at empty
  · rw [List.isEmpty_iff.mp empty, setting?]
  · rw [List.isEmpty_iff.mp empty]
    simp [setting?, unknownInRange, Toml.Entries.get?]
  · cases empty

end Declared

namespace Entry

variable {α : Type} {entry : Entry α} {setting : Setting α} {s : Surroundings} {path : Path}
  {paths : List Path} {value default : α}

theorem format_places : format.Places .format := by
  intro entries declared read
  obtain ⟨output, -, -, held, -, -, written, -, -⟩ := Declared.ofEntries?_eq_some read
  change declared.output.bind (·.format) = _
  rw [written]
  exact Eq.trans (by cases output <;> rfl) (Declared.join_of_entry held)

theorem collapse_places : collapse.Places .collapse := by
  intro entries declared read
  obtain ⟨-, parser, -, -, held, -, -, written, -⟩ := Declared.ofEntries?_eq_some read
  change declared.parser.bind (·.collapse) = _
  rw [written]
  exact Eq.trans (by cases parser <;> rfl) (Declared.join_of_entry held)

theorem level_places : level.Places .level := by
  intro entries declared read
  obtain ⟨-, -, log, -, -, held, -, -, written⟩ := Declared.ofEntries?_eq_some read
  change declared.log.bind (·.level) = _
  rw [written]
  exact Eq.trans (by cases log <;> rfl) (Declared.join_of_entry held)

theorem sets_iff (places : entry.Places setting) (loads : s.Loads path) :
    entry.Sets s path value ↔ setting.inFile s path = some value := by
  obtain ⟨document, declared, text, holds⟩ := loads
  obtain ⟨entries, read, declares⟩ := Option.bind_eq_some_iff.mp holds
  have loaded : Declared.ofFile s path = .ok declared := by
    simp only [Declared.ofFile, text, Declared.ofText, holds]
  rw [setting.inFile_of_ok loaded, places entries declared declares, Sets]
  simp [text, read, Option.join_eq_some_iff, Option.bind_eq_some_iff]

theorem silent_iff (places : entry.Places setting) (loads : ∀ path ∈ paths, s.Loads path) :
    (∀ path ∈ paths, ∀ other, ¬ entry.Sets s path other) ↔
      ∀ path ∈ paths, setting.inFile s path = none := by
  refine forall₂_congr fun path member => ?_
  rw [Option.eq_none_iff_forall_ne_some]
  exact forall_congr' fun other => not_congr (sets_iff places (loads path member))

theorem not_sets_of_empty {document : String} {entries : Toml.Entries}
    (text : s.store.readText s.here path = .ok document) (read : Toml.read document = some entries)
    (empty : ∀ item, entries.get? entry.table = some item → Declared.isEmpty item) :
    ¬ entry.Sets s path value := by
  rintro ⟨document', entries', item, text', read', found, sets⟩
  cases text.symm.trans text'
  cases read.symm.trans read'
  cases (Declared.setting?_of_isEmpty _ _ (empty item found)).symm.trans sets

theorem decides_iff (places : entry.Places setting) (loads : ∀ path ∈ paths, s.Loads path) :
    entry.Decides s default paths value ↔
      value = (paths.findSome? (setting.inFile s)).getD default := by
  constructor
  · intro decides
    cases decides with
    | first silent sets =>
      obtain ⟨before, behind⟩ := List.forall_mem_append.mp loads
      have here := (List.forall_mem_cons.mp behind).1
      have front := List.findSome?_eq_none_iff.mpr ((silent_iff places before).mp silent)
      rw [List.findSome?_append, front, List.findSome?_cons, (sets_iff places here).mp sets]
      rfl
    | default silent =>
      rw [List.findSome?_eq_none_iff.mpr ((silent_iff places loads).mp silent), Option.getD_none]
  · rintro rfl
    cases found : paths.findSome? (setting.inFile s) with
    | none =>
      exact .default ((silent_iff places loads).mpr (List.findSome?_eq_none_iff.mp found))
    | some value =>
      obtain ⟨front, path, rest, rfl, sets, silent⟩ := List.findSome?_eq_some_iff.mp found
      obtain ⟨before, behind⟩ := List.forall_mem_append.mp loads
      have here := (List.forall_mem_cons.mp behind).1
      exact .first ((silent_iff places before).mpr silent) ((sets_iff places here).mpr sets)

theorem Decides.unique {value' : α} (decides : entry.Decides s default paths value)
    (decides' : entry.Decides s default paths value') (places : entry.Places setting)
    (loads : ∀ path ∈ paths, s.Loads path) : value = value' := by
  rw [(decides_iff places loads).mp decides, (decides_iff places loads).mp decides']

end Entry

/-! ### Loading -/

namespace Effective

open Surroundings

variable {s : Surroundings} {path : Path} {paths : List Path} {e : Effective} {err : SettingsError}

theorem exists_readAll (loads : ∀ path ∈ paths, s.Loads path) :
    ∃ files, readAll s paths = .ok files := by
  induction paths with
  | nil => exact ⟨[], rfl⟩
  | cons path paths ih =>
    obtain ⟨first, others⟩ := List.forall_mem_cons.mp loads
    obtain ⟨declared, loaded⟩ := loads_iff.mp first
    obtain ⟨files, read⟩ := ih others
    rw [readAll_cons, loaded, read]
    exact ⟨_, rfl⟩

theorem ofFiles_of_fails {front : List Path} (before : ∀ earlier ∈ front, s.Loads earlier)
    (fails : s.Fails path err) (rest : List Path) :
    ofFiles s (front ++ path :: rest) = .error err := by
  obtain ⟨files, read⟩ := exists_readAll before
  rw [ofFiles_eq, readAll_append, readAll_cons, read, fails_iff.mp fails]
  rfl

theorem ofFiles_eq_error_iff : ofFiles s paths = .error err ↔
    ∃ front path rest, paths = front ++ path :: rest ∧
      (∀ earlier ∈ front, s.Loads earlier) ∧ s.Fails path err := by
  constructor
  · intro failed
    rcases s.exists_first_failure paths with all | ⟨front, path, rest, first, rfl, before, fails⟩
    · obtain ⟨files, read⟩ := exists_readAll all
      rw [ofFiles_eq, read] at failed
      cases failed
    · cases failed.symm.trans (ofFiles_of_fails before fails rest)
      exact ⟨front, path, rest, rfl, before, fails⟩
  · rintro ⟨front, path, rest, rfl, before, fails⟩
    exact ofFiles_of_fails before fails rest

theorem root_of_ok (ok : ofFiles s paths = .ok e) : e.root = paths.head?.bind (·.parent?) := by
  obtain ⟨files, read, rfl⟩ := ofFiles_eq_ok_iff.mp ok
  obtain ⟨rfl, -⟩ := readAll_eq_ok_iff.mp read
  cases files <;> rfl

/-- What the files say, the first that says something deciding. -/
structure Decided (s : Surroundings) (paths : List Path) (e : Effective) : Prop where
  format : Entry.format.Decides s .tree paths e.settings.format
  collapse : Entry.collapse.Decides s true paths e.settings.collapse
  level : Entry.level.Decides s .warn paths e.settings.level
  root : e.root = paths.head?.bind (·.parent?)

theorem decided_of_ok (loads : ∀ path ∈ paths, s.Loads path) (ok : ofFiles s paths = .ok e) :
    Decided s paths e where
  format := (Entry.decides_iff Entry.format_places loads).mpr (inForce_of_ok .format ok)
  collapse := (Entry.decides_iff Entry.collapse_places loads).mpr (inForce_of_ok .collapse ok)
  level := (Entry.decides_iff Entry.level_places loads).mpr (inForce_of_ok .level ok)
  root := root_of_ok ok

theorem Decided.unique {e' : Effective} (loads : ∀ path ∈ paths, s.Loads path)
    (decided : Decided s paths e) (decided' : Decided s paths e') : e = e' := by
  have format := decided.format.unique decided'.format Entry.format_places loads
  have collapse := decided.collapse.unique decided'.collapse Entry.collapse_places loads
  have level := decided.level.unique decided'.level Entry.level_places loads
  have root := decided.root.trans decided'.root.symm
  obtain ⟨⟨_, _, _⟩, _⟩ := e
  obtain ⟨⟨_, _, _⟩, _⟩ := e'
  cases format
  cases collapse
  cases level
  cases root
  rfl

theorem ofFiles_eq_ok_iff_decided :
    ofFiles s paths = .ok e ↔ (∀ path ∈ paths, s.Loads path) ∧ Decided s paths e := by
  constructor
  · intro ok
    have loads : ∀ path ∈ paths, s.Loads path :=
      fun path member => loads_iff.mpr (loaded_of_mem ok member)
    exact ⟨loads, decided_of_ok loads ok⟩
  · rintro ⟨loads, decided⟩
    obtain ⟨files, read⟩ := exists_readAll loads
    have ok : ofFiles s paths = .ok (ofDeclared files) := ofFiles_eq_ok_iff.mpr ⟨files, read, rfl⟩
    rw [decided.unique loads (decided_of_ok loads ok), ok]

/-- Loading fails with the error of the first file that fails, whatever the files behind it are. It
succeeds if no file fails, and then the first file that sets a setting decides it, each setting for
itself; a file whose section for it is missing or empty does not set it. -/
theorem ofFiles_first_decides (s : Surroundings) (paths : List Path) :
    (∀ err, ofFiles s paths = .error err ↔ ∃ front path rest, paths = front ++ path :: rest ∧
      (∀ earlier ∈ front, s.Loads earlier) ∧ s.Fails path err) ∧
    (∀ e, ofFiles s paths = .ok e ↔ (∀ path ∈ paths, s.Loads path) ∧ Decided s paths e) ∧
    ∀ (α : Type) (entry : Entry α) path document entries,
      s.store.readText s.here path = .ok document → Toml.read document = some entries →
        (∀ item, entries.get? entry.table = some item → Declared.isEmpty item) →
          ∀ value, ¬ entry.Sets s path value := by
  refine ⟨fun err => ofFiles_eq_error_iff, fun e => ofFiles_eq_ok_iff_decided, ?_⟩
  intro α entry path document entries text read empty value
  exact Entry.not_sets_of_empty text read empty

/-! ### An empty section -/

/-- The nearer file has an empty section, the other one a section that says not to collapse. -/
def emptySection : Surroundings := nested "[parser]\n" (collapseText false) none

theorem read_emptySection : Toml.read "[parser]\n" = some [("parser", .table .header [])] := by
  have header : Toml.BareName "parser".toList := ⟨by decide, by decide⟩
  have lines := Toml.statements_header_line header []
  rw [Toml.statements_nil] at lines
  have text : Toml.withoutMark "[parser]\n".toList =
      '[' :: ("parser".toList ++ ']' :: '\n' :: []) := rfl
  exact Toml.read_of_statements text lines rfl

theorem readText_emptySection :
    emptySection.store.readText emptySection.here ((⟨"/w"⟩ : Path).child settingsFileName) =
      .ok "[parser]\n" ∧
    emptySection.store.readText emptySection.here ((⟨"/"⟩ : Path).child settingsFileName) =
      .ok (collapseText false) :=
  ⟨readText_nested_inner _ _ _, readText_nested_outer _ _ _⟩

theorem loads_emptySection : emptySection.Loads ((⟨"/w"⟩ : Path).child settingsFileName) ∧
    emptySection.Loads ((⟨"/"⟩ : Path).child settingsFileName) := by
  constructor
  · refine ⟨_, { parser := some {} }, readText_emptySection.1, ?_⟩
    rw [Declared.ofDocument?, read_emptySection]
    rfl
  · exact ⟨_, _, readText_emptySection.2, ofDocument?_collapseText false⟩

theorem emptySection_silent {α : Type} (entry : Entry α) (other : entry.table ≠ "parser")
    (value : α) : ¬ entry.Sets emptySection ((⟨"/w"⟩ : Path).child settingsFileName) value ∧
      ¬ entry.Sets emptySection ((⟨"/"⟩ : Path).child settingsFileName) value := by
  have differs : (entry.table == "parser") = false := beq_false_of_ne other
  constructor
  · refine Entry.not_sets_of_empty readText_emptySection.1 read_emptySection ?_
    simp [Toml.Entries.get?, List.lookup_cons, differs]
  · refine Entry.not_sets_of_empty readText_emptySection.2 (read_collapseText false) ?_
    simp [Toml.Entries.get?, List.lookup_cons, differs]

/-- The file behind the empty section decides. A missing file between the two makes loading fail. -/
theorem ofFiles_first_decides_emptySection :
    ofFiles emptySection
      [(⟨"/w"⟩ : Path).child settingsFileName, (⟨"/"⟩ : Path).child settingsFileName] =
        .ok ⟨{ collapse := false }, ((⟨"/w"⟩ : Path).child settingsFileName).parent?⟩ ∧
    ofFiles emptySection
      [(⟨"/w"⟩ : Path).child settingsFileName, (⟨"/w/src"⟩ : Path).child settingsFileName,
        (⟨"/"⟩ : Path).child settingsFileName] =
        .error (.unreadable ((⟨"/w/src"⟩ : Path).child settingsFileName) .missing) := by
  obtain ⟨inner, outer⟩ := loads_emptySection
  constructor
  · have behind : Entry.collapse.Decides emptySection true
        ([(⟨"/w"⟩ : Path).child settingsFileName] ++ [(⟨"/"⟩ : Path).child settingsFileName])
        false := by
      refine .first (List.forall_mem_singleton.mpr ?_)
        ⟨_, _, _, readText_emptySection.2, read_collapseText false, rfl, rfl⟩
      refine (ofFiles_first_decides emptySection []).2.2 Bool .collapse _ _ _
        readText_emptySection.1 read_emptySection ?_
      simp [Toml.Entries.get?, Entry.collapse, Declared.isEmpty]
    refine ((ofFiles_first_decides _ _).2.1 _).mpr ⟨?_, .default ?_, behind, .default ?_, rfl⟩
    · simp [inner, outer]
    · simp [emptySection_silent Entry.format (by decide)]
    · simp [emptySection_silent Entry.level (by decide)]
  · refine ((ofFiles_first_decides _ _).1 _).mpr
      ⟨[_], _, [_], rfl, List.forall_mem_singleton.mpr inner, .unreadable ?_⟩
    have here : emptySection.here = [] := rfl
    rw [Store.readText, here, emptySection, look_nested_innermost]

end Effective
end SearchQuery
