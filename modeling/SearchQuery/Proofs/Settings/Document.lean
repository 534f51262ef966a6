import SearchQuery.Proofs.Settings.Load
import SearchQuery.Proofs.Settings.Starter

/-!
# The document of settings

The document that is written for settings declares each of them, whatever their values are, and
declares no root. Read as the only file, it restores the settings it was written for; and layout in
front of it makes no difference.
-/
namespace SearchQuery

open Toml (statements skipLayout BareName PlainText)

variable {text : String}

namespace Settings

/-- All settings, and nothing about the root. -/
def declared (settings : Settings) : Declared where
  output := some ⟨some settings.format⟩
  parser := some ⟨some settings.collapse⟩
  log := some ⟨some settings.level⟩

/-- A text is read as these settings, whatever its path is, and restores them where it is the only
file that applies. -/
structure RestoredBy (settings : Settings) (text : String) : Prop where
  declares : ∀ path, Declared.ofText path text = .ok settings.declared
  loads : ∀ (s : Surroundings) (path : Path), s.store.readText s.here path = .ok text →
    Effective.ofFiles s [path] = .ok ⟨settings, path.parent?⟩

/-- The table that a document of settings builds. -/
def entries (settings : Settings) : Toml.Entries := [
  ("output", .table .header [("format", .text settings.format.name)]),
  ("parser", .table .header [("simplify", .boolean settings.collapse)]),
  ("log", .table .header [("level", .text settings.level.name)])]

theorem toList_document (settings : Settings) : settings.document.toList =
    '[' :: ("output".toList ++ ']' :: '\n' ::
      ("format".toList ++ ' ' :: '=' :: ' ' :: '"' :: (settings.format.name.toList ++ '"' :: '\n' ::
    '\n' :: '[' :: ("parser".toList ++ ']' :: '\n' ::
      ("simplify".toList ++ ' ' :: '=' :: ' ' :: (Toml.truthText settings.collapse ++ '\n' ::
    '\n' :: '[' :: ("log".toList ++ ']' :: '\n' ::
      ("level".toList ++ ' ' :: '=' :: ' ' :: '"' :: (settings.level.name.toList ++ '"' :: '\n' ::
    []))))))))) := by
  have truth : (if settings.collapse then "true" else "false").toList =
      Toml.truthText settings.collapse := by
    cases settings.collapse <;> rfl
  delta document
  simp only [String.toList_append, truth, List.append_assoc]
  rfl

theorem plainText_of_all {text : List Char} (written : text ≠ [])
    (plain : text.all (fun c => Toml.isVisible c && c ≠ '"' && c ≠ '\\') = true) :
    PlainText text := by
  refine ⟨written, fun c member => ?_⟩
  simpa [and_assoc] using List.all_eq_true.mp plain c member

theorem plainText_format (format : Format) : PlainText format.name.toList := by
  cases format <;> exact plainText_of_all (by decide) (by decide)

theorem plainText_level (level : Level) : PlainText level.name.toList := by
  cases level <;> exact plainText_of_all (by decide) (by decide)

theorem statements_feed (cs : List Char) : statements ('\n' :: cs) = statements cs :=
  Toml.statements_congr (Toml.skipLayout_feed cs)

theorem statements_document (settings : Settings) : statements settings.document.toList = some [
    .openTable ⟨[], "output"⟩, .assign ⟨[], "format"⟩ (.text settings.format.name),
    .openTable ⟨[], "parser"⟩, .assign ⟨[], "simplify"⟩ (.boolean settings.collapse),
    .openTable ⟨[], "log"⟩, .assign ⟨[], "level"⟩ (.text settings.level.name)] := by
  have names : ∀ name ∈ ["output", "format", "parser", "simplify", "log", "level"],
      BareName name.toList := by
    have bare : ["output", "format", "parser", "simplify", "log", "level"].all (fun name =>
      name.toList ≠ [] && name.toList.all Toml.isBareKey) = true := by decide
    intro name member
    have name_bare := List.all_eq_true.mp bare name member
    simp only [Bool.and_eq_true, decide_eq_true_eq] at name_bare
    exact ⟨name_bare.1, name_bare.2⟩
  rw [toList_document, Toml.statements_header_line (names "output" (by simp)),
    Toml.statements_text_line (names "format" (by simp)) (plainText_format _), statements_feed,
    Toml.statements_header_line (names "parser" (by simp)),
    Toml.statements_truth_line (names "simplify" (by simp)), statements_feed,
    Toml.statements_header_line (names "log" (by simp)),
    Toml.statements_text_line (names "level" (by simp)) (plainText_level _), Toml.statements_nil]
  simp only [Option.map_some, String.ofList_toList]

theorem ofName?_format (format : Format) : Format.ofName? format.name = some format := by
  cases format <;> rfl

theorem ofName?_level (level : Level) : Level.ofName? level.name = some level := by
  cases level <;> rfl

theorem ofEntries?_entries (settings : Settings) :
    Declared.ofEntries? settings.entries = some settings.declared := by
  have format : Declared.choice? Format.ofName? (.text settings.format.name) =
      some settings.format := ofName?_format _
  have level : Declared.choice? Level.ofName? (.text settings.level.name) =
      some settings.level := ofName?_level _
  have output : Declared.entry? "output" (Declared.setting? "format"
      (Declared.choice? Format.ofName?)) settings.entries = some (some (some settings.format)) := by
    change ((Declared.choice? Format.ofName? (.text settings.format.name)).map some).map some = _
    rw [format]
    rfl
  have log : Declared.entry? "log" (Declared.setting? "level"
      (Declared.choice? Level.ofName?)) settings.entries = some (some (some settings.level)) := by
    change ((Declared.choice? Level.ofName? (.text settings.level.name)).map some).map some = _
    rw [level]
    rfl
  have root : Declared.entry? "root" Declared.boolean? settings.entries = some none := rfl
  have parser : Declared.entry? "parser" (Declared.setting? "simplify" Declared.boolean?)
    settings.entries = some (some (some settings.collapse)) := rfl
  rw [Declared.ofEntries?, root, output, parser, log]
  rfl

/-- A text restores the settings if the statements in it are those of their document. -/
theorem restoredBy_of_statements {settings : Settings}
    (plain : Toml.withoutMark text.toList = text.toList)
    (same : statements text.toList = statements settings.document.toList) :
    settings.RestoredBy text := by
  have read : Toml.read text = some settings.entries :=
    Toml.read_of_statements plain (same.trans settings.statements_document) rfl
  have declares : ∀ path, Declared.ofText path text = .ok settings.declared := by
    intro path
    rw [Declared.ofText, Declared.ofDocument?, read]
    simp only [Option.bind_eq_bind, Option.bind_some, ofEntries?_entries]
  refine ⟨declares, ?_⟩
  intro s path found
  have loaded : Declared.ofFile s path = .ok settings.declared := by
    rw [Declared.ofFile, found]
    exact declares path
  rw [Effective.ofFiles_eq, Effective.readAll_cons, loaded]
  rfl

theorem not_restoredBy_of_statements {settings : Settings}
    (plain : Toml.withoutMark text.toList = text.toList) (malformed : statements text.toList = none) :
    ¬ settings.RestoredBy text := by
  have unread : Toml.read text = none := by
    rw [Toml.read, plain, malformed]
    rfl
  intro restored
  have declares := restored.declares ⟨""⟩
  rw [Declared.ofText, Declared.ofDocument?, unread] at declares
  cases declares

end Settings
end SearchQuery
