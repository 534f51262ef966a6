import SearchQuery.Command.Grid
import SearchQuery.Command.Invocation
import SearchQuery.Command.Note
import SearchQuery.Settings.Files
import SearchQuery.Settings.Starter
import SearchQuery.Tree.Rendering

/-!
# Runs of a command

A run reads its surroundings and has an outcome: an exit code, the text of its result, the notes
that it writes, and the store that it leaves behind. `init` is the only command that changes the
store. It works when the settings cannot be loaded; only help works without a working directory.

Source: `main` of `scoped`, `CommandContext` with `load` and `load_cwd_only`, the commands `parse`,
`tokens`, `config` and `init`, and `print_trees`.
-/
namespace SearchQuery

structure Outcome where
  code : Nat
  stdout : String
  notes : List Note
  store : Store

def unlines (lines : List String) : String := String.join (lines.map (· ++ "\n"))

def Outcome.stderr (o : Outcome) : String := unlines (o.notes.flatMap Note.lines)

namespace Run

/-- The tree of a query, and the events of reading it. -/
def readQuery (collapse : Bool) (query : String) : List Event × Except ValueExpected Tree :=
  let ts := tokens query
  match Tree.read ts with
  | .error e => ([.reading ts.length, .failed e], .error e)
  | .ok o =>
    ([.reading ts.length, .sequenceRead o.root.children.length] ++
      (if o.unread.isEmpty then [] else [.ignored o.unread.length]),
      .ok (if collapse then o.root.collapse else o.root))

/-- Reads queries up to the first that fails; there are trees only if none does. -/
def readQueries (collapse : Bool) : List String → List Note × Option (List (String × Tree))
  | [] => ([], some [])
  | query :: queries =>
    let (events, result) := readQuery collapse query
    match result with
    | .error e => (events.map .event ++ [.complaint (.query e query)], none)
    | .ok t =>
      let (notes, trees) := readQueries collapse queries
      (events.map .event ++ notes, trees.map ((query, t) :: ·))

/-- Outlines, each under its query if there are several, with an empty line between. -/
def outlines : List (String × Tree) → String
  | [] => ""
  | [(_, t)] => t.outline
  | queries => "\n".intercalate (queries.map fun (query, t) => "# " ++ query ++ "\n" ++ t.outline)

def printed (format : Format) (queries : List (String × Tree)) : String :=
  match format with
  | .json => (Tree.jsonOfQueries queries).text ++ "\n"
  | .sexp => unlines (queries.map (·.2.sexp))
  | .tree => outlines queries

def parse (settings : Settings) (queries : List String) (format : Option Format) (raw : Bool)
    (store : Store) : Outcome :=
  let format := format.getD settings.format
  let collapse := settings.collapse && !raw
  match readQueries collapse queries with
  | (notes, none) => ⟨1, "", notes, store⟩
  | (notes, some trees) =>
    ⟨0, printed format trees, notes ++ [.event (.queriesRead trees.length format collapse)], store⟩

def tokenRow (number : Nat) (token : Token) : Grid.Row :=
  match token with
  | .operator op => [Grid.cell (toString number), Grid.cell "operator", Grid.cell op.name]
  | .literal text => [Grid.cell (toString number), Grid.cell "literal", Grid.cell text]

def tokenLines (ts : List Token) : List String :=
  if ts.isEmpty then ["No tokens."]
  else Grid.lines (["#", "Kind", "Token"].map Grid.cell)
    (List.zipWith tokenRow (List.range' 1 ts.length) ts)

def configText (files : List Path) (settings : Settings) : String :=
  (if files.isEmpty then "# no config files found, using defaults\n"
  else unlines ("# config files (highest precedence first):" ::
    files.map fun file => "#   " ++ file.text)) ++ "\n" ++ settings.document

/-- The working directory, as far as it is still there. -/
def directory (s : Surroundings) : Except Refusal Path :=
  if s.store.node? s.here = some .directory then .ok s.here.path else .error .missing

theorem directory_eq_ok_iff {s : Surroundings} {path : Path} : directory s = .ok path ↔
    s.store.node? s.here = some .directory ∧ s.here.path = path := by
  rw [directory]
  split <;> simp [*]

/-- A run that ends with a complaint, its work undone. -/
def failed (s : Surroundings) (complaint : Complaint) : Outcome :=
  ⟨1, "", [.complaint complaint], s.store⟩

/-- Where `init` writes, and what: the global file if asked for, or if the home directory is the
working directory. -/
def starter? (s : Surroundings) (directory : Path) (global : Bool) : Option (Path × String) :=
  let isHome := match s.globalFile?.bind Path.parent? with
    | some home => home.same directory
    | none => false
  if global || isHome then s.globalFile?.map (·, Starter.globalText)
  else some (directory.child Surroundings.settingsFileName, Starter.localText)

def init (s : Surroundings) (global force : Bool) : Outcome :=
  match directory s with
  | .error refusal => failed s (.directoryUnknown refusal)
  | .ok directory =>
    match starter? s directory global with
    | none => failed s .homeUnknown
    | some (path, text) =>
      if s.store.isThere s.here path && !force then failed s (.alreadyThere path)
      else match s.store.writeText s.here path text with
        | .error refusal => failed s (.unwritable path refusal)
        | .ok store => ⟨0, "Created " ++ path.text ++ "\n", [], store⟩

/-- The settings of the working directory, which is needed whatever they are. -/
def context (s : Surroundings) : Except Complaint Effective :=
  match directory s with
  | .error refusal => .error (.directoryUnknown refusal)
  | .ok directory =>
    match Effective.ofDirectory s directory with
    | .error e => .error (.settings e)
    | .ok effective => .ok effective

theorem context_eq_ok_iff {s : Surroundings} {effective : Effective} :
    context s = .ok effective ↔ s.store.node? s.here = some .directory ∧
      Effective.ofDirectory s s.here.path = .ok effective := by
  rw [context]
  cases there : directory s with
  | error refusal =>
    have gone : s.store.node? s.here ≠ some .directory := fun inside => by
      cases there.symm.trans (directory_eq_ok_iff.mpr ⟨inside, rfl⟩)
    simp [gone]
  | ok path =>
    obtain ⟨inside, rfl⟩ := directory_eq_ok_iff.mp there
    cases loads : Effective.ofDirectory s s.here.path <;> simp [inside, loads]

/-- Works under the settings of the working directory; notes are shown up to the level they set,
raised by `verbosity`. -/
def loaded (s : Surroundings) (verbosity : Nat) (work : Settings → Outcome) : Outcome :=
  match context s with
  | .error complaint => failed s complaint
  | .ok effective =>
    let o := work effective.settings
    { o with notes := o.notes.filter (Note.isShown (effective.settings.level.raised verbosity)) }

def invocation (s : Surroundings) (i : Invocation) : Outcome :=
  match i.command with
  | .help topic => ⟨0, unlines topic.lines, [], s.store⟩
  | .init global force => init s global force
  | .parse queries format raw =>
    loaded s i.verbosity fun settings => parse settings queries format raw s.store
  | .tokens query =>
    loaded s i.verbosity fun _ => ⟨0, unlines (tokenLines (tokens query)), [], s.store⟩
  | .config =>
    loaded s i.verbosity fun settings =>
      ⟨0, configText (s.settingsFiles s.here.path) settings, [], s.store⟩

end Run

/-- Runs the program with its arguments. -/
def run (s : Surroundings) (arguments : List String) : Outcome :=
  match Invocation.ofArguments? 0 arguments with
  | none => ⟨2, "", [.complaint .usage], s.store⟩
  | some i => Run.invocation s i

end SearchQuery
