import SearchQuery.Settings.Declared
import SearchQuery.Store

/-!
# Settings files

The files that apply to a directory are the one in it and those in the directories above, the
nearest first, up to a file that declares itself the root; if there is no such file, the one in the
home directory comes last. A file that cannot be read applies, and fails when it is loaded.

Source: `parse_config_file`, `discover_config_files`, `global_config_path`, `is_global_config`,
`merge_configs`, and `Config` with `load` and `load_from_files`, all of `scoped-config`.
-/
namespace SearchQuery

/-- The files there are, the home directory, and the location that relative paths start from. -/
structure Surroundings where
  store : Store
  home : Option Path
  here : Location

/-- Why a settings file cannot be loaded. -/
inductive SettingsError where
  | unreadable (path : Path) (refusal : Refusal)
  | malformed (path : Path)
  deriving DecidableEq, Repr

namespace SettingsError

def path : SettingsError → Path
  | unreadable path _ | malformed path => path

def message : SettingsError → String
  | unreadable path refusal =>
    "failed to read config file " ++ path.text ++ ": " ++ refusal.message
  | malformed path => "failed to parse config file " ++ path.text ++ ": not a settings document"

end SettingsError

namespace Declared

def ofText (path : Path) (document : String) : Except SettingsError Declared :=
  match ofDocument? document with
  | some declared => .ok declared
  | none => .error (.malformed path)

def ofFile (s : Surroundings) (path : Path) : Except SettingsError Declared :=
  match s.store.readText s.here path with
  | .ok document => ofText path document
  | .error refusal => .error (.unreadable path refusal)

end Declared

namespace Surroundings

def settingsFileName : String := ".scoped.toml"

/-- The settings file of the home directory. -/
def globalFile? (s : Surroundings) : Option Path := s.home.map (·.child settingsFileName)

def isGlobal (s : Surroundings) (path : Path) : Bool :=
  match s.globalFile? with
  | some file => path.same file
  | none => false

def isFile (s : Surroundings) (path : Path) : Bool := s.store.isFile s.here path

/-- Whether a settings file keeps the files above it from being applied. -/
def isRoot (s : Surroundings) (path : Path) : Bool :=
  match Declared.ofFile s path with
  | .ok declared => declared.root = some true
  | .error _ => false

/-- The settings files in the directories, as far as the first that is a root; and whether there is
one. -/
def localFiles (s : Surroundings) : List Path → List Path × Bool
  | [] => ([], false)
  | directory :: above =>
    let file := directory.child settingsFileName
    if s.isFile file then
      if s.isRoot file then ([file], true)
      else
        let (files, rooted) := localFiles s above
        (file :: files, rooted)
    else localFiles s above

/-- The settings files that apply to a directory, the one that takes precedence first. -/
def settingsFiles (s : Surroundings) (directory : Path) : List Path :=
  let (files, rooted) := s.localFiles directory.ancestors
  match s.globalFile? with
  | some file =>
    if !rooted && s.isFile file && !files.any (file.same ·) then files ++ [file] else files
  | none => files

end Surroundings

/-! ### Effective settings

Of several files, the first that declares a setting decides it; what no file declares has its
default. Loading fails at the first file that cannot be read or is malformed.
-/

/-- The settings in force, and the directory of the file that takes precedence. -/
structure Effective where
  settings : Settings := {}
  root : Option Path := none
  deriving DecidableEq, Repr

namespace Effective

/-- What is declared takes the place of what was in force. -/
def override (s : Settings) (d : Declared) : Settings where
  format := (d.output.bind (·.format)).getD s.format
  collapse := (d.parser.bind (·.collapse)).getD s.collapse
  level := (d.log.bind (·.level)).getD s.level

/-- Combines files, the one that takes precedence first. -/
def ofDeclared (files : List (Path × Declared)) : Effective where
  settings := files.foldr (fun file s => override s file.2) {}
  root := files.head?.bind (·.1.parent?)

def ofFiles (s : Surroundings) (paths : List Path) : Except SettingsError Effective :=
  (paths.mapM fun path => (Declared.ofFile s path).map (path, ·)).map ofDeclared

def ofDirectory (s : Surroundings) (directory : Path) : Except SettingsError Effective :=
  ofFiles s (s.settingsFiles directory)

end Effective
end SearchQuery
