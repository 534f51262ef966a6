import SearchQuery.Path

/-!
# Files and directories

A store says what is entered at each location, a location being the names on the way from the root:
a directory, a link to another path, or a file. A file is entered by its number, since several
locations may be names of the same file.

A path is resolved name by name, and every name but the last must lead to a directory. A link is
followed wherever it stands, the last name included, and `..` leads to the directory that holds the
one reached. Looking, reading and writing all go this way, so a link to a file stands for that file.
There are no rights: what is found can be read, and a file can be written.
-/
namespace SearchQuery

abbrev Location := List String

/-- What is entered at a location. -/
inductive Store.Entry where
  | directory
  | file (number : Nat)
  | link (target : Path)
  deriving DecidableEq, Repr

/-- What is found at a location. The bytes of a `binary` file are no UTF-8 text. -/
inductive Node where
  | directory
  | file (text : String)
  | binary
  | link (target : Path)
  deriving DecidableEq, Repr

namespace Node

/-- A file that holds a text, or bytes that are none. -/
def ofContent : Option String → Node
  | some text => .file text
  | none => .binary

def isFile : Node → Bool
  | file _ | binary => true
  | directory | link _ => false

end Node

def Store.Entry.node (content : Nat → Option String) : Entry → Node
  | directory => .directory
  | file number => .ofContent (content number)
  | link target => .link target

/-- Why the system refuses to look at a path, to read it or to write it. -/
inductive Refusal where
  | missing | notDirectory | isDirectory | nameTooLong | tooManyLinks | zeroByte | notText
  deriving DecidableEq, Repr

def Refusal.message : Refusal → String
  | missing => "No such file or directory (os error 2)"
  | notDirectory => "Not a directory (os error 20)"
  | isDirectory => "Is a directory (os error 21)"
  | nameTooLong => "File name too long (os error 36)"
  | tooManyLinks => "Too many levels of symbolic links (os error 40)"
  | zeroByte => "file name contained an unexpected NUL byte"
  | notText => "stream did not contain valid UTF-8"

/-- The entries, the content of each file, and how many numbers are taken. -/
@[ext]
structure Store where
  entered? : Location → Option Store.Entry
  content : Nat → Option String
  taken : Nat
  numbered : ∀ {location number}, entered? location = some (.file number) → number < taken

namespace Store

def node? (store : Store) (location : Location) : Option Node :=
  (store.entered? location).map (Entry.node store.content)

/-- Whether two locations are names of one file, or are the same. -/
def sameFile (store : Store) (location other : Location) : Bool :=
  location = other ||
    match store.entered? location, store.entered? other with
    | some (.file number), some (.file number') => number = number'
    | _, _ => false

/-- Nothing but the root directory. -/
def empty : Store where
  entered? location := if location = [] then some .directory else none
  content _ := none
  taken := 0
  numbered entered := by split at entered <;> cases entered

/-- Enters a directory, or a link, in the place of what is entered at a location. -/
def enter (store : Store) (location : Location) (entry : Entry)
    (noFile : ∀ number, entry ≠ .file number) : Store where
  entered? other := if other = location then some entry else store.entered? other
  content := store.content
  taken := store.taken
  numbered entered := by
    split at entered
    · exact absurd (Option.some.inj entered) (noFile _)
    · exact store.numbered entered

/-- Enters a new file, which has no other name. -/
def create (store : Store) (location : Location) (content : Option String) : Store where
  entered? other := if other = location then some (.file store.taken) else store.entered? other
  content number := if number = store.taken then content else store.content number
  taken := store.taken + 1
  numbered entered := by
    split at entered
    · cases entered
      exact Nat.lt_succ_self _
    · exact Nat.lt_succ_of_lt (store.numbered entered)

def put (store : Store) (location : Location) : Node → Store
  | .directory => store.enter location .directory (by rintro _ ⟨⟩)
  | .link target => store.enter location (.link target) (by rintro _ ⟨⟩)
  | .file text => store.create location (some text)
  | .binary => store.create location none

/-- Gives a file another content, whatever its names are. -/
def overwrite (store : Store) (number : Nat) (text : String) : Store :=
  { store with content := fun other => if other = number then some text else store.content other }

/-- With this text in the file at a location, which is a new one if none is there. -/
def write (store : Store) (location : Location) (text : String) : Store :=
  match store.entered? location with
  | some (.file number) => store.overwrite number text
  | _ => store.put location (.file text)

/-- With the entries at some locations only. -/
def restrict (store : Store) (kept : Location → Bool) : Store where
  entered? location := if kept location then store.entered? location else none
  content := store.content
  taken := store.taken
  numbered entered := by
    split at entered
    · exact store.numbered entered
    · cases entered

/-- Without what is entered at a location and below it. -/
def remove (store : Store) (location : Location) : Store :=
  store.restrict (!location.isPrefixOf ·)

/-- Makes a directory and those that hold it, as far as nothing is there. -/
def makeDirectory (store : Store) (location : Location) : Store where
  entered? other :=
    if other.isPrefixOf location && (store.entered? other).isNone then some .directory
    else store.entered? other
  content := store.content
  taken := store.taken
  numbered entered := by
    split at entered
    · cases entered
    · exact store.numbered entered

/-! ### Ways -/

/-- The most bytes that a name may have. -/
def nameLimit : Nat := 255

/-- The bytes that a path has to stay below. -/
def pathLimit : Nat := 4096

/-- The most links that are followed on the way to one location. -/
def linkLimit : Nat := 40

/-- The names on the way that a path text describes. A slash at the end asks for a directory. -/
def names (body : List Char) : List String :=
  let parts := Text.split '/' body
  (parts.filter (· ≠ [])).map String.ofList ++ (if parts.getLast? = some [] then ["."] else [])

/-- Where the way starts that a path text describes. -/
def origin (here : Location) (text : List Char) : Location :=
  if text.head? = some '/' then [] else here

/-- How far names lead: to a location, or to a link in a directory, with names left behind it. -/
inductive Stage where
  | place (location : Location)
  | link (here : Location) (target : Path) (rest : List String)
  deriving DecidableEq, Repr

/-- How far names lead from a directory before a link is followed. Whether anything is there is left
open for the last of them. -/
def stage (store : Store) : Location → List String → Except Refusal Stage
  | here, [] => .ok (.place here)
  | here, name :: names =>
    match store.node? here with
    | none => .error .missing
    | some .directory =>
      if name = "." then stage store here names
      else if name = ".." then stage store here.dropLast names
      else if name.utf8ByteSize > nameLimit then .error .nameTooLong
      else match store.node? (here ++ [name]) with
        | some (.link target) => .ok (.link here target names)
        | _ => stage store (here ++ [name]) names
    | some _ => .error .notDirectory

/-- The location that names lead to from a directory if no more than so many links are followed. -/
def walk (store : Store) (links : Nat) (here : Location) (path : List String) :
    Except Refusal Location :=
  match store.stage here path with
  | .error e => .error e
  | .ok (.place location) => .ok location
  | .ok (.link here target rest) =>
    match links with
    | 0 => .error .tooManyLinks
    | links + 1 =>
      walk store links (origin here target.text.toList) (names target.text.toList ++ rest)

/-- The location of a path that is relative to the location `here`. -/
def resolve (store : Store) (here : Location) (p : Path) : Except Refusal Location :=
  let cs := p.text.toList
  if cs = [] then .error .missing
  else if cs.contains '\x00' then .error .zeroByte
  else if p.text.utf8ByteSize ≥ pathLimit then .error .nameTooLong
  else store.walk linkLimit (origin here cs) (names cs)

/-! ### Looking, reading and writing -/

def look (store : Store) (here : Location) (p : Path) : Except Refusal Node :=
  match store.resolve here p with
  | .error e => .error e
  | .ok location =>
    match store.node? location with
    | some node => .ok node
    | none => .error .missing

def isFile (store : Store) (here : Location) (p : Path) : Bool :=
  match store.look here p with
  | .ok node => node.isFile
  | .error _ => false

def isThere (store : Store) (here : Location) (p : Path) : Bool :=
  match store.look here p with
  | .ok _ => true
  | .error _ => false

def readText (store : Store) (here : Location) (p : Path) : Except Refusal String :=
  match store.look here p with
  | .ok (.file text) => .ok text
  | .ok .binary => .error .notText
  | .ok .directory => .error .isDirectory
  | .ok (.link _) => .error .tooManyLinks
  | .error e => .error e

/-- Writes a file anew, in a directory that is there. A write that is refused is refused before it
has changed anything: a file that could be opened is taken to be written to its end. -/
def writeText (store : Store) (here : Location) (p : Path) (text : String) : Except Refusal Store :=
  match store.resolve here p with
  | .error e => .error e
  | .ok location =>
    match store.node? location with
    | some (.file _) | some .binary => .ok (store.write location text)
    | some .directory => .error .isDirectory
    | some (.link _) => .error .tooManyLinks
    | none =>
      match store.node? location.dropLast with
      | some .directory => .ok (store.write location text)
      | some _ => .error .notDirectory
      | none => .error .missing

end Store

/-- The path text of a location. -/
def Location.path (location : Location) : Path := ⟨"/" ++ "/".intercalate location⟩

end SearchQuery
