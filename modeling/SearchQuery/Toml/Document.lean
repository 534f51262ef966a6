import SearchQuery.Toml.Value

/-!
# Documents

A document is a sequence of lines. A line holds a header, a pair of key and value, or nothing, and
may end in a comment; a value may run over several lines. A byte order mark may stand in front.
These are the documents of TOML 1.1, as far as `parse_config_str` tells them apart.
-/
namespace SearchQuery.Toml

inductive Statement where
  | openTable (key : Key)
  | openElement (key : Key)
  | assign (key : Key) (value : Item)

/-- The key of a header behind its opening brackets. -/
def headerKey (cs : List Char) : Option (Read Key cs) :=
  (key (skipSpace cs)).map (·.lift (length_skipSpace cs))

def header (cs : List Char) : Option (Read Statement cs) := do
  let name ← headerKey cs
  match h : skipSpace name.rest with
  | ']' :: ds => return ⟨.openTable name.value, ds, name.length_of_skipSpace h⟩
  | _ => none

def elementHeader (cs : List Char) : Option (Read Statement cs) := do
  let name ← headerKey cs
  match h : skipSpace name.rest with
  | ']' :: ']' :: ds =>
    return ⟨.openElement name.value, ds, Nat.lt_of_succ_lt (name.length_of_skipSpace h)⟩
  | _ => none

def assignment (cs : List Char) : Option (Read Statement cs) := do
  let name ← key cs
  match h : skipSpace name.rest with
  | '=' :: ds =>
    have le := Nat.le_trans (length_skipSpace ds) (Nat.le_of_lt (name.length_of_skipSpace h))
    (value depthLimit (skipSpace ds)).map fun r => (r.map (.assign name.value)).lift le
  | _ => none

def statement : (cs : List Char) → Option (Read Statement cs)
  | '[' :: '[' :: cs => (elementHeader cs).map fun r => (r.behind '[').behind '['
  | '[' :: cs => (header cs).map (·.behind '[')
  | cs => assignment cs

/-- What follows on the line of a statement has to be a comment, a line end or the end. -/
def afterStatement : List Char → Option (List Char)
  | [] => some []
  | '\n' :: cs => some cs
  | '\r' :: '\n' :: cs => some cs
  | '#' :: cs => some (skipComment cs)
  | _ => none

theorem length_afterStatement {cs rest : List Char} (h : afterStatement cs = some rest) :
    rest.length ≤ cs.length := by
  unfold afterStatement at h
  split at h
  · simp_all
  · simp_all only [Option.some.injEq, List.length_cons]; omega
  · simp_all only [Option.some.injEq, List.length_cons]; omega
  · rename_i ds
    have := length_skipComment ds
    simp_all only [Option.some.injEq, List.length_cons]
    omega
  · simp at h

def statements (cs : List Char) : Option (List Statement) :=
  match h : skipLayout cs with
  | [] => some []
  | c :: ds =>
    match statement (c :: ds) with
    | none => none
    | some s =>
      match h' : afterStatement (skipSpace s.rest) with
      | none => none
      | some rest =>
        have : rest.length < cs.length := by
          have h₁ := length_skipLayout cs
          have h₂ := s.shorter
          have h₃ := length_skipSpace s.rest
          have h₄ := length_afterStatement h'
          rw [h] at h₁
          omega
        (statements rest).map (s.value :: ·)
termination_by cs.length

/-- The table that the statements build, and the header under which the next pairs belong. -/
structure Progress where
  header : List String := []
  entries : Entries := []

def Progress.add (p : Progress) : Statement → Option Progress
  | .openTable k => do
    let entries ← p.entries.within (Entries.openTable k.name) k.path
    return ⟨k.path ++ [k.name], entries⟩
  | .openElement k => do
    let entries ← p.entries.within (Entries.openElement k.name) k.path
    return ⟨k.path ++ [k.name], entries⟩
  | .assign k item => do
    let entries ← p.entries.within (Entries.assign k.name item k.path) p.header
    return ⟨p.header, entries⟩

def withoutMark : List Char → List Char
  | '\uFEFF' :: cs => cs
  | cs => cs

/-- The entries of a document; `none` if it is malformed anywhere. -/
def read (document : String) : Option Entries := do
  let ss ← statements (withoutMark document.toList)
  let p ← ss.foldlM Progress.add {}
  return p.entries

end SearchQuery.Toml
