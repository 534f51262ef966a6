import SearchQuery.Toml.Quote
import SearchQuery.Toml.Table

/-!
# Values and keys

A value is a quoted text, a run of characters that writes a truth value, a number or a moment, an
array, or an inline table. Arrays and inline tables may nest to a fixed depth, and a key may have as
many names; between the parts of an array or inline table may stand any layout, and behind the last
part a comma.
-/
namespace SearchQuery.Toml

def isBareKey (c : Char) : Bool := c.isAlphanum || c = '_' || c = '-'

/-- A bare or quoted name. -/
def keyName (cs : List Char) : Option (Read String cs) :=
  match cs with
  | [] => none
  | '"' :: ds => (Quote.double ds).map fun r => (r.map String.ofList).behind '"'
  | '\'' :: ds => (Quote.single ds).map fun r => (r.map String.ofList).behind '\''
  | c :: ds =>
    if isBareKey c then
      some ⟨String.ofList (c :: ds.takeWhile isBareKey), ds.dropWhile isBareKey,
        Nat.lt_succ_of_le (List.dropWhile_suffix _).length_le⟩
    else none

/-- Names with points between them. -/
def names (cs : List Char) : Option (Read Key cs) := do
  let first ← keyName cs
  match h : skipSpace first.rest with
  | '.' :: ds =>
    have lt := Nat.lt_of_le_of_lt (length_skipSpace ds) (first.length_of_skipSpace h)
    let others ← names (skipSpace ds)
    return (others.map fun k => ⟨first.value :: k.path, k.name⟩).lift (Nat.le_of_lt lt)
  | _ => return first.map fun name => ⟨[], name⟩
termination_by cs.length

/-- How deep arrays and inline tables may nest, and how many names a key may have. -/
def depthLimit : Nat := 80

def key (cs : List Char) : Option (Read Key cs) :=
  (names cs).filter fun r => r.value.path.length < depthLimit

def isRun (c : Char) : Bool :=
  !(isSpace c || c = '\n' || c = '\r' || c = ',' || c = ']' || c = '}' || c = '#')

def run? (cs : List Char) : Option Item :=
  if cs = ['t', 'r', 'u', 'e'] then some (.boolean true)
  else if cs = ['f', 'a', 'l', 's', 'e'] then some (.boolean false)
  else if Number.isSpecial cs then some .special
  else match Number.integer? cs with
    | some n => some (.integer n)
    | none => match Number.decimal? cs with
      | some d => some (.decimal d)
      | none => (Moment.ofChars? cs).map .moment

/-- How many characters the run at the front has. A space between a date and a digit belongs to it,
for a time of day follows. -/
def runLength (cs : List Char) : Nat :=
  let run := cs.takeWhile isRun
  match Moment.date? run, cs.drop run.length with
  | some (_, []), ' ' :: d :: ds =>
    if d.isDigit then run.length + 1 + ((d :: ds).takeWhile isRun).length else run.length
  | _, _ => run.length

def scalar (cs : List Char) : Option (Read Item cs) :=
  match cs with
  | [] => none
  | '"' :: ds => (Quote.text ('"' :: ds)).map (·.map .text)
  | '\'' :: ds => (Quote.text ('\'' :: ds)).map (·.map .text)
  | c :: ds => do
    let length := runLength (c :: ds)
    let item ← run? ((c :: ds).take length)
    if h : 0 < length then
      return ⟨item, (c :: ds).drop length, by simp only [List.length_drop, List.length_cons]; omega⟩
    else none

/-- The items of an array whose opening bracket was read, up to the closing one. -/
def elements (item : Reader Item) (cs : List Char) : Option (Read (List Item) cs) :=
  match h : skipLayout cs with
  | ']' :: ds => some ⟨[], ds, length_of_skipLayout h⟩
  | ds => do
    let first ← (item ds).map (·.lift (h ▸ length_skipLayout cs))
    match h' : skipLayout first.rest with
    | ']' :: es => some ⟨[first.value], es, first.length_of_skipLayout h'⟩
    | ',' :: es =>
      have lt := first.length_of_skipLayout h'
      (elements item es).map fun r => (r.map (first.value :: ·)).lift (Nat.le_of_lt lt)
    | _ => none
termination_by cs.length

/-- A key and its value. -/
def pair (item : Reader Item) (cs : List Char) : Option (Read (Key × Item) cs) := do
  let name ← key cs
  match h : skipLayout name.rest with
  | '=' :: ds =>
    have le := Nat.le_trans (length_skipLayout ds) (Nat.le_of_lt (name.length_of_skipLayout h))
    (item (skipLayout ds)).map fun r => (r.map (name.value, ·)).lift le
  | _ => none

/-- The pairs of an inline table whose opening brace was read, up to the closing one, added to
`entries`. -/
def pairs (item : Reader Item) (entries : Entries) (cs : List Char) : Option (Read Entries cs) :=
  match h : skipLayout cs with
  | '}' :: ds => some ⟨entries, ds, length_of_skipLayout h⟩
  | ds => do
    let first ← (pair item ds).map (·.lift (h ▸ length_skipLayout cs))
    let entries ← Entries.assign first.value.1.name first.value.2 first.value.1.path entries
    match h' : skipLayout first.rest with
    | '}' :: es => some ⟨entries, es, first.length_of_skipLayout h'⟩
    | ',' :: es =>
      have lt := first.length_of_skipLayout h'
      (pairs item entries es).map (·.lift (Nat.le_of_lt lt))
    | _ => none
termination_by cs.length

/-- A value whose arrays and inline tables nest at most `depth` deep. -/
def value : (depth : Nat) → Reader Item
  | 0, cs => scalar cs
  | depth + 1, cs =>
    match cs with
    | '[' :: ds => (elements (value depth) ds).map fun r => (r.map (.array false)).behind '['
    | '{' :: ds => (pairs (value depth) [] ds).map fun r => (r.map (.table .inline)).behind '{'
    | cs => scalar cs

end SearchQuery.Toml
