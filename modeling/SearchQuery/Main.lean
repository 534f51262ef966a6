import SearchQuery.Command.Run

/-!
# The program `scoped`

The files that a run may look at are read into a store first; what the run writes is put back
afterwards.
-/
namespace SearchQuery.Main

def look (path : String) : IO (Option Node) := do
  try
    let bytes ← IO.FS.readBinFile path
    return some (match String.fromUTF8? bytes with
      | some text => .file text
      | none => .binary)
  catch
    | .noFileOrDirectory .. => return none
    | _ => return some .directory

def location (path : Path) : Location := path.components.2.map String.ofList

/-- The places where a settings file may be. -/
def places (here : Location) (home : Option Path) : List Path :=
  (here.path.ancestors ++ home.toList).map (·.child Surroundings.settingsFileName)

def home? : IO (Option Path) := do
  return (← IO.getEnv "HOME").bind fun text => if text.isEmpty then none else some ⟨text⟩

def here? : IO (Option Location) := do
  try return some (location ⟨(← IO.currentDir).toString⟩)
  catch _ => return none

/-- A working directory that is gone is taken for a location where nothing is. -/
def surroundings : IO Surroundings := do
  let known ← here?
  let here := known.getD [".."]
  let home ← home?
  let mut store := known.elim Store.empty Store.empty.makeDirectory
  if let some home := home then
    if (← look home.text) = some .directory then store := store.makeDirectory (location home)
  for place in places here home do
    if let some node ← look place.text then store := store.put (location place) node
  return ⟨store, home, here⟩

end SearchQuery.Main

open SearchQuery SearchQuery.Main in
def main (arguments : List String) : IO UInt32 := do
  let s ← surroundings
  let o := run s arguments
  for place in places s.here s.home do
    match o.store.node? (location place) with
    | some (.file text) =>
      if s.store.node? (location place) ≠ some (.file text) then IO.FS.writeFile place.text text
    | _ => pure ()
  IO.print o.stdout
  IO.eprint o.stderr
  return o.code.toUInt32
