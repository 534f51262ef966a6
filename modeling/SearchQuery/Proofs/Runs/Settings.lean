import Mathlib.Data.List.Basic
import SearchQuery.Proofs.Runs.Files
import SearchQuery.Proofs.Settings.Neutral
import SearchQuery.Proofs.Settings.Starter

/-!
# A starter file changes no settings

A starter file declares nothing. So after an `init` every directory has the settings that it would
have if the new file were not there: a first `init` changes no settings at all, and one that
overwrites a file has the effect of taking that file away. Where the target is a link, the file that
is written, and that has to be taken away, is the one the link leads to.
-/
namespace SearchQuery.Run

variable {s : Surroundings} {arguments : List String} {path : Path} {text : String}
  {location : Location}

theorem Target.declares_nothing (target : Target s arguments path text) :
    Declared.ofDocument? text = some {} := by
  cases target with
  | atHome _ _ => exact Starter.ofDocument?_globalText
  | here _ _ => exact Starter.ofDocument?_localText

theorem Writes.settingsOf_eq (writes : Writes s arguments path location text) (home : Option Path)
    (here : Location) (directory : Path) :
    Effective.settingsOf ⟨(run s arguments).store, home, here⟩ directory =
      Effective.settingsOf ⟨s.store.without location, home, here⟩ directory := by
  have fewer : Surroundings.Fewer ⟨s.store.write location text, home, here⟩
      ⟨s.store.without location, home, here⟩ :=
    Surroundings.fewer_without writes.target.declares_nothing home here
  rw [writes.store, Effective.settingsOf_eq_of_fewer fewer]

/-- In `/w/src`, whose settings file is a link to the one in `/w`, a root below a file that is
malformed. -/
def linked : Surroundings where
  store := (Surroundings.nested "root = true\n" "=" none).store.put
    ["w", "src", ".scoped.toml"] (.link ⟨"../.scoped.toml"⟩)
  home := none
  here := ["w", "src"]

end SearchQuery.Run
