import SearchQuery.Command.Run
import SearchQuery.Proofs.Arguments
import SearchQuery.Proofs.Settings.Walk
import SearchQuery.Proofs.StoreChanges

/-!
# What runs do to the files

A run changes nothing unless it is an `init` that succeeds, and that writes one file: a starter file
in the home directory or in the working directory, or where a link of that name leads. A file that
is there already is overwritten only if that is asked for, and then under all its names. So whatever
is run, and however often, at every place there is in the end what was there at first, or a starter
file that a successful `init` put there.
-/
namespace SearchQuery

namespace Run

variable {s : Surroundings} {arguments : List String} {path : Path} {text : String}
  {location : Location} {global force : Bool}

/-- The arguments ask for a starter file. -/
def AsksInit (arguments : List String) : Prop :=
  ∃ verbosity global force,
    Invocation.ofArguments? 0 arguments = some ⟨verbosity, .init global force⟩

/-- The home directory is the working directory, as far as their components go. -/
def AtHome (s : Surroundings) : Prop := ∃ home, s.home = some home ∧ home.same s.here.path

/-- The settings file that a starter file is meant for, and its text. -/
inductive Target (s : Surroundings) (arguments : List String) : Path → String → Prop
  | atHome {home : Path} (known : s.home = some home)
      (chosen : "--global" ∈ arguments ∨ home.same s.here.path) :
      Target s arguments (home.child Surroundings.settingsFileName) Starter.globalText
  | here (unchosen : "--global" ∉ arguments) (elsewhere : ¬ AtHome s) :
      Target s arguments (s.here.path.child Surroundings.settingsFileName) Starter.localText

/-- The working directory is there, and the target leads to a file, or to a place for a new one in a
directory; without `--force` nothing is there yet. -/
structure Writable (s : Surroundings) (arguments : List String) (path : Path) (location : Location)
    (text : String) : Prop where
  inside : s.store.node? s.here = some .directory
  target : Target s arguments path text
  resolved : s.store.resolve s.here path = .ok location
  vacant : ∀ node, s.store.node? location = some node → node.isFile
  inDirectory : s.store.node? location = none →
    s.store.node? location.dropLast = some .directory
  unforced : "--force" ∉ arguments → s.store.node? location = none

/-- The run writes the starter file `text` to its target, and nothing else. -/
structure Writes (s : Surroundings) (arguments : List String) (path : Path) (location : Location)
    (text : String) : Prop extends Writable s arguments path location text where
  store : (run s arguments).store = s.store.write location text

/-! ### The target -/

theorem starter?_of_home {home : Path} (known : s.home = some home) :
    starter? s s.here.path global =
    if global || home.same s.here.path then
      some (home.child Surroundings.settingsFileName, Starter.globalText)
    else some (s.here.path.child Surroundings.settingsFileName, Starter.localText) := by
  have file : s.globalFile? = some (home.child Surroundings.settingsFileName) := by
    rw [Surroundings.globalFile?, known]
    rfl
  obtain ⟨parent, found, components⟩ := home.exists_parent_child Surroundings.plainName_settings
  have alike : parent.same s.here.path = home.same s.here.path := by
    rw [Path.same, Path.same, components]
  simp only [starter?, file, Option.bind_some, found, alike, Option.map_some]

theorem starter?_of_noHome (unknown : s.home = none) : starter? s s.here.path global =
    if global then none
    else some (s.here.path.child Surroundings.settingsFileName, Starter.localText) := by
  have file : s.globalFile? = none := by
    rw [Surroundings.globalFile?, unknown]
    rfl
  simp [starter?, file]

theorem starter?_eq_some_iff (chosen : global = true ↔ "--global" ∈ arguments) :
    starter? s s.here.path global = some (path, text) ↔ Target s arguments path text := by
  constructor
  · intro found
    cases known : s.home with
    | none =>
      rw [starter?_of_noHome known] at found
      split at found
      · cases found
      · rename_i unchosen
        cases found
        refine .here (fun asked => unchosen (chosen.mpr asked)) ?_
        rintro ⟨home, known', -⟩
        cases known.symm.trans known'
    | some home =>
      rw [starter?_of_home known] at found
      split at found
      · rename_i taken
        cases found
        refine .atHome known ?_
        rwa [Bool.or_eq_true, chosen] at taken
      · rename_i untaken
        cases found
        rw [Bool.or_eq_true, chosen, not_or] at untaken
        refine .here untaken.1 ?_
        rintro ⟨home', known', atHome⟩
        obtain rfl : home = home' := Option.some.inj (known.symm.trans known')
        exact untaken.2 atHome
  · intro target
    cases target with
    | atHome known taken =>
      rw [starter?_of_home known, if_pos]
      rwa [Bool.or_eq_true, chosen]
    | here unchosen elsewhere =>
      have unasked : global = false := Bool.eq_false_iff.mpr fun asked => unchosen (chosen.mp asked)
      cases known : s.home with
      | none => simp [starter?_of_noHome known, unasked]
      | some home =>
        have other : home.same s.here.path = false :=
          Bool.eq_false_iff.mpr fun atHome => elsewhere ⟨home, known, atHome⟩
        simp [starter?_of_home known, unasked, other]

/-! ### One run -/

theorem loaded_store {verbosity : Nat} {work : Settings → Outcome}
    (kept : ∀ settings, (work settings).store = s.store) :
    (loaded s verbosity work).store = s.store := by
  unfold loaded
  split
  · rfl
  · exact kept _

theorem parse_store (settings : Settings) (queries : List String) (format : Option Format)
    (raw : Bool) (store : Store) : (parse settings queries format raw store).store = store := by
  unfold parse
  simp only
  split <;> rfl

/-- Only a run that asks for a starter file changes anything. -/
theorem store_of_not_asksInit (other : ¬ AsksInit arguments) :
    (run s arguments).store = s.store := by
  unfold run
  split
  · rfl
  · rename_i i asked
    unfold invocation
    split
    · rfl
    · rename_i global force command
      refine absurd ⟨i.verbosity, global, force, ?_⟩ other
      rw [asked, ← command]
    · exact loaded_store fun settings => parse_store _ _ _ _ _
    · exact loaded_store fun _ => rfl
    · exact loaded_store fun _ => rfl

/-- What `init` needs to write a starter file, and the store that it leaves then. -/
structure Creates (s : Surroundings) (global force : Bool) (path : Path) (text : String)
    (after : Store) : Prop where
  inside : s.store.node? s.here = some .directory
  chosen : starter? s s.here.path global = some (path, text)
  free : s.store.isThere s.here path → force
  written : s.store.writeText s.here path text = .ok after

/-- An `init` that can write a starter file does so, and one that cannot fails and changes
nothing. -/
theorem init_cases (s : Surroundings) (global force : Bool) :
    (∃ path text after, Creates s global force path text after ∧
      init s global force = ⟨0, "Created " ++ path.text ++ "\n", [], after⟩) ∨
    ((∀ path text after, ¬ Creates s global force path text after) ∧
      ∃ complaint, init s global force = failed s complaint) := by
  unfold init
  split
  · rename_i gone
    refine .inr ⟨fun path text after creates => ?_, _, rfl⟩
    cases gone.symm.trans (directory_eq_ok_iff.mpr ⟨creates.inside, rfl⟩)
  · rename_i there
    obtain ⟨inside, rfl⟩ := directory_eq_ok_iff.mp there
    split
    · rename_i unknown
      refine .inr ⟨fun path text after creates => ?_, _, rfl⟩
      cases unknown.symm.trans creates.chosen
    · rename_i path text chosen
      split
      · rename_i taken
        refine .inr ⟨fun path' text' after creates => ?_, _, rfl⟩
        cases chosen.symm.trans creates.chosen
        have taken : s.store.isThere s.here path = true ∧ force = false := by simpa using taken
        cases taken.2.symm.trans (creates.free taken.1)
      · rename_i free
        split
        · rename_i refused
          refine .inr ⟨fun path' text' after creates => ?_, _, rfl⟩
          cases chosen.symm.trans creates.chosen
          cases refused.symm.trans creates.written
        · rename_i written
          exact .inl ⟨path, text, _, ⟨inside, chosen, by simpa using free, written⟩, rfl⟩

/-- A run that asks for a starter file writes its target if it can, and else fails and changes
nothing. -/
theorem run_cases (asked : AsksInit arguments) (s : Surroundings) :
    ((∃ path location text, Writes s arguments path location text) ∧ (run s arguments).code = 0) ∨
    ((∀ path location text, ¬ Writable s arguments path location text) ∧
      (run s arguments).code ≠ 0 ∧ (run s arguments).store = s.store) := by
  obtain ⟨verbosity, global, force, read⟩ := asked
  have ran : run s arguments = init s global force := by
    unfold run
    rw [read]
    rfl
  obtain ⟨chosen, forced⟩ := Invocation.options_of_init read
  rcases init_cases s global force with
    ⟨path, text, after, creates, ended⟩ | ⟨blocked, complaint, ended⟩
  · obtain ⟨location, resolved, vacant, inDirectory, rfl⟩ :=
      Store.writeText_eq_ok_iff.mp creates.written
    have target := (starter?_eq_some_iff chosen).mp creates.chosen
    have unforced : "--force" ∉ arguments → s.store.node? location = none := by
      refine fun unforced => Option.eq_none_iff_forall_ne_some.mpr fun node there => ?_
      have taken := Store.isThere_iff.mpr ⟨location, node, resolved, there⟩
      exact unforced (forced.mp (creates.free taken))
    refine .inl ⟨⟨path, location, text,
      ⟨creates.inside, target, resolved, vacant, inDirectory, unforced⟩, ?_⟩, ?_⟩
    · rw [ran, ended]
    · rw [ran, ended]
  · rw [ran, ended]
    refine .inr ⟨?_, Nat.one_ne_zero, rfl⟩
    intro path location text writable
    have written : s.store.writeText s.here path text = .ok (s.store.write location text) :=
      Store.writeText_eq_ok_iff.mpr
        ⟨location, writable.resolved, writable.vacant, writable.inDirectory, rfl⟩
    refine blocked path text _ ⟨writable.inside,
      (starter?_eq_some_iff chosen).mpr writable.target, ?_, written⟩
    intro there
    obtain ⟨location', node, resolved, found⟩ := Store.isThere_iff.mp there
    obtain rfl : location = location' := Except.ok.inj (writable.resolved.symm.trans resolved)
    refine forced.mpr (Decidable.byContradiction fun unforced => ?_)
    cases found.symm.trans (writable.unforced unforced)

/-- A run that is no successful `init` changes nothing. -/
theorem store_cases (s : Surroundings) (arguments : List String) :
    (AsksInit arguments ∧ (run s arguments).code = 0 ∧
      ∃ path location text, Writes s arguments path location text) ∨
    (¬ (AsksInit arguments ∧ (run s arguments).code = 0) ∧ (run s arguments).store = s.store) := by
  by_cases asked : AsksInit arguments
  · rcases run_cases asked s with ⟨writes, success⟩ | ⟨-, failed, kept⟩
    · exact .inl ⟨asked, success, writes⟩
    · exact .inr ⟨fun init => failed init.2, kept⟩
  · exact .inr ⟨fun init => asked init.1, store_of_not_asksInit asked⟩

theorem success_iff (asked : AsksInit arguments) : (run s arguments).code = 0 ↔
    ∃ path location text, Writable s arguments path location text := by
  rcases run_cases asked s with ⟨⟨path, location, text, writes⟩, success⟩ | ⟨blocked, failed, -⟩
  · exact iff_of_true success ⟨path, location, text, writes.toWritable⟩
  · refine iff_of_false failed ?_
    rintro ⟨path, location, text, writable⟩
    exact blocked path location text writable

namespace Writes

variable (writes : Writes s arguments path location text)
include writes

/-- Under every name of the file that was written there is the text. -/
theorem node?_of_same {name : Location} (same : s.store.sameFile location name) :
    (run s arguments).store.node? name = some (.file text) := by
  rw [writes.store, Store.node?_write_of_same same]

theorem node?_of_other {other : Location} (elsewhere : ¬ s.store.sameFile location other) :
    (run s arguments).store.node? other = s.store.node? other := by
  rw [writes.store, Store.node?_write_of_other elsewhere]

theorem readText_target : (run s arguments).store.readText s.here path = .ok text := by
  rw [writes.store, Store.readText_write writes.resolved writes.vacant]

theorem sameWays : Store.SameWays s.store (run s arguments).store := by
  rw [writes.store]
  exact Store.sameWays_write writes.vacant text

end Writes

/-- Of two stores, the second differs in one file only: it is entered at one place, if it is new,
and where it has other names, the text is found there as well. -/
structure Touches (store after : Store) (location : Location) (text : String) : Prop where
  entries : ∀ other, other ≠ location → after.entered? other = store.entered? other
  names : ∀ name, store.sameFile location name → after.node? name = some (.file text)
  others : ∀ other, ¬ store.sameFile location other → after.node? other = store.node? other

theorem Writes.touches (writes : Writes s arguments path location text) :
    Touches s.store (run s arguments).store location text where
  entries other elsewhere := by rw [writes.store, Store.entered?_write_of_ne elsewhere]
  names _ same := writes.node?_of_same same
  others _ elsewhere := writes.node?_of_other elsewhere

/-- All that is in the one store is in the other. -/
def Keeps (store after : Store) : Prop :=
  ∀ location node, store.node? location = some node → after.node? location = some node

/-- What a run does to the files: nothing, or if it is an `init` whose target can be written, just
that. Where there are no links, the target is the place that its path names, and no link is made. -/
structure Spares (s : Surroundings) (arguments : List String) : Prop where
  changed : (run s arguments).store ≠ s.store →
    AsksInit arguments ∧ (run s arguments).code = 0
  succeeds : AsksInit arguments → ((run s arguments).code = 0 ↔
    ∃ path location text, Writable s arguments path location text)
  writes : AsksInit arguments → (run s arguments).code = 0 →
    ∃ path location text, Writes s arguments path location text ∧
      (run s arguments).store.readText s.here path = .ok text ∧
      Touches s.store (run s arguments).store location text ∧
      (s.store.LinkFree → location = path.destination s.here)
  keeps : "--force" ∉ arguments → Keeps s.store (run s arguments).store
  failed : (run s arguments).code ≠ 0 → (run s arguments).store = s.store
  linkFree : s.store.LinkFree → (run s arguments).store.LinkFree

theorem spares (s : Surroundings) (arguments : List String) : Spares s arguments := by
  rcases store_cases s arguments with ⟨asked, success, path, location, text, writes⟩ | ⟨other, kept⟩
  · refine ⟨fun _ => ⟨asked, success⟩, success_iff, ?_, ?_, fun failed => absurd success failed,
      fun free => free.of_sameWays writes.sameWays⟩
    · intro _ _
      exact ⟨path, location, text, writes, writes.readText_target, writes.touches,
        fun free => free.eq_destination writes.resolved⟩
    · intro unforced location' node there
      have missing := Store.entered?_eq_none_iff.mpr (writes.unforced unforced)
      have elsewhere : ¬ s.store.sameFile location location' := by
        rw [Store.sameFile_of_missing missing]
        rintro rfl
        cases there.symm.trans (writes.unforced unforced)
      rw [writes.node?_of_other elsewhere, there]
  · refine ⟨fun changed => absurd kept changed, success_iff, ?_, ?_, fun _ => kept,
      fun free => kept ▸ free⟩
    · intro asked success
      exact absurd ⟨asked, success⟩ other
    · intro _ location node there
      rw [kept, there]

/-! ### One run after the other -/

/-- The program is run with these arguments, in a working directory and with a home directory. -/
structure Request where
  home : Option Path
  here : Location
  arguments : List String

namespace Request

variable {r : Request} {requests : List Request} {store : Store}

def surroundings (r : Request) (store : Store) : Surroundings := ⟨store, r.home, r.here⟩

def outcome (r : Request) (store : Store) : Outcome := run (r.surroundings store) r.arguments

/-- The store that the runs leave behind. -/
def leave (store : Store) (requests : List Request) : Store :=
  requests.foldl (fun store r => (r.outcome store).store) store

/-- One of the runs, an `init` that succeeded, wrote the starter file that is at a location, under
this name of it, in the end. -/
def Written (store : Store) (requests : List Request) (location : Location) : Prop :=
  ∃ earlier r later path target text, requests = earlier ++ r :: later ∧
    AsksInit r.arguments ∧ (r.outcome (leave store earlier)).code = 0 ∧
    Writes (r.surroundings (leave store earlier)) r.arguments path target text ∧
    (leave store earlier).sameFile target location ∧
    (leave store requests).node? location = some (.file text)

/-- Everything stays as it was, or is a starter file that one of the runs wrote. -/
theorem unchanged_or_written (store : Store) (requests : List Request) (location : Location) :
    (leave store requests).node? location = store.node? location ∨
      Written store requests location := by
  induction requests generalizing store with
  | nil => exact .inl rfl
  | cons r later ih =>
    rcases ih (r.outcome store).store with
      kept | ⟨earlier, r', later, path, target, text, rfl, written⟩
    · -- The later runs kept what the first left behind.
      rcases store_cases (r.surroundings store) r.arguments with
        ⟨asked, success, path, target, text, writes⟩ | ⟨-, kept'⟩
      · by_cases there : store.sameFile target location
        · exact .inr ⟨[], r, later, path, target, text, rfl, asked, success, writes, there,
            kept.trans (writes.node?_of_same there)⟩
        · exact .inl (kept.trans (writes.node?_of_other there))
      · refine .inl (kept.trans ?_)
        rw [outcome, kept']
        rfl
    · exact .inr ⟨r :: earlier, r', later, path, target, text, rfl, written⟩

theorem keeps_of_unforced (store : Store)
    (unforced : ∀ r ∈ requests, "--force" ∉ r.arguments) : Keeps store (leave store requests) := by
  induction requests generalizing store with
  | nil => exact fun _ _ there => there
  | cons r later ih =>
    obtain ⟨first, others⟩ := List.forall_mem_cons.mp unforced
    intro location node there
    have still := (spares (r.surroundings store) r.arguments).keeps first location node there
    exact ih _ others location node still

theorem linkFree_leave (free : store.LinkFree) (requests : List Request) :
    (leave store requests).LinkFree := by
  induction requests generalizing store with
  | nil => exact free
  | cons r later ih => exact ih ((spares (r.surroundings store) r.arguments).linkFree free)

/-- Whatever is run on whatever files: each run spares the files that the runs before it left; in
the end everything is as it was, or a starter file that a run wrote; without `--force` all that
there was is still there; and where there were no links there are none. -/
theorem runs_spare_files (store : Store) (requests : List Request) :
    (∀ earlier r later, requests = earlier ++ r :: later →
      Spares (r.surroundings (leave store earlier)) r.arguments) ∧
    (∀ location, (leave store requests).node? location = store.node? location ∨
      Written store requests location) ∧
    ((∀ r ∈ requests, "--force" ∉ r.arguments) → Keeps store (leave store requests)) ∧
    (store.LinkFree → (leave store requests).LinkFree) :=
  ⟨fun _ _ _ _ => spares _ _, unchanged_or_written store requests, keeps_of_unforced store,
    fun free => linkFree_leave free requests⟩

/-! ### Three runs in one directory -/

/-- The files of `/w` and of the root directory. -/
def start : Store := (Surroundings.nested "" "" none).store

def first : Request := ⟨some ⟨"/w"⟩, ["w", "src"], ["init"]⟩

def again : Request := ⟨some ⟨"/w/src/"⟩, ["w", "src"], ["init"]⟩

def forced : Request := ⟨some ⟨"/w/src/"⟩, ["w", "src"], ["-v", "init", "--force"]⟩

/-- The second run finds the file of the first and fails; the third, in its home directory, puts
another in its place. -/
theorem runs_spare_files_thrice :
    (again.outcome (leave start [first])).store = leave start [first] ∧
    (∃ path location, Writes (forced.surroundings (leave start [first, again])) forced.arguments
      path location Starter.globalText) ∧
    Keeps start (leave start [first, again]) := by
  have failed : (again.outcome (leave start [first])).code ≠ 0 := by decide +kernel
  have success : (forced.outcome (leave start [first, again])).code = 0 := by decide +kernel
  have asked : AsksInit forced.arguments := ⟨1, false, true, by decide +kernel⟩
  have all := runs_spare_files start [first, again, forced]
  obtain ⟨path, location, text, writes, -⟩ :=
    (all.1 [first, again] forced [] rfl).writes asked success
  refine ⟨(all.1 [first] again [forced] rfl).failed failed, ?_,
    (runs_spare_files start [first, again]).2.2.1 (by decide)⟩
  cases writes.target with
  | atHome _ _ => exact ⟨_, location, writes⟩
  | here _ elsewhere => exact absurd ⟨⟨"/w/src/"⟩, rfl, by decide⟩ elsewhere

end Request
end Run
end SearchQuery
