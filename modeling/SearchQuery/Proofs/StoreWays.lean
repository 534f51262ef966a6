import SearchQuery.Proofs.PathParts
import SearchQuery.Store

/-!
# Ways through a store

The names of a path lead from a directory to a place, or as far as a link, which then is followed.
Only directories and links decide where that is. Two paths with the same components lead to the same
place, or one of them to none; without links the components alone say which place it is.
-/
namespace SearchQuery

namespace Store

variable {store other : Store} {here location location' : Location} {p q : Path} {name : String}
  {path : List String} {links : Nat}

/-- How far names lead from a directory before a link is followed. -/
inductive Leads (store : Store) : Location → List String → Stage → Prop
  | done {here : Location} : Leads store here [] (.place here)
  | stays {here : Location} {path : List String} {stage : Stage}
      (directory : store.node? here = some .directory) (others : Leads store here path stage) :
      Leads store here ("." :: path) stage
  | up {here : Location} {path : List String} {stage : Stage}
      (directory : store.node? here = some .directory)
      (others : Leads store here.dropLast path stage) : Leads store here (".." :: path) stage
  | down {here : Location} {name : String} {path : List String} {stage : Stage}
      (directory : store.node? here = some .directory) (plain : name ≠ "." ∧ name ≠ "..")
      (short : name.utf8ByteSize ≤ nameLimit)
      (noLink : ∀ target, store.node? (here ++ [name]) ≠ some (.link target))
      (others : Leads store (here ++ [name]) path stage) : Leads store here (name :: path) stage
  | link {here : Location} {name : String} {path : List String} {target : Path}
      (directory : store.node? here = some .directory) (plain : name ≠ "." ∧ name ≠ "..")
      (short : name.utf8ByteSize ≤ nameLimit)
      (found : store.node? (here ++ [name]) = some (.link target)) :
      Leads store here (name :: path) (.link here target path)

/-- Where names lead from a directory if no more than so many links are followed. -/
inductive Way (store : Store) : Nat → Location → List String → Location → Prop
  | arrives {links : Nat} {here location : Location} {path : List String}
      (leads : Leads store here path (.place location)) : Way store links here path location
  | follows {links : Nat} {here inner location : Location} {path rest : List String} {target : Path}
      (leads : Leads store here path (.link inner target rest))
      (further : Way store links (origin inner target.text.toList)
        (names target.text.toList ++ rest) location) : Way store (links + 1) here path location

theorem Leads.stage_eq {stage : Stage} (leads : Leads store here path stage) :
    store.stage here path = .ok stage := by
  induction leads with
  | done => rfl
  | stays directory _ ih | up directory _ ih => simp [Store.stage, directory, ih]
  | down directory plain short noLink _ ih =>
    simp [Store.stage, directory, plain, Nat.not_lt.mpr short, ih]
  | link directory plain short found =>
    simp [Store.stage, directory, plain, Nat.not_lt.mpr short, found]

theorem leads_of_stage {stage : Stage} (reached : store.stage here path = .ok stage) :
    Leads store here path stage := by
  induction path generalizing here with
  | nil =>
    cases reached
    exact .done
  | cons name path ih =>
    rw [Store.stage] at reached
    split at reached
    · cases reached
    · rename_i directory
      split at reached
      · subst name
        exact .stays directory (ih reached)
      · split at reached
        · subst name
          exact .up directory (ih reached)
        · rename_i noDot noDots
          split at reached
          · cases reached
          · rename_i short
            have short := Nat.le_of_not_gt short
            split at reached
            · rename_i target found
              cases reached
              exact .link directory ⟨noDot, noDots⟩ short found
            · rename_i noLink
              exact .down directory ⟨noDot, noDots⟩ short noLink (ih reached)
    · cases reached

theorem Leads.unique {stage stage' : Stage} (leads : Leads store here path stage)
    (leads' : Leads store here path stage') : stage = stage' :=
  Except.ok.inj (leads.stage_eq.symm.trans leads'.stage_eq)

theorem walk_eq_ok_iff :
    store.walk links here path = .ok location ↔ Way store links here path location := by
  constructor
  · intro walked
    induction links generalizing here path with
    | zero =>
      unfold walk at walked
      split at walked
      · cases walked
      · cases walked
        exact .arrives (leads_of_stage ‹_›)
      · cases walked
    | succ links ih =>
      unfold walk at walked
      split at walked
      · cases walked
      · cases walked
        exact .arrives (leads_of_stage ‹_›)
      · exact .follows (leads_of_stage ‹_›) (ih walked)
  · intro way
    induction way with
    | arrives leads =>
      unfold walk
      rw [leads.stage_eq]
    | follows leads _ ih =>
      unfold walk
      rw [leads.stage_eq]
      exact ih

/-! ### Ways that stay as they are -/

/-- The stores have the same directories and links; their files may differ. -/
structure SameWays (store other : Store) : Prop where
  directory : ∀ location, store.node? location = some .directory ↔
    other.node? location = some .directory
  link : ∀ location target, store.node? location = some (.link target) ↔
    other.node? location = some (.link target)

theorem SameWays.symm (same : SameWays store other) : SameWays other store :=
  ⟨fun _ => (same.directory _).symm, fun _ _ => (same.link _ _).symm⟩

theorem SameWays.trans {last : Store} (same : SameWays store other)
    (same' : SameWays other last) : SameWays store last :=
  ⟨fun _ => (same.directory _).trans (same'.directory _),
    fun _ _ => (same.link _ _).trans (same'.link _ _)⟩

theorem SameWays.leads {stage : Stage} (same : SameWays store other)
    (leads : Leads store here path stage) : Leads other here path stage := by
  induction leads with
  | done => exact .done
  | stays directory _ ih => exact .stays ((same.directory _).mp directory) ih
  | up directory _ ih => exact .up ((same.directory _).mp directory) ih
  | down directory plain short noLink _ ih =>
    refine .down ((same.directory _).mp directory) plain short ?_ ih
    exact fun target => mt (same.link _ target).mpr (noLink target)
  | link directory plain short found =>
    exact .link ((same.directory _).mp directory) plain short ((same.link _ _).mp found)

theorem SameWays.way (same : SameWays store other) (way : Way store links here path location) :
    Way other links here path location := by
  induction way with
  | arrives leads => exact .arrives (same.leads leads)
  | follows leads _ ih => exact .follows (same.leads leads) ih

/-! ### Ways of paths -/

theorem names_slash (body : List Char) : names ('/' :: body) = names body := by
  obtain ⟨part, parts, cut⟩ := List.exists_cons_of_ne_nil (Text.split_ne_nil '/' body)
  simp [names, Text.split, cut]

/-- A path text that the system accepts. -/
structure Accepts (p : Path) : Prop where
  written : p.text.toList ≠ []
  clean : '\x00' ∉ p.text.toList
  short : p.text.utf8ByteSize < pathLimit

theorem Accepts.resolve_eq (accepted : Accepts p) : store.resolve here p =
    store.walk linkLimit (origin here p.text.toList) (names p.text.toList) := by
  obtain ⟨written, clean, short⟩ := accepted
  have clean : p.text.toList.contains '\x00' = false := by simpa using clean
  rw [resolve]
  simp only [written, clean, Nat.not_le.mpr short, ite_false, Bool.false_eq_true]

theorem accepts_of_resolve (resolved : store.resolve here p = .ok location) : Accepts p := by
  rw [resolve] at resolved
  refine ⟨?_, ?_, ?_⟩
  · intro empty
    rw [if_pos empty] at resolved
    cases resolved
  · intro zero
    have contained : p.text.toList.contains '\x00' = true := by simpa using zero
    rw [if_neg (List.ne_nil_of_mem zero), if_pos contained] at resolved
    cases resolved
  · refine Nat.lt_of_not_ge fun long => ?_
    simp only [long, ite_true] at resolved
    split at resolved
    · cases resolved
    · split at resolved <;> cases resolved

theorem resolve_eq_ok_iff : store.resolve here p = .ok location ↔ Accepts p ∧
    Way store linkLimit (origin here p.text.toList) (names p.text.toList) location := by
  constructor
  · intro resolved
    have accepted := accepts_of_resolve resolved
    rw [accepted.resolve_eq] at resolved
    exact ⟨accepted, walk_eq_ok_iff.mp resolved⟩
  · rintro ⟨accepted, way⟩
    rw [accepted.resolve_eq, walk_eq_ok_iff.mpr way]

theorem SameWays.resolve_eq_ok (same : SameWays store other)
    (resolved : store.resolve here p = .ok location) : other.resolve here p = .ok location := by
  rw [resolve_eq_ok_iff] at resolved ⊢
  exact ⟨resolved.1, same.way resolved.2⟩

/-- The names on the way without those that lead nowhere else. -/
def bare (path : List String) : List String := path.filter (· ≠ ".")

theorem bare_cons (noDot : name ≠ ".") (path : List String) :
    bare (name :: path) = name :: bare path :=
  List.filter_cons_of_pos (decide_eq_true noDot)

theorem bare_append (path rest : List String) : bare (path ++ rest) = bare path ++ bare rest :=
  List.filter_append ..

theorem bare_names (cs : List Char) : bare (names cs) =
    ((Text.split '/' cs).filter (!Path.isSkipped ·)).map String.ofList := by
  have skips : ∀ parts : List (List Char), bare ((parts.filter (· ≠ [])).map String.ofList) =
      (parts.filter (!Path.isSkipped ·)).map String.ofList := by
    intro parts
    induction parts with
    | nil => rfl
    | cons part parts ih =>
      have dot : String.ofList part = "." ↔ part = ['.'] := by
        rw [← String.toList_inj, String.toList_ofList]
        rfl
      by_cases empty : part = [] <;> by_cases single : part = ['.'] <;>
        simp_all [bare, Path.isSkipped]
  rw [names, bare_append, skips]
  split <;> simp [bare]

/-- What the system makes of a path text is told by its components. -/
theorem way_of_components (p : Path) (here : Location) :
    bare (names p.text.toList) = p.components.2.map String.ofList ∧
      origin here p.text.toList = if p.components.1 = .root then [] else here := by
  obtain ⟨anchor, body, text, fits⟩ := p.exists_text
  rw [Path.components_of_text text fits, text]
  cases anchor with
  | root =>
    rw [Path.Anchor.chars, List.singleton_append, names_slash, bare_names]
    exact ⟨rfl, rfl⟩
  | dot =>
    have same : (Text.split '/' ('.' :: body)).filter (!Path.isSkipped ·) =
        (Text.split '/' body).filter (!Path.isSkipped ·) := by
      cases body with
      | nil => rfl
      | cons c body =>
        obtain rfl : c = '/' := fits c rfl
        rfl
    rw [Path.Anchor.chars, List.singleton_append, bare_names, same]
    exact ⟨rfl, rfl⟩
  | free =>
    rw [Path.Anchor.chars, List.nil_append, bare_names, origin, if_neg fits.1]
    exact ⟨rfl, rfl⟩

def Stage.bare : Stage → Stage
  | place location => .place location
  | link here target rest => .link here target (Store.bare rest)

theorem Leads.bare {stage : Stage} (leads : Leads store here path stage) :
    Leads store here (Store.bare path) stage.bare := by
  induction leads with
  | done => exact .done
  | stays _ _ ih => exact ih
  | up directory _ ih => exact .up directory ih
  | down directory plain short noLink _ ih =>
    rw [bare_cons plain.1]
    exact .down directory plain short noLink ih
  | link directory plain short found =>
    rw [bare_cons plain.1]
    exact .link directory plain short found

theorem Way.unique_of_bare {path' : List String} (way : Way store links here path location)
    (way' : Way store links here path' location') (same : bare path = bare path') :
    location = location' := by
  induction way generalizing path' with
  | arrives leads =>
    cases way' with
    | arrives leads' =>
      have stages := (same ▸ leads.bare).unique leads'.bare
      cases stages
      rfl
    | follows leads' _ => cases (same ▸ leads.bare).unique leads'.bare
  | follows leads _ ih =>
    cases way' with
    | arrives leads' => cases (same ▸ leads.bare).unique leads'.bare
    | follows leads' further' =>
      have stages := (same ▸ leads.bare).unique leads'.bare
      simp only [Stage.bare, Stage.link.injEq] at stages
      obtain ⟨rfl, rfl, rest⟩ := stages
      refine ih further' ?_
      rw [bare_append, bare_append, rest]

/-- Paths with the same components lead to the same place, or one of them to none. -/
theorem eq_of_same (same : p.same q) (resolved : store.resolve here p = .ok location)
    (resolved' : store.resolve here q = .ok location') : location = location' := by
  have components := Path.same_iff.mp same
  obtain ⟨path, start⟩ := way_of_components p here
  obtain ⟨path', start'⟩ := way_of_components q here
  obtain ⟨-, way⟩ := resolve_eq_ok_iff.mp resolved
  obtain ⟨-, way'⟩ := resolve_eq_ok_iff.mp resolved'
  rw [components] at path start
  rw [start] at way
  rw [start'] at way'
  exact way.unique_of_bare way' (path.trans path'.symm)

/-! ### Stores without links -/

def LinkFree (store : Store) : Prop :=
  ∀ location target, store.node? location ≠ some (.link target)

end Store

/-- Where a name leads from a directory. -/
def Location.step (here : Location) (name : String) : Location :=
  if name = "." then here else if name = ".." then here.dropLast else here ++ [name]

/-- Where a path leads if all directories on the way are there, and no links. -/
def Path.destination (p : Path) (here : Location) : Location :=
  (p.components.2.map String.ofList).foldl Location.step
    (if p.components.1 = .root then [] else here)

namespace Store

variable {store : Store} {here location : Location} {p : Path} {node : Node} {text : String}

theorem LinkFree.leads {stage : Stage} {path : List String} (free : store.LinkFree)
    (leads : Leads store here path stage) :
    stage = .place ((bare path).foldl Location.step here) := by
  induction leads with
  | done => rfl
  | stays _ _ ih => exact ih
  | up _ _ ih => exact ih
  | down _ plain _ _ _ ih =>
    rw [bare_cons plain.1, List.foldl_cons, Location.step, if_neg plain.1, if_neg plain.2]
    exact ih
  | link _ _ _ found => exact absurd found (free _ _)

theorem LinkFree.eq_destination (free : store.LinkFree)
    (resolved : store.resolve here p = .ok location) : location = p.destination here := by
  obtain ⟨path, start⟩ := way_of_components p here
  obtain ⟨-, way⟩ := resolve_eq_ok_iff.mp resolved
  cases way with
  | arrives leads =>
    cases free.leads leads
    rw [path, start, Path.destination]
  | follows leads _ => cases free.leads leads

theorem LinkFree.of_sameWays {other : Store} (free : store.LinkFree)
    (same : SameWays store other) : other.LinkFree :=
  fun location target => mt (same.link location target).mpr (free location target)

/-! ### Looking -/

theorem look_eq_ok_iff : store.look here p = .ok node ↔
    ∃ location, store.resolve here p = .ok location ∧ store.node? location = some node := by
  rw [look]
  cases store.resolve here p with
  | error e => simp
  | ok location => cases found : store.node? location <;> simp [found]

theorem isFile_iff :
    store.isFile here p ↔ ∃ node, store.look here p = .ok node ∧ node.isFile := by
  rw [isFile]
  cases store.look here p <;> simp

theorem isThere_iff : store.isThere here p ↔
    ∃ location node, store.resolve here p = .ok location ∧ store.node? location = some node := by
  rw [isThere]
  constructor
  · intro there
    cases looked : store.look here p with
    | error e => rw [looked] at there; cases there
    | ok node =>
      obtain ⟨location, resolved, found⟩ := look_eq_ok_iff.mp looked
      exact ⟨location, node, resolved, found⟩
  · rintro ⟨location, node, resolved, found⟩
    rw [look_eq_ok_iff.mpr ⟨location, resolved, found⟩]

theorem readText_of_look (looked : store.look here p = .ok (.file text)) :
    store.readText here p = .ok text := by
  rw [readText, looked]

end Store
end SearchQuery
