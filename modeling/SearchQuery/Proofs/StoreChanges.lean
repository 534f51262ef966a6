import SearchQuery.Proofs.StoreWays

/-!
# What a written file changes

A file that is written changes under all its names, and nothing else does. As it is no directory and
no link, every path still leads where it did; the same is true of a file that is taken away. So only
paths that lead to that one file, under any of its names, see a difference.
-/
namespace SearchQuery.Store

variable {store other : Store} {here location location' : Location} {p : Path} {node : Node}
  {text : String}

/-- Without the file at a location, whatever its names are. What else there is stays, and links to
the file lead to nothing. -/
def without (store : Store) (location : Location) : Store :=
  store.restrict (!store.sameFile location ·)

/-! ### What is found after a change -/

theorem node?_of_entry {entry : Entry} (entered : store.entered? location = some entry) :
    store.node? location = some (entry.node store.content) := by
  rw [node?, entered]
  rfl

theorem sameFile_iff : store.sameFile location location' ↔ location' = location ∨
    ∃ number, store.entered? location = some (.file number) ∧
      store.entered? location' = some (.file number) := by
  rw [sameFile, Bool.or_eq_true, decide_eq_true_eq, eq_comm]
  refine or_congr_right ?_
  split
  · rename_i first second
    simp [first, second, eq_comm]
  · rename_i others
    refine iff_of_false Bool.false_ne_true ?_
    rintro ⟨number, first, second⟩
    exact others number number first second

@[simp] theorem sameFile_self (store : Store) (location : Location) :
    store.sameFile location location := sameFile_iff.mpr (.inl rfl)

/-- A new file has one name. -/
theorem sameFile_of_missing (missing : store.entered? location = none) :
    store.sameFile location location' ↔ location' = location := by
  rw [sameFile_iff, missing]
  simp

theorem node?_create (store : Store) (location location' : Location) (content : Option String) :
    (store.create location content).node? location' =
      if location' = location then some (.ofContent content) else store.node? location' := by
  by_cases there : location' = location
  · simp [node?, create, there, Entry.node]
  · simp only [node?, create, if_neg there]
    cases entered : store.entered? location' with
    | none => rfl
    | some entry =>
      cases entry with
      | directory => rfl
      | link target => rfl
      | file number =>
        have old : number ≠ store.taken := Nat.ne_of_lt (store.numbered entered)
        simp only [Option.map_some, Entry.node, if_neg old]

theorem node?_put_eq (store : Store) (location location' : Location) (node : Node) :
    (store.put location node).node? location' =
      if location' = location then some node else store.node? location' := by
  cases node with
  | file text => exact node?_create store location location' (some text)
  | binary => exact node?_create store location location' none
  | directory | link target =>
    by_cases there : location' = location
    · simp [node?, put, enter, there, Entry.node]
    · simp [node?, put, enter, there]

theorem node?_overwrite (store : Store) (number : Nat) (text : String) (location : Location) :
    (store.overwrite number text).node? location =
      if store.entered? location = some (.file number) then some (.file text)
      else store.node? location := by
  rw [node?, node?, overwrite]
  cases store.entered? location with
  | none => rfl
  | some entry =>
    cases entry with
    | directory | link target => rfl
    | file number' =>
      by_cases same : number' = number <;> simp [same, Entry.node, Node.ofContent]

/-- Under every name of the file that is written there is the text, and elsewhere what there was. -/
theorem node?_write (store : Store) (location location' : Location) (text : String) :
    (store.write location text).node? location' =
      if store.sameFile location location' then some (.file text) else store.node? location' := by
  unfold write
  split
  · rename_i number entered
    have same : store.entered? location' = some (.file number) ↔
        store.sameFile location location' := by
      rw [sameFile_iff, entered]
      constructor
      · exact fun entered' => .inr ⟨number, rfl, entered'⟩
      · rintro (rfl | ⟨_, ⟨⟩, entered'⟩)
        · exact entered
        · exact entered'
    rw [node?_overwrite]
    simp only [same]
  · rename_i noFile
    have alone : location' = location ↔ store.sameFile location location' := by
      rw [sameFile_iff]
      refine ⟨.inl, ?_⟩
      rintro (there | ⟨number, entered, -⟩)
      · exact there
      · exact absurd entered (noFile number)
    rw [node?_put_eq]
    simp only [alone]

theorem node?_write_of_same (same : store.sameFile location location') :
    (store.write location text).node? location' = some (.file text) := by
  rw [node?_write, if_pos same]

theorem node?_write_of_other (elsewhere : ¬ store.sameFile location location') :
    (store.write location text).node? location' = store.node? location' := by
  rw [node?_write, if_neg elsewhere]

theorem entered?_write_of_ne (elsewhere : location' ≠ location) :
    (store.write location text).entered? location' = store.entered? location' := by
  unfold write
  split
  · rfl
  · exact if_neg elsewhere

theorem node?_without (store : Store) (location location' : Location) :
    (store.without location).node? location' =
      if store.sameFile location location' then none else store.node? location' := by
  rw [node?, without, restrict]
  by_cases same : store.sameFile location location' <;> simp [same, node?]

theorem node?_without_of_same (same : store.sameFile location location') :
    (store.without location).node? location' = none := by
  rw [node?_without, if_pos same]

theorem node?_without_of_other (elsewhere : ¬ store.sameFile location location') :
    (store.without location).node? location' = store.node? location' := by
  rw [node?_without, if_neg elsewhere]

theorem entered?_eq_none_iff : store.entered? location = none ↔ store.node? location = none := by
  rw [node?, Option.map_eq_none_iff]

theorem without_of_missing (missing : store.node? location = none) :
    store.without location = store := by
  have nothing := entered?_eq_none_iff.mpr missing
  refine Store.ext (funext fun other => ?_) rfl rfl
  rw [without, restrict]
  by_cases there : other = location
  · simp [there, nothing]
  · have elsewhere : store.sameFile location other = false :=
      Bool.eq_false_iff.mpr (mt (sameFile_of_missing nothing).mp there)
    simp [elsewhere]

/-! ### Ways -/

/-- What is at another name of a file is a file. -/
theorem isFile_of_sameFile (vacant : ∀ node, store.node? location = some node → node.isFile)
    (same : store.sameFile location location') (found : store.node? location' = some node) :
    node.isFile := by
  rcases sameFile_iff.mp same with rfl | ⟨number, -, entered⟩
  · exact vacant node found
  · rw [node?_of_entry entered, Option.some.injEq, Entry.node] at found
    subst found
    cases store.content number <;> rfl

theorem sameWays_write (vacant : ∀ node, store.node? location = some node → node.isFile)
    (text : String) : SameWays store (store.write location text) := by
  constructor
  · intro location'
    by_cases same : store.sameFile location location'
    · rw [node?_write_of_same same]
      refine iff_of_false (fun found => ?_) (by simp)
      cases isFile_of_sameFile vacant same found
    · rw [node?_write_of_other same]
  · intro location' target
    by_cases same : store.sameFile location location'
    · rw [node?_write_of_same same]
      refine iff_of_false (fun found => ?_) (by simp)
      cases isFile_of_sameFile vacant same found
    · rw [node?_write_of_other same]

theorem sameWays_write_without (store : Store) (location : Location) (text : String) :
    SameWays (store.write location text) (store.without location) := by
  constructor
  · intro location'
    by_cases same : store.sameFile location location'
    · simp [node?_write_of_same same, node?_without_of_same same]
    · rw [node?_write_of_other same, node?_without_of_other same]
  · intro location' target
    by_cases same : store.sameFile location location'
    · simp [node?_write_of_same same, node?_without_of_same same]
    · rw [node?_write_of_other same, node?_without_of_other same]

/-! ### Looking and writing -/

/-- A path that leads to a file leads to nothing once that is gone. -/
theorem not_isThere_without (resolved : store.resolve here p = .ok location)
    (vacant : ∀ node, store.node? location = some node → node.isFile) :
    ¬ (store.without location).isThere here p := by
  rintro there
  obtain ⟨location', node, resolved', found⟩ := isThere_iff.mp there
  have ways := (sameWays_write vacant "").trans (sameWays_write_without store location "")
  obtain rfl : location = location' :=
    Except.ok.inj ((ways.resolve_eq_ok resolved).symm.trans resolved')
  cases (node?_without_of_same (sameFile_self store location)).symm.trans found

/-- With a file written, a path leads to it, under one of its names, or there is what there is
without it. -/
theorem look_write_iff : (store.write location text).look here p = .ok node ↔
    (∃ name, (store.write location text).resolve here p = .ok name ∧
      store.sameFile location name ∧ node = .file text) ∨
      (store.without location).look here p = .ok node := by
  have ways := sameWays_write_without store location text
  rw [look_eq_ok_iff, look_eq_ok_iff]
  constructor
  · rintro ⟨location', resolved, found⟩
    by_cases same : store.sameFile location location'
    · rw [node?_write_of_same same, Option.some.injEq] at found
      exact .inl ⟨location', resolved, same, found.symm⟩
    · rw [node?_write_of_other same, ← node?_without_of_other same] at found
      exact .inr ⟨location', ways.resolve_eq_ok resolved, found⟩
  · rintro (⟨name, resolved, same, rfl⟩ | ⟨location', resolved, found⟩)
    · exact ⟨name, resolved, node?_write_of_same same⟩
    · have elsewhere : ¬ store.sameFile location location' := by
        intro same
        rw [node?_without_of_same same] at found
        cases found
      rw [node?_without_of_other elsewhere, ← node?_write_of_other elsewhere] at found
      exact ⟨location', ways.symm.resolve_eq_ok resolved, found⟩

theorem readText_write (resolved : store.resolve here p = .ok location)
    (vacant : ∀ node, store.node? location = some node → node.isFile) :
    (store.write location text).readText here p = .ok text :=
  readText_of_look (look_eq_ok_iff.mpr ⟨location,
    (sameWays_write vacant text).resolve_eq_ok resolved, node?_write_of_same (sameFile_self _ _)⟩)

/-- Writing needs a file, or a place for a new one in a directory; it changes nothing but the file
there. -/
theorem writeText_eq_ok_iff {after : Store} : store.writeText here p text = .ok after ↔
    ∃ location, store.resolve here p = .ok location ∧
      (∀ node, store.node? location = some node → node.isFile) ∧
      (store.node? location = none → store.node? location.dropLast = some .directory) ∧
      after = store.write location text := by
  rw [writeText]
  cases store.resolve here p with
  | error e => simp
  | ok location =>
    cases found : store.node? location with
    | none =>
      cases above : store.node? location.dropLast with
      | none => simp [found, above]
      | some node => cases node <;> simp [found, above, @eq_comm _ after]
    | some node => cases node <;> simp [found, Node.isFile, @eq_comm _ after]

end SearchQuery.Store
