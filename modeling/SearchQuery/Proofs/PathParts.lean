import SearchQuery.Path

/-!
# Parts of a path

The parts of a path are its components, with the root or the leading dot as one of them. A name
joined to a path is one more part at the end, and the parent has one part less. So the paths from a
directory upward, and the files of one name in them, are all different as components go, however
their texts are written.
-/
namespace SearchQuery

namespace Path

def Anchor.parts : Anchor → List (List Char)
  | root => [['/']]
  | dot => [['.']]
  | free => []

/-- The components of a path, the root or the leading dot included. -/
def parts (p : Path) : List (List Char) := p.components.1.parts ++ p.components.2

theorem same_iff {p q : Path} : p.same q = true ↔ p.components = q.components := by
  rw [same, decide_eq_true_iff]

theorem same_refl (p : Path) : p.same p = true := same_iff.mpr rfl

theorem same_comm (p q : Path) : p.same q = q.same p :=
  Bool.eq_iff_iff.mpr (by rw [same_iff, same_iff]; exact eq_comm)

theorem parts_eq_of_same {p q : Path} (alike : p.same q = true) : p.parts = q.parts := by
  rw [parts, parts, same_iff.mp alike]

/-! ### The start of a text -/

/-- The end of the text, or a slash. -/
def EndsPart (cs : List Char) : Prop := ∀ c ∈ cs.head?, c = '/'

/-- What stands behind an anchor when a text is cut there. -/
def Anchor.Fits : Anchor → List Char → Prop
  | root, _ => True
  | dot, body => EndsPart body
  | free, body => body.head? ≠ some '/' ∧ ∀ rest, body = '.' :: rest → ¬ EndsPart rest

theorem endsPart_append_slash {cs : List Char} (tail : List Char) :
    EndsPart (cs ++ '/' :: tail) ↔ EndsPart cs := by
  cases cs with
  | nil => simp [EndsPart]
  | cons c cs => rfl

theorem EndsPart.of_isPrefix {cs front : List Char} (ends : EndsPart cs) (part : front <+: cs) :
    EndsPart front := by
  obtain ⟨tail, rfl⟩ := part
  cases front with
  | nil => simp [EndsPart]
  | cons c front => exact ends

theorem fits_anchored (cs : List Char) : (anchored cs).1.Fits (anchored cs).2 := by
  unfold anchored
  split
  · trivial
  · simp [Anchor.Fits, EndsPart]
  · simp [Anchor.Fits, EndsPart]
  · rename_i noroot lone start
    refine ⟨?_, ?_⟩
    · intro slash
      obtain ⟨body, rfl⟩ := List.head?_eq_some_iff.mp slash
      exact noroot body rfl
    · rintro rest rfl ends
      cases rest with
      | nil => exact lone rfl
      | cons c rest =>
        obtain rfl : c = '/' := ends c rfl
        exact start rest rfl

theorem anchored_of_fits {anchor : Anchor} {body : List Char} (fits : anchor.Fits body) :
    anchored (anchor.chars ++ body) = (anchor, body) := by
  cases anchor with
  | root => rfl
  | dot =>
    cases body with
    | nil => rfl
    | cons c body =>
      obtain rfl : c = '/' := fits c rfl
      rfl
  | free =>
    obtain ⟨noslash, nodot⟩ := fits
    show anchored body = (.free, body)
    unfold anchored
    split
    · exact absurd rfl noslash
    · exact absurd (by simp [EndsPart]) (nodot [] rfl)
    · exact absurd (by simp [EndsPart]) (nodot _ rfl)
    · rfl

theorem Anchor.Fits.of_isPrefix {anchor : Anchor} {body front : List Char} (fits : anchor.Fits body)
    (part : front <+: body) (lone : front ≠ ['.']) : anchor.Fits front := by
  cases anchor with
  | root => trivial
  | dot => exact EndsPart.of_isPrefix fits part
  | free =>
    obtain ⟨tail, rfl⟩ := part
    refine ⟨?_, ?_⟩
    · intro slash
      exact fits.1 (by simp [slash])
    · rintro rest rfl ends
      cases rest with
      | nil => exact lone rfl
      | cons c rest => exact fits.2 (c :: (rest ++ tail)) rfl ends

theorem Anchor.Fits.append_slash {anchor : Anchor} {body : List Char} (fits : anchor.Fits body)
    (written : anchor.chars ++ body ≠ []) (tail : List Char) :
    anchor.Fits (body ++ '/' :: tail) := by
  cases anchor with
  | root => trivial
  | dot => exact (endsPart_append_slash tail).mpr fits
  | free =>
    obtain ⟨c, body, rfl⟩ := List.exists_cons_of_ne_nil (l := body) written
    refine ⟨fits.1, ?_⟩
    rintro rest shape ends
    obtain ⟨rfl, rfl⟩ := List.cons.inj shape
    exact fits.2 body rfl ((endsPart_append_slash tail).mp ends)

/-- What follows a slash does not matter to the anchor in front. -/
theorem Anchor.Fits.replace_tail {anchor : Anchor} {body tail : List Char}
    (fits : anchor.Fits (body ++ '/' :: tail)) (other : List Char) :
    anchor.Fits (body ++ '/' :: other) := by
  cases anchor with
  | root => trivial
  | dot => exact (endsPart_append_slash other).mpr ((endsPart_append_slash tail).mp fits)
  | free =>
    cases body with
    | nil => exact absurd rfl fits.1
    | cons c body =>
      refine ⟨fits.1, ?_⟩
      intro rest shape ends
      obtain ⟨rfl, rfl⟩ := List.cons.inj shape
      exact fits.2 (body ++ '/' :: tail) rfl
        ((endsPart_append_slash tail).mpr ((endsPart_append_slash other).mp ends))

/-! ### One part more -/

theorem exists_text (p : Path) : ∃ (anchor : Anchor) (body : List Char),
    p.text.toList = anchor.chars ++ body ∧ anchor.Fits body :=
  ⟨_, _, (chars_anchored _).symm, fits_anchored _⟩

theorem components_of_text {p : Path} {anchor : Anchor} {body : List Char}
    (text : p.text.toList = anchor.chars ++ body) (fits : anchor.Fits body) :
    p.components = (anchor, (Text.split '/' body).filter (!isSkipped ·)) := by
  rw [components, text, anchored_of_fits fits]

/-- A name that is one component of a path. -/
structure PlainName (name : String) : Prop where
  slashless : '/' ∉ name.toList
  kept : isSkipped name.toList = false

namespace PlainName

variable {name : String}

theorem split_eq (plain : PlainName name) : Text.split '/' name.toList = [name.toList] :=
  Text.split_of_notMem plain.slashless

theorem filter_split (plain : PlainName name) (body : List Char) :
    (Text.split '/' (body ++ '/' :: name.toList)).filter (!isSkipped ·) =
      (Text.split '/' body).filter (!isSkipped ·) ++ [name.toList] := by
  rw [Text.split_append_separator, plain.split_eq, List.filter_append]
  simp [plain.kept]

theorem fits_free (plain : PlainName name) : Anchor.free.Fits name.toList := by
  have slashless := plain.slashless
  have kept := plain.kept
  refine ⟨?_, ?_⟩
  · intro slash
    exact slashless (List.mem_of_mem_head? slash)
  · intro rest shape ends
    rw [shape] at slashless kept
    cases rest with
    | nil => exact absurd kept (by decide)
    | cons c rest =>
      obtain rfl : c = '/' := ends c rfl
      exact slashless (by simp)

end PlainName

/-- A text that is empty or ends in a slash takes the name as it is. -/
theorem components_append_name {p : Path} {name : String} (plain : PlainName name)
    (ready : p.text.toList = [] ∨ p.text.toList.getLast? = some '/') :
    (⟨p.text ++ name⟩ : Path).components = (p.components.1, p.components.2 ++ [name.toList]) := by
  obtain ⟨anchor, body, text, fits⟩ := p.exists_text
  have joined : (p.text ++ name).toList = anchor.chars ++ (body ++ name.toList) := by simp [text]
  rw [components_of_text text fits]
  rcases body.eq_nil_or_concat with rfl | ⟨front, c, rfl⟩
  · have fits_name : anchor.Fits name.toList := by
      cases anchor with
      | root => trivial
      | dot => simp [text, Anchor.chars] at ready
      | free => exact plain.fits_free
    rw [components_of_text joined fits_name, List.nil_append, plain.split_eq]
    have skipped : isSkipped [] = true := rfl
    simp [Text.split, plain.kept, skipped]
  · rw [List.concat_eq_append] at *
    obtain rfl : c = '/' := by simpa [text] using ready
    rw [List.append_assoc, List.singleton_append] at joined
    rw [components_of_text joined (fits.replace_tail _), plain.filter_split,
      Text.split_append_separator]
    simp [Text.split, isSkipped]

theorem components_child (p : Path) {name : String} (plain : PlainName name) :
    (p.child name).components = (p.components.1, p.components.2 ++ [name.toList]) := by
  unfold child
  by_cases h : p.text.isEmpty || p.text.toList.getLast? = some '/'
  · rw [if_pos h]
    exact components_append_name plain (by simpa using h)
  · rw [if_neg h]
    obtain ⟨anchor, body, text, fits⟩ := p.exists_text
    have written : anchor.chars ++ body ≠ [] := by
      rw [← text]
      intro empty
      simp [String.toList_eq_nil_iff.mp empty] at h
    have joined : (p.text ++ "/" ++ name).toList =
        anchor.chars ++ (body ++ '/' :: name.toList) := by simp [text]
    rw [components_of_text joined (fits.append_slash written _), plain.filter_split,
      components_of_text text fits]

/-- The name of a file in a directory is the last part of its path. -/
theorem parts_child (p : Path) {name : String} (plain : PlainName name) :
    (p.child name).parts = p.parts ++ [name.toList] := by
  rw [parts, components_child p plain, ← List.append_assoc, ← parts]

/-! ### One part less -/

theorem filter_trim (parts : List (List Char)) :
    (trim parts).filter (!isSkipped ·) = parts.filter (!isSkipped ·) := by
  have front : ∀ ps : List (List Char),
      (ps.dropWhile isSkipped).filter (!isSkipped ·) = ps.filter (!isSkipped ·) := by
    intro ps
    induction ps with
    | nil => rfl
    | cons part ps ih =>
      by_cases skipped : isSkipped part
      · simp [skipped, ih]
      · simp [skipped]
  rw [trim, List.filter_reverse, front, List.filter_reverse, List.reverse_reverse]

theorem trim_isPrefix (parts : List (List Char)) : trim parts <+: parts := trim_append parts

theorem filter_split_join {parts : List (List Char)} (slashless : ∀ part ∈ parts, '/' ∉ part) :
    (Text.split '/' (Text.join '/' parts)).filter (!isSkipped ·) = parts.filter (!isSkipped ·) := by
  by_cases h : parts = []
  · rw [h]
    rfl
  · rw [Text.split_join h slashless]

theorem join_trim_ne_dot {parts : List (List Char)} (slashless : ∀ part ∈ parts, '/' ∉ part) :
    Text.join '/' (trim parts) ≠ ['.'] := by
  intro dot
  by_cases h : trim parts = []
  · rw [h] at dot
    cases dot
  · have cut := Text.split_join h fun part member => slashless part ((trim_isPrefix _).subset member)
    rw [dot] at cut
    have last := getLast_trim h
    simp only [← cut] at last
    cases last

/-- What the text of a parent is made of: the components but the last. -/
theorem filter_trim_dropLast {parts : List (List Char)} (some_left : trim parts ≠ []) :
    parts.filter (!isSkipped ·) = (trim (trim parts).dropLast).filter (!isSkipped ·) ++
      [(trim parts).getLast some_left] := by
  calc parts.filter (!isSkipped ·)
      = ((trim parts).dropLast ++ [(trim parts).getLast some_left]).filter (!isSkipped ·) := by
        rw [List.dropLast_concat_getLast, filter_trim]
    _ = (trim parts).dropLast.filter (!isSkipped ·) ++ [(trim parts).getLast some_left] := by
        rw [List.filter_append]
        simp [getLast_trim some_left]
    _ = _ := by rw [filter_trim]

/-- The text of a parent is cut behind a component, so it has the components that it shows. -/
theorem components_cut {anchor : Anchor} {body : List Char} (fits : anchor.Fits body) :
    (⟨String.ofList (anchor.chars ++ Text.join '/' (trim (trim (Text.split '/' body)).dropLast))⟩ :
      Path).components =
        (anchor, (trim (trim (Text.split '/' body)).dropLast).filter (!isSkipped ·)) := by
  have inner : (trim (Text.split '/' body)).dropLast <+: Text.split '/' body :=
    (List.dropLast_prefix _).trans (trim_isPrefix _)
  have slashless : ∀ part ∈ (trim (Text.split '/' body)).dropLast, '/' ∉ part :=
    fun part member => Text.notMem_of_mem_split (inner.subset member)
  have front : Text.join '/' (trim (trim (Text.split '/' body)).dropLast) <+: body := by
    conv => rhs; rw [← Text.join_split '/' body]
    exact Text.join_isPrefix ((trim_isPrefix _).trans inner)
  rw [components, String.toList_ofList,
    anchored_of_fits (fits.of_isPrefix front (join_trim_ne_dot slashless))]
  simp only
  rw [filter_split_join fun part member => slashless part ((trim_isPrefix _).subset member)]

/-- A parent has one part less. -/
theorem parts_of_parent {p q : Path} (parent : p.parent? = some q) :
    ∃ last, p.parts = q.parts ++ [last] := by
  obtain ⟨anchor, body, text, fits⟩ := p.exists_text
  have components := components_of_text text fits
  unfold parent? at parent
  rw [text, anchored_of_fits fits] at parent
  simp only at parent
  split at parent
  · -- A lone dot, whose parent is the empty path.
    rename_i none_left
    cases parent
    have skipped : (Text.split '/' body).filter (!isSkipped ·) = [] := by
      rw [← filter_trim, none_left]
      rfl
    exact ⟨['.'], by rw [parts, components, skipped]; rfl⟩
  · cases parent
  · rename_i trimmed
    cases parent
    have some_left : trim (Text.split '/' body) ≠ [] := by rw [trimmed]; simp
    refine ⟨(trim (Text.split '/' body)).getLast some_left, ?_⟩
    rw [← trimmed, parts, parts, components, components_cut fits, List.append_assoc,
      ← filter_trim_dropLast some_left]

/-- A path with a component has a parent, which has all components but the last. -/
theorem exists_parent {p : Path} (some_left : p.components.2 ≠ []) :
    ∃ q last, p.parent? = some q ∧ p.components = (q.components.1, q.components.2 ++ [last]) := by
  obtain ⟨anchor, body, text, fits⟩ := p.exists_text
  rw [components_of_text text fits] at some_left ⊢
  have kept : trim (Text.split '/' body) ≠ [] := by
    intro none_left
    rw [← filter_trim, none_left] at some_left
    exact some_left rfl
  obtain ⟨part, parts, trimmed⟩ := List.exists_cons_of_ne_nil kept
  refine ⟨⟨String.ofList (anchor.chars ++
      Text.join '/' (trim (trim (Text.split '/' body)).dropLast))⟩,
    (trim (Text.split '/' body)).getLast kept, ?_, ?_⟩
  · unfold parent?
    rw [text, anchored_of_fits fits]
    simp only [trimmed]
  · rw [components_cut fits, ← filter_trim_dropLast kept]

/-- The parent of the path of a name in a directory has the components of the directory. -/
theorem exists_parent_child (p : Path) {name : String} (plain : PlainName name) :
    ∃ q, (p.child name).parent? = some q ∧ q.components = p.components := by
  have child := components_child p plain
  obtain ⟨q, last, parent, components⟩ := exists_parent (p := p.child name) (by simp [child])
  obtain ⟨anchors, parts⟩ := Prod.mk.inj (components.symm.trans child)
  exact ⟨q, parent, Prod.ext anchors (List.append_inj_left' parts rfl)⟩

/-! ### Upward -/

theorem ancestors_of_parent {p q : Path} (parent : p.parent? = some q) :
    p.ancestors = p :: q.ancestors := by
  rw [ancestors]
  split
  · simp_all
  · simp_all

theorem ancestors_of_top {p : Path} (top : p.parent? = none) : p.ancestors = [p] := by
  rw [ancestors]
  split
  · rfl
  · simp_all

theorem length_parts_of_mem_ancestors {p q : Path} (member : q ∈ p.ancestors) :
    q.parts.length ≤ p.parts.length := by
  induction p using ancestors.induct with
  | case1 p top =>
    rw [ancestors_of_top top, List.mem_singleton] at member
    exact Nat.le_of_eq (by rw [member])
  | case2 p inner parent _ ih =>
    rw [ancestors_of_parent parent, List.mem_cons] at member
    obtain ⟨last, parts⟩ := parts_of_parent parent
    rcases member with rfl | above
    · exact Nat.le_refl _
    · rw [parts, List.length_append]
      exact Nat.le_add_right_of_le (ih above)

/-- Upward, the parts get fewer with every step. -/
theorem ancestors_pairwise (p : Path) :
    p.ancestors.Pairwise fun q r => r.parts.length < q.parts.length := by
  induction p using ancestors.induct with
  | case1 p top =>
    rw [ancestors_of_top top]
    exact List.pairwise_singleton _ _
  | case2 p inner parent _ ih =>
    rw [ancestors_of_parent parent]
    refine List.pairwise_cons.mpr ⟨?_, ih⟩
    intro r above
    obtain ⟨last, parts⟩ := parts_of_parent parent
    rw [parts, List.length_append]
    exact Nat.lt_succ_of_le (length_parts_of_mem_ancestors above)

/-- The files of one name in a directory and those above are all different. -/
theorem children_pairwise (p : Path) {name : String} (plain : PlainName name) :
    (p.ancestors.map (·.child name)).Pairwise fun q r => q.same r = false := by
  refine List.pairwise_map.mpr (p.ancestors_pairwise.imp ?_)
  intro q r fewer
  refine Bool.eq_false_iff.mpr fun alike => ?_
  have equal := parts_eq_of_same alike
  rw [parts_child q plain, parts_child r plain] at equal
  rw [List.append_cancel_right equal] at fewer
  exact Nat.lt_irrefl _ fewer

end Path
end SearchQuery
