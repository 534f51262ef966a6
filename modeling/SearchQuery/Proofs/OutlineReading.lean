import Mathlib.Data.List.Forall2
import SearchQuery.Proofs.Collapsing
import SearchQuery.Proofs.QuotedText
import SearchQuery.Text.Split
import SearchQuery.Tree.Rendering

/-!
# Reading outlines

The outline of a tree has one line for each node, and the depth of the node is all that a line says
of its place. That is enough: read from the last line to the first, the nodes that wait for a parent
stand by their depths, and a node at some depth takes those in front that are one deeper. The lines
are told apart because no text in them holds a line break.
-/
namespace SearchQuery.Tree

mutual

/-- The trees in a tree with their depths, each before those that are in it. -/
def levels (depth : Nat) : Tree → List (Nat × Tree)
  | leaf text => [(depth, leaf text)]
  | operator op children => (depth, operator op children) :: levelsAll (depth + 1) children
  | logical connective children =>
    (depth, logical connective children) :: levelsAll (depth + 1) children

def levelsAll (depth : Nat) : List Tree → List (Nat × Tree)
  | [] => []
  | t :: ts => levels depth t ++ levelsAll depth ts

end

namespace Outline

/-- What a line says of a node. -/
inductive Label where
  | leaf (text : String)
  | operator (op : Operator)
  | logical (connective : Connective)
  deriving DecidableEq, Repr

/-- What a line calls a node. -/
def Label.kind : Label → List Char
  | leaf _ => ['L', 'e', 'a', 'f', '(']
  | operator _ => ['O', 'p', 'e', 'r', 'a', 't', 'o', 'r', '(']
  | logical _ => ['L', 'o', 'g', 'i', 'c', 'a', 'l', '(']

def Label.inside : Label → List Char
  | leaf text => (Text.quoted text).toList
  | operator op => op.name.toList
  | logical connective => connective.name.toList

def Label.text (label : Label) : List Char := label.kind ++ (label.inside ++ [')'])

def label : Tree → Label
  | leaf text => .leaf text
  | operator op _ => .operator op
  | logical connective _ => .logical connective

/-- The node of a label; a leaf has no children. -/
def Label.node? : Label → List Tree → Option Tree
  | leaf text, [] => some (.leaf text)
  | leaf _, _ :: _ => none
  | operator op, children => some (.operator op children)
  | logical connective, children => some (.logical connective children)

abbrev Row := Nat × Label

def Row.text (row : Row) : List Char := List.replicate (2 * row.1) ' ' ++ row.2.text

/-- The labels without a text of their own. -/
def named : List Label := Operator.all.map .operator ++ [.logical .and, .logical .or]

def Label.ofText? : List Char → Option Label
  | 'L' :: 'e' :: 'a' :: 'f' :: '(' :: '"' :: inside =>
    match Text.Quoted.content inside with
    | some (text, [')']) => some (.leaf (String.ofList text))
    | _ => none
  | text => named.find? (·.text = text)

/-- A row, from a line that starts with an even number of spaces. -/
def Row.ofText? (line : List Char) : Option Row :=
  let spaces := (line.takeWhile (· = ' ')).length
  if spaces % 2 = 0 then
    (Label.ofText? (line.dropWhile (· = ' '))).map (spaces / 2, ·)
  else none

/-- The trees that wait for a parent, with their depths, once a row is read in front of them. -/
def place (row : Row) (waiting : List (Nat × Tree)) : Option (List (Nat × Tree)) := do
  let node ← row.2.node? ((waiting.takeWhile (·.1 = row.1 + 1)).map (·.2))
  return (row.1, node) :: waiting.dropWhile (·.1 = row.1 + 1)

end Outline

/-- The tree that an outline shows. -/
def ofOutline? (text : String) : Option Tree := do
  let rows ← (Text.split '\n' text.toList).dropLast.mapM Outline.Row.ofText?
  match rows.foldrM Outline.place [] with
  | some [(0, t)] => some t
  | _ => none

/-! ### The lines of an outline -/

mutual

theorem map_levels (depth : Nat) (t : Tree) : (levels depth t).map (·.2) = subtrees t := by
  cases t with
  | leaf text => rfl
  | operator op children =>
    rw [levels, subtrees, List.map_cons, map_levelsAll (depth + 1) children]
  | logical connective children =>
    rw [levels, subtrees, List.map_cons, map_levelsAll (depth + 1) children]

theorem map_levelsAll (depth : Nat) (ts : List Tree) :
    (levelsAll depth ts).map (·.2) = subtreesAll ts := by
  cases ts with
  | nil => rfl
  | cons t ts =>
    rw [levelsAll, subtreesAll, List.map_append, map_levels depth t, map_levelsAll depth ts]

end

example : levels 0 (logical .or [leaf "a", operator .not [leaf "b"]]) =
    [(0, logical .or [leaf "a", operator .not [leaf "b"]]), (1, leaf "a"),
      (1, operator .not [leaf "b"]), (2, leaf "b")] := rfl

namespace Outline

/-- The row of a node. -/
def row (level : Nat × Tree) : Row := (level.1, label level.2)

end Outline

mutual

theorem outlineLines_eq (depth : Nat) (t : Tree) :
    (outlineLines depth t).map String.toList =
      ((levels depth t).map Outline.row).map Outline.Row.text := by
  cases t with
  | leaf text =>
    simp [outlineLines, levels, Outline.row, Outline.Row.text, Outline.label, Outline.Label.text,
      Outline.Label.kind, Outline.Label.inside, Outline.indent]
  | operator op children =>
    rw [outlineLines, levels, List.map_cons, List.map_cons, List.map_cons,
      outlinesLines_eq (depth + 1) children]
    simp [Outline.row, Outline.Row.text, Outline.label, Outline.Label.text,
      Outline.Label.kind, Outline.Label.inside, Outline.indent]
  | logical connective children =>
    rw [outlineLines, levels, List.map_cons, List.map_cons, List.map_cons,
      outlinesLines_eq (depth + 1) children]
    simp [Outline.row, Outline.Row.text, Outline.label, Outline.Label.text,
      Outline.Label.kind, Outline.Label.inside, Outline.indent]

theorem outlinesLines_eq (depth : Nat) (ts : List Tree) :
    (outlinesLines depth ts).map String.toList =
      ((levelsAll depth ts).map Outline.row).map Outline.Row.text := by
  cases ts with
  | nil => rfl
  | cons t ts =>
    rw [outlinesLines, levelsAll, List.map_append, List.map_append, List.map_append,
      outlineLines_eq depth t, outlinesLines_eq depth ts]

end

/-- The lines of the outline of a tree, without what ends them. -/
def lines (t : Tree) : List (List Char) := ((levels 0 t).map Outline.row).map Outline.Row.text

theorem toList_outline (t : Tree) : t.outline.toList = t.lines.flatMap (· ++ ['\n']) := by
  rw [outline, String.toList_join, lines, ← outlineLines_eq, List.flatMap_map, List.flatMap_map]
  apply List.flatMap_congr
  intro line _
  rw [String.toList_append]
  rfl

namespace Outline

theorem newline_notMem_inside (label : Label) : '\n' ∉ label.inside := by
  cases label with
  | leaf text =>
    intro member
    rw [Label.inside, Text.quoted, String.toList_ofList] at member
    have space := Text.Quoted.eq_space_of_mem_encode member (by decide)
    exact absurd space (by decide)
  | operator op => cases op <;> decide
  | logical connective => cases connective <;> decide

theorem newline_notMem_text (row : Row) : '\n' ∉ row.text := by
  have indented : '\n' ∉ List.replicate (2 * row.1) ' ' := by
    intro member
    exact absurd (List.eq_of_mem_replicate member) (by decide)
  have called : '\n' ∉ row.2.kind := by
    cases row.2 <;> simp [Label.kind]
  rw [Row.text, Label.text]
  simp only [List.mem_append, List.mem_singleton, not_or]
  exact ⟨indented, called, newline_notMem_inside row.2, by decide⟩

/-! ### Reading a line -/

theorem Label.ofText?_text (label : Label) : Label.ofText? label.text = some label := by
  cases label with
  | leaf text =>
    have read := Text.Quoted.content_encode text.toList [')']
    have written : (Label.leaf text).text =
        'L' :: 'e' :: 'a' :: 'f' :: '(' :: '"' ::
          (text.toList.flatMap Text.Quoted.escape ++ '"' :: [')']) := by
      simp [Label.text, Label.kind, Label.inside, Text.quoted, Text.Quoted.encode]
    rw [written, Label.ofText?, read]
    simp only [String.ofList_toList]
  | operator op => cases op <;> decide
  | logical connective => cases connective <;> decide

theorem Label.exists_text (label : Label) : ∃ c rest, label.text = c :: rest ∧ c ≠ ' ' := by
  cases label with
  | leaf text => exact ⟨'L', _, rfl, by decide⟩
  | operator op => exact ⟨'O', _, rfl, by decide⟩
  | logical connective => exact ⟨'L', _, rfl, by decide⟩

theorem Row.ofText?_text (row : Row) : Row.ofText? row.text = some row := by
  obtain ⟨c, rest, begun, visible⟩ := row.2.exists_text
  have spaces : ∀ d ∈ List.replicate (2 * row.1) ' ', decide (d = ' ') = true := by
    intro d member
    exact decide_eq_true (List.eq_of_mem_replicate member)
  have indented : row.text.takeWhile (· = ' ') = List.replicate (2 * row.1) ' ' := by
    rw [Row.text, List.takeWhile_append_of_pos spaces, begun,
      List.takeWhile_cons_of_neg (by simpa using visible), List.append_nil]
  have behind : row.text.dropWhile (· = ' ') = row.2.text := by
    rw [Row.text, List.dropWhile_append_of_pos spaces, begun,
      List.dropWhile_cons_of_neg (by simpa using visible)]
  have even : 2 * row.1 % 2 = 0 := by omega
  have half : 2 * row.1 / 2 = row.1 := by omega
  rw [Row.ofText?, indented, behind, List.length_replicate]
  simp only [even, half, if_true, Label.ofText?_text, Option.map_some]

/-! ### Putting nodes under their parents -/

theorem Label.node?_label (t : Tree) : (label t).node? t.children = some t := by
  cases t <;> rfl

theorem place_children {depth : Nat} {label : Label} {children : List Tree} {node : Tree}
    {waiting : List (Nat × Tree)} (built : label.node? children = some node)
    (above : ∀ first ∈ waiting.head?, first.1 ≤ depth) :
    place (depth, label) (children.map (depth + 1, ·) ++ waiting) =
      some ((depth, node) :: waiting) := by
  have below : ∀ level ∈ children.map (depth + 1, ·), decide (level.1 = depth + 1) = true := by
    intro level member
    obtain ⟨child, -, rfl⟩ := List.mem_map.mp member
    exact decide_eq_true rfl
  have apart : waiting.takeWhile (·.1 = depth + 1) = [] ∧
      waiting.dropWhile (·.1 = depth + 1) = waiting := by
    cases waiting with
    | nil => exact ⟨rfl, rfl⟩
    | cons first others =>
      have higher := above first rfl
      have other : ¬ first.1 = depth + 1 := by omega
      constructor
      · exact List.takeWhile_cons_of_neg (by simpa using other)
      · exact List.dropWhile_cons_of_neg (by simpa using other)
  have taken : (children.map ((depth + 1, ·) : Tree → Nat × Tree)).map (·.2) = children := by
    rw [List.map_map]
    exact List.map_id children
  unfold place
  rw [List.takeWhile_append_of_pos below, List.dropWhile_append_of_pos below, apart.1, apart.2,
    List.append_nil, taken, built]
  rfl

end Outline

mutual

/-- The rows of a tree, read in front of trees that are no deeper, leave the tree in front of
these. -/
theorem foldrM_levels (depth : Nat) (t : Tree) {waiting : List (Nat × Tree)}
    (above : ∀ first ∈ waiting.head?, first.1 ≤ depth) :
    ((levels depth t).map Outline.row).foldrM Outline.place waiting =
      some ((depth, t) :: waiting) := by
  have built := Outline.Label.node?_label t
  cases t with
  | leaf text =>
    rw [levels, List.map_cons, List.foldrM_cons]
    exact Outline.place_children built above
  | operator op children =>
    rw [levels, List.map_cons, List.foldrM_cons, foldrM_levelsAll (depth + 1) children]
    · exact Outline.place_children built above
    · intro first member
      exact Nat.le_succ_of_le (above first member)
  | logical connective children =>
    rw [levels, List.map_cons, List.foldrM_cons, foldrM_levelsAll (depth + 1) children]
    · exact Outline.place_children built above
    · intro first member
      exact Nat.le_succ_of_le (above first member)

theorem foldrM_levelsAll (depth : Nat) (ts : List Tree) {waiting : List (Nat × Tree)}
    (above : ∀ first ∈ waiting.head?, first.1 ≤ depth) :
    ((levelsAll depth ts).map Outline.row).foldrM Outline.place waiting =
      some (ts.map (depth, ·) ++ waiting) := by
  cases ts with
  | nil => rfl
  | cons t ts =>
    rw [levelsAll, List.map_append, List.foldrM_append, foldrM_levelsAll depth ts above]
    apply foldrM_levels depth t
    -- In front of the first tree wait the others, at the same depth, or what waited before.
    intro first member
    cases ts with
    | nil => exact above first member
    | cons u us =>
      cases member
      exact Nat.le_refl depth

end

theorem newline_notMem_lines (t : Tree) : ∀ line ∈ t.lines, '\n' ∉ line := by
  intro line member
  obtain ⟨row, -, rfl⟩ := List.mem_map.mp member
  exact Outline.newline_notMem_text row

theorem split_lines (t : Tree) : Text.split '\n' t.outline.toList = t.lines ++ [[]] := by
  rw [toList_outline]
  exact Text.split_ended (newline_notMem_lines t)

/-- The outline of a tree is read as that tree. -/
theorem ofOutline?_outline (t : Tree) : ofOutline? t.outline = some t := by
  have rows : t.lines.mapM Outline.Row.ofText? = some ((levels 0 t).map Outline.row) := by
    rw [lines, List.mapM_map]
    simp only [Function.comp_def, Outline.Row.ofText?_text]
    have kept := List.mapM_pure (m := Option) (l := (levels 0 t).map Outline.row) (f := id)
    rw [List.map_id] at kept
    exact kept
  unfold ofOutline?
  rw [split_lines, List.dropLast_concat, rows]
  simp only [Option.bind_eq_bind, Option.bind_some]
  rw [foldrM_levels 0 t (by simp)]
  rfl

/-! ### What an outline shows -/

/-- An outline in lines, each of which is ended by a line break and holds no other. -/
structure OutlineOf (t : Tree) (lines : List (List Char)) : Prop where
  ended : t.outline.toList = lines.flatMap (· ++ ['\n'])
  whole : ∀ line ∈ lines, '\n' ∉ line
  count : lines.length = (subtrees t).length
  /-- In the order of the nodes, and each indented by its depth. -/
  shows : List.Forall₂
    (fun level line => ∃ rest,
      line = List.replicate (2 * level.1) ' ' ++ ((Outline.label level.2).kind ++ rest))
    (levels 0 t) lines

theorem outlineOf_lines (t : Tree) : OutlineOf t t.lines where
  ended := toList_outline t
  whole := newline_notMem_lines t
  count := by rw [lines, List.length_map, List.length_map, ← map_levels 0 t, List.length_map]
  shows := by
    rw [lines, List.map_map, List.forall₂_map_right_iff, List.forall₂_same]
    intro level _
    exact ⟨_, rfl⟩

/-- The outline of a tree has one line for each node, in the order of the tree, and shows no other
tree. -/
theorem outline_reads_back (t : Tree) :
    (∃ lines, OutlineOf t lines) ∧ (levels 0 t).map (·.2) = subtrees t ∧
      ofOutline? t.outline = some t ∧ ∀ u : Tree, t.outline = u.outline ↔ t = u := by
  have read := ofOutline?_outline t
  refine ⟨⟨t.lines, outlineOf_lines t⟩, map_levels 0 t, read, fun u => ?_⟩
  constructor
  · intro same
    rw [same, ofOutline?_outline u] at read
    exact (Option.some.inj read).symm
  · intro same
    rw [same]

end SearchQuery.Tree
