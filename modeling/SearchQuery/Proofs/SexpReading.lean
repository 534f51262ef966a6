import SearchQuery.Proofs.QuotedText
import SearchQuery.Tree.Rendering

/-!
# Reading s-expressions

An s-expression is read as any reader of lists would read it: blanks, parentheses and quotes end an
atom, a quoted atom is decoded, and the first atom of a list names its operator. What is read is the
tree that was written, but for one thing that is not written: whether `and` or `or` is held by an
operator node or by a logical one. An s-expression is one line, for it has no blank but spaces.
-/
namespace SearchQuery.Tree

namespace Sexp

inductive Piece where
  | opening | closing
  | atom (text : String)
  deriving DecidableEq, Repr

/-- The pieces of a text; blanks keep them apart. -/
def pieces (cs : List Char) : Option (List Piece) :=
  match cs with
  | [] => some []
  | c :: cs =>
    if Text.isBlank c then pieces cs
    else if c = '(' then (pieces cs).map (.opening :: ·)
    else if c = ')' then (pieces cs).map (.closing :: ·)
    else if c = '"' then
      match h : Text.Quoted.content cs with
      | none => none
      | some (text, rest) =>
        have := Text.Quoted.length_content h
        (pieces rest).map (.atom (String.ofList text) :: ·)
    else
      have := (List.dropWhile_suffix (l := cs) (!isDelimiter ·)).length_le
      (pieces (cs.dropWhile (!isDelimiter ·))).map
        (.atom (String.ofList (c :: cs.takeWhile (!isDelimiter ·))) :: ·)
termination_by cs.length

/-- A list that is not closed yet: its operator, and the trees in front of it. -/
structure Unclosed where
  op : Operator
  before : List Tree

/-- The node of an operator; a connective joins. -/
def node (op : Operator) (children : List Tree) : Tree :=
  match Connective.ofOperator? op with
  | some connective => logical connective children
  | none => operator op children

/-- The trees that the pieces write behind those read last, in the lists that are open. -/
def build : List Unclosed → List Tree → List Piece → Option (List Tree)
  | [], trees, [] => some trees
  | _ :: _, _, [] => none
  | opened, trees, .atom text :: ps => build opened (trees ++ [leaf text]) ps
  | opened, trees, .opening :: .atom name :: ps =>
    match Operator.ofName? name with
    | some op => build (⟨op, trees⟩ :: opened) [] ps
    | none => none
  | list :: opened, trees, .closing :: ps => build opened (list.before ++ [node list.op trees]) ps
  | _, _, _ => none

end Sexp

/-- The tree that an s-expression writes. -/
def ofSexp? (text : String) : Option Tree := do
  let ps ← Sexp.pieces text.toList
  match Sexp.build [] [] ps with
  | some [t] => some t
  | _ => none

mutual

/-- The tree with a logical node wherever an operator node holds a connective. -/
def unified : Tree → Tree
  | leaf text => leaf text
  | operator op children => Sexp.node op (unifiedAll children)
  | logical connective children => logical connective (unifiedAll children)

def unifiedAll : List Tree → List Tree
  | [] => []
  | t :: ts => unified t :: unifiedAll ts

end

namespace Sexp

mutual

/-- The pieces that a tree is written with. -/
def written : Tree → List Piece
  | leaf text => [.atom text]
  | operator op children => .opening :: .atom op.name :: (writtenAll children ++ [.closing])
  | logical connective children =>
    .opening :: .atom connective.name :: (writtenAll children ++ [.closing])

def writtenAll : List Tree → List Piece
  | [] => []
  | t :: ts => written t ++ writtenAll ts

end

/-! ### From a text to its pieces -/

theorem pieces_nil : pieces [] = some [] := by
  rw [pieces]

theorem pieces_space (cs : List Char) : pieces (' ' :: cs) = pieces cs := by
  rw [pieces, if_pos (by decide)]

theorem pieces_opening (cs : List Char) : pieces ('(' :: cs) = (pieces cs).map (.opening :: ·) := by
  rw [pieces, if_neg (by decide), if_pos rfl]

theorem pieces_closing (cs : List Char) : pieces (')' :: cs) = (pieces cs).map (.closing :: ·) := by
  rw [pieces, if_neg (by decide), if_neg (by decide), if_pos rfl]

theorem pieces_quoted (text rest : List Char) :
    pieces (Text.Quoted.encode text ++ rest) =
      (pieces rest).map (.atom (String.ofList text) :: ·) := by
  have read := Text.Quoted.content_encode text rest
  rw [Text.Quoted.encode, List.cons_append, List.cons_append, List.append_assoc,
    List.singleton_append, pieces, if_neg (by decide), if_neg (by decide), if_neg (by decide),
    if_pos rfl]
  split
  · rename_i failed
    cases failed.symm.trans read
  · rename_i found
    cases found.symm.trans read
    rfl

/-- What follows an atom cannot be part of it. -/
def Apart (rest : List Char) : Prop := ∀ c ∈ rest.head?, isDelimiter c = true

theorem closing_apart (rest : List Char) : Apart (')' :: rest) := by
  intro c first
  obtain rfl : ')' = c := by simpa using first
  rfl

theorem pieces_bare {c : Char} {cs rest : List Char} (bare : ∀ d ∈ c :: cs, isDelimiter d = false)
    (apart : Apart rest) :
    pieces (c :: cs ++ rest) = (pieces rest).map (.atom (String.ofList (c :: cs)) :: ·) := by
  obtain ⟨first, others⟩ := List.forall_mem_cons.mp bare
  simp only [isDelimiter, Bool.or_eq_false_iff, decide_eq_false_iff_not] at first
  obtain ⟨⟨⟨notBlank, notOpening⟩, notClosing⟩, notQuote⟩ := first
  have inside : ∀ d ∈ cs, (!isDelimiter d) = true := by
    intro d member
    rw [others d member]
    rfl
  have ended : rest.takeWhile (!isDelimiter ·) = [] ∧ rest.dropWhile (!isDelimiter ·) = rest := by
    cases rest with
    | nil => exact ⟨rfl, rfl⟩
    | cons d rest => simp [apart d rfl]
  rw [List.cons_append, pieces, if_neg (by simp [notBlank]), if_neg notOpening, if_neg notClosing,
    if_neg notQuote, List.takeWhile_append_of_pos inside, List.dropWhile_append_of_pos inside,
    ended.1, ended.2, List.append_nil]

theorem pieces_atom (text : String) {rest : List Char} (apart : Apart rest) :
    pieces ((atom text).toList ++ rest) = (pieces rest).map (.atom text :: ·) := by
  unfold atom
  by_cases quoted : (text.isEmpty || text.toList.any isDelimiter) = true
  · rw [if_pos quoted, Text.quoted, String.toList_ofList, pieces_quoted, String.ofList_toList]
  · rw [if_neg quoted]
    simp only [Bool.or_eq_true, not_or, Bool.not_eq_true, List.any_eq_false] at quoted
    obtain ⟨some_text, bare⟩ := quoted
    cases chars : text.toList with
    | nil =>
      rw [String.toList_eq_nil_iff.mp chars] at some_text
      cases some_text
    | cons c cs =>
      rw [chars] at bare
      rw [pieces_bare bare apart, ← chars, String.ofList_toList]

theorem atom_name (op : Operator) : atom op.name = op.name := by
  cases op <;> decide

theorem pieces_name (op : Operator) {rest : List Char} (apart : Apart rest) :
    pieces (op.name.toList ++ rest) = (pieces rest).map (.atom op.name :: ·) := by
  have named := pieces_atom op.name apart
  rw [atom_name] at named
  exact named

theorem apart_sexps (ts : List Tree) {rest : List Char} (apart : Apart rest) :
    Apart ((sexps ts).toList ++ rest) := by
  cases ts with
  | nil =>
    simp only [sexps]
    exact apart
  | cons t ts =>
    intro c first
    obtain rfl : ' ' = c := by simpa [sexps] using first
    rfl

theorem pieces_list (op : Operator) {children : List Tree} {rest : List Char}
    (inner : pieces ((sexps children).toList ++ ')' :: rest) =
      (pieces (')' :: rest)).map (writtenAll children ++ ·)) :
    pieces (("(" ++ op.name ++ sexps children ++ ")").toList ++ rest) =
      (pieces rest).map
        (.opening :: .atom op.name :: (writtenAll children ++ [.closing]) ++ ·) := by
  have apart := apart_sexps children (closing_apart rest)
  have chars : ("(" ++ op.name ++ sexps children ++ ")").toList ++ rest =
      '(' :: (op.name.toList ++ ((sexps children).toList ++ ')' :: rest)) := by simp
  rw [chars, pieces_opening, pieces_name op apart, inner, pieces_closing]
  simp [Function.comp_def]

mutual

theorem pieces_sexp (t : Tree) {rest : List Char} (apart : Apart rest) :
    pieces (t.sexp.toList ++ rest) = (pieces rest).map (written t ++ ·) := by
  cases t with
  | leaf text =>
    rw [sexp, written, pieces_atom text apart]
    rfl
  | operator op children =>
    rw [sexp, written]
    exact pieces_list op (pieces_sexps children (closing_apart rest))
  | logical connective children =>
    rw [sexp, written]
    exact pieces_list connective.operator (pieces_sexps children (closing_apart rest))

theorem pieces_sexps (ts : List Tree) {rest : List Char} (apart : Apart rest) :
    pieces ((sexps ts).toList ++ rest) = (pieces rest).map (writtenAll ts ++ ·) := by
  cases ts with
  | nil => simp [sexps, writtenAll]
  | cons t ts =>
    have chars : (sexps (t :: ts)).toList ++ rest =
        ' ' :: (t.sexp.toList ++ ((sexps ts).toList ++ rest)) := by simp [sexps]
    rw [chars, pieces_space, pieces_sexp t (apart_sexps ts apart), pieces_sexps ts apart]
    simp [writtenAll, Function.comp_def]

end

/-! ### From the pieces to the tree -/

theorem ofName?_name (op : Operator) : Operator.ofName? op.name = some op := by
  cases op <;> decide

theorem node_connective (connective : Connective) (children : List Tree) :
    node connective.operator children = logical connective children := by
  cases connective <;> rfl

mutual

theorem build_written (t : Tree) (opened : List Unclosed) (trees : List Tree) (ps : List Piece) :
    build opened trees (written t ++ ps) = build opened (trees ++ [unified t]) ps := by
  cases t with
  | leaf text => simp [written, build, unified]
  | operator op children =>
    rw [written, unified]
    exact build_list op children opened trees ps
  | logical connective children =>
    rw [written, unified, ← node_connective]
    exact build_list connective.operator children opened trees ps

theorem build_list (op : Operator) (children : List Tree) (opened : List Unclosed)
    (trees : List Tree) (ps : List Piece) :
    build opened trees (.opening :: .atom op.name :: (writtenAll children ++ [.closing]) ++ ps) =
      build opened (trees ++ [node op (unifiedAll children)]) ps := by
  have inner := build_writtenAll children (⟨op, trees⟩ :: opened) [] (.closing :: ps)
  simp only [List.cons_append, List.append_assoc, List.nil_append] at inner ⊢
  simp only [build, ofName?_name, inner]

theorem build_writtenAll (ts : List Tree) (opened : List Unclosed) (trees : List Tree)
    (ps : List Piece) :
    build opened trees (writtenAll ts ++ ps) = build opened (trees ++ unifiedAll ts) ps := by
  cases ts with
  | nil => simp [writtenAll, unifiedAll]
  | cons t ts =>
    rw [writtenAll, List.append_assoc, build_written t, build_writtenAll ts]
    simp [unifiedAll]

end

end Sexp

/-- The s-expression of a tree is read as that tree, with its connectives in logical nodes. -/
theorem ofSexp?_sexp (t : Tree) : ofSexp? t.sexp = some t.unified := by
  have read := @Sexp.pieces_sexp t [] nofun
  have built := Sexp.build_written t [] [] []
  rw [List.append_nil] at read built
  rw [ofSexp?, read, Sexp.pieces_nil, Option.map_some, List.append_nil]
  simp only [Option.bind_eq_bind, Option.bind_some, built]
  rfl

/-! ### What is not written -/

theorem sexp_node (op : Operator) (children : List Tree) :
    (Sexp.node op children).sexp = "(" ++ op.name ++ sexps children ++ ")" := by
  cases op <;> rfl

mutual

theorem sexp_unified (t : Tree) : t.unified.sexp = t.sexp := by
  cases t with
  | leaf text => rfl
  | operator op children => rw [unified, sexp_node, sexps_unifiedAll children, sexp]
  | logical connective children => rw [unified, sexp, sexps_unifiedAll children, sexp]

theorem sexps_unifiedAll (ts : List Tree) : sexps (unifiedAll ts) = sexps ts := by
  cases ts with
  | nil => rfl
  | cons t ts => rw [unifiedAll, sexps, sexps, sexp_unified t, sexps_unifiedAll ts]

end

theorem sexp_eq_iff {t u : Tree} : t.sexp = u.sexp ↔ t.unified = u.unified := by
  constructor
  · intro same
    have read := ofSexp?_sexp t
    rw [same, ofSexp?_sexp u] at read
    exact (Option.some.inj read).symm
  · intro same
    rw [← sexp_unified t, same, sexp_unified u]

/-! ### One line -/

/-- All blanks of a text are spaces, so it has no line break. -/
def OneLine (text : String) : Prop := ∀ c ∈ text.toList, Text.isBlank c = true → c = ' '

theorem OneLine.append {text more : String} (first : OneLine text) (second : OneLine more) :
    OneLine (text ++ more) := by
  intro c member blank
  rw [String.toList_append, List.mem_append] at member
  rcases member with left | right
  · exact first c left blank
  · exact second c right blank

theorem oneLine_name (op : Operator) : OneLine op.name := by
  have letters : op.name.toList.all (!Text.isBlank ·) = true := by cases op <;> decide
  intro c member blank
  have visible := List.all_eq_true.mp letters c member
  rw [blank] at visible
  cases visible

theorem oneLine_atom (text : String) : OneLine (Sexp.atom text) := by
  intro c member blank
  unfold Sexp.atom at member
  split at member
  · rw [Text.quoted, String.toList_ofList] at member
    exact Text.Quoted.eq_space_of_mem_encode member blank
  · rename_i bare
    simp only [Bool.or_eq_true, not_or, Bool.not_eq_true, List.any_eq_false] at bare
    have delimits : Sexp.isDelimiter c = true := by simp [Sexp.isDelimiter, blank]
    rw [bare.2 c member] at delimits
    cases delimits

mutual

theorem oneLine_sexp (t : Tree) : OneLine t.sexp := by
  have opening : OneLine "(" := by simp [OneLine, show Text.isBlank '(' = false by decide]
  have closing : OneLine ")" := by simp [OneLine, show Text.isBlank ')' = false by decide]
  cases t with
  | leaf text => exact oneLine_atom text
  | operator op children =>
    exact ((opening.append (oneLine_name op)).append (oneLine_sexps children)).append closing
  | logical connective children =>
    exact ((opening.append (oneLine_name _)).append (oneLine_sexps children)).append closing

theorem oneLine_sexps (ts : List Tree) : OneLine (sexps ts) := by
  have space : OneLine " " := by simp [OneLine]
  cases ts with
  | nil => simp [OneLine, sexps]
  | cons t ts => exact (space.append (oneLine_sexp t)).append (oneLine_sexps ts)

end

end SearchQuery.Tree
