import SearchQuery.Proofs.Grammar.Agreement

/-!
# The tokens of a tree

A tree is written from left to right by its yield. Reading loses, repeats and moves no token: up to
the tokens that only shape a tree (the markers and `and`), the yield of what is read is what was
read, and its leaves are the literals. Collapsing keeps the leaves.
-/
namespace SearchQuery.Tree

mutual

/-- The tokens of a tree in order; a connective `or` without a right part stands at the end. -/
def yield : Tree → List Token
  | leaf text => [.literal text]
  | operator op [left, right] => yield left ++ .operator op :: yield right
  | operator op children => .operator op :: yields children
  | logical .or [part] => yield part ++ [.operator .or]
  | logical .or [left, right] => yield left ++ .operator .or :: yield right
  | logical _ children => yields children

def yields : List Tree → List Token
  | [] => []
  | t :: ts => yield t ++ yields ts

end

mutual

/-- The texts of the leaves in order. -/
def texts : Tree → List String
  | leaf text => [text]
  | operator _ children | logical _ children => textsAll children

def textsAll : List Tree → List String
  | [] => []
  | t :: ts => texts t ++ textsAll ts

end

end SearchQuery.Tree

namespace SearchQuery.Token

/-- A token that does not merely shape a tree. -/
def isSaid : Token → Bool
  | operator op => op ≠ .and && op ≠ .comma && op ≠ .lparen && op ≠ .rparen
  | literal _ => true

def said (ts : List Token) : List Token := ts.filter isSaid

theorem said_append (xs ys : List Token) : said (xs ++ ys) = said xs ++ said ys :=
  List.filter_append xs ys

theorem said_cons (t : Token) (ts : List Token) : said (t :: ts) = said [t] ++ said ts :=
  said_append [t] ts

def text? : Token → Option String
  | literal text => some text
  | operator _ => none

/-- The texts of the literals in order. -/
def texts (ts : List Token) : List String := ts.filterMap text?

theorem texts_said (ts : List Token) : texts (said ts) = texts ts := by
  rw [texts, said, List.filterMap_filter, texts]
  congr 1
  funext t
  cases t with
  | literal text => rfl
  | operator op => exact ite_self none

theorem texts_append (xs ys : List Token) : texts (xs ++ ys) = texts xs ++ texts ys :=
  List.filterMap_append

end SearchQuery.Token

namespace SearchQuery.Tree

/-- An operator or a connective adds no leaf to what its parts yield. -/
theorem texts_yield_operator (op : Operator) (children : List Tree) :
    Token.texts (yield (operator op children)) = Token.texts (yields children) := by
  match children with
  | [left, right] =>
    simp only [yield, yields, List.append_nil, Token.texts_append]
    rfl
  | [] | [_] | _ :: _ :: _ :: _ => rfl

theorem texts_yield_logical (connective : Connective) (children : List Tree) :
    Token.texts (yield (logical connective children)) = Token.texts (yields children) := by
  cases connective with
  | and => rfl
  | or =>
    match children with
    | [part] =>
      simp only [yield, yields, List.append_nil, Token.texts_append]
      exact List.append_nil _
    | [left, right] =>
      simp only [yield, yields, List.append_nil, Token.texts_append]
      rfl
    | [] | _ :: _ :: _ :: _ => rfl

mutual

theorem texts_yield (t : Tree) : Token.texts (yield t) = texts t := by
  cases t with
  | leaf text => rfl
  | operator op children =>
    rw [texts_yield_operator, texts]
    exact texts_yields children
  | logical connective children =>
    rw [texts_yield_logical, texts]
    exact texts_yields children

theorem texts_yields (ts : List Tree) : Token.texts (yields ts) = textsAll ts := by
  cases ts with
  | nil => rfl
  | cons t ts =>
    rw [yields, textsAll, Token.texts_append, texts_yield t, texts_yields ts]

end

theorem texts_collapse_logical (connective : Connective) (children : List Tree) :
    texts (collapse (logical connective children)) = textsAll (collapseAll children) := by
  match children with
  | [child] => rw [collapse, collapseAll, collapseAll, textsAll, textsAll, List.append_nil]
  | [] | _ :: _ :: _ => rfl

mutual

theorem texts_collapse (t : Tree) : texts (collapse t) = texts t := by
  cases t with
  | leaf text => rfl
  | operator op children =>
    rw [collapse, texts, texts]
    exact textsAll_collapseAll children
  | logical connective children =>
    rw [texts_collapse_logical, texts]
    exact textsAll_collapseAll children

theorem textsAll_collapseAll (ts : List Tree) : textsAll (collapseAll ts) = textsAll ts := by
  cases ts with
  | nil => rfl
  | cons t ts => rw [collapseAll, textsAll, textsAll, texts_collapse t, textsAll_collapseAll ts]

end

end SearchQuery.Tree

namespace SearchQuery.Grammar
open SearchQuery.Tree

theorem Reads.said_yields {rule xs trees next} (h : Reads rule xs trees next) :
    Token.said (yields trees) = Token.said xs := by
  induction h with
  | value | separated | compared | unary | nil => rfl
  | term _ _ ih | comma _ ih | alone _ _ ih => exact ih
  | @group xs trees _ _ ih =>
    change Token.said (yields trees ++ []) = Token.said (xs ++ [.operator .rparen])
    rw [Token.said_append, Token.said_append, ih]
    rfl
  | @openGroup xs trees _ ih =>
    change Token.said (yields trees ++ []) = Token.said xs
    rw [List.append_nil, ih]
  | @negation xs x _ _ ih =>
    change Token.said (.operator .not :: yields [x] ++ []) = .operator .not :: Token.said xs
    rw [List.append_nil, ← ih]
    rfl
  | @trailing xs x connective _ ih =>
    rw [Token.said_append, ← ih]
    cases connective with
    | and =>
      simp only [yields, yield, List.append_nil]
      exact (List.append_nil _).symm
    | or => simp only [yields, yield, List.append_nil, Token.said_append, Connective.operator]
  | @linked xs x ys y _ connective _ _ ihFirst ihSecond =>
    rw [Token.said_append, Token.said_cons, ← ihFirst, ← ihSecond]
    cases connective with
    | and =>
      simp only [yields, yield, List.append_nil, Token.said_append]
      rfl
    | or =>
      simp only [yields, yield, List.append_nil, Token.said_append, Connective.operator]
      rw [Token.said_cons]
  | @cons t xs x ys trees _ _ _ _ ihFirst ihOthers =>
    rw [← List.cons_append, Token.said_append, ← ihFirst, ← ihOthers, ← Token.said_append]
    simp only [yields, List.append_nil]

/-- What became of the tokens `ts`, of which `read` were read and `unread` were left: the tree yields
the tokens read and no others, in their order, and only a closing marker stops the reading before
the end. -/
structure Kept (ts : List Token) (root : Tree) (read unread : List Token) : Prop where
  outcome : Tree.read ts = .ok ⟨root, unread⟩
  parts : ts = read ++ unread
  stops : unread = [] ∨ unread.head? = some (.operator .rparen)
  yields : Token.said (yield root) = Token.said read
  leaves : Tree.texts root = Token.texts read
  collapsed_leaves : ∃ tree, ofTokens ts = .ok tree ∧ Tree.texts tree = Token.texts read

theorem no_token_lost {ts : List Token} {root : Tree} (h : asWritten ts = .ok root) :
    ∃ read unread, Kept ts root read unread := by
  obtain ⟨xs, unread, trees, outcome, parts, shape, reads⟩ := reads_of_asWritten h
  have yielded : Token.said (yield root) = Token.said xs := by
    rw [shape]
    exact reads.said_yields
  have leaves : Tree.texts root = Token.texts xs := by
    rw [← texts_yield, ← Token.texts_said, yielded, Token.texts_said]
  have stops : unread = [] ∨ unread.head? = some (.operator .rparen) := by
    rcases none_or_rparen reads.stops with ahead | ahead
    · exact .inl (List.head?_eq_none_iff.mp ahead)
    · exact .inr ahead
  have collapsed : ofTokens ts = .ok root.collapse := ofTokens_eq_ok_iff.mpr ⟨root, h, rfl⟩
  exact ⟨xs, unread, outcome, parts, stops, yielded, leaves,
    root.collapse, collapsed, (texts_collapse root).trans leaves⟩

/-- The tokens of `a, (not, b or = c) and d) e`: commas that say nothing, a comparison without a left
side, and a closing marker that closes nothing. -/
theorem no_token_lost_before_unmatched :
    asWritten [.literal "a", .operator .comma, .operator .lparen, .operator .not, .operator .comma,
        .literal "b", .operator .or, .operator .eq, .literal "c", .operator .rparen, .operator .and,
        .literal "d", .operator .rparen, .literal "e"] =
      .ok (.logical .and [.leaf "a", .logical .and [.logical .and [.logical .or
        [.operator .not [.leaf "b"], .operator .eq [.leaf "c"]]], .leaf "d"]]) ∧
      ∃ read unread, Kept [.literal "a", .operator .comma, .operator .lparen, .operator .not,
        .operator .comma, .literal "b", .operator .or, .operator .eq, .literal "c",
        .operator .rparen, .operator .and, .literal "d", .operator .rparen, .literal "e"]
        (.logical .and [.leaf "a", .logical .and [.logical .and [.logical .or
          [.operator .not [.leaf "b"], .operator .eq [.leaf "c"]]], .leaf "d"]]) read unread :=
  ⟨by cbv, no_token_lost (by cbv)⟩

end SearchQuery.Grammar
