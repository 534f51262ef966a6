import SearchQuery.Proofs.Grammar.Agreement

/-!
# Markers in a tree

A marker shapes a tree and should not be stored in it. It is stored where it is read as an operator
before a value: any marker behind a comma with which an operand starts, and a closing marker where
an operand has to start, behind `not` or a connective. `misread` finds such a marker in the tokens
alone, with the depth of open groups as its only memory, and a tree holds a marker exactly then.
-/
namespace SearchQuery

def Operator.isMarker : Operator → Bool
  | lparen | rparen | comma => true
  | _ => false

namespace Tree

mutual

/-- Some operator node of the tree holds a marker. -/
def holdsMarker : Tree → Bool
  | leaf _ => false
  | operator op children => op.isMarker || anyHoldsMarker children
  | logical _ children => anyHoldsMarker children

def anyHoldsMarker : List Tree → Bool
  | [] => false
  | t :: ts => holdsMarker t || anyHoldsMarker ts

end

theorem holdsMarker_collapse_logical (connective : Connective) (children : List Tree) :
    holdsMarker (collapse (logical connective children)) = anyHoldsMarker (collapseAll children) := by
  match children with
  | [child] => rw [collapse, collapseAll, collapseAll, anyHoldsMarker, anyHoldsMarker, Bool.or_false]
  | [] | _ :: _ :: _ => rfl

mutual

theorem holdsMarker_collapse (t : Tree) : holdsMarker (collapse t) = holdsMarker t := by
  cases t with
  | leaf text => rfl
  | operator op children =>
    rw [collapse, holdsMarker, holdsMarker, anyHoldsMarker_collapseAll children]
  | logical connective children =>
    rw [holdsMarker_collapse_logical, holdsMarker]
    exact anyHoldsMarker_collapseAll children

theorem anyHoldsMarker_collapseAll (ts : List Tree) :
    anyHoldsMarker (collapseAll ts) = anyHoldsMarker ts := by
  cases ts with
  | nil => rfl
  | cons t ts =>
    rw [collapseAll, anyHoldsMarker, anyHoldsMarker, holdsMarker_collapse t,
      anyHoldsMarker_collapseAll ts]

end

end Tree

namespace Grammar
open SearchQuery.Tree

/-- What the tokens up to a place leave to follow. -/
inductive Place where
  /-- A sequence starts. -/
  | start
  /-- An operand has to start. -/
  | operand
  /-- A term has to start, behind a comma. -/
  | comma
  /-- A value has to stand, behind an operator. -/
  | operator
  /-- A value stands behind, which a comma or a comparison may extend. -/
  | value
  /-- An operand stands behind, which a connective may link. -/
  | complete
  deriving DecidableEq, Repr

/-- What a token does at a place. -/
inductive Effect where
  | opens | closes | misread
  | leads (place : Place)
  deriving DecidableEq, Repr

namespace Place

def startOperand : Token → Effect
  | .literal _ => .leads value
  | .operator .lparen => .opens
  | .operator .rparen => .misread
  | .operator .not => .leads operand
  | .operator .comma => .leads comma
  | .operator _ => .leads operator

def startSequence (t : Token) : Effect :=
  if t = .operator .rparen then .closes else startOperand t

def linkOperand (t : Token) : Effect :=
  if links (some t) then .leads operand else startSequence t

def extend (t : Token) : Effect :=
  if t = .operator .comma then .leads complete
  else if extendsValue (some t) then .leads operator
  else linkOperand t

def startTerm : Token → Effect
  | .literal _ => .leads value
  | .operator op => if op.isMarker then .misread else .leads operator

def effect : Place → Token → Effect
  | start, t => startSequence t
  | operand, t => startOperand t
  | comma, t => startTerm t
  | operator, t => if t.isLiteral then .leads complete else .leads operator
  | value, t => extend t
  | complete, t => linkOperand t

end Place

/-- Some token behind `place`, with `depth` groups open, is a marker read as an operator. A closing
marker that closes no group ends the tokens that count. -/
def misread : Nat → Place → List Token → Bool
  | _, _, [] => false
  | depth, place, t :: ts =>
    match place.effect t, depth with
    | .misread, _ => true
    | .closes, 0 => false
    | .closes, depth + 1 => misread depth .complete ts
    | .opens, depth => misread (depth + 1) .start ts
    | .leads next, depth => misread depth next ts

/-- The place at which a rule starts. -/
def Rule.place : Rule → Place
  | .term => .comma
  | .operand | .expression => .operand
  | .sequence => .start

theorem Reads.unlinked {xs trees next} (h : Reads .expression xs trees next) :
    links next = false := by
  generalize atExpression : Rule.expression = rule at h
  induction h with
  | alone _ ends => exact ends
  | trailing => rfl
  | linked _ _ _ _ ih => exact ih atExpression
  | _ => cases atExpression

theorem misread_complete (depth : Nat) (ts : List Token) (unlinked : links ts.head? = false) :
    misread depth .complete ts = misread depth .start ts := by
  cases ts with
  | nil => rfl
  | cons t ts =>
    have same : Place.linkOperand t = Place.startSequence t :=
      if_neg (by rw [show links (some t) = false from unlinked]; decide)
    simp only [misread, Place.effect, same]

theorem misread_value (depth : Nat) (ts : List Token) (ends : extendsValue ts.head? = false) :
    misread depth .value ts = misread depth .complete ts := by
  cases ts with
  | nil => rfl
  | cons t ts =>
    have extendsNothing : extendsValue (some t) = false := ends
    have notComma : t ≠ .operator .comma := by rintro rfl; cases ends
    have same : Place.extend t = Place.linkOperand t := by
      rw [Place.extend, if_neg notComma, if_neg (by rw [extendsNothing]; decide)]
    simp only [misread, Place.effect, same]

theorem misread_start (depth : Nat) (t : Token) (ts : List Token) (opens : t ≠ .operator .rparen) :
    misread depth .start (t :: ts) = misread depth .operand (t :: ts) := by
  have same : Place.startSequence t = Place.startOperand t := if_neg opens
  simp only [misread, Place.effect, same]

/-- Where a term can start an operand, it reads as it does behind a comma. -/
theorem misread_operand (depth : Nat) (t : Token) (ts : List Token) (opens : opensTerm t = true) :
    misread depth .operand (t :: ts) = misread depth .comma (t :: ts) := by
  have same : Place.startOperand t = Place.startTerm t := by
    match t with
    | .literal _ => rfl
    | .operator op => cases op <;> first | rfl | cases opens
  simp only [misread, Place.effect, same]

theorem misread_link (depth : Nat) (connective : Connective) (ts : List Token) :
    misread depth .complete (.operator connective.operator :: ts) = misread depth .operand ts := by
  cases connective <;> rfl

theorem misread_stop (ts : List Token) (ends : closes ts.head? = true) :
    misread 0 .complete ts = false := by
  match ts with
  | [] => rfl
  | .operator .rparen :: _ => rfl

/-- Scanning what a rule reads finds the markers that its trees hold, and goes on behind it. -/
theorem misread_reads {rule xs trees next} (h : Reads rule xs trees next) :
    ∀ (depth : Nat) (rest : List Token), rest.head? = next →
      misread depth rule.place (xs ++ rest) =
        (anyHoldsMarker trees || misread depth .complete rest) := by
  induction h with
  | @value v next ends =>
    rintro depth rest rfl
    exact misread_value depth rest ends
  | separated => exact fun _ _ _ => rfl
  | @compared v op w next compares =>
    intro depth rest _
    cases op <;> first | rfl | cases compares
  | @unary op v next =>
    intro depth rest _
    cases op <;> rfl
  | term opens _ ih =>
    intro depth rest ahead
    exact (misread_operand depth _ _ opens).trans (ih depth rest ahead)
  | comma _ ih => exact ih
  | @group xs trees next _ ih =>
    intro depth rest _
    -- The marker that closes the group leads back to `depth`, with an operand complete.
    have body := ih (depth + 1) (.operator .rparen :: rest) rfl
    rw [List.cons_append, List.append_assoc]
    simp only [anyHoldsMarker, holdsMarker, Bool.or_false]
    exact body
  | @openGroup xs trees _ ih =>
    intro depth rest ahead
    have body := ih (depth + 1) rest ahead
    rw [List.head?_eq_none_iff.mp ahead] at body ⊢
    simp only [anyHoldsMarker, holdsMarker, Bool.or_false]
    exact body
  | @negation xs x next _ ih =>
    intro depth rest ahead
    have inner := ih depth rest ahead
    simp only [anyHoldsMarker, holdsMarker, Operator.isMarker, Bool.or_false, Bool.false_or] at inner ⊢
    exact inner
  | alone _ _ ih => exact ih
  | @trailing xs x connective _ ih =>
    intro depth rest ahead
    have first := ih depth [.operator connective.operator] rfl
    rw [misread_link] at first
    rw [List.head?_eq_none_iff.mp ahead, List.append_nil]
    simp only [anyHoldsMarker, holdsMarker, Bool.or_false] at first ⊢
    exact first
  | @linked xs x ys y next connective _ _ ihFirst ihSecond =>
    intro depth rest ahead
    have first := ihFirst depth (.operator connective.operator :: (ys ++ rest)) rfl
    have second := ihSecond depth rest ahead
    rw [misread_link] at first
    rw [List.append_assoc]
    simp only [anyHoldsMarker, holdsMarker, Bool.or_false, Rule.place] at first second ⊢
    rw [List.cons_append, first, second, Bool.or_assoc]
  | nil ends =>
    rintro depth rest rfl
    have unlinked : links rest.head? = false := by
      rcases none_or_rparen ends with ahead | ahead <;> rw [ahead] <;> rfl
    exact (misread_complete depth rest unlinked).symm
  | @cons t xs x ys trees next opens first _ ihFirst ihOthers =>
    intro depth rest ahead
    -- No connective stands behind an expression, so the next one may as well start a sequence.
    have behind : (ys ++ rest).head? = ys.head?.or next := by rw [List.head?_append, ahead]
    have one := ihFirst depth (ys ++ rest) behind
    have others := ihOthers depth rest ahead
    rw [misread_complete depth (ys ++ rest) (behind ▸ first.unlinked)] at one
    simp only [Rule.place, anyHoldsMarker, Bool.or_false] at one others ⊢
    rw [List.cons_append, misread_start depth t _ opens, List.append_assoc, ← List.cons_append,
      one, others, Bool.or_assoc]

/-- A tree holds a marker exactly when the tokens hold one that is misread. -/
theorem holdsMarker_eq_misread (ts : List Token) :
    (∀ root, asWritten ts = .ok root → holdsMarker root = misread 0 .start ts) ∧
      ∀ tree, ofTokens ts = .ok tree → holdsMarker tree = misread 0 .start ts := by
  have written : ∀ root, asWritten ts = .ok root → holdsMarker root = misread 0 .start ts := by
    intro root h
    obtain ⟨xs, unread, trees, -, parts, shape, reads⟩ := reads_of_asWritten h
    have scanned := misread_reads reads 0 unread rfl
    rw [misread_stop unread reads.stops, Bool.or_false] at scanned
    rw [parts, shape]
    exact scanned.symm
  refine ⟨written, ?_⟩
  intro tree h
  obtain ⟨root, read, rfl⟩ := ofTokens_eq_ok_iff.mp h
  rw [holdsMarker_collapse, written root read]

/-- The tokens of `a and ) b`: the closing marker stands where an operand has to start. -/
theorem marker_held_behind_and :
    ofTokens [.literal "a", .operator .and, .operator .rparen, .literal "b"] =
        .ok (.logical .and [.leaf "a", .operator .rparen [.leaf "b"]]) ∧
      holdsMarker (.logical .and [.leaf "a", .operator .rparen [.leaf "b"]]) =
        misread 0 .start [.literal "a", .operator .and, .operator .rparen, .literal "b"] :=
  ⟨by cbv, (holdsMarker_eq_misread _).2 _ (by cbv)⟩

/-- The tokens of `, (a)`: behind a comma the group is not read as one. -/
theorem marker_held_behind_comma :
    ¬ ∀ ts tree, ofTokens ts = .ok tree → holdsMarker tree = false := by
  intro never
  have held := never [.operator .comma, .operator .lparen, .literal "a", .operator .rparen]
    (.operator .lparen [.leaf "a"]) (by cbv)
  cases held

end Grammar
end SearchQuery
