import Mathlib.Data.List.Basic
import SearchQuery.Tree.Reading

/-!
# The grammar of a reading

`Reads rule xs trees next` derives the trees that a rule makes of the tokens `xs` when the token
behind them is `next`; `Misses rule xs next` derives the tokens `xs` behind which the rule needs a
value and finds `next`. One token ahead is all that a derivation may look at, so what stands behind
`next` has no part in it. Permissive readings are derivations too: a connective at the end, a group
that is not closed, any operator in front of a value.
-/
namespace SearchQuery.Grammar
open SearchQuery.Tree

inductive Rule where
  | term | operand | expression | sequence
  deriving DecidableEq, Repr

/-- A comma or a comparison, which belongs to the value in front of it. -/
def extendsValue : Option Token → Bool
  | some (.operator op) => op = .comma || op.isComparison
  | _ => false

def links : Option Token → Bool
  | some (.operator op) => op.isConnective
  | _ => false

def closes : Option Token → Bool
  | some t => t = .operator .rparen
  | none => true

def isValue : Option Token → Bool
  | some t => t.isLiteral
  | none => false

/-- A token with which an operand starts that is neither a group, nor a negation, nor set off by a
comma. -/
def opensTerm : Token → Bool
  | .operator op => op ≠ .comma && op ≠ .lparen && op ≠ .not
  | .literal _ => true

theorem opensTerm_or (t : Token) :
    opensTerm t = true ∨ t = .operator .comma ∨ t = .operator .lparen ∨ t = .operator .not := by
  cases t with
  | operator op => cases op <;> simp [opensTerm]
  | literal => exact .inl rfl

inductive Reads : Rule → List Token → List Tree → Option Token → Prop
  | value {v next} (ends : extendsValue next = false) :
      Reads .term [.literal v] [.leaf v] next
  | separated {v next} :
      Reads .term [.literal v, .operator .comma] [.leaf v] next
  | compared {v op w next} (compares : op.isComparison = true) :
      Reads .term [.literal v, .operator op, .literal w] [.operator op [.leaf v, .leaf w]] next
  | unary {op v next} :
      Reads .term [.operator op, .literal v] [.operator op [.leaf v]] next
  | term {t xs x next} (opens : opensTerm t = true) (inner : Reads .term (t :: xs) [x] next) :
      Reads .operand (t :: xs) [x] next
  | comma {xs x next} (inner : Reads .term xs [x] next) :
      Reads .operand (.operator .comma :: xs) [x] next
  | group {xs trees next} (body : Reads .sequence xs trees (some (.operator .rparen))) :
      Reads .operand (.operator .lparen :: (xs ++ [.operator .rparen]))
        [.logical .juxtaposition trees] next
  | openGroup {xs trees} (body : Reads .sequence xs trees none) :
      Reads .operand (.operator .lparen :: xs) [.logical .juxtaposition trees] none
  | negation {xs x next} (inner : Reads .operand xs [x] next) :
      Reads .operand (.operator .not :: xs) [.operator .not [x]] next
  | alone {xs x next} (first : Reads .operand xs [x] next) (ends : links next = false) :
      Reads .expression xs [x] next
  | trailing {xs x} (connective : Connective)
      (first : Reads .operand xs [x] (some (.operator connective.operator))) :
      Reads .expression (xs ++ [.operator connective.operator]) [.logical connective [x]] none
  | linked {xs x ys y next} (connective : Connective)
      (first : Reads .operand xs [x] (some (.operator connective.operator)))
      (second : Reads .expression ys [y] next) :
      Reads .expression (xs ++ .operator connective.operator :: ys) [.logical connective [x, y]] next
  | nil {next} (ends : closes next = true) :
      Reads .sequence [] [] next
  | cons {t xs x ys trees next} (opens : t ≠ .operator .rparen)
      (first : Reads .expression (t :: xs) [x] (ys.head?.or next))
      (others : Reads .sequence ys trees next) :
      Reads .sequence (t :: (xs ++ ys)) (x :: trees) next

inductive Misses : Rule → List Token → Option Token → Prop
  | nothing : Misses .term [] none
  | compared {v op next} (compares : op.isComparison = true) (missing : isValue next = false) :
      Misses .term [.literal v, .operator op] next
  | unary {op next} (missing : isValue next = false) :
      Misses .term [.operator op] next
  | noOperand : Misses .operand [] none
  | term {t xs next} (opens : opensTerm t = true) (inner : Misses .term (t :: xs) next) :
      Misses .operand (t :: xs) next
  | comma {xs next} (inner : Misses .term xs next) :
      Misses .operand (.operator .comma :: xs) next
  | group {xs next} (body : Misses .sequence xs next) :
      Misses .operand (.operator .lparen :: xs) next
  | negation {xs next} (inner : Misses .operand xs next) :
      Misses .operand (.operator .not :: xs) next
  | first {xs next} (inner : Misses .operand xs next) :
      Misses .expression xs next
  | second {xs x t ys next} (connective : Connective)
      (first : Reads .operand xs [x] (some (.operator connective.operator)))
      (second : Misses .expression (t :: ys) next) :
      Misses .expression (xs ++ .operator connective.operator :: t :: ys) next
  | head {t xs next} (opens : t ≠ .operator .rparen) (inner : Misses .expression (t :: xs) next) :
      Misses .sequence (t :: xs) next
  | tail {t xs x ys next} (opens : t ≠ .operator .rparen)
      (first : Reads .expression (t :: xs) [x] (ys.head?.or next))
      (others : Misses .sequence ys next) :
      Misses .sequence (t :: (xs ++ ys)) next

theorem Reads.ne_nil {rule xs trees next} (h : Reads rule xs trees next)
    (notSequence : rule ≠ .sequence) : xs ≠ [] := by
  cases h with
  | nil | cons => exact absurd rfl notSequence
  | alone first => cases first <;> simp
  | _ => simp

theorem Reads.exists_cons {rule xs trees next} {t : Token} {ts rest : List Token}
    (h : Reads rule xs trees next) (notSequence : rule ≠ .sequence) (parts : t :: ts = xs ++ rest) :
    ∃ us, xs = t :: us := by
  cases xs with
  | nil => exact absurd rfl (h.ne_nil notSequence)
  | cons u us => exact ⟨us, by rw [(List.cons_eq_cons.mp parts).1]⟩

theorem Reads.singleton {rule xs trees next} (h : Reads rule xs trees next)
    (notSequence : rule ≠ .sequence) : ∃ x, trees = [x] := by
  cases h with
  | nil | cons => exact absurd rfl notSequence
  | _ => exact ⟨_, rfl⟩

theorem Misses.ne_nil {rule xs} {t : Token} (h : Misses rule xs (some t)) : xs ≠ [] := by
  cases h with
  | first inner => cases inner <;> simp
  | _ => simp

/-- A rule that has a token to read reads it before it misses a value. -/
theorem Misses.exists_cons {rule xs next} {t : Token} {ts rest : List Token}
    (h : Misses rule xs next) (parts : t :: ts = xs ++ rest) (ahead : rest.head? = next) :
    ∃ us, xs = t :: us := by
  cases xs with
  | cons u us => exact ⟨us, by rw [(List.cons_eq_cons.mp parts).1]⟩
  | nil =>
    have atToken : next = some t := by rw [← ahead, ← List.nil_append rest, ← parts]; rfl
    subst atToken
    exact absurd rfl h.ne_nil

theorem connective_of_links {next : Option Token} (h : links next = true) :
    ∃ connective : Connective, next = some (.operator connective.operator) := by
  match next with
  | some (.operator .and) => exact ⟨.and, rfl⟩
  | some (.operator .or) => exact ⟨.or, rfl⟩

theorem none_or_rparen {next : Option Token} (h : closes next = true) :
    next = none ∨ next = some (.operator .rparen) := by
  match next with
  | none => exact .inl rfl
  | some (.operator .rparen) => exact .inr rfl

theorem complete_of_closes {next : Option Token} (ends : closes next = true) :
    extendsValue next = false ∧ links next = false := by
  rcases none_or_rparen ends with rfl | rfl
  · exact ⟨rfl, rfl⟩
  · exact ⟨rfl, rfl⟩

theorem Reads.stops {xs trees next} (h : Reads .sequence xs trees next) : closes next = true := by
  generalize atSequence : Rule.sequence = rule at h
  induction h with
  | nil ends => exact ends
  | cons _ _ _ _ ih => exact ih atSequence
  | _ => cases atSequence

/-- An expression that makes up a sequence. -/
theorem Reads.sole {t : Token} {ts : List Token} {x : Tree} {next : Option Token}
    (opens : t ≠ .operator .rparen) (expression : Reads .expression (t :: ts) [x] next)
    (ends : closes next = true) : Reads .sequence (t :: ts) [x] next := by
  have whole : Reads .sequence (t :: (ts ++ [])) [x] next := .cons opens expression (.nil ends)
  rw [List.append_nil] at whole
  exact whole

theorem Reads.sole_operand {t : Token} {ts : List Token} {x : Tree} {next : Option Token}
    (opens : t ≠ .operator .rparen) (operand : Reads .operand (t :: ts) [x] next)
    (ends : closes next = true) : Reads .sequence (t :: ts) [x] next :=
  .sole opens (.alone operand (complete_of_closes ends).2) ends

/-- The last token read once `xs` are read. -/
def behind : Option Token → List Token → Option Token
  | last, [] => last
  | _, t :: ts => behind (some t) ts

theorem behind_append (last : Option Token) (xs ys : List Token) :
    behind last (xs ++ ys) = behind (behind last xs) ys := by
  induction xs generalizing last with
  | nil => rfl
  | cons t ts ih => exact ih (some t)

end SearchQuery.Grammar
