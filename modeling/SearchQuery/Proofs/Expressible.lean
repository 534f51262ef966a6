import SearchQuery.Proofs.Collapsing
import SearchQuery.Proofs.Grammar.Agreement
import SearchQuery.Proofs.Spelling

/-!
# Trees that a query can express

A sensible tree compares leaves, negates and joins sensible trees, and joins never one alone. Its
phrase writes it with every part of a negation or a join in a group of its own. Reading the phrase
gives a tree in which each of these groups is a join of one, so collapsing leaves the tree that was
written: joins of none and joins within joins stay.
-/
namespace SearchQuery.Tree
open Grammar

inductive Sensible : Tree → Prop
  | leaf (text : String) : Sensible (.leaf text)
  | unary {op : Operator} (applies : op.isComparison ∨ op.isNullCheck ∨ op.isConnective)
      (text : String) : Sensible (.operator op [.leaf text])
  | compared {op : Operator} (compares : op.isComparison) (left right : String) :
      Sensible (.operator op [.leaf left, .leaf right])
  | negation {t : Tree} (negated : Sensible t) : Sensible (.operator .not [t])
  | all {ts : List Tree} (notOne : ts.length ≠ 1) (parts : ∀ t ∈ ts, Sensible t) :
      Sensible (.logical .and ts)
  | either {left right : Tree} (first : Sensible left) (second : Sensible right) :
      Sensible (.logical .or [left, right])

def grouped (ts : List Token) : List Token := .operator .lparen :: (ts ++ [.operator .rparen])

mutual

/-- The tokens that write a sensible tree. -/
def phrase : Tree → List Token
  | leaf text => [.literal text]
  | operator .not [negated] => .operator .not :: grouped (phrase negated)
  | operator op [operand] => .operator op :: phrase operand
  | operator op [left, right] => phrase left ++ .operator op :: phrase right
  | logical .or [left, right] => grouped (phrase left) ++ .operator .or :: grouped (phrase right)
  | operator _ children | logical _ children => phrases children

/-- Groups side by side. -/
def phrases : List Tree → List Token
  | [] => []
  | t :: ts => grouped (phrase t) ++ phrases ts

end

/-- A query that writes a tree. -/
def Writes (t : Tree) (query : String) : Prop := Token.Spells t.phrase query.toList

end SearchQuery.Tree

namespace SearchQuery.Grammar
open SearchQuery.Tree

/-- The trees `trees`, read side by side from the tokens `ts`, collapse to `t`. -/
structure Expresses (ts : List Token) (t : Tree) (trees : List Tree) : Prop where
  reads : ∀ next, closes next = true → Reads .sequence ts trees next
  collapses : collapse (.logical .and trees) = t

theorem Expresses.group {ts : List Token} {t : Tree} {trees : List Tree}
    (expresses : Expresses ts t trees) (next : Option Token) :
    Reads .operand (grouped ts) [.logical .and trees] next :=
  .group (expresses.reads _ rfl)

/-- Groups side by side, each of which expresses a tree, are read one by one. -/
theorem exists_groups {ts : List Tree} (each : ∀ t ∈ ts, ∃ trees, Expresses t.phrase t trees) :
    ∃ groups, (∀ next, closes next = true → Reads .sequence (phrases ts) groups next) ∧
      collapseAll groups = ts := by
  induction ts with
  | nil => exact ⟨[], fun _ ends => .nil ends, rfl⟩
  | cons t ts ih =>
    obtain ⟨trees, expresses⟩ := each t List.mem_cons_self
    obtain ⟨groups, reads, collapsed⟩ := ih fun u member => each u (List.mem_cons_of_mem t member)
    refine ⟨.logical .and trees :: groups, ?_, ?_⟩
    · intro next ends
      have unlinked : links ((phrases ts).head?.or next) = false := by
        cases ts with
        | nil => exact (complete_of_closes ends).2
        | cons u us => rfl
      exact .cons (by decide) (.alone (expresses.group _) unlinked) (reads next ends)
    · rw [collapseAll, expresses.collapses, collapsed]

theorem exists_expresses {t : Tree} (sensible : Sensible t) :
    ∃ trees, Expresses t.phrase t trees := by
  induction sensible with
  | leaf text =>
    refine ⟨[.leaf text], ?_, rfl⟩
    intro next ends
    exact .sole_operand (by simp) (.term rfl (.value (complete_of_closes ends).1)) ends
  | @unary op applies text =>
    have opens : op ≠ .rparen ∧ opensTerm (.operator op) = true := by
      cases op <;> first
        | decide
        | simp [Operator.isComparison, Operator.isNullCheck, Operator.isConnective,
            Connective.ofOperator?] at applies
    have written : phrase (.operator op [.leaf text]) = [.operator op, .literal text] := by
      cases op <;> first | rfl | simp [opensTerm] at opens
    refine ⟨[.operator op [.leaf text]], ?_, rfl⟩
    intro next ends
    rw [written]
    exact .sole_operand (by simpa using opens.1) (.term opens.2 .unary) ends
  | @compared op compares left right =>
    have written : phrase (.operator op [.leaf left, .leaf right]) =
        [.literal left, .operator op, .literal right] := by
      cases op <;> rfl
    refine ⟨[.operator op [.leaf left, .leaf right]], ?_, rfl⟩
    intro next ends
    rw [written]
    exact .sole_operand (by simp) (.term rfl (.compared compares)) ends
  | negation _ ih =>
    obtain ⟨trees, expresses⟩ := ih
    refine ⟨[.operator .not [.logical .and trees]], ?_, ?_⟩
    · intro next ends
      exact .sole_operand (by decide) (.negation (expresses.group next)) ends
    · rw [collapse, collapse, collapseAll, collapseAll, expresses.collapses]
  | @all ts notOne _ ih =>
    obtain ⟨groups, reads, collapsed⟩ := exists_groups ih
    refine ⟨groups, reads, ?_⟩
    rw [collapse_join (by rw [← length_collapseAll, collapsed]; exact notOne), collapsed]
  | @either left right _ _ ihFirst ihSecond =>
    obtain ⟨trees, first⟩ := ihFirst
    obtain ⟨others, second⟩ := ihSecond
    refine ⟨[.logical .or [.logical .and trees, .logical .and others]], ?_, ?_⟩
    · intro next ends
      have last := Reads.alone (second.group next) (complete_of_closes ends).2
      exact .sole (by decide) (.linked .or (first.group _) last) ends
    · rw [collapse, collapse_join (by simp), collapseAll, collapseAll, collapseAll,
        first.collapses, second.collapses]

/-- Every sensible tree is written by some query, and every query that writes it is parsed as it. -/
theorem parse_writes {t : Tree} (sensible : Sensible t) :
    (∃ query, Writes t query) ∧ ∀ query, Writes t query → parse query = .ok t := by
  constructor
  · obtain ⟨cs, spells⟩ := Token.exists_spells t.phrase
    refine ⟨String.ofList cs, ?_⟩
    rw [Writes, String.toList_ofList]
    exact spells
  · intro query writes
    obtain ⟨trees, expresses⟩ := exists_expresses sensible
    have read : Tree.read (t.phrase ++ []) = .ok ⟨.logical .juxtaposition trees, []⟩ :=
      read_of_reads (expresses.reads none rfl)
    rw [List.append_nil] at read
    rw [parse, tokens, writes.scan_eq]
    exact ofTokens_eq_ok_iff.mpr
      ⟨_, asWritten_eq_ok_iff.mpr ⟨[], read⟩, expresses.collapses.symm⟩

/-- A negated empty join, or a comparison with a quoted text: groups of none and of one. -/
theorem parse_writes_negation_or_comparison :
    Sensible (.logical .or [.operator .not [.logical .and []],
        .operator .unlike [.leaf "a", .leaf "\"b"]]) ∧
      Writes (.logical .or [.operator .not [.logical .and []],
        .operator .unlike [.leaf "a", .leaf "\"b"]]) "( Not ()) | (\"a\" !~ \"\\\"b\")" ∧
      parse "( Not ()) | (\"a\" !~ \"\\\"b\")" =
        .ok (.logical .or [.operator .not [.logical .and []],
          .operator .unlike [.leaf "a", .leaf "\"b"]]) := by
  have space : Token.Gap [' '] := ⟨List.forall_mem_singleton.mpr rfl, by decide⟩
  have negation : Operator.not.Spelled "Not".toList := .keyword (by decide)
  have disjunction : Operator.or.Spelled ['|'] := .symbol (by decide)
  have comparison : Operator.unlike.Spelled ['!', '~'] := .symbol (by decide)
  have sensible : Sensible (.logical .or [.operator .not [.logical .and []],
      .operator .unlike [.leaf "a", .leaf "\"b"]]) :=
    .either (.negation (.all (by decide) (by simp))) (.compared rfl "a" "\"b")
  have writes : Writes (.logical .or [.operator .not [.logical .and []],
      .operator .unlike [.leaf "a", .leaf "\"b"]]) "( Not ()) | (\"a\" !~ \"\\\"b\")" :=
    .marker .opening (.operator space negation space (.marker .opening (.marker .closing
      (.marker .closing (.operator space disjunction space (.marker .opening (.literal "a"
        (.operator space comparison space (.literal "\"b" (.marker .closing .nil))))))))))
  exact ⟨sensible, writes, (parse_writes sensible).2 _ writes⟩

end SearchQuery.Grammar
