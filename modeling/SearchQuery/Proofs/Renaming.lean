import SearchQuery.Proofs.MissingValue

/-!
# Other texts in the place of literals

A reader of tokens tells a literal from an operator and does not look into its text. So with other
texts in the place of the literals, however chosen, the grammar derives the same readings up to the
leaves, and the same failures: no literal takes part in these, for a value is missing only behind an
operator, and only where no literal stands.
-/
namespace SearchQuery

/-- The token with `f` applied to its text, if it is a literal. -/
def Token.rename (f : String → String) : Token → Token
  | operator op => operator op
  | literal text => literal (f text)

namespace Tree

mutual

/-- The tree with `f` applied to the text of every leaf. -/
def rename (f : String → String) : Tree → Tree
  | leaf text => leaf (f text)
  | operator op children => operator op (renameAll f children)
  | logical connective children => logical connective (renameAll f children)

def renameAll (f : String → String) : List Tree → List Tree
  | [] => []
  | t :: ts => rename f t :: renameAll f ts

end

def Outcome.rename (f : String → String) (o : Outcome) : Outcome :=
  ⟨o.root.rename f, o.unread.map (Token.rename f)⟩

theorem collapse_renamed_logical (f : String → String) (connective : Connective) {ts : List Tree}
    (children : collapseAll (renameAll f ts) = renameAll f (collapseAll ts)) :
    collapse (rename f (logical connective ts)) = rename f (collapse (logical connective ts)) := by
  match ts with
  | [t] =>
    rw [rename, renameAll, renameAll, collapse, collapse]
    exact (List.cons.inj children).1
  | [] => rfl
  | t :: u :: us => exact congrArg (logical connective) children

mutual

theorem collapse_renamed (f : String → String) (t : Tree) :
    collapse (rename f t) = rename f (collapse t) := by
  cases t with
  | leaf text => rfl
  | operator op children => exact congrArg (operator op) (collapseAll_renamed f children)
  | logical connective children =>
    exact collapse_renamed_logical f connective (collapseAll_renamed f children)

theorem collapseAll_renamed (f : String → String) (ts : List Tree) :
    collapseAll (renameAll f ts) = renameAll f (collapseAll ts) := by
  cases ts with
  | nil => rfl
  | cons t ts =>
    rw [renameAll, collapseAll, collapseAll, renameAll, collapse_renamed f t,
      collapseAll_renamed f ts]

end

end Tree

namespace Grammar
open SearchQuery.Tree

variable {f : String → String}

/-! ### One token ahead -/

/-- What does not tell literals apart sees no difference in the token ahead. -/
theorem look_renamed {α : Type} {look : Option Token → α}
    (blind : ∀ v w, look (some (.literal v)) = look (some (.literal w))) (next : Option Token) :
    look (next.map (Token.rename f)) = look next := by
  match next with
  | none | some (.operator _) => rfl
  | some (.literal text) => exact blind (f text) text

theorem opensTerm_renamed (t : Token) : opensTerm (t.rename f) = opensTerm t := by
  cases t <;> rfl

theorem renamed_eq_operator_iff {t : Token} {op : Operator} :
    t.rename f = .operator op ↔ t = .operator op := by
  cases t <;> simp [Token.rename]

theorem renamed_of_no_value {t : Option Token} (noValue : isValue t = false) :
    t.map (Token.rename f) = t := by
  match t with
  | none | some (.operator _) => rfl

theorem behind_renamed (last : Option Token) (ts : List Token) :
    behind (last.map (Token.rename f)) (ts.map (Token.rename f)) =
      (behind last ts).map (Token.rename f) := by
  induction ts generalizing last with
  | nil => rfl
  | cons t ts ih => exact ih (some t)

/-! ### Derivations -/

theorem Reads.renamed {rule xs trees next} (reads : Reads rule xs trees next)
    (f : String → String) :
    Reads rule (xs.map (Token.rename f)) (renameAll f trees) (next.map (Token.rename f)) := by
  induction reads with
  | value ends => exact .value ((look_renamed (fun _ _ => rfl) _).trans ends)
  | separated => exact .separated
  | compared compares => exact .compared compares
  | unary => exact .unary
  | term opens _ ih => exact .term ((opensTerm_renamed _).trans opens) ih
  | comma _ ih => exact .comma ih
  | group _ ih =>
    rw [List.map_cons, List.map_append]
    exact .group ih
  | openGroup _ ih => exact .openGroup ih
  | negation _ ih => exact .negation ih
  | alone _ ends ih => exact .alone ih ((look_renamed (fun _ _ => rfl) _).trans ends)
  | trailing connective _ ih =>
    rw [List.map_append]
    exact .trailing connective ih
  | linked connective _ _ ihFirst ihSecond =>
    rw [List.map_append]
    exact .linked connective ihFirst ihSecond
  | nil ends => exact .nil ((look_renamed (fun _ _ => rfl) _).trans ends)
  | cons opens _ _ ihFirst ihOthers =>
    rw [Option.map_or, ← List.head?_map] at ihFirst
    rw [List.map_cons, List.map_append]
    exact .cons (mt renamed_eq_operator_iff.mp opens) ihFirst ihOthers

theorem Misses.renamed {rule xs next} (misses : Misses rule xs next) (f : String → String) :
    Misses rule (xs.map (Token.rename f)) (next.map (Token.rename f)) := by
  induction misses with
  | nothing => exact .nothing
  | compared compares missing =>
    exact .compared compares ((look_renamed (fun _ _ => rfl) _).trans missing)
  | unary missing => exact .unary ((look_renamed (fun _ _ => rfl) _).trans missing)
  | noOperand => exact .noOperand
  | term opens _ ih => exact .term ((opensTerm_renamed _).trans opens) ih
  | comma _ ih => exact .comma ih
  | group _ ih => exact .group ih
  | negation _ ih => exact .negation ih
  | first _ ih => exact .first ih
  | second connective first _ ih =>
    rw [List.map_append]
    exact .second connective (first.renamed f) ih
  | head opens _ ih => exact .head (mt renamed_eq_operator_iff.mp opens) ih
  | tail opens first _ ih =>
    have first := first.renamed f
    rw [Option.map_or, ← List.head?_map] at first
    rw [List.map_cons, List.map_append]
    exact .tail (mt renamed_eq_operator_iff.mp opens) first ih

/-! ### Readings -/

theorem no_value_of_read {ts : List Token} {e : ValueExpected} (failed : Tree.read ts = .error e) :
    isValue e.found = false ∧ isValue e.after = false := by
  obtain ⟨xs, rest, -, rfl, misses⟩ := misses_of_read failed
  refine ⟨misses.no_value, ?_⟩
  -- A query misses its value behind a token of its own, whatever was read before the query.
  obtain ⟨op, atOperator⟩ := misses.behind_operator .not
  rw [behind_eq_getLast? _ xs misses.sequence_ne_nil] at atOperator
  change isValue (behind none xs) = false
  rw [behind_eq_getLast? _ xs misses.sequence_ne_nil, atOperator]
  rfl

theorem read_renamed (f : String → String) (ts : List Token) :
    Tree.read (ts.map (Token.rename f)) = (Tree.read ts).map (Outcome.rename f) := by
  cases answer : Tree.read ts with
  | ok outcome =>
    obtain ⟨root, unread⟩ := outcome
    obtain ⟨xs, trees, rfl, rfl, reads⟩ := reads_of_read answer
    have renamed := reads.renamed f
    rw [← List.head?_map] at renamed
    rw [List.map_append, read_of_reads renamed]
    rfl
  | error e =>
    obtain ⟨noFound, noAfter⟩ := no_value_of_read answer
    obtain ⟨xs, rest, rfl, rfl, misses⟩ := misses_of_read answer
    have ahead : (rest.map (Token.rename f)).head? = rest.head?.map (Token.rename f) :=
      List.head?_map
    have place := behind_renamed (f := f) none xs
    rw [List.map_append, read_of_misses (misses.renamed f) ahead, renamed_of_no_value noFound]
    rw [renamed_of_no_value noAfter] at place
    change Except.error (ValueExpected.mk rest.head? (behind none (xs.map (Token.rename f)))) = _
    rw [← Option.map_none, place]
    rfl

theorem asWritten_renamed (f : String → String) (ts : List Token) :
    asWritten (ts.map (Token.rename f)) = (asWritten ts).map (Tree.rename f) := by
  rw [asWritten, asWritten, read_renamed]
  cases Tree.read ts <;> rfl

theorem ofTokens_renamed (f : String → String) (ts : List Token) :
    ofTokens (ts.map (Token.rename f)) = (ofTokens ts).map (Tree.rename f) := by
  rw [ofTokens, ofTokens, asWritten_renamed]
  cases asWritten ts with
  | error e => rfl
  | ok root => exact congrArg Except.ok (collapse_renamed f root)

/-- With other texts in the place of the literals the same tokens are read, and the new texts stand
in the same places of the tree and of the tokens left; or the same failure is found at the same
place, and no literal is in it. -/
theorem literals_not_looked_into (f : String → String) (ts : List Token) :
    Tree.read (ts.map (Token.rename f)) = (Tree.read ts).map (Outcome.rename f) ∧
    asWritten (ts.map (Token.rename f)) = (asWritten ts).map (Tree.rename f) ∧
    ofTokens (ts.map (Token.rename f)) = (ofTokens ts).map (Tree.rename f) ∧
    ∀ e, asWritten ts = .error e ∨ ofTokens ts = .error e →
      ∀ text, e.found ≠ some (.literal text) ∧ e.after ≠ some (.literal text) := by
  refine ⟨read_renamed f ts, asWritten_renamed f ts, ofTokens_renamed f ts, ?_⟩
  intro e failed text
  have collapsed : ofTokens ts = .error e := by
    rcases failed with written | collapsed
    · rw [ofTokens, written]
      rfl
    · exact collapsed
  obtain ⟨noFound, noAfter⟩ := no_value_of_read (ofTokens_eq_error_iff.mp collapsed)
  constructor
  · intro found
    rw [found] at noFound
    cases noFound
  · intro after
    rw [after] at noAfter
    cases noAfter

/-- `a = ) b` with every literal turned into one that spells a connective. -/
theorem literals_not_looked_into_connective :
    ofTokens [.literal "a", .operator .eq, .operator .rparen, .literal "b"] =
      .error ⟨some (.operator .rparen), some (.operator .eq)⟩ ∧
    ofTokens [.literal "and", .operator .eq, .operator .rparen, .literal "and"] =
      .error ⟨some (.operator .rparen), some (.operator .eq)⟩ ∧
    some (Token.operator .eq) ≠ some (.literal "=") := by
  have failed : ofTokens [.literal "a", .operator .eq, .operator .rparen, .literal "b"] =
      .error ⟨some (.operator .rparen), some (.operator .eq)⟩ := by cbv
  obtain ⟨-, -, renamed, noLiteral⟩ := literals_not_looked_into (fun _ => "and")
    [.literal "a", .operator .eq, .operator .rparen, .literal "b"]
  refine ⟨failed, ?_, (noLiteral _ (.inr failed) "=").2⟩
  rw [failed] at renamed
  exact renamed

end Grammar
end SearchQuery
