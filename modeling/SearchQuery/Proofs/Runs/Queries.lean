import Mathlib.Data.List.Forall2
import SearchQuery.Proofs.Arguments
import SearchQuery.Proofs.Runs.Verbosity

/-!
# The queries of a run

A run reads its queries one by one. Where all of them can be read, it prints each with its tree, in
the order of the arguments; whether the trees are collapsed does not decide which queries these are.
A query that looks like an option is an operand only behind `--`.
-/
namespace SearchQuery

namespace Run

variable {collapse : Bool} {query : String} {queries : List String}
  {answers : List (String × Tree)}

/-- The tree of a query, collapsed or as written. -/
def treeOf (collapse : Bool) (query : String) : Except ValueExpected Tree :=
  if collapse then SearchQuery.parse query else Tree.asWritten (tokens query)

theorem readQuery_snd (collapse : Bool) (query : String) :
    (readQuery collapse query).2 = treeOf collapse query := by
  simp only [readQuery, treeOf, SearchQuery.parse, Tree.ofTokens, Tree.asWritten]
  rcases Tree.read (tokens query) with e | o
  · cases collapse <;> rfl
  · cases collapse <;> rfl

theorem exists_treeOf_iff (collapse : Bool) (query : String) :
    (∃ t, treeOf collapse query = .ok t) ↔ ∃ t, SearchQuery.parse query = .ok t := by
  unfold treeOf SearchQuery.parse Tree.ofTokens
  cases Tree.asWritten (tokens query) with
  | error e => cases collapse <;> simp [Except.map]
  | ok t => cases collapse <;> simp [Except.map]

/-- The answer to a query names it and holds its tree. -/
structure Answers (collapse : Bool) (query : String) (answer : String × Tree) : Prop where
  named : answer.1 = query
  tree : treeOf collapse query = .ok answer.2

theorem readQueries_cons_eq_some_iff :
    (readQueries collapse (query :: queries)).2 = some answers ↔
      ∃ t others, treeOf collapse query = .ok t ∧
        (readQueries collapse queries).2 = some others ∧ answers = (query, t) :: others := by
  rw [← readQuery_snd, readQueries]
  rcases readQuery collapse query with ⟨events, e | t⟩
  · simp
  · rw [Option.map_eq_some_iff]
    simp [eq_comm]

/-- There are answers exactly if every query has its own, in the same order. -/
theorem readQueries_eq_some_iff :
    (readQueries collapse queries).2 = some answers ↔
      List.Forall₂ (Answers collapse) queries answers := by
  induction queries generalizing answers with
  | nil => simp [readQueries, eq_comm]
  | cons query queries ih =>
    rw [readQueries_cons_eq_some_iff, List.forall₂_cons_left_iff]
    constructor
    · rintro ⟨t, others, tree, further, rfl⟩
      exact ⟨(query, t), others, ⟨rfl, tree⟩, ih.mp further, rfl⟩
    · rintro ⟨⟨_, t⟩, others, ⟨rfl, tree⟩, further, rfl⟩
      exact ⟨t, others, tree, ih.mpr further, rfl⟩

theorem answers_unique {others : List (String × Tree)}
    (answered : List.Forall₂ (Answers collapse) queries answers)
    (further : List.Forall₂ (Answers collapse) queries others) : answers = others :=
  Option.some.inj ((readQueries_eq_some_iff.mpr answered).symm.trans
    (readQueries_eq_some_iff.mpr further))

theorem exists_answers (collapse : Bool)
    (all : ∀ query ∈ queries, ∃ t, SearchQuery.parse query = .ok t) :
    ∃ answers, List.Forall₂ (Answers collapse) queries answers := by
  induction queries with
  | nil => exact ⟨[], .nil⟩
  | cons query queries ih =>
    obtain ⟨first, others⟩ := List.forall_mem_cons.mp all
    obtain ⟨t, tree⟩ := (exists_treeOf_iff collapse query).mpr first
    obtain ⟨answers, further⟩ := ih others
    exact ⟨(query, t) :: answers, .cons ⟨rfl, tree⟩ further⟩

variable {s : Surroundings} {arguments : List String} {verbosity : Nat} {format : Option Format}
  {raw : Bool} {effective : Effective}

/-- With an answer to each of its queries, the command succeeds and prints them. -/
theorem invocation_of_answers
    (loads : context s = .ok effective)
    (answered : List.Forall₂ (Answers (effective.settings.collapse && !raw)) queries answers) :
    ∃ notes, invocation s ⟨verbosity, .parse queries format raw⟩ =
      ⟨0, printed (format.getD effective.settings.format) answers, notes, s.store⟩ := by
  have trees := readQueries_eq_some_iff.mpr answered
  simp only [invocation, loaded, loads, parse]
  rcases collected : readQueries (effective.settings.collapse && !raw) queries with ⟨notes, found⟩
  rw [collected] at trees
  subst trees
  exact ⟨_, rfl⟩

theorem run_of_answers
    (read : Invocation.ofArguments? 0 arguments = some ⟨verbosity, .parse queries format raw⟩)
    (loads : context s = .ok effective)
    (answered : List.Forall₂ (Answers (effective.settings.collapse && !raw)) queries answers) :
    ∃ notes, run s arguments =
      ⟨0, printed (format.getD effective.settings.format) answers, notes, s.store⟩ := by
  rw [run_of_read read]
  exact invocation_of_answers loads answered

end Run

/-! ### Queries among the arguments -/

namespace Invocation

variable {subcommand : Subcommand} {queries args : List String}

theorem pending?_operand {arg : String} (operand : isOption arg = false) (g : Given) :
    pending? subcommand g arg = some (.nothing { g with operands := g.operands ++ [arg] }) := by
  unfold isOption at operand
  unfold pending?
  split
  · rename_i text
    rw [text] at operand
    cases operand
  · rename_i text
    rw [text] at operand
    cases operand
  · rfl

theorem behind_of_pending? {arg : String} {g g' : Given} (open_end : arg ≠ "--")
    (taken : pending? subcommand g arg = some (.nothing g')) :
    behind subcommand g (arg :: args) = behind subcommand g' args := by
  rw [behind.eq_def]
  simp only [if_neg open_end, taken]

theorem behind_operands (operands : ∀ query ∈ queries, isOption query = false) (g : Given) :
    behind subcommand g queries = some { g with operands := g.operands ++ queries } := by
  induction queries generalizing g with
  | nil => rw [behind, List.append_nil]
  | cons query queries ih =>
    obtain ⟨first, others⟩ := List.forall_mem_cons.mp operands
    have open_end : query ≠ "--" := by
      rintro rfl
      cases first
    rw [behind_of_pending? open_end (pending?_operand first g), ih others, List.append_assoc,
      List.singleton_append]

/-- The arguments name a format and then the queries; what looks like an option is a query behind
`--`. -/
inductive AsksFor (format : Format) (queries : List String) : List String → Prop
  | ended : AsksFor format queries ("parse" :: "-f" :: format.name :: "--" :: queries)
  | plain (operands : ∀ query ∈ queries, isOption query = false) :
      AsksFor format queries ("parse" :: "-f" :: format.name :: queries)

theorem behind_format (format : Format) (args : List String) :
    behind .parse {} ("-f" :: format.name :: args) =
      behind .parse { format := some format } args := by
  have option : shorts .parse {} ['f'] = some (.format {}) := by rfl
  have word : isOption format.name = false := by cases format <;> rfl
  have named : Given.withFormat {} format.name.toList = some { format := some format } := by
    cases format <;> rfl
  have pending : pending? .parse {} "-f" = some (.format {}) := option
  rw [behind.eq_def]
  simp [pending, word, named]

theorem AsksFor.read {format : Format} (asks : AsksFor format queries args)
    (nonempty : queries ≠ []) :
    ofArguments? 0 args = some ⟨0, .parse queries (some format) false⟩ := by
  obtain ⟨rest, rfl, operands⟩ : ∃ rest, args = "parse" :: "-f" :: format.name :: rest ∧
      behind .parse { format := some format } rest =
        some { format := some format, operands := queries } := by
    cases asks with
    | ended => exact ⟨_, rfl, behind_ended _ _⟩
    | plain plain => exact ⟨_, rfl, behind_operands plain _⟩
  have command : command? .parse { format := some format, operands := queries } =
      some (.parse queries (some format) false) := by
    cases queries with
    | nil => exact absurd rfl nonempty
    | cons query queries => rfl
  rw [ofArguments?]
  simp [behind_format, operands, command, Subcommand.ofName?]

end Invocation
end SearchQuery
