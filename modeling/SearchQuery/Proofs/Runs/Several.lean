import SearchQuery.Proofs.JsonReading.Queries

/-!
# Several queries in one run

A run prints the trees of all its queries or none of them. At the first query that cannot be read it
stops, and the queries behind that one have no part in it. Otherwise what it prints is put together
from what it would print for each query alone: headings and empty lines between outlines, one line
for each s-expression, and the values side by side in one list of JSON.
-/
namespace SearchQuery.Run

variable {s : Surroundings} {effective : Effective} {collapse : Bool} {query : String}
  {before queries : List String} {e : ValueExpected} {answers : List (String × Tree)}

/-- What `parse` is asked for, apart from the queries. -/
structure Flags where
  verbosity : Nat
  format : Option Format
  raw : Bool

def Flags.asking (flags : Flags) (queries : List String) : Invocation :=
  ⟨flags.verbosity, .parse queries flags.format flags.raw⟩

variable {flags : Flags}

/-! ### The first query that cannot be read -/

structure FirstFailure (queries before : List String) (query : String) (e : ValueExpected)
    (behind : List String) : Prop where
  parts : queries = before ++ query :: behind
  earlier : ∀ other ∈ before, ∃ t, SearchQuery.parse other = .ok t
  failed : SearchQuery.parse query = .error e

/-- An outcome that prints nothing, and tells of a query and what is wrong with it behind whatever
is logged. -/
structure Refuses (o : Outcome) (query : String) (e : ValueExpected) : Prop where
  code : o.code = 1
  stdout : o.stdout = ""
  stderr : ∃ logged : List Event, o.stderr =
    unlines (logged.map (fun event => event.level.label ++ " " ++ event.text) ++
      ["error: " ++ e.message, "  in query: " ++ query])

theorem exists_firstFailure (fails : ∃ query ∈ queries, ∃ e, SearchQuery.parse query = .error e) :
    ∃ before query e behind, FirstFailure queries before query e behind := by
  induction queries with
  | nil => simp at fails
  | cons first queries ih =>
    cases read : SearchQuery.parse first with
    | error e => exact ⟨[], first, e, queries, rfl, List.forall_mem_nil _, read⟩
    | ok t =>
      have further : ∃ query ∈ queries, ∃ e, SearchQuery.parse query = .error e := by
        simpa [read] using fails
      obtain ⟨before, query, e, behind, parts, earlier, failed⟩ := ih further
      exact ⟨first :: before, query, e, behind, congrArg _ parts,
        List.forall_mem_cons.mpr ⟨⟨t, read⟩, earlier⟩, failed⟩

theorem treeOf_eq_error (collapse : Bool) (failed : SearchQuery.parse query = .error e) :
    treeOf collapse query = .error e := by
  unfold treeOf SearchQuery.parse Tree.ofTokens at *
  cases written : Tree.asWritten (tokens query) with
  | error e' =>
    rw [written] at failed
    cases collapse <;> exact failed
  | ok t =>
    rw [written] at failed
    cases failed

/-- The queries up to the first failure decide what is noted. -/
theorem readQueries_of_failure (collapse : Bool)
    (earlier : ∀ other ∈ before, ∃ t, SearchQuery.parse other = .ok t)
    (failed : SearchQuery.parse query = .error e) :
    ∃ events : List Event, ∀ behind, readQueries collapse (before ++ query :: behind) =
      (events.map .event ++ [.complaint (.query e query)], none) := by
  induction before with
  | nil =>
    have answer := readQuery_snd collapse query
    rw [treeOf_eq_error collapse failed] at answer
    refine ⟨(readQuery collapse query).1, fun behind => ?_⟩
    rw [List.nil_append, readQueries]
    simp only [answer]
  | cons first before ih =>
    obtain ⟨first_read, others_read⟩ := List.forall_mem_cons.mp earlier
    obtain ⟨events, others⟩ := ih others_read
    obtain ⟨t, tree⟩ := (exists_treeOf_iff collapse first).mpr first_read
    have answer := readQuery_snd collapse first
    rw [tree] at answer
    refine ⟨(readQuery collapse first).1 ++ events, fun behind => ?_⟩
    rw [List.cons_append, readQueries]
    simp only [answer, others behind, Option.map_none, List.map_append, List.append_assoc]

theorem filter_events (level : Level) (events : List Event) :
    (events.map Note.event).filter (Note.isShown level) =
      (events.filter fun event => (Note.event event).isShown level).map .event := by
  rw [List.filter_map]
  rfl

theorem stderr_of_notes {o : Outcome} {events : List Event}
    (notes : o.notes = events.map .event ++ [.complaint (.query e query)]) :
    o.stderr = unlines (events.map (fun event => event.level.label ++ " " ++ event.text) ++
      ["error: " ++ e.message, "  in query: " ++ query]) := by
  have logged : (events.map Note.event).flatMap Note.lines =
      events.map fun event => event.level.label ++ " " ++ event.text := by
    rw [List.flatMap_map, List.map_eq_flatMap]
    rfl
  rw [Outcome.stderr, notes, List.flatMap_append, logged]
  rfl

/-- What stands in front of a query that cannot be read decides the outcome with it. -/
theorem exists_refusal (loads : context s = .ok effective)
    (earlier : ∀ other ∈ before, ∃ t, SearchQuery.parse other = .ok t)
    (failed : SearchQuery.parse query = .error e) :
    ∃ o, Refuses o query e ∧
      ∀ behind, invocation s (flags.asking (before ++ query :: behind)) = o := by
  obtain ⟨events, noted⟩ :=
    readQueries_of_failure (effective.settings.collapse && !flags.raw) earlier failed
  let level := effective.settings.level.raised flags.verbosity
  let shown := events.filter fun event => (Note.event event).isShown level
  refine ⟨⟨1, "", shown.map .event ++ [.complaint (.query e query)], s.store⟩, ?_, ?_⟩
  · exact ⟨rfl, rfl, shown, stderr_of_notes rfl⟩
  · intro behind
    simp only [Flags.asking, invocation, loaded, loads, parse, noted, List.filter_append,
      filter_events]
    rfl

/-! ### What is printed for several queries -/

/-- The text printed for each query alone, under its query if there are several, with an empty line
between. -/
def headed (alone : String → String) : List String → String
  | [query] => alone query
  | queries => "\n".intercalate (queries.map fun query => "# " ++ query ++ "\n" ++ alone query)

/-- The value that lists items under `queries`. -/
def listing (items : List Json) : Json := .record [("queries", .list items)]

/-- How the text for several queries is put together from the texts for each alone. -/
def Together (format : Format) (queries : List String) (alone : String → String)
    (whole : String) : Prop :=
  match format with
  | .tree => whole = headed alone queries
  | .sexp => whole = String.join (queries.map alone) ∧
    ∃ lines : List String, whole = unlines lines ∧ lines.length = queries.length ∧
      ∀ line ∈ lines, Tree.OneLine line
  | .json => ∃ items, Json.ofText? whole = some (listing items) ∧
    List.Forall₂ (fun query item => Json.ofText? (alone query) = some (listing [item]))
      queries items

theorem ofText?_printed (answers : List (String × Tree)) :
    Json.ofText? (printed .json answers) =
      some (listing (answers.map fun answer =>
        .record [("query", .string answer.1), ("ast", answer.2.json)])) :=
  Json.ofText?_text _ (by decide)

/-- If each query alone has its answer printed, the answers together are printed as one. -/
theorem together_printed {alone : String → String} {format : Format}
    (each : ∀ answer ∈ answers, alone answer.1 = printed format [answer]) :
    Together format (answers.map (·.1)) alone (printed format answers) := by
  cases format with
  | tree =>
    match answers with
    | [] => rfl
    | [answer] => exact (each answer List.mem_cons_self).symm
    | first :: second :: others =>
      have parts : (first :: second :: others).map
            (fun answer => "# " ++ answer.1 ++ "\n" ++ answer.2.outline) =
          ((first :: second :: others).map (·.1)).map
            fun query => "# " ++ query ++ "\n" ++ alone query := by
        rw [List.map_map]
        refine List.map_congr_left fun answer member => ?_
        rw [Function.comp_apply, each answer member]
        rfl
      exact congrArg "\n".intercalate parts
  | sexp =>
    refine ⟨?_, answers.map (·.2.sexp), rfl, by rw [List.length_map, List.length_map], ?_⟩
    · rw [printed, unlines, List.map_map, List.map_map]
      refine congrArg _ (List.map_congr_left fun answer member => ?_)
      rw [Function.comp_apply, Function.comp_apply, each answer member]
      rfl
    · intro line member
      obtain ⟨answer, -, rfl⟩ := List.mem_map.mp member
      exact Tree.oneLine_sexp answer.2
  | json =>
    refine ⟨_, ofText?_printed answers, ?_⟩
    rw [List.forall₂_map_left_iff, List.forall₂_map_right_iff, List.forall₂_same]
    intro answer member
    rw [each answer member]
    exact ofText?_printed [answer]

/-- Every query is read, alone or with the others, and its tree is printed in its place. -/
structure PrintsEach (s : Surroundings) (flags : Flags) (settings : Settings)
    (queries : List String) : Prop where
  code : (invocation s (flags.asking queries)).code = 0
  alone : ∀ query ∈ queries, ∃ t, treeOf (settings.collapse && !flags.raw) query = .ok t ∧
    (invocation s (flags.asking [query])).code = 0 ∧
    (invocation s (flags.asking [query])).stdout =
      printed (flags.format.getD settings.format) [(query, t)]
  together : Together (flags.format.getD settings.format) queries
    (fun query => (invocation s (flags.asking [query])).stdout)
    (invocation s (flags.asking queries)).stdout

theorem named_of_answered (answered : List.Forall₂ (Answers collapse) queries answers) :
    answers.map (·.1) = queries ∧ ∀ answer ∈ answers, Answers collapse answer.1 answer := by
  induction answered with
  | nil => exact ⟨rfl, List.forall_mem_nil _⟩
  | cons first _ ih =>
    obtain ⟨named, others⟩ := ih
    obtain rfl := first.named
    exact ⟨congrArg _ named, List.forall_mem_cons.mpr ⟨first, others⟩⟩

theorem printsEach_of_reads (loads : context s = .ok effective)
    (all : ∀ query ∈ queries, ∃ t, SearchQuery.parse query = .ok t) :
    PrintsEach s flags effective.settings queries := by
  obtain ⟨answers, answered⟩ := exists_answers (effective.settings.collapse && !flags.raw) all
  obtain ⟨named, answers_each⟩ := named_of_answered answered
  obtain ⟨_, whole⟩ : ∃ notes, invocation s (flags.asking queries) =
      ⟨0, printed (flags.format.getD effective.settings.format) answers, notes, s.store⟩ :=
    invocation_of_answers loads answered
  have alone : ∀ answer ∈ answers, ∃ notes, invocation s (flags.asking [answer.1]) =
      ⟨0, printed (flags.format.getD effective.settings.format) [answer], notes, s.store⟩ :=
    fun answer member => invocation_of_answers loads (.cons (answers_each answer member) .nil)
  subst named
  refine ⟨by rw [whole], ?_, ?_⟩
  · intro query member
    obtain ⟨answer, among, rfl⟩ := List.mem_map.mp member
    obtain ⟨_, ran⟩ := alone answer among
    exact ⟨answer.2, (answers_each answer among).tree, by rw [ran], by rw [ran]⟩
  · rw [whole]
    refine together_printed fun answer member => ?_
    obtain ⟨_, ran⟩ := alone answer member
    rw [ran]

end SearchQuery.Run
