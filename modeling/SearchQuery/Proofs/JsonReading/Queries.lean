import SearchQuery.Proofs.JsonReading
import SearchQuery.Proofs.Runs.Queries
import SearchQuery.Proofs.SexpReading

/-!
# Queries read from JSON

A value is taken for a node by the type that it names and by the fields that the type asks for, in
whatever order they stand; other fields say nothing. The type also decides which operators a node
may hold, so an operator node and a logical one are told apart where they hold the same. What is
written for a tree is read as that tree, and what a run prints for its queries as these queries with
their trees, in order.
-/
namespace SearchQuery

/-! ### Fields -/

namespace Json

/-- The text in the first field of a name. -/
def stringAt? (name : String) (fields : List (String × Json)) : Option String :=
  match fields.lookup name with
  | some (.string text) => some text
  | _ => none

variable {name other : String} {fields : List (String × Json)}

@[simp] theorem stringAt?_first (name text : String) (fields : List (String × Json)) :
    stringAt? name ((name, .string text) :: fields) = some text := by
  rw [stringAt?, List.lookup_cons_self]

@[simp] theorem stringAt?_behind (apart : name ≠ other) (value : Json) :
    stringAt? name ((other, value) :: fields) = stringAt? name fields := by
  rw [stringAt?, stringAt?, List.lookup_cons, beq_eq_false_iff_ne.mpr apart]

end Json

/-! ### Nodes -/

namespace Tree
open Json (stringAt?)

mutual

/-- The tree that a value describes. -/
def ofJson? : Json → Option Tree
  | .record fields => do
    match ← stringAt? "type" fields with
    | "leaf" => return leaf (← stringAt? "value" fields)
    | "operator" =>
      let op ← Operator.ofName? (← stringAt? "operator" fields)
      return operator op (← childrenOf? fields)
    | "logical" =>
      let op ← Operator.ofName? (← stringAt? "operator" fields)
      return logical (← Connective.ofOperator? op) (← childrenOf? fields)
    | _ => none
  | _ => none

/-- The trees in the first field that is named for the children. -/
def childrenOf? : List (String × Json) → Option (List Tree)
  | [] => none
  | (name, value) :: fields => if name = "children" then ofItems? value else childrenOf? fields

def ofItems? : Json → Option (List Tree)
  | .list items => ofJsons? items
  | _ => none

def ofJsons? : List Json → Option (List Tree)
  | [] => some []
  | item :: items => do return (← ofJson? item) :: (← ofJsons? items)

end

theorem childrenOf?_node (kind name : Json) (items : List Json) :
    childrenOf? [("type", kind), ("operator", name), ("children", .list items)] =
      ofJsons? items := by
  rw [childrenOf?, if_neg (by decide), childrenOf?, if_neg (by decide), childrenOf?, if_pos rfl,
    ofItems?]

theorem ofName?_connective (connective : Connective) :
    (Operator.ofName? connective.name).bind Connective.ofOperator? = some connective := by
  cases connective <;> rfl

mutual

theorem ofJson?_json (t : Tree) : ofJson? t.json = some t := by
  cases t with
  | leaf text => simp [json, ofJson?]
  | operator op children =>
    have name := Sexp.ofName?_name op
    have inner := ofJsons?_jsons children
    simp [json, ofJson?, childrenOf?_node, name, inner]
  | logical connective children =>
    have name := ofName?_connective connective
    have inner := ofJsons?_jsons children
    simp [json, ofJson?, childrenOf?_node, ← Option.bind_assoc, name, inner]

theorem ofJsons?_jsons (ts : List Tree) : ofJsons? (jsons ts) = some ts := by
  cases ts with
  | nil => rw [jsons, ofJsons?]
  | cons t ts =>
    rw [jsons, ofJsons?, ofJson?_json t, ofJsons?_jsons ts]
    rfl

end

def queryOfJson? : Json → Option (String × Tree)
  | .record fields => do
    let query ← stringAt? "query" fields
    let ast ← fields.lookup "ast"
    return (query, ← ofJson? ast)
  | _ => none

/-- The queries that a value lists, each with its tree. -/
def queriesOfJson? : Json → Option (List (String × Tree))
  | .record fields =>
    match fields.lookup "queries" with
    | some (.list items) => items.mapM queryOfJson?
    | _ => none
  | _ => none

theorem queryOfJson?_record (query : String) (t : Tree) :
    queryOfJson? (.record [("query", .string query), ("ast", t.json)]) = some (query, t) := by
  have ast : [("query", .string query), ("ast", t.json)].lookup "ast" = some t.json := by
    rw [List.lookup_cons, beq_eq_false_iff_ne.mpr (by decide), List.lookup_cons_self]
  simp [queryOfJson?, ast, ofJson?_json]

theorem queriesOfJson?_jsonOfQueries (queries : List (String × Tree)) :
    queriesOfJson? (jsonOfQueries queries) = some queries := by
  rw [jsonOfQueries, queriesOfJson?, List.lookup_cons_self]
  simp only
  induction queries with
  | nil => rfl
  | cons query queries ih =>
    rw [List.map_cons, List.mapM_cons, queryOfJson?_record, ih]
    rfl

end Tree

/-! ### Runs -/

namespace Run

/-- The JSON of any tree is read as that tree. If the settings can be loaded and each of the queries
can be read, the JSON that a run prints for them is one value, which is read as the queries with
their trees, in order. Arguments that name the format are such a run's, whatever the queries are. -/
theorem json_reads_back :
    (∀ t : Tree, (Json.ofText? t.json.text).bind Tree.ofJson? = some t) ∧
    (∀ (s : Surroundings) (arguments : List String) (verbosity : Nat) (queries : List String)
      (format : Option Format) (raw : Bool) (effective : Effective),
      Invocation.ofArguments? 0 arguments = some ⟨verbosity, .parse queries format raw⟩ →
      context s = .ok effective →
      format.getD effective.settings.format = .json →
      (∀ query ∈ queries, ∃ t, SearchQuery.parse query = .ok t) →
      (run s arguments).code = 0 ∧ ∃ answers,
        (Json.ofText? (run s arguments).stdout).bind Tree.queriesOfJson? = some answers ∧
        List.Forall₂ (Answers (effective.settings.collapse && !raw)) queries answers) ∧
    ∀ (queries arguments : List String), queries ≠ [] →
      Invocation.AsksFor .json queries arguments →
      Invocation.ofArguments? 0 arguments = some ⟨0, .parse queries (some .json) false⟩ := by
  refine ⟨?_, ?_, fun _ _ nonempty asks => asks.read nonempty⟩
  · intro t
    have blank : "".toList.all Json.isSpace = true := by decide
    have read := Json.ofText?_text t.json blank
    rw [String.append_empty] at read
    rw [read]
    exact Tree.ofJson?_json t
  · intro s arguments verbosity queries format raw effective read loads json all
    obtain ⟨answers, answered⟩ := exists_answers (effective.settings.collapse && !raw) all
    obtain ⟨notes, ran⟩ := run_of_answers read loads answered
    rw [ran, json, printed]
    refine ⟨rfl, answers, ?_, answered⟩
    rw [Json.ofText?_text _ (by decide)]
    exact Tree.queriesOfJson?_jsonOfQueries answers

/-- Where there is nothing but the root directory. -/
def bare : Surroundings := ⟨.empty, none, []⟩

/-- One query looks like an option, and the other has quotes and a tab. -/
theorem json_reads_back_bare :
    (Json.ofText? (run bare ["parse", "-f", "json", "--", "-a", "b or \"c\t\""]).stdout).bind
      Tree.queriesOfJson? = some [("-a", .operator .not [.leaf "a"]),
        ("b or \"c\t\"", .logical .or [.leaf "b", .leaf "c\t"])] := by
  have loads : context bare = .ok {} := by decide +kernel
  have scanned : tokens "-a" = [.operator .not, .literal "a"] ∧
      tokens "b or \"c\t\"" = [.literal "b", .operator .or, .literal "c\t"] := by decide +kernel
  have first : SearchQuery.parse "-a" = .ok (.operator .not [.leaf "a"]) := by
    rw [SearchQuery.parse, scanned.1]
    cbv
  have second : SearchQuery.parse "b or \"c\t\"" =
      .ok (.logical .or [.leaf "b", .leaf "c\t"]) := by
    rw [SearchQuery.parse, scanned.2]
    cbv
  have all : ∀ query ∈ ["-a", "b or \"c\t\""], ∃ t, SearchQuery.parse query = .ok t := by
    simp [first, second]
  obtain ⟨_, runs, asks⟩ := json_reads_back
  have read := asks ["-a", "b or \"c\t\""] _ (by decide) .ended
  obtain ⟨-, answers, decoded, answered⟩ := runs bare _ _ _ _ _ _ read loads rfl all
  have known : List.Forall₂ (Answers true) ["-a", "b or \"c\t\""]
      [("-a", .operator .not [.leaf "a"]),
        ("b or \"c\t\"", .logical .or [.leaf "b", .leaf "c\t"])] :=
    .cons ⟨rfl, first⟩ (.cons ⟨rfl, second⟩ .nil)
  exact decoded.trans (congrArg some (answers_unique answered known))

end Run
end SearchQuery
