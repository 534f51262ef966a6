import SearchQuery.Proofs.Grammar.Agreement

/-!
# Strict queries

The queries that a careful writer writes: every group is closed, every connective has both its
operands, every operator stands where it belongs, and no comma is used. A derivation of one gives
the tokens it writes and the tree it means; reading the tokens gives that tree back and leaves no
token unread, whatever the length of the chains and the depth of the groups.
-/
namespace SearchQuery.Strict
open SearchQuery.Tree Grammar

abbrev Comparison := {op : Operator // op.isComparison = true}
abbrev NullCheck := {op : Operator // op.isNullCheck = true}

inductive Term where
  | value (text : String)
  | compared (left : String) (op : Comparison) (right : String)

mutual

/-- Chains side by side. -/
inductive Query where
  | empty
  | cons (chain : Chain) (others : Query)

/-- Operands joined by connectives, none of which binds more tightly than another. -/
inductive Chain where
  | alone (operand : Operand)
  | linked (operand : Operand) (connective : Connective) (rest : Chain)

inductive Operand where
  | group (body : Query)
  | negation (negated : Negated)
  | nullCheck (op : NullCheck) (field : String)
  | term (term : Term)

/-- What a negation may stand before: no null check. -/
inductive Negated where
  | negation (negated : Negated)
  | group (body : Query)
  | term (term : Term)

end

def Term.tokens : Term → List Token
  | value text => [.literal text]
  | compared left op right => [.literal left, .operator op, .literal right]

mutual

def Query.tokens : Query → List Token
  | .empty => []
  | .cons chain others => chain.tokens ++ others.tokens

def Chain.tokens : Chain → List Token
  | .alone operand => operand.tokens
  | .linked operand connective rest =>
    operand.tokens ++ .operator connective.operator :: rest.tokens

def Operand.tokens : Operand → List Token
  | .group body => .operator .lparen :: (body.tokens ++ [.operator .rparen])
  | .negation negated => .operator .not :: negated.tokens
  | .nullCheck op field => [.operator op, .literal field]
  | .term term => term.tokens

def Negated.tokens : Negated → List Token
  | .negation negated => .operator .not :: negated.tokens
  | .group body => .operator .lparen :: (body.tokens ++ [.operator .rparen])
  | .term term => term.tokens

end

def Term.tree : Term → Tree
  | value text => .leaf text
  | compared left op right => .operator op [.leaf left, .leaf right]

mutual

def Query.trees : Query → List Tree
  | .empty => []
  | .cons chain others => chain.tree :: others.trees

/-- A chain nests to the right. -/
def Chain.tree : Chain → Tree
  | .alone operand => operand.tree
  | .linked operand connective rest => .logical connective [operand.tree, rest.tree]

def Operand.tree : Operand → Tree
  | .group body => .logical .and body.trees
  | .negation negated => .operator .not [negated.tree]
  | .nullCheck op field => .operator op [.leaf field]
  | .term term => term.tree

def Negated.tree : Negated → Tree
  | .negation negated => .operator .not [negated.tree]
  | .group body => .logical .and body.trees
  | .term term => term.tree

end

def Query.tree (query : Query) : Tree := .logical .and query.trees

/-- A token that starts an operand and nothing else, so that what stands before it is complete. -/
structure Starts (t : Token) : Prop where
  extends_nothing : extendsValue (some t) = false
  links_nothing : links (some t) = false
  closes_nothing : t ≠ .operator .rparen

theorem null_or_notNull {op : Operator} (checks : op.isNullCheck = true) :
    op = .null ∨ op = .notNull := by
  cases op <;> simp_all [Operator.isNullCheck]

theorem Operand.starts (operand : Operand) : ∃ t ts, operand.tokens = t :: ts ∧ Starts t := by
  cases operand with
  | group body => exact ⟨_, _, by rw [tokens], rfl, rfl, by decide⟩
  | negation negated => exact ⟨_, _, by rw [tokens], rfl, rfl, by decide⟩
  | nullCheck op field =>
    obtain ⟨op, checks⟩ := op
    rcases null_or_notNull checks with rfl | rfl
    · exact ⟨_, _, by rw [tokens], rfl, rfl, by simp⟩
    · exact ⟨_, _, by rw [tokens], rfl, rfl, by simp⟩
  | term term =>
    rw [tokens]
    cases term with
    | value | compared => exact ⟨_, _, rfl, rfl, rfl, by simp⟩

theorem Chain.starts (chain : Chain) : ∃ t ts, chain.tokens = t :: ts ∧ Starts t := by
  cases chain with
  | alone operand =>
    rw [tokens]
    exact operand.starts
  | linked operand connective rest =>
    obtain ⟨t, ts, written, starts⟩ := operand.starts
    exact ⟨t, ts ++ .operator connective.operator :: rest.tokens, by rw [tokens, written]; rfl, starts⟩

/-- A chain is complete where the next one starts, and where the sequence ends. -/
theorem Query.follows (query : Query) {next : Option Token} (ends : closes next = true) :
    extendsValue (query.tokens.head?.or next) = false ∧
      links (query.tokens.head?.or next) = false := by
  cases query with
  | empty =>
    rw [tokens]
    rcases none_or_rparen ends with rfl | rfl <;> exact ⟨rfl, rfl⟩
  | cons chain others =>
    obtain ⟨t, ts, written, starts⟩ := chain.starts
    rw [tokens, written]
    exact ⟨starts.extends_nothing, starts.links_nothing⟩

theorem Term.reads (term : Term) {next : Option Token} (ends : extendsValue next = false) :
    Reads .operand term.tokens [term.tree] next := by
  cases term with
  | value text => exact .term rfl (.value ends)
  | compared left op right => exact .term rfl (.compared op.property)

mutual

theorem Query.reads (query : Query) {next : Option Token} (ends : closes next = true) :
    Reads .sequence query.tokens query.trees next := by
  cases query with
  | empty =>
    rw [Query.tokens, Query.trees]
    exact .nil ends
  | cons chain others =>
    obtain ⟨extendsNothing, linksNothing⟩ := others.follows ends
    have first := chain.reads extendsNothing linksNothing
    obtain ⟨t, ts, written, starts⟩ := chain.starts
    rw [written] at first
    rw [Query.tokens, Query.trees, written]
    exact .cons starts.closes_nothing first (others.reads ends)

theorem Chain.reads (chain : Chain) {next : Option Token}
    (extendsNothing : extendsValue next = false) (linksNothing : links next = false) :
    Reads .expression chain.tokens [chain.tree] next := by
  cases chain with
  | alone operand =>
    rw [Chain.tokens, Chain.tree]
    exact .alone (operand.reads extendsNothing) linksNothing
  | linked operand connective rest =>
    have connects : extendsValue (some (.operator connective.operator)) = false := by
      cases connective <;> rfl
    rw [Chain.tokens, Chain.tree]
    exact .linked connective (operand.reads connects) (rest.reads extendsNothing linksNothing)

theorem Operand.reads (operand : Operand) {next : Option Token}
    (extendsNothing : extendsValue next = false) :
    Reads .operand operand.tokens [operand.tree] next := by
  cases operand with
  | group body =>
    rw [Operand.tokens, Operand.tree]
    exact .group (body.reads rfl)
  | negation negated =>
    rw [Operand.tokens, Operand.tree]
    exact .negation (negated.reads extendsNothing)
  | nullCheck op field =>
    obtain ⟨op, checks⟩ := op
    have opens : opensTerm (.operator op) = true := by
      rcases null_or_notNull checks with rfl | rfl <;> rfl
    rw [Operand.tokens, Operand.tree]
    exact .term opens .unary
  | term term =>
    rw [Operand.tokens, Operand.tree]
    exact term.reads extendsNothing

theorem Negated.reads (negated : Negated) {next : Option Token}
    (extendsNothing : extendsValue next = false) :
    Reads .operand negated.tokens [negated.tree] next := by
  cases negated with
  | negation negated =>
    rw [Negated.tokens, Negated.tree]
    exact .negation (negated.reads extendsNothing)
  | group body =>
    rw [Negated.tokens, Negated.tree]
    exact .group (body.reads rfl)
  | term term =>
    rw [Negated.tokens, Negated.tree]
    exact term.reads extendsNothing

end

/-- Every strict query is read to its end, as the tree it means. -/
theorem read_strict_query (query : Query) :
    asWritten query.tokens = .ok query.tree ∧ Tree.read query.tokens = .ok ⟨query.tree, []⟩ := by
  have whole : Tree.read query.tokens = .ok ⟨query.tree, []⟩ := by
    rw [← List.append_nil query.tokens]
    exact read_of_reads (query.reads rfl)
  refine ⟨?_, whole⟩
  rw [asWritten, whole]
  rfl

end SearchQuery.Strict
