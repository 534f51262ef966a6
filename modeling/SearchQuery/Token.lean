import SearchQuery.Operator
import SearchQuery.Text.Quoted

/-!
# Tokens

A query is a sequence of operators and literals. A literal is a field name, a term or a value; its
text has no further meaning, even if it spells an operator.

Source: `Token` and `tokenize` of `scoped-query::lexer`. A lexeme is what `next_token` takes, with
`read_operator`, `read_quoted` and `read_word`; the end of a word is told by `is_word_boundary`.
-/
namespace SearchQuery

inductive Token where
  | operator (op : Operator)
  | literal (text : String)
  deriving DecidableEq, Repr

namespace Token

def isLiteral : Token → Bool
  | literal _ => true
  | operator _ => false

def operator? : Token → Option Operator
  | operator op => some op
  | literal _ => none

def is (token : Token) (op : Operator) : Bool := token.operator? = some op

/-- The form of a token in a message. -/
def display : Token → String
  | operator op => op.name
  | literal text => Text.quoted text

/-! ### Tokens of a text

A text is read from left to right: blanks are skipped, and each lexeme is as long as it can be.
Every text can be read; a quotation that is not closed runs to the end.
-/

/-- The content of a quotation whose opening quote was read, and what follows its closing quote. A
backslash stands for the character behind it, and for nothing at the end of the text. -/
def quotation : List Char → List Char × List Char
  | [] => ([], [])
  | ['\\'] => ([], [])
  | '\\' :: c :: cs => let (content, rest) := quotation cs; (c :: content, rest)
  | '"' :: cs => ([], cs)
  | c :: cs => let (content, rest) := quotation cs; (c :: content, rest)

/-- The characters that start an operator. -/
def symbolChars : List Char := ['&', '|', '!', '~', '=', '<', '>', '-']

/-- A minus sign is an operator only where a lexeme starts, so it does not end a word. -/
def endsWord (c : Char) : Bool :=
  Text.isBlank c || c = '(' || c = ')' || c = ',' || c = '"' ||
    (c ≠ '-' && symbolChars.contains c)

def ofWord (word : List Char) : Token :=
  match Operator.ofKeyword? word with
  | some op => operator op
  | none => literal (String.ofList word)

/-- An operator that starts with `c`, which alone writes `single`; it takes the next character in
whenever the two together are an operator. -/
def symbol (c : Char) (single : Operator) : List Char → Token × List Char
  | [] => (operator single, [])
  | d :: cs =>
    match Operator.ofSymbol? [c, d] with
    | some op => (operator op, cs)
    | none => (operator single, d :: cs)

/-- The token that starts with `c`, which is not blank, and the text behind it. -/
def lexeme (c : Char) (cs : List Char) : Token × List Char :=
  if c = '(' then (operator .lparen, cs)
  else if c = ')' then (operator .rparen, cs)
  else if c = ',' then (operator .comma, cs)
  else if c = '"' then (literal (String.ofList (quotation cs).1), (quotation cs).2)
  else match Operator.ofSymbol? [c] with
    | some single => symbol c single cs
    | none => (ofWord (c :: cs.takeWhile (!endsWord ·)), cs.dropWhile (!endsWord ·))

theorem length_quotation (cs : List Char) : (quotation cs).2.length ≤ cs.length := by
  fun_induction quotation cs <;> simp_all <;> omega

theorem length_lexeme (c : Char) (cs : List Char) : (lexeme c cs).2.length ≤ cs.length := by
  unfold lexeme
  repeat' split
  all_goals try exact Nat.le_refl _
  · exact length_quotation cs
  · unfold symbol
    repeat' split
    all_goals simp
  · exact (List.dropWhile_suffix _).length_le

def scan : List Char → List Token
  | [] => []
  | c :: cs =>
    if Text.isBlank c then scan cs
    else (lexeme c cs).1 :: scan (lexeme c cs).2
termination_by cs => cs.length
decreasing_by
  · simp
  · exact Nat.lt_succ_of_le (length_lexeme c cs)

end Token

def tokens (query : String) : List Token := Token.scan query.toList

end SearchQuery
