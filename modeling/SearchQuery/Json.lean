import SearchQuery.Text.Quoted

/-!
# JSON text

Values that hold no numbers, and their text over several lines: every item and every field on a line
of its own, indented by two spaces for each level. Of the characters of a string only the quote, the
backslash and the controls below the space are escaped. This is the text in which `print_trees`
gives the trees of a run.
-/
namespace SearchQuery

inductive Json where
  | string (text : String)
  | list (items : List Json)
  | record (fields : List (String × Json))

namespace Json

/-- The number of a control below the space, in four digits. -/
def controlEscape (c : Char) : List Char :=
  ['\\', 'u', '0', '0', Text.Hex.digit (c.toNat / 16), Text.Hex.digit (c.toNat % 16)]

def escape (c : Char) : List Char :=
  if c = '"' ∨ c = '\\' then ['\\', c]
  else if c = '\x08' then ['\\', 'b']
  else if c = '\t' then ['\\', 't']
  else if c = '\n' then ['\\', 'n']
  else if c = '\x0c' then ['\\', 'f']
  else if c = '\r' then ['\\', 'r']
  else if c < ' ' then controlEscape c
  else [c]

def quoted (s : String) : String := String.ofList ('"' :: s.toList.flatMap escape ++ ['"'])

def indent (depth : Nat) : String := String.ofList (List.replicate (2 * depth) ' ')

mutual

/-- The text of a value whose own lines are indented to `depth`. -/
def render (depth : Nat) : Json → String
  | string text => quoted text
  | list [] => "[]"
  | list items => "[\n" ++ renderItems (depth + 1) items ++ "\n" ++ indent depth ++ "]"
  | record [] => "\x7b\x7d"
  | record fields =>
    "\x7b\n" ++ renderFields (depth + 1) fields ++ "\n" ++ indent depth ++ "\x7d"

def renderItems (depth : Nat) : List Json → String
  | [] => ""
  | [item] => indent depth ++ render depth item
  | item :: items => indent depth ++ render depth item ++ ",\n" ++ renderItems depth items

def renderFields (depth : Nat) : List (String × Json) → String
  | [] => ""
  | [(name, value)] => indent depth ++ quoted name ++ ": " ++ render depth value
  | (name, value) :: fields =>
    indent depth ++ quoted name ++ ": " ++ render depth value ++ ",\n" ++ renderFields depth fields

end

def text (value : Json) : String := value.render 0

end Json
end SearchQuery
