import Mathlib.Data.List.TakeWhile
import SearchQuery.Token

/-!
# The lexical grammar

A text is divided into lexemes, with blanks before, between and behind them. A lexeme is a marker, a
symbol, a quotation or a word, and it stands in front of a rest of which it could not have taken
more: two characters that are a symbol together are not taken apart, a word is followed by a
character that ends it, and only the end of the text leaves a quotation open. What is read where a
lexeme stands is the token of that lexeme, so the tokens of a text are those of its divisions.
-/
namespace SearchQuery

namespace Operator

/-- The symbols that write an operator. -/
def symbols : Operator → List (List Char)
  | and => [['&'], ['&', '&']]
  | or => [['|'], ['|', '|']]
  | not => [['!'], ['-']]
  | like => [['~']]
  | unlike => [['!', '~']]
  | eq => [['='], ['=', '=']]
  | ne => [['!', '='], ['<', '>']]
  | gt => [['>']]
  | gte => [['>', '=']]
  | lt => [['<']]
  | lte => [['<', '=']]
  | null | notNull | lparen | rparen | comma => []

/-- The words that write an operator, in lower case. -/
def keywords : Operator → List String
  | and => ["and"]
  | or => ["or"]
  | not => ["not"]
  | null => ["null?"]
  | notNull => ["set?", "has"]
  | _ => []

/-- Whether a word writes the operator, in whatever case its ASCII letters are. -/
def isKeyword (word : List Char) (op : Operator) : Bool :=
  op.keywords.contains (String.ofList (word.map Char.toLower))

theorem ofSymbol?_eq_some_iff {cs : List Char} {op : Operator} :
    ofSymbol? cs = some op ↔ cs ∈ op.symbols := by
  constructor
  · intro h
    unfold ofSymbol? at h
    split at h <;> cases h <;> decide
  · intro h
    cases op <;> simp only [symbols, List.mem_cons, List.not_mem_nil, or_false] at h
    all_goals rcases h with rfl | rfl <;> rfl

theorem ofSymbol?_eq_none_iff {cs : List Char} :
    ofSymbol? cs = none ↔ ∀ op : Operator, cs ∉ op.symbols := by
  rw [Option.eq_none_iff_forall_ne_some]
  exact forall_congr' fun op => not_congr ofSymbol?_eq_some_iff

theorem ofKeyword?_eq_some_iff {word : List Char} {op : Operator} :
    ofKeyword? word = some op ↔ op.isKeyword word = true := by
  unfold ofKeyword? isKeyword
  generalize String.ofList (word.map Char.toLower) = lower
  constructor
  · intro h
    split at h <;> cases h <;> decide
  · intro h
    cases op <;> simp only [keywords, List.contains_iff_mem, List.mem_cons, List.not_mem_nil,
      or_false] at h
    all_goals rcases h with rfl | rfl <;> rfl

theorem mem_all (op : Operator) : op ∈ all := by
  cases op <;> decide

theorem ofKeyword?_eq_find? (word : List Char) :
    ofKeyword? word = all.find? (isKeyword word) := by
  cases found : all.find? (isKeyword word) with
  | some op => exact ofKeyword?_eq_some_iff.mpr (List.find?_some found)
  | none =>
    rw [Option.eq_none_iff_forall_ne_some]
    intro op writes
    exact List.find?_eq_none.mp found op op.mem_all (ofKeyword?_eq_some_iff.mp writes)

end Operator

namespace Token

/-- A marker as it is written. -/
inductive Mark where
  | opening | closing | comma
  deriving DecidableEq, Repr

def Mark.char : Mark → Char
  | opening => '('
  | closing => ')'
  | comma => ','

def Mark.operator : Mark → Operator
  | opening => .lparen
  | closing => .rparen
  | comma => .comma

/-- A character of a quotation, as it is or behind a backslash. -/
inductive Quoted where
  | plain (c : Char) (noQuote : c ≠ '"') (noBackslash : c ≠ '\\')
  | escaped (c : Char)
  deriving DecidableEq, Repr

def Quoted.text : Quoted → List Char
  | plain c _ _ => [c]
  | escaped c => ['\\', c]

def Quoted.char : Quoted → Char
  | plain c _ _ | escaped c => c

/-- What ends a quotation: a quote, the end of the text, or a backslash at the end of the text. -/
inductive Closing where
  | quote | nothing | backslash
  deriving DecidableEq, Repr

def Closing.text : Closing → List Char
  | quote => ['"']
  | nothing => []
  | backslash => ['\\']

inductive Lexeme where
  | marker (mark : Mark)
  | symbol (op : Operator) (written : List Char)
  | quotation (content : List Quoted) (closing : Closing)
  | word (written : List Char)
  deriving DecidableEq, Repr

namespace Lexeme

def text : Lexeme → List Char
  | marker mark => [mark.char]
  | symbol _ written => written
  | quotation content closing => '"' :: (content.flatMap Quoted.text ++ closing.text)
  | word written => written

/-- A word is the operator that it writes as a keyword, and a literal if there is none. -/
def token : Lexeme → Token
  | marker mark => .operator mark.operator
  | symbol op _ => .operator op
  | quotation content _ => .literal (String.ofList (content.map Quoted.char))
  | word written =>
    match Operator.all.find? (Operator.isKeyword written) with
    | some op => .operator op
    | none => .literal (String.ofList written)

/-- A character that may stand in a word. -/
def InWord (c : Char) : Prop :=
  Text.isBlank c = false ∧ c ∉ ['(', ')', ',', '"', '&', '|', '!', '~', '=', '<', '>']

instance : DecidablePred InWord := fun c =>
  inferInstanceAs (Decidable (Text.isBlank c = false ∧ c ∉ _))

/-- A lexeme in front of a rest of the text. -/
inductive Stands : Lexeme → List Char → Prop
  | marker (mark : Mark) (rest : List Char) : Stands (.marker mark) rest
  | pair {op : Operator} {c d : Char} (rest : List Char) (writes : [c, d] ∈ op.symbols) :
      Stands (.symbol op [c, d]) rest
  | single {op : Operator} {c : Char} {rest : List Char} (writes : [c] ∈ op.symbols)
      (alone : ∀ d ∈ rest.head?, ∀ pair : Operator, [c, d] ∉ pair.symbols) :
      Stands (.symbol op [c]) rest
  | quotation (content : List Quoted) {closing : Closing} {rest : List Char}
      (ends : closing = .quote ∨ rest = []) : Stands (.quotation content closing) rest
  | word {c : Char} {cs rest : List Char} (starts : InWord c ∧ c ≠ '-') (inside : ∀ d ∈ cs, InWord d)
      (ends : ∀ d ∈ rest.head?, ¬ InWord d) : Stands (.word (c :: cs)) rest

end Lexeme

/-- Lexemes, each with the blanks before it, and the blanks behind the last one. -/
structure Division where
  pieces : List (List Char × Lexeme)
  tail : List Char

def Division.tokens (division : Division) : List Token := division.pieces.map (·.2.token)

def Blank (gap : List Char) : Prop := ∀ c ∈ gap, Text.isBlank c = true

/-- The pieces and the tail make up the text, and every lexeme stands where it is. -/
inductive Divides : List (List Char × Lexeme) → List Char → List Char → Prop
  | tail {tail : List Char} (blank : Blank tail) : Divides [] tail tail
  | piece {gap rest tail : List Char} {lexeme : Lexeme} {pieces : List (List Char × Lexeme)}
      (blank : Blank gap) (stands : lexeme.Stands rest) (others : Divides pieces tail rest) :
      Divides ((gap, lexeme) :: pieces) tail (gap ++ (lexeme.text ++ rest))

def Division.Of (division : Division) (text : List Char) : Prop :=
  Divides division.pieces division.tail text

/-! ### A lexeme is what is read where it stands -/

theorem endsWord_eq_true_iff (c : Char) : endsWord c = true ↔ ¬ Lexeme.InWord c := by
  cases blank : Text.isBlank c with
  | true => simp [endsWord, Lexeme.InWord, blank]
  | false =>
    by_cases minus : c = '-'
    · subst minus
      simp [endsWord, Lexeme.InWord, blank]
    · simp [endsWord, symbolChars, Lexeme.InWord, blank, minus]
      grind

theorem takeWhile_word {cs rest : List Char} (inside : ∀ d ∈ cs, Lexeme.InWord d)
    (ends : ∀ d ∈ rest.head?, ¬ Lexeme.InWord d) :
    (cs ++ rest).takeWhile (!endsWord ·) = cs ∧ (cs ++ rest).dropWhile (!endsWord ·) = rest := by
  have within : ∀ d ∈ cs, (!endsWord d) = true := by
    intro d member
    have notEnd := mt (endsWord_eq_true_iff d).mp (not_not_intro (inside d member))
    simpa using notEnd
  rw [List.takeWhile_append_of_pos within, List.dropWhile_append_of_pos within]
  cases rest with
  | nil => simp
  | cons d rest =>
    have ended := (endsWord_eq_true_iff d).mpr (ends d rfl)
    simp [ended]

theorem quotation_content (content : List Quoted) (closing : Closing) (rest : List Char)
    (ends : closing = .quote ∨ rest = []) :
    quotation (content.flatMap Quoted.text ++ (closing.text ++ rest)) =
      (content.map Quoted.char, rest) := by
  induction content with
  | nil =>
    rcases ends with rfl | rfl
    · rfl
    · cases closing <;> rfl
  | cons c content ih =>
    cases c with
    | plain c noQuote noBackslash =>
      simp [Quoted.text, Quoted.char, quotation, noBackslash, ih]
    | escaped c =>
      simp [Quoted.text, Quoted.char, quotation, ih]

theorem ofWord_eq_token (written : List Char) : ofWord written = (Lexeme.word written).token := by
  rw [ofWord, Operator.ofKeyword?_eq_find?]
  rfl

theorem exists_single_of_pair {op : Operator} {c d : Char} (writes : [c, d] ∈ op.symbols) :
    ∃ single : Operator, [c] ∈ single.symbols := by
  have pair := Operator.ofSymbol?_eq_some_iff.mpr writes
  have single : (Operator.ofSymbol? [c]).isSome = true := by
    unfold Operator.ofSymbol? at pair
    split at pair <;> simp_all <;> rfl
  obtain ⟨op', known⟩ := Option.isSome_iff_exists.mp single
  exact ⟨op', Operator.ofSymbol?_eq_some_iff.mp known⟩

/-- No symbol starts with a character that starts another lexeme. -/
theorem symbol_start {single : Operator} {c : Char} (writes : [c] ∈ single.symbols) :
    c ≠ '(' ∧ c ≠ ')' ∧ c ≠ ',' ∧ c ≠ '"' ∧ Text.isBlank c = false := by
  have known := Operator.ofSymbol?_eq_some_iff.mpr writes
  unfold Operator.ofSymbol? at known
  split at known <;> simp_all <;> decide

theorem lexeme_symbol {single : Operator} {c : Char} (writes : [c] ∈ single.symbols)
    (cs : List Char) : lexeme c cs = symbol c single cs := by
  obtain ⟨notOpening, notClosing, notComma, notQuote, _⟩ := symbol_start writes
  rw [lexeme, if_neg notOpening, if_neg notClosing, if_neg notComma, if_neg notQuote,
    Operator.ofSymbol?_eq_some_iff.mpr writes]

theorem lexeme_word {c : Char} (starts : Lexeme.InWord c ∧ c ≠ '-') (cs : List Char) :
    lexeme c cs = (ofWord (c :: cs.takeWhile (!endsWord ·)), cs.dropWhile (!endsWord ·)) := by
  obtain ⟨⟨_, outside⟩, notMinus⟩ := starts
  simp only [List.mem_cons, List.not_mem_nil, or_false, not_or] at outside
  have noSymbol : Operator.ofSymbol? [c] = none := by
    unfold Operator.ofSymbol?
    split <;> simp_all
  rw [lexeme, if_neg outside.1, if_neg outside.2.1, if_neg outside.2.2.1, if_neg outside.2.2.2.1,
    noSymbol]

/-- Where a lexeme stands, its token is read, and the rest behind it is left. -/
theorem lexeme_of_stands {l : Lexeme} {rest : List Char} (stands : l.Stands rest) :
    ∃ c cs, l.text = c :: cs ∧ Text.isBlank c = false ∧ lexeme c (cs ++ rest) = (l.token, rest) := by
  cases stands with
  | marker mark =>
    cases mark <;> exact ⟨_, _, rfl, by decide, rfl⟩
  | @pair op c d _ writes =>
    obtain ⟨single, startsSymbol⟩ := exists_single_of_pair writes
    refine ⟨c, [d], rfl, (symbol_start startsSymbol).2.2.2.2, ?_⟩
    rw [lexeme_symbol startsSymbol, List.singleton_append, symbol,
      Operator.ofSymbol?_eq_some_iff.mpr writes]
    rfl
  | @single op c _ writes alone =>
    refine ⟨c, [], rfl, (symbol_start writes).2.2.2.2, ?_⟩
    rw [lexeme_symbol writes, List.nil_append]
    cases rest with
    | nil => rfl
    | cons d rest =>
      have noPair := Operator.ofSymbol?_eq_none_iff.mpr (alone d rfl)
      rw [symbol, noPair]
      rfl
  | @quotation content closing _ ends =>
    refine ⟨'"', _, rfl, by decide, ?_⟩
    have read := quotation_content content closing rest ends
    rw [List.append_assoc]
    change (literal (String.ofList (quotation _).1), (quotation _).2) = _
    rw [read]
    rfl
  | @word c cs _ starts inside ends =>
    refine ⟨c, cs, rfl, starts.1.1, ?_⟩
    obtain ⟨taken, dropped⟩ := takeWhile_word inside ends
    rw [lexeme_word starts, taken, dropped, ofWord_eq_token]

theorem scan_blank {gap : List Char} (blank : Blank gap) (cs : List Char) :
    scan (gap ++ cs) = scan cs := by
  induction gap with
  | nil => rfl
  | cons c gap ih =>
    have first : Text.isBlank c = true := blank c List.mem_cons_self
    have others : Blank gap := fun d member => blank d (List.mem_cons_of_mem c member)
    rw [List.cons_append, scan, if_pos first]
    exact ih others

theorem scan_lexeme {l : Lexeme} {rest : List Char} (stands : l.Stands rest) :
    scan (l.text ++ rest) = l.token :: scan rest := by
  obtain ⟨c, cs, written, notBlank, read⟩ := lexeme_of_stands stands
  rw [written, List.cons_append, scan, notBlank, read]
  rfl

theorem Divides.scan_eq {pieces : List (List Char × Lexeme)} {tail text : List Char}
    (divides : Divides pieces tail text) : scan text = pieces.map (·.2.token) := by
  induction divides with
  | @tail tail blank =>
    rw [← List.append_nil tail, scan_blank blank, scan]
    rfl
  | @piece gap rest tail l pieces blank stands others ih =>
    rw [scan_blank blank, scan_lexeme stands, ih]
    rfl

end Token
end SearchQuery
