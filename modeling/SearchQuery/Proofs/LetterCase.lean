import Mathlib
import SearchQuery.Proofs.Lexemes
import SearchQuery.Proofs.Renaming

/-!
# The case of letters

A text is scanned by blanks, markers, symbols, quotes and backslashes, none of which is a letter,
and a keyword is known by its letters in lower case. So the lower-case text has the same tokens,
with the literals in lower case, and reading them does not look into the literals. Hence texts that
agree up to the case of ASCII letters have queries that do.
-/
namespace SearchQuery

namespace Text

/-- The texts agree character by character, up to the case of ASCII letters. -/
def Alike (s s' : String) : Prop :=
  List.Forall₂ (fun c d => c.toLower = d.toLower) s.toList s'.toList

instance (s s' : String) : Decidable (Alike s s') :=
  inferInstanceAs (Decidable (List.Forall₂ _ _ _))

theorem alike_iff {s s' : String} : Alike s s' ↔ s.toLower = s'.toLower := by
  rw [Alike, ← String.toList_inj, String.toLower, String.toLower, String.toList_map,
    String.toList_map, ← List.forall₂_eq_eq_eq, List.forall₂_map_left_iff,
    List.forall₂_map_right_iff]

theorem ofList_toLower (cs : List Char) :
    String.ofList (cs.map Char.toLower) = (String.ofList cs).toLower := by
  rw [String.toLower, ← String.toList_inj, String.toList_map, String.toList_ofList,
    String.toList_ofList]

theorem toLower_cases (c : Char) :
    c.toLower = c ∨ c.isAlpha = true ∧ c.toLower.isAlpha = true := by
  by_cases capital : c.isUpper
  · have letter : c.isAlpha = true := by simp [Char.isAlpha, capital]
    exact .inr ⟨letter, (Char.isAlpha_toLower_eq_isAlpha c).trans letter⟩
  · exact .inl (Char.toLower_eq_of_not_isUpper capital)

theorem not_blank_of_letter {c : Char} (letter : c.isAlpha = true) : isBlank c = false := by
  have bounds : 65 ≤ c.toNat ∧ c.toNat ≤ 90 ∨ 97 ≤ c.toNat ∧ c.toNat ≤ 122 := by
    simpa [Char.isAlpha, Char.isUpper, Char.isLower, UInt32.le_iff_toNat_le] using letter
  simp only [isBlank, blanks, Ranges.covers, Bool.or_false, Bool.and_eq_false_imp,
    decide_eq_true_eq, Bool.or_eq_false_iff, decide_eq_false_iff_not, not_le]
  omega

theorem isBlank_toLower (c : Char) : isBlank c.toLower = isBlank c := by
  rcases toLower_cases c with same | ⟨letter, lower⟩
  · rw [same]
  · rw [not_blank_of_letter letter, not_blank_of_letter lower]

/-- Lower case neither makes a character that is no letter nor takes it away. -/
theorem toLower_eq_iff {c d : Char} (noLetter : d.isAlpha = false) : c.toLower = d ↔ c = d := by
  rcases toLower_cases c with same | ⟨letter, lower⟩
  · rw [same]
  · constructor
    · rintro rfl
      rw [lower] at noLetter
      cases noLetter
    · rintro rfl
      rw [letter] at noLetter
      cases noLetter

theorem map_toLower_eq_iff {cs written : List Char} (noLetter : ∀ c ∈ written, c.isAlpha = false) :
    cs.map Char.toLower = written ↔ cs = written := by
  induction written generalizing cs with
  | nil => exact List.map_eq_nil_iff
  | cons d written ih =>
    rw [List.forall_mem_cons] at noLetter
    cases cs with
    | nil => simp
    | cons c cs => simp [toLower_eq_iff noLetter.1, ih noLetter.2]

end Text

namespace Operator

theorem noLetter_of_symbol {op : Operator} {written : List Char} (writes : written ∈ op.symbols) :
    ∀ c ∈ written, c.isAlpha = false := by
  cases op <;> simp only [symbols, List.mem_cons, List.not_mem_nil, or_false] at writes
  all_goals
    rcases writes with rfl | rfl <;> simp

theorem ofSymbol?_toLower (cs : List Char) : ofSymbol? (cs.map Char.toLower) = ofSymbol? cs := by
  ext op
  rw [ofSymbol?_eq_some_iff, ofSymbol?_eq_some_iff]
  constructor
  · intro writes
    have unchanged := (Text.map_toLower_eq_iff (noLetter_of_symbol writes)).mp rfl
    rwa [← unchanged] at writes
  · intro writes
    have unchanged := (Text.map_toLower_eq_iff (noLetter_of_symbol writes)).mpr rfl
    rwa [unchanged]

theorem ofKeyword?_toLower (word : List Char) :
    ofKeyword? (word.map Char.toLower) = ofKeyword? word := by
  have idempotent : Char.toLower ∘ Char.toLower = Char.toLower :=
    funext Char.toLower_toLower_eq_toLower
  rw [ofKeyword?, ofKeyword?, List.map_map, idempotent]

end Operator

namespace Token

/-- A piece of a text with the token that it is read as, all in lower case. -/
def lowered : Token × List Char → Token × List Char
  | (t, rest) => (t.rename String.toLower, rest.map Char.toLower)

theorem endsWord_toLower (c : Char) : endsWord c.toLower = endsWord c := by
  simp [endsWord, symbolChars, Text.isBlank_toLower, Text.toLower_eq_iff]

theorem quotation_plain {c : Char} (noQuote : c ≠ '"') (noBackslash : c ≠ '\\') (cs : List Char) :
    quotation (c :: cs) = (c :: (quotation cs).1, (quotation cs).2) := by
  rw [quotation] <;> simp_all

theorem quotation_toLower (cs : List Char) : quotation (cs.map Char.toLower) =
    ((quotation cs).1.map Char.toLower, (quotation cs).2.map Char.toLower) := by
  fun_induction quotation cs with
  | case1 => rfl
  | case2 => rfl
  | case3 c cs content rest read ih =>
    change quotation ('\\' :: c.toLower :: cs.map Char.toLower) = _
    rw [quotation, ih, read]
    rfl
  | case4 cs => rfl
  | case5 c cs notLast notEscape noQuote content rest read ih =>
    have noBackslash : c ≠ '\\' := by
      intro backslash
      cases cs with
      | nil => exact notLast backslash rfl
      | cons d cs => exact notEscape d cs backslash rfl
    have noQuote : c.toLower ≠ '"' := mt (Text.toLower_eq_iff rfl).mp noQuote
    have noBackslash : c.toLower ≠ '\\' := mt (Text.toLower_eq_iff rfl).mp noBackslash
    rw [List.map_cons, quotation_plain noQuote noBackslash, ih, read]
    rfl

theorem ofWord_toLower (word : List Char) :
    ofWord (word.map Char.toLower) = (ofWord word).rename String.toLower := by
  rw [ofWord, ofWord, Operator.ofKeyword?_toLower]
  cases Operator.ofKeyword? word with
  | some op => rfl
  | none => exact congrArg literal (Text.ofList_toLower word)

theorem symbol_toLower (c : Char) (single : Operator) (cs : List Char) :
    symbol c.toLower single (cs.map Char.toLower) = lowered (symbol c single cs) := by
  cases cs with
  | nil => rfl
  | cons d cs =>
    have pair := Operator.ofSymbol?_toLower [c, d]
    simp only [List.map_cons, List.map_nil] at pair
    simp only [List.map_cons, symbol, pair]
    cases Operator.ofSymbol? [c, d] <;> rfl

theorem lexeme_toLower (c : Char) (cs : List Char) :
    lexeme c.toLower (cs.map Char.toLower) = lowered (lexeme c cs) := by
  have single := Operator.ofSymbol?_toLower [c]
  simp only [List.map_cons, List.map_nil] at single
  have within : (fun d => !endsWord d) ∘ Char.toLower = fun d => !endsWord d := by
    funext d
    simp [endsWord_toLower]
  simp (disch := decide) only [lexeme, Text.toLower_eq_iff, single]
  split_ifs
  · rfl
  · rfl
  · rfl
  · rw [quotation_toLower]
    simp only [Text.ofList_toLower]
    rfl
  · cases Operator.ofSymbol? [c] with
    | some op => exact symbol_toLower c op cs
    | none =>
      simp only [List.takeWhile_map, List.dropWhile_map, within, ← List.map_cons, ofWord_toLower]
      rfl

theorem scan_toLower (cs : List Char) :
    scan (cs.map Char.toLower) = (scan cs).map (Token.rename String.toLower) := by
  fun_induction scan cs with
  | case1 => rw [List.map_nil, scan]; rfl
  | case2 c cs blank ih =>
    rw [List.map_cons, scan, Text.isBlank_toLower, if_pos blank]
    exact ih
  | case3 c cs notBlank ih =>
    rw [List.map_cons, scan, Text.isBlank_toLower, if_neg notBlank, lexeme_toLower, List.map_cons]
    exact congrArg _ ih

/-- The same operator, or literals that agree up to the case of ASCII letters. -/
inductive Alike : Token → Token → Prop
  | operator (op : Operator) : Alike (.operator op) (.operator op)
  | literal {v w : String} (texts : Text.Alike v w) : Alike (.literal v) (.literal w)

theorem alike_of_toLower {t u : Token}
    (same : t.rename String.toLower = u.rename String.toLower) : t.Alike u := by
  cases t <;> cases u <;>
    simp only [rename, operator.injEq, literal.injEq, reduceCtorEq] at same
  case operator.operator =>
    rw [same]
    exact .operator _
  case literal.literal => exact .literal (Text.alike_iff.mpr same)

end Token

namespace Tree

mutual

/-- Trees of one shape with the same operators, and with leaves that agree up to the case of ASCII
letters. -/
inductive Alike : Tree → Tree → Prop
  | leaf {v w : String} (texts : Text.Alike v w) : Alike (leaf v) (leaf w)
  | operator (op : Operator) {ts us : List Tree} (children : AllAlike ts us) :
      Alike (operator op ts) (operator op us)
  | logical (connective : Connective) {ts us : List Tree} (children : AllAlike ts us) :
      Alike (logical connective ts) (logical connective us)

inductive AllAlike : List Tree → List Tree → Prop
  | nil : AllAlike [] []
  | cons {t u : Tree} {ts us : List Tree} (first : Alike t u) (others : AllAlike ts us) :
      AllAlike (t :: ts) (u :: us)

end

mutual

theorem alike_of_toLower {t u : Tree}
    (same : t.rename String.toLower = u.rename String.toLower) : Alike t u := by
  cases t <;> cases u <;>
    simp only [rename, leaf.injEq, operator.injEq, logical.injEq, reduceCtorEq] at same
  case leaf.leaf => exact .leaf (Text.alike_iff.mpr same)
  case operator.operator =>
    obtain ⟨rfl, same⟩ := same
    exact .operator _ (allAlike_of_toLower same)
  case logical.logical =>
    obtain ⟨rfl, same⟩ := same
    exact .logical _ (allAlike_of_toLower same)

theorem allAlike_of_toLower {ts us : List Tree}
    (same : renameAll String.toLower ts = renameAll String.toLower us) : AllAlike ts us := by
  cases ts <;> cases us <;> simp only [renameAll, List.cons.injEq, reduceCtorEq] at same
  case nil.nil => exact .nil
  case cons.cons => exact .cons (alike_of_toLower same.1) (allAlike_of_toLower same.2)

end

/-- The same failure, or trees that agree up to the case of ASCII letters in their leaves. -/
inductive AlikeAnswers : Except ValueExpected Tree → Except ValueExpected Tree → Prop
  | failure (e : ValueExpected) : AlikeAnswers (.error e) (.error e)
  | trees {t u : Tree} (alike : Alike t u) : AlikeAnswers (.ok t) (.ok u)

theorem alikeAnswers_of_toLower {a b : Except ValueExpected Tree}
    (same : a.map (rename String.toLower) = b.map (rename String.toLower)) : AlikeAnswers a b := by
  cases a <;> cases b <;>
    simp only [Except.map, Except.error.injEq, Except.ok.injEq, reduceCtorEq] at same
  case error.error =>
    rw [same]
    exact .failure _
  case ok.ok => exact .trees (alike_of_toLower same)

end Tree

theorem tokens_toLower (query : String) :
    tokens query.toLower = (tokens query).map (Token.rename String.toLower) := by
  rw [tokens, String.toLower, String.toList_map, Token.scan_toLower]
  rfl

/-- Texts that agree up to the case of ASCII letters have tokens that do, and reading these fails in
the same way or makes trees that do, as they are written and collapsed. -/
theorem letter_case_only_in_literals {query query' : String} (alike : Text.Alike query query') :
    List.Forall₂ Token.Alike (tokens query) (tokens query') ∧
    Tree.AlikeAnswers (Tree.asWritten (tokens query)) (Tree.asWritten (tokens query')) ∧
    Tree.AlikeAnswers (parse query) (parse query') := by
  have lower : (tokens query).map (Token.rename String.toLower) =
      (tokens query').map (Token.rename String.toLower) := by
    rw [← tokens_toLower, ← tokens_toLower, Text.alike_iff.mp alike]
  refine ⟨?_, ?_, ?_⟩
  · rw [← List.forall₂_eq_eq_eq, List.forall₂_map_left_iff, List.forall₂_map_right_iff] at lower
    exact lower.imp fun _ _ => Token.alike_of_toLower
  · apply Tree.alikeAnswers_of_toLower
    rw [← Grammar.asWritten_renamed, ← Grammar.asWritten_renamed, lower]
  · apply Tree.alikeAnswers_of_toLower
    rw [parse, parse, ← Grammar.ofTokens_renamed, ← Grammar.ofTokens_renamed, lower]

/-- Keywords in two cases, a keyword between quotes, and letters that are not ASCII. -/
theorem letter_case_only_in_literals_quoted :
    Text.Alike "nOt (Név ~ \"AnD\\\"\") oR HAS É" "NOT (néV ~ \"aNd\\\"\") Or has É" ∧
    parse "nOt (Név ~ \"AnD\\\"\") oR HAS É" =
      .ok (.logical .or [.operator .not [.operator .like [.leaf "Név", .leaf "AnD\""]],
        .operator .notNull [.leaf "É"]]) ∧
    Tree.AlikeAnswers (parse "nOt (Név ~ \"AnD\\\"\") oR HAS É")
      (parse "NOT (néV ~ \"aNd\\\"\") Or has É") := by
  have alike : Text.Alike "nOt (Név ~ \"AnD\\\"\") oR HAS É"
      "NOT (néV ~ \"aNd\\\"\") Or has É" := by decide
  exact ⟨alike, by cbv, (letter_case_only_in_literals alike).2.2⟩

end SearchQuery
