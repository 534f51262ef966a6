import SearchQuery.Proofs.Lexemes.Division
import SearchQuery.Proofs.Spelling.Spaced

/-!
# Texts put together

A text that leaves no quotation open is closed. Behind a closed text, a blank, a marker or a quote
starts anew: none of them goes on a word or makes a symbol a pair, so the tokens of both texts are
those of the first and then those of the second. Behind a text that is not closed this fails already
for a quote alone, which ends the quotation. Hence a query can be put together from closed parts,
with any blanks between them.
-/
namespace SearchQuery.Token

/-- A place in a text: outside of quotations, inside of one, or behind a backslash inside of one. -/
inductive Place where
  | outside | inside | escaped
  deriving DecidableEq, Repr

namespace Place

def step : Place → Char → Place
  | outside, c => if c = '"' then inside else outside
  | inside, c => if c = '"' then outside else if c = '\\' then escaped else inside
  | escaped, _ => inside

/-- The place behind a text that starts at a place. -/
def behind (place : Place) (cs : List Char) : Place := cs.foldl step place

@[simp] theorem behind_nil (place : Place) : place.behind [] = place := rfl

@[simp] theorem behind_cons (place : Place) (c : Char) (cs : List Char) :
    place.behind (c :: cs) = (place.step c).behind cs := rfl

@[simp] theorem behind_append (place : Place) (cs ds : List Char) :
    place.behind (cs ++ ds) = (place.behind cs).behind ds := List.foldl_append

theorem behind_unquoted {cs : List Char} (unquoted : '"' ∉ cs) : outside.behind cs = outside := by
  induction cs with
  | nil => rfl
  | cons c cs ih =>
    rw [List.mem_cons, not_or] at unquoted
    rw [behind_cons, step, if_neg (Ne.symm unquoted.1), ih unquoted.2]

theorem behind_content (content : List Quoted) :
    inside.behind (content.flatMap Quoted.text) = inside := by
  induction content with
  | nil => rfl
  | cons q content ih =>
    rw [List.flatMap_cons, behind_append]
    cases q with
    | plain c noQuote noBackslash => simp [Quoted.text, step, noQuote, noBackslash, ih]
    | escaped c => simp [Quoted.text, step, ih]

end Place

/-- No quotation is open at the end of the text. -/
def Closed (text : List Char) : Prop := Place.outside.behind text = .outside

instance : DecidablePred Closed := fun text =>
  inferInstanceAs (Decidable (Place.outside.behind text = .outside))

/-- A blank, a marker or a quote. -/
def Breaks (c : Char) : Prop := Text.isBlank c = true ∨ c ∈ ['(', ')', ',', '"']

/-- A text that is empty or starts with a blank, a marker or a quote. -/
def Apart (text : List Char) : Prop := ∀ c ∈ text.head?, Breaks c

theorem Breaks.not_inWord {c : Char} (breaks : Breaks c) : ¬ Lexeme.InWord c := by
  rintro ⟨notBlank, outside⟩
  rcases breaks with blank | marker
  · rw [notBlank] at blank
    cases blank
  · exact outside (List.mem_append_left _ marker)

theorem not_breaks_of_pair {op : Operator} {c d : Char} (writes : [c, d] ∈ op.symbols) :
    ¬ Breaks d := by
  have known := Operator.ofSymbol?_eq_some_iff.mpr writes
  unfold Operator.ofSymbol? at known
  unfold Breaks
  split at known <;> simp_all <;> decide

theorem quote_notMem_symbol {op : Operator} {written : List Char} (writes : written ∈ op.symbols) :
    '"' ∉ written := by
  cases op <;> simp only [Operator.symbols, List.mem_cons, List.not_mem_nil, or_false] at writes
  all_goals
    rcases writes with rfl | rfl <;> decide

theorem closed_of_blank {gap : List Char} (blank : Blank gap) : Closed gap := by
  apply Place.behind_unquoted
  intro member
  have quote := blank '"' member
  cases quote

theorem closed_append_iff {text more : List Char} (closed : Closed text) :
    Closed (text ++ more) ↔ Closed more := by
  rw [Closed, Place.behind_append, closed]
  rfl

namespace Lexeme

/-- Only a quotation that the end of the text leaves open is not closed. -/
theorem Stands.closed_or_open {l : Lexeme} {rest : List Char} (stands : l.Stands rest) :
    Closed l.text ∨
      rest = [] ∧ ∃ content closing, l = .quotation content closing ∧ closing ≠ .quote := by
  cases stands with
  | marker mark =>
    left
    cases mark <;> rfl
  | pair _ writes | single writes _ =>
    exact .inl (Place.behind_unquoted (quote_notMem_symbol writes))
  | @quotation content closing _ ends =>
    cases closing with
    | quote =>
      left
      simp [Closed, text, Closing.text, Place.step, Place.behind_content]
    | nothing => exact .inr ⟨ends.resolve_left (by decide), content, .nothing, rfl, by decide⟩
    | backslash => exact .inr ⟨ends.resolve_left (by decide), content, .backslash, rfl, by decide⟩
  | @word c cs _ starts inside _ =>
    left
    apply Place.behind_unquoted
    intro member
    have quote : InWord '"' := by
      rcases List.mem_cons.mp member with rfl | later
      · exact starts.1
      · exact inside _ later
    exact quote.2 (by decide)

theorem not_closed_open (content : List Quoted) {closing : Closing} (noQuote : closing ≠ .quote) :
    ¬ Closed (quotation content closing).text := by
  cases closing with
  | quote => contradiction
  | nothing => simp [Closed, text, Closing.text, Place.step, Place.behind_content]
  | backslash => simp [Closed, text, Closing.text, Place.step, Place.behind_content]

/-- A quote ends a quotation, or stands behind its backslash. -/
theorem exists_quotation_quote (content : List Quoted) {closing : Closing}
    (noQuote : closing ≠ .quote) : ∃ content' closing',
      (quotation content closing).text ++ ['"'] = (quotation content' closing').text := by
  cases closing with
  | quote => contradiction
  | nothing => exact ⟨content, .quote, by simp [text, Closing.text]⟩
  | backslash =>
    exact ⟨content ++ [.escaped '"'], .nothing, by simp [text, Closing.text, Quoted.text]⟩

/-- A closed lexeme stands in front of a longer text too, if it could not take more of that. -/
theorem Stands.append {l : Lexeme} {rest more : List Char} (stands : l.Stands rest)
    (closed : Closed l.text) (apart : Apart more) : l.Stands (rest ++ more) := by
  have first : ∀ d ∈ (rest ++ more).head?, d ∈ rest.head? ∨ Breaks d := by
    intro d member
    rw [List.head?_append, Option.mem_def, Option.or_eq_some_iff] at member
    exact member.imp_right fun behind => apart d behind.2
  cases stands with
  | marker mark => exact .marker mark _
  | pair _ writes => exact .pair _ writes
  | single writes alone =>
    refine .single writes ?_
    intro d member op pair
    rcases first d member with old | new
    · exact alone d old op pair
    · exact not_breaks_of_pair pair new
  | @quotation content closing _ ends =>
    by_cases quote : closing = .quote
    · exact .quotation content (.inl quote)
    · exact absurd closed (not_closed_open content quote)
  | word starts inside ends =>
    refine .word starts inside ?_
    intro d member
    rcases first d member with old | new
    · exact ends d old
    · exact new.not_inWord

end Lexeme

variable {pieces : List (List Char × Lexeme)} {tail text more : List Char}

/-- Behind a closed text, what comes apart is read anew. -/
theorem Divides.scan_append (divides : Divides pieces tail text) (closed : Closed text)
    (apart : Apart more) : scan (text ++ more) = pieces.map (·.2.token) ++ scan more := by
  induction divides with
  | tail blank => exact scan_blank blank more
  | @piece gap rest tail l pieces blank stands _ ih =>
    rw [closed_append_iff (closed_of_blank blank)] at closed
    rcases stands.closed_or_open with ended | ⟨rfl, content, closing, rfl, noQuote⟩
    · rw [closed_append_iff ended] at closed
      rw [List.append_assoc, List.append_assoc, scan_blank blank,
        scan_lexeme (stands.append ended apart), ih closed]
      rfl
    · rw [List.append_nil] at closed
      exact absurd closed (Lexeme.not_closed_open content noQuote)

theorem Divides.eq_nil (divides : Divides pieces tail []) : pieces = [] := by
  generalize written : [] = text at divides
  cases divides with
  | tail => rfl
  | piece _ stands _ =>
    obtain ⟨c, cs, shape, -⟩ := lexeme_of_stands stands
    simp [shape] at written

theorem scan_quotation (content : List Quoted) (closing : Closing) :
    scan (Lexeme.quotation content closing).text = [(Lexeme.quotation content closing).token] := by
  have ends : closing = .quote ∨ ([] : List Char) = [] := .inr rfl
  have alone := scan_lexeme (Lexeme.Stands.quotation content ends)
  rw [List.append_nil, scan] at alone
  exact alone

/-- A quote closes the quotation that a text leaves open, and is no token of its own. -/
theorem Divides.length_scan_quote (divides : Divides pieces tail text) (opened : ¬ Closed text) :
    (scan (text ++ ['"'])).length = pieces.length := by
  have quote : Apart ['"'] := by simp [Apart, Breaks]
  induction divides with
  | tail blank => exact absurd (closed_of_blank blank) opened
  | @piece gap rest tail l pieces blank stands others ih =>
    rw [closed_append_iff (closed_of_blank blank)] at opened
    rw [List.append_assoc, List.append_assoc, scan_blank blank]
    rcases stands.closed_or_open with ended | ⟨rfl, content, closing, rfl, noQuote⟩
    · rw [closed_append_iff ended] at opened
      rw [scan_lexeme (stands.append ended quote), List.length_cons, ih opened, List.length_cons]
    · obtain rfl := others.eq_nil
      obtain ⟨content', closing', written⟩ := Lexeme.exists_quotation_quote content noQuote
      rw [List.nil_append, written, scan_quotation]
      rfl

/-- A text is closed exactly if whatever comes apart behind it is read anew. -/
theorem closed_iff_scan_append : Closed text ↔
    ∀ more, Apart more → scan (text ++ more) = scan text ++ scan more := by
  obtain ⟨division, divides⟩ := exists_division text
  rw [divides.scan_eq]
  constructor
  · intro closed more apart
    exact divides.scan_append closed apart
  · intro anew
    by_contra opened
    have lengths := congrArg List.length (anew ['"'] (by simp [Apart, Breaks]))
    have quote : scan ['"'] = [literal ""] := scan_quotation [] .nothing
    rw [divides.length_scan_quote opened, quote] at lengths
    simp at lengths

/-- Parts, each with a gap behind it, and a last part. -/
def assembled (parts : List (String × String)) (last : String) : String :=
  parts.foldr (fun part text => part.1 ++ (part.2 ++ text)) last

theorem tokens_assembled {parts : List (String × String)} (last : String)
    (closed : ∀ part ∈ parts, Closed part.1.toList) (gaps : ∀ part ∈ parts, Gap part.2.toList) :
    tokens (assembled parts last) = parts.flatMap (tokens ·.1) ++ tokens last := by
  induction parts with
  | nil => rfl
  | cons part parts ih =>
    rw [List.forall_mem_cons] at closed gaps
    have apart : Apart (part.2.toList ++ (assembled parts last).toList) :=
      fun c first => .inl (gaps.1.apart _ c first)
    have ih := ih closed.2 gaps.2
    rw [tokens] at ih
    rw [tokens, assembled, List.foldr_cons, ← assembled, String.toList_append, String.toList_append,
      closed_iff_scan_append.mp closed.1 _ apart, scan_blank gaps.1.blank, ih, List.flatMap_cons,
      List.append_assoc]
    rfl

/-- The tokens behind a closed text are those of what comes apart there, and behind no other text.
So closed parts with gaps behind them have their own tokens, whatever blanks the gaps hold. -/
theorem tokens_of_closed_parts :
    (∀ a : String, Closed a.toList ↔
      ∀ b : String, Apart b.toList → tokens (a ++ b) = tokens a ++ tokens b) ∧
    ∀ (parts : List (String × String)) (last : String),
      (∀ part ∈ parts, Closed part.1.toList) → (∀ part ∈ parts, Gap part.2.toList) →
        tokens (assembled parts last) = parts.flatMap (tokens ·.1) ++ tokens last := by
  refine ⟨?_, fun parts last => tokens_assembled last⟩
  intro a
  rw [closed_iff_scan_append]
  constructor
  · intro anew b apart
    rw [tokens, String.toList_append]
    exact anew b.toList apart
  · intro anew more apart
    have texts := anew (String.ofList more) (by rwa [String.toList_ofList])
    simpa only [tokens, String.toList_append, String.toList_ofList] using texts

/-- A quotation with a quote and a marker in it, and a symbol that would be a pair with the next one
if there were no gap. -/
theorem tokens_of_closed_parts_halfPair :
    Closed "has \"x\\\"(\" !".toList ∧ Apart "\"b\"".toList ∧ Gap "\u2003\t".toList ∧
    tokens ("has \"x\\\"(\" !" ++ "\"b\"") =
      [.operator .notNull, .literal "x\"(", .operator .not, .literal "b"] ∧
    tokens (assembled [("has \"x\\\"(\" !", "\u2003\t")] "= hAs") =
      [.operator .notNull, .literal "x\"(", .operator .not, .operator .eq, .operator .notNull] := by
  have closed : Closed "has \"x\\\"(\" !".toList := by decide
  have apart : Apart "\"b\"".toList := by simp [Apart, Breaks]
  have gap : Gap "\u2003\t".toList := by
    refine ⟨?_, by decide⟩
    change ∀ c ∈ ['\u2003', '\t'], Text.isBlank c = true
    exact List.forall_mem_cons.mpr ⟨rfl, List.forall_mem_singleton.mpr rfl⟩
  have nothing : Blank [] := List.forall_mem_nil _
  have space : Gap [' '] := ⟨List.forall_mem_singleton.mpr rfl, by decide⟩
  have lower : Operator.notNull.Spelled "has".toList := .keyword (by decide)
  have mixed : Operator.notNull.Spelled "hAs".toList := .keyword (by decide)
  have negation : Operator.not.Spelled ['!'] := .symbol (by decide)
  have equality : Operator.eq.Spelled ['='] := .symbol (by decide)
  have front : Spaced [.operator .notNull, .literal "x\"(", .operator .not]
      "has \"x\\\"(\" !".toList :=
    .cons nothing (.operator lower) (.cons space (.literal "x\"(")
      (.cons space (.operator negation) (.nil nothing)))
  have quoted : Spaced [.literal "b"] "\"b\"".toList :=
    .cons nothing (.literal "b") (.nil nothing)
  have behind : Spaced [.operator .eq, .operator .notNull] "= hAs".toList :=
    .cons nothing (.operator equality) (.cons space (.operator mixed) (.nil nothing))
  refine ⟨closed, apart, gap, ?_, ?_⟩
  · rw [(tokens_of_closed_parts.1 _).mp closed _ apart, tokens, tokens, front.scan_eq,
      quoted.scan_eq]
    rfl
  · rw [tokens_of_closed_parts.2 _ _ (List.forall_mem_singleton.mpr closed)
      (List.forall_mem_singleton.mpr gap), List.flatMap_singleton, tokens, tokens, front.scan_eq,
      behind.scan_eq]
    rfl

end SearchQuery.Token
