import SearchQuery.Proofs.Lexemes

/-!
# The division of a text

Every text has a division into lexemes, and no text has two: from its first character on, a text says
which lexeme stands there, and where the next one may start.
-/
namespace SearchQuery.Token

theorem exists_quotation (cs : List Char) : ∃ (content : List Quoted) (closing : Closing)
    (rest : List Char), (closing = .quote ∨ rest = []) ∧
      content.flatMap Quoted.text ++ (closing.text ++ rest) = cs := by
  fun_induction quotation cs with
  | case1 => exact ⟨[], .nothing, [], .inr rfl, rfl⟩
  | case2 => exact ⟨[], .backslash, [], .inr rfl, rfl⟩
  | case3 c cs _ _ _ ih =>
    obtain ⟨content, closing, rest, ends, parts⟩ := ih
    refine ⟨.escaped c :: content, closing, rest, ends, ?_⟩
    rw [List.flatMap_cons, List.append_assoc, parts]
    rfl
  | case4 cs => exact ⟨[], .quote, cs, .inl rfl, rfl⟩
  | case5 c cs notLast notEscape noQuote _ _ _ ih =>
    obtain ⟨content, closing, rest, ends, parts⟩ := ih
    have noBackslash : c ≠ '\\' := by
      intro backslash
      cases cs with
      | nil => exact notLast backslash rfl
      | cons d cs => exact notEscape d cs backslash rfl
    refine ⟨.plain c noQuote noBackslash :: content, closing, rest, ends, ?_⟩
    rw [List.flatMap_cons, List.append_assoc, parts]
    rfl

theorem startsWord_of_noSymbol {c : Char} (notBlank : Text.isBlank c = false)
    (notOpening : c ≠ '(') (notClosing : c ≠ ')') (notComma : c ≠ ',') (notQuote : c ≠ '"')
    (noSymbol : Operator.ofSymbol? [c] = none) : Lexeme.InWord c ∧ c ≠ '-' := by
  have absent : c ∉ symbolChars := by
    intro member
    simp only [symbolChars, List.mem_cons, List.not_mem_nil, or_false] at member
    rcases member with rfl | rfl | rfl | rfl | rfl | rfl | rfl | rfl <;> cases noSymbol
  simp only [symbolChars, List.mem_cons, List.not_mem_nil, or_false, not_or] at absent
  obtain ⟨_, _, _, _, _, _, _, notMinus⟩ := absent
  refine ⟨⟨notBlank, ?_⟩, notMinus⟩
  simp only [List.mem_cons, List.not_mem_nil, or_false, not_or]
  refine ⟨notOpening, notClosing, notComma, notQuote, ?_, ?_, ?_, ?_, ?_, ?_, ?_⟩ <;> assumption

theorem exists_lexeme {c : Char} (notBlank : Text.isBlank c = false) (cs : List Char) :
    ∃ (l : Lexeme) (rest : List Char), l.Stands rest ∧ l.text ++ rest = c :: cs := by
  by_cases opening : c = '('
  · subst opening
    exact ⟨.marker .opening, cs, .marker _ _, rfl⟩
  by_cases closing : c = ')'
  · subst closing
    exact ⟨.marker .closing, cs, .marker _ _, rfl⟩
  by_cases comma : c = ','
  · subst comma
    exact ⟨.marker .comma, cs, .marker _ _, rfl⟩
  by_cases quote : c = '"'
  · subst quote
    obtain ⟨content, ending, rest, ends, parts⟩ := exists_quotation cs
    refine ⟨.quotation content ending, rest, .quotation content ends, ?_⟩
    rw [Lexeme.text, List.cons_append, List.append_assoc, parts]
  cases known : Operator.ofSymbol? [c] with
  | none =>
    have starts := startsWord_of_noSymbol notBlank opening closing comma quote known
    refine ⟨.word (c :: cs.takeWhile (!endsWord ·)), cs.dropWhile (!endsWord ·), ?_, ?_⟩
    · refine .word starts ?_ ?_
      · intro d member
        have inside := List.mem_takeWhile_imp member
        by_contra outside
        simp [(endsWord_eq_true_iff d).mpr outside] at inside
      · intro d first
        have stopped := List.head?_dropWhile_not (!endsWord ·) cs
        rw [Option.mem_def.mp first] at stopped
        exact (endsWord_eq_true_iff d).mp (by simpa using stopped)
    · rw [Lexeme.text, List.cons_append, List.takeWhile_append_dropWhile]
  | some op =>
    have writes := Operator.ofSymbol?_eq_some_iff.mp known
    cases cs with
    | nil => exact ⟨.symbol op [c], [], .single writes (by simp), rfl⟩
    | cons d cs =>
      cases pair : Operator.ofSymbol? [c, d] with
      | some op' =>
        exact ⟨.symbol op' [c, d], cs, .pair cs (Operator.ofSymbol?_eq_some_iff.mp pair), rfl⟩
      | none =>
        refine ⟨.symbol op [c], d :: cs, .single writes ?_, rfl⟩
        intro e first
        obtain rfl : d = e := by simpa using first
        exact Operator.ofSymbol?_eq_none_iff.mp pair

theorem exists_division (text : List Char) : ∃ division : Division, division.Of text := by
  have parts : text.takeWhile Text.isBlank ++ text.dropWhile Text.isBlank = text :=
    List.takeWhile_append_dropWhile
  have blank : Blank (text.takeWhile Text.isBlank) := fun _ member => List.mem_takeWhile_imp member
  cases behind : text.dropWhile Text.isBlank with
  | nil =>
    rw [behind, List.append_nil] at parts
    rw [parts] at blank
    exact ⟨⟨[], text⟩, .tail blank⟩
  | cons c cs =>
    have notBlank : Text.isBlank c = false := by
      have stopped := List.head?_dropWhile_not Text.isBlank text
      rw [behind] at stopped
      exact stopped
    obtain ⟨l, rest, stands, written⟩ := exists_lexeme notBlank cs
    rw [behind, ← written] at parts
    have shorter : rest.length < text.length := by
      obtain ⟨_, _, nonempty, _, _⟩ := lexeme_of_stands stands
      rw [← parts, nonempty]
      simp only [List.length_append, List.length_cons]
      omega
    obtain ⟨division, divides⟩ := exists_division rest
    refine ⟨⟨(text.takeWhile Text.isBlank, l) :: division.pieces, division.tail⟩, ?_⟩
    have whole := Divides.piece blank stands divides
    rw [parts] at whole
    exact whole
termination_by text.length

/-- What the first character of a lexeme says of it. -/
inductive Kind where
  | marker | symbol | quotation | word
  deriving DecidableEq, Repr

def Kind.ofStart (c : Char) : Kind :=
  if c ∈ ['(', ')', ','] then marker
  else if c = '"' then quotation
  else if c ∈ symbolChars then symbol
  else word

def Lexeme.kind : Lexeme → Kind
  | marker _ => .marker
  | symbol .. => .symbol
  | quotation .. => .quotation
  | word _ => .word

theorem Quoted.text_append_inj {q q' : Quoted} {more more' : List Char}
    (same : q.text ++ more = q'.text ++ more') : q = q' ∧ more = more' := by
  cases q with
  | plain c noQuote noBackslash =>
    cases q' with
    | plain c' noQuote' noBackslash' => simpa [Quoted.text] using same
    | escaped c' => exact absurd (List.cons.inj same).1 noBackslash
  | escaped c =>
    cases q' with
    | plain c' noQuote' noBackslash' => exact absurd (List.cons.inj same).1.symm noBackslash'
    | escaped c' => simpa [Quoted.text] using same

theorem Closing.text_ne (closing : Closing) (q : Quoted) (more : List Char) :
    closing.text ≠ q.text ++ more := by
  intro same
  cases q with
  | plain c noQuote noBackslash =>
    cases closing with
    | quote => exact noQuote (List.cons.inj same).1.symm
    | nothing => cases same
    | backslash => exact noBackslash (List.cons.inj same).1.symm
  | escaped c => cases closing <;> simp [Closing.text, Quoted.text] at same

theorem quotation_unique {content content' : List Quoted} {closing closing' : Closing}
    (same : content.flatMap Quoted.text ++ closing.text =
      content'.flatMap Quoted.text ++ closing'.text) :
    content = content' ∧ closing = closing' := by
  induction content generalizing content' with
  | nil =>
    cases content' with
    | nil => cases closing <;> cases closing' <;> simp_all [Closing.text]
    | cons q' content' =>
      rw [List.flatMap_cons, List.append_assoc] at same
      exact absurd same (closing.text_ne q' _)
  | cons q content ih =>
    rw [List.flatMap_cons, List.append_assoc] at same
    cases content' with
    | nil => exact absurd same.symm (closing'.text_ne q _)
    | cons q' content' =>
      rw [List.flatMap_cons, List.append_assoc] at same
      obtain ⟨rfl, others⟩ := Quoted.text_append_inj same
      obtain ⟨rfl, rfl⟩ := ih others
      exact ⟨rfl, rfl⟩

theorem Lexeme.Stands.kind {l : Lexeme} {rest : List Char} (stands : l.Stands rest) :
    l.text.head?.map Kind.ofStart = some l.kind := by
  have symbolKind : ∀ {single : Operator} {c : Char}, [c] ∈ single.symbols →
      Kind.ofStart c = .symbol := by
    intro single c writes
    cases single <;> simp only [Operator.symbols, List.mem_cons, List.not_mem_nil, or_false,
      List.cons.injEq, and_true, reduceCtorEq, and_false] at writes
    all_goals rcases writes with rfl | rfl <;> rfl
  cases stands with
  | marker mark => cases mark <;> rfl
  | pair rest writes =>
    obtain ⟨single, startsSymbol⟩ := exists_single_of_pair writes
    exact congrArg some (symbolKind startsSymbol)
  | single writes _ => exact congrArg some (symbolKind writes)
  | quotation => rfl
  | @word c cs _ starts _ _ =>
    obtain ⟨⟨_, outside⟩, notMinus⟩ := starts
    simp only [List.mem_cons, List.not_mem_nil, or_false, not_or] at outside
    simp [Lexeme.text, Kind.ofStart, Lexeme.kind, symbolChars, outside, notMinus]

theorem Lexeme.Stands.writes {op : Operator} {written rest : List Char}
    (stands : (Lexeme.symbol op written).Stands rest) :
    Operator.ofSymbol? written = some op := by
  cases stands with
  | pair _ writes | single writes _ => exact Operator.ofSymbol?_eq_some_iff.mpr writes

theorem Lexeme.Stands.eq_of_text {l l' : Lexeme} {rest rest' : List Char} (stands : l.Stands rest)
    (stands' : l'.Stands rest') (same : l.text = l'.text) : l = l' := by
  have sameKind : l.kind = l'.kind := by
    have kind := stands.kind
    rw [same, stands'.kind] at kind
    exact (Option.some.inj kind).symm
  cases l with
  | marker mark =>
    cases l' <;> cases sameKind
    rename_i mark'
    cases mark <;> cases mark' <;> first | rfl | simp [text, Mark.char] at same
  | symbol op written =>
    cases l' <;> cases sameKind
    obtain rfl : written = _ := same
    obtain rfl := Option.some.inj (stands.writes.symm.trans stands'.writes)
    rfl
  | quotation content closing =>
    cases l' <;> cases sameKind
    obtain ⟨rfl, rfl⟩ := quotation_unique (List.cons.inj same).2
    rfl
  | word written =>
    cases l' <;> cases sameKind
    obtain rfl : written = _ := same
    rfl

/-- Which lexeme stands at a place is determined by the text from there on. -/
theorem Lexeme.Stands.unique {l l' : Lexeme} {rest rest' : List Char} (stands : l.Stands rest)
    (stands' : l'.Stands rest') (same : l.text ++ rest = l'.text ++ rest') :
    l = l' ∧ rest = rest' := by
  obtain ⟨c, cs, written, _, read⟩ := lexeme_of_stands stands
  obtain ⟨c', cs', written', _, read'⟩ := lexeme_of_stands stands'
  have sameText := same
  rw [written, written', List.cons_append, List.cons_append] at sameText
  obtain ⟨rfl, behind⟩ := List.cons.inj sameText
  rw [behind, read'] at read
  obtain rfl : rest' = rest := congrArg Prod.snd read
  exact ⟨stands.eq_of_text stands' (List.append_cancel_right same), rfl⟩

theorem takeWhile_blank {gap : List Char} (blank : Blank gap) {l : Lexeme} {rest : List Char}
    (stands : l.Stands rest) :
    (gap ++ (l.text ++ rest)).takeWhile Text.isBlank = gap := by
  obtain ⟨c, cs, written, notBlank, _⟩ := lexeme_of_stands stands
  rw [List.takeWhile_append_of_pos blank, written, List.cons_append, List.takeWhile_cons, notBlank]
  exact List.append_nil gap

theorem not_blank_of_stands {gap : List Char} {l : Lexeme} {rest : List Char}
    (stands : l.Stands rest) : ¬ Blank (gap ++ (l.text ++ rest)) := by
  intro blank
  obtain ⟨c, cs, written, notBlank, _⟩ := lexeme_of_stands stands
  have isBlank := blank c (by simp [written])
  rw [notBlank] at isBlank
  cases isBlank

theorem Divides.unique {pieces pieces' : List (List Char × Lexeme)} {tail tail' text : List Char}
    (divides : Divides pieces tail text) (divides' : Divides pieces' tail' text) :
    pieces = pieces' ∧ tail = tail' := by
  induction divides generalizing pieces' tail' with
  | @tail tail blank =>
    cases divides' with
    | tail => exact ⟨rfl, rfl⟩
    | piece _ stands' _ => exact absurd blank (not_blank_of_stands stands')
  | @piece gap rest tail l pieces blank stands others ih =>
    generalize same : gap ++ (l.text ++ rest) = text at divides'
    cases divides' with
    | tail blank' =>
      rw [← same] at blank'
      exact absurd blank' (not_blank_of_stands stands)
    | @piece gap' rest' _ l' pieces' blank' stands' others' =>
      have sameGap : gap = gap' := by
        rw [← takeWhile_blank blank stands, same, takeWhile_blank blank' stands']
      subst sameGap
      obtain ⟨rfl, rfl⟩ := stands.unique stands' (List.append_cancel_left same)
      obtain ⟨rfl, rfl⟩ := ih others'
      exact ⟨rfl, rfl⟩

/-- Every query has exactly one division, and its tokens are those of the lexemes in it. -/
theorem tokens_of_only_division (query : String) :
    ∃ division : Division,
      (∀ other : Division, other.Of query.toList ↔ other = division) ∧
        tokens query = division.tokens := by
  obtain ⟨division, divides⟩ := exists_division query.toList
  refine ⟨division, ?_, divides.scan_eq⟩
  intro other
  constructor
  · intro others
    obtain ⟨samePieces, sameTail⟩ := others.unique divides
    cases other
    cases division
    simp_all
  · rintro rfl
    exact divides

end SearchQuery.Token
