import SearchQuery.Proofs.Spelling

/-!
# Tokens with gaps between them

A text writes tokens one behind the other, with a gap before each but the first and any blanks at
both ends. Scanning such a text gives the tokens, whatever spellings and blanks are chosen and
whatever the literals hold: a gap ends every operator and every keyword, and between its quotes no
character of a literal is taken for anything else.
-/
namespace SearchQuery.Token

/-- The ways to write a token. -/
inductive Spelled : Token → List Char → Prop
  | literal (text : String) : Spelled (.literal text) (quote text)
  | operator {op : Operator} {written : List Char} (spelled : op.Spelled written) :
      Spelled (.operator op) written

/-- Tokens each of which stands behind a gap, with blanks behind the last one. -/
inductive Continues : List Token → List Char → Prop
  | nil {tail : List Char} (blank : Blank tail) : Continues [] tail
  | cons {t : Token} {ts : List Token} {gap written cs : List Char} (isGap : Gap gap)
      (spelled : t.Spelled written) (others : Continues ts cs) :
      Continues (t :: ts) (gap ++ (written ++ cs))

/-- The texts that write tokens with gaps between them and blanks at both ends. -/
inductive Spaced : List Token → List Char → Prop
  | nil {tail : List Char} (blank : Blank tail) : Spaced [] tail
  | cons {t : Token} {ts : List Token} {lead written cs : List Char} (blank : Blank lead)
      (spelled : t.Spelled written) (others : Continues ts cs) :
      Spaced (t :: ts) (lead ++ (written ++ cs))

theorem exists_spelled (t : Token) : ∃ written, t.Spelled written := by
  cases t with
  | literal text => exact ⟨_, .literal text⟩
  | operator op =>
    obtain ⟨written, spelled⟩ := op.exists_spelled
    exact ⟨written, .operator spelled⟩

theorem Spelled.scan_eq {t : Token} {written rest : List Char} (spelled : t.Spelled written)
    (apart : ∀ d ∈ rest.head?, Text.isBlank d = true) : scan (written ++ rest) = t :: scan rest := by
  cases spelled with
  | literal text => exact scan_quote text rest
  | operator spelled => exact scan_spelled spelled apart

theorem Continues.apart {ts : List Token} {cs : List Char} (continues : Continues ts cs) :
    ∀ d ∈ cs.head?, Text.isBlank d = true := by
  cases continues with
  | nil blank =>
    intro d first
    exact blank d (List.mem_of_mem_head? first)
  | cons isGap => exact isGap.apart _

theorem Continues.scan_eq {ts : List Token} {cs : List Char} (continues : Continues ts cs) :
    scan cs = ts := by
  induction continues with
  | @nil tail blank =>
    rw [← List.append_nil tail, scan_blank blank, scan]
  | cons isGap spelled others ih =>
    rw [scan_blank isGap.blank, spelled.scan_eq others.apart, ih]

theorem Spaced.scan_eq {ts : List Token} {cs : List Char} (spaced : Spaced ts cs) :
    scan cs = ts := by
  cases spaced with
  | nil blank => exact (Continues.nil blank).scan_eq
  | cons blank spelled others =>
    rw [scan_blank blank, spelled.scan_eq others.apart, others.scan_eq]

theorem exists_continues (ts : List Token) : ∃ cs, Continues ts cs := by
  induction ts with
  | nil => exact ⟨[], .nil nofun⟩
  | cons t ts ih =>
    obtain ⟨cs, others⟩ := ih
    obtain ⟨written, spelled⟩ := t.exists_spelled
    have space : Gap [' '] := ⟨List.forall_mem_singleton.mpr rfl, by decide⟩
    exact ⟨_, .cons space spelled others⟩

theorem exists_spaced (ts : List Token) : ∃ cs, Spaced ts cs := by
  cases ts with
  | nil => exact ⟨[], .nil nofun⟩
  | cons t ts =>
    obtain ⟨cs, others⟩ := exists_continues ts
    obtain ⟨written, spelled⟩ := t.exists_spelled
    have nothing : Blank [] := nofun
    exact ⟨_, .cons nothing spelled others⟩

/-- Any tokens can be written, and however they are written, they are the tokens of that text. -/
theorem tokens_of_spaced (ts : List Token) :
    (∃ query : String, Spaced ts query.toList) ∧
      ∀ query : String, Spaced ts query.toList → tokens query = ts := by
  constructor
  · obtain ⟨cs, spaced⟩ := exists_spaced ts
    refine ⟨String.ofList cs, ?_⟩
    rw [String.toList_ofList]
    exact spaced
  · intro query spaced
    rw [tokens, spaced.scan_eq]

/-- An empty literal, a keyword in a literal that ends with a backslash, and two symbols that would be
one without the gap between them. -/
theorem tokens_of_spaced_symbols :
    Spaced [.literal "", .operator .notNull, .literal "and\\", .operator .not, .operator .eq]
        "\t\"\"\u2003hAs\n\"and\\\\\" ! =".toList ∧
      tokens "\t\"\"\u2003hAs\n\"and\\\\\" ! =" =
        [.literal "", .operator .notNull, .literal "and\\", .operator .not, .operator .eq] := by
  have keyword : Operator.notNull.Spelled "hAs".toList := .keyword (by decide)
  have negation : Operator.not.Spelled ['!'] := .symbol (by decide)
  have equality : Operator.eq.Spelled ['='] := .symbol (by decide)
  have gap : ∀ c, Text.isBlank c = true → Gap [c] := fun c blank =>
    ⟨List.forall_mem_singleton.mpr blank, List.cons_ne_nil c []⟩
  have spaced : Spaced
      [.literal "", .operator .notNull, .literal "and\\", .operator .not, .operator .eq]
      "\t\"\"\u2003hAs\n\"and\\\\\" ! =".toList :=
    .cons (gap '\t' rfl).blank (.literal "") (.cons (gap '\u2003' rfl) (.operator keyword)
      (.cons (gap '\n' rfl) (.literal "and\\") (.cons (gap ' ' rfl) (.operator negation)
        (.cons (gap ' ' rfl) (.operator equality) (.nil nofun)))))
  exact ⟨spaced, (tokens_of_spaced _).2 _ spaced⟩

end SearchQuery.Token
