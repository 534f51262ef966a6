/-!
# Splitting at a separator

`split` cuts a text at every separator, so that there is one part more than there are separators;
`join` puts the parts together again, and what it puts together is cut into the same parts if none of
them holds a separator.
-/
namespace SearchQuery.Text

def split (separator : Char) : List Char → List (List Char)
  | [] => [[]]
  | c :: cs =>
    if c = separator then [] :: split separator cs
    else match split separator cs with
      | [] => [[c]]
      | part :: parts => (c :: part) :: parts

def join (separator : Char) : List (List Char) → List Char
  | [] => []
  | [part] => part
  | part :: parts => part ++ separator :: join separator parts

theorem split_ne_nil (separator : Char) (cs : List Char) : split separator cs ≠ [] := by
  cases cs with
  | nil => simp [split]
  | cons c cs =>
    rw [split]
    split
    · simp
    · split <;> simp

theorem join_cons (separator : Char) (part : List Char) {parts : List (List Char)}
    (h : parts ≠ []) :
    join separator (part :: parts) = part ++ separator :: join separator parts := by
  cases parts with
  | nil => contradiction
  | cons p ps => rfl

theorem join_split (separator : Char) (cs : List Char) :
    join separator (split separator cs) = cs := by
  induction cs with
  | nil => rfl
  | cons c cs ih =>
    rw [split]
    split
    · rename_i h
      rw [join_cons _ _ (split_ne_nil _ _), ih, h]
      rfl
    · cases h : split separator cs with
      | nil => exact absurd h (split_ne_nil _ _)
      | cons part parts =>
        rw [h] at ih
        cases parts with
        | nil => simpa [join] using ih
        | cons p ps =>
          rw [join_cons _ _ (by simp)] at ih ⊢
          rw [List.cons_append, ih]

variable {separator : Char}

theorem split_append_separator (cs ds : List Char) :
    split separator (cs ++ separator :: ds) = split separator cs ++ split separator ds := by
  induction cs with
  | nil => simp [split]
  | cons c cs ih =>
    rw [List.cons_append, split, split]
    by_cases h : c = separator
    · rw [if_pos h, if_pos h, ih, List.cons_append]
    · rw [if_neg h, if_neg h, ih]
      obtain ⟨part, parts, cut⟩ := List.exists_cons_of_ne_nil (split_ne_nil separator cs)
      rw [cut]
      rfl

theorem split_of_notMem {cs : List Char} (free : separator ∉ cs) : split separator cs = [cs] := by
  induction cs with
  | nil => rfl
  | cons c cs ih =>
    rw [List.mem_cons, not_or] at free
    rw [split, if_neg (Ne.symm free.1), ih free.2]

theorem split_ended {parts : List (List Char)} (free : ∀ part ∈ parts, separator ∉ part) :
    split separator (parts.flatMap (· ++ [separator])) = parts ++ [[]] := by
  induction parts with
  | nil => rfl
  | cons part parts ih =>
    rw [List.forall_mem_cons] at free
    rw [List.flatMap_cons, List.append_assoc, List.singleton_append, split_append_separator,
      split_of_notMem free.1, ih free.2]
    rfl

theorem notMem_of_mem_split {cs part : List Char} (member : part ∈ split separator cs) :
    separator ∉ part := by
  induction cs generalizing part with
  | nil => rw [List.mem_singleton.mp member]; exact List.not_mem_nil
  | cons c cs ih =>
    rw [split] at member
    obtain ⟨first, parts, cut⟩ := List.exists_cons_of_ne_nil (split_ne_nil separator cs)
    rw [cut] at member ih
    by_cases h : c = separator
    · rw [if_pos h] at member
      rcases List.mem_cons.mp member with rfl | inner
      · exact List.not_mem_nil
      · exact ih inner
    · rw [if_neg h] at member
      rcases List.mem_cons.mp member with rfl | inner
      · rw [List.mem_cons, not_or]
        exact ⟨Ne.symm h, ih List.mem_cons_self⟩
      · exact ih (List.mem_cons_of_mem _ inner)

theorem split_join {parts : List (List Char)} (some_part : parts ≠ [])
    (free : ∀ part ∈ parts, separator ∉ part) : split separator (join separator parts) = parts := by
  induction parts with
  | nil => contradiction
  | cons part parts ih =>
    rw [List.forall_mem_cons] at free
    by_cases h : parts = []
    · rw [h, join, split_of_notMem free.1]
    · rw [join_cons _ _ h, split_append_separator, split_of_notMem free.1, ih h free.2]
      rfl

theorem join_isPrefix {parts all : List (List Char)} (front : parts <+: all) :
    join separator parts <+: join separator all := by
  obtain ⟨tail, rfl⟩ := front
  induction parts with
  | nil => exact List.nil_prefix
  | cons part parts ih =>
    by_cases last : parts = []
    · by_cases alone : tail = []
      · simpa only [alone, List.append_nil] using List.prefix_rfl
      · rw [last, List.cons_append, List.nil_append, join_cons _ _ alone]
        exact List.prefix_append _ _
    · rw [List.cons_append, join_cons _ _ last,
        join_cons _ _ (List.append_ne_nil_of_left_ne_nil last _)]
      exact (List.prefix_append_right_inj _).mpr (List.cons_prefix_cons.mpr ⟨rfl, ih⟩)

end SearchQuery.Text
