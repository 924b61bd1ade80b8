import PowerGovernor.Text.Blank

/-! What is left of a text when the blanks around it are taken away. -/

namespace PowerGovernor

/-- A text that neither begins nor ends with a blank. -/
structure IsTrimmed (text : List Char) : Prop where
  /-- The first character is no blank. -/
  first : ∀ char, text.head? = some char → isBlank char = false
  /-- The last character is no blank. -/
  last : ∀ char, text.getLast? = some char → isBlank char = false

/-- What a blank text holds is blank. -/
theorem isBlank_of_mem {text : List Char} (blank : isBlankText text = true) {char : Char}
    (member : char ∈ text) : isBlank char = true :=
  List.all_eq_true.mp blank char member

/-- The visible characters of ASCII are no blanks. -/
theorem isBlank_of_visible {char : Char} (above : 0x20 < char.toNat) (below : char.toNat < 0x7F) :
    isBlank char = false := by
  -- All blanks of ASCII lie outside of this range, and all others above it.
  simp only [isBlank, Bool.or_eq_false_iff, Bool.and_eq_false_iff, decide_eq_false_iff_not,
    beq_eq_false_iff_ne]
  omega

/-- Blanks at the beginning are taken away. -/
theorem trimStart_append {blanks rest : List Char} (blank : isBlankText blanks = true) :
    trimStart (blanks ++ rest) = trimStart rest :=
  List.dropWhile_append_of_pos (List.all_eq_true.mp blank)

/-- Blanks at the end are taken away. -/
theorem trimEnd_append {front blanks : List Char} (blank : isBlankText blanks = true) :
    trimEnd (front ++ blanks) = trimEnd front := by
  -- Backwards the blanks come first.
  have backwards : ∀ char ∈ blanks.reverse, isBlank char = true :=
    fun char member => List.all_eq_true.mp blank char (List.mem_reverse.mp member)
  rw [trimEnd, List.reverse_append, List.dropWhile_append_of_pos backwards, trimEnd]

/-- Nothing is taken from a text that begins with no blank. -/
theorem trimStart_of_head {text : List Char}
    (first : ∀ char, text.head? = some char → isBlank char = false) : trimStart text = text := by
  -- The first character decides whether anything is dropped.
  cases text with
  | nil => rfl
  | cons head rest => simp [trimStart, first head rfl]

/-- Nothing is taken from a text that ends with no blank. -/
theorem trimEnd_of_last {text : List Char}
    (last : ∀ char, text.getLast? = some char → isBlank char = false) : trimEnd text = text := by
  -- Seen backwards this is what happens at the beginning.
  have backwards : trimStart text.reverse = text.reverse :=
    trimStart_of_head fun char head => last char (List.head?_reverse ▸ head)
  rw [trimEnd, ← trimStart, backwards, List.reverse_reverse]

/-- What is left at the beginning is no blank. -/
theorem head_trimStart {text : List Char} {char : Char}
    (head : (trimStart text).head? = some char) : isBlank char = false := by
  -- Dropping stops at the first character that is no blank.
  have stopped := List.head?_dropWhile_not isBlank text
  rw [← trimStart, head] at stopped
  exact stopped

/-- What is left at the end is no blank. -/
theorem last_trimEnd {text : List Char} {char : Char}
    (last : (trimEnd text).getLast? = some char) : isBlank char = false := by
  -- The end is trimmed as the beginning of the reversed text.
  rw [trimEnd, List.getLast?_reverse] at last
  exact head_trimStart last

/-- Only blanks are taken away at the beginning. -/
theorem exists_trimStart (text : List Char) :
    ∃ blanks, isBlankText blanks = true ∧ text = blanks ++ trimStart text :=
  ⟨_, List.all_takeWhile, List.takeWhile_append_dropWhile.symm⟩

/-- Only blanks are taken away at the end. -/
theorem exists_trimEnd (text : List Char) :
    ∃ blanks, isBlankText blanks = true ∧ text = trimEnd text ++ blanks := by
  -- What is dropped from the reversed text is reversed once more.
  obtain ⟨blanks, blank, split⟩ := exists_trimStart text.reverse
  refine ⟨blanks.reverse, by rw [isBlankText, List.all_reverse]; exact blank, ?_⟩
  rw [trimEnd, ← trimStart, ← List.reverse_append, ← split, List.reverse_reverse]

/-- What is left of a text begins and ends with no blank. -/
theorem isTrimmed_trim (text : List Char) : IsTrimmed (trim text) where
  first char head := by
    -- What stands in front was left there by the first step.
    obtain ⟨blanks, -, split⟩ := exists_trimEnd (trimStart text)
    refine @head_trimStart text _ ?_
    rw [split, ← trim, List.head?_append, head]
    rfl
  last _ last := last_trimEnd last

/-- Trimming finds the one part of a text that is trimmed and has nothing but blanks around it. -/
theorem trim_eq_iff {text inner : List Char} :
    trim text = inner ↔ IsTrimmed inner ∧ ∃ before after, isBlankText before = true ∧
      isBlankText after = true ∧ text = before ++ (inner ++ after) := by
  constructor
  · -- What was taken away on either side is what stands around the rest.
    rintro rfl
    obtain ⟨before, blank, front⟩ := exists_trimStart text
    obtain ⟨after, blankToo, back⟩ := exists_trimEnd (trimStart text)
    exact ⟨isTrimmed_trim text, before, after, blank, blankToo, by rw [trim, ← back, ← front]⟩
  · rintro ⟨trimmed, before, after, blank, blankToo, rfl⟩
    rw [trim, trimStart_append blank]
    by_cases empty : inner = []
    · -- Blanks alone leave nothing.
      subst empty
      have nothing : trimStart (after ++ []) = [] := trimStart_append blankToo
      rw [List.append_nil] at nothing
      rw [List.nil_append, nothing]
      rfl
    · -- The blanks in front end where the inner text begins, and those behind where it ends.
      obtain ⟨first, rest, rfl⟩ := List.exists_cons_of_ne_nil empty
      have front : ∀ char, (first :: rest ++ after).head? = some char → isBlank char = false :=
        fun char head => trimmed.first char head
      rw [trimStart_of_head front, trimEnd_append blankToo, trimEnd_of_last trimmed.last]

end PowerGovernor
