import PowerGovernor.Text.Blank

/-! The words of a text, told apart from the way in which they are found. -/

namespace PowerGovernor

/-- A text has some words, one after another: each of them holds at least one character and no
blank, and ends where the text ends or a blank follows. -/
inductive HasWords : List Char → List (List Char) → Prop
  /-- Blanks alone are no word. -/
  | none {text : List Char} (blank : isBlankText text = true) : HasWords text []
  /-- Blanks may stand in front of a word. -/
  | word {blanks word rest : List Char} {others : List (List Char)}
      (blank : isBlankText blanks = true) (nonempty : word ≠ [])
      (inked : ∀ char ∈ word, isBlank char = false)
      (ends : ∀ char, rest.head? = some char → isBlank char = true)
      (more : HasWords rest others) : HasWords (blanks ++ (word ++ rest)) (word :: others)

/-- The words in front of a blank and those behind it have nothing to do with each other. -/
theorem words_append_cons {blank : Char} (isBlank : isBlank blank = true) (front rest : List Char) :
    words (front ++ blank :: rest) = words front ++ words rest := by
  -- A blank ends one word, and the next one begins behind it.
  rw [words, List.splitOnP_append_cons front rest isBlank, List.filter_append]
  rfl

/-- Blanks in front of a text are no part of a word. -/
theorem words_append_of_blank {blanks : List Char} (blank : isBlankText blanks = true)
    (text : List Char) : words (blanks ++ text) = words text := by
  induction blanks with
  | nil => rfl
  | cons first rest ih =>
    -- The first blank ends a word that has not begun.
    obtain ⟨isBlank, blankToo⟩ := Bool.and_eq_true_iff.mp blank
    exact (words_append_cons isBlank [] (rest ++ text)).trans (ih blankToo)

/-- A text without a blank is a word, unless it is empty. -/
theorem words_of_inked {word : List Char} (nonempty : word ≠ [])
    (inked : ∀ char ∈ word, isBlank char = false) : words word = [word] := by
  -- There is nothing to split at.
  rw [words, List.splitOnP_eq_singleton inked]
  simp [nonempty]

/-- The words that a text has are the ones that are found. -/
theorem HasWords.words_eq {text : List Char} {parts : List (List Char)}
    (has : HasWords text parts) : words text = parts := by
  -- Each word is found behind the blanks in front of it, and then the search goes on behind it.
  induction has with
  | none blank =>
    have found := words_append_of_blank blank []
    rwa [List.append_nil] at found
  | @word blanks word rest others blank nonempty inked ends _ ih =>
    rw [words_append_of_blank blank]
    cases rest with
    | nil =>
      rw [← ih, List.append_nil, words_of_inked nonempty inked]
      rfl
    | cons first behind =>
      -- The blank behind the word is no part of a word itself.
      have isBlank := ends first rfl
      have skipped := words_append_cons isBlank [] behind
      rw [List.nil_append] at skipped
      rw [words_append_cons isBlank, words_of_inked nonempty inked, ← ih, skipped]
      rfl

/-- A word may stand at the beginning of a text. -/
theorem HasWords.of_word {word rest : List Char} {others : List (List Char)} (nonempty : word ≠ [])
    (inked : ∀ char ∈ word, isBlank char = false)
    (ends : ∀ char, rest.head? = some char → isBlank char = true) (more : HasWords rest others) :
    HasWords (word ++ rest) (word :: others) :=
  @HasWords.word [] word rest others rfl nonempty inked ends more

/-- Every text has words, if only none. -/
theorem exists_hasWords (text : List Char) : ∃ parts, HasWords text parts := by
  -- A character in front is one more blank, or belongs to the first word, or is a word of its own.
  induction text with
  | nil => exact ⟨[], .none rfl⟩
  | cons first rest ih =>
    obtain ⟨parts, has⟩ := ih
    by_cases blank : isBlank first = true
    · cases has with
      | none others => exact ⟨[], .none (Bool.and_eq_true_iff.mpr ⟨blank, others⟩)⟩
      | word others nonempty inked ends more =>
        rw [← List.cons_append]
        exact ⟨_, .word (Bool.and_eq_true_iff.mpr ⟨blank, others⟩) nonempty inked ends more⟩
    · have ink : isBlank first = false := Bool.eq_false_iff.mpr blank
      have single : ∀ char ∈ [first], isBlank char = false := List.forall_mem_singleton.mpr ink
      cases has with
      | none others =>
        have ends : ∀ char, rest.head? = some char → isBlank char = true := fun char head =>
          List.all_eq_true.mp others char (List.mem_of_head? head)
        exact ⟨_, .of_word (List.cons_ne_nil first []) single ends (.none others)⟩
      | @word blanks word behind others blank nonempty inked ends more =>
        cases blanks with
        | nil =>
          exact ⟨_, .of_word (List.cons_ne_nil first word) (List.forall_mem_cons.mpr ⟨ink, inked⟩)
            ends more⟩
        | cons space spaces =>
          have isSpace := (Bool.and_eq_true_iff.mp blank).1
          have apart : ∀ char, (space :: spaces ++ (word ++ behind)).head? = some char →
              isBlank char = true := by
            rintro _ ⟨⟩
            exact isSpace
          exact ⟨_, .of_word (List.cons_ne_nil first []) single apart
            (.word blank nonempty inked ends more)⟩

/-- The words of a text are found, and nothing else is. -/
theorem words_eq_iff {text : List Char} {parts : List (List Char)} :
    words text = parts ↔ HasWords text parts := by
  constructor
  · rintro rfl
    -- What the text has is what is found.
    obtain ⟨parts, has⟩ := exists_hasWords text
    rwa [has.words_eq]
  · exact HasWords.words_eq

end PowerGovernor
