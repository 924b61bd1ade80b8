import Mathlib.Data.Nat.Digits.Defs
import Mathlib.Logic.Relator
import PowerGovernor.Text.Numeral

/-! Exactly the decimal numerals within the limit are read, each as the number it stands for. -/

namespace PowerGovernor

/-- The number that digits stand for, the most significant one first. -/
def decimalValue (digits : List Char) : Nat :=
  Nat.ofDigits 10 (digits.reverse.map fun digit => digit.toNat - '0'.toNat)

/-- A decimal numeral: at least one digit, behind at most one plus sign. -/
def IsNumeral (text : List Char) (value : Nat) : Prop :=
  ∃ digits, (text = digits ∨ text = '+' :: digits) ∧ digits ≠ [] ∧
    (∀ char ∈ digits, char.isDigit = true) ∧ value = decimalValue digits

/-- A numeral of a 32-bit word. -/
def IsWord (text : List Char) (word : UInt32) : Prop :=
  IsNumeral text word.toNat

/-- A numeral is no empty text. -/
theorem IsNumeral.ne_nil {text : List Char} {value : Nat} (numeral : IsNumeral text value) :
    text ≠ [] := by
  -- It has a digit at least, and maybe a sign in front.
  obtain ⟨digits, rfl | rfl, nonempty, -⟩ := numeral
  · exact nonempty
  · exact List.cons_ne_nil '+' digits

/-- The first digit counts once for each number that the others can make up. -/
theorem decimalValue_cons (digit : Char) (rest : List Char) :
    decimalValue (digit :: rest) =
      (digit.toNat - '0'.toNat) * 10 ^ rest.length + decimalValue rest := by
  -- Backwards the first digit comes last, and counts as much as there are numbers before it.
  simp only [decimalValue, List.reverse_cons, List.map_append, List.map_cons, List.map_nil,
    Nat.ofDigits_append, Nat.ofDigits_singleton, List.length_map, List.length_reverse]
  rw [Nat.mul_comm, Nat.add_comm]

/-- A character has the value of a digit exactly if it is one. -/
theorem digitValue?_eq_some_iff {char : Char} {value : Nat} :
    digitValue? char = some value ↔ char.isDigit = true ∧ value = char.toNat - '0'.toNat := by
  -- The reader compares with the first and the last digit, and so does the class of digits.
  have range : char.isDigit = true ↔ '0' ≤ char ∧ char ≤ '9' := by
    rw [Char.isDigit, Bool.and_eq_true, decide_eq_true_iff, decide_eq_true_iff]
    rfl
  rw [digitValue?, range]
  split
  · rename_i inside
    rw [Option.some.injEq, eq_comm]
    exact ⟨fun same => ⟨inside, same⟩, fun digit => digit.2⟩
  · rename_i outside
    simp [outside]

/-- Reading digits behind a value succeeds for nothing but digits, and within the limit. -/
theorem readDigits_eq_ok_iff {limit : Nat} {tooFar : NumeralError} {digits : List Char}
    {start value : Nat} (fits : start ≤ limit) :
    readDigits limit tooFar start digits = .ok value ↔
      (∀ char ∈ digits, char.isDigit = true) ∧
        value = start * 10 ^ digits.length + decimalValue digits ∧ value ≤ limit := by
  -- The value in front of the digits is what the ones before them came to, and so has kept the
  -- limit.
  induction digits generalizing start with
  | nil =>
    have none : start * 10 ^ ([] : List Char).length + decimalValue [] = start := by
      simp [decimalValue]
    rw [readDigits, none, Except.ok.injEq]
    constructor
    · rintro rfl
      exact ⟨by simp, rfl, fits⟩
    · exact fun read => read.2.1.symm
  | cons char rest ih =>
    cases known : digitValue? char with
    | none =>
      -- A character that is no digit is never passed.
      have other : char.isDigit ≠ true := by
        intro digit
        have := digitValue?_eq_some_iff.mpr ⟨digit, rfl⟩
        rw [known] at this
        contradiction
      simp [readDigits, known, other]
    | some digit =>
      obtain ⟨isDigit, worth⟩ := digitValue?_eq_some_iff.mp known
      -- What has been read so far counts ten times for every digit that follows.
      have shifted : start * 10 ^ (char :: rest).length + decimalValue (char :: rest) =
          (10 * start + digit) * 10 ^ rest.length + decimalValue rest := by
        rw [decimalValue_cons, ← worth, List.length_cons, Nat.pow_succ]
        ring
      rw [shifted, List.forall_mem_cons]
      simp only [readDigits, known, isDigit, true_and]
      split
      · rename_i fitsToo
        exact ih fitsToo
      · rename_i exceeded
        -- Going over the limit cannot be made good by more digits.
        have grows : 10 * start + digit ≤ (10 * start + digit) * 10 ^ rest.length :=
          Nat.le_mul_of_pos_right _ (Nat.pow_pos (by omega))
        simp only [reduceCtorEq, false_iff, not_and]
        omega

/-- Behind a plus sign, the digits are read. -/
theorem readUnsigned_signed (limit : Nat) {digits : List Char} (nonempty : digits ≠ []) :
    readUnsigned limit ('+' :: digits) = readDigits limit .tooLarge 0 digits := by
  cases digits with
  | nil => contradiction
  | cons digit rest => rfl

/-- Without a plus sign, all of a text is read as digits. -/
theorem readUnsigned_unsigned (limit : Nat) {first : Char} {rest : List Char}
    (unsigned : first ≠ '+') :
    readUnsigned limit (first :: rest) = readDigits limit .tooLarge 0 (first :: rest) := by
  -- A sign is looked for in the first place only.
  unfold readUnsigned
  split <;> simp_all

/-- The numerals within the limit are read, each as the number that it stands for, and nothing else
is. -/
theorem readUnsigned_eq_ok_iff {limit : Nat} {text : List Char} {value : Nat} :
    readUnsigned limit text = .ok value ↔ IsNumeral text value ∧ value ≤ limit := by
  have plain : ∀ digits, readDigits limit .tooLarge 0 digits = .ok value ↔
      (∀ char ∈ digits, char.isDigit = true) ∧ value = decimalValue digits ∧ value ≤ limit := by
    intro digits
    rw [readDigits_eq_ok_iff (Nat.zero_le limit), Nat.zero_mul, Nat.zero_add]
  -- A sign in front is passed over, and the digits decide.
  constructor
  · intro read
    cases text with
    | nil => contradiction
    | cons first rest =>
      by_cases signed : first = '+'
      · subst signed
        by_cases alone : rest = []
        · subst alone
          contradiction
        · rw [readUnsigned_signed limit alone] at read
          obtain ⟨digits, worth, fits⟩ := (plain rest).mp read
          exact ⟨⟨rest, .inr rfl, alone, digits, worth⟩, fits⟩
      · rw [readUnsigned_unsigned limit signed] at read
        obtain ⟨digits, worth, fits⟩ := (plain _).mp read
        exact ⟨⟨first :: rest, .inl rfl, by simp, digits, worth⟩, fits⟩
  · rintro ⟨⟨digits, written, nonempty, all, worth⟩, fits⟩
    have read := (plain digits).mpr ⟨all, worth, fits⟩
    rcases written with rfl | rfl
    · obtain ⟨first, rest, rfl⟩ := List.exists_cons_of_ne_nil nonempty
      -- A digit is no sign.
      have unsigned : first ≠ '+' := by
        rintro rfl
        exact absurd (all '+' (by simp)) (by decide)
      rw [readUnsigned_unsigned limit unsigned]
      exact read
    · rw [readUnsigned_signed limit nonempty]
      exact read

/-- What is made of a number is found exactly for the numerals within the limit. -/
theorem map_readUnsigned_eq_some_iff {α : Type} {make : Nat → α} {limit : Nat} {text : List Char}
    {result : α} :
    (readUnsigned limit text).toOption.map make = some result ↔
      ∃ value, (IsNumeral text value ∧ value ≤ limit) ∧ make value = result := by
  -- Only the number has been read, and an error makes nothing.
  rw [Option.map_eq_some_iff]
  refine exists_congr fun value => and_congr_left' ?_
  rw [← readUnsigned_eq_ok_iff]
  cases readUnsigned limit text <;> simp [Except.toOption]

/-- If the numbers up to a limit are the values of some kind of words, a word of this kind is read
from the numerals that fit, and from nothing else. -/
theorem read_word_eq_some_iff {α : Type} {ofNat : Nat → α} {toNat : α → Nat} {limit : Nat}
    (kept : ∀ value ≤ limit, toNat (ofNat value) = value) (back : ∀ word, ofNat (toNat word) = word)
    (bounded : ∀ word, toNat word ≤ limit) {text : List Char} {word : α} :
    (readUnsigned limit text).toOption.map ofNat = some word ↔ IsNumeral text (toNat word) := by
  rw [map_readUnsigned_eq_some_iff]
  constructor
  · rintro ⟨value, ⟨numeral, fits⟩, rfl⟩
    -- Within the limit nothing is lost.
    rwa [kept value fits]
  · intro numeral
    exact ⟨toNat word, ⟨numeral, bounded word⟩, back word⟩

/-- A 32-bit word is read from the numerals that fit, and from nothing else. -/
theorem readWord32?_eq_some_iff {text : List Char} {word : UInt32} :
    readWord32? text = some word ↔ IsWord text word :=
  read_word_eq_some_iff (fun _ fits => UInt32.toNat_ofNat_of_lt' (Nat.lt_succ_of_le fits))
    (fun _ => UInt32.ofNat_toNat) fun word => Nat.le_of_lt_succ word.toNat_lt

/-- A 64-bit word is read from the numerals that fit, and from nothing else. -/
theorem readWord64?_eq_some_iff {text : List Char} {word : UInt64} :
    readWord64? text = some word ↔ IsNumeral text word.toNat :=
  read_word_eq_some_iff (fun _ fits => UInt64.toNat_ofNat_of_lt' (Nat.lt_succ_of_le fits))
    (fun _ => UInt64.ofNat_toNat) fun word => Nat.le_of_lt_succ word.toNat_lt

/-- A text has one meaning at most if its meanings are what a reader finds. -/
theorem rightUnique_of_read {α β : Type} {read : α → Option β} {means : α → β → Prop}
    (finds : ∀ {text value}, read text = some value ↔ means text value) :
    Relator.RightUnique means := by
  -- The reader finds one thing, and both meanings are it.
  intro text first second one other
  exact Option.some.inj ((finds.mpr one).symm.trans (finds.mpr other))

/-- A numeral stands for one word only. -/
theorem isWord_rightUnique : Relator.RightUnique IsWord :=
  rightUnique_of_read readWord32?_eq_some_iff

end PowerGovernor
