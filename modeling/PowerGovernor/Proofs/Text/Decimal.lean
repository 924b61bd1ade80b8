import PowerGovernor.Proofs.Text.Blank
import PowerGovernor.Proofs.Text.Numeral

/-! The decimal text of a number is a numeral, and stands for that number. -/

namespace PowerGovernor

/-- Digits stand for what they come to when each of them is appended to the number before it. -/
theorem decimalValue_eq_ofDigitChars (digits : List Char) :
    decimalValue digits = Nat.ofDigitChars 10 digits 0 := by
  -- On both sides the first digit counts once for each number that the others can make up.
  induction digits with
  | nil => simp [decimalValue]
  | cons digit rest ih =>
    have first := @Nat.ofDigitChars_eq_ofDigitChars_zero rest (digit.toNat - '0'.toNat)
    rw [decimalValue_cons, ih, Nat.ofDigitChars_cons, Nat.mul_zero, Nat.zero_add, first,
      Nat.mul_comm]

/-- The decimal text of a number holds nothing but digits. -/
theorem isDigit_of_mem_toString {number : Nat} {char : Char}
    (member : char ∈ (toString number).toList) : char.isDigit = true := by
  -- The digits of base ten are characters from zero to nine.
  rw [Nat.toString_eq_repr, Nat.toList_repr] at member
  exact Nat.isDigit_of_mem_toDigits (by decide) (by decide) member

/-- The decimal text of a number is not empty. -/
theorem toString_ne_nil (number : Nat) : (toString number).toList ≠ [] := by
  rw [Nat.toString_eq_repr, Nat.toList_repr]
  exact Nat.toDigits_ne_nil

/-- The decimal text of a number is a numeral for it. -/
theorem isNumeral_toString (number : Nat) : IsNumeral (toString number).toList number := by
  -- It is written without a sign, so all of it are digits.
  refine ⟨(toString number).toList, .inl rfl, toString_ne_nil number,
    fun char => isDigit_of_mem_toString, ?_⟩
  rw [decimalValue_eq_ofDigitChars, Nat.toString_eq_repr, Nat.toList_repr,
    Nat.ofDigitChars_ten_toDigits]

/-- Different numbers have different decimal texts. -/
theorem toString_injective : Function.Injective (toString : Nat → String) := by
  -- The digits of a text give its number back.
  have back : Function.LeftInverse (fun text : String => Nat.ofDigitChars 10 text.toList 0)
      (toString : Nat → String) := by
    intro number
    simp only [Nat.toString_eq_repr, Nat.toList_repr, Nat.ofDigitChars_ten_toDigits]
  exact back.injective

/-- A numeral holds digits, and maybe a plus sign. -/
theorem IsNumeral.chars {text : List Char} {value : Nat} (numeral : IsNumeral text value)
    {char : Char} (member : char ∈ text) : char.isDigit = true ∨ char = '+' := by
  obtain ⟨digits, written, -, isDigit, -⟩ := numeral
  rcases written with rfl | rfl
  · exact .inl (isDigit char member)
  · -- Only the first character can be the sign.
    rcases List.mem_cons.mp member with sign | later
    · exact .inr sign
    · exact .inl (isDigit char later)

/-- A digit is no blank. -/
theorem isBlank_of_isDigit {char : Char} (digit : char.isDigit = true) : isBlank char = false := by
  -- All digits are visible.
  have range : 48 ≤ char.toNat ∧ char.toNat ≤ 57 := by
    rw [Char.isDigit, Bool.and_eq_true, decide_eq_true_iff, decide_eq_true_iff] at digit
    exact digit
  exact isBlank_of_visible (by omega) (by omega)

/-- Nothing is taken from a text in which there is no blank. -/
theorem trim_of_forall {text : List Char} (inked : ∀ char ∈ text, isBlank char = false) :
    trim text = text := by
  -- Neither its first nor its last character can be a blank.
  have trimmed : IsTrimmed text :=
    ⟨fun char head => inked char (List.mem_of_head? head),
      fun char last => inked char (List.mem_of_getLast? last)⟩
  exact trim_eq_iff.mpr ⟨trimmed, [], [], rfl, rfl, by simp⟩

end PowerGovernor
