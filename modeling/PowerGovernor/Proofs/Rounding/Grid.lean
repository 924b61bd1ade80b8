import Mathlib.Algebra.Order.Field.Power
import Mathlib.Data.Nat.Cast.Order.Field
import Mathlib.Data.Rat.Floor
import PowerGovernor.Rounding

/-! Rounding never passes a number that has the precision itself. -/

namespace PowerGovernor

/-- A number is not rounded past an integer above it. -/
theorem roundHalfEven_le {value : Rat} {bound : Int} (below : value ≤ bound) :
    roundHalfEven value ≤ bound := by
  have floor_le : value.floor ≤ bound := by
    have whole := Rat.floor_le value
    exact_mod_cast le_trans whole below
  unfold roundHalfEven
  dsimp only
  by_cases reached : value.floor = bound
  · -- A number that is the integer itself has no excess to round up.
    have small : value - value.floor < 1 / 2 := by
      rw [reached]
      linarith
    rw [if_pos small]
    exact floor_le
  · -- Otherwise there is room for the integer after the floor.
    split_ifs <;> omega

/-- A number is not rounded past an integer below it. -/
theorem le_roundHalfEven {value : Rat} {bound : Int} (above : bound ≤ value) :
    bound ≤ roundHalfEven value := by
  -- Rounding leads to the floor or to the integer after it, and the floor is not below the bound.
  have le_floor : bound ≤ value.floor := Rat.le_floor_iff.mpr above
  unfold roundHalfEven
  dsimp only
  split_ifs <;> omega

/-- The power of two that a binary exponent names is not above the number. -/
theorem two_zpow_binaryExponent_le {value : Rat} (positive : 0 < value) :
    (2 : Rat) ^ binaryExponent value ≤ value := by
  unfold binaryExponent
  dsimp only
  split_ifs with above
  · -- The logarithms miss by one at most, since the numerator is below twice its power of two.
    have numerator : 0 < value.num := Rat.num_pos.mpr positive
    have large : 2 ^ Nat.log2 value.num.natAbs ≤ value.num.natAbs :=
      Nat.log2_self_le (by omega)
    have small : value.den < 2 ^ (Nat.log2 value.den + 1) := Nat.lt_log2_self
    have large : ((2 : Rat) ^ Nat.log2 value.num.natAbs) ≤ value.num := by
      have same : ((value.num.natAbs : Nat) : Int) = value.num := by omega
      exact_mod_cast same ▸ (Int.ofNat_le.mpr large)
    have small : (value.den : Rat) ≤ (2 : Rat) ^ (Nat.log2 value.den + 1) := by
      exact_mod_cast small.le
    have power : (2 : Rat) ^ ((Nat.log2 value.num.natAbs : Int) - Nat.log2 value.den - 1) =
        2 ^ Nat.log2 value.num.natAbs / 2 ^ (Nat.log2 value.den + 1) := by
      rw [sub_sub, zpow_sub₀ two_ne_zero]
      norm_cast
    have whole : value = value.num / value.den := (Rat.num_div_den value).symm
    rw [power]
    conv_rhs => rw [whole]
    exact div_le_div₀ (by exact_mod_cast numerator.le) large
      (by exact_mod_cast value.den_pos) small
  · exact not_lt.mp above

/-- A number below a power of two has a smaller binary exponent. -/
theorem binaryExponent_lt {value : Rat} (positive : 0 < value) {exponent : Int}
    (below : value < 2 ^ exponent) : binaryExponent value < exponent :=
  (zpow_lt_zpow_iff_right₀ one_lt_two).mp
    (lt_of_le_of_lt (two_zpow_binaryExponent_le positive) below)

/-- The distance between neighbours among the numbers of a precision that are as large as a given
one. -/
def spacing (precision : Nat) (value : Rat) : Rat :=
  2 ^ (binaryExponent value + 1 - precision)

/-- A number other than zero is rounded to a multiple of its spacing. -/
theorem roundBinary_of_ne_zero {value : Rat} (other : value ≠ 0) (precision : Nat) :
    roundBinary precision value =
      roundHalfEven (value / spacing precision value) * spacing precision value :=
  if_neg other

/-- A multiple of a power of two is one of the spacing if that is not wider than the power. -/
theorem exists_steps {precision : Nat} {value : Rat} {exponent : Int}
    (fine : binaryExponent value + 1 - precision ≤ exponent) (factor : Int) :
    ∃ steps : Int, (factor : Rat) * 2 ^ exponent = steps * spacing precision value := by
  obtain ⟨extra, reached⟩ := Int.eq_ofNat_of_zero_le (sub_nonneg.mpr fine)
  -- The power has room for a whole number of steps, namely another power of two.
  refine ⟨factor * 2 ^ extra, ?_⟩
  have split : exponent = extra + (binaryExponent value + 1 - precision) := by omega
  rw [spacing, split, zpow_add₀ two_ne_zero, zpow_natCast]
  push_cast
  ring

section Dyadic

variable {precision : Nat} {value : Rat} {exponent : Int} (factor : Int)

/-- A number is not rounded past a multiple of a power of two above it. -/
theorem roundBinary_le (fine : binaryExponent value + 1 - precision ≤ exponent)
    (below : value ≤ factor * 2 ^ exponent) :
    roundBinary precision value ≤ factor * 2 ^ exponent := by
  by_cases zero : value = 0
  · rw [zero] at below
    rwa [zero, roundBinary, if_pos rfl]
  · obtain ⟨steps, same⟩ := exists_steps fine factor
    have positive : 0 < spacing precision value := zpow_pos two_pos _
    rw [same] at below ⊢
    rw [roundBinary_of_ne_zero zero]
    -- In steps of the spacing the bound is an integer.
    have rounded := roundHalfEven_le ((div_le_iff₀ positive).mpr below)
    exact mul_le_mul_of_nonneg_right (by exact_mod_cast rounded) positive.le

/-- A number is not rounded past a multiple of a power of two below it. -/
theorem le_roundBinary (fine : binaryExponent value + 1 - precision ≤ exponent)
    (above : factor * 2 ^ exponent ≤ value) :
    factor * 2 ^ exponent ≤ roundBinary precision value := by
  -- Counted in the spacing of the number the multiple is an integer, which rounding does not pass.
  by_cases zero : value = 0
  · rw [zero] at above
    rwa [zero, roundBinary, if_pos rfl]
  · obtain ⟨steps, same⟩ := exists_steps fine factor
    have positive : 0 < spacing precision value := zpow_pos two_pos _
    rw [same] at above ⊢
    rw [roundBinary_of_ne_zero zero]
    have rounded := le_roundHalfEven ((le_div_iff₀ positive).mpr above)
    exact mul_le_mul_of_nonneg_right (by exact_mod_cast rounded) positive.le

end Dyadic

section Single

variable {value : Rat} {bound : Nat}

/-- A positive number is not rounded past its own power of two. -/
theorem two_zpow_binaryExponent_le_roundSingle (positive : 0 < value) :
    (2 : Rat) ^ binaryExponent value ≤ roundSingle value := by
  -- Its power of two is a multiple of itself, with more precision than needed.
  have above : ((1 : Int) : Rat) * 2 ^ binaryExponent value ≤ value := by
    simpa using two_zpow_binaryExponent_le positive
  have rounded : _ ≤ roundBinary 24 value := le_roundBinary 1 (by omega) above
  simpa [roundSingle] using rounded

/-- Rounding to single precision does not pass a small integer above the number. -/
theorem roundSingle_le (small : bound < 16777216) (nonnegative : 0 ≤ value)
    (below : value ≤ bound) : roundSingle value ≤ bound := by
  rcases nonnegative.eq_or_lt with zero | positive
  · rwa [← zero] at below ⊢
  · -- The number is below the power of two from which on integers have gaps between them.
    have limit : (bound : Rat) < 2 ^ (24 : Int) := by
      norm_num
      exact_mod_cast small
    have exponent : binaryExponent value < 24 :=
      binaryExponent_lt positive (lt_of_le_of_lt below limit)
    have below : value ≤ ((bound : Int) : Rat) * 2 ^ (0 : Int) := by simpa using below
    have rounded : roundBinary 24 value ≤ _ := roundBinary_le bound (by omega) below
    simpa [roundSingle] using rounded

/-- Rounding to single precision does not pass a small integer below the number. -/
theorem le_roundSingle (small : bound < 16777216) (nonnegative : 0 ≤ value)
    (above : bound ≤ value) : bound ≤ roundSingle value := by
  rcases nonnegative.eq_or_lt with zero | positive
  · rwa [← zero] at above ⊢
  · by_cases exponent : binaryExponent value < 24
    · have above : ((bound : Int) : Rat) * 2 ^ (0 : Int) ≤ value := by simpa using above
      have rounded : _ ≤ roundBinary 24 value := le_roundBinary bound (by omega) above
      simpa [roundSingle] using rounded
    · -- From there on the number's own power of two is above the integer.
      have limit : (bound : Rat) < 2 ^ (24 : Int) := by
        norm_num
        exact_mod_cast small
      have wide : (2 : Rat) ^ (24 : Int) ≤ 2 ^ binaryExponent value :=
        zpow_le_zpow_right₀ one_le_two (by omega)
      exact limit.le.trans (wide.trans (two_zpow_binaryExponent_le_roundSingle positive))

/-- A small integer is not changed by rounding to single precision. -/
theorem roundSingle_natCast (small : bound < 16777216) : roundSingle (bound : Rat) = bound :=
  -- The integer bounds itself from both sides.
  le_antisymm (roundSingle_le small (Nat.cast_nonneg _) le_rfl)
    (le_roundSingle small (Nat.cast_nonneg _) le_rfl)

/-- A fraction with a small denominator keeps its whole part when it is rounded to single
precision. -/
theorem floor_roundSingle_div {part whole : Nat} (small : part < 32768) (positive : 0 < whole)
    (coarse : whole ≤ 256) :
    (roundSingle ((part : Rat) / whole)).floor = ((part / whole : Nat) : Int) := by
  have divisor : (0 : Rat) < whole := by exact_mod_cast positive
  have nonnegative : (0 : Rat) ≤ (part : Rat) / whole := by positivity
  have least : ((part / whole : Nat) : Rat) ≤ (part : Rat) / whole := Nat.cast_div_le
  have next : part + 1 ≤ whole * (part / whole + 1) := Nat.lt_mul_div_succ part positive
  have modest : part / whole ≤ part := Nat.div_le_self part whole
  generalize part / whole = quotient at least next modest ⊢
  have below : (quotient : Rat) ≤ roundSingle ((part : Rat) / whole) :=
    le_roundSingle (by omega) nonnegative least
  -- The fraction stays short of the next integer by more than the grid is wide there.
  have short : (part : Rat) / whole ≤ ((256 * quotient + 255 : Int) : Rat) * 2 ^ (-8 : Int) := by
    have next : (part : Rat) + 1 ≤ whole * (quotient + 1) := by exact_mod_cast next
    have coarse : (whole : Rat) ≤ 256 := by exact_mod_cast coarse
    rw [div_le_iff₀ divisor]
    push_cast
    norm_num
    linarith
  have above : roundSingle ((part : Rat) / whole) < quotient + 1 := by
    rcases nonnegative.eq_or_lt with zero | filled
    · rw [← zero, roundSingle, roundBinary, if_pos rfl]
      positivity
    · have limit : (part : Rat) / whole < 2 ^ (15 : Int) := by
        refine lt_of_le_of_lt (div_le_self (Nat.cast_nonneg _) (by exact_mod_cast positive)) ?_
        norm_num
        exact_mod_cast small
      have exponent := binaryExponent_lt filled limit
      have rounded : roundBinary 24 ((part : Rat) / whole) ≤ _ := roundBinary_le _ (by omega) short
      refine lt_of_le_of_lt rounded ?_
      push_cast
      norm_num
      linarith
  have lower : (quotient : Int) ≤ (roundSingle ((part : Rat) / whole)).floor :=
    Rat.le_floor_iff.mpr (by exact_mod_cast below)
  have upper : (roundSingle ((part : Rat) / whole)).floor < quotient + 1 := by
    exact_mod_cast lt_of_le_of_lt (Rat.floor_le _) above
  omega

/-- Rounding to single precision makes nothing negative. -/
theorem roundSingle_nonneg (nonnegative : 0 ≤ value) : 0 ≤ roundSingle value := by
  -- Zero is not rounded past.
  have above : ((0 : Nat) : Rat) ≤ value := by simpa using nonnegative
  simpa using le_roundSingle (by decide) nonnegative above

/-- A number above one by at least the precision there is still above one after rounding. -/
theorem one_lt_roundSingle (above : 1 + 1 / 8388608 ≤ value) : 1 < roundSingle value := by
  have positive : 0 < value := by linarith
  by_cases exponent : binaryExponent value ≤ 0
  · have above : ((8388609 : Int) : Rat) * 2 ^ (-23 : Int) ≤ value := by
      norm_num at above ⊢
      linarith
    have rounded : _ ≤ roundBinary 24 value := le_roundBinary 8388609 (by omega) above
    norm_num at rounded
    rw [roundSingle]
    linarith
  · -- A number with a higher power of two is at least two.
    have wide : (2 : Rat) ^ (1 : Int) ≤ 2 ^ binaryExponent value :=
      zpow_le_zpow_right₀ one_le_two (by omega)
    have rounded := wide.trans (two_zpow_binaryExponent_le_roundSingle positive)
    norm_num at rounded
    linarith

end Single

end PowerGovernor
