import PowerGovernor.Policy.Pace

/-! Poll intervals as numbers: what a state's limits, its increment and the floor leave of them. -/

namespace PowerGovernor.Policy

-- Words are compared as the numbers that they stand for.

theorem toNat_maxWord (left right : UInt32) :
    (max left right).toNat = max left.toNat right.toNat := by
  -- The larger word stands for the larger number.
  show (if left ≤ right then right else left).toNat = _
  split <;> rename_i order <;> simp only [UInt32.le_iff_toNat_le] at order <;> omega

theorem toNat_minWord (left right : UInt32) :
    (min left right).toNat = min left.toNat right.toNat := by
  -- The smaller word stands for the smaller number.
  show (if left ≤ right then left else right).toNat = _
  split <;> rename_i order <;> simp only [UInt32.le_iff_toNat_le] at order <;> omega

/-- A word is not set exactly if it is zero as a number. -/
theorem word_eq_zero_iff {word : UInt32} : word = 0 ↔ word.toNat = 0 := by
  -- Words are equal if their numbers are.
  rw [← UInt32.toNat_inj]
  rfl

/-- The full hundreds of an interval, as a number. -/
theorem toNat_floorToHundred (milliseconds : UInt32) :
    (floorToHundred milliseconds).toNat = milliseconds.toNat / 100 * 100 := by
  -- The product is no larger than the interval, so it fits.
  have fits := milliseconds.toNat_lt
  simp only [floorToHundred, UInt32.toNat_mul, UInt32.toNat_div, UInt32.reduceToNat]
  omega

/-- The idle part of an interval, as a number, is at most the interval. -/
theorem idlePart_le (interval load : Nat) :
    interval * (fullScale - load) / fullScale ≤ interval :=
  Nat.div_le_of_le_mul (Nat.mul_comm fullScale _ ▸ Nat.mul_le_mul_left _ (Nat.sub_le _ _))

/-- The product of an interval with an idle share fits in the double width. -/
theorem toNat_idleProduct (interval : UInt32) (load : BasisPoints) :
    (interval.toUInt64 * load.idleShare.toUInt64).toNat = interval.toNat * load.idleShare := by
  -- A share is at most ten thousand, which leaves the product far below a double word.
  have fits := interval.toNat_lt
  have share : load.idleShare ≤ 10000 := Nat.sub_le _ _
  have product : interval.toNat * load.idleShare ≤ interval.toNat * 10000 :=
    Nat.mul_le_mul_left _ share
  have narrow : load.idleShare.toUInt64.toNat = load.idleShare :=
    UInt64.toNat_ofNat_of_lt' (by simp only [UInt64.size]; omega)
  rw [UInt64.toNat_mul, narrow, UInt32.toNat_toUInt64, Nat.mod_eq_of_lt (by omega)]

/-- The idle part of an interval, as a number: neither the product nor the quotient overflows. -/
theorem toNat_idlePart (interval : UInt32) (load : BasisPoints) :
    (idlePart interval load).toNat = interval.toNat * load.idleShare / fullScale := by
  have quotient := idlePart_le interval.toNat load.value
  have scale : fullScale.toUInt64.toNat = fullScale := rfl
  -- The share makes the quotient fit in a single word again.
  rw [idlePart, UInt64.toNat_toUInt32, UInt64.toNat_div, toNat_idleProduct, scale]
  exact Nat.mod_eq_of_lt (Nat.lt_of_le_of_lt quotient interval.toNat_lt)

/-- The limits of a configured state agree with each other, or one of them is not set. -/
def Spec.LimitsAgree (spec : Spec) : Prop :=
  spec.minInterval = 0 ∨ spec.maxInterval = 0 ∨ spec.minInterval ≤ spec.maxInterval

/-- Limits of a state between which an interval can be found. -/
structure State.Paced (state : State) : Prop where
  /-- The shortest interval does not exceed the longest one. -/
  min_le_max : state.minInterval ≤ state.maxInterval
  /-- Without a shortest interval the default is not too long. -/
  default_le_max : state.minInterval = 0 → defaultInterval ≤ state.maxInterval
  /-- There is a longest interval. -/
  max_ne_zero : state.maxInterval ≠ 0

/-- The shortest interval of a state, as a number. -/
theorem toNat_effectiveMin (spec : Spec) :
    (effectiveMin spec).toNat =
      if spec.minInterval.toNat = 0 then min spec.maxInterval.toNat 1000
      else spec.minInterval.toNat := by
  -- The default takes the place of a shortest interval that is not set, below the longest.
  simp only [effectiveMin, word_eq_zero_iff]
  split
  · exact toNat_minWord _ _
  · rfl

/-- The longest interval of a state, as a number. -/
theorem toNat_effectiveMax (spec : Spec) :
    (effectiveMax spec).toNat =
      if spec.maxInterval.toNat = 0 then max (effectiveMin spec).toNat 1000
      else spec.maxInterval.toNat := by
  -- The default takes the place of a longest interval that is not set, above the shortest.
  simp only [effectiveMax, word_eq_zero_iff]
  split
  · exact toNat_maxWord _ _
  · rfl

/-- Limits that are not set follow those that are, so limits that agree leave room. -/
theorem paced_usableState {spec : Spec} (agree : spec.LimitsAgree) (id : Nat)
    (activeCpus : Option CpuSet) : (usableState id spec activeCpus).Paced := by
  have shortest := toNat_effectiveMin spec
  have longest := toNat_effectiveMax spec
  simp only [Spec.LimitsAgree, word_eq_zero_iff, UInt32.le_iff_toNat_le] at agree
  -- Each limit is set or not, and one that is not set follows the other one.
  refine ⟨?_, ?_, ?_⟩
  · rw [UInt32.le_iff_toNat_le]
    show (effectiveMin spec).toNat ≤ (effectiveMax spec).toNat
    split at shortest <;> split at longest <;> omega
  · rw [word_eq_zero_iff, UInt32.le_iff_toNat_le]
    show (effectiveMin spec).toNat = 0 → 1000 ≤ (effectiveMax spec).toNat
    split at shortest <;> split at longest <;> omega
  · rw [ne_eq, word_eq_zero_iff]
    show (effectiveMax spec).toNat ≠ 0
    split at longest <;> omega

namespace State

variable {state : State}

/-- The first interval of a state is never zero. -/
theorem firstInterval_ne_zero (state : State) : state.firstInterval ≠ 0 := by
  -- A shortest interval is taken if there is one, and the default otherwise.
  unfold firstInterval
  split
  · rename_i positive
    simp only [UInt32.lt_iff_toNat_lt, UInt32.toNat_zero] at positive
    rw [ne_eq, word_eq_zero_iff]
    omega
  · decide

/-- The first interval of a state lies between its limits. -/
theorem Paced.firstInterval (paced : state.Paced) :
    state.minInterval ≤ state.firstInterval ∧ state.firstInterval ≤ state.maxInterval := by
  unfold State.firstInterval
  split
  · exact ⟨UInt32.le_refl _, paced.min_le_max⟩
  · -- There is no shortest interval, and the default was taken.
    rename_i unset
    have zero : state.minInterval = 0 := by
      simp only [UInt32.lt_iff_toNat_lt, UInt32.toNat_zero] at unset
      rw [word_eq_zero_iff]
      omega
    exact ⟨by rw [zero]; decide, paced.default_le_max zero⟩

/-- A shortest interval of zero raises nothing, so the raised interval is always the larger one. -/
theorem toNat_raiseInterval (state : State) (interval : UInt32) :
    (state.raiseInterval interval).toNat = max interval.toNat state.minInterval.toNat := by
  -- A limit of zero counts as none, and the maximum ignores it anyway.
  unfold raiseInterval
  split
  · exact toNat_maxWord _ _
  · rename_i unset
    simp only [UInt32.lt_iff_toNat_lt, UInt32.toNat_zero] at unset
    omega

/-- The longest interval lowers an interval, unless it is zero. -/
theorem toNat_lowerInterval (state : State) (interval : UInt32) :
    (state.lowerInterval interval).toNat =
      if state.maxInterval.toNat = 0 then interval.toNat
      else min interval.toNat state.maxInterval.toNat := by
  -- Here zero does make a difference, since the minimum would be zero.
  simp only [lowerInterval, UInt32.lt_iff_toNat_lt, UInt32.toNat_zero]
  split
  · rename_i positive
    rw [toNat_minWord, if_neg (by omega)]
  · rename_i unset
    rw [if_pos (by omega)]

/-- The interval of a kept state, as a number: the increment is applied first, then the shortest
interval, then the longest, and the floor at last. -/
theorem toNat_nextInterval (bounded : state.maxInterval ≠ 0) (interval : UInt32) (cpu : Reading) :
    (state.nextInterval interval cpu).toNat =
      max (min (max (state.incrementedInterval interval cpu).toNat state.minInterval.toNat)
        state.maxInterval.toNat) 100 := by
  -- The bounds are applied as functions of words, each of which is a minimum or maximum.
  rw [ne_eq, word_eq_zero_iff] at bounded
  rw [nextInterval, toNat_maxWord, toNat_lowerInterval, if_neg bounded, toNat_raiseInterval]
  rfl

/-- The floor holds for a kept state, whatever its limits and its increment. -/
theorem floor_le_nextInterval (state : State) (interval : UInt32) (cpu : Reading) :
    100 ≤ state.nextInterval interval cpu := by
  -- The floor is applied last.
  rw [UInt32.le_iff_toNat_le, nextInterval, toNat_maxWord]
  exact Nat.le_max_right _ _

/-- The interval of a kept state lies between its limits, where the floor may replace the longest
one. -/
theorem Paced.nextInterval (paced : state.Paced) (interval : UInt32) (cpu : Reading) :
    state.minInterval ≤ state.nextInterval interval cpu ∧
      state.nextInterval interval cpu ≤ max state.maxInterval 100 := by
  -- The three bounds are applied in turn, so the question is one about numbers.
  have order := paced.min_le_max
  simp only [UInt32.le_iff_toNat_le, toNat_maxWord, UInt32.reduceToNat,
    toNat_nextInterval paced.max_ne_zero] at order ⊢
  omega

end State

end PowerGovernor.Policy
