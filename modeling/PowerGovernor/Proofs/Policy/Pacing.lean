import PowerGovernor.Proofs.Policy.Interval

/-! What one poll does to the interval of a kept state: an adaptive one follows the load and nothing
else, and a fixed step leads on to the longest interval. -/

namespace PowerGovernor.Policy

namespace State

variable {state : State}

/-- The interval of a kept adaptive state in milliseconds, as numbers of any size give it. -/
def adaptiveMilliseconds (state : State) (load : BasisPoints) : Nat :=
  let part := state.maxInterval.toNat * load.idleShare / fullScale / 100 * 100
  let raised := max part state.minInterval.toNat
  let lowered := if state.maxInterval.toNat = 0 then raised else min raised state.maxInterval.toNat
  max lowered 100

/-- The interval of a kept adaptive state follows the load, whatever it was before. -/
theorem toNat_nextInterval_of_adaptive (adaptive : state.increment = .adaptive)
    (interval : UInt32) (load : BasisPoints) :
    (state.nextInterval interval (some load)).toNat = state.adaptiveMilliseconds load := by
  -- The increment forgets the interval and starts from the longest one.
  rw [nextInterval, toNat_maxWord, toNat_lowerInterval, toNat_raiseInterval, incrementedInterval,
    adaptive]
  simp only [toNat_floorToHundred, toNat_idlePart]
  rfl

/-- A busier CPU leads to no longer interval. -/
theorem adaptiveMilliseconds_antitone (state : State) {light heavy : BasisPoints}
    (busier : light ≤ heavy) :
    state.adaptiveMilliseconds heavy ≤ state.adaptiveMilliseconds light := by
  -- The busier CPU leaves the smaller idle share, and each rounding keeps that order.
  have share : heavy.idleShare ≤ light.idleShare := Nat.sub_le_sub_left busier _
  have part : state.maxInterval.toNat * heavy.idleShare / fullScale / 100 * 100 ≤
      state.maxInterval.toNat * light.idleShare / fullScale / 100 * 100 :=
    Nat.mul_le_mul_right _ (Nat.div_le_div_right (Nat.div_le_div_right
      (Nat.mul_le_mul_left _ share)))
  simp only [adaptiveMilliseconds]
  -- Limits keep the order of what they limit.
  split <;> omega

/-- A busier CPU is never polled more slowly.

The interval of a kept adaptive state is a number that only the load and the limits of the state
make up, in whatever order these stand, and it does not grow with the load. On the way to it the
product keeps all its digits in the double width, and the quotient keeps them in a single one. -/
theorem adaptive_follows_load (adaptive : state.increment = .adaptive) :
    (∀ before after {light heavy : BasisPoints}, light ≤ heavy →
        state.nextInterval after (some heavy) ≤ state.nextInterval before (some light)) ∧
      (∀ before after load, state.nextInterval before (some load) =
        state.nextInterval after (some load)) ∧
      (∀ interval load, (state.nextInterval interval (some load)).toNat =
        state.adaptiveMilliseconds load) ∧
      ∀ load : BasisPoints,
        let product := state.maxInterval.toUInt64 * load.idleShare.toUInt64
        let quotient := product / fullScale.toUInt64
        product.toNat = state.maxInterval.toNat * load.idleShare ∧
          quotient.toNat = state.maxInterval.toNat * load.idleShare / fullScale ∧
          quotient.toUInt32.toNat = quotient.toNat := by
  have worth := toNat_nextInterval_of_adaptive adaptive
  refine ⟨?_, ?_, worth, ?_⟩
  · -- Both intervals are what the loads alone say.
    intro before after light heavy busier
    rw [UInt32.le_iff_toNat_le, worth, worth]
    exact state.adaptiveMilliseconds_antitone busier
  · intro before after load
    rw [← UInt32.toNat_inj, worth, worth]
  · -- The quotient is no larger than the longest interval, which is a word.
    intro load product quotient
    have wide : quotient.toNat = state.maxInterval.toNat * load.idleShare / fullScale := by
      rw [UInt64.toNat_div, toNat_idleProduct]
      rfl
    exact ⟨toNat_idleProduct _ load, wide, (toNat_idlePart _ load).trans wide.symm⟩

/-- The longest interval that a word holds, below a shortest one that no load asks for: the interval
still follows the load. -/
theorem adaptive_follows_load_longest :
    let state := usableState 1 { name := "long", minInterval := 200, maxInterval := 4294967295 } none
    state.increment = .adaptive ∧
      state.nextInterval 700 (some (.clamp 1)) = 4294537700 ∧
      state.nextInterval 100 (some (.clamp 9999)) = 429400 ∧
      state.nextInterval 100 (some (.clamp 9999)) ≤ state.nextInterval 700 (some (.clamp 1)) := by
  intro state
  -- An almost idle CPU is less busy than an almost fully used one.
  have busier : BasisPoints.clamp 1 ≤ .clamp 9999 := by decide
  exact ⟨rfl, by decide, by decide, (adaptive_follows_load rfl).1 _ _ busier⟩

/-- A state whose interval grows by a fixed step, between limits that leave room above the floor. -/
structure RampsBy (state : State) (step : UInt32) : Prop where
  /-- The interval grows by the step. -/
  increment : state.increment = .fixed step
  /-- The shortest interval is no shorter than the floor. -/
  floor_le : 100 ≤ state.minInterval
  /-- The limits do not contradict each other. -/
  min_le_max : state.minInterval ≤ state.maxInterval

/-- The interval in milliseconds that a number of steps leads to from the shortest one. -/
def rampMilliseconds (state : State) (step : UInt32) (count : Nat) : Nat :=
  min state.maxInterval.toNat (state.minInterval.toNat + count * step.toNat)

/-- A state that ramps is entered with its shortest interval. -/
theorem RampsBy.firstInterval {step : UInt32} (ramps : state.RampsBy step) :
    state.firstInterval = state.minInterval := by
  have floor := ramps.floor_le
  rw [UInt32.le_iff_toNat_le] at floor
  -- An interval that is not zero is no missing one.
  refine if_pos (UInt32.lt_iff_toNat_lt.mpr ?_)
  simp only [UInt32.toNat_zero, UInt32.reduceToNat] at floor ⊢
  omega

/-- One more step leads from the interval after some steps to the next one, also where the sum would
not fit in a word. -/
theorem RampsBy.nextInterval {step : UInt32} (ramps : state.RampsBy step) {interval : UInt32}
    {count : Nat} (reached : interval.toNat = state.rampMilliseconds step count) (cpu : Reading) :
    (state.nextInterval interval cpu).toNat = state.rampMilliseconds step (count + 1) := by
  have floor := ramps.floor_le
  have order := ramps.min_le_max
  have word := state.maxInterval.toNat_lt
  simp only [UInt32.le_iff_toNat_le, UInt32.reduceToNat] at floor order
  -- The longest interval fits in a word, so a sum that does not is cut to it anyway.
  have sum : (saturatingAdd interval step).toNat = min (interval.toNat + step.toNat) maxWord32 :=
    UInt32.toNat_ofNat_of_lt' (by simp only [maxWord32, UInt32.size]; omega)
  have bounded : state.maxInterval ≠ 0 := by
    rw [ne_eq, word_eq_zero_iff]
    omega
  rw [toNat_nextInterval bounded]
  -- Cutting the sum twice is cutting it once, and the floor lies below both limits.
  simp only [incrementedInterval, ramps.increment, sum, reached, rampMilliseconds, Nat.succ_mul,
    maxWord32]
  omega

end State

end PowerGovernor.Policy
