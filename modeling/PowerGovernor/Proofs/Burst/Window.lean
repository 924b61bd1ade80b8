import PowerGovernor.Proofs.Burst.Run
import PowerGovernor.Proofs.Rounding.Grid

/-! The window of history stays within bounds as a whole number, so that rounding never decides
whether it has passed. -/

namespace PowerGovernor.Burst

/-- A whole number of seconds that a window of history can last, up to the one that it begins
with. -/
def IsWindow (window : Rat) : Prop :=
  ∃ seconds : Nat, window = seconds ∧ 15 ≤ seconds ∧ seconds ≤ 90

/-- A burst never lengthens the next window, and never takes more than half of the longest one. -/
theorem bias_bounds (rate : Nat) {window : Rat} (fits : IsWindow window) :
    0 ≤ bias rate window ∧ bias rate window ≤ (45 : Nat) := by
  obtain ⟨seconds, rfl, -, long⟩ := fits
  have product : ((100 - min rate 100 : Nat) : Rat) * seconds ≤ (9000 : Nat) := by
    have share : (100 - min rate 100) * seconds ≤ 100 * 90 := Nat.mul_le_mul (by omega) long
    exact_mod_cast share
  have nonnegative : (0 : Rat) ≤ ((100 - min rate 100 : Nat) : Rat) * seconds := by positivity
  unfold bias
  generalize ((100 - min rate 100 : Nat) : Rat) * seconds = share at product nonnegative ⊢
  -- Both roundings keep the bounds, since these are small integers.
  have above := roundSingle_le (by decide) nonnegative product
  have below : 0 ≤ roundSingle share / 200 := by
    have := roundSingle_nonneg nonnegative
    positivity
  have half : roundSingle share / 200 ≤ (45 : Nat) := by
    push_cast at above ⊢
    linarith
  exact ⟨roundSingle_nonneg below, roundSingle_le (by decide) below half⟩

namespace Tracker

variable {tracker : Tracker}

/-- The end of a burst sets the window by the strength of the burst and the window before. -/
theorem window_endBurst (tracker : Tracker) (now : Nat) (signals : Signals) :
    (tracker.endBurst now signals).1.window =
      60 - ((bias tracker.meanRate tracker.window).floor : Rat) := by
  rw [endBurst_eq]

/-- The end of a burst sets a window within the bounds. -/
theorem isWindow_endBurst (fits : IsWindow tracker.window) (now : Nat) (signals : Signals) :
    IsWindow (tracker.endBurst now signals).1.window := by
  obtain ⟨below, above⟩ := bias_bounds tracker.meanRate fits
  rw [window_endBurst]
  generalize bias tracker.meanRate tracker.window = shortened at below above
  have least : 0 ≤ shortened.floor := Rat.le_floor_iff.mpr (by exact_mod_cast below)
  have most : shortened.floor ≤ 45 := by
    have floor := (Rat.floor_le shortened).trans above
    exact_mod_cast floor
  -- The difference of whole numbers is a whole number again.
  refine ⟨(60 - shortened.floor).toNat, ?_, by omega, by omega⟩
  have whole : (((60 - shortened.floor).toNat : Int) : Rat) = ((60 - shortened.floor : Int) : Rat) :=
    congrArg _ (by omega)
  rw [← Int.cast_natCast, whole]
  push_cast
  rfl

/-- A report leaves the window within the bounds. -/
theorem isWindow_observe (fits : IsWindow tracker.window) (activity : Activity) :
    IsWindow (tracker.observe activity).window := by
  by_cases lasts : (tracker.observe activity).inBurst = true
  · rwa [window_observe lasts]
  · unfold observe at lasts ⊢
    cases kind : activity.kind with
    | spike =>
      -- There is a burst after every spike.
      simp [kind, inBurst_addSpike] at lasts
    | quiet =>
      dsimp only
      by_cases ends : tracker.endsBurst activity.duration = true
      · have cooled : IsWindow (tracker.cool activity.duration).window := fits
        rw [addQuiet_of_ends ends]
        exact isWindow_endBurst cooled _ _
      · rwa [window_addQuiet ends]

/-- The history is found older than its window exactly if more time than that has passed since its
anchor. -/
theorem one_lt_elapsedWindows_iff (fits : IsWindow tracker.window) (anchor now : Nat) :
    1 < tracker.elapsedWindows anchor now ↔ tracker.window < ((now - anchor : Nat) : Rat) := by
  obtain ⟨seconds, same, short, long⟩ := fits
  have positive : (0 : Rat) < seconds := by exact_mod_cast (by omega : 0 < seconds)
  unfold elapsedWindows
  rw [same]
  generalize now - anchor = passed
  constructor
  · -- Up to the whole window, the elapsed time is exact and the quotient at most one.
    intro older
    by_contra young
    have within : (passed : Rat) ≤ seconds := not_lt.mp young
    have time : roundSingle passed ≤ seconds :=
      roundSingle_le (by omega) (Nat.cast_nonneg _) within
    have quotient : roundSingle passed / seconds ≤ 1 := (div_le_one positive).mpr time
    have nonnegative : 0 ≤ roundSingle passed / seconds :=
      div_nonneg (roundSingle_nonneg (Nat.cast_nonneg _)) positive.le
    have rounded : roundSingle (roundSingle passed / seconds) ≤ (1 : Nat) :=
      roundSingle_le (by decide) nonnegative (by rwa [Nat.cast_one])
    rw [Nat.cast_one] at rounded
    exact absurd older (not_lt.mpr rounded)
  · -- A second more makes the quotient larger than one by more than the precision.
    intro older
    have next : ((seconds + 1 : Nat) : Rat) ≤ passed := by exact_mod_cast older
    have time : ((seconds + 1 : Nat) : Rat) ≤ roundSingle passed :=
      le_roundSingle (by omega) (Nat.cast_nonneg _) next
    refine one_lt_roundSingle ((le_div_iff₀ positive).mpr ?_)
    have small : (seconds : Rat) ≤ 90 := by exact_mod_cast long
    push_cast at time
    linarith

/-- The rate over some windows of history is never above the count. -/
theorem rateOver_le {count : Nat} (small : count ≤ maxCount) (windows : Rat) :
    rateOver count windows ≤ count := by
  unfold rateOver
  split_ifs with young
  · exact le_rfl
  · have old : 1 ≤ windows := not_lt.mp young
    have nonnegative : (0 : Rat) ≤ (count : Rat) / windows := by positivity
    have quotient : (count : Rat) / windows ≤ count := div_le_self (Nat.cast_nonneg _) old
    unfold maxCount at small
    have rounded := roundSingle_le (by omega) nonnegative quotient
    -- The floor of what is at most the count is at most the count.
    have floor := (Rat.floor_le _).trans rounded
    have whole : (roundSingle ((count : Rat) / windows)).floor ≤ (count : Int) := by
      exact_mod_cast floor
    omega

end Tracker

end PowerGovernor.Burst
