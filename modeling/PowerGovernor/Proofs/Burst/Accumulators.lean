import Mathlib.Algebra.Group.Action.Defs
import Mathlib.Algebra.Order.BigOperators.Group.List
import Mathlib.Algebra.Order.Group.Nat
import Mathlib.Data.List.Induction
import PowerGovernor.Proofs.Burst.Minutes

/-! The number and the sum of the spike rates of a burst, as far as words can hold them. -/

namespace PowerGovernor.Burst

/-- Whether a use of a tracker reports a spike. -/
def Use.isSpike : Use → Bool
  | .report activity => activity.kind == .spike
  | .register _ | .ask _ | .confirm _ => false

/-- There is room for the number and the sum of some rates in words. -/
def Fits (rates : List Nat) : Prop :=
  rates.length < UInt32.size ∧ rates.sum < UInt32.size

instance (rates : List Nat) : Decidable (Fits rates) :=
  inferInstanceAs (Decidable (_ ∧ _))

namespace Tracker

/-- The uses of a run in order, each with the tracker that it leaves. -/
def visited (tracker : Tracker) : List Use → List (Use × Tracker)
  | [] => []
  | use :: rest => (use, tracker.next use) :: (tracker.next use).visited rest

/-- The rates of the burst that is going on at the end of a run, one after each of its spikes, from
the last to the first. -/
def burstRates (visited : List (Use × Tracker)) : List Nat :=
  -- Seen from the end, the burst reaches back to the first use that has left none.
  let inside := visited.reverse.takeWhile fun visit => visit.2.inBurst
  (inside.filter fun visit => visit.1.isSpike).map fun visit => visit.2.spikeRate

/-- The accumulators of a tracker follow the rates of the burst that is going on, as far as words
can: they are clear outside of a burst, and never empty inside. -/
structure Accumulates (tracker : Tracker) (rates : List Nat) : Prop where
  /-- There is a burst exactly if there are rates of it. -/
  inBurst_iff : tracker.inBurst = true ↔ rates ≠ []
  /-- The number of rates is kept as a word. -/
  rateCount : tracker.rateCount = UInt32.ofNat rates.length
  /-- The sum of the rates is kept as a word. -/
  rateSum : tracker.rateSum = UInt32.ofNat rates.sum
  /-- Each rate is a percentage. -/
  rate_le : ∀ rate ∈ rates, rate ≤ 100

/-- The accumulators hold the number and the sum of some rates, and give their mean. -/
structure Exact (tracker : Tracker) (rates : List Nat) : Prop where
  /-- The number of rates has not overflowed. -/
  count : tracker.rateCount.toNat = rates.length
  /-- The sum of the rates has not overflowed. -/
  sum : tracker.rateSum.toNat = rates.sum
  /-- The mean is the one of the rates, rounded down. -/
  mean : tracker.meanRate = rates.sum / rates.length

variable {tracker : Tracker} {rates : List Nat}

/-- A run visits what a shorter one visits, and then the tracker after the last use. -/
theorem visited_concat (uses : List Use) (use : Use) :
    ∀ tracker : Tracker, tracker.visited (uses ++ [use]) =
      tracker.visited uses ++ [(use, (tracker.afterAll uses).next use)] := by
  -- The last use is met by the tracker that the others left.
  induction uses with
  | nil => exact fun tracker => rfl
  | cons first rest ih =>
    intro tracker
    rw [List.cons_append, visited, ih, visited, List.cons_append]
    rfl

/-- A use that leaves a burst adds its rate if it is a spike, and one that leaves none forgets all
rates. -/
theorem burstRates_concat (past : List (Use × Tracker)) (use : Use) (left : Tracker) :
    burstRates (past ++ [(use, left)]) =
      if left.inBurst then
        if use.isSpike then left.spikeRate :: burstRates past else burstRates past
      else [] := by
  -- Seen from the end, the new visit comes first.
  unfold burstRates
  rw [List.reverse_concat', List.takeWhile_cons]
  cases left.inBurst with
  | false => rfl
  | true => cases spike : use.isSpike <;> simp [spike]

/-- Each use is one visit. -/
theorem length_visited (uses : List Use) (tracker : Tracker) :
    (tracker.visited uses).length = uses.length := by
  -- The tracker changes from one use to the next, so the induction is over all trackers.
  induction uses generalizing tracker with
  | nil => rfl
  | cons use rest ih => exact congrArg Nat.succ (ih (tracker.next use))

/-- A burst has no more rates than there have been uses. -/
theorem length_burstRates_le (uses : List Use) (tracker : Tracker) :
    (burstRates (tracker.visited uses)).length ≤ uses.length := by
  -- The rates are those of some of the visits.
  unfold burstRates
  rw [List.length_map, ← length_visited uses tracker]
  have inside := (List.takeWhile_sublist (l := (tracker.visited uses).reverse)
    fun visit => visit.2.inBurst).length_le
  rw [List.length_reverse] at inside
  exact (List.length_filter_le ..).trans inside

/-- A new tracker has no rates. -/
theorem accumulates_new : new.Accumulates [] :=
  ⟨by simp [new], rfl, rfl, by simp⟩

/-- There are rates in a burst only. -/
theorem Accumulates.ite_eq (follows : tracker.Accumulates rates) :
    (if tracker.inBurst then rates else []) = rates := by
  -- Outside of a burst the list of rates is empty anyway.
  by_cases bursting : tracker.inBurst = true
  · rw [if_pos bursting]
  · rw [if_neg bursting]
    exact (not_not.mp (mt follows.inBurst_iff.mpr bursting)).symm

/-- What touches neither the burst nor the accumulators keeps the rates. -/
theorem Accumulates.keep (follows : tracker.Accumulates rates) {other : Tracker}
    (inBurst : other.inBurst = tracker.inBurst) (count : other.rateCount = tracker.rateCount)
    (sum : other.rateSum = tracker.rateSum) :
    other.Accumulates (if other.inBurst then rates else []) := by
  -- Nothing that the invariant mentions has changed.
  rw [inBurst, follows.ite_eq]
  exact ⟨by rw [inBurst]; exact follows.inBurst_iff, count.trans follows.rateCount,
    sum.trans follows.rateSum, follows.rate_le⟩

/-- A spike adds its rate. -/
theorem Accumulates.addSpike (follows : tracker.Accumulates rates) (now duration : Nat)
    (signals : Signals) :
    (tracker.addSpike now duration signals).Accumulates
      ((tracker.addSpike now duration signals).spikeRate :: rates) := by
  -- Of a spike only its equation is needed, with the word sums of its rate.
  have added := addSpike_eq tracker now duration signals
  constructor
  · simp [inBurst_addSpike]
  · -- The number grows by one, in the word as in the list.
    rw [added, List.length_cons, UInt32.ofNat_add, ← follows.rateCount]
    rfl
  · -- The sum grows by the rate, modulo the range of a word on both sides.
    rw [List.sum_cons, UInt32.ofNat_add, ← follows.rateSum, UInt32.add_comm, added]
    rfl
  · exact List.forall_mem_cons.mpr ⟨Nat.min_le_right _ _, follows.rate_le⟩

/-- A quiet time keeps the rates, unless it ends the burst. -/
theorem Accumulates.addQuiet (follows : tracker.Accumulates rates) (now duration : Nat)
    (signals : Signals) :
    (tracker.addQuiet now duration signals).1.Accumulates
      (if (tracker.addQuiet now duration signals).1.inBurst then rates else []) := by
  have cooled := addQuiet_eq tracker now duration signals
  have bursting := inBurst_addQuiet tracker now duration signals
  by_cases ends : tracker.endsBurst duration = true
  · -- The end of the burst clears the accumulators.
    rw [ends, Bool.not_true, Bool.and_false] at bursting
    rw [if_pos ends, if_pos ends] at cooled
    rw [bursting, if_neg Bool.false_ne_true]
    exact ⟨by simp [bursting], by rw [cooled]; rfl, by rw [cooled]; rfl, by simp⟩
  · rw [Bool.eq_false_iff.mpr ends, Bool.not_false, Bool.and_true] at bursting
    rw [if_neg ends, if_neg ends] at cooled
    exact follows.keep bursting (by rw [cooled]) (by rw [cooled])

/-- The accumulators follow the rates through any use of the tracker. -/
theorem Accumulates.next (follows : tracker.Accumulates rates) (use : Use) :
    (tracker.next use).Accumulates
      (if (tracker.next use).inBurst then
        if use.isSpike then (tracker.next use).spikeRate :: rates else rates
      else []) := by
  cases use with
  | report activity =>
    obtain ⟨kind, now, duration, signals⟩ := activity
    cases kind with
    | spike =>
      -- There is a burst after every spike, so its rate is one of the burst's.
      have added := follows.addSpike now duration signals
      have bursting := inBurst_addSpike tracker now duration signals
      show Accumulates _ (if (tracker.addSpike now duration signals).inBurst then _ else _)
      rw [if_pos bursting]
      exact added
    | quiet => exact follows.addQuiet now duration signals
  | register occurrence =>
    -- A registration only writes the history.
    have same := register_eq tracker occurrence.now occurrence.real occurrence.signals
    exact follows.keep (inBurst_register _ _ _ _) (by rw [Tracker.next, same])
      (by rw [Tracker.next, same])
  | ask initialRate => exact follows.keep rfl rfl rfl
  | confirm limit => exact follows.keep rfl rfl rfl

/-- Over any run the accumulators follow the rates of the burst that is going on. -/
theorem accumulates_afterAll (uses : List Use) :
    (new.afterAll uses).Accumulates (burstRates (new.visited uses)) := by
  -- The induction takes the uses from the end, where the burst that is going on is found.
  induction uses using List.reverseRecOn with
  | nil => exact accumulates_new
  | append_singleton uses use ih =>
    rw [afterAll_concat, visited_concat, burstRates_concat]
    exact ih.next use

/-- The number of rates is known up to the range of a word. -/
theorem Accumulates.toNat_rateCount (follows : tracker.Accumulates rates) :
    tracker.rateCount.toNat = rates.length % UInt32.size := by
  -- A word stands for the remainder of the number that it was made of.
  rw [follows.rateCount]
  rfl

/-- The sum of the rates is known up to the range of a word. -/
theorem Accumulates.toNat_rateSum (follows : tracker.Accumulates rates) :
    tracker.rateSum.toNat = rates.sum % UInt32.size := by
  -- The same remainder is left of the sum.
  rw [follows.rateSum]
  rfl

/-- The mean is the one of the accumulators, where nothing by nothing is nothing. -/
theorem Accumulates.meanRate_eq (follows : tracker.Accumulates rates) :
    tracker.meanRate = rates.sum % UInt32.size / (rates.length % UInt32.size) := by
  rw [← follows.toNat_rateCount, ← follows.toNat_rateSum, meanRate]
  split
  · -- An empty count is never divided by, and the quotient of numbers is nothing then.
    rename_i empty
    rw [empty, UInt32.toNat_zero, Nat.div_zero]
  · exact UInt32.toNat_div _ _

/-- The accumulators are exact if and only if there has been room for all rates. -/
theorem Accumulates.exact_iff (follows : tracker.Accumulates rates) :
    tracker.Exact rates ↔ Fits rates := by
  constructor
  · rintro ⟨count, sum, -⟩
    -- What a word holds is below its range.
    exact ⟨count ▸ tracker.rateCount.toNat_lt_size, sum ▸ tracker.rateSum.toNat_lt_size⟩
  · -- A number below the range is its own remainder.
    rintro ⟨few, small⟩
    refine ⟨?_, ?_, ?_⟩
    · rw [follows.toNat_rateCount, Nat.mod_eq_of_lt few]
    · rw [follows.toNat_rateSum, Nat.mod_eq_of_lt small]
    · rw [follows.meanRate_eq, Nat.mod_eq_of_lt few, Nat.mod_eq_of_lt small]

/-- The rates of a burst add up to a hundred times their number at most. -/
theorem Accumulates.sum_le (follows : tracker.Accumulates rates) :
    rates.sum ≤ 100 * rates.length := by
  -- No rate is above a hundred.
  have bound := List.sum_le_card_nsmul rates 100 follows.rate_le
  rwa [smul_eq_mul, Nat.mul_comm] at bound

/-- There is room for the rates of up to 42949672 spikes. -/
theorem Accumulates.fits_of_length_le (follows : tracker.Accumulates rates)
    (few : rates.length ≤ 42949672) : Fits rates := by
  -- A hundred times as much is still below the range of a word.
  have bound := follows.sum_le
  constructor
  · simp only [UInt32.size]
    omega
  · simp only [UInt32.size]
    omega

end Tracker

end PowerGovernor.Burst
