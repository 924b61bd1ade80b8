import PowerGovernor.Proofs.Burst.Accumulators

/-! Where additions are checked, the mean spike rate of a burst is right or there is none: the
program stops at the first rate that has no room. Where they are not checked it goes on with a mean
that is too small. -/

namespace PowerGovernor.Burst

/-- A spike that heats any tracker up to its limit. -/
def fullSpike : Use := .report ⟨.spike, 0, maxSpikeTime, ⟨false, false⟩⟩

/-- A quiet time that cools any tracker down. -/
def longRest : Use := .report ⟨.quiet, 0, maxSpikeTime, ⟨false, false⟩⟩

namespace Tracker

/-- The tracker after a use of it where additions are checked, which matters to spikes only. -/
def next? (tracker : Tracker) : Use → Except Overflow Tracker
  | .report ⟨.spike, now, duration, signals⟩ => tracker.addSpike? now duration signals
  | use => .ok (tracker.next use)

/-- The tracker after one use after another where additions are checked, unless one of them stops
the program. -/
def afterAll? (tracker : Tracker) (uses : List Use) : Except Overflow Tracker :=
  uses.foldlM next? tracker

variable {tracker : Tracker} {rates : List Nat}

section Checked

/-- A run ends with its last use, if it comes as far. -/
theorem afterAll?_concat (tracker : Tracker) (uses : List Use) (use : Use) :
    tracker.afterAll? (uses ++ [use]) = tracker.afterAll? uses >>= fun last => last.next? use := by
  -- A single use is a run of its own, which ends where the use does.
  rw [afterAll?, List.foldlM_append]
  exact bind_congr fun last => bind_pure (last.next? use)

/-- A spike is added where additions are checked as it is where they are not, as long as there is
room for its rate; otherwise the program stops, and it is told which word is too small. -/
theorem Accumulates.addSpike?_eq (follows : tracker.Accumulates rates) (fits : Fits rates)
    (now duration : Nat) (signals : Signals) :
    tracker.addSpike? now duration signals =
      let added := tracker.addSpike now duration signals
      if UInt32.size ≤ (added.spikeRate :: rates).sum then .error .rateSum
      else if UInt32.size ≤ (added.spikeRate :: rates).length then .error .rateCount
      else .ok added := by
  obtain ⟨count, sum, -⟩ := follows.exact_iff.mpr fits
  -- A spike that is noticed leaves the two words alone until its rate is added.
  have noticed := noticeSpike_eq tracker now duration signals
  have sumSame : (tracker.noticeSpike now duration signals).rateSum.toNat = rates.sum := by
    rw [noticed]
    exact sum
  have countSame : (tracker.noticeSpike now duration signals).rateCount.toNat = rates.length := by
    rw [noticed]
    exact count
  have limit (number : Nat) : maxWord32 < number ↔ UInt32.size ≤ number := Iff.rfl
  simp only [addSpike?, recordRate?, sumSame, countSame, limit]
  rw [List.sum_cons, List.length_cons, Nat.add_comm rates.sum]
  rfl

/-- Where additions are checked, a spike is added exactly if there is room for its rate. -/
theorem Accumulates.addSpike?_eq_ok_iff (follows : tracker.Accumulates rates) (fits : Fits rates)
    (now duration : Nat) (signals : Signals) (next : Tracker) :
    tracker.addSpike? now duration signals = .ok next ↔
      next = tracker.addSpike now duration signals ∧
        Fits ((tracker.addSpike now duration signals).spikeRate :: rates) := by
  -- The two checks are the two parts of having room.
  rw [follows.addSpike?_eq fits, Fits]
  dsimp only
  split_ifs with sum count
  · exact iff_of_false nofun fun ⟨_, _, room⟩ => absurd sum (not_le.mpr room)
  · exact iff_of_false nofun fun ⟨_, room, _⟩ => absurd count (not_le.mpr room)
  · rw [Except.ok.injEq, eq_comm]
    exact (and_iff_left ⟨not_le.mp count, not_le.mp sum⟩).symm

/-- Nothing is checked in a use that is no spike. -/
theorem next?_of_not_isSpike (tracker : Tracker) {use : Use} (rests : ¬ use.isSpike = true) :
    tracker.next? use = .ok (tracker.next use) := by
  cases use with
  | report activity =>
    obtain ⟨kind, now, duration, signals⟩ := activity
    cases kind with
    | spike => exact absurd rfl rests
    | quiet => rfl
  -- Only a report can be of a spike.
  | register occurrence => rfl
  | ask initialRate => rfl
  | confirm limit => rfl

/-- Where additions are checked, a use has the outcome that it has where they are not, if there is
room for all rates then, and none otherwise. -/
theorem Accumulates.next?_eq_ok_iff (follows : tracker.Accumulates rates) (fits : Fits rates)
    (use : Use) (next : Tracker) :
    tracker.next? use = .ok next ↔ next = tracker.next use ∧
      Fits (if (tracker.next use).inBurst then
        if use.isSpike then (tracker.next use).spikeRate :: rates else rates
      else []) := by
  by_cases spike : use.isSpike = true
  · -- Only the rate of a spike can be one too many.
    cases use with
    | report activity =>
      obtain ⟨kind, now, duration, signals⟩ := activity
      cases kind with
      | spike =>
        have bursting := inBurst_addSpike tracker now duration signals
        show tracker.addSpike? now duration signals = .ok next ↔
          next = tracker.addSpike now duration signals ∧
            Fits (if (tracker.addSpike now duration signals).inBurst then
              (tracker.addSpike now duration signals).spikeRate :: rates else [])
        rw [if_pos bursting]
        exact follows.addSpike?_eq_ok_iff fits now duration signals next
      | quiet => cases spike
    | register occurrence => cases spike
    | ask initialRate => cases spike
    | confirm limit => cases spike
  · -- Any other use keeps the rates or forgets them all.
    have room : Fits (if (tracker.next use).inBurst then rates else []) := by
      split
      · exact fits
      · decide
    rw [if_neg spike, next?_of_not_isSpike tracker spike, Except.ok.injEq, eq_comm]
    exact (and_iff_left room).symm

/-- What holds after every part of a run held before its last use and holds after it. -/
theorem forall_prefix_concat {holds : List Use → Prop} {uses : List Use} {use : Use} :
    (∀ past, past <+: uses ++ [use] → holds past) ↔
      (∀ past, past <+: uses → holds past) ∧ holds (uses ++ [use]) := by
  -- The parts of the run are those of the uses before the last one, and the whole run.
  simp only [List.prefix_concat_iff]
  constructor
  · exact fun all => ⟨fun past start => all past (.inr start), all _ (.inl rfl)⟩
  · rintro ⟨before, whole⟩ past (rfl | start)
    · exact whole
    · exact before past start

/-- A run comes past a use if it comes as far and the use does not stop it. -/
theorem bind_eq_ok_iff {run : Except Overflow Tracker} {go : Tracker → Except Overflow Tracker}
    {last : Tracker} : run >>= go = .ok last ↔ ∃ middle, run = .ok middle ∧ go middle = .ok last := by
  -- A run that has been stopped does not go on.
  cases run <;> simp [bind, Except.bind]

/-- Where additions are checked, a run comes to its end if and only if there has been room for the
rates of every burst at all times, and ends as it does where they are not checked. -/
theorem afterAll?_eq_ok_iff (uses : List Use) :
    ∀ last : Tracker, new.afterAll? uses = .ok last ↔ last = new.afterAll uses ∧
      ∀ past, past <+: uses → Fits (burstRates (new.visited past)) := by
  -- The last use is checked against the rates that all the others have left.
  induction uses using List.reverseRecOn with
  | nil =>
    intro last
    have empty : ∀ past : List Use, past <+: [] → Fits (burstRates (new.visited past)) := by
      intro past start
      rw [List.prefix_nil.mp start]
      decide
    rw [and_iff_left empty]
    show Except.ok new = Except.ok last ↔ last = new
    rw [Except.ok.injEq, eq_comm]
  | append_singleton uses use ih =>
    intro last
    have checked (room : ∀ past, past <+: uses → Fits (burstRates (new.visited past))) :=
      (accumulates_afterAll uses).next?_eq_ok_iff (room uses List.prefix_rfl) use last
    rw [afterAll?_concat, bind_eq_ok_iff, forall_prefix_concat, afterAll_concat, visited_concat,
      burstRates_concat]
    constructor
    · rintro ⟨middle, reached, ended⟩
      obtain ⟨rfl, room⟩ := (ih middle).mp reached
      obtain ⟨same, fits⟩ := (checked room).mp ended
      exact ⟨same, room, fits⟩
    · rintro ⟨same, room, fits⟩
      exact ⟨_, (ih _).mpr ⟨rfl, room⟩, (checked room).mpr ⟨same, fits⟩⟩

end Checked

/-- A sum that has overflowed makes the mean too small. -/
theorem mean_lt_of_overflow {sum count : Nat} (positive : 0 < count) (few : count < UInt32.size)
    (overflows : UInt32.size ≤ sum) : sum % UInt32.size / count < sum / count := by
  -- At least one whole range is missing from the sum, which is more than the number of rates.
  have room : sum % UInt32.size + count ≤ sum := by
    simp only [UInt32.size] at few overflows ⊢
    omega
  calc sum % UInt32.size / count
      < sum % UInt32.size / count + 1 := Nat.lt_succ_self _
    _ = (sum % UInt32.size + count) / count := (Nat.add_div_right _ positive).symm
    _ ≤ sum / count := Nat.div_le_div_right room

/-- The burst of a number of spikes that heat up to the limit has that number of full rates, and
ends with a long rest. -/
theorem burst_of_fullSpikes (number : Nat) :
    let tracker := new.afterAll (List.replicate number fullSpike)
    tracker.window = 90 ∧ (0 < number → tracker.endsOn longRest = true) ∧
      burstRates (new.visited (List.replicate number fullSpike)) = List.replicate number 100 := by
  -- Each spike finds the burst of the spikes before it, and adds its rate to theirs.
  induction number with
  | zero => exact ⟨rfl, fun positive => absurd positive (Nat.lt_irrefl 0), rfl⟩
  | succ number ih =>
    obtain ⟨window, -, rates⟩ := ih
    rw [List.replicate_succ' (a := fullSpike), afterAll_concat, visited_concat, burstRates_concat,
      rates]
    generalize new.afterAll (List.replicate number fullSpike) = tracker at window
    -- Whatever has been there before, the spike time is at its limit now.
    have heated : (tracker.next fullSpike).spikeTime = maxSpikeTime :=
      (spikeTime_addSpike tracker _ _ _).trans (Nat.min_eq_right (Nat.le_add_left _ _))
    have bursting : (tracker.next fullSpike).inBurst = true := inBurst_addSpike tracker _ _ _
    refine ⟨(window_observe bursting).trans window, fun _ => ?_, ?_⟩
    · refine (endsOn_report_iff _).mpr ⟨rfl, ?_⟩
      simp [endsBurst, bursting, cool, spikeRate, heated]
    · have full : (tracker.next fullSpike).spikeRate = 100 := by
        rw [spikeRate, heated]
        rfl
      rw [if_pos bursting, full]
      rfl

/-- There is room for the rates of such a burst unless it is too long. -/
theorem fits_fullSpikes {number : Nat} (few : number ≤ 42949672) :
    Fits (burstRates (new.visited (List.replicate number fullSpike))) := by
  -- The bound is on the number of rates, which is that of the spikes.
  refine (accumulates_afterAll _).fits_of_length_le ?_
  rw [(burst_of_fullSpikes number).2.2, List.length_replicate]
  exact few

/-- Where additions are checked, such a burst goes on as long as there is room for its rates. -/
theorem afterAll?_fullSpikes {number : Nat} (few : number ≤ 42949672) :
    new.afterAll? (List.replicate number fullSpike) =
      .ok (new.afterAll (List.replicate number fullSpike)) := by
  refine (afterAll?_eq_ok_iff _ _).mpr ⟨rfl, fun past start => ?_⟩
  -- What comes before the end of such a burst is a shorter one.
  obtain ⟨fewer, spikes⟩ := List.prefix_replicate_iff.mp start
  rw [spikes]
  exact fits_fullSpikes (fewer.trans few)

/-- Where additions are checked, one spike more stops the program if its rate is too much for the
sum. -/
theorem afterAll?_fullSpikes_stopped {number : Nat} (few : number ≤ 42949672)
    (overflows : UInt32.size ≤ (number + 1) * 100) :
    new.afterAll? (List.replicate (number + 1) fullSpike) = .error .rateSum := by
  -- The spikes before the last one have left room for their rates, and the last one has none.
  have follows := accumulates_afterAll (List.replicate number fullSpike)
  have bursting := inBurst_addSpike (new.afterAll (List.replicate number fullSpike)) 0 maxSpikeTime
    ⟨false, false⟩
  -- The rates with the last one are those of the longer burst.
  have full := (burst_of_fullSpikes (number + 1)).2.2
  rw [List.replicate_succ' (a := fullSpike), visited_concat, burstRates_concat] at full
  have sum := congrArg List.sum ((if_pos bursting).symm.trans full)
  rw [List.sum_replicate, smul_eq_mul] at sum
  rw [List.replicate_succ' (a := fullSpike), afterAll?_concat, afterAll?_fullSpikes few]
  have outcome := follows.addSpike?_eq (fits_fullSpikes few) 0 maxSpikeTime ⟨false, false⟩
  exact outcome.trans (if_pos (sum ▸ overflows))

/-- Where additions are not checked, the end of such a burst sets the window by what is left of the
sum of its rates. -/
theorem window_after_fullSpikes {number : Nat} (positive : 0 < number) :
    let tracker := new.afterAll (List.replicate number fullSpike)
    tracker.meanRate = number * 100 % UInt32.size / (number % UInt32.size) ∧
      (tracker.next longRest).window = (shortened 90 tracker.meanRate : Nat) := by
  intro tracker
  have follows : tracker.Accumulates _ := accumulates_afterAll _
  obtain ⟨window, ends, full⟩ := burst_of_fullSpikes number
  constructor
  · rw [follows.meanRate_eq, full, List.length_replicate, List.sum_replicate, smul_eq_mul]
  · -- The window has not been changed since the tracker was new.
    have whole : tracker.window = (90 : Nat) := window
    rw [window_next whole (by decide), if_pos (ends positive)]

/-- The mean rate of a burst is right, or there is none.

Where additions are checked, a run of a new tracker comes to its end if and only if there has been
room for the number and the sum of the rates of every burst at all times, for which it is enough
that no burst has had more than 42949672 spikes. The tracker then holds both of them exactly, none
outside of a burst and at least one rate inside, and their mean, a percentage, sets the window when
the burst ends.

Where additions are not checked, the tracker holds both modulo `2 ^ 32`. If the sum has overflowed
and the number has not, the mean that sets the window is too small. -/
theorem mean_exact_or_stopped (uses : List Use) :
    let rates := burstRates (new.visited uses)
    ((∃ tracker, new.afterAll? uses = .ok tracker) ↔
      ∀ past, past <+: uses → Fits (burstRates (new.visited past))) ∧
    ((∀ past, past <+: uses → (burstRates (new.visited past)).length ≤ 42949672) →
      ∃ tracker, new.afterAll? uses = .ok tracker) ∧
    (∀ tracker, new.afterAll? uses = .ok tracker →
      tracker = new.afterAll uses ∧ (tracker.inBurst = true ↔ rates ≠ []) ∧ tracker.Exact rates ∧
      ∀ use, tracker.endsOn use = true →
        1 ≤ rates.length ∧ rates.sum / rates.length ≤ 100 ∧
        ∃ next, tracker.next? use = .ok next ∧
          next.window = 60 - ((bias (rates.sum / rates.length) tracker.window).floor : Rat)) ∧
    let tracker := new.afterAll uses
    (tracker.rateCount.toNat = rates.length % UInt32.size ∧
      tracker.rateSum.toNat = rates.sum % UInt32.size) ∧
    ∀ use, tracker.endsOn use = true →
      (tracker.next use).window = 60 - ((bias tracker.meanRate tracker.window).floor : Rat) ∧
      (rates.length < UInt32.size → UInt32.size ≤ rates.sum →
        tracker.meanRate < rates.sum / rates.length) := by
  intro rates
  have follows : (new.afterAll uses).Accumulates rates := accumulates_afterAll uses
  have comes : (∃ tracker, new.afterAll? uses = .ok tracker) ↔
      ∀ past, past <+: uses → Fits (burstRates (new.visited past)) := by
    simp only [afterAll?_eq_ok_iff, exists_eq_left]
  -- Only a burst that is going on can be ended, so there are rates when one is.
  have positive (use : Use) (ends : (new.afterAll uses).endsOn use = true) : 0 < rates.length :=
    List.length_pos_iff.mpr (follows.inBurst_iff.mp (Bool.and_eq_true_iff.mp ends).1)
  have window (use : Use) (ends : (new.afterAll uses).endsOn use = true) :
      ((new.afterAll uses).next use).window =
        60 - ((bias (new.afterAll uses).meanRate (new.afterAll uses).window).floor : Rat) := by
    obtain ⟨activity, ended⟩ := exists_endBurst_of_endsOn ends
    rw [ended, window_endBurst]
    rfl
  refine ⟨comes, fun few => ?_, fun tracker ended => ?_, ?_, fun use ends => ⟨window use ends, ?_⟩⟩
  · exact comes.mpr fun past start => (accumulates_afterAll past).fits_of_length_le (few past start)
  · obtain ⟨rfl, room⟩ := (afterAll?_eq_ok_iff uses tracker).mp ended
    have fits : Fits rates := room uses List.prefix_rfl
    have exact := follows.exact_iff.mpr fits
    refine ⟨rfl, follows.inBurst_iff, exact, fun use ends => ⟨positive use ends, ?_, ?_⟩⟩
    · have percent := follows.sum_le
      exact Nat.div_le_of_le_mul (by rwa [Nat.mul_comm])
    · -- What ends a burst adds nothing, so there is nothing to check.
      refine ⟨_, (follows.next?_eq_ok_iff fits use _).mpr ⟨rfl, ?_⟩, ?_⟩
      · have ceased := (Bool.and_eq_true_iff.mp ends).2
        rw [Bool.not_eq_true'] at ceased
        rw [ceased, if_neg Bool.false_ne_true]
        decide
      · rw [window use ends, exact.mean]
  · exact ⟨follows.toNat_rateCount, follows.toNat_rateSum⟩
  · intro few overflows
    rw [follows.meanRate_eq, Nat.mod_eq_of_lt few]
    exact mean_lt_of_overflow (positive use ends) few overflows

/-- Two spikes with a pause between them have the rates fifty and forty-three, and their mean of
forty-six shortens the window to thirty-six minutes; of the fewest full spikes whose rates overflow
the mean comes out too small where additions are not checked. -/
theorem mean_exact_or_stopped_spikes :
    let spike (duration : Nat) : Use := .report ⟨.spike, 0, duration, ⟨false, false⟩⟩
    let pause : Use := .report ⟨.quiet, 0, 100, ⟨false, false⟩⟩
    let uses := [spike 500, pause, .confirm 3, spike 30]
    (∃ tracker next, new.afterAll? uses = .ok tracker ∧ tracker.Exact [43, 50] ∧
      tracker.next? longRest = .ok next ∧ next.window = 36) ∧
      (new.afterAll (List.replicate 42949673 fullSpike)).meanRate < 100 := by
  intro spike pause uses
  constructor
  · obtain ⟨-, comes, checked, -⟩ := mean_exact_or_stopped uses
    have short : ∀ past, past <+: uses → (burstRates (new.visited past)).length ≤ 42949672 :=
      fun past start => (length_burstRates_le past new).trans (start.length_le.trans (by decide))
    obtain ⟨tracker, ended⟩ := comes short
    obtain ⟨same, -, exact, ends⟩ := checked tracker ended
    have rates : burstRates (new.visited uses) = [43, 50] := by decide +kernel
    have rested : (new.afterAll uses).endsOn longRest = true := by decide +kernel
    obtain ⟨-, -, next, goesOn, window⟩ := ends longRest (same ▸ rested)
    refine ⟨tracker, next, ended, rates ▸ exact, goesOn, window.trans ?_⟩
    rw [same, rates]
    decide +kernel
  · -- No run of millions of spikes is ever written out.
    have long (number : Nat) (few : number < UInt32.size) (many : UInt32.size ≤ number * 100) :
        (new.afterAll (List.replicate number fullSpike)).meanRate < 100 := by
      have positive : 0 < number := by
        simp only [UInt32.size] at many
        omega
      obtain ⟨-, ends, full⟩ := burst_of_fullSpikes number
      obtain ⟨-, -, -, -, unchecked⟩ := mean_exact_or_stopped (List.replicate number fullSpike)
      have less := (unchecked longRest (ends positive)).2
      rw [full, List.length_replicate, List.sum_replicate, smul_eq_mul,
        Nat.mul_div_cancel_left 100 positive] at less
      exact less few many
    exact long 42949673 (by decide) (by decide)

/-- One full spike is added after another 42949672 times, and the next one stops the program,
although the mean of all their rates is a hundred, which would leave an hour. Where additions are
not checked, the mean is zero instead, and the window is shortened to fifteen minutes. -/
theorem stopped_by_long_burst :
    let tracker := new.afterAll (List.replicate 42949673 fullSpike)
    let rates := burstRates (new.visited (List.replicate 42949673 fullSpike))
    (∃ last, new.afterAll? (List.replicate 42949672 fullSpike) = .ok last) ∧
      new.afterAll? (List.replicate 42949673 fullSpike) = .error .rateSum ∧
      tracker.endsOn longRest = true ∧ rates.sum / rates.length = 100 ∧ shortened 90 100 = 60 ∧
      tracker.window = 90 ∧ tracker.meanRate = 0 ∧ (tracker.next longRest).window = 15 := by
  intro tracker rates
  have before := afterAll?_fullSpikes (le_refl 42949672)
  obtain ⟨window, ends, full⟩ := burst_of_fullSpikes 42949673
  obtain ⟨mean, next⟩ := window_after_fullSpikes (by decide : 0 < 42949673)
  have length : rates.length = 42949673 := (congrArg List.length full).trans List.length_replicate
  have sum : rates.sum = 42949673 * 100 := (congrArg List.sum full).trans (List.sum_replicate _ _)
  -- The sum is four more than the range of its word, less than one for each spike.
  have zero : tracker.meanRate = 0 := mean.trans (by decide)
  refine ⟨⟨_, before⟩, ?_, ends (by decide), by rw [sum, length], by decide, window, zero,
    next.trans ?_⟩
  · exact afterAll?_fullSpikes_stopped (le_refl 42949672) (by decide)
  · rw [show Tracker.meanRate _ = 0 from zero]
    rfl

end Tracker

end PowerGovernor.Burst
