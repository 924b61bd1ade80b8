import PowerGovernor.Proofs.Burst.Breach

/-! The window of history is a whole number of minutes, and exact arithmetic says which one. -/

namespace PowerGovernor.Burst

/-- The window that the end of a burst with the given mean spike rate leaves after another window,
both in minutes. -/
def shortened (window mean : Nat) : Nat :=
  -- A mean beyond a hundred counts as a hundred.
  60 - (100 - mean) * window / 200

/-- The bounds of a window after a number of bursts have ended, in minutes. -/
structure IsWindowAfter (ended minutes : Nat) : Prop where
  /-- Until the first burst has ended the window is the one of a new tracker. -/
  initial : ended = 0 → minutes = 90
  /-- The end of a burst sets a window of an hour at most. -/
  bounded : 0 < ended → 15 ≤ minutes ∧ minutes ≤ 60
  /-- An hour is never shortened by more than half of it. -/
  settled : 1 < ended → 30 ≤ minutes

/-- What the end of a burst takes from an hour is at most half of the window before. -/
theorem shortened_add (window mean : Nat) (short : window ≤ 90) :
    shortened window mean + (100 - mean) * window / 200 = 60 ∧
      (100 - mean) * window / 200 ≤ window / 2 := by
  -- The share of a window is at most all of it, and half of that is taken.
  have share : (100 - mean) * window ≤ 100 * window := Nat.mul_le_mul_right _ (Nat.sub_le _ _)
  unfold shortened
  generalize (100 - mean) * window = product at share ⊢
  omega

/-- Less than an hour is taken from an hour, so nothing is cut off. -/
theorem cast_shortened {window : Nat} (short : window ≤ 90) (mean : Nat) :
    ((shortened window mean : Nat) : Rat) = 60 - ((100 - mean) * window / 200 : Nat) := by
  -- The difference is not cut off, so it is one among the rational numbers as well.
  have sum : ((shortened window mean : Nat) : Rat) + ((100 - mean) * window / 200 : Nat) = 60 := by
    exact_mod_cast (shortened_add window mean short).1
  exact eq_sub_of_add_eq sum

/-- The bounds are kept when another burst ends. -/
theorem IsWindowAfter.shortened {ended minutes : Nat} (fits : IsWindowAfter ended minutes)
    (mean : Nat) : IsWindowAfter (ended + 1) (shortened minutes mean) := by
  obtain ⟨initial, bounded, settled⟩ := fits
  have short : minutes ≤ 90 := by omega
  obtain ⟨whole, half⟩ := shortened_add minutes mean short
  -- Half of ninety leaves fifteen of an hour, and half of sixty leaves thirty.
  constructor <;> omega

/-- Exact arithmetic says by how much single precision shortens a window. -/
theorem floor_bias (rate : Nat) {minutes : Nat} (short : minutes ≤ 90) :
    (bias rate minutes).floor = (((100 - rate) * minutes / 200 : Nat) : Int) := by
  have product : (100 - rate) * minutes ≤ 100 * 90 := Nat.mul_le_mul (Nat.sub_le _ _) short
  -- The product is an integer with room to spare, so only the quotient is rounded.
  have exact : roundSingle (((100 - min rate 100 : Nat) : Rat) * minutes) =
      (((100 - rate) * minutes : Nat) : Rat) := by
    rw [← Nat.cast_mul, show 100 - min rate 100 = 100 - rate by omega]
    exact roundSingle_natCast (by omega)
  rw [bias, exact]
  exact floor_roundSingle_div (by omega) (by decide) (by decide)

namespace Tracker

/-- Whether a use of a tracker ends the burst that is going on. -/
def endsOn (tracker : Tracker) (use : Use) : Bool :=
  tracker.inBurst && !(tracker.next use).inBurst

/-- How many bursts end over a run of uses. -/
def ended (tracker : Tracker) : List Use → Nat
  | [] => 0
  | use :: rest => (if tracker.endsOn use then 1 else 0) + (tracker.next use).ended rest

variable {tracker : Tracker} {minutes : Nat}

/-- A report ends a burst exactly if it is of a quiet time that ends it. -/
theorem endsOn_report_iff (activity : Activity) :
    tracker.endsOn (.report activity) = true ↔
      activity.kind = .quiet ∧ tracker.endsBurst activity.duration = true := by
  have seen : tracker.endsOn (.report activity) =
      (tracker.inBurst && !(tracker.observe activity).inBurst) := rfl
  rw [seen, observe]
  cases activity.kind with
  | spike => simp [inBurst_addSpike]
  | quiet =>
    -- Only a burst that goes on can be ended.
    simp only [inBurst_addQuiet, endsBurst, true_and]
    cases tracker.inBurst <;> simp

/-- The end of a burst shortens an hour by as much as exact arithmetic says. -/
theorem window_endBurst_eq (whole : tracker.window = minutes) (short : minutes ≤ 90) (now : Nat)
    (signals : Signals) :
    (tracker.endBurst now signals).1.window = (shortened minutes tracker.meanRate : Nat) := by
  rw [window_endBurst, whole, floor_bias _ short, Int.cast_natCast, cast_shortened short]

/-- A use that ends no burst leaves the window alone. -/
theorem window_next_of_not_ends {use : Use} (lasts : ¬ tracker.endsOn use = true) :
    (tracker.next use).window = tracker.window := by
  cases use with
  | report activity =>
    rw [endsOn_report_iff, not_and] at lasts
    -- A burst that goes on keeps the window anyway, so only quiet times outside of one are left.
    by_cases going : (tracker.observe activity).inBurst = true
    · exact window_observe going
    · show (tracker.observe activity).window = tracker.window
      unfold observe at going ⊢
      cases kind : activity.kind with
      | spike => simp [kind, inBurst_addSpike] at going
      | quiet => exact window_addQuiet (lasts kind)
  | register occurrence => exact window_register _ _ _ _
  | ask initialRate => rfl
  | confirm limit => rfl

/-- A use that ends a burst cools the tracker down and then ends the burst. -/
theorem exists_endBurst_of_endsOn {use : Use} (ends : tracker.endsOn use = true) :
    ∃ activity : Activity, tracker.next use =
      ((tracker.cool activity.duration).endBurst activity.now activity.signals).1 := by
  cases use with
  | report activity =>
    obtain ⟨rests, drained⟩ := (endsOn_report_iff activity).mp ends
    refine ⟨activity, ?_⟩
    show tracker.observe activity = _
    rw [observe, rests]
    dsimp only
    rw [addQuiet_of_ends drained]
  -- Nothing but a report changes whether there is a burst.
  | register occurrence => simp [endsOn, next] at ends
  | ask initialRate => simp [endsOn, next] at ends
  | confirm limit => simp [endsOn, next, strike] at ends

/-- The window after a use is the one before it, or what its burst's end makes of that. -/
theorem window_next (whole : tracker.window = minutes) (short : minutes ≤ 90) (use : Use) :
    (tracker.next use).window =
      (if tracker.endsOn use then shortened minutes tracker.meanRate else minutes : Nat) := by
  -- Only the end of a burst touches the window, and cooling down comes before it.
  by_cases ends : tracker.endsOn use = true
  · rw [if_pos ends]
    obtain ⟨activity, ended⟩ := exists_endBurst_of_endsOn ends
    have cooled : (tracker.cool activity.duration).window = minutes := whole
    rw [ended]
    exact window_endBurst_eq cooled short activity.now activity.signals
  · rw [if_neg ends, window_next_of_not_ends ends, whole]

/-- A window within its bounds stays within them, whatever a tracker is used for. -/
theorem isWindowAfter_afterAll (uses : List Use) :
    ∀ (tracker : Tracker) {ended minutes : Nat}, tracker.window = minutes →
      IsWindowAfter ended minutes →
      ∃ left : Nat, (tracker.afterAll uses).window = left ∧
        IsWindowAfter (ended + tracker.ended uses) left := by
  induction uses with
  -- Without a use no burst ends.
  | nil => exact fun tracker _ _ whole fits => ⟨_, whole, fits⟩
  | cons use rest ih =>
    intro tracker ended minutes whole fits
    have short : minutes ≤ 90 := by
      obtain ⟨initial, bounded, -⟩ := fits
      omega
    have next := window_next whole short use
    rw [Tracker.ended, ← Nat.add_assoc]
    -- The first use ends one burst or none.
    by_cases ends : tracker.endsOn use = true
    · rw [if_pos ends] at next ⊢
      exact ih (tracker.next use) next (fits.shortened tracker.meanRate)
    · rw [if_neg ends] at next ⊢
      exact ih (tracker.next use) next fits

/-- In every state that a new tracker can reach, the window of history is a whole number of minutes:
ninety until a burst has ended, between fifteen and sixty afterwards, and at least thirty from the
second end on. The end of a burst with mean spike rate `a` replaces a window `w` by
`60 - (100 - a) * w / 200`, rounded down as written, although the share is computed in single
precision; a mean beyond a hundred counts as a hundred. Nothing else changes the window, so that
registrations always divide by a positive number. -/
theorem window_exact_afterAll (uses : List Use) :
    let tracker := new.afterAll uses
    ∃ minutes : Nat, tracker.window = minutes ∧ 0 < tracker.window ∧
      (new.ended uses = 0 → minutes = 90) ∧
      (1 ≤ new.ended uses → 15 ≤ minutes ∧ minutes ≤ 60) ∧
      (2 ≤ new.ended uses → 30 ≤ minutes ∧ minutes ≤ 60) ∧
      ∀ use, (tracker.next use).window =
        if tracker.endsOn use then (60 : Rat) - ((100 - tracker.meanRate) * minutes / 200 : Nat)
        else minutes := by
  intro tracker
  -- A new tracker has the window of ninety, and the bounds follow the run from there.
  have fresh : IsWindowAfter 0 90 := ⟨fun _ => rfl, by omega, by omega⟩
  obtain ⟨minutes, whole, fits⟩ := isWindowAfter_afterAll uses new rfl fresh
  rw [Nat.zero_add] at fits
  obtain ⟨initial, bounded, settled⟩ := fits
  have short : minutes ≤ 90 := by omega
  have positive : (0 : Rat) < minutes := by exact_mod_cast (by omega : 0 < minutes)
  refine ⟨minutes, whole, by rwa [whole], initial, bounded, by omega, fun use => ?_⟩
  rw [window_next whole short use]
  split
  · exact cast_shortened short tracker.meanRate
  · rfl

/-- A burst of mean rate fifty leaves thirty-eight minutes of ninety, and then one of mean rate one
leaves forty-two. -/
theorem window_exact_two_bursts :
    let spike (duration : Nat) : Use := .report ⟨.spike, 0, duration, ⟨false, true⟩⟩
    let quiet : Use := .report ⟨.quiet, 0, 1000, ⟨false, true⟩⟩
    let tracker := new.afterAll [spike 500, quiet, spike 10]
    new.ended [spike 500, quiet, spike 10, quiet] = 2 ∧ tracker.window = 38 ∧
      (tracker.next quiet).window = 42 := by
  -- The second spike begins another burst, and the window that the first one left is known by then.
  intro spike quiet tracker
  obtain ⟨minutes, whole, -, -, -, -, next⟩ := window_exact_afterAll [spike 500, quiet, spike 10]
  have before : tracker.window = 38 := by decide +kernel
  have same : minutes = 38 := by exact_mod_cast whole.symm.trans before
  have mean : tracker.meanRate = 1 := by decide +kernel
  have ends : tracker.endsOn quiet = true := by decide +kernel
  refine ⟨by decide +kernel, before, ?_⟩
  rw [next quiet, if_pos ends, mean, same]
  norm_num

end Tracker

end PowerGovernor.Burst
