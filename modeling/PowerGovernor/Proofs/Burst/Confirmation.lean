import PowerGovernor.Proofs.Burst.Breach

/-! Confirmations are counted down to zero from the limit of the first one, whatever else a tracker
is used for between them. -/

namespace PowerGovernor.Burst

/-- The limit of a confirmation; no other use of a tracker has one. -/
def Use.limit? : Use → Option Nat
  | .confirm limit => some limit
  | .report _ | .register _ | .ask _ => none

/-- The limits of the confirmations among some uses, in order. -/
def limits (uses : List Use) : List Nat :=
  uses.filterMap Use.limit?

/-- How many confirmations are missing after one more. -/
def countDown (missing limit : Nat) : Nat :=
  -- At zero the count begins anew.
  if missing = 0 then limit else missing - 1

/-- As long as any are missing, each confirmation takes one away, whatever its limit. -/
theorem foldl_countDown_of_length_le {limits : List Nat} {missing : Nat}
    (few : limits.length ≤ missing) : limits.foldl countDown missing = missing - limits.length := by
  -- Each limit takes one away, so there is one less to take for those behind it.
  induction limits generalizing missing with
  | nil => rfl
  | cons limit rest ih =>
    rw [List.length_cons] at few ⊢
    -- There is still one for the first limit to take, and enough for the rest.
    have positive : missing ≠ 0 := by omega
    rw [List.foldl_cons, countDown, if_neg positive, ih (by omega)]
    omega

/-- Confirmations with one limit go round from that limit down to zero. -/
theorem countDown_foldl_replicate (limit number : Nat) :
    countDown ((List.replicate number limit).foldl countDown 0) limit =
      limit - number % (limit + 1) := by
  induction number with
  | zero => simp [countDown]
  | succ number ih =>
    -- The remainder counts the confirmations of the round that has begun.
    have bounded : number % (limit + 1) < limit + 1 := Nat.mod_lt _ (Nat.succ_pos limit)
    rw [List.replicate_succ', List.foldl_concat, ih,
      ← Nat.mod_add_mod number (limit + 1) 1, countDown]
    by_cases around : number % (limit + 1) = limit
    · -- The round is over, so that the next confirmation begins another one.
      rw [around, Nat.sub_self, if_pos rfl, Nat.mod_self, Nat.sub_zero]
    · -- The round goes on with one less.
      have next : number % (limit + 1) + 1 < limit + 1 := by omega
      rw [if_neg (by omega), Nat.mod_eq_of_lt next, Nat.sub_sub]

namespace Tracker

variable {tracker : Tracker}

/-- A report leaves the confirmations alone. -/
theorem strikes_observe (tracker : Tracker) (activity : Activity) :
    (tracker.observe activity).strikes = tracker.strikes := by
  unfold observe
  -- Both kinds of reports have an equation that does not mention confirmations.
  cases activity.kind with
  | spike =>
    dsimp only
    rw [addSpike_eq]
    rfl
  | quiet =>
    dsimp only
    rw [addQuiet_eq]
    rfl

/-- Only a confirmation counts down. -/
theorem strikes_next (tracker : Tracker) (use : Use) :
    (tracker.next use).strikes = use.limit?.elim tracker.strikes (countDown tracker.strikes) := by
  -- Of the four uses one is a confirmation.
  cases use with
  | report activity => exact strikes_observe tracker activity
  | register occurrence =>
    show (tracker.register _ _ _).strikes = tracker.strikes
    rw [register_eq]
  | ask initialRate => rfl
  | confirm limit => rfl

/-- The confirmations of a run are counted down one after another. -/
theorem strikes_afterAll (uses : List Use) :
    ∀ tracker : Tracker,
      (tracker.afterAll uses).strikes = (limits uses).foldl countDown tracker.strikes := by
  -- The number that is missing is all that the uses hand on.
  induction uses with
  | nil => exact fun tracker => rfl
  | cons use rest ih =>
    intro tracker
    have split : tracker.afterAll (use :: rest) = (tracker.next use).afterAll rest := rfl
    rw [split, ih, strikes_next]
    -- A use without a limit is no part of the list of limits either.
    cases given : use.limit? with
    | none => simp [limits, given]
    | some limit => simp [limits, given]

/-- The count of missing confirmations is changed by confirmations alone. While any are missing, a
confirmation takes one away and its limit plays no part.

So after a count of zero, and whatever else happens in between, the confirmation that follows `k`
others with the same limit `n` leaves `n - k % (n + 1)` missing, and after a first one with limit
`m` the count comes back to zero with exactly the `m`-th further one. -/
theorem confirmations_count_down (tracker : Tracker) (uses : List Use) :
    (∀ use : Use, use.limit? = none → (tracker.next use).strikes = tracker.strikes) ∧
    (tracker.strikes ≠ 0 → ∀ limit other, tracker.strike limit = tracker.strike other) ∧
    (tracker.strikes = 0 →
      (∀ limit, (∀ given ∈ limits uses, given = limit) →
        ((tracker.afterAll uses).strike limit).strikes =
          limit - (limits uses).length % (limit + 1)) ∧
      ∀ seed, (tracker.strike seed).strikes = seed ∧
        ((limits uses).length ≤ seed →
          ((tracker.strike seed).afterAll uses).strikes = seed - (limits uses).length)) := by
  refine ⟨fun use silent => ?_, fun missing limit other => ?_, fun zero => ⟨?_, ?_⟩⟩
  · -- A use without a limit counts nothing down.
    rw [strikes_next, silent]
    rfl
  · -- The limit is only looked at when nothing is missing.
    simp only [strike, if_neg missing]
  · intro limit same
    -- What has been confirmed before is one limit over and over.
    have repeated : limits uses = List.replicate (limits uses).length limit :=
      List.eq_replicate_of_mem same
    have before := strikes_afterAll uses tracker
    rw [zero, repeated] at before
    have round := countDown_foldl_replicate limit (limits uses).length
    rw [← before] at round
    exact round
  · intro seed
    have seeded : (tracker.strike seed).strikes = seed := by simp only [strike, if_pos zero]
    refine ⟨seeded, fun few => ?_⟩
    have later := strikes_afterAll uses (tracker.strike seed)
    rw [seeded] at later
    exact later.trans (foldl_countDown_of_length_le few)

/-- Four confirmations of three lead to zero, across a spike and a question, and the fifth to three
again; of a first one with limit two and two others with larger limits, the last leads to zero. -/
theorem confirmations_count_down_mixed :
    let spike : Use := .report ⟨.spike, 5, 500, ⟨true, true⟩⟩
    let tracker := new.next spike
    let threes := [.confirm 3, spike, .confirm 3, .confirm 3, .ask 1, .confirm 3]
    let larger := [.confirm 7, spike, .confirm 9]
    tracker.strikes = 0 ∧ (tracker.next spike).strikes = 0 ∧
      ((tracker.afterAll threes).strike 3).strikes = 3 ∧
      (tracker.strike 2).strike 7 = (tracker.strike 2).strike 9 ∧
      ((tracker.strike 2).afterAll larger).strikes = 0 := by
  intro spike tracker threes larger
  -- A report before the first confirmation leaves nothing missing.
  have zero : tracker.strikes = 0 := by decide +kernel
  obtain ⟨silent, -, counted⟩ := confirmations_count_down tracker threes
  obtain ⟨-, deaf, -⟩ := confirmations_count_down (tracker.strike 2) larger
  obtain ⟨-, -, seeds⟩ := confirmations_count_down tracker larger
  refine ⟨zero, (silent spike rfl).trans zero, ?_, deaf (by decide +kernel) 7 9, ?_⟩
  · exact ((counted zero).1 3 (by decide)).trans (by decide)
  · exact (((seeds zero).2 2).2 (by decide)).trans (by decide)

end Tracker

end PowerGovernor.Burst
