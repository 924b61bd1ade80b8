import PowerGovernor.Platform.Simulated
import PowerGovernor.Proofs.Governor.Polls
import PowerGovernor.Proofs.Policy.Interval

/-! Every recommended interval can be waited for: it is never zero, and it keeps to the limits of
whoever decides about the poll. -/

namespace PowerGovernor

variable {World : Type}

/-- The fixed interval of a mode, zero for none. -/
def Settings.fixedInterval (settings : Settings) (lowPower : Bool) : UInt32 :=
  if lowPower then settings.exitInterval else settings.entryInterval

namespace Governor

/-- A step of the built-in controller recommends the default, or the interval of the mode that it
found. -/
theorem interval_controlMode (governor : Governor) (gate : DwellGate) (now : Nat)
    (lowPower : Bool) :
    (governor.controlMode gate now lowPower).2.interval = some Policy.defaultInterval ∨
      (governor.controlMode gate now lowPower).2.interval =
        some (governor.pollInterval lowPower) := by
  simp only [controlMode]
  -- Only when low-power mode is entered the mode that was found does not matter any more.
  split
  · exact Or.inl rfl
  · exact Or.inr rfl
  · exact Or.inr rfl

/-- An interval of the built-in controller: full hundreds up to a second. -/
def Rounded (interval : UInt32) : Prop :=
  100 ∣ interval.toNat ∧ 100 ≤ interval ∧ interval ≤ 1000

/-- The default interval is rounded. -/
theorem rounded_default : Rounded Policy.defaultInterval := by
  -- A second is ten hundreds.
  unfold Rounded
  decide

/-- The idle part of a second without its incomplete hundred is rounded, above the floor. -/
theorem rounded_idlePart (load : BasisPoints) :
    Rounded (max (Policy.floorToHundred (Policy.idlePart Policy.defaultInterval load))
      Policy.shortestInterval) := by
  -- The idle part of a second is at most a second, and cutting it to hundreds leaves hundreds.
  have part := Policy.idlePart_le Policy.defaultInterval.toNat load.value
  have floor : Policy.shortestInterval.toNat = 100 := rfl
  have second : Policy.defaultInterval.toNat = 1000 := rfl
  simp only [Rounded, UInt32.le_iff_toNat_le, Policy.toNat_maxWord, Policy.toNat_floorToHundred,
    Policy.toNat_idlePart, BasisPoints.idleShare, floor, second, UInt32.reduceToNat] at part ⊢
  omega

/-- Without a fixed interval the built-in controller recommends a rounded one. -/
theorem rounded_pollInterval {governor : Governor} {lowPower : Bool}
    (unset : governor.settings.fixedInterval lowPower = 0) :
    Rounded (governor.pollInterval lowPower) := by
  cases lowPower with
  | false =>
    have entry : governor.settings.entryInterval = 0 := unset
    simpa [pollInterval, intervalOutside, entry] using rounded_default
  | true =>
    have exit : governor.settings.exitInterval = 0 := unset
    simp only [pollInterval, intervalInside, exit, if_true]
    -- In low-power mode the interval follows the CPU load, once that is known.
    split
    · contradiction
    · split
      · split
        · exact rounded_default
        · exact rounded_idlePart _
      · exact rounded_default

/-- Rounded or fixed, the interval of the built-in controller is never zero. -/
theorem pollInterval_ne_zero (governor : Governor) (lowPower : Bool) :
    governor.pollInterval lowPower ≠ 0 := by
  by_cases unset : governor.settings.fixedInterval lowPower = 0
  · -- A rounded interval is not below the floor.
    intro zero
    have rounded := rounded_pollInterval unset
    rw [zero] at rounded
    exact absurd rounded.2.1 (by decide)
  · -- A fixed interval is taken as it is.
    have positive : 0 < governor.settings.fixedInterval lowPower := by
      rw [Policy.word_eq_zero_iff] at unset
      rw [UInt32.lt_iff_toNat_lt, UInt32.toNat_zero]
      omega
    have fixed :
        governor.pollInterval lowPower = governor.settings.fixedInterval lowPower := by
      cases lowPower with
      | false => exact if_pos positive
      | true => exact if_pos positive
    rw [fixed]
    exact unset

end Governor

namespace Poll

open Policy (Selector Spec Table)

/-- No poll recommends not to wait at all. -/
theorem interval_tick_ne_zero (poll : Poll World) (platform : Platform World) :
    (poll.tick platform).interval ≠ some 0 := by
  -- An interval comes from the policy states or from the controller.
  cases policy : poll.governor.policyDecides poll.hint with
  | true =>
    rw [(poll.tick_of_policyDecides policy platform).2.1]
    split
    · cases found : poll.governor.selector.find? (poll.tick platform).governor.sample poll.hint with
      | none => simp [Selector.select_of_none found]
      | some index =>
        obtain ⟨state, present⟩ := Selector.exists_of_find? found
        rw [Selector.select_of_some found]
        simp only [Selector.interval_enter_eq present, ne_eq, Option.some.injEq]
        -- A kept state respects the floor, and a new one has a shortest interval or the default.
        split
        · intro zero
          have floor := state.floor_le_nextInterval poll.governor.selector.interval
            (poll.tick platform).governor.sample.cpu
          rw [zero] at floor
          exact absurd floor (by decide)
        · exact state.firstInterval_ne_zero
    · simp
  | false =>
    cases controller : poll.governor.controllerDecides poll.hint with
    | true =>
      rw [poll.interval_tick_of_controllerDecides controller platform]
      rcases Governor.interval_controlMode _ _ _ _ with default | suited
      · rw [default]
        decide
      · rw [suited, ne_eq, Option.some.injEq]
        exact Governor.pollInterval_ne_zero _ _
    | false => simp [poll.interval_tick_of_undecided policy controller platform]

/-- The interval recommended for the configured state at a place keeps to the normalised limits of
the state if the configured ones agree, where the floor may replace the longest interval, and to the
floor if the state was held before. -/
def WithinLimits (specs : List Spec) (index : Nat) (held : Prop) (recommended : Option UInt32) :
    Prop :=
  ∃ spec state interval, specs[index]? = some spec ∧
    (Table.ofSpecs specs).states[index]? = some state ∧ recommended = some interval ∧
    (spec.LimitsAgree → state.minInterval ≤ interval ∧ interval ≤ max state.maxInterval 100) ∧
    (held → 100 ≤ interval)

/-- What a poll recommends is usable, for a governor with the given settings and states. -/
structure RecommendsUsably (settings : Settings) (specs : List Spec) (platform : Platform World)
    (poll : Poll World) : Prop where
  /-- Not to wait at all is never recommended. -/
  positive : (poll.tick platform).interval ≠ some 0
  /-- Nothing is recommended when no state is selected or only the hint counts. -/
  silent : poll.governor.policyDecides poll.hint = true →
    poll.governor.recommends poll.hint = false ∨
      poll.governor.selector.find? (poll.tick platform).governor.sample poll.hint = none →
    (poll.tick platform).interval = none
  /-- The interval of a selected state keeps to its limits. -/
  selected : poll.governor.policyDecides poll.hint = true →
    poll.governor.recommends poll.hint = true → ∀ index,
    poll.governor.selector.find? (poll.tick platform).governor.sample poll.hint = some index →
    (poll.tick platform).governor.selector.current = some index ∧
      WithinLimits specs index (poll.governor.selector.current = some index)
        (poll.tick platform).interval
  /-- Without a fixed interval for the mode that it finds, the built-in controller recommends full
  hundreds up to a second. -/
  controlled : poll.governor.controllerDecides poll.hint = true →
    settings.fixedInterval
      (platform.inLowPower (poll.governor.measured poll.now platform poll.world).world) = 0 →
    ∃ interval, (poll.tick platform).interval = some interval ∧
      100 ∣ interval.toNat ∧ 100 ≤ interval ∧ interval ≤ 1000

/-- The interval of a poll that selects a state keeps to the limits of that state. -/
theorem withinLimits_tick {specs : List Spec} {poll : Poll World}
    (configured : poll.governor.selector.table.configured = (Table.ofSpecs specs).states)
    (policy : poll.governor.policyDecides poll.hint = true)
    (recommended : poll.governor.recommends poll.hint = true) {platform : Platform World}
    {index : Nat}
    (found : poll.governor.selector.find? (poll.tick platform).governor.sample poll.hint =
      some index) :
    (poll.tick platform).governor.selector.current = some index ∧
      WithinLimits specs index (poll.governor.selector.current = some index)
        (poll.tick platform).interval := by
  obtain ⟨⟨state, present, admitted⟩, -⟩ := Selector.find?_eq_some_iff.mp found
  obtain ⟨next, interval, -⟩ := poll.tick_of_policyDecides policy platform
  rw [recommended, if_pos rfl] at interval
  rw [Selector.select_of_some found] at next interval
  -- The selected state is one of the configured ones, apart from the loads recorded for it.
  obtain ⟨spec, listed, made⟩ := Table.exists_spec configured present
  have normalized : (Table.ofSpecs specs).states[index]? = some state.configured := by
    rw [Table.getElem?_ofSpecs, listed, Option.map_some, made]
  refine ⟨(congrArg _ next).trans (Selector.current_enter present _), spec, state.configured, _,
    listed, normalized, interval.trans (Selector.interval_enter_eq present _), ?_, ?_⟩
  · intro agree
    -- Being selected it is usable, so its limits are those that follow from the configuration.
    have valid : (Policy.State.ofSpec (index + 1) spec).valid = true := by
      rw [made]
      exact Policy.State.valid_of_admits admitted
    obtain ⟨activeCpus, usable⟩ := Policy.State.exists_usableState valid
    have paced : state.configured.Paced := by
      rw [← made, usable]
      exact Policy.paced_usableState agree _ activeCpus
    -- A kept state moves the last interval, and a new one begins with its first one.
    split
    · exact paced.nextInterval _ _
    · refine ⟨paced.firstInterval.1, UInt32.le_trans paced.firstInterval.2 ?_⟩
      rw [UInt32.le_iff_toNat_le, Policy.toNat_maxWord]
      exact Nat.le_max_left _ _
  · -- A state that was held moves on to its next interval, which the floor bounds.
    intro held
    rw [if_pos held]
    exact state.floor_le_nextInterval _ _

end Poll

namespace Governor

open Policy (Spec Table)

/-- A governor with the given settings whose policy states are configured in the given way. -/
def IsConfigured (settings : Settings) (specs : List Spec) (governor : Governor) : Prop :=
  governor.settings = settings ∧
    governor.selector.table.configured = (Table.ofSpecs specs).states

/-- In a run of a new governor every poll meets its settings and the configuration of its states. -/
theorem isConfigured_polls (settings : Settings) (specs : List Spec) (sampler : Sampler)
    (probe : Graphics.Probe) (platform : Platform World) (world : World)
    (occasions : List (Occasion World)) :
    ∀ poll ∈ (Governor.new settings (.ofSpecs specs) sampler probe).polls platform world occasions,
      poll.governor.IsConfigured settings specs := by
  -- No poll changes either of them.
  refine forall_polls platform ?_ ⟨rfl, Table.configured_ofSpecs specs⟩ world occasions
  rintro poll ⟨same, configured⟩
  exact ⟨(poll.settings_tick platform).trans same, (poll.configured_tick platform).trans configured⟩

/-- Every interval that is ever recommended is usable.

In every run of a new governor no poll recommends not to wait at all. When the policy states decide,
the interval of the selected state keeps to its normalised limits, unless both are configured the
wrong way round, and to the floor while the state is held. When the built-in controller decides and
no fixed interval applies, the interval is a full number of hundreds up to a second. -/
theorem intervals_usable (settings : Settings) (specs : List Spec) (sampler : Sampler)
    (probe : Graphics.Probe) (platform : Platform World) (world : World)
    (occasions : List (Occasion World)) :
    ∀ poll ∈ (Governor.new settings (.ofSpecs specs) sampler probe).polls platform world occasions,
      poll.RecommendsUsably settings specs platform := by
  intro poll member
  obtain ⟨same, configured⟩ :=
    isConfigured_polls settings specs sampler probe platform world occasions poll member
  -- The poll is one of a governor with the given settings and states.
  refine ⟨poll.interval_tick_ne_zero platform, ?_, ?_, ?_⟩
  · intro policy reason
    rw [(poll.tick_of_policyDecides policy platform).2.1]
    -- The interval is dropped, or none was found.
    rcases reason with ignored | missing
    · rw [ignored]
      rfl
    · rw [Policy.Selector.select_of_none missing]
      split <;> rfl
  · exact fun policy recommended index found =>
      Poll.withinLimits_tick configured policy recommended found
  · intro controller unset
    rw [poll.interval_tick_of_controllerDecides controller platform]
    -- Measuring the loads has left the settings alone.
    have fixed : (poll.governor.measured poll.now platform
        poll.world).governor.settings.fixedInterval (platform.inLowPower
          (poll.governor.measured poll.now platform poll.world).world) = 0 := by
      rw [← same] at unset
      exact unset
    rcases interval_controlMode _ _ _ _ with default | suited
    · exact ⟨_, default, rounded_default⟩
    · exact ⟨_, suited, rounded_pollInterval fixed⟩

/-- A policy state whose interval grows by a fixed step, and one that leaves everything open. -/
def rampAndOpen : List Spec :=
  [{ name := "ramp", workload := some 1, minInterval := 500, maxInterval := 1000,
     increment := some (.fixed 300) },
    { name := "open" }]

/-- The polls of a governor that is told the same workload three times. -/
def rampPolls : List (Poll Simulated) :=
  (Governor.new { pollOnHint := true } (.ofSpecs rampAndOpen) (.new ["stat"] 1)
    (.new ["tile0"])).polls Simulated.platform { files := .rooted [] }
    (List.replicate 3 { now := 0, drift := id, hint := some 1 })

/-- The third interval has grown to the longest one of the state, and keeps to its limits. -/
theorem intervals_usable_ramp :
    rampPolls.map (fun poll => (poll.tick Simulated.platform).interval) =
        [some 500, some 800, some 1000] ∧
      ∃ poll ∈ rampPolls, poll.governor.selector.current = some 0 ∧
        poll.RecommendsUsably { pollOnHint := true } rampAndOpen Simulated.platform ∧
        Poll.WithinLimits rampAndOpen 0 (poll.governor.selector.current = some 0)
          (poll.tick Simulated.platform).interval := by
  refine ⟨by decide +kernel, rampPolls[2], List.getElem_mem _, by decide +kernel, ?_⟩
  -- The last poll has found the state held, so all that is said about held states applies.
  have usable := intervals_usable { pollOnHint := true } rampAndOpen (.new ["stat"] 1)
    (.new ["tile0"]) Simulated.platform { files := .rooted [] }
    (List.replicate 3 { now := 0, drift := id, hint := some 1 }) rampPolls[2] (List.getElem_mem _)
  exact ⟨usable, (usable.selected (by decide +kernel) (by decide +kernel) 0
    (by decide +kernel)).2⟩

end Governor

end PowerGovernor
