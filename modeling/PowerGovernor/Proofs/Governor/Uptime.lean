import PowerGovernor.Proofs.Governor.Run

/-! Only differences of times matter: a run on a clock that started earlier is the same run, with
its times moved. -/

namespace PowerGovernor

variable {World : Type}

namespace DwellGate

/-- The gate with both of its anchors moved to a later time. -/
def shift (delay : Nat) (gate : DwellGate) : DwellGate :=
  { gate with lastIn := gate.lastIn + delay, lastOut := gate.lastOut + delay }

@[simp] theorem disabled_shift (delay : Nat) (gate : DwellGate) :
    (gate.shift delay).disabled = gate.disabled := rfl

/-- A moved gate decides at the moved time what it decides, for dwell times are differences. -/
theorem request_shift (delay : Nat) (gate : DwellGate) (status : LoadStatus) (now : Nat) :
    (gate.shift delay).request status (now + delay) =
      ((gate.request status now).1.shift delay, (gate.request status now).2) := by
  -- The dwell times, and with them the averages, are the same before and after the move.
  have dwellOut : now + delay - (gate.lastOut + delay) = now - gate.lastOut := by omega
  have dwellIn : now + delay - (gate.lastIn + delay) = now - gate.lastIn := by omega
  unfold request
  rw [disabled_shift]
  split
  · rfl
  · cases status with
    | idle =>
      simp only [requestIdle, shift, dwellOut]
      split <;> rfl
    | overload =>
      simp only [requestOverload, shift, dwellIn]
      split <;> rfl
    | normal => rfl
    | unknown => rfl

end DwellGate

namespace Graphics

/-- The tier with its last measurement moved to a later time. -/
def ResidencyTier.shift (delay : Nat) (tier : ResidencyTier) : ResidencyTier :=
  { tier with measured := tier.measured + delay }

/-- The source with its last measurement moved; registers count their time themselves. -/
def Source.shift (delay : Nat) : Source → Source
  | .residency tier => .residency (tier.shift delay)
  | source => source

/-- The probe with its last measurement moved to a later time. -/
def Probe.shift (delay : Nat) (probe : Probe) : Probe :=
  { probe with source := probe.source.shift delay }

/-- A measurement by a moved probe. -/
def Measurement.shift (delay : Nat) (measurement : Measurement World) : Measurement World :=
  { measurement with probe := measurement.probe.shift delay }

theorem ResidencyTier.sample_shift (delay : Nat) (tier : ResidencyTier) (files : FileTree)
    (now : Nat) :
    (tier.shift delay).sample files (now + delay) =
      ((tier.sample files now).1.shift delay, (tier.sample files now).2) := by
  -- A measurement that was due, or too early, still is.
  have elapsed : now + delay - (tier.measured + delay) = now - tier.measured := by omega
  simp only [sample, shift, elapsed]
  split <;> rfl

theorem Probe.sampleRegisters_shift (delay : Nat) (probe : Probe)
    (baseline : Option RegisterPair) (platform : Platform World) (world : World) :
    (probe.shift delay).sampleRegisters baseline platform world =
      (probe.sampleRegisters baseline platform world).shift delay := by
  -- The registers are read without looking at any clock.
  simp only [sampleRegisters]
  split <;> rfl

/-- A moved probe measures at the moved time what it measures. -/
theorem Probe.sample_shift (delay : Nat) (probe : Probe) (now : Nat) (platform : Platform World)
    (world : World) :
    (probe.shift delay).sample (now + delay) platform world =
      (probe.sample now platform world).shift delay := by
  obtain ⟨root, source⟩ := probe
  cases source with
  | residency tier =>
    simp only [sample, shift, Source.shift, ResidencyTier.sample_shift]
    rfl
  | registers baseline => exact sampleRegisters_shift delay _ baseline platform world
  | undecided =>
    -- The first measurement finds the same counters, and starts from its own time.
    simp only [sample, shift, Source.shift]
    cases discover root (platform.files world) with
    | mk paths notes =>
      cases paths with
      | some paths => rfl
      | none =>
        -- Registers leave no time behind, so nothing is moved.
        have fallen := sampleRegisters_shift delay ⟨root, .undecided⟩ none platform world
        have kept := congrArg Measurement.probe fallen
        simp only [Measurement.shift]
        exact congrArg (Measurement.mk · _ _ _ _) kept

end Graphics

/-- The governor with all times that it remembers moved. -/
def Governor.shift (delay : Nat) (governor : Governor) : Governor :=
  { governor with
    probe := governor.probe.shift delay
    openedGate := governor.openedGate.map (DwellGate.shift delay)
    sample := { governor.sample with timestamp := governor.sample.timestamp + delay } }

/-- A poll whose governor has all times moved: everything else about it is the same. -/
def Tick.shift (delay : Nat) (tick : Tick World) : Tick World :=
  { tick with governor := tick.governor.shift delay }

/-- The same occasion on a clock that shows more. -/
def Occasion.shift (delay : Nat) (occasion : Occasion World) : Occasion World :=
  { occasion with now := occasion.now + delay }

theorem Tick.andThen_shift (delay : Nat) (first : Tick World)
    {second moved : Governor → World → Tick World}
    (same : ∀ governor world,
      moved (governor.shift delay) world = (second governor world).shift delay) :
    (first.shift delay).andThen moved = (first.andThen second).shift delay := by
  -- The second part meets the moved governor and a machine that nothing was moved in.
  show Tick.mk _ _ _ _ _ = _
  rw [show (first.shift delay).governor = first.governor.shift delay from rfl, same]
  rfl

namespace Governor

variable (delay : Nat) (governor : Governor) (platform : Platform World) (world : World)

@[simp] theorem settings_shift : (governor.shift delay).settings = governor.settings := rfl

@[simp] theorem selector_shift : (governor.shift delay).selector = governor.selector := rfl

@[simp] theorem probe_shift :
    (governor.shift delay).probe = governor.probe.shift delay := rfl

/-- The gate is set up with its anchors at the present, or it has been moved before. -/
theorem gateAt_shift (now : Nat) :
    (governor.shift delay).gateAt (now + delay) = (governor.gateAt now).shift delay := by
  simp only [gateAt, shift]
  -- A gate that is set up now has both anchors at the moved present.
  cases governor.openedGate <;> rfl

/-- No policy state looks at the time of the sample. -/
theorem selectState_shift (hint : Option UInt32) :
    (governor.shift delay).selectState hint platform world =
      (governor.selectState hint platform world).shift delay := rfl

theorem measureGraphics_shift (now : Nat) :
    (governor.shift delay).measureGraphics (now + delay) platform world =
      (governor.measureGraphics now platform world).shift delay := by
  -- The probe remembers moments of its own, which have moved with all others.
  simp only [measureGraphics, probe_shift, Graphics.Probe.sample_shift]
  rfl

/-- The measurements of a poll start from a moved gate. -/
theorem measured_shift (now : Nat) :
    (governor.shift delay).measured (now + delay) platform world =
      (governor.measured now platform world).shift delay := by
  -- A gate made now counts from now, and a gate from before has moved with the clock.
  simp only [measured, gateAt_shift, measureCpus, measureGraphics, probe_shift,
    Graphics.Probe.sample_shift]
  rfl

/-- The built-in controller looks at times through the gate only. -/
theorem controlMode_shift (gate : DwellGate) (now : Nat) (lowPower : Bool) :
    (governor.shift delay).controlMode (gate.shift delay) (now + delay) lowPower =
      ((governor.controlMode gate now lowPower).1.shift delay,
        (governor.controlMode gate now lowPower).2) := by
  have sameStatus : (governor.shift delay).classify lowPower = governor.classify lowPower := rfl
  have sameInterval : (governor.shift delay).pollInterval lowPower =
      governor.pollInterval lowPower := rfl
  simp only [controlMode, sameStatus, sameInterval, DwellGate.request_shift]
  -- Where the mode changes, the anchor that is set is the present.
  generalize governor.classify lowPower = status
  obtain ⟨asked, allowed, notes⟩ := gate.request status now
  cases allowed <;> cases status <;> rfl

theorem controlTick_shift (gate : DwellGate) (now : Nat) :
    (governor.shift delay).controlTick (gate.shift delay) (now + delay) platform world =
      (governor.controlTick gate now platform world).shift delay := by
  -- What is decided depends on the time that has passed, and the moments of marks move along.
  simp only [controlTick, controlMode_shift]
  rfl

/-- One poll at a moved time, with all times of the governor moved, is the same poll. -/
theorem tick_shift (now : Nat) (hint : Option UInt32) :
    (governor.shift delay).tick (now + delay) hint platform world =
      (governor.tick now hint platform world).shift delay := by
  -- Both polls begin by overwriting the time of the sample.
  let started : Governor := { governor with sample := { governor.sample with timestamp := now } }
  cases hint with
  | some hint =>
    show (started.shift delay).tickWithHint (now + delay) hint platform world =
      (started.tickWithHint now hint platform world).shift delay
    simp only [tickWithHint, measureGraphics_shift, settings_shift]
    split
    · exact Tick.andThen_shift delay _ fun governor world =>
        governor.selectState_shift delay platform world (some hint)
    · rfl
  | none =>
    cases monitored : governor.settings.monitor with
    | false =>
      simp only [tick, settings_shift, monitored, Bool.false_eq_true, if_false]
      rfl
    | true =>
      have watched : (governor.shift delay).settings.monitor = true := monitored
      rw [tick_eq_measured_andThen monitored, tick_eq_measured_andThen watched, measured_shift,
        gateAt_shift]
      refine Tick.andThen_shift delay _ fun loaded world => ?_
      -- Both runs leave the decision to the same side.
      rw [selector_shift]
      split
      · exact loaded.selectState_shift delay platform world none
      · exact loaded.controlTick_shift delay platform world _ now

/-- A run that goes on with all times moved is the same run. -/
theorem run_shift (occasions : List (Occasion World)) :
    ∀ (governor : Governor) (world : World),
      (governor.shift delay).run platform world (occasions.map (Occasion.shift delay)) =
        (governor.run platform world occasions).map (Tick.shift delay) := by
  induction occasions with
  | nil => intro governor world; rfl
  | cons occasion rest ih =>
    intro governor world
    -- The first poll is the same, and leaves a governor with all its times moved.
    have first : (governor.shift delay).tick (occasion.shift delay).now
        (occasion.shift delay).hint platform ((occasion.shift delay).drift world) =
          (governor.tick occasion.now occasion.hint platform (occasion.drift world)).shift delay :=
      governor.tick_shift delay platform _ occasion.now occasion.hint
    simp only [List.map_cons, run, first]
    exact congrArg _ (ih _ _)

/-- How long the clock has been running does not matter.

Whatever the settings, the policy states, the occasions and the machine, a run on a clock that shows
more by some delay recommends the same intervals, makes the same calls, reports the same and leaves
the same machines behind. Its governors differ only in the times that they remember: that of the
sample, the two anchors of the gate once it is set up, and the start of the measurement of graphics
load under way. -/
theorem run_independent_of_uptime (settings : Settings) (table : Policy.Table) (sampler : Sampler)
    (root : Path) (occasions : List (Occasion World)) :
    let governor := new settings table sampler (.new root)
    governor.run platform world (occasions.map (Occasion.shift delay)) =
      (governor.run platform world occasions).map (Tick.shift delay) := by
  intro governor
  cases occasions with
  | nil => rfl
  | cons occasion rest =>
    -- A new governor has neither a gate nor a source of graphics load, and its first poll
    -- overwrites the time of its sample, so there is nothing to move before that poll.
    exact run_shift delay platform (occasion :: rest) governor world

end Governor

end PowerGovernor
