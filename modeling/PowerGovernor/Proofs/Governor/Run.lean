import PowerGovernor.Governor.Tick
import PowerGovernor.Proofs.Platform.Moments

/-! Runs of the governor, and what one poll without a hint consists of. -/

namespace PowerGovernor

variable {World : Type}

/-- What one poll meets: a moment of the machine, and perhaps a workload hint. -/
structure Occasion (World : Type) extends Moment World where
  /-- The workload type, when it is known. -/
  hint : Option UInt32 := none

/-- The change of mode that a call asks for, if it does. -/
def Call.modeChange? : Call → Option ModeChange
  | .command (.changeMode change) => some change
  | _ => none

/-- The changes of mode that a poll asked for, in order. -/
def Tick.modeChanges (tick : Tick World) : List ModeChange :=
  tick.calls.filterMap Call.modeChange?

/-- A call that only reads a register. -/
def Call.IsRead (call : Call) : Prop :=
  ∃ cpu address, call = .readRegister cpu address

/-- Reading registers asks for no change of mode. -/
theorem filterMap_modeChange?_of_reads {calls : List Call} (reads : ∀ call ∈ calls, call.IsRead) :
    calls.filterMap Call.modeChange? = [] := by
  -- A reading is no command, so it is no change either.
  rw [List.filterMap_eq_nil_iff]
  intro call member
  obtain ⟨cpu, address, rfl⟩ := reads call member
  rfl

/-- Reading both registers takes only such calls. -/
theorem Graphics.readRegisters_calls (platform : Platform World) (cpu : Nat) (world : World) :
    ∀ call ∈ (readRegisters platform cpu world).calls, call.IsRead := by
  unfold readRegisters
  -- Each of the two readings may fail.
  split
  · simp [Call.IsRead]
  · simp only
    split <;> simp [Call.IsRead]

/-- Measuring graphics load takes only reads. -/
theorem Graphics.Probe.sample_calls (probe : Probe) (now : Nat) (platform : Platform World)
    (world : World) : ∀ call ∈ (probe.sample now platform world).calls, call.IsRead := by
  -- Whatever the baseline, measuring by registers is reading both of them.
  have registers : ∀ baseline,
      ∀ call ∈ (probe.sampleRegisters baseline platform world).calls, call.IsRead := by
    intro baseline
    simp only [sampleRegisters]
    split <;> exact Graphics.readRegisters_calls platform _ world
  simp only [sample]
  split
  -- Residency counters are files, which take no call.
  · simp
  · exact registers _
  -- The first measurement falls back on the registers if it finds no counters.
  · split
    · simp
    · exact registers none

/-- Reading both registers keeps the mode of the machine. -/
theorem Graphics.inLowPower_readRegisters {platform : Platform World}
    (tracks : platform.TracksMode) (cpu : Nat) (world : World) :
    platform.inLowPower (readRegisters platform cpu world).world = platform.inLowPower world := by
  -- The machine is the one that the last of the readings left.
  have first := tracks.inLowPower_readRegister cpu timeStampRegister world
  unfold readRegisters
  cases stamped : platform.readRegister cpu timeStampRegister world with
  | mk outcome after =>
    rw [stamped] at first
    cases outcome with
    | error fault => exact first
    | ok timeStamp =>
      have second := tracks.inLowPower_readRegister cpu activeResidencyRegister after
      cases resident : platform.readRegister cpu activeResidencyRegister after with
      | mk outcome last =>
        rw [resident] at second
        cases outcome <;> simp [resident, second, first]

/-- Measuring graphics load keeps the mode of the machine. -/
theorem Graphics.Probe.inLowPower_sample {platform : Platform World}
    (tracks : platform.TracksMode) (probe : Probe) (now : Nat) (world : World) :
    platform.inLowPower (probe.sample now platform world).world = platform.inLowPower world := by
  -- Only measurements by registers call the machine at all.
  have registers : ∀ baseline, platform.inLowPower
      (probe.sampleRegisters baseline platform world).world = platform.inLowPower world := by
    intro baseline
    simp only [sampleRegisters]
    split <;> exact Graphics.inLowPower_readRegisters tracks _ world
  simp only [sample]
  split
  · rfl
  · exact registers _
  · split
    · rfl
    · exact registers none

namespace Governor

/-- The polls of a run, each of which meets the machine that the one before left behind. -/
def run (platform : Platform World) :
    Governor → World → List (Occasion World) → List (Tick World)
  | _, _, [] => []
  | governor, world, occasion :: rest =>
    let tick := governor.tick occasion.now occasion.hint platform (occasion.drift world)
    tick :: run platform tick.governor tick.world rest

/-- The dwell gate that a poll without a hint consults, which the first such poll sets up. -/
def gateAt (governor : Governor) (now : Nat) : DwellGate :=
  governor.openedGate.getD (.new now governor.settings.entryDwell governor.settings.exitDwell)

/-- The measurements of a poll without a hint. -/
def measured (governor : Governor) (now : Nat) (platform : Platform World) (world : World) :
    Tick World :=
  let started : Governor :=
    { governor with
      sample := { governor.sample with timestamp := now }
      openedGate := some (governor.gateAt now) }
  let (loaded, notes) := started.measureCpus (platform.files world)
  let tick := loaded.measureGraphics now platform world
  { tick with notes := notes ++ tick.notes }

/-- Measuring takes only reads. -/
theorem measured_calls (governor : Governor) (now : Nat) (platform : Platform World)
    (world : World) : ∀ call ∈ (governor.measured now platform world).calls, call.IsRead :=
  governor.probe.sample_calls now platform world

/-- Measuring keeps the mode of the machine. -/
theorem inLowPower_measured {platform : Platform World} (tracks : platform.TracksMode)
    (governor : Governor) (now : Nat) (world : World) :
    platform.inLowPower (governor.measured now platform world).world =
      platform.inLowPower world :=
  governor.probe.inLowPower_sample tracks now world

/-- A poll without a hint measures the loads, and then either the policy states or the built-in
controller decide. -/
theorem tick_eq_measured_andThen {governor : Governor}
    (monitored : governor.settings.monitor = true) (now : Nat) (platform : Platform World)
    (world : World) :
    governor.tick now none platform world =
      (governor.measured now platform world).andThen fun loaded world =>
        if governor.selector.multiState then loaded.selectState none platform world
        else loaded.controlTick (governor.gateAt now) now platform world := by
  -- Both sides list the notes about the CPUs first, only bracketed differently.
  simp only [tick, monitored, if_true, tickOnLoad, Tick.andThen, measured, List.append_assoc]
  rfl

end Governor

end PowerGovernor
