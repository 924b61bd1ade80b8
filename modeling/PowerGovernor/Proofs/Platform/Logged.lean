import PowerGovernor.Graphics.Probe

/-! Machines with a log of the calls that are made to them, so that calls are seen to be made. -/

namespace PowerGovernor

/-- A machine together with the calls that have been made to it. -/
structure Logged (World : Type) where
  /-- The machine. -/
  world : World
  /-- The calls made to the machine, the first one first. -/
  log : List Call

variable {World : Type}

/-- The same kind of machine, with a log: every reading of a register and every command is put down
before it is known whether it fails. -/
def Platform.logged (platform : Platform World) : Platform (Logged World) where
  files met := platform.files met.world
  currentCpu met := platform.currentCpu met.world
  readRegister cpu address met :=
    let (outcome, world) := platform.readRegister cpu address met.world
    (outcome, ⟨world, met.log ++ [.readRegister cpu address]⟩)
  inLowPower met := platform.inLowPower met.world
  posture met := platform.posture met.world
  perform command met :=
    let (response, world) := platform.perform command met.world
    (response, ⟨world, met.log ++ [.command command]⟩)

namespace Platform

variable (platform : Platform World)

/-- A command is put down, whatever the machine answers. -/
@[simp] theorem perform_logged (command : Command) (met : Logged World) :
    platform.logged.perform command met =
      ((platform.perform command met.world).1,
        ⟨(platform.perform command met.world).2, met.log ++ [.command command]⟩) := rfl

/-- A reading is put down, whatever it finds. -/
@[simp] theorem readRegister_logged (cpu : Nat) (address : UInt32) (met : Logged World) :
    platform.logged.readRegister cpu address met =
      ((platform.readRegister cpu address met.world).1,
        ⟨(platform.readRegister cpu address met.world).2,
          met.log ++ [.readRegister cpu address]⟩) := rfl

/-- Commands are all put down in order, however many of them fail. -/
theorem performAll_logged (commands : List Command) (met : Logged World) :
    platform.logged.performAll commands met =
      ((platform.performAll commands met.world).1,
        ⟨(platform.performAll commands met.world).2, met.log ++ commands.map .command⟩) := by
  induction commands generalizing met with
  | nil => simp [performAll]
  -- The first command is put down whether it fails or not, and the rest is carried out anyway.
  | cons command rest ih => simp [performAll, ih, List.append_assoc]

/-- A log has no influence on the reading of both registers, and lists it. -/
theorem readRegisters_logged (cpu : Nat) (met : Logged World) :
    let reading := Graphics.readRegisters platform cpu met.world
    Graphics.readRegisters platform.logged cpu met =
      ⟨reading.outcome, ⟨reading.world, met.log ++ reading.calls⟩, reading.calls⟩ := by
  simp only [Graphics.readRegisters, readRegister_logged]
  -- The second register is only read, and put down, after the first one could be read.
  cases platform.readRegister cpu Graphics.timeStampRegister met.world with
  | mk stamp after =>
    cases stamp with
    | error fault => rfl
    | ok timeStamp =>
      simp only
      cases platform.readRegister cpu Graphics.activeResidencyRegister after with
      | mk count last => cases count <;> simp

end Platform

namespace Graphics

/-- A measurement of a machine with a log. -/
def Measurement.logged (measurement : Measurement World) (log : List Call) :
    Measurement (Logged World) where
  probe := measurement.probe
  load := measurement.load
  world := ⟨measurement.world, log ++ measurement.calls⟩
  calls := measurement.calls
  notes := measurement.notes

namespace Probe

variable (probe : Probe) (platform : Platform World) (met : Logged World)

/-- A log has no influence on a measurement by registers, and lists its calls. -/
theorem sampleRegisters_logged (baseline : Option RegisterPair) :
    probe.sampleRegisters baseline platform.logged met =
      (probe.sampleRegisters baseline platform met.world).logged met.log := by
  have reading := platform.readRegisters_logged (platform.currentCpu met.world) met
  simp only [sampleRegisters]
  -- Both readings have the same outcome, on the same CPU.
  rw [show platform.logged.currentCpu met = platform.currentCpu met.world from rfl, reading]
  cases (readRegisters platform (platform.currentCpu met.world) met.world).outcome <;> rfl

/-- A log has no influence on a measurement, and lists its calls. -/
theorem sample_logged (now : Nat) :
    probe.sample now platform.logged met =
      (probe.sample now platform met.world).logged met.log := by
  simp only [sample]
  -- The machine with a log has the same files.
  rw [show platform.logged.files met = platform.files met.world from rfl]
  cases probe.source with
  -- Residency counters are files, so no call is made.
  | residency tier => simp [Measurement.logged]
  | registers baseline => exact sampleRegisters_logged probe platform met baseline
  | undecided =>
    simp only [sampleRegisters_logged]
    cases discover probe.root (platform.files met.world) with
    | mk paths notes => cases paths <;> simp [Measurement.logged]

end Probe

end Graphics

end PowerGovernor
