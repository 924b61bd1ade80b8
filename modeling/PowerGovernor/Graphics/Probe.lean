import PowerGovernor.Graphics.Registers
import PowerGovernor.Graphics.Residency

/-! Graphics load from the best source of the machine, which is chosen once. -/

namespace PowerGovernor.Graphics

/-- The source of graphics load. -/
inductive Source where
  /-- No source has been looked for. -/
  | undecided
  /-- The residency counters of the engines. -/
  | residency (tier : ResidencyTier)
  /-- The registers, with the last pair that could be read. -/
  | registers (baseline : Option RegisterPair)
deriving DecidableEq

/-- A measurement of graphics load over time. -/
structure Probe where
  /-- Where the engines of the tile are found. -/
  root : Path
  /-- The source in use. -/
  source : Source
deriving DecidableEq

/-- One measurement, with the machine and its calls. -/
structure Measurement (World : Type) where
  /-- The probe after the measurement. -/
  probe : Probe
  /-- The load, if it could be measured. -/
  load : Reading
  /-- The machine after the measurement. -/
  world : World
  /-- The calls that the measurement took. -/
  calls : List Call
  /-- What is reported about the measurement. -/
  notes : List Note

namespace Probe

/-- A probe that has measured nothing. -/
def new (root : Path) : Probe := { root, source := .undecided }

/-- Whether the residency counters have not been ruled out. -/
def residencyPossible (probe : Probe) : Bool :=
  match probe.source with
  | .registers _ => false
  | .undecided | .residency _ => true

variable {World : Type}

/-- Measures the load from the registers; readings that fail leave the baseline alone. -/
def sampleRegisters (probe : Probe) (baseline : Option RegisterPair)
    (platform : Platform World) (world : World) : Measurement World :=
  let cpu := platform.currentCpu world
  let reading := readRegisters platform cpu world
  match reading.outcome with
  | .error fault =>
    { probe := { probe with source := .registers baseline }
      load := none
      world := reading.world
      calls := reading.calls
      notes := [.debug ("gfx msr read failed on cpu " ++ toString cpu ++ ": " ++
        fault.summary)] }
  | .ok pair =>
    { probe := { probe with source := .registers (some pair) }
      load := baseline.bind (loadBetween pair)
      world := reading.world
      calls := reading.calls
      notes := [] }

/-- Measures the load; the first measurement decides the source for good. -/
def sample (probe : Probe) (now : Nat) (platform : Platform World) (world : World) :
    Measurement World :=
  let files := platform.files world
  match probe.source with
  | .residency tier =>
    let (tier, load, notes) := tier.sample files now
    { probe := { probe with source := .residency tier }, load, world, calls := [], notes }
  | .registers baseline => probe.sampleRegisters baseline platform world
  | .undecided =>
    match discover probe.root files with
    | (some paths, notes) =>
      let tier := ResidencyTier.start paths files now
      { probe := { probe with source := .residency tier }
        load := none
        world
        calls := []
        notes }
    | (none, notes) =>
      let measurement := probe.sampleRegisters none platform world
      { measurement with
        notes := notes ++ [.debug ("gtidle sysfs unavailable under " ++ probe.root.text ++
          ", using msr")] ++ measurement.notes }

end Probe

end PowerGovernor.Graphics
