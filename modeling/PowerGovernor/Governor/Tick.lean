import PowerGovernor.Governor.TwoState
import PowerGovernor.Policy.Turn

/-! One poll: loads are measured, a decision is made, and the machine is asked to follow it. -/

namespace PowerGovernor

/-- The outcome of one poll. -/
structure Tick (World : Type) where
  /-- The governor after the poll. -/
  governor : Governor
  /-- The machine after the poll. -/
  world : World
  /-- The recommended poll interval in milliseconds; without one no poll is asked for. -/
  interval : Option UInt32
  /-- The calls that the poll took, in order. -/
  calls : List Call
  /-- What is reported about the poll. -/
  notes : List Note

/-- Two parts of one poll, the second after the first. -/
def Tick.andThen {World : Type} (first : Tick World)
    (second : Governor → World → Tick World) : Tick World :=
  let rest := second first.governor first.world
  { rest with calls := first.calls ++ rest.calls, notes := first.notes ++ rest.notes }

namespace Governor

variable {World : Type}

/-- Selects a policy state for the latest sample. -/
def selectState (governor : Governor) (hint : Option UInt32) (platform : Platform World)
    (world : World) : Tick World :=
  let turn := governor.selector.turn governor.sample hint platform world
  { governor := { governor with selector := turn.selector }
    world := turn.world
    interval := turn.interval
    calls := turn.calls
    notes := turn.notes }

/-- Measures graphics load. -/
def measureGraphics (governor : Governor) (now : Nat) (platform : Platform World)
    (world : World) : Tick World :=
  let measurement := governor.probe.sample now platform world
  { governor := { governor with
      probe := measurement.probe
      sample := { governor.sample with gfx := measurement.load } }
    world := measurement.world
    interval := none
    calls := measurement.calls
    notes := measurement.notes }

/-- Measures CPU and system load. -/
def measureCpus (governor : Governor) (files : FileTree) : Governor × List Note :=
  let (sampler, busy, notes) := governor.sampler.sample files
  ({ governor with
      sampler
      sample := { governor.sample with system := busy.map Busy.system, cpu := busy.map Busy.cpu } },
    notes)

/-- A poll with a workload hint: loads of the CPUs play no part in it. -/
def tickWithHint (governor : Governor) (now : Nat) (hint : UInt32) (platform : Platform World)
    (world : World) : Tick World :=
  if governor.settings.pollOnHint then
    (governor.measureGraphics now platform world).andThen fun governor world =>
      governor.selectState (some hint) platform world
  else
    { governor.selectState (some hint) platform world with interval := none }

/-- Has the built-in controller decide on the latest sample. -/
def controlTick (governor : Governor) (gate : DwellGate) (now : Nat)
    (platform : Platform World) (world : World) : Tick World :=
  let (governor, decision) := governor.controlMode gate now (platform.inLowPower world)
  let (notes, world) := decision.carryOut platform world
  { governor
    world
    interval := decision.interval
    calls := decision.calls
    notes }

/-- A poll without a hint: all loads are measured, then the policy states or the built-in
controller decide. -/
def tickOnLoad (governor : Governor) (now : Nat) (platform : Platform World) (world : World) :
    Tick World :=
  let gate := governor.openedGate.getD
    (.new now governor.settings.entryDwell governor.settings.exitDwell)
  let governor := { governor with openedGate := some gate }
  let (governor, notes) := governor.measureCpus (platform.files world)
  let tick := (governor.measureGraphics now platform world).andThen fun governor world =>
    if governor.selector.multiState then governor.selectState none platform world
    else governor.controlTick gate now platform world
  { tick with notes := notes ++ tick.notes }

/-- One poll at a time on the controller's clock. -/
def tick (governor : Governor) (now : Nat) (hint : Option UInt32) (platform : Platform World)
    (world : World) : Tick World :=
  let governor := { governor with sample := { governor.sample with timestamp := now } }
  match hint with
  | some hint => governor.tickWithHint now hint platform world
  | none =>
    if governor.settings.monitor then governor.tickOnLoad now platform world
    else { governor, world, interval := none, calls := [], notes := [] }

end Governor

end PowerGovernor
