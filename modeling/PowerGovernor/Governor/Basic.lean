import PowerGovernor.Dwell
import PowerGovernor.Graphics.Probe
import PowerGovernor.Load.Sampler
import PowerGovernor.Policy.Selector

/-! The governor: everything that is kept from one poll to the next. -/

namespace PowerGovernor

/-- The settings of the governor. -/
structure Settings where
  /-- Whether loads are polled without a workload hint. -/
  monitor : Bool := true
  /-- Whether graphics load is polled with a workload hint. -/
  pollOnHint : Bool := false
  /-- Low-power mode is entered at or below this system load. -/
  entryThreshold : BasisPoints := .ofPercent 10
  /-- Low-power mode is left above this CPU load. -/
  exitThreshold : BasisPoints := .ofPercent 95
  /-- Fixed poll interval outside low-power mode, zero for none. -/
  entryInterval : UInt32 := 0
  /-- Fixed poll interval in low-power mode, zero for none. -/
  exitInterval : UInt32 := 0
  /-- The dwell threshold for entering low-power mode, in milliseconds. -/
  entryDwell : Nat := 0
  /-- The dwell threshold for leaving low-power mode, in milliseconds. -/
  exitDwell : Nat := 0

/-- What a machine was doing after a poll. -/
inductive Mode where
  | normal
  | lowPower
  | state (id : Nat)
deriving DecidableEq, Inhabited

/-- The name of a mode. -/
def Mode.text : Mode → String
  | .normal => "NORMAL"
  | .lowPower => "LPM"
  | .state id => "STATE " ++ toString id

/-- Everything that is kept from one poll to the next. -/
structure Governor where
  /-- The settings. -/
  settings : Settings
  /-- Measures CPU and system load. -/
  sampler : Sampler
  /-- Measures graphics load. -/
  probe : Graphics.Probe
  /-- The dwell gate, once a poll without a hint has set it up. -/
  openedGate : Option DwellGate
  /-- Selects policy states. -/
  selector : Policy.Selector
  /-- The loads of the latest poll. -/
  sample : Sample
  /-- Whether the next verdict comes too early to be trusted. -/
  warmingUp : Bool
  /-- The latest verdict. -/
  status : LoadStatus

namespace Governor

/-- A governor that has polled nothing. -/
def new (settings : Settings) (table : Policy.Table) (sampler : Sampler)
    (probe : Graphics.Probe) : Governor where
  settings
  sampler
  probe
  openedGate := none
  selector := .ofTable table
  sample := {}
  warmingUp := true
  status := .unknown

/-- The dwell gate, which lets everything pass until it is set up. -/
def gate (governor : Governor) : DwellGate :=
  governor.openedGate.getD {}

/-- What the machine is doing. -/
def mode (governor : Governor) (lowPower : Bool) : Mode :=
  match governor.selector.currentState? with
  | some state => .state state.id
  | none => if lowPower then .lowPower else .normal

end Governor

end PowerGovernor
