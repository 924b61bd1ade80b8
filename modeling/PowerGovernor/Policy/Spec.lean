/-! Policy states as they are configured. -/

namespace PowerGovernor

/-- What happens to interrupts when the active CPUs change. -/
inductive IrqPolicy where
  | enable
  | disable
  | ignore
deriving DecidableEq, Inhabited

/-- The name of an interrupt policy in messages. -/
def IrqPolicy.label : IrqPolicy → String
  | .enable => "Enable"
  | .disable => "Disable"
  | .ignore => "Ignore"

namespace Policy

/-- How the poll interval moves while a state is kept. -/
inductive Increment where
  /-- Every poll adds a fixed number of milliseconds. -/
  | fixed (step : UInt32)
  /-- The interval follows the idle share of the busiest CPU. -/
  | adaptive
  /-- The interval stays as it is. -/
  | passthrough
deriving DecidableEq, Inhabited

/-- A policy state as configured: loads in percent, zero for a value that is not set. -/
structure Spec where
  /-- The name of the state. -/
  name : String
  /-- The workload type the state is meant for. -/
  workload : Option UInt32 := none
  /-- Largest system load for entering, in percent. -/
  systemPercent : UInt32 := 0
  /-- Largest CPU load for entering, in percent. -/
  cpuPercent : UInt32 := 0
  /-- CPU load for leaving, in percent. -/
  cpuExitPercent : UInt32 := 0
  /-- Largest graphics load for entering, in percent. -/
  gfxPercent : UInt32 := 0
  /-- How far the system load may rise above its limit before the state is left, in basis
  points. -/
  marginPoints : UInt32 := 0
  /-- Shortest poll interval in milliseconds. -/
  minInterval : UInt32 := 0
  /-- Longest poll interval in milliseconds. -/
  maxInterval : UInt32 := 0
  /-- How the poll interval moves, when it is configured. -/
  increment : Option Increment := none
  /-- The CPUs that stay active, as a list of numbers and ranges. -/
  activeCpus : String := ""
  /-- What happens to interrupts. -/
  irq : IrqPolicy := .ignore
  /-- Energy-performance preference of the state. -/
  epp : Option UInt32 := none
  /-- Energy-performance bias of the state. -/
  epb : Option UInt32 := none
  /-- Turbo core scheduling of the state. -/
  itmt : Option UInt32 := none
deriving DecidableEq

end Policy

end PowerGovernor
