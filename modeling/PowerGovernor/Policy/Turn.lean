import PowerGovernor.Policy.Selector

/-! Decisions that a machine carries out. -/

namespace PowerGovernor.Policy

variable {World : Type}

/-- Has a machine carry out a decision. -/
def Decision.carryOut (decision : Decision) (platform : Platform World) (world : World) :
    List Note × World :=
  let (notes, world) := platform.performAll decision.commands world
  (decision.before ++ notes ++ decision.after, world)

/-- The calls that a decision takes. -/
def Decision.calls (decision : Decision) : List Call :=
  decision.commands.map Call.command

/-- A selection that a machine has carried out. -/
structure Turn (World : Type) where
  /-- The selector after the selection. -/
  selector : Selector
  /-- The machine after the selection. -/
  world : World
  /-- The recommended poll interval, when a state was selected. -/
  interval : Option UInt32
  /-- The calls that the selection took. -/
  calls : List Call
  /-- What is reported about the selection. -/
  notes : List Note

/-- Selects a state for a sample and reports on the state that is held. -/
def Selector.turn (selector : Selector) (sample : Sample) (hint : Option UInt32)
    (platform : Platform World) (world : World) : Turn World :=
  let (selector, decision) := selector.select sample hint
  let (notes, world) := decision.carryOut platform world
  { selector
    world
    interval := decision.interval
    calls := decision.calls
    notes := notes ++
      selector.statusNotes sample decision.interval (platform.posture world) }

end PowerGovernor.Policy
