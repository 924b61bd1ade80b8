import PowerGovernor.Governor.Basic

/-! The built-in controller: low-power mode for an idle system, and out of it for a busy CPU. -/

namespace PowerGovernor.Governor

open Policy (Decision)

/-- The verdict on the latest loads; only known loads lead to a change. -/
def classify (governor : Governor) (lowPower : Bool) : LoadStatus :=
  if governor.warmingUp then .normal
  else if lowPower then
    match governor.sample.cpu with
    | some cpu => if governor.settings.exitThreshold < cpu then .overload else .normal
    | none => .normal
  else
    match governor.sample.system with
    | some system => if system ≤ governor.settings.entryThreshold then .idle else .normal
    | none => .normal

/-- The poll interval in low-power mode, which follows the CPU load unless it is fixed. -/
def intervalInside (governor : Governor) : UInt32 :=
  if 0 < governor.settings.exitInterval then governor.settings.exitInterval
  else
    match governor.sample.cpu with
    | some cpu =>
      if governor.warmingUp then Policy.defaultInterval
      else
        max (Policy.floorToHundred (Policy.idlePart Policy.defaultInterval cpu))
          Policy.shortestInterval
    | none => Policy.defaultInterval

/-- The poll interval outside low-power mode. -/
def intervalOutside (governor : Governor) : UInt32 :=
  if 0 < governor.settings.entryInterval then governor.settings.entryInterval
  else Policy.defaultInterval

/-- The poll interval that suits the mode. -/
def pollInterval (governor : Governor) (lowPower : Bool) : UInt32 :=
  if lowPower then governor.intervalInside else governor.intervalOutside

/-- What is reported about a verdict. -/
def verdictNote (governor : Governor) (status : LoadStatus) (interval : UInt32) : Note :=
  .info (pad .left 8 status.label ++ " SYS util " ++ pad .right 6 governor.sample.system.text ++
    " (entry threshold " ++ pad .right 6 governor.settings.entryThreshold.text ++
    "), CPU util " ++ pad .right 6 governor.sample.cpu.text ++
    " (exit threshold " ++ pad .right 6 governor.settings.exitThreshold.text ++
    "), resample after " ++ padNumber 4 interval.toNat ++ " ms")

/-- One step of the built-in controller. -/
def controlMode (governor : Governor) (gate : DwellGate) (now : Nat) (lowPower : Bool) :
    Governor × Decision :=
  let status := governor.classify lowPower
  let interval := governor.pollInterval lowPower
  let (gate, allowed, gateNotes) := gate.request status now
  let before := governor.verdictNote status interval :: gateNotes
  let settled : Governor := { governor with status, warmingUp := false, openedGate := some gate }
  match allowed, status with
  | true, .idle =>
    ({ settled with warmingUp := true, openedGate := some (gate.markEntered now) },
      { interval := some Policy.defaultInterval, commands := [.changeMode .enter], before })
  | true, .overload =>
    ({ settled with warmingUp := true, openedGate := some (gate.markLeft now) },
      { interval := some interval, commands := [.changeMode .leave], before })
  | _, _ => (settled, { interval := some interval, before })

end PowerGovernor.Governor
