import PowerGovernor.Proofs.Dwell.Gate
import PowerGovernor.Proofs.Governor.Run

/-! One step of the built-in controller, and the poll around it. -/

namespace PowerGovernor

namespace Governor

open Policy (Decision)

variable {World : Type}

/-- A system is found idle outside low-power mode, at a known load that is low enough. -/
theorem classify_eq_idle_iff {governor : Governor} {lowPower : Bool} :
    governor.classify lowPower = .idle ↔
      governor.warmingUp = false ∧ lowPower = false ∧
        ∃ system, governor.sample.system = some system ∧
          system ≤ governor.settings.entryThreshold := by
  unfold classify
  cases governor.warmingUp with
  -- Nothing is known before the warm-up is over.
  | true => simp
  | false =>
    cases lowPower with
    | true =>
      -- In low-power mode the CPU load decides between overload and normal.
      simp only [Bool.false_eq_true, if_false, if_true]
      split
      · split <;> simp
      · simp
    | false =>
      cases governor.sample.system with
      | none => simp
      | some system => by_cases low : system ≤ governor.settings.entryThreshold <;> simp [low]

/-- A CPU is found overloaded in low-power mode, at a known load that is too high. -/
theorem classify_eq_overload_iff {governor : Governor} {lowPower : Bool} :
    governor.classify lowPower = .overload ↔
      governor.warmingUp = false ∧ lowPower = true ∧
        ∃ cpu, governor.sample.cpu = some cpu ∧ governor.settings.exitThreshold < cpu := by
  unfold classify
  cases governor.warmingUp with
  | true => simp
  | false =>
    cases lowPower with
    | false =>
      -- Outside low-power mode the system load decides between idle and normal.
      simp only [Bool.false_eq_true, if_false]
      split
      · split <;> simp
      · simp
    | true =>
      cases governor.sample.cpu with
      | none => simp
      | some cpu => by_cases high : governor.settings.exitThreshold < cpu <;> simp [high]

/-- The governor after a step of the built-in controller that changes no mode. -/
def settled (governor : Governor) (gate : DwellGate) (now : Nat) (lowPower : Bool) : Governor :=
  let status := governor.classify lowPower
  { governor with
    status
    warmingUp := false
    openedGate := some (gate.request status now).1 }

/-- A step of the built-in controller changes no mode, or it makes the change that the verdict asks
for and the gate lets pass; after a change it warms up again. -/
theorem controlMode_cases (governor : Governor) (gate : DwellGate) (now : Nat) (lowPower : Bool) :
    let (next, decision) := governor.controlMode gate now lowPower
    (next = governor.settled gate now lowPower ∧ decision.commands = []) ∨
    ∃ change, governor.classify lowPower = ModeChange.verdict change ∧
      (gate.request change.verdict now).2.1 = true ∧
      next = { governor.settled gate now lowPower with
        warmingUp := true
        openedGate := some ((gate.request change.verdict now).1.mark change now) } ∧
      decision.commands = [.changeMode change] := by
  -- The gate is asked about the verdict, and its answer decides.
  simp only [controlMode]
  cases status : governor.classify lowPower with
  | idle =>
    cases allowed : (gate.request .idle now).2.1 with
    | true =>
      refine .inr ⟨.enter, rfl, allowed, ?_, rfl⟩
      simp [settled, status, DwellGate.mark, ModeChange.verdict]
    | false => simp [settled, status]
  | overload =>
    cases allowed : (gate.request .overload now).2.1 with
    | true =>
      refine .inr ⟨.leave, rfl, allowed, ?_, rfl⟩
      simp [settled, status, DwellGate.mark, ModeChange.verdict]
    | false => simp [settled, status]
  -- A gate without thresholds lets these two pass as well, but there is nothing to act on.
  | normal => cases allowed : (gate.request .normal now).2.1 <;> simp [settled, status]
  | unknown => cases allowed : (gate.request .unknown now).2.1 <;> simp [settled, status]

/-- What a poll does when the built-in controller decides: it measures the loads, takes one step
of the controller, and asks the machine for nothing but what that step asks for. -/
theorem tick_eq_controlMode {platform : Platform World} (tracks : platform.TracksMode)
    {governor : Governor} (monitored : governor.settings.monitor = true)
    (builtIn : governor.selector.multiState = false) (now : Nat) (world : World) :
    let tick := governor.tick now none platform world
    let (next, decision) := (governor.measured now platform world).governor.controlMode
      (governor.gateAt now) now (platform.inLowPower world)
    tick.governor = next ∧ tick.interval = decision.interval ∧
      tick.modeChanges = decision.calls.filterMap Call.modeChange? ∧
      (∀ command, .command command ∈ tick.calls → command ∈ decision.commands) ∧
      platform.inLowPower tick.world =
        decision.commands.foldl Command.modeAfter (platform.inLowPower world) := by
  have reads := governor.measured_calls now platform world
  have sameMode := inLowPower_measured tracks governor now world
  simp only [tick_eq_measured_andThen monitored, builtIn, Bool.false_eq_true, if_false,
    Tick.andThen, controlTick, Decision.carryOut, Tick.modeChanges, sameMode,
    List.filterMap_append, filterMap_modeChange?_of_reads reads, List.nil_append, true_and]
  refine ⟨?_, ?_⟩
  · intro command member
    rcases List.mem_append.mp member with measuring | deciding
    · -- A call of the measurements only reads a register.
      obtain ⟨cpu, address, same⟩ := reads _ measuring
      cases same
    · simpa [Decision.calls] using deciding
  · rw [tracks.inLowPower_performAll, sameMode]

/-- A poll asks the machine for changes of mode and for nothing else. -/
structure AsksOnly (platform : Platform World) (world : World) (tick : Tick World)
    (changes : List ModeChange) : Prop where
  /-- The changes are made in this order. -/
  modeChanges : tick.modeChanges = changes
  /-- There is no other command. -/
  commands : ∀ command, .command command ∈ tick.calls →
    command ∈ changes.map Command.changeMode
  /-- The last change says which mode the machine is in. -/
  inLowPower : platform.inLowPower tick.world =
    (changes.map Command.changeMode).foldl Command.modeAfter (platform.inLowPower world)

/-- A poll that the built-in controller decides changes no mode, or it makes the change that the
verdict on the loads asks for and the gate lets pass. -/
theorem tick_controlled {platform : Platform World} (tracks : platform.TracksMode)
    {governor : Governor} (monitored : governor.settings.monitor = true)
    (builtIn : governor.selector.multiState = false) (now : Nat) (world : World) :
    let tick := governor.tick now none platform world
    let measured := (governor.measured now platform world).governor
    let lowPower := platform.inLowPower world
    let gate := governor.gateAt now
    (tick.governor = measured.settled gate now lowPower ∧ AsksOnly platform world tick []) ∨
    ∃ change, measured.classify lowPower = ModeChange.verdict change ∧
      (gate.request change.verdict now).2.1 = true ∧
      tick.governor = { measured.settled gate now lowPower with
        warmingUp := true
        openedGate := some ((gate.request change.verdict now).1.mark change now) } ∧
      AsksOnly platform world tick [change] := by
  -- Whatever the step of the controller decided, the poll carries it out and nothing else.
  have poll := tick_eq_controlMode tracks monitored builtIn now world
  have step := (governor.measured now platform world).governor.controlMode_cases
    (governor.gateAt now) now (platform.inLowPower world)
  revert poll step
  cases (governor.measured now platform world).governor.controlMode (governor.gateAt now) now
    (platform.inLowPower world) with
  | mk next decision =>
    rintro ⟨left, _, changes, calls, mode⟩ step
    simp only at step
    unfold Policy.Decision.calls at changes
    rcases step with ⟨kept, quiet⟩ | ⟨change, verdict, allowed, made, asked⟩
    · rw [quiet] at changes calls mode
      exact .inl ⟨left.trans kept, changes, calls, mode⟩
    · rw [asked] at changes calls mode
      exact .inr ⟨change, verdict, allowed, left.trans made, changes, calls, mode⟩

end Governor

end PowerGovernor
