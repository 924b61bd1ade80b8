import PowerGovernor.Proofs.Governor.Run
import PowerGovernor.Proofs.Platform.Logged
import PowerGovernor.Proofs.Policy.Configuration

/-! The polls of a run with what each of them met, and what a poll consists of when the policy
states decide. -/

namespace PowerGovernor

variable {World : Type}

/-- One poll of a run: the governor and the machine that it met, and what it was told. -/
structure Poll (World : Type) where
  /-- The governor before the poll. -/
  governor : Governor
  /-- The machine before the poll. -/
  world : World
  /-- Milliseconds on the controller's clock. -/
  now : Nat
  /-- The workload type, when it is known. -/
  hint : Option UInt32

/-- What comes of a poll. -/
def Poll.tick (platform : Platform World) (poll : Poll World) : Tick World :=
  poll.governor.tick poll.now poll.hint platform poll.world

/-- The command in a call, if it is one. -/
def Call.command? : Call → Option Command
  | .command asked => some asked
  | .readRegister _ _ => none

/-- What the machine was asked for in a poll, in order. -/
def Tick.commands (tick : Tick World) : List Command :=
  tick.calls.filterMap Call.command?

/-- Reading registers asks for nothing. -/
theorem filterMap_command?_of_reads {calls : List Call} (reads : ∀ call ∈ calls, call.IsRead) :
    calls.filterMap Call.command? = [] := by
  -- A reading is no command.
  rw [List.filterMap_eq_nil_iff]
  intro call member
  obtain ⟨cpu, address, rfl⟩ := reads call member
  rfl

/-- The calls of a decision ask for its commands. -/
theorem Policy.Decision.filterMap_command?_calls (decision : Policy.Decision) :
    decision.calls.filterMap Call.command? = decision.commands := by
  -- A decision calls the machine for nothing but its commands.
  rw [Policy.Decision.calls, List.filterMap_map]
  exact List.filterMap_some

/-- What a selection asks the machine for is what its decision says. -/
theorem Governor.commands_selectState (governor : Governor) (hint : Option UInt32)
    (platform : Platform World) (world : World) :
    (governor.selectState hint platform world).commands =
      (governor.selector.select governor.sample hint).2.commands :=
  Policy.Decision.filterMap_command?_calls _

/-- A first part of a poll that only reads registers asks the machine for nothing. -/
theorem Tick.commands_andThen {first : Tick World} (reads : ∀ call ∈ first.calls, call.IsRead)
    (second : Governor → World → Tick World) :
    (first.andThen second).commands = (second first.governor first.world).commands := by
  -- Only the calls of the second part are left.
  show (first.calls ++ _).filterMap Call.command? = _
  rw [List.filterMap_append, filterMap_command?_of_reads reads, List.nil_append]
  rfl

namespace Governor

/-- The polls of a run, each with the governor and the machine that the one before left behind. -/
def polls (platform : Platform World) :
    Governor → World → List (Occasion World) → List (Poll World)
  | _, _, [] => []
  | governor, world, occasion :: rest =>
    let poll : Poll World :=
      { governor, world := occasion.drift world, now := occasion.now, hint := occasion.hint }
    poll :: polls platform (poll.tick platform).governor (poll.tick platform).world rest

/-- What holds of the first governor and is kept by every poll with a hint of some kind holds of
every governor met, if all hints are of that kind. -/
theorem forall_polls_told (platform : Platform World) {told : Option UInt32 → Prop}
    {kept : Governor → Prop}
    (step : ∀ poll : Poll World, told poll.hint → kept poll.governor →
      kept (poll.tick platform).governor)
    {governor : Governor} (holds : kept governor) (world : World)
    {occasions : List (Occasion World)} (given : ∀ occasion ∈ occasions, told occasion.hint) :
    ∀ poll ∈ governor.polls platform world occasions, told poll.hint ∧ kept poll.governor := by
  -- Each poll hands a governor on of which the same holds.
  induction occasions generalizing governor world with
  | nil => simp [polls]
  | cons occasion rest ih =>
    obtain ⟨first, others⟩ := List.forall_mem_cons.mp given
    simp only [polls]
    exact List.forall_mem_cons.mpr ⟨⟨first, holds⟩, ih (step _ first holds) _ others⟩

/-- What holds of the first governor and is kept by every poll holds of every governor met. -/
theorem forall_polls (platform : Platform World) {kept : Governor → Prop}
    (step : ∀ poll : Poll World, kept poll.governor → kept (poll.tick platform).governor)
    {governor : Governor} (holds : kept governor) (world : World)
    (occasions : List (Occasion World)) :
    ∀ poll ∈ governor.polls platform world occasions, kept poll.governor := by
  -- Hints of any kind will do.
  have told := @forall_polls_told _ platform (fun _ => True) kept (fun poll _ => step poll) governor
    holds world occasions fun _ _ => trivial
  exact fun poll member => (told poll member).2

/-- Whether the policy states decide about a poll: with a hint they always do. -/
def policyDecides (governor : Governor) (hint : Option UInt32) : Bool :=
  hint.isSome || (governor.settings.monitor && governor.selector.multiState)

/-- Whether the built-in controller decides about a poll. -/
def controllerDecides (governor : Governor) (hint : Option UInt32) : Bool :=
  hint.isNone && governor.settings.monitor && !governor.selector.multiState

/-- Whether the interval of the selected state is recommended: with a hint only if graphics load is
polled. -/
def recommends (governor : Governor) (hint : Option UInt32) : Bool :=
  hint.isNone || governor.settings.pollOnHint

end Governor

namespace Poll

open Governor

/-- A poll about which the policy states decide is a selection for the loads it has measured: it
reads registers at most, and then asks for what the decision says. -/
theorem tick_of_policyDecides {poll : Poll World}
    (decides : poll.governor.policyDecides poll.hint = true) (platform : Platform World) :
    let tick := poll.tick platform
    let selected := poll.governor.selector.select tick.governor.sample poll.hint
    tick.governor.selector = selected.1 ∧
      tick.interval =
        (if poll.governor.recommends poll.hint then selected.2.interval else none) ∧
      tick.commands = selected.2.commands := by
  obtain ⟨governor, world, now, hint⟩ := poll
  simp only [Poll.tick] at decides ⊢
  -- With a hint the states always decide, and without one if there are enough of them.
  cases hint with
  | some hint =>
    simp only [Governor.tick, tickWithHint, recommends, Option.isNone_some, Bool.false_or]
    split
    · -- With a hint graphics load is all that is measured.
      refine ⟨rfl, rfl, ?_⟩
      rw [Tick.commands_andThen (governor.probe.sample_calls now platform world),
        commands_selectState]
      rfl
    · exact ⟨rfl, rfl, commands_selectState _ (some hint) platform world⟩
  | none =>
    simp only [policyDecides, Option.isSome_none, Bool.false_or, Bool.and_eq_true] at decides
    obtain ⟨monitored, enough⟩ := decides
    simp only [tick_eq_measured_andThen monitored, enough, if_true, recommends,
      Option.isNone_none, Bool.true_or]
    refine ⟨rfl, rfl, ?_⟩
    rw [Tick.commands_andThen (governor.measured_calls now platform world), commands_selectState]
    rfl

/-- A poll about which the policy states do not decide leaves them as they are. -/
theorem selector_tick_of_not_policyDecides {poll : Poll World}
    (other : poll.governor.policyDecides poll.hint = false) (platform : Platform World) :
    (poll.tick platform).governor.selector = poll.governor.selector := by
  obtain ⟨governor, world, now, hint⟩ := poll
  cases hint with
  | some hint => simp [policyDecides] at other
  | none =>
    simp only [Poll.tick]
    -- Unmonitored polls do nothing at all.
    cases monitored : governor.settings.monitor with
    | false => simp [Governor.tick, monitored]
    | true =>
      have few : governor.selector.multiState = false := by
        simpa [policyDecides, monitored] using other
      rw [tick_eq_measured_andThen monitored, few]
      -- A step of the built-in controller does not look at the policy states.
      simp only [Tick.andThen, Bool.false_eq_true, if_false, controlTick, controlMode]
      split <;> rfl

/-- Nothing that a poll does changes the configuration of the policy states. -/
theorem configured_tick (poll : Poll World) (platform : Platform World) :
    (poll.tick platform).governor.selector.table.configured =
      poll.governor.selector.table.configured := by
  -- A selection keeps the configuration, and without one the selector stays as it is.
  cases decides : poll.governor.policyDecides poll.hint with
  | true =>
    rw [(poll.tick_of_policyDecides decides platform).1]
    exact Policy.Selector.configured_select _ _ _
  | false => rw [poll.selector_tick_of_not_policyDecides decides platform]

/-- A poll leaves the settings of the governor as they are. -/
theorem settings_tick (poll : Poll World) (platform : Platform World) :
    (poll.tick platform).governor.settings = poll.governor.settings := by
  obtain ⟨governor, world, now, hint⟩ := poll
  simp only [Poll.tick]
  -- No part of a poll writes the settings, whichever parts are run.
  cases hint with
  | some hint =>
    simp only [Governor.tick, tickWithHint]
    split <;> rfl
  | none =>
    cases monitored : governor.settings.monitor with
    | false => simp [Governor.tick, monitored]
    | true =>
      rw [tick_eq_measured_andThen monitored]
      simp only [Tick.andThen]
      -- Either way of deciding keeps what is not its own.
      split
      · rfl
      · simp only [controlTick, controlMode]
        split <;> rfl

/-- A poll about which the built-in controller decides recommends what its step does. -/
theorem interval_tick_of_controllerDecides {poll : Poll World}
    (decides : poll.governor.controllerDecides poll.hint = true) (platform : Platform World) :
    let measured := poll.governor.measured poll.now platform poll.world
    (poll.tick platform).interval =
      (measured.governor.controlMode (poll.governor.gateAt poll.now) poll.now
        (platform.inLowPower measured.world)).2.interval := by
  obtain ⟨governor, world, now, hint⟩ := poll
  simp only [controllerDecides, Bool.and_eq_true, Option.isNone_iff_eq_none, Bool.not_eq_true']
    at decides
  -- The controller decides without a hint, on what was measured before.
  obtain ⟨⟨rfl, monitored⟩, few⟩ := decides
  simp only [Poll.tick]
  rw [tick_eq_measured_andThen monitored, few]
  rfl

/-- A poll about which nothing decides recommends nothing. -/
theorem interval_tick_of_undecided {poll : Poll World}
    (noPolicy : poll.governor.policyDecides poll.hint = false)
    (noController : poll.governor.controllerDecides poll.hint = false)
    (platform : Platform World) : (poll.tick platform).interval = none := by
  obtain ⟨governor, world, now, hint⟩ := poll
  cases hint with
  | some hint => simp [policyDecides] at noPolicy
  | none =>
    cases monitored : governor.settings.monitor with
    | false => simp [Poll.tick, Governor.tick, monitored]
    -- With monitoring one of the two decides.
    | true => cases enough : governor.selector.multiState <;>
        simp [policyDecides, controllerDecides, monitored, enough] at noPolicy noController

end Poll

end PowerGovernor
