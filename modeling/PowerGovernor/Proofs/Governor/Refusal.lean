import PowerGovernor.Platform.Simulated
import PowerGovernor.Proofs.Governor.Likeness
import PowerGovernor.Proofs.Governor.Polls

/-! A machine that refuses its settings is asked for all of them all the same, and decides
nothing. -/

namespace PowerGovernor

variable {World : Type}

/-- A poll of a machine with a log, which has gained the calls of the poll. -/
def Tick.logged (tick : Tick World) (log : List Call) : Tick (Logged World) where
  governor := tick.governor
  world := ⟨tick.world, log ++ tick.calls⟩
  interval := tick.interval
  calls := tick.calls
  notes := tick.notes

/-- A log lists the calls of both parts of a poll in turn. -/
theorem Tick.andThen_logged (first : Tick World) (log : List Call)
    {second : Governor → World → Tick World}
    {watched : Governor → Logged World → Tick (Logged World)}
    (same : ∀ governor met, watched governor met = (second governor met.world).logged met.log) :
    (first.logged log).andThen watched = (first.andThen second).logged log := by
  -- The second part adds its calls to a log that ends with those of the first one.
  simp only [Tick.andThen, same]
  simp [Tick.logged, List.append_assoc]

namespace Governor

variable (governor : Governor) (platform : Platform World) (met : Logged World)

/-- A log has no influence on a selection, and lists what is asked for. -/
theorem selectState_logged (hint : Option UInt32) :
    governor.selectState hint platform.logged met =
      (governor.selectState hint platform met.world).logged met.log := by
  -- The selection itself never looks at the machine; only the commands reach the log.
  simp only [selectState, Policy.Selector.turn, Policy.Decision.carryOut,
    Platform.performAll_logged]
  rfl

/-- A log has no influence on a step of the built-in controller, and lists what is asked for. -/
theorem controlTick_logged (gate : DwellGate) (now : Nat) :
    governor.controlTick gate now platform.logged met =
      (governor.controlTick gate now platform met.world).logged met.log := by
  -- The machine is only asked for its mode, which a log leaves as it is.
  simp only [controlTick, Policy.Decision.carryOut, Platform.performAll_logged]
  rfl

/-- A log has no influence on the measurement of graphics load, and lists its readings. -/
theorem measureGraphics_logged (now : Nat) :
    governor.measureGraphics now platform.logged met =
      (governor.measureGraphics now platform met.world).logged met.log := by
  -- The probe has its own law for logs, and the rest of the poll hands its result on.
  simp only [measureGraphics, Graphics.Probe.sample_logged]
  rfl

/-- A log has no influence on a poll, and lists exactly the calls that the poll says it took. -/
theorem tick_logged (now : Nat) (hint : Option UInt32) :
    governor.tick now hint platform.logged met =
      (governor.tick now hint platform met.world).logged met.log := by
  -- Every part of a poll passes the log on, so the cases follow the parts that are run.
  cases hint with
  | some hint =>
    simp only [tick, tickWithHint, measureGraphics_logged]
    split
    · -- Graphics load is measured first, and the selection follows.
      exact Tick.andThen_logged _ _ fun governor met =>
        governor.selectState_logged platform met (some hint)
    · -- Nothing is measured, and the poll is the selection.
      rw [selectState_logged]
      rfl
  | none =>
    cases monitored : governor.settings.monitor with
    | false => simp [tick, monitored, Tick.logged]
    | true =>
      rw [tick_eq_measured_andThen monitored, tick_eq_measured_andThen monitored]
      have measured : governor.measured now platform.logged met =
          (governor.measured now platform met.world).logged met.log := by
        simp only [Governor.measured, measureGraphics_logged]
        rfl
      rw [measured]
      -- From the same loads the policy states decide on both machines, or the controller does.
      refine Tick.andThen_logged _ _ fun loaded met => ?_
      split
      · exact loaded.selectState_logged platform met none
      · exact loaded.controlTick_logged platform met _ now

end Governor

namespace Policy.Selector

/-- A state that is newly entered asks for everything it has a setting for, then for its CPUs, and
at last for low-power mode. -/
theorem commands_enter_of_new {selector : Selector} {index : Nat} {state : State}
    (present : selector.table.states[index]? = some state)
    (fresh : selector.current ≠ some index) (sample : Sample) :
    (selector.enter index sample).2.commands =
      state.epp.toList.map .setEpp ++ state.epb.toList.map .setEpb ++
        state.itmt.toList.map .setItmt ++
        [.setActiveCpus state.activeCpus (if state.activeCpus.isSome then state.irq else .ignore),
          .changeMode .enter] := by
  simp only [enter, present, if_neg fresh, State.commands]
  -- Every optional setting is there or not.
  cases state.activeCpus <;> cases state.epp <;> cases state.epb <;> cases state.itmt <;> rfl

end Policy.Selector

/-- A poll makes every call it says it makes, and if the policy states decide, it asks the machine
for all that the newly entered state wants, or for nothing. -/
structure Poll.AsksInFull (platform : Platform World) (poll : Poll World) : Prop where
  /-- The log of the machine gains exactly the calls of the poll, which are the same without it. -/
  logged : ∀ log, poll.governor.tick poll.now poll.hint platform.logged ⟨poll.world, log⟩ =
    (poll.tick platform).logged log
  /-- Nothing is asked for when no state admits the sample. -/
  unmatched : poll.governor.policyDecides poll.hint = true →
    poll.governor.selector.find? (poll.tick platform).governor.sample poll.hint = none →
    (poll.tick platform).commands = [] ∧
      (poll.tick platform).governor.selector = poll.governor.selector
  /-- Nothing is asked for when the state that is held is selected again. -/
  kept : poll.governor.policyDecides poll.hint = true → ∀ index,
    poll.governor.selector.find? (poll.tick platform).governor.sample poll.hint = some index →
    poll.governor.selector.current = some index →
    (poll.tick platform).commands = [] ∧
      (poll.tick platform).governor.selector.current = some index
  /-- A state that is newly entered gets everything it is configured with, in a fixed order. -/
  entered : poll.governor.policyDecides poll.hint = true → ∀ index,
    poll.governor.selector.find? (poll.tick platform).governor.sample poll.hint = some index →
    poll.governor.selector.current ≠ some index →
    (poll.tick platform).governor.selector.current = some index ∧
      ∃ state, poll.governor.selector.table.states[index]? = some state ∧
        (poll.tick platform).commands =
          state.epp.toList.map .setEpp ++ state.epb.toList.map .setEpb ++
            state.itmt.toList.map .setItmt ++
            [.setActiveCpus state.activeCpus
                (if state.activeCpus.isSome then state.irq else .ignore),
              .changeMode .enter]

/-- Every poll asks in full, of whichever machine. -/
theorem Poll.asksInFull (platform : Platform World) (poll : Poll World) :
    poll.AsksInFull platform where
  logged log := poll.governor.tick_logged platform ⟨poll.world, log⟩ poll.now poll.hint
  unmatched decides missing := by
    -- What a poll asks for is what its selection asks for, in each of the three cases.
    obtain ⟨next, -, asked⟩ := poll.tick_of_policyDecides decides platform
    rw [Policy.Selector.select_of_none missing] at next asked
    exact ⟨asked, next⟩
  kept decides index found held := by
    obtain ⟨next, -, asked⟩ := poll.tick_of_policyDecides decides platform
    rw [Policy.Selector.select_of_some found] at next asked
    obtain ⟨state, present⟩ := Policy.Selector.exists_of_find? found
    refine ⟨asked.trans (Policy.Selector.commands_enter_of_held held _), ?_⟩
    exact (congrArg _ next).trans (Policy.Selector.current_enter present _)
  entered decides index found fresh := by
    obtain ⟨next, -, asked⟩ := poll.tick_of_policyDecides decides platform
    rw [Policy.Selector.select_of_some found] at next asked
    obtain ⟨state, present⟩ := Policy.Selector.exists_of_find? found
    refine ⟨(congrArg _ next).trans (Policy.Selector.current_enter present _), state, present, ?_⟩
    exact asked.trans (Policy.Selector.commands_enter_of_new present fresh _)

namespace Simulated

/-- Two simulated machines that differ at most in the settings that they refuse and show. -/
def SameButSettings (one other : Simulated) : Prop :=
  ∃ posture refused, other = { one with posture, refused }

/-- A setting that is changed or refused leaves everything but the settings alone. -/
theorem sameButSettings_change (world : Simulated) (knob : Knob) (posture : Posture) :
    world.SameButSettings (world.change knob { world with posture }).2 := by
  -- A machine that refuses stays as it is, and one that does not changes its posture only.
  unfold change
  split
  · exact ⟨world.posture, world.refused, rfl⟩
  · exact ⟨posture, world.refused, rfl⟩

/-- A command does to two machines with different settings the same, apart from the settings. -/
theorem SameButSettings.perform {one other : Simulated} (same : one.SameButSettings other)
    (command : Command) :
    (Simulated.perform command one).2.SameButSettings (Simulated.perform command other).2 := by
  obtain ⟨posture, refused, rfl⟩ := same
  -- On either machine a setting is changed or refused, and both stay what they were otherwise.
  have settled : ∀ knob (left right : Posture),
      (one.change knob { one with posture := left }).2.SameButSettings
        (change { one with posture, refused } knob
          { one with posture := right, refused }).2 := by
    intro knob left right
    obtain ⟨_, _, first⟩ := one.sameButSettings_change knob left
    obtain ⟨_, _, second⟩ :=
      sameButSettings_change { one with posture, refused } knob right
    rw [first, second]
    exact ⟨_, _, rfl⟩
  -- Four commands change a setting; the mode is changed on every machine, whatever it refuses.
  cases command with
  | setEpp value => exact settled .epp _ _
  | setEpb value => exact settled .epb _ _
  | setItmt value => exact settled .itmt _ _
  | setActiveCpus cpus irq => exact settled .activeCpus one.posture posture
  | changeMode change => exact ⟨posture, refused, rfl⟩

/-- Simulated machines look alike whichever settings they refuse. -/
theorem sameButSettings_looksLike :
    platform.LooksLike platform (fun _ => True) SameButSettings where
  -- Nothing that is read depends on what the machines show or refuse.
  files := by
    rintro one _ ⟨posture, refused, rfl⟩ path _
    rfl
  currentCpu := by
    rintro one _ ⟨posture, refused, rfl⟩
    rfl
  register := by
    rintro one _ ⟨posture, refused, rfl⟩ cpu address
    simp only [platform, readRegister]
    split <;> rfl
  readRegister := by
    rintro one _ ⟨posture, refused, rfl⟩ cpu address
    simp only [platform, readRegister]
    split <;> exact ⟨posture, refused, rfl⟩
  inLowPower := by
    rintro one _ ⟨posture, refused, rfl⟩
    rfl
  perform := fun same command => same.perform command

end Simulated

namespace Governor

/-- Settings that fail have no influence on anything that the governor decides or tries.

On two machines that look alike, but of which one may refuse what the other one does, two runs have
the same governors after every poll, with the same states and the loads recorded for them, recommend
the same intervals and make the same calls. Every poll of both runs asks in full for what the policy
demands. -/
theorem refusals_change_nothing {Left Right : Type} {left : Platform Left}
    {right : Platform Right} {watched : Path → Prop} {alike : Left → Right → Prop}
    (looks : left.LooksLike right watched alike) (governor : Governor)
    (seen : ∀ path ∈ governor.reads, watched path) {firsts : List (Occasion Left)}
    {seconds : List (Occasion Right)}
    (occasions : List.Forall₂ (Occasion.Alike alike) firsts seconds) {one : Left} {other : Right}
    (related : alike one other) :
    List.Forall₂ (Tick.Alike alike) (governor.run left one firsts)
        (governor.run right other seconds) ∧
      (∀ poll ∈ governor.polls left one firsts, poll.AsksInFull left) ∧
      ∀ poll ∈ governor.polls right other seconds, poll.AsksInFull right :=
  ⟨run_alike looks occasions governor related seen, fun poll _ => poll.asksInFull left,
    fun poll _ => poll.asksInFull right⟩

/-- Two policy states by workload, of which the first one has all settings. -/
def byWorkload : Policy.Table :=
  .ofSpecs [{ name := "video", workload := some 1, epp := some 192, epb := some 8,
              itmt := some 0, activeCpus := "0-1", irq := .enable },
    { name := "build", workload := some 2, epp := some 64, irq := .enable }]

/-- Workloads that come one after the other, on a machine that begins to refuse some settings. -/
def workloads (refused : List Knob) : List (Occasion Simulated) :=
  [1, 1, 2, 3].map fun hint =>
    { now := 0, drift := fun world => { world with refused }, hint := some hint }

/-- A machine that refuses all settings is asked for the same as one that refuses none. -/
theorem refusals_change_nothing_workloads :
    let governor := Governor.new { pollOnHint := true } byWorkload (.new ["stat"] 1)
      (.new ["tile0"])
    let machine : Simulated := { files := .rooted [] }
    let willing := governor.run Simulated.platform machine (workloads [])
    let refusing := governor.run Simulated.platform machine
      (workloads [.epp, .epb, .itmt, .activeCpus])
    refusing.map Tick.commands =
        [[.setEpp 192, .setEpb 8, .setItmt 0, .setActiveCpus (some (.interval 0 1)) .enable,
            .changeMode .enter],
          [], [.setEpp 64, .setActiveCpus none .ignore, .changeMode .enter], []] ∧
      willing.map (fun tick => tick.world.posture.epp) = [.raw 192, .raw 192, .raw 64, .raw 64] ∧
      refusing.map (fun tick => tick.world.posture.epp) =
        [.unknown, .unknown, .unknown, .unknown] ∧
      List.Forall₂ (Tick.Alike Simulated.SameButSettings) willing refusing := by
  refine ⟨by decide +kernel, by decide +kernel, by decide +kernel, ?_⟩
  refine (refusals_change_nothing Simulated.sameButSettings_looksLike _ (fun _ _ => trivial) ?_
    ⟨_, _, rfl⟩).1
  -- At every moment the machines may begin to refuse different settings.
  refine List.forall₂_map_left_iff.mpr (List.forall₂_map_right_iff.mpr ?_)
  refine List.forall₂_same.mpr fun hint _ => ⟨rfl, rfl, ?_⟩
  rintro one _ ⟨posture, refused, rfl⟩
  exact ⟨posture, _, rfl⟩

end Governor

end PowerGovernor
