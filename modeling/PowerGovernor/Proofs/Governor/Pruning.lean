import Mathlib.Data.List.Forall2
import PowerGovernor.Platform.Simulated
import PowerGovernor.Proofs.Governor.Polls
import PowerGovernor.Proofs.Policy.Pruning

/-! A state whose CPU list cannot be read might as well not be configured. -/

namespace PowerGovernor

variable {World : Type}

/-- The governor without the unusable policy states. -/
def Governor.pruned (governor : Governor) : Governor :=
  { governor with selector := governor.selector.pruned }

/-- Two polls of which the second one does the same without the unusable states. -/
structure Tick.Pruned (first second : Tick World) : Prop where
  /-- The governors differ in the unusable states and the numbers of the others. -/
  governor : second.governor = first.governor.pruned
  /-- The machine has become the same. -/
  world : second.world = first.world
  /-- The same interval is recommended. -/
  interval : second.interval = first.interval
  /-- The same calls were made. -/
  calls : second.calls = first.calls

/-- Two parts of a poll do the same without the unusable states if each of them does. -/
theorem Tick.Pruned.andThen {first second : Tick World} (begun : first.Pruned second)
    {more : Governor → World → Tick World}
    (ended : (more first.governor first.world).Pruned (more first.governor.pruned first.world)) :
    (first.andThen more).Pruned (second.andThen more) := by
  -- The second part starts from where the first one ended on either side.
  simp only [Tick.andThen, begun.governor, begun.world]
  exact ⟨ended.governor, ended.world, ended.interval, by rw [begun.calls, ended.calls]⟩

namespace Governor

variable (governor : Governor) (platform : Platform World) (world : World)

/-- The same state is selected, and the machine is asked for the same. -/
theorem selectState_pruned (sound : governor.selector.Sound) (hint : Option UInt32) :
    (governor.selectState hint platform world).Pruned
      (governor.pruned.selectState hint platform world) := by
  obtain ⟨next, interval, commands⟩ :=
    Policy.Selector.select_pruned sound governor.sample hint
  -- The same commands go to the same machine, which therefore becomes the same.
  refine ⟨?_, ?_, interval, ?_⟩
  · simp only [selectState, Policy.Selector.turn, pruned, next]
  · simp only [selectState, Policy.Selector.turn, pruned, Policy.Decision.carryOut, commands]
  · simp only [selectState, Policy.Selector.turn, pruned, Policy.Decision.calls, commands]

/-- The built-in controller does not look at the policy states. -/
theorem controlTick_pruned (gate : DwellGate) (now : Nat) :
    (governor.controlTick gate now platform world).Pruned
      (governor.pruned.controlTick gate now platform world) := by
  -- One step of the controller commutes with leaving states out, and the rest of the poll follows
  -- it.
  have step : ∀ lowPower, governor.pruned.controlMode gate now lowPower =
      ((governor.controlMode gate now lowPower).1.pruned,
        (governor.controlMode gate now lowPower).2) := by
    intro lowPower
    have verdict : governor.pruned.classify lowPower = governor.classify lowPower := rfl
    have suited : governor.pruned.pollInterval lowPower = governor.pollInterval lowPower := rfl
    simp only [controlMode, verdict, suited]
    -- What is done depends on the verdict and on what the gate says about it.
    cases (gate.request (governor.classify lowPower) now).2.1 <;>
      cases governor.classify lowPower <;> rfl
  simp only [controlTick, step]
  exact ⟨rfl, rfl, rfl, rfl⟩

-- Measuring does not look at the policy states either.

/-- The same graphics load is measured. -/
theorem measureGraphics_pruned (now : Nat) :
    (governor.measureGraphics now platform world).Pruned
      (governor.pruned.measureGraphics now platform world) :=
  ⟨rfl, rfl, rfl, rfl⟩

/-- The same loads are measured. -/
theorem measured_pruned (now : Nat) :
    (governor.measured now platform world).Pruned
      (governor.pruned.measured now platform world) :=
  ⟨rfl, rfl, rfl, rfl⟩

/-- A poll does the same without the unusable states. -/
theorem tick_pruned (sound : governor.selector.Sound) (now : Nat) (hint : Option UInt32) :
    (governor.tick now hint platform world).Pruned
      (governor.pruned.tick now hint platform world) := by
  -- The cases are those of a poll: what is measured, and who decides then.
  cases hint with
  | some hint =>
    cases polled : governor.settings.pollOnHint with
    | true =>
      have polledToo : governor.pruned.settings.pollOnHint = true := polled
      simp only [tick, tickWithHint, polled, polledToo, if_true]
      -- The time stamp of the sample is set first, on both sides.
      refine (measureGraphics_pruned
        { governor with sample := { governor.sample with timestamp := now } } platform world
        now).andThen ?_
      refine selectState_pruned _ platform _ ?_ (some hint)
      exact sound
    | false =>
      have polledToo : governor.pruned.settings.pollOnHint = false := polled
      simp only [tick, tickWithHint, polled, polledToo, Bool.false_eq_true, if_false]
      -- Without a measurement the poll is a selection whose interval is dropped.
      have selected := selectState_pruned
        { governor with sample := { governor.sample with timestamp := now } } platform world sound
        (some hint)
      exact ⟨selected.governor, selected.world, rfl, selected.calls⟩
  | none =>
    cases monitored : governor.settings.monitor with
    | false =>
      have monitoredToo : governor.pruned.settings.monitor = false := monitored
      simp only [tick, monitored, monitoredToo, Bool.false_eq_true, if_false]
      exact ⟨rfl, rfl, rfl, rfl⟩
    | true =>
      have monitoredToo : governor.pruned.settings.monitor = true := monitored
      -- A state is left that is usable exactly if there was one, so the same side decides.
      have decides : governor.pruned.selector.multiState = governor.selector.multiState :=
        Policy.Selector.multiState_pruned sound
      rw [tick_eq_measured_andThen monitored, tick_eq_measured_andThen monitoredToo, decides]
      refine (measured_pruned governor platform world now).andThen ?_
      -- The same side decides, from the same loads.
      split
      · refine selectState_pruned _ platform _ ?_ none
        exact sound
      · exact controlTick_pruned _ platform _ _ now

variable {governor platform world}

/-- A poll leaves a sound selector behind. -/
theorem sound_tick {poll : Poll World} (sound : poll.governor.selector.Sound)
    (platform : Platform World) : (poll.tick platform).governor.selector.Sound := by
  -- Only a decision of the policy states changes what is held, and it enters a usable state.
  cases decides : poll.governor.policyDecides poll.hint with
  | true =>
    rw [(poll.tick_of_policyDecides decides platform).1]
    exact sound.select _ _
  | false =>
    rw [poll.selector_tick_of_not_policyDecides decides platform]
    exact sound

end Governor

/-- Two polls of governors of which the second one lacks the states with unreadable CPU lists. -/
structure Tick.Corresponds (specs : List Policy.Spec) (first second : Tick World) : Prop where
  /-- The same interval is recommended. -/
  interval : second.interval = first.interval
  /-- The same calls were made, in the same order. -/
  calls : second.calls = first.calls
  /-- The machine has become the same. -/
  world : second.world = first.world
  /-- The policy states decide on both sides, or on none. -/
  multiState : second.governor.selector.multiState = first.governor.selector.multiState
  /-- The state that is held on one side has the same configuration as the one on the other side, at
  the place that is left to it. -/
  held : ∀ index, first.governor.selector.current = some index →
    ∃ place spec, second.governor.selector.current = some place ∧
      place = Policy.rank (fun spec => !spec.unreadable) specs index ∧
      specs[index]? = some spec ∧ spec.unreadable = false ∧
      (Policy.readableSpecs specs)[place]? = some spec
  /-- The governors are the same, apart from the unusable states and the numbers of the others. -/
  governor : second.governor = first.governor.pruned

namespace Governor

open Policy (Spec Table)

/-- A governor whose selector is sound, and whose policy states are configured in the given way. -/
structure Follows (specs : List Spec) (governor : Governor) : Prop where
  /-- Only usable states are ever held. -/
  sound : governor.selector.Sound
  /-- The states are the configured ones. -/
  configured : governor.selector.table.configured = (Table.ofSpecs specs).states

/-- A poll keeps a governor what it is. -/
theorem Follows.tick {specs : List Spec} {poll : Poll World} (follows : poll.governor.Follows specs)
    (platform : Platform World) : (poll.tick platform).governor.Follows specs :=
  ⟨sound_tick follows.sound platform, (poll.configured_tick platform).trans follows.configured⟩

/-- A state that is held was configured with a readable CPU list, and has a place among the others
of which that is true. -/
theorem Follows.held {specs : List Spec} {governor : Governor} (follows : governor.Follows specs)
    {index : Nat} (held : governor.selector.current = some index) :
    ∃ place spec, governor.pruned.selector.current = some place ∧
      place = Policy.rank (fun spec => !Spec.unreadable spec) specs index ∧
      specs[index]? = some spec ∧ spec.unreadable = false ∧
      (Policy.readableSpecs specs)[place]? = some spec := by
  obtain ⟨state, present, valid⟩ := follows.sound.held index held
  -- The state stands where its description stands in the configuration, which is therefore
  -- readable.
  obtain ⟨spec, listed, made⟩ := Table.exists_spec follows.configured present
  have readable : (!spec.unreadable) = true := by
    rw [← Policy.State.valid_ofSpec (index + 1), made]
    exact valid
  -- Counting the usable states before it is counting the readable descriptions before its own.
  have place : governor.selector.table.place index =
      Policy.rank (fun spec => !Spec.unreadable spec) specs index := by
    rw [Table.place_eq, follows.configured, ← Table.place_ofSpecs]
    rfl
  refine ⟨_, spec, ?_, rfl, listed, by simpa using readable,
    Policy.getElem?_filter_rank listed readable⟩
  rw [← place]
  exact congrArg (Option.map _) held

/-- Polls that do the same without the unusable states correspond. -/
theorem Follows.corresponds {specs : List Spec} {first second : Tick World}
    (follows : first.governor.Follows specs) (pruned : first.Pruned second) :
    first.Corresponds specs second where
  interval := pruned.interval
  calls := pruned.calls
  world := pruned.world
  -- The last three facts are about the governors, and pruning one keeps them apart from the
  -- numbers.
  multiState := by
    rw [pruned.governor]
    exact Policy.Selector.multiState_pruned follows.sound
  held index held := by
    rw [pruned.governor]
    exact follows.held held
  governor := pruned.governor

/-- A run corresponds to the run without the unusable states. -/
theorem run_pruned {specs : List Spec} (platform : Platform World) :
    ∀ (occasions : List (Occasion World)) (governor : Governor) (world : World),
      governor.Follows specs →
      List.Forall₂ (Tick.Corresponds specs) (governor.run platform world occasions)
        (governor.pruned.run platform world occasions) := by
  -- After each poll the second governor still is the first one without the unusable states.
  intro occasions
  induction occasions with
  | nil => intro governor world _; exact .nil
  | cons occasion rest ih =>
    intro governor world follows
    have pruned := tick_pruned governor platform (occasion.drift world) follows.sound occasion.now
      occasion.hint
    have next : (governor.tick occasion.now occasion.hint platform
        (occasion.drift world)).governor.Follows specs :=
      @Follows.tick _ _ ⟨governor, occasion.drift world, occasion.now, occasion.hint⟩ follows
        platform
    -- The first polls correspond, and the rest of both runs starts from a pruned pair again.
    simp only [run]
    refine .cons (next.corresponds pruned) ?_
    rw [pruned.governor, pruned.world]
    exact ih _ _ next

/-- States whose CPU lists cannot be read are inert.

A new governor and one that is configured without these states agree on whether the policy states
decide, and in every run they recommend the same intervals, make the same calls, leave the machine
the same and hold corresponding states. What the governors remember differs in the unusable states
and in the numbers of the others only. -/
theorem unreadable_states_inert (settings : Settings) (specs : List Spec) (sampler : Sampler)
    (probe : Graphics.Probe) (platform : Platform World) (world : World)
    (occasions : List (Occasion World)) :
    let full := Governor.new settings (.ofSpecs specs) sampler probe
    let pruned := Governor.new settings
      (.ofSpecs (specs.filter fun spec => !spec.unreadable)) sampler probe
    pruned.selector.multiState = full.selector.multiState ∧
      List.Forall₂ (Tick.Corresponds specs) (full.run platform world occasions)
        (pruned.run platform world occasions) := by
  have follows : (Governor.new settings (.ofSpecs specs) sampler probe).Follows specs :=
    ⟨Policy.Selector.sound_ofTable specs, Table.configured_ofSpecs specs⟩
  -- Pruning the new governor is leaving out the states before it is made.
  have same : Governor.new settings (.ofSpecs (specs.filter fun spec => !spec.unreadable)) sampler
      probe = (Governor.new settings (.ofSpecs specs) sampler probe).pruned := by
    have table := Table.pruned_ofSpecs specs
    simp only [Governor.new, Governor.pruned, Policy.Selector.ofTable, Policy.Selector.pruned,
      table]
    rfl
  simp only [same]
  exact ⟨Policy.Selector.multiState_pruned follows.sound,
    run_pruned platform occasions _ world follows⟩

/-- Policy states by workload, of which the one in the middle has an unreadable CPU list. -/
def withGap : List Spec :=
  [{ name := "video", workload := some 1 },
    { name := "broken", workload := some 2, activeCpus := "0-x" },
    { name := "build", workload := some 3, epp := some 64 }]

/-- The broken state is not selected for its workload, and the one behind it moves up by one place
without it. -/
theorem unreadable_states_inert_gap :
    let occasions : List (Occasion Simulated) :=
      [2, 3].map fun hint => { now := 0, drift := id, hint := some hint }
    let run := fun specs => (Governor.new { pollOnHint := true } (.ofSpecs specs) (.new ["stat"] 1)
      (.new ["tile0"])).run Simulated.platform { files := .rooted [] } occasions
    let rest := withGap.filter fun spec => !spec.unreadable
    (run withGap).map (fun tick => tick.governor.selector.current) = [none, some 2] ∧
      (run rest).map (fun tick => tick.governor.selector.current) = [none, some 1] ∧
      List.Forall₂ (Tick.Corresponds withGap) (run withGap) (run rest) :=
  ⟨by decide +kernel, by decide +kernel,
    (unreadable_states_inert { pollOnHint := true } withGap (.new ["stat"] 1) (.new ["tile0"])
      Simulated.platform { files := .rooted [] } _).2⟩

end Governor

end PowerGovernor
