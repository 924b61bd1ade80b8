import PowerGovernor.Proofs.Governor.Polls
import PowerGovernor.Proofs.Policy.Integrity

/-! The policy states stay in order through any run, of the governor or of the selector alone. -/

namespace PowerGovernor

open Policy (Choice Selector Spec)

variable {World : Type}

/-- The choice among the policy states that a poll makes, if they decide about it. -/
def Poll.choice? (platform : Platform World) (poll : Poll World) : Option Choice :=
  if poll.governor.policyDecides poll.hint then
    some (poll.governor.selector.choice (poll.tick platform).governor.sample poll.hint)
  else none

/-- One poll keeps the policy states in order. -/
theorem Poll.intact_tick {specs : List Spec} {past : List Choice} {poll : Poll World}
    (intact : poll.governor.selector.Intact specs past) (platform : Platform World) :
    (poll.tick platform).governor.selector.Intact specs
      (past ++ (poll.choice? platform).toList) := by
  unfold choice?
  cases decides : poll.governor.policyDecides poll.hint with
  | true =>
    rw [(tick_of_policyDecides decides platform).1]
    exact intact.select _ poll.hint
  | false =>
    -- Without a decision of theirs nothing is chosen and nothing recorded.
    rw [selector_tick_of_not_policyDecides decides platform]
    simpa using intact

/-- A poll on which no policy state admits the sample changes nothing about them, recommends no
interval and asks the machine for nothing. -/
theorem Poll.tick_of_choice_none {poll : Poll World} {platform : Platform World} {choice : Choice}
    (chosen : poll.choice? platform = some choice) (missed : choice.place = none) :
    (poll.tick platform).governor.selector = poll.governor.selector ∧
      (poll.tick platform).interval = none ∧ (poll.tick platform).commands = [] := by
  unfold choice? at chosen
  split at chosen
  · rename_i decides
    obtain ⟨selector, interval, commands⟩ := tick_of_policyDecides decides platform
    cases chosen
    have missing : poll.governor.selector.find? (poll.tick platform).governor.sample poll.hint =
        none := missed
    rw [Selector.select_of_none missing] at selector interval commands
    -- Neither does a poll that recommends what was decided find an interval there.
    exact ⟨selector, by simpa using interval, commands⟩
  · cases chosen

namespace Governor

/-- The governor after a run of polls. -/
def after (platform : Platform World) (governor : Governor) (world : World)
    (occasions : List (Occasion World)) : Governor :=
  (governor.run platform world occasions).foldl (fun _ tick => tick.governor) governor

/-- The choices among the policy states in a run of polls. -/
def choices (platform : Platform World) (governor : Governor) (world : World)
    (occasions : List (Occasion World)) : List Choice :=
  (governor.polls platform world occasions).filterMap (Poll.choice? platform)

/-- A run of polls keeps the policy states in order. -/
theorem intact_after {specs : List Spec} (platform : Platform World)
    (occasions : List (Occasion World)) :
    ∀ {governor : Governor} {past : List Choice} (world : World),
      governor.selector.Intact specs past →
        (governor.after platform world occasions).selector.Intact specs
          (past ++ governor.choices platform world occasions) := by
  -- Each poll hands the rest policy states in order, with at most one more choice behind them.
  induction occasions with
  | nil =>
    intro governor past world intact
    simpa [after, run, choices, polls] using intact
  | cons occasion rest ih =>
    intro governor past world intact
    let poll : Poll World := ⟨governor, occasion.drift world, occasion.now, occasion.hint⟩
    have later := ih (poll.tick platform).world (poll.intact_tick intact platform)
    have made : governor.choices platform world (occasion :: rest) =
        (poll.choice? platform).toList ++
          (poll.tick platform).governor.choices platform (poll.tick platform).world rest := by
      show (poll :: _).filterMap (Poll.choice? platform) = _
      rw [List.filterMap_cons]
      cases poll.choice? platform <;> rfl
    rw [made, ← List.append_assoc]
    exact later

/-- Whatever run of turns or polls comes after the policy states were made ready, they are in order:
the state that is held is a valid one of the table, and every state is as it was configured, but
for the loads of the sample for which it was chosen last. Where none admits the sample, all stays as
it is, no interval is recommended and the machine is asked for nothing. -/
theorem selector_stays_intact (specs : List Spec) (platform : Platform World) :
    let start := Selector.ofTable (.ofSpecs specs)
    (∀ world inputs,
        (start.afterTurns platform world inputs).Intact specs (start.choices inputs)) ∧
      (∀ settings sampler probe world occasions,
        let governor := new settings (.ofSpecs specs) sampler probe
        (governor.after platform world occasions).selector.Intact specs
          (governor.choices platform world occasions)) ∧
      (∀ (selector : Selector) sample hint world, selector.find? sample hint = none →
        let turn := selector.turn sample hint platform world
        turn.selector = selector ∧ turn.interval = none ∧ turn.calls = [] ∧ turn.world = world) ∧
      ∀ (poll : Poll World) choice, poll.choice? platform = some choice → choice.place = none →
        let tick := poll.tick platform
        tick.governor.selector = poll.governor.selector ∧ tick.interval = none ∧
          tick.commands = [] := by
  intro start
  refine ⟨?_, ?_, ?_, ?_⟩
  · intro world inputs
    exact (Selector.intact_ofTable specs).afterTurns platform world inputs
  · intro settings sampler probe world occasions
    -- A new governor has the selector that the turns start from.
    have begun : (new settings (.ofSpecs specs) sampler probe).selector.Intact specs [] :=
      Selector.intact_ofTable specs
    exact intact_after platform occasions world begun
  · intro selector sample hint world missing
    exact Selector.turn_of_none missing platform world
  · intro poll choice chosen missed
    exact Poll.tick_of_choice_none chosen missed

/-- A state for one workload type is held from the first hint at it on, with the loads of the last
such sample, and stands aside for any other hint, in turns and in polls. -/
theorem selector_stays_intact_workload :
    let specs : List Spec := [{ name := "video", workload := some 1 }]
    let start := Selector.ofTable (.ofSpecs specs)
    let machine : Simulated := { files := fun _ => none }
    let loads (share : Nat) : Sample :=
      { system := some (.clamp share), cpu := some (.clamp (2 * share)) }
    let inputs := [(loads 1000, some 1), (loads 3000, some 1), (loads 5000, some 2)]
    let held := start.afterTurns Simulated.platform machine inputs
    let governor := new {} (.ofSpecs specs) (.new [] 1) (.new [])
    let occasions : List (Occasion Simulated) :=
      [{ now := 0, drift := id, hint := some 1 }, { now := 1000, drift := id, hint := some 2 }]
    let later := governor.after Simulated.platform machine occasions
    let poll : Poll Simulated := ⟨later, machine, 2000, some 2⟩
    held.Intact specs (start.choices inputs) ∧
      (start.choices inputs).map Choice.place = [some 0, some 0, none] ∧
      held.currentState?.map (fun state => (state.name, state.entrySystem, state.entryCpu)) =
        some ("video", some (.clamp 3000), some (.clamp 6000)) ∧
      (held.turn (loads 7000) (some 2) Simulated.platform machine).selector = held ∧
      later.selector.Intact specs (governor.choices Simulated.platform machine occasions) ∧
      later.selector.current = some 0 ∧
      (poll.tick Simulated.platform).governor.selector = later.selector ∧
      (poll.tick Simulated.platform).commands = [] := by
  intro specs start machine loads inputs held governor occasions later poll
  obtain ⟨turns, polls, turned, polled⟩ := selector_stays_intact specs Simulated.platform
  have places : (start.choices inputs).map Choice.place = [some 0, some 0, none] := by
    decide +kernel
  have entered : held.currentState?.map
      (fun state => (state.name, state.entrySystem, state.entryCpu)) =
        some ("video", some (.clamp 3000), some (.clamp 6000)) := by
    decide +kernel
  -- The third hint is one that no state of the table is for.
  have missing : held.find? (loads 7000) (some 2) = none := by decide +kernel
  have aside : (poll.choice? Simulated.platform).map Choice.place = some none := by decide +kernel
  obtain ⟨choice, chosen, missed⟩ := Option.map_eq_some_iff.mp aside
  obtain ⟨same, -, silent⟩ := polled poll choice chosen missed
  exact ⟨turns machine inputs, places, entered, (turned held _ _ machine missing).1,
    polls {} _ _ machine occasions, by decide +kernel, same, silent⟩

end Governor

end PowerGovernor
