import PowerGovernor.Proofs.Policy.Configuration
import PowerGovernor.Proofs.Policy.Steadiness

/-! What a selector knows about its states, and which of them it holds, after any run of
selections. -/

namespace PowerGovernor.Policy

/-- A selection that was made: the sample, and the place of the state that was found for it. -/
structure Choice where
  sample : Sample
  place : Option Nat

/-- The sample for which the state at a place was chosen last, if it ever was. -/
def lastChosen (choices : List Choice) (index : Nat) : Option Sample :=
  ((choices.filter fun choice => choice.place == some index).getLast?).map Choice.sample

/-- One more choice replaces the last sample of the place that it fell on, and no other. -/
theorem lastChosen_append (choices : List Choice) (choice : Choice) (index : Nat) :
    lastChosen (choices ++ [choice]) index =
      if choice.place = some index then some choice.sample else lastChosen choices index := by
  -- The new choice is the last one, so it is the one found if its place is asked for.
  unfold lastChosen
  rw [List.filter_append]
  by_cases same : choice.place = some index
  · simp [same]
  · simp [same]

/-- A choice of nothing changes nothing. -/
theorem lastChosen_append_of_none {choice : Choice} (missed : choice.place = none)
    (choices : List Choice) (index : Nat) :
    lastChosen (choices ++ [choice]) index = lastChosen choices index := by
  -- A missing place is no place that could be asked for.
  simp [lastChosen_append, missed]

namespace Selector

/-- A selector that is in order after a series of choices among configured states. -/
structure Intact (specs : List Spec) (choices : List Choice) (selector : Selector) : Prop where
  /-- The state that is held is one of the table that may be selected. -/
  current : ∀ index, selector.current = some index →
    ∃ state, selector.table.states[index]? = some state ∧ state.valid = true ∧
      selector.currentState? = some state
  /-- Every state is as it was configured, but for the loads for which it was chosen last. -/
  states : ∀ index : Nat, selector.table.states[index]? =
    (Table.ofSpecs specs).states[index]?.map fun state =>
      { state with
        entrySystem := (lastChosen choices index).bind Sample.system
        entryCpu := (lastChosen choices index).bind Sample.cpu }
  /-- Whether the states decide is as it was configured. -/
  multiState : selector.table.multiState = (Table.ofSpecs specs).multiState

/-- The selector after a series of turns. -/
def afterTurns {World : Type} (selector : Selector) (platform : Platform World) (world : World)
    (inputs : List (Sample × Option UInt32)) : Selector :=
  (selector.turns platform world inputs).foldl (fun _ turn => turn.selector) selector

/-- The choice that a selection makes. -/
def choice (selector : Selector) (sample : Sample) (hint : Option UInt32) : Choice :=
  ⟨sample, selector.find? sample hint⟩

/-- The choices of a series of turns, each from where the one before it ended. -/
def choices : Selector → List (Sample × Option UInt32) → List Choice
  | _, [] => []
  | selector, (sample, hint) :: rest =>
    selector.choice sample hint :: choices (selector.select sample hint).1 rest

/-- A new selector holds no state, and no state has been chosen. -/
theorem intact_ofTable (specs : List Spec) : (ofTable (.ofSpecs specs)).Intact specs [] where
  -- Nothing is held that could be wrong.
  current index held := by cases held
  states index := by
    -- A state that was just made ready has no loads recorded for it.
    show (Table.ofSpecs specs).states[index]? = _
    rw [Table.getElem?_ofSpecs, Option.map_map]
    congr 1
    funext spec
    exact (State.configured_ofSpec (index + 1) spec).symm
  multiState := rfl

/-- Whether the states decide is settled by the configuration. -/
theorem multiState_select (selector : Selector) (sample : Sample) (hint : Option UInt32) :
    (selector.select sample hint).1.table.multiState = selector.table.multiState := by
  -- Only loads are written to the table.
  cases found : selector.find? sample hint with
  | none => rw [select_of_none found]
  | some index =>
    obtain ⟨state, present⟩ := exists_of_find? found
    rw [select_of_some found, table_enter present]
    rfl

variable {specs : List Spec} {past : List Choice} {selector : Selector}

/-- One selection keeps a selector in order. -/
theorem Intact.select (intact : selector.Intact specs past) (sample : Sample)
    (hint : Option UInt32) :
    (selector.select sample hint).1.Intact specs (past ++ [selector.choice sample hint]) := by
  have decides := (selector.multiState_select sample hint).trans intact.multiState
  cases found : selector.find? sample hint with
  | none =>
    -- Nothing was found, so nothing was recorded, and the choice does not count.
    have missed : (selector.choice sample hint).place = none := found
    rw [select_of_none found] at decides ⊢
    refine ⟨intact.current, ?_, decides⟩
    intro index
    rw [lastChosen_append_of_none missed]
    exact intact.states index
  | some place =>
    have chosen : (selector.choice sample hint).place = some place := found
    obtain ⟨⟨state, present, admitted⟩, -⟩ := find?_eq_some_iff.mp found
    have held := current_enter present sample
    rw [select_of_some found] at decides ⊢
    refine ⟨?_, ?_, decides⟩
    · -- The state that is held now has admitted the sample, which only a valid one does.
      intro index same
      rw [held] at same
      cases same
      have stays : (selector.enter place sample).1.table.states[place]? =
          some (state.recordEntry sample) := by
        rw [states_enter, List.getElem?_modify_eq, present]
        rfl
      refine ⟨state.recordEntry sample, stays, State.valid_of_admits admitted, ?_⟩
      rw [currentState?, held]
      exact stays
    · intro index
      rw [states_enter, List.getElem?_modify, intact.states index, lastChosen_append, chosen]
      -- The loads are recorded at one place, which is the place of the choice.
      by_cases same : place = index
      · subst same
        cases (Table.ofSpecs specs).states[place]? with
        | none => rfl
        | some configured => simp [State.recordEntry, choice]
      · simp [same]

/-- A series of turns keeps a selector in order. -/
theorem Intact.afterTurns {World : Type} (intact : selector.Intact specs past)
    (platform : Platform World) (world : World) (inputs : List (Sample × Option UInt32)) :
    (selector.afterTurns platform world inputs).Intact specs
      (past ++ selector.choices inputs) := by
  -- Each turn hands the rest a selector in order, with one more choice behind it.
  induction inputs generalizing selector past world with
  | nil => simpa [Selector.afterTurns, turns, choices] using intact
  | cons input rest ih =>
    obtain ⟨sample, hint⟩ := input
    have later := ih (intact.select sample hint) (selector.turn sample hint platform world).world
    rw [List.append_assoc] at later
    exact later

/-- A turn on which no state admits the sample changes neither the selector nor the machine. -/
theorem turn_of_none {World : Type} {sample : Sample} {hint : Option UInt32}
    (missing : selector.find? sample hint = none) (platform : Platform World) (world : World) :
    let turn := selector.turn sample hint platform world
    turn.selector = selector ∧ turn.interval = none ∧ turn.calls = [] ∧ turn.world = world := by
  -- The decision is empty, so there is nothing to carry out.
  simp [turn, select_of_none missing, Decision.calls, Decision.carryOut, Platform.performAll]

end Selector

end PowerGovernor.Policy
