import PowerGovernor.Proofs.CpuSet.RoundTrip
import PowerGovernor.Proofs.Policy.Configuration
import PowerGovernor.Proofs.Policy.Description

/-! A CPU set that is written in the description of a state is the one that the state activates. -/

namespace PowerGovernor

namespace Policy

section Value

variable {set : CpuSet} {char : Char}

end Value

section Description

variable {name : String} {set : CpuSet}

end Description

section Runs

variable {sample : Sample} {hint : Option UInt32}

/-- What a state asks for depends on its configuration only. -/
@[simp] theorem State.commands_configured (state : State) :
    state.configured.commands = state.commands := rfl

namespace Selector

/-- The selector that is left after samples and hints, one after the other; how a machine carries
the decisions out has no influence on it. -/
def after (selector : Selector) (inputs : List (Sample × Option UInt32)) : Selector :=
  inputs.foldl (fun selector input => (selector.select input.1 input.2).1) selector

/-- A state that is newly entered is the configured one, and what it wants is asked for. -/
theorem commands_select_of_entered {selector : Selector} {specs : List Spec}
    (configured : selector.table.configured = (Table.ofSpecs specs).states) {index : Nat}
    {state : State} (present : (Table.ofSpecs specs).states[index]? = some state)
    (fresh : selector.current ≠ some index)
    (entered : (selector.select sample hint).1.current = some index) :
    (selector.select sample hint).2.commands = state.commands := by
  cases found : selector.find? sample hint with
  | none =>
    -- Without a selection the state would still not be held.
    rw [select_of_none found] at entered
    exact absurd entered fresh
  | some place =>
    obtain ⟨current, there⟩ := exists_of_find? found
    rw [select_of_some found] at entered ⊢
    have same : place = index := Option.some.inj ((current_enter there sample).symm.trans entered)
    subst same
    -- The loads that were recorded for the state play no part in what it asks for.
    obtain ⟨spec, listed, made⟩ := Table.exists_spec configured there
    rw [Table.getElem?_ofSpecs, listed, Option.map_some, made, Option.some.injEq] at present
    simp only [enter, there, if_neg fresh]
    rw [← present, State.commands_configured]

end Selector

end Runs

end Policy

end PowerGovernor
