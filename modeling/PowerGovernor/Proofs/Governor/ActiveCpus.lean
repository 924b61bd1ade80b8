import PowerGovernor.Platform.Simulated
import PowerGovernor.Proofs.Governor.Interval
import PowerGovernor.Proofs.Policy.ActiveCpus

/-! A CPU set that is written in the description of a state reaches the machine as it is. -/

namespace PowerGovernor

open Policy (Spec Table)

variable {World : Type}

/-- A poll by which a state is newly entered asks for what the configured state wants. -/
theorem Poll.commands_tick_of_entered {poll : Poll World} {specs : List Spec}
    (configured : poll.governor.selector.table.configured = (Table.ofSpecs specs).states)
    {index : Nat} {state : Policy.State}
    (present : (Table.ofSpecs specs).states[index]? = some state) (platform : Platform World)
    (fresh : poll.governor.selector.current ≠ some index)
    (entered : (poll.tick platform).governor.selector.current = some index) :
    (poll.tick platform).commands = state.commands := by
  -- Only policy states that decide can enter one of theirs.
  cases decides : poll.governor.policyDecides poll.hint with
  | true =>
    obtain ⟨next, -, asked⟩ := poll.tick_of_policyDecides decides platform
    rw [next] at entered
    rw [asked]
    exact Policy.Selector.commands_select_of_entered configured present fresh entered
  | false =>
    -- Nothing is entered while the policy states do not decide.
    rw [poll.selector_tick_of_not_policyDecides decides platform] at entered
    exact absurd entered fresh

namespace Governor

open Policy (Selector)

end Governor

end PowerGovernor
