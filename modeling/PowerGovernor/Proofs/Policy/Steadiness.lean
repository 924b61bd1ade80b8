import PowerGovernor.Proofs.Policy.Selection

/-! Turns that meet the same loads again and again keep to one state and leave the machine alone. -/

namespace PowerGovernor.Policy

variable {World : Type}

/-- The place of the state that a turn selected; a turn without an interval selected none. -/
def Turn.selected (turn : Turn World) : Option Nat :=
  if turn.interval.isSome then turn.selector.current else none

namespace Selector

/-- The turns on a series of samples and hints, each from where the one before it ended. -/
def turns (platform : Platform World) :
    Selector → World → List (Sample × Option UInt32) → List (Turn World)
  | _, _, [] => []
  | selector, world, (sample, hint) :: rest =>
    let turn := selector.turn sample hint platform world
    turn :: turns platform turn.selector turn.world rest

/-- What the sample selects, if anything, is held already. -/
def Settled (selector : Selector) (sample : Sample) (hint : Option UInt32) : Prop :=
  ∀ index, selector.find? sample hint = some index → selector.current = some index

/-- A state that was found is found again once it is held instead of another one. -/
theorem find?_enter {selector : Selector} {sample : Sample} {hint : Option UInt32} {index : Nat}
    (found : selector.find? sample hint = some index) :
    (selector.enter index sample).1.find? sample hint = some index := by
  obtain ⟨⟨state, present, admitted⟩, before⟩ := find?_eq_some_iff.mp found
  have held := current_enter present sample
  refine find?_eq_some_iff.mpr ⟨⟨state.recordEntry sample, ?_, ?_⟩, ?_⟩
  · simp [List.getElem?_modify_eq, present]
  · -- The state is held now, which can only help it.
    rw [State.admits_recordEntry, held, beq_self_eq_true]
    exact State.admits_mono (fun _ => rfl) admitted
  · intro earlier below other there
    have notSame : index ≠ earlier := by omega
    rw [states_enter, List.getElem?_modify_ne _ _ notSame] at there
    have refused := before earlier below other there
    -- An earlier state is not held any more, and it had been refused even if it was.
    have notHeld : (some index == some earlier) = false := by simpa using notSame
    rw [held, notHeld, Bool.eq_false_iff]
    intro admits
    exact Bool.eq_false_iff.mp refused (State.admits_mono (by simp) admits)

/-- One selection does not change what the next one finds for the same sample. -/
@[simp] theorem find?_select (selector : Selector) (sample : Sample) (hint : Option UInt32) :
    (selector.select sample hint).1.find? sample hint = selector.find? sample hint := by
  cases found : selector.find? sample hint with
  | none => rw [select_of_none found, found]
  -- Entering a state only helps it, and hurts the state that was held before.
  | some index => rw [select_of_some found, find?_enter found]

/-- After a selection the same sample asks for nothing new. -/
theorem settled_select (selector : Selector) (sample : Sample) (hint : Option UInt32) :
    (selector.select sample hint).1.Settled sample hint := by
  intro index again
  -- What is found again has been found before, and so has been entered.
  rw [find?_select] at again
  obtain ⟨state, present⟩ := exists_of_find? again
  rw [select_of_some again]
  exact current_enter present sample

/-- The machine is asked for nothing when what the sample selects is held already. -/
theorem commands_select_of_settled {selector : Selector} {sample : Sample} {hint : Option UInt32}
    (settled : selector.Settled sample hint) :
    (selector.select sample hint).2.commands = [] := by
  -- Either nothing is found, or it is entered again, which takes no command.
  cases found : selector.find? sample hint with
  | none => rw [select_of_none found]
  | some index =>
    rw [select_of_some found]
    exact commands_enter_of_held (settled index found) sample

/-- A turn selects the state that is found. -/
theorem selected_turn (selector : Selector) (sample : Sample) (hint : Option UInt32)
    (platform : Platform World) (world : World) :
    (selector.turn sample hint platform world).selected = selector.find? sample hint := by
  -- The decision of a turn is that of the selection, with the interval and the state that it
  -- leaves.
  cases found : selector.find? sample hint with
  | none => simp [turn, Turn.selected, select_of_none found]
  | some index =>
    obtain ⟨state, present⟩ := exists_of_find? found
    simp [turn, Turn.selected, select_of_some found, interval_enter present,
      current_enter present]

/-- A turn that selects what is held already takes no call and leaves the machine as it is. -/
theorem turn_of_settled {selector : Selector} {sample : Sample} {hint : Option UInt32}
    (settled : selector.Settled sample hint) (platform : Platform World) (world : World) :
    (selector.turn sample hint platform world).calls = [] ∧
      (selector.turn sample hint platform world).world = world := by
  -- Without a command there is nothing to carry out.
  have nothing := commands_select_of_settled settled
  simp [turn, Decision.calls, Decision.carryOut, nothing, Platform.performAll]

/-- From a settled selector on, every turn on the same sample selects the same and does nothing. -/
theorem turns_of_settled (platform : Platform World) (sample : Sample) (hint : Option UInt32)
    (world : World) (count : Nat) :
    ∀ selector : Selector, selector.Settled sample hint →
      let turns := selector.turns platform world (List.replicate count (sample, hint))
      turns.map Turn.selected = List.replicate count (selector.find? sample hint) ∧
        turns.map Turn.calls = List.replicate count [] ∧
        turns.map Turn.world = List.replicate count world := by
  -- Each turn leaves a settled selector behind, which finds what this one finds.
  induction count with
  | zero => intro selector settled; exact ⟨rfl, rfl, rfl⟩
  | succ count ih =>
    intro selector settled
    obtain ⟨quiet, same⟩ := turn_of_settled settled platform world
    obtain ⟨selected, calls, worlds⟩ := ih (selector.select sample hint).1
      (settled_select selector sample hint)
    rw [find?_select] at selected
    simp only [List.replicate_succ, turns, List.map_cons, selected_turn, quiet, same]
    exact ⟨congrArg _ selected, congrArg _ calls, congrArg _ worlds⟩

/-- Turns on one sample and hint all select the same state, or all none; after the first of them
no turn takes a call, and the machine stays as that one left it. -/
theorem turns_steady (selector : Selector) (sample : Sample) (hint : Option UInt32)
    (platform : Platform World) (world : World) (count : Nat) :
    let turns := selector.turns platform world (List.replicate (count + 1) (sample, hint))
    turns.map Turn.selected = List.replicate (count + 1) (selector.find? sample hint) ∧
      (turns.map Turn.calls).tail = List.replicate count [] ∧
      (turns.map Turn.world).tail =
        List.replicate count (selector.turn sample hint platform world).world := by
  -- The first turn may enter a state, and from then on the selector is settled.
  obtain ⟨selected, calls, worlds⟩ :=
    turns_of_settled platform sample hint (selector.turn sample hint platform world).world count
      (selector.select sample hint).1 (settled_select selector sample hint)
  rw [find?_select] at selected
  simp only [List.replicate_succ, turns, List.map_cons, selected_turn, List.tail_cons]
  exact ⟨congrArg _ selected, calls, worlds⟩

end Selector

end PowerGovernor.Policy
