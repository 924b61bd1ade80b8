import PowerGovernor.Policy.Turn

/-! The first admitting state is found, and a margin only ever helps the state that is held. -/

namespace PowerGovernor.Policy

/-- Holding a state never makes a system load too high for it. -/
theorem State.acceptsSystem_mono {state : State} {held other : Bool} {reading : Reading}
    (wider : held = true → other = true) (accepted : state.acceptsSystem held reading = true) :
    state.acceptsSystem other reading = true := by
  unfold State.acceptsSystem at *
  -- Without a limit every load is accepted, and a load within the limit needs no margin.
  cases limited : state.systemLimit with
  | none => rfl
  | some limit =>
    simp only [limited, Bool.or_eq_true] at accepted ⊢
    rcases accepted with fits | rides
    · exact Or.inl fits
    · cases margined : state.margin with
      | none => simp [margined] at rides
      | some margin =>
        -- Only a held state can have used its margin, so the other one may use it too.
        simp only [margined, Bool.and_eq_true] at rides
        exact Or.inr (by simp [wider rides.1, rides.2])

/-- Holding a state never keeps a sample from being admitted. -/
theorem State.admits_mono {state : State} {held other : Bool} {sample : Sample}
    {hint : Option UInt32} (wider : held = true → other = true)
    (admitted : state.admits held sample hint = true) : state.admits other sample hint = true := by
  -- Of the five conditions only the one on the system load looks at the margin.
  simp only [State.admits, Bool.and_eq_true] at admitted ⊢
  exact ⟨admitted.1, State.acceptsSystem_mono wider admitted.2⟩

/-- A state that admits a sample is usable. -/
theorem State.valid_of_admits {state : State} {held : Bool} {sample : Sample}
    {hint : Option UInt32} (admitted : state.admits held sample hint = true) :
    state.valid = true := by
  -- Usability is the first of the conditions.
  simp only [State.admits, Bool.and_eq_true] at admitted
  exact admitted.1.1.1.1

/-- The loads recorded for a state play no part in its admission. -/
@[simp] theorem State.admits_recordEntry (state : State) (recorded sample : Sample) (held : Bool)
    (hint : Option UInt32) :
    (state.recordEntry recorded).admits held sample hint = state.admits held sample hint := rfl

namespace Selector

/-- The state found is the first one in the table that admits the sample. -/
theorem find?_eq_some_iff {selector : Selector} {sample : Sample} {hint : Option UInt32}
    {index : Nat} :
    selector.find? sample hint = some index ↔
      (∃ state, selector.table.states[index]? = some state ∧
        state.admits (selector.current == some index) sample hint = true) ∧
      ∀ earlier < index, ∀ state, selector.table.states[earlier]? = some state →
        state.admits (selector.current == some earlier) sample hint = false := by
  -- The search goes over states that carry their places, which is where it looks them up.
  rw [find?, List.findIdx?_eq_some_iff_getElem]
  constructor
  · rintro ⟨inside, admitted, before⟩
    rw [List.length_zipIdx] at inside
    refine ⟨⟨_, List.getElem?_eq_getElem inside, ?_⟩, ?_⟩
    · simpa [admitsAt] using admitted
    · intro earlier below state found
      obtain ⟨_, same⟩ := List.getElem?_eq_some_iff.mp found
      simpa [admitsAt, same] using before earlier below
  · rintro ⟨⟨state, found, admitted⟩, before⟩
    obtain ⟨inside, same⟩ := List.getElem?_eq_some_iff.mp found
    refine ⟨by simpa using inside, by simpa [admitsAt, same] using admitted, ?_⟩
    intro earlier below
    have refused := before earlier below _ (List.getElem?_eq_getElem (by omega))
    simpa [admitsAt] using refused

/-- Nothing is found exactly if every state of the table refuses the sample. -/
theorem find?_eq_none_iff {selector : Selector} {sample : Sample} {hint : Option UInt32} :
    selector.find? sample hint = none ↔
      ∀ (index : Nat) (state : State), selector.table.states[index]? = some state →
        state.admits (selector.current == some index) sample hint = false := by
  rw [find?, List.findIdx?_eq_none_iff]
  constructor
  · intro refused index state present
    -- A state is searched together with its place.
    have member : (state, index) ∈ selector.table.states.zipIdx :=
      List.mem_zipIdx_iff_getElem?.mpr present
    exact refused (state, index) member
  · rintro refused ⟨state, index⟩ member
    exact refused index state (List.mem_zipIdx_iff_getElem?.mp member)

/-- Whatever is found is a state of the table. -/
theorem exists_of_find? {selector : Selector} {sample : Sample} {hint : Option UInt32}
    {index : Nat} (found : selector.find? sample hint = some index) :
    ∃ state, selector.table.states[index]? = some state := by
  -- The place is one at which the table was searched.
  obtain ⟨⟨state, present, _⟩, _⟩ := find?_eq_some_iff.mp found
  exact ⟨state, present⟩

/-- Selecting a state changes nothing in the table but the loads recorded for it. -/
@[simp] theorem states_enter (selector : Selector) (index : Nat) (sample : Sample) :
    (selector.enter index sample).1.table.states =
      selector.table.states.modify index (.recordEntry sample) := by
  unfold enter
  split
  · -- There is no state to record anything for.
    rename_i absent
    rw [List.modify_eq_self (List.getElem?_eq_none_iff.mp absent)]
  · -- Held or new, the loads are recorded in the one place.
    split <;> rfl

/-- A state of the table is held once it has been selected. -/
theorem current_enter {selector : Selector} {index : Nat} {state : State}
    (present : selector.table.states[index]? = some state) (sample : Sample) :
    (selector.enter index sample).1.current = some index := by
  simp only [enter, present]
  -- The state is held already, or it is held from now on.
  split
  · assumption
  · rfl

/-- Selecting a state of the table leads to an interval. -/
theorem interval_enter {selector : Selector} {index : Nat} {state : State}
    (present : selector.table.states[index]? = some state) (sample : Sample) :
    (selector.enter index sample).2.interval =
      some (selector.enter index sample).1.interval := by
  -- Either way of entering stores the interval that it recommends.
  simp only [enter, present]
  split <;> rfl

/-- The machine is asked for nothing while a state is kept. -/
theorem commands_enter_of_held {selector : Selector} {index : Nat}
    (held : selector.current = some index) (sample : Sample) :
    (selector.enter index sample).2.commands = [] := by
  -- A place without a state asks for nothing either.
  unfold enter
  split
  · rfl
  · rw [if_pos held]

/-- Where no state admits the sample, the selector stays as it is. -/
theorem select_of_none {selector : Selector} {sample : Sample} {hint : Option UInt32}
    (missing : selector.find? sample hint = none) :
    selector.select sample hint =
      (selector, { before := selector.traces sample hint }) := by
  -- The search is the only thing that a selection does first.
  simp only [select, missing]

/-- Otherwise the first admitting state is selected, behind the traces of the search. -/
theorem select_of_some {selector : Selector} {sample : Sample} {hint : Option UInt32}
    {index : Nat} (found : selector.find? sample hint = some index) :
    selector.select sample hint =
      ((selector.enter index sample).1,
        { (selector.enter index sample).2 with before := selector.traces sample hint }) := by
  -- What is found is entered.
  simp only [select, found]

end Selector

end PowerGovernor.Policy
