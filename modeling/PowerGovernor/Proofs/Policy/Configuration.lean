import PowerGovernor.Proofs.Policy.Selection

/-! What is configured about the policy states stays the same, whichever states are selected. -/

namespace PowerGovernor.Policy

namespace State

/-- A state as it was configured, without the loads of its last selection. -/
def configured (state : State) : State :=
  state.recordEntry {}

/-- A new state has not been selected. -/
@[simp] theorem configured_ofSpec (id : Nat) (spec : Spec) :
    (ofSpec id spec).configured = ofSpec id spec := by
  -- Readable or not, a state starts without loads, so taking them away changes nothing.
  unfold ofSpec
  split <;> rfl

/-- A state that may be selected has a CPU list that could be read. -/
theorem exists_usableState {id : Nat} {spec : Spec} (valid : (ofSpec id spec).valid = true) :
    ∃ activeCpus, ofSpec id spec = usableState id spec activeCpus := by
  -- A state is made as a usable one or as an unusable one, and only the former is valid.
  unfold ofSpec at valid ⊢
  split
  · exact ⟨_, rfl⟩
  · rename_i unreadable
    simp [unreadable, unusableState] at valid

end State

/-- The states of a table as they were configured. -/
def Table.configured (table : Table) : List State :=
  table.states.map State.configured

/-- The states of a new table stand in the order of the configuration, numbered from one. -/
theorem Table.getElem?_ofSpecs (specs : List Spec) (index : Nat) :
    (ofSpecs specs).states[index]? = specs[index]?.map (State.ofSpec (index + 1)) :=
  List.getElem?_mapIdx

/-- No state of a new table has been selected. -/
@[simp] theorem Table.configured_ofSpecs (specs : List Spec) :
    (ofSpecs specs).configured = (ofSpecs specs).states := by
  -- Entry by entry, every state is new, and a new state is as it was configured.
  apply List.ext_getElem?
  intro index
  rw [configured, List.getElem?_map, getElem?_ofSpecs]
  cases specs[index]? <;> simp

/-- Every state of a table is what the configuration at its place says, apart from the loads that
were recorded for it. -/
theorem Table.exists_spec {table : Table} {specs : List Spec}
    (same : table.configured = (ofSpecs specs).states) {index : Nat} {state : State}
    (present : table.states[index]? = some state) :
    ∃ spec, specs[index]? = some spec ∧ State.ofSpec (index + 1) spec = state.configured := by
  -- The place is compared in the two equal lists, where the configuration made what stands there.
  have normalized : (ofSpecs specs).states[index]? = some state.configured := by
    rw [← same, configured, List.getElem?_map, present]
    rfl
  exact Option.map_eq_some_iff.mp ((getElem?_ofSpecs specs index).symm.trans normalized)

/-- The table with the loads of a selection recorded for the state at a place. -/
def Table.record (table : Table) (index : Nat) (sample : Sample) : Table :=
  { table with states := table.states.modify index (.recordEntry sample) }

/-- Recording the loads of a selection leaves the configuration of all states alone. -/
@[simp] theorem Table.configured_record (table : Table) (index : Nat) (sample : Sample) :
    (table.record index sample).configured = table.configured := by
  apply List.ext_getElem?
  intro place
  -- Only the state at the place is another one, and only in the loads recorded for it.
  simp only [configured, record, List.getElem?_map, List.getElem?_modify]
  split
  · -- At the place itself, the state differs in the loads, which the configuration leaves out.
    subst place
    cases table.states[index]? <;> rfl
  · simp

namespace Selector

/-- Entering a state records the loads in the table. -/
theorem table_enter {selector : Selector} {index : Nat} {state : State}
    (present : selector.table.states[index]? = some state) (sample : Sample) :
    (selector.enter index sample).1.table = selector.table.record index sample := by
  -- Held or new, the state at the place is the one that gets the loads.
  simp only [enter, present]
  split <;> rfl

/-- A selection leaves the configuration of all states alone. -/
@[simp] theorem configured_select (selector : Selector) (sample : Sample)
    (hint : Option UInt32) :
    (selector.select sample hint).1.table.configured = selector.table.configured := by
  -- Either nothing is selected, or the table changes by one recording.
  cases found : selector.find? sample hint with
  | none => rw [select_of_none found]
  | some index =>
    obtain ⟨state, present⟩ := exists_of_find? found
    rw [select_of_some found, table_enter present, Table.configured_record]

/-- The interval of a selection: a kept state moves the last one, and a new one starts afresh. -/
theorem interval_enter_eq {selector : Selector} {index : Nat} {state : State}
    (present : selector.table.states[index]? = some state) (sample : Sample) :
    (selector.enter index sample).2.interval =
      some (if selector.current = some index
        then state.nextInterval selector.interval sample.cpu else state.firstInterval) := by
  -- Whether the state is held already decides between the two ways.
  simp only [enter, present]
  split <;> rfl

end Selector

end PowerGovernor.Policy
