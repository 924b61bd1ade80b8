import PowerGovernor.Proofs.Policy.Configuration

/-! Unusable states can be taken out of a table: the same states are selected, only their numbers
change. -/

namespace PowerGovernor.Policy

section Lists

variable {α : Type} (keep : α → Bool)

/-- How many of the members before a place are kept, which is the place that a kept member has among
the kept ones. -/
def rank (list : List α) (index : Nat) : Nat :=
  (list.take index).countP keep

/-- Behind the first member, ranks count it if it is kept. -/
theorem rank_cons_succ (head : α) (rest : List α) (index : Nat) :
    rank keep (head :: rest) (index + 1) = rank keep rest index + if keep head then 1 else 0 := by
  -- The first member is among those before any later place.
  simp only [rank, List.take_succ_cons, List.countP_cons]

variable {keep}

/-- A kept member is found at its rank among the kept ones. -/
theorem getElem?_filter_rank {list : List α} {index : Nat} {member : α}
    (present : list[index]? = some member) (kept : keep member = true) :
    (list.filter keep)[rank keep list index]? = some member := by
  -- A first member that is kept moves the others up by one place on both sides.
  induction list generalizing index with
  | nil => simp at present
  | cons head rest ih =>
    cases index with
    | zero =>
      -- Nothing stands before the first member.
      simp only [List.getElem?_cons_zero, Option.some.injEq] at present
      subst present
      simp [rank, kept]
    | succ index =>
      rw [List.getElem?_cons_succ] at present
      rw [rank_cons_succ]
      cases first : keep head <;> simp [first, ih present]

/-- Every member among the kept ones comes from some place, and stands at the rank of it. -/
theorem exists_of_getElem?_filter {list : List α} {place : Nat} {member : α}
    (present : (list.filter keep)[place]? = some member) :
    ∃ index, list[index]? = some member ∧ keep member = true ∧ rank keep list index = place := by
  -- A first member that is not kept is passed over without using up a place.
  induction list generalizing place with
  | nil => simp at present
  | cons head rest ih =>
    cases first : keep head with
    | false =>
      simp only [List.filter_cons, first, Bool.false_eq_true, if_false] at present
      obtain ⟨index, found, kept, same⟩ := ih present
      exact ⟨index + 1, found, kept, by simp [rank_cons_succ, first, same]⟩
    | true =>
      simp only [List.filter_cons, first, if_true] at present
      cases place with
      | zero =>
        simp only [List.getElem?_cons_zero, Option.some.injEq] at present
        subst present
        exact ⟨0, rfl, first, by simp [rank]⟩
      | succ place =>
        obtain ⟨index, found, kept, same⟩ := ih present
        exact ⟨index + 1, found, kept, by simp [rank_cons_succ, first, same]⟩

/-- Ranks grow behind a kept member. -/
theorem rank_lt_rank {list : List α} {index later : Nat} {member : α}
    (present : list[index]? = some member) (kept : keep member = true) (order : index < later) :
    rank keep list index < rank keep list later := by
  -- What stands before both places counts for both, and the kept member for the later one only.
  induction list generalizing index later with
  | nil => simp at present
  | cons head rest ih =>
    obtain ⟨later, rfl⟩ := Nat.exists_eq_succ_of_ne_zero (Nat.ne_zero_of_lt order)
    rw [Nat.succ_eq_add_one, rank_cons_succ]
    cases index with
    | zero =>
      simp only [List.getElem?_cons_zero, Option.some.injEq] at present
      subst present
      simp [rank, kept]
    | succ index =>
      rw [rank_cons_succ]
      exact Nat.add_lt_add_right (ih present (Nat.lt_of_succ_lt_succ order)) _

/-- Two kept members have the same rank only at the same place. -/
theorem rank_inj {list : List α} {index other : Nat} {member another : α}
    (present : list[index]? = some member) (kept : keep member = true)
    (there : list[other]? = some another) (keptToo : keep another = true) :
    rank keep list index = rank keep list other ↔ index = other := by
  refine ⟨fun same => ?_, fun same => same ▸ rfl⟩
  -- Different places have an order, and ranks follow it.
  rcases Nat.lt_trichotomy index other with before | equal | behind
  · have := rank_lt_rank present kept before
    omega
  · exact equal
  · have := rank_lt_rank there keptToo behind
    omega

/-- Changing a kept member in a way that keeps it changes the member at its rank. -/
theorem filter_modify {change : α → α} (stays : ∀ member, keep (change member) = keep member)
    {list : List α} {index : Nat} {member : α} (present : list[index]? = some member)
    (kept : keep member = true) :
    (list.modify index change).filter keep =
      (list.filter keep).modify (rank keep list index) change := by
  -- The changed member is kept as before, so nothing but its place has to be followed.
  induction list generalizing index with
  | nil => simp at present
  | cons head rest ih =>
    cases index with
    | zero =>
      simp only [List.getElem?_cons_zero, Option.some.injEq] at present
      subst present
      simp [rank, kept, stays]
    | succ index =>
      rw [List.getElem?_cons_succ] at present
      rw [rank_cons_succ, List.modify_succ_cons]
      cases first : keep head <;> simp [first, ih present]

end Lists

/-- A state under another number. -/
def State.numbered (state : State) (index : Nat) : State :=
  { state with id := index + 1 }

namespace Table

/-- The table without its unusable states, numbered from one again. -/
def pruned (table : Table) : Table where
  states := (table.states.filter State.valid).mapIdx fun index state => state.numbered index
  multiState := table.multiState

/-- The place that a usable state has among the usable ones. -/
def place (table : Table) (index : Nat) : Nat :=
  rank State.valid table.states index

-- Whether a state is usable is part of its configuration, so counts and places are as well.

/-- The usable states can be counted in the configuration. -/
theorem usableCount_eq (table : Table) :
    table.usableCount = table.configured.countP State.valid := by
  -- The loads that are recorded have no part in whether a state is usable.
  rw [configured, List.countP_map]
  rfl

/-- A place can be read off the configuration. -/
theorem place_eq (table : Table) (index : Nat) :
    table.place index = rank State.valid table.configured index := by
  -- The same holds of the states before a place.
  rw [rank, configured, ← List.map_take, List.countP_map]
  rfl

variable {table : Table} {index : Nat} {state : State}

/-- A usable state stands at its place, under the number of that place. -/
theorem getElem?_pruned (present : table.states[index]? = some state)
    (valid : state.valid = true) :
    table.pruned.states[table.place index]? = some (state.numbered (table.place index)) := by
  -- Among the usable states it stands at its rank, and numbering keeps the places.
  have kept := getElem?_filter_rank present valid
  simp only [pruned, place, List.getElem?_mapIdx, kept, Option.map_some]

/-- Every state of the pruned table is a usable one under another number. -/
theorem exists_of_getElem?_pruned {place : Nat} {other : State}
    (present : table.pruned.states[place]? = some other) :
    ∃ index state, table.states[index]? = some state ∧ state.valid = true ∧
      table.place index = place ∧ other = state.numbered place := by
  simp only [pruned, List.getElem?_mapIdx] at present
  -- The number is taken off first, and then the place of the usable state is found.
  obtain ⟨state, kept, rfl⟩ := Option.map_eq_some_iff.mp present
  obtain ⟨index, found, valid, same⟩ := exists_of_getElem?_filter kept
  exact ⟨index, state, found, valid, same, rfl⟩

/-- Loads are recorded for the same state in the pruned table. -/
theorem pruned_record (present : table.states[index]? = some state) (valid : state.valid = true)
    (sample : Sample) :
    (table.record index sample).pruned = table.pruned.record (table.place index) sample := by
  have stays : ∀ state : State, (state.recordEntry sample).valid = state.valid := fun _ => rfl
  simp only [pruned, record, place, filter_modify stays present valid, Table.mk.injEq, and_true]
  -- The number of a state does not depend on the loads recorded for it.
  apply List.ext_getElem?
  intro place
  simp only [List.getElem?_mapIdx, List.getElem?_modify]
  split
  · cases (table.states.filter State.valid)[place]? <;> rfl
  · simp

/-- Recording loads changes no place. -/
theorem place_record (table : Table) (index : Nat) (sample : Sample) :
    (table.record index sample).place = table.place :=
  funext fun other => by rw [place_eq, configured_record, ← place_eq]

end Table

namespace Selector

/-- The selector without the unusable states, which holds the same state at its new place. -/
def pruned (selector : Selector) : Selector where
  table := selector.table.pruned
  current := selector.current.map selector.table.place
  interval := selector.interval

/-- A selector that only holds usable states, and lets states decide only if there are any. -/
structure Sound (selector : Selector) : Prop where
  /-- The state that is held is usable. -/
  held : ∀ index, selector.current = some index →
    ∃ state : State, selector.table.states[index]? = some state ∧ state.valid = true
  /-- If the states decide, there is a usable one. -/
  usable : selector.table.multiState = true → 0 < selector.table.usableCount

variable {selector : Selector} {index : Nat} {state : State}

/-- Whether a usable state is held can be told by its place. -/
theorem held_pruned (sound : selector.Sound) (present : selector.table.states[index]? = some state)
    (valid : state.valid = true) :
    (selector.pruned.current == some (selector.table.place index)) =
      (selector.current == some index) := by
  -- Usable states that share a place are one state.
  rw [Bool.eq_iff_iff, beq_iff_eq, beq_iff_eq, pruned]
  cases current : selector.current with
  | none => simp
  | some other =>
    obtain ⟨held, there, usable⟩ := sound.held other current
    simp only [Option.map_some, Option.some.injEq]
    exact rank_inj there usable present valid

/-- The same state is found among the usable ones, at its new place. -/
theorem find?_pruned (sound : selector.Sound) (sample : Sample) (hint : Option UInt32) :
    selector.pruned.find? sample hint =
      (selector.find? sample hint).map selector.table.place := by
  -- A number plays no part in the admission of a state.
  have admits_numbered : ∀ (state : State) place held,
      (state.numbered place).admits held sample hint = state.admits held sample hint :=
    fun _ _ _ => rfl
  cases found : selector.find? sample hint with
  | none =>
    rw [find?_eq_none_iff] at found
    -- Every state of the pruned table was refused under its old number.
    rw [Option.map_none, find?_eq_none_iff]
    intro place other present
    obtain ⟨index, state, there, valid, rfl, rfl⟩ := Table.exists_of_getElem?_pruned present
    rw [admits_numbered, held_pruned sound there valid]
    exact found index state there
  | some index =>
    obtain ⟨⟨state, present, admitted⟩, before⟩ := find?_eq_some_iff.mp found
    have valid := State.valid_of_admits admitted
    rw [Option.map_some, find?_eq_some_iff]
    refine ⟨⟨_, Table.getElem?_pruned present valid, ?_⟩, ?_⟩
    · rw [admits_numbered, held_pruned sound present valid]
      exact admitted
    · -- A usable state before that place has been before the found one, and was refused.
      intro place below other there
      obtain ⟨earlier, refused, stood, usable, rfl, rfl⟩ :=
        Table.exists_of_getElem?_pruned there
      rw [admits_numbered, held_pruned sound stood usable]
      refine before earlier ?_ refused stood
      rcases Nat.lt_trichotomy earlier index with first | same | behind
      · exact first
      · subst same
        exact absurd below (Nat.lt_irrefl _)
      · have := rank_lt_rank present valid behind
        exact absurd below (Nat.not_lt.mpr (Nat.le_of_lt this))

/-- Entering a usable state does the same without the unusable ones. -/
theorem enter_pruned (sound : selector.Sound)
    (present : selector.table.states[index]? = some state) (valid : state.valid = true)
    (sample : Sample) :
    let one := selector.enter index sample
    let other := selector.pruned.enter (selector.table.place index) sample
    other.1 = one.1.pruned ∧ other.2.interval = one.2.interval ∧
      other.2.commands = one.2.commands := by
  -- The state is found at its place, and its loads are recorded there.
  have placed : selector.pruned.table.states[selector.table.place index]? = _ :=
    Table.getElem?_pruned present valid
  have recorded := Table.pruned_record present valid sample
  have places := selector.table.place_record index sample
  -- It is held already on both sides, or newly entered on both sides.
  have held : selector.pruned.current = some (selector.table.place index) ↔
      selector.current = some index := by
    have same := held_pruned sound present valid
    rwa [Bool.eq_iff_iff, beq_iff_eq, beq_iff_eq] at same
  simp only [enter, present, placed, held]
  split
  · refine ⟨?_, rfl, rfl⟩
    simp only [pruned, Selector.mk.injEq]
    exact ⟨recorded.symm, congrArg (selector.current.map ·) places.symm, rfl⟩
  · refine ⟨?_, rfl, rfl⟩
    simp only [pruned, Selector.mk.injEq]
    exact ⟨recorded.symm, by rw [Option.map_some, ← places]; rfl, rfl⟩

/-- A selection does the same without the unusable states. -/
theorem select_pruned (sound : selector.Sound) (sample : Sample) (hint : Option UInt32) :
    let one := selector.select sample hint
    let other := selector.pruned.select sample hint
    other.1 = one.1.pruned ∧ other.2.interval = one.2.interval ∧
      other.2.commands = one.2.commands := by
  -- Either nothing is found on both sides, or the same state.
  have same := find?_pruned sound sample hint
  cases found : selector.find? sample hint with
  | none =>
    rw [found] at same
    simp only [select_of_none found, select_of_none same, and_self]
  | some index =>
    obtain ⟨⟨state, present, admitted⟩, -⟩ := find?_eq_some_iff.mp found
    rw [found] at same
    simp only [select_of_some found, select_of_some same]
    exact enter_pruned sound present (State.valid_of_admits admitted) sample

/-- A selection keeps a selector sound. -/
theorem Sound.select (sound : selector.Sound) (sample : Sample) (hint : Option UInt32) :
    (selector.select sample hint).1.Sound := by
  cases found : selector.find? sample hint with
  | none =>
    -- A selection that finds nothing leaves everything as it was.
    rw [select_of_none found]
    exact sound
  | some index =>
    obtain ⟨⟨state, present, admitted⟩, -⟩ := find?_eq_some_iff.mp found
    have valid := State.valid_of_admits admitted
    rw [select_of_some found]
    constructor
    · -- What is held now has been found, and so is usable.
      intro other held
      rw [current_enter present, Option.some.injEq] at held
      subst held
      refine ⟨state.recordEntry sample, ?_, valid⟩
      rw [states_enter, List.getElem?_modify_eq, present]
      rfl
    · rw [table_enter present]
      intro decide
      rw [Table.usableCount_eq, Table.configured_record, ← Table.usableCount_eq]
      exact sound.usable decide

/-- Whether the states decide does not depend on the unusable ones. -/
theorem multiState_pruned (sound : selector.Sound) :
    selector.pruned.multiState = selector.multiState := by
  cases decide : selector.table.multiState with
  | false => simp [multiState, pruned, Table.pruned, decide]
  | true =>
    -- A usable state stands in either table.
    have counted := sound.usable decide
    have full : selector.table.states.isEmpty = false := by
      rw [List.isEmpty_eq_false_iff]
      intro empty
      simp [Table.usableCount, empty] at counted
    have rest : selector.table.pruned.states.isEmpty = false := by
      rw [Table.usableCount, List.countP_eq_length_filter] at counted
      rw [List.isEmpty_eq_false_iff, ← List.length_pos_iff, Table.pruned, List.length_mapIdx]
      exact counted
    have same : selector.table.pruned.multiState = true := decide
    simp only [multiState, pruned, decide, same, full, rest]

end Selector

/-- Whether a CPU list is given that cannot be read. -/
def Spec.unreadable (spec : Spec) : Bool :=
  !isBlankText spec.activeCpus.toList && !(CpuSet.read spec.activeCpus).isOk

/-- The configured states whose CPU list can be read, if they have one. -/
def readableSpecs (specs : List Spec) : List Spec :=
  specs.filter fun spec => !spec.unreadable

/-- A state is usable unless its CPU list cannot be read. -/
@[simp] theorem State.valid_ofSpec (id : Nat) (spec : Spec) :
    (State.ofSpec id spec).valid = !spec.unreadable := by
  simp only [ofSpec, readActiveCpus, Spec.unreadable]
  cases isBlankText spec.activeCpus.toList with
  -- A blank list is not read at all.
  | true => rfl
  | false =>
    cases CpuSet.read spec.activeCpus with
    | ok cpus => rfl
    | error error => rfl

/-- Telling usable states is telling readable CPU lists. -/
theorem State.valid_comp_ofSpec (id : Nat) :
    State.valid ∘ State.ofSpec id = fun spec => !Spec.unreadable spec :=
  funext fun spec => State.valid_ofSpec id spec

/-- The number of a configured state is all that depends on where it stands. -/
theorem State.numbered_ofSpec (id index : Nat) (spec : Spec) :
    (State.ofSpec id spec).numbered index = State.ofSpec (index + 1) spec := by
  -- Whether the CPU list can be read has nothing to do with the number.
  unfold ofSpec
  split <;> rfl

/-- Apart from their numbers, the states of a new table are the configured ones. -/
theorem Table.map_numbered_ofSpecs (specs : List Spec) :
    (ofSpecs specs).states.map (·.numbered 0) = specs.map (State.ofSpec 1) := by
  -- Place by place both lists show the state of the same specification.
  apply List.ext_getElem?
  intro index
  rw [List.getElem?_map, List.getElem?_map, getElem?_ofSpecs, Option.map_map]
  exact congrArg (specs[index]?.map ·) (funext fun spec => State.numbered_ofSpec _ 0 spec)

/-- Apart from their numbers, the usable states of a new table are the readable ones. -/
theorem Table.map_numbered_filter_ofSpecs (specs : List Spec) :
    ((ofSpecs specs).states.filter State.valid).map (·.numbered 0) =
      (readableSpecs specs).map (State.ofSpec 1) := by
  calc ((ofSpecs specs).states.filter State.valid).map (·.numbered 0)
      -- Whether a state is usable does not depend on its number.
      = ((ofSpecs specs).states.map (·.numbered 0)).filter State.valid := by
        rw [List.filter_map]
        rfl
    _ = (specs.map (State.ofSpec 1)).filter State.valid := by rw [map_numbered_ofSpecs]
    _ = (readableSpecs specs).map (State.ofSpec 1) := by
        rw [List.filter_map, State.valid_comp_ofSpec, readableSpecs]

/-- As many states of a new table are usable as have no unreadable CPU list. -/
theorem Table.usableCount_ofSpecs (specs : List Spec) :
    (ofSpecs specs).usableCount = (readableSpecs specs).length := by
  -- The usable states are the readable specifications, made into states.
  have same := congrArg List.length (map_numbered_filter_ofSpecs specs)
  rwa [List.length_map, List.length_map, ← List.countP_eq_length_filter] at same

/-- Pruning a new table is leaving out the states whose CPU lists cannot be read. -/
theorem Table.pruned_ofSpecs (specs : List Spec) :
    (ofSpecs specs).pruned = ofSpecs (readableSpecs specs) := by
  have states : (ofSpecs specs).pruned.states = (ofSpecs (readableSpecs specs)).states := by
    apply List.ext_getElem?
    intro place
    have same := congrArg (fun states => states[place]?.map (·.numbered place))
      (map_numbered_filter_ofSpecs specs)
    simp only [List.getElem?_map, Option.map_map] at same
    rw [getElem?_ofSpecs, pruned, List.getElem?_mapIdx]
    -- The last number given to a state is the one that counts.
    refine same.trans (congrArg ((readableSpecs specs)[place]?.map ·) ?_)
    exact funext fun spec => State.numbered_ofSpec 1 place spec
  -- What is readable stays readable, so the number of usable states is the same.
  have again : readableSpecs (readableSpecs specs) = readableSpecs specs := by
    simp [readableSpecs]
  have counted : (ofSpecs specs).usableCount = (ofSpecs (readableSpecs specs)).usableCount := by
    rw [usableCount_ofSpecs, usableCount_ofSpecs, again]
  have decides : (ofSpecs specs).multiState = (ofSpecs (readableSpecs specs)).multiState :=
    congrArg (fun count => decide (leastUsableStates ≤ count)) counted
  calc (ofSpecs specs).pruned
      = { states := (ofSpecs specs).pruned.states, multiState := (ofSpecs specs).multiState } := rfl
    _ = ofSpecs (readableSpecs specs) := by rw [states, decides]

/-- A new selector holds nothing, and lets states decide only if at least two are usable. -/
theorem Selector.sound_ofTable (specs : List Spec) :
    (Selector.ofTable (.ofSpecs specs)).Sound where
  held index held := by simp [Selector.ofTable] at held
  -- Two usable states are more than none.
  usable decide := by
    have enough : leastUsableStates ≤ (Table.ofSpecs specs).usableCount := of_decide_eq_true decide
    exact Nat.lt_of_lt_of_le (by decide) enough

/-- The place of a configured state is the number of readable ones before it. -/
theorem Table.place_ofSpecs (specs : List Spec) (index : Nat) :
    (ofSpecs specs).place index = rank (fun spec => !Spec.unreadable spec) specs index := by
  -- The states before a place come from the specifications before it.
  calc (ofSpecs specs).place index
      = rank State.valid ((ofSpecs specs).states.map (·.numbered 0)) index := by
        rw [rank, ← List.map_take, List.countP_map]
        rfl
    _ = rank (fun spec => !Spec.unreadable spec) specs index := by
        rw [map_numbered_ofSpecs, rank, ← List.map_take, List.countP_map,
          State.valid_comp_ofSpec, rank]

end PowerGovernor.Policy
