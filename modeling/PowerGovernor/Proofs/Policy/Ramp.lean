import PowerGovernor.Platform.Simulated
import PowerGovernor.Proofs.Policy.Configuration
import PowerGovernor.Proofs.Policy.Pacing
import PowerGovernor.Proofs.Policy.Steadiness

/-! A state with a fixed step leads in equal steps from its shortest interval to its longest one,
and starts again at the shortest whenever it is newly entered. -/

namespace PowerGovernor.Policy

/-- How often in a row a place was selected at the end of a series of selections; those that found
nothing do not count. -/
def streak (selected : List (Option Nat)) (index : Nat) : Nat :=
  ((selected.filterMap id).reverse.takeWhile fun place => place == index).length

/-- A selection of nothing leaves every streak as it was. -/
theorem streak_append_none (selected : List (Option Nat)) (index : Nat) :
    streak (selected ++ [none]) index = streak selected index := by
  simp [streak]

/-- One more selection makes the streak of its place longer. -/
theorem streak_append_self (selected : List (Option Nat)) (index : Nat) :
    streak (selected ++ [some index]) index = streak selected index + 1 := by
  simp [streak]

/-- A selection of another place ends a streak. -/
theorem streak_append_of_ne {place index : Nat} (other : place ≠ index)
    (selected : List (Option Nat)) : streak (selected ++ [some place]) index = 0 := by
  simp [streak, other]

/-- A place has no streak exactly if another one was selected last, or none at all. -/
theorem streak_eq_zero_iff {selected : List (Option Nat)} {index : Nat} :
    streak selected index = 0 ↔ (selected.filterMap id).getLast? ≠ some index := by
  -- The last selection comes first where the streak is counted.
  rw [streak, ← List.head?_reverse]
  cases (selected.filterMap id).reverse with
  | nil => simp
  | cons last earlier => by_cases same : last = index <;> simp [same]

namespace State

variable {state other : State} {step : UInt32}

/-- Whether a state ramps is part of its configuration. -/
theorem rampsBy_configured : state.configured.RampsBy step ↔ state.RampsBy step :=
  ⟨fun ramps => ⟨ramps.increment, ramps.floor_le, ramps.min_le_max⟩,
    fun ramps => ⟨ramps.increment, ramps.floor_le, ramps.min_le_max⟩⟩

/-- So is what the steps lead to. -/
theorem rampMilliseconds_congr (same : other.configured = state.configured) (step : UInt32)
    (count : Nat) : other.rampMilliseconds step count = state.rampMilliseconds step count :=
  congrArg (fun configured => configured.rampMilliseconds step count) same

/-- Without a step a state that ramps is at its shortest interval. -/
theorem RampsBy.rampMilliseconds_zero (ramps : state.RampsBy step) :
    state.rampMilliseconds step 0 = state.minInterval.toNat := by
  -- The longest interval is no shorter, so it does not matter yet.
  have order := UInt32.le_iff_toNat_le.mp ramps.min_le_max
  rw [rampMilliseconds, Nat.zero_mul, Nat.add_zero, Nat.min_eq_right order]

end State

namespace Selector

/-- A selector on its way along the ramps of a table: it holds what was selected last, and if that
is a state that ramps its interval has gone up with every selection in a row but the first. -/
structure Ramped (table : Table) (selected : List (Option Nat)) (selector : Selector) : Prop where
  /-- The states are configured as in the table. -/
  configured : selector.table.configured = table.configured
  /-- The state that was selected last is held. -/
  current : selector.current = (selected.filterMap id).getLast?
  /-- The interval of a state that ramps tells how often it was selected in a row. -/
  interval : ∀ (index : Nat) state step, table.states[index]? = some state → state.RampsBy step →
    ∀ count, streak selected index = count + 1 →
      selector.interval.toNat = state.rampMilliseconds step count

variable {table : Table} {selected : List (Option Nat)} {selector : Selector} {index : Nat}
  {state : State} {step : UInt32}

/-- A new selector holds nothing, and nothing was selected. -/
theorem ramped_ofTable (table : Table) : (ofTable table).Ramped table [] where
  configured := rfl
  current := rfl
  interval index state step present ramps count streak := by cases streak

/-- A state of the selector is the one at the same place in the table, apart from the loads that
were recorded for it. -/
theorem Ramped.exists_state (ramped : selector.Ramped table selected)
    (present : table.states[index]? = some state) :
    ∃ held, selector.table.states[index]? = some held ∧ held.configured = state.configured := by
  -- Both tables have the same configured state at this place.
  have same : (selector.table.configured)[index]? = some state.configured := by
    rw [ramped.configured, Table.configured, List.getElem?_map, present]
    rfl
  rw [Table.configured, List.getElem?_map] at same
  exact Option.map_eq_some_iff.mp same

/-- Whatever was selected before, a state that ramps is entered with as many steps as its streak has
selections. -/
theorem Ramped.interval_enter (ramped : selector.Ramped table selected)
    (present : table.states[index]? = some state) (ramps : state.RampsBy step) (sample : Sample) :
    (selector.enter index sample).1.interval.toNat =
      state.rampMilliseconds step (streak selected index) := by
  obtain ⟨held, there, same⟩ := ramped.exists_state present
  have ramp : held.RampsBy step :=
    State.rampsBy_configured.mp (same ▸ State.rampsBy_configured.mpr ramps)
  simp only [enter, there]
  split
  · -- The state is held, so its streak has begun, and it goes on by one step.
    rename_i kept
    have begun : streak selected index ≠ 0 := fun zero =>
      streak_eq_zero_iff.mp zero (ramped.current.symm.trans kept)
    obtain ⟨count, streak⟩ := Nat.exists_eq_succ_of_ne_zero begun
    have reached := ramped.interval index state step present ramps count streak
    rw [← State.rampMilliseconds_congr same] at reached
    rw [streak, ← State.rampMilliseconds_congr same]
    exact ramp.nextInterval reached sample.cpu
  · -- Another state was selected last, or none at all.
    rename_i left
    have fresh : streak selected index = 0 :=
      streak_eq_zero_iff.mpr fun last => left (ramped.current.trans last)
    rw [fresh, ← State.rampMilliseconds_congr same, ramp.rampMilliseconds_zero]
    exact congrArg UInt32.toNat ramp.firstInterval

/-- One selection leads a selector on along its ramps. -/
theorem Ramped.select (ramped : selector.Ramped table selected) (sample : Sample)
    (hint : Option UInt32) :
    (selector.select sample hint).1.Ramped table (selected ++ [selector.find? sample hint]) := by
  have configured := (selector.configured_select sample hint).trans ramped.configured
  cases found : selector.find? sample hint with
  | none =>
    -- Nothing was found, so nothing has changed.
    rw [select_of_none found] at configured ⊢
    refine ⟨configured, by simpa using ramped.current, ?_⟩
    intro index state step present ramps count
    rw [streak_append_none]
    exact ramped.interval index state step present ramps count
  | some place =>
    obtain ⟨held, there⟩ := exists_of_find? found
    rw [select_of_some found] at configured ⊢
    refine ⟨configured, by simp [current_enter there], ?_⟩
    intro index state step present ramps count streak
    -- Only the state that was selected just now has a streak.
    have last : place = index := Decidable.byContradiction fun other => by
      rw [streak_append_of_ne other] at streak
      contradiction
    subst last
    rw [streak_append_self, Nat.add_right_cancel_iff] at streak
    rw [← streak]
    exact ramped.interval_enter present ramps sample

/-- The machine is asked for nothing exactly if the state that is selected is held already. -/
theorem commands_enter_eq_nil_iff {state : State}
    (present : selector.table.states[index]? = some state) (sample : Sample) :
    (selector.enter index sample).2.commands = [] ↔ selector.current = some index := by
  refine ⟨fun silent => Decidable.byContradiction fun fresh => ?_,
    fun held => commands_enter_of_held held sample⟩
  -- A state that is newly entered asks for low-power mode at least.
  simp [enter, present, fresh, State.commands] at silent

section Runs

variable {World : Type} {platform : Platform World}

/-- Every turn of a run begins with a selector that the turns before it have led along its ramps. -/
theorem Ramped.exists_turn (inputs : List (Sample × Option UInt32)) :
    ∀ {selector : Selector} {selected : List (Option Nat)} {world : World}
      {earlier later : List (Turn World)} {turn : Turn World},
      selector.Ramped table selected →
      selector.turns platform world inputs = earlier ++ turn :: later →
      ∃ before sample hint machine, turn = Selector.turn before sample hint platform machine ∧
        before.Ramped table (selected ++ earlier.map Turn.selected) := by
  -- What was selected before grows by one selection with each turn that is left behind.
  induction inputs with
  | nil => intro _ _ _ earlier _ _ _ run; simp [turns] at run
  | cons input rest ih =>
    intro selector selected world earlier later turn ramped run
    obtain ⟨sample, hint⟩ := input
    cases earlier with
    | nil =>
      -- The turn is the first one of the run.
      obtain ⟨rfl, -⟩ := List.cons_eq_cons.mp run
      exact ⟨selector, sample, hint, world, rfl, by simpa using ramped⟩
    | cons first others =>
      -- The first turn leads on to the others.
      obtain ⟨rfl, onward⟩ := List.cons_eq_cons.mp run
      obtain ⟨before, next, told, machine, same, led⟩ := ih (ramped.select sample hint) onward
      refine ⟨before, next, told, machine, same, ?_⟩
      rw [List.map_cons, selected_turn, List.append_cons]
      exact led

/-- A state with a fixed step is polled ever more slowly while it is kept, and fast again once it is
newly entered.

In any run of selections, whatever is found in between, the interval of the state is its shortest
one and a step more for each time that it was selected in a row before, up to its longest one; no
sum gets lost in a word. When another state was selected last, or none at all, the state is newly
entered with its shortest interval, and only then the machine is asked for something. -/
theorem fixed_steps_ramp (table : Table) (platform : Platform World) (world : World)
    (inputs : List (Sample × Option UInt32)) {earlier later : List (Turn World)} {turn : Turn World}
    (run : (ofTable table).turns platform world inputs = earlier ++ turn :: later) {index : Nat}
    {state : State} {step : UInt32} (present : table.states[index]? = some state)
    (ramps : state.RampsBy step) (selected : turn.selected = some index) :
    let count := streak (earlier.map Turn.selected) index
    ∃ interval, turn.interval = some interval ∧
      interval.toNat =
        min state.maxInterval.toNat (state.minInterval.toNat + count * step.toNat) ∧
      (turn.calls ≠ [] ↔ count = 0) ∧
      ((earlier.filterMap Turn.selected).getLast? ≠ some index → interval = state.minInterval) := by
  intro count
  obtain ⟨before, sample, hint, machine, rfl, ramped⟩ :=
    (ramped_ofTable table).exists_turn inputs run
  rw [List.nil_append] at ramped
  rw [selected_turn] at selected
  obtain ⟨held, there⟩ := exists_of_find? selected
  have reached := ramped.interval_enter present ramps sample
  have turned : (before.turn sample hint platform machine).interval =
      some (before.enter index sample).1.interval := by
    simp [turn, select_of_some selected, interval_enter there]
  have asked : (before.turn sample hint platform machine).calls ≠ [] ↔ count = 0 := by
    -- The streak has not begun exactly if the state is not held.
    have held := commands_enter_eq_nil_iff there sample
    rw [ramped.current] at held
    simp [turn, select_of_some selected, Decision.calls, held, count, streak_eq_zero_iff]
  refine ⟨_, turned, reached, asked, fun fresh => ?_⟩
  -- Without a streak there is no step, and the shortest interval is left.
  have none : streak (earlier.map Turn.selected) index = 0 :=
    streak_eq_zero_iff.mpr (by simpa [List.filterMap_map] using fresh)
  rw [none, ramps.rampMilliseconds_zero] at reached
  exact UInt32.toNat_inj.mp reached

/-- A state for one workload type whose step soon outgrows a word, and a state for another type. -/
def steepAndOther : Table :=
  .ofSpecs
    [{ name := "steep", workload := some 1, minInterval := 500, maxInterval := 4000000000,
       increment := some (.fixed 3000000000) },
      { name := "other", workload := some 2 }]

/-- The turns on a series of hints, among them one that no state is meant for. -/
def steepTurns : List (Turn Simulated) :=
  (ofTable steepAndOther).turns Simulated.platform { files := .rooted [] }
    ([some 1, none, some 1, some 1, some 2, some 1].map fun hint => ({}, hint))

/-- The interval grows up to the longest one, and is the shortest again after the other state. -/
theorem fixed_steps_ramp_steep :
    steepTurns.map Turn.interval =
        [some 500, none, some 3000000500, some 4000000000, some 1000, some 500] ∧
      ∃ turn ∈ steepTurns, turn.selected = some 0 ∧
        streak ((steepTurns.take 3).map Turn.selected) 0 = 2 ∧
        ∃ interval, turn.interval = some interval ∧
          interval.toNat = min 4000000000 (500 + 2 * 3000000000) := by
  -- The turn looked at is the fourth one, the third selection of the steep state.
  have split : steepTurns = steepTurns.take 3 ++ steepTurns[3] :: steepTurns.drop 4 := by
    rw [List.getElem_cons_drop, List.take_append_drop]
  have count : streak ((steepTurns.take 3).map Turn.selected) 0 = 2 := by decide +kernel
  have selected : steepTurns[3].selected = some 0 := by decide +kernel
  have present : steepAndOther.states[0]? = some steepAndOther.states[0] := rfl
  obtain ⟨interval, recommended, worth, -⟩ := fixed_steps_ramp steepAndOther Simulated.platform
    { files := .rooted [] } _ split present ⟨rfl, by decide, by decide⟩ selected
  rw [count] at worth
  exact ⟨by decide +kernel, steepTurns[3], List.getElem_mem _, selected, count, interval,
    recommended, worth⟩

end Runs

end Selector

end PowerGovernor.Policy
