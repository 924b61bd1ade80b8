import PowerGovernor.Proofs.Policy.Admission

/-! A margin can only keep the state that is held, and what it takes for it to change the choice. -/

namespace PowerGovernor.Policy

/-- A sample that suits a state in everything but its system load, which is known to lie above the
limit of the state and within its margin. -/
structure State.RidesOut (state : State) (sample : Sample) (hint : Option UInt32) : Prop where
  valid : state.valid = true
  workload : ∀ workload ∈ state.workload, hint = some workload
  cpu : ∀ limit ∈ state.cpuLimit, ∀ load ∈ sample.cpu, load ≤ limit
  gfx : ∀ limit ∈ state.gfxLimit, ∀ load ∈ sample.gfx, load ≤ limit
  -- Both the limit and the margin are declared, and together they end at the full scale.
  system : ∃ limit ∈ state.systemLimit, ∃ margin ∈ state.margin, ∃ load ∈ sample.system,
    limit < load ∧ load.value ≤ min fullScale (limit.value + margin.value)

/-- A state rides out exactly those samples that it admits only while it is held. -/
theorem State.ridesOut_iff {state : State} {sample : Sample} {hint : Option UInt32} :
    state.RidesOut sample hint ↔
      state.admits true sample hint = true ∧ state.admits false sample hint = false := by
  rw [← Bool.not_eq_true, admits_iff, admits_iff]
  -- The two sets of conditions differ in the one for the system load only.
  constructor
  · rintro ⟨valid, workload, cpu, gfx, limit, limited, margin, margined, load, known, above, below⟩
    have within : load ≤ limit + margin := by
      rw [BasisPoints.le_iff, BasisPoints.value_add, Nat.min_comm]
      exact below
    -- There is but one limit and one load that the condition speaks about.
    refine ⟨⟨valid, workload, cpu, gfx, fun declared same shown there => ?_⟩, fun suits => ?_⟩
    · cases Option.mem_unique limited same
      cases Option.mem_unique known there
      exact Or.inr ⟨rfl, margin, margined, within⟩
    · rcases suits.system limit limited load known with fits | ⟨held, -⟩
      · exact absurd above (Nat.not_lt.mpr fits)
      · contradiction
  · rintro ⟨suits, refused⟩
    -- What refuses the sample without the margin can only be the system load.
    have exceeded : ¬ ∀ limit ∈ state.systemLimit, ∀ load ∈ sample.system, load ≤ limit :=
      fun fits => refused ⟨suits.valid, suits.workload, suits.cpu, suits.gfx,
        fun limit limited load known => Or.inl (fits limit limited load known)⟩
    simp only [Classical.not_forall] at exceeded
    obtain ⟨limit, limited, load, known, above⟩ := exceeded
    rcases suits.system limit limited load known with fits | ⟨-, margin, margined, within⟩
    · exact absurd fits above
    · rw [BasisPoints.le_iff, BasisPoints.value_add, Nat.min_comm] at within
      exact ⟨suits.valid, suits.workload, suits.cpu, suits.gfx, limit, limited, margin, margined,
        load, known, Nat.lt_of_not_le above, within⟩

namespace Selector

/-- The selector with another state held, or with none. -/
def holding (selector : Selector) (current : Option Nat) : Selector :=
  { selector with current }

variable {selector : Selector} {sample : Sample} {hint : Option UInt32} {index place : Nat}

/-- What is found while a state is held is found without it as well, unless only the state that is
held admits the sample there. -/
theorem find?_holding_none {current : Option Nat}
    (found : (selector.holding current).find? sample hint = some place)
    (admits : ∀ state, selector.table.states[place]? = some state →
      state.admits false sample hint = true) :
    (selector.holding none).find? sample hint = some place := by
  obtain ⟨⟨state, present, -⟩, before⟩ := find?_eq_some_iff.mp found
  refine find?_eq_some_iff.mpr ⟨⟨state, present, admits state present⟩, ?_⟩
  intro earlier below other there
  -- A state that is refused although it may be held is refused all the more.
  rw [Bool.eq_false_iff]
  intro admitted
  exact Bool.eq_false_iff.mp (before earlier below other there)
    (State.admits_mono (by simp [holding]) admitted)

/-- While one state is held, another one is found exactly as if nothing was held. -/
theorem find?_holding_none_of_ne (other : place ≠ index)
    (found : (selector.holding (some index)).find? sample hint = some place) :
    (selector.holding none).find? sample hint = some place := by
  -- A state is asked whether it is held only at its own place, so the found one notices nothing.
  obtain ⟨⟨state, present, admitted⟩, -⟩ := find?_eq_some_iff.mp found
  have notHeld : (some index == some place) = false := by simpa using Ne.symm other
  refine find?_holding_none found fun found there => ?_
  cases present.symm.trans there
  simpa only [holding, notHeld] using admitted

/-- Whatever is found without a state that is held, something that stands no later is found with
it. -/
theorem exists_find?_holding (found : (selector.holding none).find? sample hint = some place)
    (current : Option Nat) :
    ∃ earlier ≤ place, (selector.holding current).find? sample hint = some earlier := by
  -- Every state admits at least as much when it is held.
  have sameTable : (selector.holding none).table = (selector.holding current).table := rfl
  exact exists_find?_le sameTable (fun _ _ _ => State.admits_mono (by simp [holding])) found

/-- While a state is held, what is found is that state or what is found without it. -/
theorem find?_holding_cases (selector : Selector) (sample : Sample) (hint : Option UInt32)
    (index : Nat) :
    (selector.holding (some index)).find? sample hint =
        (selector.holding none).find? sample hint ∨
      (selector.holding (some index)).find? sample hint = some index := by
  cases reached : (selector.holding (some index)).find? sample hint with
  | none =>
    -- Nothing is found with the state held, so nothing is found without it.
    cases missed : (selector.holding none).find? sample hint with
    | none => exact Or.inl rfl
    | some place =>
      obtain ⟨earlier, -, found⟩ := exists_find?_holding missed (some index)
      exact absurd (reached.symm.trans found) (Option.some_ne_none earlier).symm
  | some place =>
    by_cases same : place = index
    · exact Or.inr (congrArg some same)
    · exact Or.inl (find?_holding_none_of_ne same reached).symm

/-- A state is asked as the one that is held. -/
theorem admits_holding {state : State} : state.admits
    ((selector.holding (some index)).current == some index) sample hint =
      state.admits true sample hint := by
  rw [show (selector.holding (some index)).current = some index from rfl, beq_self_eq_true]

/-- A state that is only found while it is held rides the sample out. -/
theorem exists_ridesOut_of_find?
    (found : (selector.holding (some index)).find? sample hint = some index)
    (differ : (selector.holding none).find? sample hint ≠ some index) :
    ∃ state, selector.table.states[index]? = some state ∧ state.RidesOut sample hint := by
  obtain ⟨⟨state, present, admitted⟩, -⟩ := find?_eq_some_iff.mp found
  rw [admits_holding] at admitted
  -- If the state was admitted without being held, it would be found without being held.
  have refused : state.admits false sample hint = false := by
    rw [Bool.eq_false_iff]
    intro anyway
    refine differ (find?_holding_none found fun other there => ?_)
    cases present.symm.trans there
    exact anyway
  exact ⟨state, present, State.ridesOut_iff.mpr ⟨admitted, refused⟩⟩

/-- The exit margin can only keep the state that is held. With it the choice is the same as if
nothing was held, or it is that state; and it differs from the choice without it exactly if that
state rides the sample out, and no state before it would be chosen otherwise. -/
theorem margin_only_keeps (selector : Selector) (sample : Sample) (hint : Option UInt32)
    (index : Nat) :
    let held := (selector.holding (some index)).find? sample hint
    let free := (selector.holding none).find? sample hint
    (held = free ∨ held = some index) ∧
      (held ≠ free ↔
        (∃ state, selector.table.states[index]? = some state ∧ state.RidesOut sample hint) ∧
          ∀ later, free = some later → index < later) := by
  intro held free
  refine ⟨find?_holding_cases selector sample hint index, fun differ => ?_, ?_⟩
  · have chosen : held = some index :=
      (find?_holding_cases selector sample hint index).resolve_left differ
    have elsewhere : free ≠ some index := fun same => differ (chosen.trans same.symm)
    refine ⟨exists_ridesOut_of_find? chosen elsewhere, fun later found => ?_⟩
    -- Holding a state never moves the choice behind the one without it.
    obtain ⟨earlier, below, same⟩ := exists_find?_holding found (some index)
    cases chosen.symm.trans same
    exact Nat.lt_of_le_of_ne below fun equal => elsewhere (equal ▸ found)
  · rintro ⟨⟨state, present, rides⟩, behind⟩ same
    have admitted : state.admits ((selector.holding (some index)).current == some index)
        sample hint = true := admits_holding.trans (State.ridesOut_iff.mp rides).1
    -- Nothing that stands behind the state is found, although nothing else is found without it.
    obtain ⟨earlier, below, found⟩ : ∃ earlier ≤ index, held = some earlier :=
      exists_find?_of_admits present admitted
    have beyond := behind earlier (same.symm.trans found)
    omega

end Selector

end PowerGovernor.Policy
