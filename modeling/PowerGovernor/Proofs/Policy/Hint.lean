import PowerGovernor.Proofs.Policy.Admission
import PowerGovernor.Proofs.Policy.Configuration

/-! Selections by a workload hint and graphics load alone, while no load of the CPUs is known. -/

namespace PowerGovernor.Policy

/-- A state that may be selected for a hint and a graphics load, whatever else it limits. -/
structure State.FitsHint (state : State) (hint : UInt32) (gfx : Reading) : Prop where
  valid : state.valid = true
  workload : state.workload = none ∨ state.workload = some hint
  gfx : ∀ limit ∈ state.gfxLimit, ∀ load ∈ gfx, load ≤ limit

instance (state : State) (hint : UInt32) (gfx : Reading) : Decidable (state.FitsHint hint gfx) :=
  decidable_of_iff
    (state.valid = true ∧ (state.workload = none ∨ state.workload = some hint) ∧
      ∀ limit ∈ state.gfxLimit, ∀ load ∈ gfx, load ≤ limit)
    ⟨fun ⟨valid, workload, gfx⟩ => ⟨valid, workload, gfx⟩,
      fun fits => ⟨fits.valid, fits.workload, fits.gfx⟩⟩

/-- The place of the first state that fits a hint and a graphics load. -/
def Table.firstFor (table : Table) (hint : UInt32) (gfx : Reading) : Option Nat :=
  table.states.findIdx? fun state => state.FitsHint hint gfx

/-- The loads that were recorded for the states play no part in which of them fits. -/
theorem Table.firstFor_congr {left right : Table} (same : left.configured = right.configured)
    (hint : UInt32) (gfx : Reading) : left.firstFor hint gfx = right.firstFor hint gfx := by
  -- Searching the states is the same as searching their configurations.
  have searched (table : Table) : table.firstFor hint gfx =
      table.configured.findIdx? fun state => state.FitsHint hint gfx := by
    rw [configured, List.findIdx?_map, firstFor]
    congr 1
    funext state
    exact decide_eq_decide.mpr
      ⟨fun fits => ⟨fits.valid, fits.workload, fits.gfx⟩,
        fun fits => ⟨fits.valid, fits.workload, fits.gfx⟩⟩
  rw [searched, searched, same]

/-- While no load of the CPUs is known, thresholds on them, margins and the state that is held make
no difference to what a state admits. -/
theorem State.admits_hint {sample : Sample} (system : sample.system = none)
    (cpu : sample.cpu = none) (state : State) (held : Bool) (hint : UInt32) :
    state.admits held sample (some hint) = decide (state.FitsHint hint sample.gfx) := by
  rw [Bool.eq_iff_iff, admits_iff, decide_eq_true_iff]
  constructor
  · -- What admits the sample also fits the hint, since a workload that is set has to be the hinted
    -- one.
    intro suits
    refine ⟨suits.valid, ?_, suits.gfx⟩
    cases bound : state.workload with
    | none => exact Or.inl rfl
    | some workload => exact Or.inr (suits.workload workload bound).symm
  · intro fits
    refine ⟨fits.valid, fun workload bound => ?_, ?_, fits.gfx, ?_⟩
    · rcases fits.workload with unset | hinted
      · exact absurd (bound.symm.trans unset) (Option.some_ne_none workload)
      · exact hinted.symm.trans bound
    -- A load that is not known is within every limit.
    · simp [cpu]
    · simp [system]

namespace Selector

variable {selector : Selector} {sample : Sample}

/-- While no load of the CPUs is known, the first state that fits the hint is found. -/
theorem find?_hint (system : sample.system = none) (cpu : sample.cpu = none) (hint : UInt32) :
    selector.find? sample (some hint) = selector.table.firstFor hint sample.gfx := by
  have fits : selector.admitsAt sample (some hint) =
      (fun state => decide (state.FitsHint hint sample.gfx)) ∘ Prod.fst := by
    funext entry
    exact entry.1.admits_hint system cpu _ hint
  -- The places that the states are searched with drop out.
  rw [find?, fits, ← List.findIdx?_map, List.zipIdx_map_fst]
  rfl

/-- What is found is held from then on, and what is held is kept if nothing is found. -/
theorem current_select (selector : Selector) (sample : Sample) (hint : Option UInt32) :
    (selector.select sample hint).1.current =
      (selector.find? sample hint).or selector.current := by
  -- A state that is found is entered, held or not.
  cases found : selector.find? sample hint with
  | none => rw [select_of_none found, Option.none_or]
  | some index =>
    obtain ⟨state, present⟩ := exists_of_find? found
    rw [select_of_some found, current_enter present, Option.some_or]

/-- An interval is recommended exactly if a state is found. -/
theorem isSome_interval_select (selector : Selector) (sample : Sample) (hint : Option UInt32) :
    (selector.select sample hint).2.interval.isSome = (selector.find? sample hint).isSome := by
  -- Entering always comes with an interval.
  cases found : selector.find? sample hint with
  | none =>
    rw [select_of_none found]
    rfl
  | some index =>
    obtain ⟨state, present⟩ := exists_of_find? found
    rw [select_of_some found]
    exact congrArg Option.isSome (interval_enter present sample)

end Selector

end PowerGovernor.Policy
