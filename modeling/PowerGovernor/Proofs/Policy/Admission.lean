import PowerGovernor.Proofs.Policy.Selection

/-! What it takes for a state to admit a sample, and that less load never makes it refuse. -/

namespace PowerGovernor

theorem BasisPoints.le_trans {left middle right : BasisPoints} (below : left ≤ middle)
    (above : middle ≤ right) : left ≤ right :=
  Nat.le_trans below above

/-- Each load of one sample is unknown, or it is known in the other sample as well and no larger
than there. -/
structure Sample.AtMost (lighter heavier : Sample) : Prop where
  system : ∀ load ∈ lighter.system, ∃ other ∈ heavier.system, load ≤ other
  cpu : ∀ load ∈ lighter.cpu, ∃ other ∈ heavier.cpu, load ≤ other
  gfx : ∀ load ∈ lighter.gfx, ∃ other ∈ heavier.gfx, load ≤ other

namespace Policy

/-- A sample and a hint that a state admits, as conditions on what the state declares. -/
structure State.Suits (state : State) (held : Bool) (sample : Sample) (hint : Option UInt32) :
    Prop where
  valid : state.valid = true
  -- A state for one workload type waits for its hint.
  workload : ∀ workload ∈ state.workload, hint = some workload
  cpu : ∀ limit ∈ state.cpuLimit, ∀ load ∈ sample.cpu, load ≤ limit
  gfx : ∀ limit ∈ state.gfxLimit, ∀ load ∈ sample.gfx, load ≤ limit
  -- Only a state that is held may use the margin above its limit.
  system : ∀ limit ∈ state.systemLimit, ∀ load ∈ sample.system,
    load ≤ limit ∨ held = true ∧ ∃ margin ∈ state.margin, load ≤ limit + margin

theorem exceeds_eq_false_iff {reading : Reading} {limit : BasisPoints} :
    exceeds reading limit = false ↔ ∀ load ∈ reading, load ≤ limit := by
  -- A load that is not known lies above no limit.
  cases reading with
  | none => simp [exceeds]
  | some load => simp [exceeds, BasisPoints.lt_iff, BasisPoints.le_iff]

theorem within_eq_true_iff {limit : Option BasisPoints} {reading : Reading} :
    within limit reading = true ↔ ∀ most ∈ limit, ∀ load ∈ reading, load ≤ most := by
  -- Without a limit nothing is asked of the reading.
  cases limit with
  | none => simp [within]
  | some most => simp [within, exceeds_eq_false_iff]

namespace State

variable {state : State} {held : Bool} {sample : Sample} {hint : Option UInt32}

theorem acceptsWorkload_iff :
    state.acceptsWorkload hint = true ↔ ∀ workload ∈ state.workload, hint = some workload := by
  -- A state without a workload type takes any hint.
  unfold acceptsWorkload
  cases state.workload with
  | none => simp
  | some workload => simp

theorem acceptsSystem_iff {reading : Reading} :
    state.acceptsSystem held reading = true ↔
      ∀ limit ∈ state.systemLimit, ∀ load ∈ reading,
        load ≤ limit ∨ held = true ∧ ∃ margin ∈ state.margin, load ≤ limit + margin := by
  unfold acceptsSystem
  cases state.systemLimit with
  | none => simp
  | some limit =>
    -- The limit is exceeded by a known load only, and then the margin decides.
    cases reading with
    | none => simp [exceeds]
    | some load => cases state.margin <;> simp [exceeds, BasisPoints.lt_iff, BasisPoints.le_iff]

/-- The checks of a state amount to the conditions on what it declares. -/
theorem admits_iff : state.admits held sample hint = true ↔ state.Suits held sample hint := by
  -- The checks are made one after the other, and all of them have to pass.
  simp only [admits, Bool.and_eq_true, acceptsWorkload_iff, within_eq_true_iff, acceptsSystem_iff]
  constructor
  · rintro ⟨⟨⟨⟨valid, workload⟩, cpu⟩, gfx⟩, system⟩
    exact ⟨valid, workload, cpu, gfx, system⟩
  · intro suits
    exact ⟨⟨⟨⟨suits.valid, suits.workload⟩, suits.cpu⟩, suits.gfx⟩, suits.system⟩

/-- A state that suits a sample suits any sample with less load, held or not. -/
theorem Suits.of_atMost {lighter heavier : Sample} (suits : state.Suits held heavier hint)
    (less : lighter.AtMost heavier) : state.Suits held lighter hint where
  valid := suits.valid
  workload := suits.workload
  cpu limit declared load known := by
    obtain ⟨other, shown, below⟩ := less.cpu load known
    exact BasisPoints.le_trans below (suits.cpu limit declared other shown)
  gfx limit declared load known := by
    obtain ⟨other, shown, below⟩ := less.gfx load known
    exact BasisPoints.le_trans below (suits.gfx limit declared other shown)
  system limit declared load known := by
    obtain ⟨other, shown, below⟩ := less.system load known
    -- What the larger load did, with or without the margin, the smaller one does too.
    rcases suits.system limit declared other shown with fits | ⟨held, margin, ridden, fits⟩
    · exact Or.inl (BasisPoints.le_trans below fits)
    · exact Or.inr ⟨held, margin, ridden, BasisPoints.le_trans below fits⟩

end State

namespace Selector

/-- A state that admits the sample is found, or one that stands before it. -/
theorem exists_find?_of_admits {selector : Selector} {sample : Sample} {hint : Option UInt32}
    {index : Nat} {state : State} (present : selector.table.states[index]? = some state)
    (admitted : state.admits (selector.current == some index) sample hint = true) :
    ∃ earlier ≤ index, selector.find? sample hint = some earlier := by
  cases reached : selector.find? sample hint with
  | none =>
    have refused := find?_eq_none_iff.mp reached index state present
    exact absurd (admitted.symm.trans refused) Bool.noConfusion
  | some earlier =>
    refine ⟨earlier, Nat.le_of_not_lt fun beyond => ?_, rfl⟩
    -- It would have been found first if it stood before what is found.
    have refused := (find?_eq_some_iff.mp reached).2 index beyond state present
    exact absurd (admitted.symm.trans refused) Bool.noConfusion

/-- A selector whose states admit more finds one that stands no later. -/
theorem exists_find?_le {selector wider : Selector} {sample other : Sample}
    {hint : Option UInt32} (same : selector.table = wider.table)
    (more : ∀ (index : Nat) (state : State), selector.table.states[index]? = some state →
      state.admits (selector.current == some index) sample hint = true →
        state.admits (wider.current == some index) other hint = true)
    {later : Nat} (found : selector.find? sample hint = some later) :
    ∃ earlier ≤ later, wider.find? other hint = some earlier := by
  obtain ⟨⟨state, present, admitted⟩, -⟩ := find?_eq_some_iff.mp found
  -- The state that was found before is admitted still.
  exact exists_find?_of_admits (same ▸ present) (more later state present admitted)

/-- Less load never lowers the priority of the state that is chosen: whatever state is held and
whatever the hint, every state that admits a sample admits each sample with less load, and the first
such state stands no later than before. -/
theorem less_load_keeps_priority (selector : Selector) (hint : Option UInt32)
    {lighter heavier : Sample} (less : lighter.AtMost heavier) :
    (∀ (state : State) held, state.admits held heavier hint = true →
      state.admits held lighter hint = true) ∧
    ∀ later, selector.find? heavier hint = some later →
      ∃ earlier ≤ later, selector.find? lighter hint = some earlier := by
  -- What a state admits decides which one is found, so the first part brings the second.
  have admits (state : State) (held : Bool) (admitted : state.admits held heavier hint = true) :
      state.admits held lighter hint = true :=
    State.admits_iff.mpr ((State.admits_iff.mp admitted).of_atMost less)
  refine ⟨admits, fun later found => ?_⟩
  exact exists_find?_le rfl (fun index state _ => admits state _) found

/-- Three states by system load, of which the last one sets no limit. -/
def byLoad (held : Option Nat) : Selector where
  table := .ofSpecs [{ name := "idle", systemPercent := 10 },
    { name := "light", systemPercent := 30, cpuPercent := 50, marginPoints := 500 },
    { name := "busy" }]
  current := held
  interval := defaultInterval

/-- A state that is held within its margin gives way to an earlier one when the CPU load is as it
was and the system load is not known. -/
theorem less_load_keeps_priority_margin :
    let heavier : Sample := { system := some (.ofPercent 34), cpu := some (.ofPercent 50) }
    let lighter : Sample := { cpu := some (.ofPercent 50) }
    lighter.AtMost heavier ∧ (byLoad (some 1)).find? heavier none = some 1 ∧
      (byLoad (some 1)).find? lighter none = some 0 ∧
      ∃ earlier ≤ 1, (byLoad (some 1)).find? lighter none = some earlier := by
  -- Nothing is said about the system load of the lighter sample, so it lies above no limit.
  intro heavier lighter
  have less : lighter.AtMost heavier :=
    ⟨by simp [lighter], fun load known => ⟨load, known, Nat.le_refl _⟩, by simp [lighter]⟩
  have held : (byLoad (some 1)).find? heavier none = some 1 := by decide +kernel
  exact ⟨less, held, by decide +kernel,
    (less_load_keeps_priority (byLoad (some 1)) none less).2 1 held⟩

end Selector

end Policy

end PowerGovernor
