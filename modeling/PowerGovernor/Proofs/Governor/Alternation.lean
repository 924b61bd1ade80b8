import Mathlib.Data.List.Chain
import PowerGovernor.Proofs.Governor.Control

/-! The built-in controller enters and leaves low-power mode by turns, and only for its reasons. -/

namespace PowerGovernor

/-- The table's verdict on its states is the one that their number leads to. -/
def Policy.Table.Counted (table : Table) : Prop :=
  table.multiState = decide (leastUsableStates ≤ table.usableCount)

/-- A table made of configured states is counted. -/
theorem Policy.Table.counted_ofSpecs (specs : List Spec) : (ofSpecs specs).Counted := rfl

/-- The other change of mode. -/
def ModeChange.opposite : ModeChange → ModeChange
  | .enter => .leave
  | .leave => .enter

/-- The change that a machine has not made yet. -/
def ModeChange.nextFrom (lowPower : Bool) : ModeChange :=
  if lowPower then .leave else .enter

/-- Once a change has been made the other one is next. -/
theorem ModeChange.nextFrom_made (change : ModeChange) :
    nextFrom (change == .enter) = change.opposite := by
  -- Whether the machine is in low-power mode is what the change has just settled.
  cases change <;> rfl

/-- Changes that begin with the given one and then take turns. -/
def Alternates : ModeChange → List ModeChange → Prop
  | _, [] => True
  | next, change :: rest => change = next ∧ Alternates next.opposite rest

/-- The load that a change of mode is about is known, and it asks for the change. -/
def Settings.Justify (settings : Settings) (sample : Sample) : ModeChange → Prop
  | .enter => ∃ system, sample.system = some system ∧ system ≤ settings.entryThreshold
  | .leave => ∃ cpu, sample.cpu = some cpu ∧ settings.exitThreshold < cpu

namespace Governor

variable {World : Type}

/-- A poll that leaves the mode as it is ends the warm-up. -/
def Rests (platform : Platform World) (world : World) (tick : Tick World) : Prop :=
  tick.modeChanges = [] ∧ tick.governor.warmingUp = false ∧
    platform.inLowPower tick.world = platform.inLowPower world

/-- A poll that changes the mode has a governor that is warm and a reason, makes the one change
that the machine has not made, and has the governor warm up again. -/
def Changes (governor : Governor) (platform : Platform World) (world : World)
    (tick : Tick World) : Prop :=
  ∃ change, change = ModeChange.nextFrom (platform.inLowPower world) ∧
    governor.warmingUp = false ∧
    governor.settings.Justify tick.governor.sample change ∧
    tick.modeChanges = [change] ∧ tick.governor.warmingUp = true ∧
    platform.inLowPower tick.world = (change == .enter)

/-- A verdict that asks for a change is reached by a warm governor, for a reason, and about the
change that the machine has not made. -/
theorem justify_of_classify {governor : Governor} {lowPower : Bool} {change : ModeChange}
    (verdict : governor.classify lowPower = change.verdict) :
    governor.warmingUp = false ∧ change = .nextFrom lowPower ∧
      governor.settings.Justify governor.sample change := by
  cases change with
  | enter =>
    -- An idle system is found outside low-power mode only.
    obtain ⟨warm, outside, reason⟩ := classify_eq_idle_iff.mp verdict
    exact ⟨warm, by simp [outside, ModeChange.nextFrom], reason⟩
  | leave =>
    -- An overloaded CPU is found in low-power mode only.
    obtain ⟨warm, inside, reason⟩ := classify_eq_overload_iff.mp verdict
    exact ⟨warm, by simp [inside, ModeChange.nextFrom], reason⟩

/-- A poll that the built-in controller decides asks for nothing but a change of mode, and it
either rests or changes the mode. -/
theorem tick_cases {platform : Platform World} (tracks : platform.TracksMode)
    {governor : Governor} (monitored : governor.settings.monitor = true)
    (builtIn : governor.selector.multiState = false) (now : Nat) (world : World) :
    let tick := governor.tick now none platform world
    tick.governor.settings = governor.settings ∧
      tick.governor.selector = governor.selector ∧
      (∀ command, .command command ∈ tick.calls → ∃ change, command = .changeMode change) ∧
      (Rests platform world tick ∨ governor.Changes platform world tick) := by
  rcases tick_controlled tracks monitored builtIn now world with
    ⟨kept, asks⟩ | ⟨change, verdict, -, made, asks⟩
  · -- Nothing is asked for, and the governor only settles.
    simp only [kept]
    refine ⟨rfl, rfl, fun command member => ?_, Or.inl ⟨asks.modeChanges, ?_, asks.inLowPower⟩⟩
    · simpa using asks.commands command member
    · rw [kept]
      rfl
  · -- What the verdict asks for is the one change.
    obtain ⟨warm, next, reason⟩ := justify_of_classify verdict
    simp only [made]
    refine ⟨rfl, rfl, fun command member => ⟨change, ?_⟩, Or.inr ⟨change, next, warm, ?_⟩⟩
    · simpa using asks.commands command member
    · rw [made]
      exact ⟨reason, asks.modeChanges, rfl, asks.inLowPower⟩

/-- What a run of the built-in controller shows, from a machine that makes the given change next. -/
structure Orderly (settings : Settings) (next : ModeChange) (ticks : List (Tick World)) :
    Prop where
  /-- The changes of mode take turns. -/
  alternates : Alternates next (ticks.flatMap Tick.modeChanges)
  /-- No poll changes the mode right after one that did. -/
  spaced : ticks.IsChain fun earlier later => earlier.modeChanges ≠ [] → later.modeChanges = []
  /-- Every change has a reason in the loads of its poll. -/
  justified : ∀ tick ∈ ticks, ∀ change ∈ tick.modeChanges,
    settings.Justify tick.governor.sample change
  /-- The machine is asked for nothing but changes of mode. -/
  changesOnly : ∀ tick ∈ ticks, ∀ command, .command command ∈ tick.calls →
    ∃ change, command = .changeMode change

/-- Whatever state it starts from, a run that the built-in controller decides is orderly, and a
governor that warms up begins with a poll that changes nothing. -/
theorem orderly_run {platform : Platform World} (tracks : platform.TracksMode) :
    ∀ occasions : List (Occasion World),
      (∀ occasion ∈ occasions, occasion.hint = none ∧ occasion.KeepsMode platform) →
      ∀ (governor : Governor) (world : World), governor.settings.monitor = true →
        governor.selector.multiState = false →
        let ticks := governor.run platform world occasions
        Orderly governor.settings (.nextFrom (platform.inLowPower world)) ticks ∧
          (governor.warmingUp = true → ∀ tick ∈ ticks.head?, tick.modeChanges = []) := by
  -- One poll decides which change is next and whether the governor that follows warms up.
  intro occasions
  induction occasions with
  | nil =>
    intro _ governor world _ _
    exact ⟨⟨trivial, .nil, by simp [run], by simp [run]⟩, by simp [run]⟩
  | cons occasion rest ih =>
    intro plain governor world monitored builtIn
    obtain ⟨unhinted, keeps⟩ := plain occasion (by simp)
    simp only [run, unhinted]
    rw [← keeps world]
    generalize occasion.drift world = met
    have poll := tick_cases tracks monitored builtIn occasion.now met
    generalize governor.tick occasion.now none platform met = tick at poll ⊢
    obtain ⟨sameSettings, sameSelector, modesOnly, outcome⟩ := poll
    obtain ⟨later, warming⟩ := ih (fun other member => plain other (by simp [member]))
      tick.governor tick.world (sameSettings ▸ monitored) (sameSelector ▸ builtIn)
    rw [sameSettings] at later
    rcases outcome with ⟨quiet, _, sameMode⟩ | ⟨change, next, warm, reason, made, again, mode⟩
    · -- This poll adds nothing, and the machine still makes the same change next.
      rw [sameMode] at later
      refine ⟨⟨?_, ?_, ?_, ?_⟩, ?_⟩
      · simpa [quiet] using later.alternates
      · exact List.isChain_cons.mpr ⟨fun _ _ changed => absurd quiet changed, later.spaced⟩
      · exact List.forall_mem_cons.mpr ⟨by simp [quiet], later.justified⟩
      · exact List.forall_mem_cons.mpr ⟨modesOnly, later.changesOnly⟩
      · simpa using fun _ => quiet
    · -- The machine has made this change, so the other one is next, after a poll of warming up.
      rw [mode, ModeChange.nextFrom_made] at later
      subst next
      refine ⟨⟨?_, ?_, ?_, ?_⟩, ?_⟩
      · simpa [made, Alternates] using later.alternates
      · exact List.isChain_cons.mpr ⟨fun _ first _ => warming again _ first, later.spaced⟩
      · exact List.forall_mem_cons.mpr ⟨by simpa [made] using reason, later.justified⟩
      · exact List.forall_mem_cons.mpr ⟨modesOnly, later.changesOnly⟩
      · simp [warm]

/-- Too few usable states leave the decision to the built-in controller. -/
theorem multiState_new_of_few {table : Policy.Table} (counted : table.Counted)
    (few : table.usableCount < Policy.leastUsableStates) (settings : Settings)
    (sampler : Sampler) (probe : Graphics.Probe) :
    (Governor.new settings table sampler probe).selector.multiState = false := by
  -- The verdict is the one that the number of usable states leads to.
  have verdict : table.multiState = false := by
    rw [counted]
    simpa using few
  simp [Governor.new, Policy.Selector.ofTable, Policy.Selector.multiState, verdict]

/-- Without enough usable policy states, a run of polls without hints enters and leaves low-power
mode by turns. The first poll changes nothing, and no poll does right after one that did. Low-power
mode is entered at a known system load within its threshold and left at a known CPU load above its
own, and nothing else is ever asked for. -/
theorem modeChanges_alternate {platform : Platform World} (tracks : platform.TracksMode)
    {settings : Settings} (monitored : settings.monitor = true) {table : Policy.Table}
    (counted : table.Counted) (few : table.usableCount < Policy.leastUsableStates)
    (sampler : Sampler) (probe : Graphics.Probe) {world : World}
    (outside : platform.inLowPower world = false) {occasions : List (Occasion World)}
    (plain : ∀ occasion ∈ occasions, occasion.hint = none ∧ occasion.KeepsMode platform) :
    let ticks := (Governor.new settings table sampler probe).run platform world occasions
    Orderly settings .enter ticks ∧ ∀ tick ∈ ticks.head?, tick.modeChanges = [] := by
  -- Without enough usable states the controller decides about every poll.
  have builtIn := multiState_new_of_few counted few settings sampler probe
  obtain ⟨orderly, warming⟩ := orderly_run tracks occasions plain
    (Governor.new settings table sampler probe) world monitored builtIn
  rw [outside] at orderly
  -- A new governor warms up, and a machine out of low-power mode can only enter it.
  exact ⟨orderly, warming rfl⟩

/-- A moment from which on the statistics table of a simulated machine has the given text. -/
def withStatistics (now : Nat) (table : String) : Occasion Simulated where
  now
  drift world := { world with files := world.files.set ["stat"] (some (.file table.toUTF8)) }

/-- A machine that is idle until low-power mode is entered, and then has a busy CPU. -/
def idleThenBusy : List (Occasion Simulated) :=
  [withStatistics 0 "cpu 0 0 0 0\ncpu0 0 0 0 0",
    withStatistics 1000 "cpu 0 0 0 100\ncpu0 0 0 0 100",
    withStatistics 2000 "cpu 0 0 0 200\ncpu0 0 0 0 200",
    withStatistics 3000 "cpu 100 0 0 200\ncpu0 100 0 0 200"]

/-- On a machine that is idle first and busy later, low-power mode is entered once and left once. -/
theorem modeChanges_idleThenBusy :
    let ticks := (Governor.new {} (.ofSpecs []) (.new ["stat"] 1) (.new ["tile0"])).run
      Simulated.platform { files := .rooted [] } idleThenBusy
    ticks.flatMap Tick.modeChanges = [.enter, .leave] ∧
      Orderly {} .enter ticks ∧ ∀ tick ∈ ticks.head?, tick.modeChanges = [] := by
  refine ⟨by decide +kernel, ?_⟩
  apply modeChanges_alternate Simulated.tracksMode rfl (Policy.Table.counted_ofSpecs [])
    (by decide) _ _ rfl
  intro occasion member
  -- Only the files of the machine change by themselves.
  simp only [idleThenBusy, List.mem_cons, List.not_mem_nil, or_false] at member
  rcases member with rfl | rfl | rfl | rfl <;> exact ⟨rfl, fun _ => rfl⟩

end Governor

end PowerGovernor
