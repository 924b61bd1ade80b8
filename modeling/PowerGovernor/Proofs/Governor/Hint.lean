import PowerGovernor.Proofs.Governor.ActiveCpus
import PowerGovernor.Proofs.Governor.Likeness
import PowerGovernor.Proofs.Policy.Hint
import PowerGovernor.Proofs.Policy.Steadiness

/-! Runs in which every poll has a workload hint: the loads of the CPUs play no part in them. -/

namespace PowerGovernor

open Policy (Spec Table)

variable {World : Type}

/-- The same kind of machine, on which something else stands at one path. -/
def Platform.showing (platform : Platform World) (path : Path) (entry : World → Option Entry) :
    Platform World :=
  { platform with files := fun world => (platform.files world).set path (entry world) }

/-- At every other path the machine looks the same. -/
theorem Platform.showing_looksLike (platform : Platform World) (path : Path)
    (entry : World → Option Entry) :
    platform.LooksLike (platform.showing path entry) (· ≠ path) Eq where
  files := by
    -- One entry was replaced, at a path that is not asked about.
    rintro world _ rfl other apart
    show (platform.files world).get? other =
      ((platform.files world).set path (entry world)).get? other
    rw [FileTree.get?_set, if_neg apart]
  -- Nothing but the files is another.
  currentCpu := by rintro world _ rfl; rfl
  register := by rintro world _ rfl cpu address; rfl
  readRegister := by rintro world _ rfl cpu address; rfl
  inLowPower := by rintro world _ rfl; rfl
  perform := by rintro world _ rfl command; rfl

namespace Governor

/-- A governor that has never measured the CPUs with its sampler, or judged what was measured. -/
structure Unmeasured (sampler : Sampler) (governor : Governor) : Prop where
  sampler : governor.sampler = sampler
  openedGate : governor.openedGate = none
  warmingUp : governor.warmingUp = true
  status : governor.status = .unknown
  system : governor.sample.system = none
  cpu : governor.sample.cpu = none
  -- Without polling on hints, graphics load is not measured either.
  gfx : governor.settings.pollOnHint = false → governor.sample.gfx = none

theorem unmeasured_new (settings : Settings) (table : Table) (sampler : Sampler)
    (probe : Graphics.Probe) : (new settings table sampler probe).Unmeasured sampler :=
  ⟨rfl, rfl, rfl, rfl, rfl, rfl, fun _ => rfl⟩

end Governor

namespace Poll

open Governor

variable {poll : Poll World} {hint : UInt32}

/-- A poll with a hint changes nothing but the policy states, the probe and the load that it finds,
and without polling on hints nothing but the policy states. -/
theorem frame_tick (told : poll.hint = some hint) (platform : Platform World) :
    let next := (poll.tick platform).governor
    next = { poll.governor with
      selector := next.selector
      probe := next.probe
      sample := { poll.governor.sample with gfx := next.sample.gfx, timestamp := poll.now } } ∧
      (poll.governor.settings.pollOnHint = false →
        next.sample.gfx = poll.governor.sample.gfx) := by
  obtain ⟨governor, world, now, _⟩ := poll
  subst told
  simp only [Poll.tick, Governor.tick, tickWithHint]
  -- Graphics load is measured first, or it is left as it was.
  cases polled : governor.settings.pollOnHint with
  | true => exact ⟨rfl, fun off => absurd off Bool.noConfusion⟩
  | false => exact ⟨rfl, fun _ => rfl⟩

theorem unmeasured_tick {sampler : Sampler} (told : poll.hint = some hint)
    (unmeasured : poll.governor.Unmeasured sampler) (platform : Platform World) :
    (poll.tick platform).governor.Unmeasured sampler := by
  -- All of these are in the part of the governor that the poll leaves alone.
  obtain ⟨frame, unpolled⟩ := frame_tick told platform
  exact
    { sampler := (congrArg Governor.sampler frame).trans unmeasured.sampler
      openedGate := (congrArg Governor.openedGate frame).trans unmeasured.openedGate
      warmingUp := (congrArg Governor.warmingUp frame).trans unmeasured.warmingUp
      status := (congrArg Governor.status frame).trans unmeasured.status
      system := (congrArg (fun next => next.sample.system) frame).trans unmeasured.system
      cpu := (congrArg (fun next => next.sample.cpu) frame).trans unmeasured.cpu
      gfx := by
        intro off
        rw [congrArg Governor.settings frame] at off
        exact (unpolled off).trans (unmeasured.gfx off) }

/-- Without polling on hints a poll with a hint takes no call but those that ask for something. -/
theorem calls_tick_of_unpolled (told : poll.hint = some hint)
    (off : poll.governor.settings.pollOnHint = false) (platform : Platform World) :
    (poll.tick platform).calls = (poll.tick platform).commands.map .command := by
  obtain ⟨governor, world, now, _⟩ := poll
  subst told
  -- The calls of the poll are those of the decision, which has only commands.
  have decided : ((⟨governor, world, now, some hint⟩ : Poll World).tick platform).calls =
      (governor.selector.select { governor.sample with timestamp := now } (some hint)).2.calls := by
    simp only [Poll.tick, Governor.tick, tickWithHint]
    rw [if_neg (by simpa using off)]
    rfl
  rw [Tick.commands, decided, Policy.Decision.filterMap_command?_calls]
  rfl

/-- The place of the state that a poll with a hint is to choose. -/
def placeFor (specs : List Spec) (platform : Platform World) (hint : UInt32) (poll : Poll World) :
    Option Nat :=
  (Table.ofSpecs specs).firstFor hint (poll.tick platform).governor.sample.gfx

/-- A poll that goes by its hint and by graphics load alone. -/
structure GoesByHint (specs : List Spec) (sampler : Sampler) (platform : Platform World)
    (hint : UInt32) (poll : Poll World) : Prop where
  unmeasured : (poll.tick platform).governor.Unmeasured sampler
  -- What the poll finds is the first configured state that fits.
  found : poll.governor.selector.find? (poll.tick platform).governor.sample poll.hint =
    poll.placeFor specs platform hint
  -- The state that is found is held after the poll, and without one all stays as it is.
  current : (poll.tick platform).governor.selector.current =
    (poll.placeFor specs platform hint).or poll.governor.selector.current
  interval : (poll.tick platform).interval.isSome =
    (poll.governor.settings.pollOnHint && (poll.placeFor specs platform hint).isSome)
  -- The machine is asked for what a newly entered state wants, and for nothing else.
  silent : poll.placeFor specs platform hint = none ∨
    poll.placeFor specs platform hint = poll.governor.selector.current →
      (poll.tick platform).commands = []
  entered : ∀ index, poll.placeFor specs platform hint = some index →
    poll.governor.selector.current ≠ some index →
      ∃ state, (Table.ofSpecs specs).states[index]? = some state ∧
        (poll.tick platform).commands = state.commands

/-- A poll with a hint goes by it as long as no load of the CPUs is known. -/
theorem goesByHint {specs : List Spec} {sampler : Sampler} {settings : Settings}
    (told : poll.hint = some hint) (unmeasured : poll.governor.Unmeasured sampler)
    (configured : poll.governor.IsConfigured settings specs) (platform : Platform World) :
    poll.GoesByHint specs sampler platform hint := by
  -- The selection is made with the sample that the poll leaves behind.
  have kept := unmeasured_tick told unmeasured platform
  have decides : poll.governor.policyDecides poll.hint = true := by simp [policyDecides, told]
  obtain ⟨next, interval, commands⟩ := tick_of_policyDecides decides platform
  -- Of an unmeasured sample only graphics load is known, which is what the place is chosen by.
  have found : poll.governor.selector.find? (poll.tick platform).governor.sample poll.hint =
      poll.placeFor specs platform hint := by
    rw [told, Policy.Selector.find?_hint kept.system kept.cpu]
    exact Table.firstFor_congr (configured.2.trans (Table.configured_ofSpecs specs).symm) hint _
  have current : (poll.tick platform).governor.selector.current =
      (poll.placeFor specs platform hint).or poll.governor.selector.current := by
    rw [next, Policy.Selector.current_select, found]
  refine ⟨kept, found, current, ?_, ?_, ?_⟩
  · -- A selection recommends an interval exactly if it finds a state.
    rw [interval, ← found, ← Policy.Selector.isSome_interval_select]
    cases polled : poll.governor.settings.pollOnHint <;> simp [recommends, told, polled]
  · rw [commands, ← found]
    rintro (missing | held)
    · rw [Policy.Selector.select_of_none missing]
    · -- What is found is held already.
      exact Policy.Selector.commands_select_of_settled fun index again => held ▸ again
  · intro index chosen fresh
    -- The place was found in the configuration, so a state stands there.
    obtain ⟨inside, -⟩ := List.findIdx?_eq_some_iff_getElem.mp chosen
    rw [chosen, Option.some_or] at current
    exact ⟨_, List.getElem?_eq_getElem inside, poll.commands_tick_of_entered configured.2
      (List.getElem?_eq_getElem inside) platform fresh current⟩

end Poll

namespace Governor

variable {specs : List Spec} {sampler : Sampler} {settings : Settings}
  {occasions : List (Occasion World)}

/-- A governor that has measured no CPU, with the given settings and configured states. -/
def AwaitsHints (settings : Settings) (specs : List Spec) (sampler : Sampler)
    (governor : Governor) : Prop :=
  governor.Unmeasured sampler ∧ governor.IsConfigured settings specs

theorem awaitsHints_new (settings : Settings) (specs : List Spec) (sampler : Sampler)
    (probe : Graphics.Probe) :
    (new settings (.ofSpecs specs) sampler probe).AwaitsHints settings specs sampler :=
  ⟨unmeasured_new settings _ sampler probe, rfl, Table.configured_ofSpecs specs⟩

theorem AwaitsHints.tick {poll : Poll World} {hint : UInt32} (told : poll.hint = some hint)
    (awaits : poll.governor.AwaitsHints settings specs sampler) (platform : Platform World) :
    (poll.tick platform).governor.AwaitsHints settings specs sampler :=
  ⟨poll.unmeasured_tick told awaits.1 platform, (poll.settings_tick platform).trans awaits.2.1,
    (poll.configured_tick platform).trans awaits.2.2⟩

/-- In a run of polls with hints every poll goes by its hint. -/
theorem goesByHint_polls {governor : Governor}
    (awaits : governor.AwaitsHints settings specs sampler) (platform : Platform World)
    (world : World) (hinted : ∀ occasion ∈ occasions, occasion.hint.isSome = true) :
    ∀ poll ∈ governor.polls platform world occasions,
      ∃ hint, poll.hint = some hint ∧ poll.GoesByHint specs sampler platform hint := by
  intro poll member
  -- Waiting for hints is kept by polls with hints, and there are no others.
  obtain ⟨kind, awaits⟩ := @forall_polls_told _ platform (fun hint => hint.isSome = true)
    (AwaitsHints settings specs sampler)
    (fun _ kind awaits => by
      obtain ⟨hint, told⟩ := Option.isSome_iff_exists.mp kind
      exact awaits.tick told platform)
    governor awaits world occasions hinted poll member
  obtain ⟨hint, told⟩ := Option.isSome_iff_exists.mp kind
  exact ⟨hint, told, poll.goesByHint told awaits.1 awaits.2 platform⟩

/-- A governor that holds the state which a hint asks for while no graphics load is known, unless no
state fits. -/
def Settled (specs : List Spec) (hint : UInt32) (governor : Governor) : Prop :=
  (Table.ofSpecs specs).firstFor hint none = none ∨
    (Table.ofSpecs specs).firstFor hint none = governor.selector.current

section Unpolled

variable {poll : Poll World} {hint : UInt32}

/-- Without polling on hints graphics load is never measured, so that the hint alone decides. -/
theorem placeFor_of_unpolled (told : poll.hint = some hint)
    (awaits : poll.governor.AwaitsHints settings specs sampler) (off : settings.pollOnHint = false)
    (platform : Platform World) :
    poll.placeFor specs platform hint = (Table.ofSpecs specs).firstFor hint none := by
  -- The poll leaves no graphics load behind to be looked at.
  obtain ⟨unmeasured, sameSettings, -⟩ := awaits.tick told platform
  rw [Poll.placeFor, unmeasured.gfx (by rw [sameSettings, off])]

theorem settled_tick (told : poll.hint = some hint)
    (awaits : poll.governor.AwaitsHints settings specs sampler) (off : settings.pollOnHint = false)
    (platform : Platform World) : (poll.tick platform).governor.Settled specs hint := by
  have current := (poll.goesByHint told awaits.1 awaits.2 platform).current
  rw [placeFor_of_unpolled told awaits off] at current
  -- A state that fits is held after the poll.
  cases chosen : (Table.ofSpecs specs).firstFor hint none with
  | none => exact Or.inl chosen
  | some index => exact Or.inr (by rw [current, chosen, Option.some_or])

/-- A settled governor asks the machine for nothing. -/
theorem calls_tick_of_settled (told : poll.hint = some hint)
    (awaits : poll.governor.AwaitsHints settings specs sampler) (off : settings.pollOnHint = false)
    (settled : poll.governor.Settled specs hint) (platform : Platform World) :
    (poll.tick platform).calls = [] := by
  -- The place to choose is the one that the governor holds, and it stays silent there.
  have goes := poll.goesByHint told awaits.1 awaits.2 platform
  rw [Settled, ← placeFor_of_unpolled told awaits off platform] at settled
  rw [poll.calls_tick_of_unpolled told (by rw [awaits.2.1, off]) platform, goes.silent settled]
  rfl

/-- Without polling on hints every poll but the first one takes no call if the hint stays the
same. -/
theorem calls_tail_polls {governor : Governor}
    (awaits : governor.AwaitsHints settings specs sampler) (off : settings.pollOnHint = false)
    (platform : Platform World) (world : World)
    (same : ∀ occasion ∈ occasions, occasion.hint = some hint) :
    ∀ poll ∈ (governor.polls platform world occasions).tail, (poll.tick platform).calls = [] := by
  cases occasions with
  | nil => simp [polls]
  | cons occasion rest =>
    obtain ⟨first, others⟩ := List.forall_mem_cons.mp same
    intro poll member
    -- The first poll settles the governor, and every poll leaves a settled one behind.
    obtain ⟨told, awaits, settled⟩ := @forall_polls_told _ platform (fun told => told = some hint)
      (fun governor => governor.AwaitsHints settings specs sampler ∧ governor.Settled specs hint)
      (fun _ told kept => ⟨kept.1.tick told platform, settled_tick told kept.1 off platform⟩) _
      ⟨AwaitsHints.tick first awaits platform, settled_tick first awaits off platform⟩ _ rest others
      poll member
    exact calls_tick_of_settled told awaits off settled platform

end Unpolled

/-- Runs of polls with hints do the same on machines that look alike wherever the probe reads, if
graphics load is measured at all. -/
theorem run_alike_of_hints {Left Right : Type} {left : Platform Left} {right : Platform Right}
    {watched : Path → Prop} {alike : Left → Right → Prop}
    (looks : left.LooksLike right watched alike) {firsts : List (Occasion Left)}
    {seconds : List (Occasion Right)}
    (occasions : List.Forall₂ (Occasion.Alike alike) firsts seconds)
    (hinted : ∀ occasion ∈ firsts, occasion.hint.isSome = true) (governor : Governor)
    {one : Left} {other : Right} (related : alike one other)
    (seen : governor.settings.pollOnHint = true → ∀ path ∈ governor.probe.reads, watched path) :
    List.Forall₂ (Tick.Alike alike) (governor.run left one firsts)
      (governor.run right other seconds) := by
  have step (governor : Governor) (now : Nat) (hint : Option UInt32) (one : Left) (other : Right)
      (given : hint.isSome = true)
      (seen : governor.settings.pollOnHint = true → ∀ path ∈ governor.probe.reads, watched path)
      (related : alike one other) :
      (governor.tick now hint left one).Alike alike (governor.tick now hint right other) ∧
        ((governor.tick now hint left one).governor.settings.pollOnHint = true →
          ∀ path ∈ (governor.tick now hint left one).governor.probe.reads, watched path) := by
    obtain ⟨hint, rfl⟩ := Option.isSome_iff_exists.mp given
    refine ⟨tick_alike_of_hint looks related seen now hint, fun polled path member => ?_⟩
    -- What the probe reads only gets less, and the settings stay.
    have settings := Poll.settings_tick ⟨governor, one, now, some hint⟩ left
    exact seen (settings ▸ polled) path (probe_reads_tick governor now hint left one path member)
  exact run_alike_of_polls step occasions hinted governor related seen

/-- Runs in which every poll has a hint decide by workload and graphics load alone.

No load of the CPUs is ever known, and the sampler, the gate and the verdicts of the built-in
controller stay as they began. Each poll chooses the first configured state that is meant for its
hint and sets no graphics limit below a load that is known; thresholds on other loads, margins and
the state that is held make no difference. Without polling on hints no interval is recommended, and
if the hint stays the same, the machine is asked for something in the first poll at most. Whatever
stands at the path of the statistics table makes no difference to the run, unless graphics load is
measured there. -/
theorem hints_decide_alone (settings : Settings) (specs : List Spec) (sampler : Sampler)
    (probe : Graphics.Probe) (platform : Platform World) (world : World)
    (hinted : ∀ occasion ∈ occasions, occasion.hint.isSome = true) :
    let governor := new settings (.ofSpecs specs) sampler probe
    let polls := governor.polls platform world occasions
    (∀ poll ∈ polls, ∃ hint, poll.hint = some hint ∧
      poll.GoesByHint specs sampler platform hint) ∧
    (settings.pollOnHint = false →
      (∀ poll ∈ polls, (poll.tick platform).interval = none) ∧
      ∀ hint, (∀ occasion ∈ occasions, occasion.hint = some hint) →
        ∀ poll ∈ polls.tail, (poll.tick platform).calls = []) ∧
    ((settings.pollOnHint = true → sampler.path ∉ probe.reads) →
      ∀ entry : World → Option Entry,
        List.Forall₂ (Tick.Alike Eq) (governor.run platform world occasions)
          (governor.run (platform.showing sampler.path entry) world occasions)) := by
  intro governor polls
  have awaits : governor.AwaitsHints settings specs sampler :=
    awaitsHints_new settings specs sampler probe
  have goes := goesByHint_polls awaits platform world hinted
  refine ⟨goes, fun off => ⟨?_, ?_⟩, ?_⟩
  · intro poll member
    -- An interval is recommended only if graphics load is polled.
    obtain ⟨hint, -, goes⟩ := goes poll member
    have same : poll.governor.settings = settings :=
      (isConfigured_polls settings specs sampler probe platform world occasions poll member).1
    simpa [same, off] using goes.interval
  · exact fun hint same => calls_tail_polls awaits off platform world same
  · intro apart entry
    -- The machine that shows another table looks the same wherever the probe reads.
    refine run_alike_of_hints (platform.showing_looksLike sampler.path entry)
      (List.forall₂_same.mpr fun occasion _ => ⟨rfl, rfl, fun same => congrArg _ same⟩) hinted
      governor rfl ?_
    intro polled path member same
    exact apart polled (same ▸ member)

/-- A state for a workload with low limits on every load, between two without limits. -/
def strictVideo : List Spec :=
  [{ name := "build", workload := some 2 },
    { name := "video", workload := some 1, systemPercent := 1, cpuPercent := 1, gfxPercent := 1,
      epp := some 64 },
    { name := "any" }]

/-- The limits do not keep the state from being entered once and held, whatever the statistics table
says. -/
theorem hints_decide_alone_video :
    let governor := new {} (.ofSpecs strictVideo) (.new ["stat"] 1) (.new ["tile0"])
    let occasions : List (Occasion Simulated) :=
      List.replicate 3 { now := 0, drift := id, hint := some 1 }
    let machine : Simulated := { files := .rooted [] }
    (∀ occasion ∈ occasions, occasion.hint.isSome = true) ∧
      (governor.run Simulated.platform machine occasions).map Tick.commands =
        [[.setEpp 64, .setActiveCpus none .ignore, .changeMode .enter], [], []] ∧
      (∀ poll ∈ (governor.polls Simulated.platform machine occasions).tail,
        (poll.tick Simulated.platform).calls = []) ∧
      List.Forall₂ (Tick.Alike Eq) (governor.run Simulated.platform machine occasions)
        (governor.run (Simulated.platform.showing ["stat"] fun _ =>
          some (.file "cpu 90 0 0 10".toUTF8)) machine occasions) := by
  intro governor occasions machine
  -- All three hints are the same one.
  have same : ∀ occasion ∈ occasions, occasion.hint = some 1 := by
    intro occasion member
    rw [List.eq_of_mem_replicate member]
  have hinted : ∀ occasion ∈ occasions, occasion.hint.isSome = true :=
    fun occasion member => by rw [same occasion member]; rfl
  obtain ⟨-, unpolled, blind⟩ := hints_decide_alone {} strictVideo (.new ["stat"] 1)
    (.new ["tile0"]) Simulated.platform machine hinted
  exact ⟨hinted, by decide +kernel, (unpolled rfl).2 1 same,
    blind (fun polled => nomatch polled) _⟩

end Governor

end PowerGovernor
