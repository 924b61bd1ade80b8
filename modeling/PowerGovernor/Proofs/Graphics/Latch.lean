import Mathlib.Data.List.Forall2
import PowerGovernor.Proofs.Graphics.Recorded
import PowerGovernor.Proofs.Graphics.Dependence
import PowerGovernor.Proofs.Platform.Logged
import PowerGovernor.Proofs.Platform.Moments

/-! The first measurement of graphics load decides on the source of all measurements after it. -/

namespace PowerGovernor

variable {World Other : Type}

/-- What happens to the machines at two moments keeps them alike, whatever the clocks show. -/
def Moment.Alike (alike : World → Other → Prop) (first : Moment World) (second : Moment Other) :
    Prop :=
  ∀ {one other}, alike one other → alike (first.drift one) (second.drift other)

/-- Simulated machines on one CPU with one script have the same registers. -/
theorem Simulated.sameRegisters :
    platform.SameRegisters platform
      fun one other => one.cpu = other.cpu ∧ one.script = other.script := by
  -- A reading takes the next outcome from the script, and leaves the rest of it.
  have reading : ∀ {one other : Simulated}, one.script = other.script → ∀ cpu address,
      (readRegister cpu address one).1 = (readRegister cpu address other).1 ∧
        (readRegister cpu address one).2.script =
          (readRegister cpu address other).2.script ∧
        (readRegister cpu address one).2.cpu = one.cpu := by
    intro one other same cpu address
    simp only [readRegister, ← same]
    cases ahead : one.script with
    | nil => exact ⟨rfl, by rw [ahead, ← same, ahead], rfl⟩
    | cons outcome rest => cases outcome <;> exact ⟨rfl, rfl, rfl⟩
  -- Of both machines the relation mentions the script and the CPU only.
  exact
    { currentCpu := fun related => related.1
      register := fun related cpu address =>
        congrArg Except.toOption (reading related.2 cpu address).1
      readRegister := by
        intro one other related cpu address
        obtain ⟨-, scripts, stays⟩ := reading related.2 cpu address
        obtain ⟨-, -, remains⟩ := reading related.2.symm cpu address
        exact ⟨stays.trans (related.1.trans remains.symm), scripts⟩ }

namespace Graphics

/-- The residency counters at the given paths are the source of a probe. -/
def Probe.Counts (paths : EnginePaths) (probe : Probe) : Prop :=
  ∃ tier, probe.source = .residency tier ∧
    tier.render.path = paths.render ∧ tier.media.path = paths.media

/-- The registers are the source of a probe. -/
def Probe.OnRegisters (probe : Probe) : Prop :=
  ∃ baseline, probe.source = .registers baseline

/-- One measurement of a run: the probe and the machine that it met, and when. -/
structure Survey (World : Type) where
  probe : Probe
  world : World
  now : Nat

/-- What comes of a measurement. -/
def Survey.measurement (platform : Platform World) (survey : Survey World) : Measurement World :=
  survey.probe.sample survey.now platform survey.world

/-- The calls of a measurement by registers: the time stamp counter of the CPU that the controller
runs on, and only after that could be read the residency of the same CPU. -/
def registerCalls (platform : Platform World) (world : World) : List Call :=
  let cpu := platform.currentCpu world
  .readRegister cpu timeStampRegister ::
    if (platform.readRegister cpu timeStampRegister world).1.toOption.isSome then
      [.readRegister cpu activeResidencyRegister]
    else []

/-- A measurement by the counters at the given paths, which neither calls nor changes the machine
that it met. -/
structure Survey.ByCounters (platform : Platform World) (paths : EnginePaths)
    (survey : Survey World) : Prop where
  source : (survey.measurement platform).probe.Counts paths
  calls : (survey.measurement platform).calls = []
  world : (survey.measurement platform).world = survey.world
  /-- A log of the machine shows that it was not called. -/
  logged : ∀ log, survey.probe.sample survey.now platform.logged ⟨survey.world, log⟩ =
    (survey.measurement platform).logged log

/-- A measurement by registers, after which the residency counters are ruled out. -/
structure Survey.ByRegisters (platform : Platform World) (survey : Survey World) : Prop where
  residencyPossible : (survey.measurement platform).probe.residencyPossible = false
  calls : (survey.measurement platform).calls = registerCalls platform survey.world
  /-- A log of the machine shows the same calls. -/
  logged : ∀ log, survey.probe.sample survey.now platform.logged ⟨survey.world, log⟩ =
    (survey.measurement platform).logged log

namespace Probe

/-- The measurements of a run, each with the probe and the machine that the one before left. -/
def surveys (platform : Platform World) :
    Probe → World → List (Moment World) → List (Survey World)
  | _, _, [] => []
  | probe, world, moment :: rest =>
    let survey : Survey World := { probe, world := moment.drift world, now := moment.now }
    survey ::
      surveys platform (survey.measurement platform).probe (survey.measurement platform).world rest

/-- What holds of the first probe and is kept by every measurement holds of every probe met. -/
theorem forall_surveys (platform : Platform World) {kept : Probe → Prop}
    (step : ∀ survey : Survey World, kept survey.probe → kept (survey.measurement platform).probe)
    {probe : Probe} (holds : kept probe) (world : World) (moments : List (Moment World)) :
    ∀ survey ∈ probe.surveys platform world moments, kept survey.probe := by
  -- Each measurement hands its probe on to the next one.
  induction moments generalizing probe world with
  | nil => simp [surveys]
  | cons moment rest ih =>
    simp only [surveys]
    exact List.forall_mem_cons.mpr ⟨holds, ih (step _ holds) _⟩

theorem calls_sampleRegisters (probe : Probe) (baseline : Option RegisterPair)
    (platform : Platform World) (world : World) :
    (probe.sampleRegisters baseline platform world).calls = registerCalls platform world := by
  -- Both readings are listed as they are tried.
  have calls : (readRegisters platform (platform.currentCpu world) world).calls =
      registerCalls platform world := by
    unfold readRegisters registerCalls
    cases stamped : platform.readRegister (platform.currentCpu world) timeStampRegister world with
    | mk stamp after =>
      cases stamp with
      -- Without a time stamp the residency is not asked for.
      | error fault => simp [stamped, Except.toOption]
      | ok timeStamp =>
        simp only [stamped, Except.toOption]
        split <;> rfl
  -- What becomes of the reading does not change which calls it took.
  simp only [sampleRegisters]
  split <;> exact calls

theorem onRegisters_sampleRegisters (probe : Probe) (baseline : Option RegisterPair)
    (platform : Platform World) (world : World) :
    (probe.sampleRegisters baseline platform world).probe.OnRegisters := by
  simp only [sampleRegisters]
  -- A reading that fails leaves the old baseline, and one that succeeds is the new one.
  split
  · exact ⟨baseline, rfl⟩
  · exact ⟨some _, rfl⟩

/-- A first measurement that finds counters starts from them, and leaves the machine alone. -/
theorem sample_of_discovered {root : Path} {platform : Platform World} {world : World}
    {paths : EnginePaths} (found : (discover root (platform.files world)).1 = some paths)
    (now : Nat) :
    (Probe.new root).sample now platform world =
      ⟨⟨root, .residency (.start paths (platform.files world) now)⟩, none, world, [],
        (discover root (platform.files world)).2⟩ := by
  -- What is noted about the counters makes no difference to the tier.
  have started : discover root (platform.files world) =
      (some paths, (discover root (platform.files world)).2) := Prod.ext found rfl
  simp only [sample, new]
  rw [started]

/-- A first measurement that finds no counters is one by registers without a baseline. -/
theorem sample_undiscovered {root : Path} {platform : Platform World} {world : World}
    (unfound : (discover root (platform.files world)).1 = none) (now : Nat) :
    ∃ notes, (Probe.new root).sample now platform world =
      { (Probe.new root).sampleRegisters none platform world with notes } := by
  simp only [sample, new]
  -- Looking for counters leaves nothing behind but notes.
  cases decided : discover root (platform.files world) with
  | mk paths notes =>
    rw [decided] at unfound
    cases unfound
    exact ⟨_, rfl⟩

theorem OnRegisters.residencyPossible {probe : Probe} (latched : probe.OnRegisters) :
    probe.residencyPossible = false := by
  -- Only an undecided source or a tier leaves counters possible.
  obtain ⟨baseline, source⟩ := latched
  simp [Probe.residencyPossible, source]

end Probe

namespace Survey

open Probe

variable {platform : Platform World} {survey : Survey World} {paths : EnginePaths}

theorem logged_measurement (platform : Platform World) (survey : Survey World) (log : List Call) :
    survey.probe.sample survey.now platform.logged ⟨survey.world, log⟩ =
      (survey.measurement platform).logged log :=
  sample_logged survey.probe platform ⟨survey.world, log⟩ survey.now

/-- Counters once found stay the source, even if none of them can be read any more. -/
theorem byCounters_of_counts (latched : survey.probe.Counts paths) :
    survey.ByCounters platform paths := by
  obtain ⟨⟨root, source⟩, world, now⟩ := survey
  obtain ⟨tier, rfl, render, media⟩ := latched
  -- A measurement moves the baselines of both counters, not their places.
  obtain ⟨sameRender, sameMedia⟩ := tier.paths_sample (platform.files world) now
  exact
    { source := ⟨_, rfl, sameRender.trans render, sameMedia.trans media⟩
      calls := rfl
      world := rfl
      logged := logged_measurement platform _ }

/-- Registers once fallen back on stay the source, even if the counters appear. -/
theorem byRegisters_of_onRegisters (latched : survey.probe.OnRegisters) :
    survey.ByRegisters platform ∧ (survey.measurement platform).probe.OnRegisters := by
  obtain ⟨⟨root, source⟩, world, now⟩ := survey
  obtain ⟨baseline, rfl⟩ := latched
  -- The files are not looked at any more.
  have stays := onRegisters_sampleRegisters ⟨root, .registers baseline⟩ baseline platform world
  exact
    ⟨{ residencyPossible := stays.residencyPossible
       calls := calls_sampleRegisters _ _ platform world
       logged := logged_measurement platform _ }, stays⟩

/-- A first measurement that finds counters makes them the source. -/
theorem byCounters_of_discovered {root : Path} {world : World}
    (found : (discover root (platform.files world)).1 = some paths) (now : Nat) :
    (⟨.new root, world, now⟩ : Survey World).ByCounters platform paths ∧
      ((Probe.new root).sample now platform world).load = none := by
  -- The whole measurement is known, and each claim reads one part of it.
  have decided := sample_of_discovered found now
  refine ⟨?_, congrArg Measurement.load decided⟩
  exact
    { source := ⟨_, congrArg (fun measurement => measurement.probe.source) decided, rfl, rfl⟩
      calls := congrArg Measurement.calls decided
      world := congrArg Measurement.world decided
      logged := logged_measurement platform _ }

/-- A first measurement that finds no counters falls back on the registers. -/
theorem byRegisters_of_undiscovered {root : Path} {world : World}
    (unfound : (discover root (platform.files world)).1 = none) (now : Nat) :
    (⟨.new root, world, now⟩ : Survey World).ByRegisters platform ∧
      ((Probe.new root).sample now platform world).probe.OnRegisters ∧
      ((Probe.new root).sample now platform world).load = none := by
  -- Apart from its notes the measurement is one by registers.
  obtain ⟨notes, same⟩ := sample_undiscovered unfound now
  have latched : ((Probe.new root).sample now platform world).probe.OnRegisters := by
    rw [same]
    exact onRegisters_sampleRegisters _ none platform world
  refine ⟨?_, latched, ?_⟩
  · exact
      { residencyPossible := latched.residencyPossible
        calls := by
          show ((Probe.new root).sample now platform world).calls = _
          rw [same]
          exact calls_sampleRegisters _ none platform world
        logged := logged_measurement platform _ }
  · -- Without a baseline there is no load, whether the registers can be read or not.
    rw [same]
    simp only [sampleRegisters]
    split <;> rfl

end Survey

namespace Probe

section TwoRuns

variable {left : Platform World} {right : Platform Other} {alike : World → Other → Prop}
  {one : World} {other : Other}

/-- First measurements that find no counters are alike if the registers are, whatever else the
files hold. -/
theorem sample_alike_of_undiscovered (equal : left.SameRegisters right alike)
    (related : alike one other) {root : Path}
    (unfound : (discover root (left.files one)).1 = none)
    (missing : (discover root (right.files other)).1 = none) (now later : Nat) :
    ((new root).sample now left one).Alike alike ((new root).sample later right other) := by
  obtain ⟨notes, first⟩ := sample_undiscovered unfound now
  obtain ⟨texts, second⟩ := sample_undiscovered missing later
  -- Apart from the notes, both are measurements by registers.
  have registers := sampleRegisters_alike equal related (new root) none
  rw [first, second]
  exact ⟨registers.probe, registers.load, registers.calls, registers.world⟩

/-- Runs of measurements by registers are alike if the registers are, whatever the files hold and
whenever the measurements are made. -/
theorem surveys_alike_of_onRegisters (equal : left.SameRegisters right alike) :
    ∀ {firsts : List (Moment World)} {seconds : List (Moment Other)},
      List.Forall₂ (Moment.Alike alike) firsts seconds →
      ∀ {probe : Probe} {one : World} {other : Other}, probe.OnRegisters → alike one other →
        List.Forall₂
          (fun survey twin => (survey.measurement left).Alike alike (twin.measurement right))
          (probe.surveys left one firsts) (probe.surveys right other seconds) := by
  -- Each measurement leaves one probe and two machines that are alike to the ones after it.
  intro firsts seconds moments
  induction moments with
  | nil => intro probe one other _ _; exact .nil
  | cons drifts rest ih =>
    intro probe one other latched related
    rename_i first second _ _
    obtain ⟨root, source⟩ := probe
    obtain ⟨baseline, rfl⟩ := latched
    have measured := sampleRegisters_alike equal (drifts related) ⟨root, .registers baseline⟩
      baseline
    refine .cons measured ?_
    show List.Forall₂ _ (surveys left (sampleRegisters _ baseline left _).probe _ _)
      (surveys right (sampleRegisters _ baseline right _).probe _ _)
    rw [← measured.probe]
    exact ih (onRegisters_sampleRegisters _ baseline left _) measured.world

end TwoRuns

/-- The first measurement finds no load and decides on the source of all that follow, whatever
happens to the files and the registers in between.

If counters are found, no measurement ever calls the machine. Otherwise every measurement reads the
registers of the current CPU, the residency only after the time stamp, and a run on any machine
with the same registers on which no counters are found at first either goes the same way. -/
theorem surveys_latched (root : Path) (platform : Platform World) (world : World)
    (first : Moment World) (rest : List (Moment World)) :
    let surveys := (new root).surveys platform world (first :: rest)
    let discovered := (discover root (platform.files (first.drift world))).1
    surveys.head?.map (fun survey => (survey.measurement platform).load) = some none ∧
      (∀ paths, discovered = some paths →
        ∀ survey ∈ surveys, survey.ByCounters platform paths) ∧
      (discovered = none →
        (∀ survey ∈ surveys, survey.ByRegisters platform) ∧
        ∀ {Other : Type} (elsewhere : Platform Other) (alike : World → Other → Prop)
          (other : Other) (start : Moment Other) (others : List (Moment Other)),
          platform.SameRegisters elsewhere alike → alike world other →
          List.Forall₂ (Moment.Alike alike) (first :: rest) (start :: others) →
          (discover root (elsewhere.files (start.drift other))).1 = none →
          List.Forall₂
            (fun survey twin =>
              (survey.measurement platform).Alike alike (twin.measurement elsewhere))
            surveys ((new root).surveys elsewhere other (start :: others))) := by
  intro surveys discovered
  refine ⟨?_, ?_, ?_⟩
  · -- Neither source has a baseline before the first measurement.
    show some ((new root).sample first.now platform (first.drift world)).load = some none
    cases decided : discovered with
    | some paths => rw [(Survey.byCounters_of_discovered decided first.now).2]
    | none => rw [(Survey.byRegisters_of_undiscovered decided first.now).2.2]
  · -- The first measurement settles the counters, and the others keep what it settled.
    intro paths found
    have started := (Survey.byCounters_of_discovered found first.now).1
    refine List.forall_mem_cons.mpr ⟨started, ?_⟩
    -- Every later probe still has the counters that the first measurement found.
    intro survey member
    refine Survey.byCounters_of_counts ?_
    exact forall_surveys platform
      (fun _ latched => (Survey.byCounters_of_counts latched).source) started.source _ rest
      survey member
  · -- The first measurement rules the counters out, for this run and for any other one like it.
    intro unfound
    obtain ⟨started, latched, -⟩ :=
      Survey.byRegisters_of_undiscovered unfound first.now
    refine ⟨List.forall_mem_cons.mpr ⟨started, ?_⟩, ?_⟩
    · intro survey member
      refine (Survey.byRegisters_of_onRegisters ?_).1
      exact forall_surveys platform
        (fun _ latched => (Survey.byRegisters_of_onRegisters latched).2) latched _ rest
        survey member
    · intro Other elsewhere alike other start others equal related moments missing
      obtain ⟨drifts, later⟩ := List.forall₂_cons.mp moments
      have measured := sample_alike_of_undiscovered equal (drifts related) unfound missing
        first.now start.now
      refine .cons measured ?_
      -- Both runs go on with one probe, which has fallen back on the registers.
      show List.Forall₂ _ (Probe.surveys platform ((new root).sample _ platform _).probe _ _)
        (Probe.surveys elsewhere ((new root).sample _ elsewhere _).probe _ _)
      rw [← measured.probe]
      exact surveys_alike_of_onRegisters equal later latched measured.world

/-- A tile whose counter disappears is measured by its counter, and a machine on which the tile
appears after the first measurement by its registers, as if it had not appeared. -/
theorem surveys_latched_tile :
    let start : Moment Simulated := ⟨0, id⟩
    let disappears : Moment Simulated := ⟨1000, fun _ => tile none⟩
    let appears : Moment Simulated :=
      ⟨1000, fun world => { world with files := tileFiles (some "0") }⟩
    let bare : Simulated :=
      { files := fun _ => none, script := [some 10, some 3, some 20, some 8] }
    (∀ survey ∈ (new ["tile0"]).surveys Simulated.platform (tile (some "0")) [start, disappears],
        survey.ByCounters Simulated.platform tilePaths) ∧
      (∀ survey ∈ (new ["tile0"]).surveys Simulated.platform bare [start, appears],
        survey.ByRegisters Simulated.platform) ∧
      List.Forall₂
        (fun survey twin => (survey.measurement Simulated.platform).Alike
          (fun one other => one.cpu = other.cpu ∧ one.script = other.script)
          (twin.measurement Simulated.platform))
        ((new ["tile0"]).surveys Simulated.platform bare [start, appears])
        ((new ["tile0"]).surveys Simulated.platform bare [start, start]) := by
  intro start disappears appears bare
  -- The bare machine shows no counters at first.
  have unfound : (discover ["tile0"] bare.files).1 = none := by decide +kernel
  obtain ⟨-, found, -⟩ :=
    surveys_latched ["tile0"] Simulated.platform (tile (some "0")) start [disappears]
  obtain ⟨-, -, fallen⟩ := surveys_latched ["tile0"] Simulated.platform bare start [appears]
  obtain ⟨registers, same⟩ := fallen unfound
  refine ⟨found tilePaths (by decide +kernel), registers, ?_⟩
  exact same Simulated.platform _ bare start [start] Simulated.sameRegisters ⟨rfl, rfl⟩
    (.cons (fun related => related) (.cons (fun related => related) .nil)) unfound

end Probe

end Graphics

end PowerGovernor
