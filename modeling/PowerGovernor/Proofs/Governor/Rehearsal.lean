import PowerGovernor.Proofs.Governor.Likeness
import PowerGovernor.Proofs.Platform.DryRun

/-! A dry run decides what the real run decides, and changes no file. -/

namespace PowerGovernor

namespace Host

/-- What a poll meets on a machine that is controlled through its files. -/
structure Visit where
  /-- Milliseconds on the controller's clock. -/
  now : Nat
  /-- The workload type, when it is known. -/
  hint : Option UInt32 := none
  /-- What was changed in the files from outside since the poll before. -/
  changes : FileTree.Patch := fun _ => none
  /-- The CPU that the controller runs on. -/
  cpu : Nat := 0

/-- The occasion of a visit, on whichever machine. -/
def Visit.occasion (visit : Visit) : Occasion Host where
  now := visit.now
  drift host := { host with files := host.files.patch visit.changes, cpu := visit.cpu }
  hint := visit.hint

/-- Two machines that remember the same of what they were asked for. -/
structure SameRecord (one other : Host) : Prop where
  /-- The same mode was asked for last. -/
  lowPower : one.lowPower = other.lowPower
  /-- The same CPUs were asked to stay active last. -/
  activeCpus : one.activeCpus = other.activeCpus
  /-- The same interrupt policy was asked for last. -/
  irq : one.irq = other.irq

variable {paths : HostPaths} {online : CpuSet} {dry real : Host}

/-- In a rehearsal both machines remember the same. -/
theorem Rehearses.sameRecord (rehearses : Rehearses paths online dry real) :
    dry.SameRecord real := by
  -- The machines differ in their files and in whether they write, and in nothing else.
  obtain ⟨files, writes, rfl⟩ := rehearses.same
  exact ⟨rfl, rfl, rfl⟩

/-- What happens to both machines from outside keeps a rehearsal going. -/
theorem Rehearses.drift (rehearses : Rehearses paths online dry real) (visit : Visit) :
    Rehearses paths online (visit.occasion.drift dry) (visit.occasion.drift real) := by
  -- The same changes meet agreeing files, and change them to agreeing ones.
  obtain ⟨dryRun, located, listed, ⟨files, writes, rfl⟩, agree⟩ := rehearses
  exact ⟨dryRun, located, listed, ⟨files.patch visit.changes, writes, rfl⟩,
    fun path unwritten => (agree path unwritten).patch visit.changes⟩

/-- Two machines that are taken control of with the same files begin a rehearsal, if one of them is
only reported on. -/
theorem rehearses_take {files : FileTree} (rehearsed : take paths files true = .ok dry)
    (performed : take paths files false = .ok real) :
    Rehearses paths dry.online dry real ∧ dry.files = files := by
  -- What the files list is all that taking control depends on.
  unfold take at rehearsed performed
  cases listed : paths.readOnline files with
  | error error => simp [listed] at rehearsed
  | ok online =>
    simp only [listed, Except.ok.injEq] at rehearsed performed
    subst rehearsed performed
    exact ⟨⟨rfl, rfl, rfl, ⟨files, false, rfl⟩, fun _ _ => rfl⟩, rfl⟩

end Host

/-- Polls that leave machines alike leave them alike in any weaker sense as well. -/
theorem Tick.Alike.imp {Left Right : Type} {alike wider : Left → Right → Prop}
    (weaker : ∀ one other, alike one other → wider one other) {first : Tick Left}
    {second : Tick Right} (same : first.Alike alike second) : first.Alike wider second :=
  ⟨same.governor, same.interval, same.calls, weaker _ _ same.world⟩

namespace Governor

open Host (Visit)

/-- A poll of a machine in a dry run leaves its files alone. -/
theorem files_tick {host : Host} (dry : host.dryRun = true) (governor : Governor) (now : Nat)
    (hint : Option UInt32) :
    (governor.tick now hint Host.platform host).world.dryRun = true ∧
      (governor.tick now hint Host.platform host).world.files = host.files := by
  -- The machine is alike to itself as long as its files are untouched.
  have poll : (governor.tick now hint Host.platform host).Alike (Host.Untouched host.files)
      (governor.tick now hint Host.platform host) :=
    tick_alike (Host.untouched_looksLike host.files) ⟨rfl, dry, rfl⟩ (fun _ _ => trivial) now hint
  exact poll.world.2

/-- In a dry run the files before the run and after each poll are what the changes from outside have
made of them. -/
theorem files_run (visits : List Visit) :
    ∀ (governor : Governor) {host : Host}, host.dryRun = true →
      host.files :: (governor.run Host.platform host (visits.map Visit.occasion)).map
          (fun tick => tick.world.files) =
        visits.scanl (fun files visit => files.patch visit.changes) host.files := by
  -- A dry run stays one after each poll, and that is all the rest of the run needs.
  induction visits with
  | nil => intro governor host _; rfl
  | cons visit rest ih =>
    intro governor host dry
    have changed : (visit.occasion.drift host).dryRun = true := dry
    obtain ⟨still, kept⟩ := files_tick changed governor visit.now visit.hint
    have later := ih (governor.tick visit.now visit.hint Host.platform
      (visit.occasion.drift host)).governor still
    -- The poll leaves what the visit found, and the rest of the run starts from there.
    have found : (visit.occasion.drift host).files = host.files.patch visit.changes := rfl
    rw [List.scanl_cons, ← found, ← kept, ← later]
    rfl

/-- A dry run rehearses the real run faithfully and changes no file.

However long both runs last and whatever fails on the real machine, after each poll the governors
are the same, the same interval was recommended, the same calls were made and both machines remember
the same, if commands write to no file that the governor or a register is read from. The files of
the dry run are those that the changes from outside have made. -/
theorem dryRun_rehearses {paths : HostPaths} {files : FileTree} {dry real : Host}
    (rehearsed : Host.take paths files true = .ok dry)
    (performed : Host.take paths files false = .ok real) (governor : Governor)
    (separate : ∀ path, paths.Writes dry.online path →
      path ∉ governor.reads ∧ ∀ cpu, path ≠ paths.registersOf cpu)
    (visits : List Visit) :
    List.Forall₂ (Tick.Alike Host.SameRecord)
        (governor.run Host.platform dry (visits.map Visit.occasion))
        (governor.run Host.platform real (visits.map Visit.occasion)) ∧
      files :: (governor.run Host.platform dry (visits.map Visit.occasion)).map
          (fun tick => tick.world.files) =
        visits.scanl (fun files visit => files.patch visit.changes) files := by
  -- The relation that a run keeps is the rehearsal, and both claims are read off it.
  obtain ⟨started, rfl⟩ := Host.rehearses_take rehearsed performed
  -- What the governor reads, no command writes.
  have unwritten : ∀ path ∈ governor.reads, ¬ paths.Writes dry.online path :=
    fun path member written => (separate path written).1 member
  have looks : Host.platform.LooksLike Host.platform
      (fun path => ¬ paths.Writes dry.online path) (Host.Rehearses paths dry.online) :=
    Host.rehearses_looksLike fun cpu written => (separate _ written).2 cpu rfl
  -- What happens from outside happens to both machines.
  have occasions : List.Forall₂ (Occasion.Alike (Host.Rehearses paths dry.online))
      (visits.map Visit.occasion) (visits.map Visit.occasion) := by
    refine List.forall₂_same.mpr fun occasion member => ?_
    obtain ⟨visit, -, rfl⟩ := List.mem_map.mp member
    exact ⟨rfl, rfl, fun rehearses => rehearses.drift visit⟩
  have alike := run_alike looks occasions governor started unwritten
  refine ⟨alike.imp fun _ _ same => same.imp fun _ _ rehearses => rehearses.sameRecord, ?_⟩
  exact governor.files_run visits started.dryRun

/-- Where the files of a small machine are found. -/
def smallPaths : HostPaths where
  cpus := ["cpu"]
  itmt := ["itmt"]
  registers := ["msr"]

/-- A machine with two CPUs, of which only the first one has settings. -/
def smallMachine : FileTree :=
  ((FileTree.rooted []).place [] ["cpu", "online"] (.file "0-1".toUTF8)).place []
    ["cpu", "cpu0", "cpufreq"] .directory

/-- Two policy states by system load, which ask for different preferences. -/
def twoPreferences : Policy.Table :=
  .ofSpecs [{ name := "idle", systemPercent := 20, epp := some 192 },
    { name := "busy", systemPercent := 100, epp := some 64 }]

/-- A visit from which on the statistics table has the given text. -/
def visitWithStatistics (now : Nat) (table : String) : Visit where
  now
  changes path := if path = ["stat"] then some (some (.file table.toUTF8)) else none

/-- A machine that turns from idle to busy. -/
def idleThenBusyVisits : List Visit :=
  [visitWithStatistics 0 "cpu 0 0 0 0", visitWithStatistics 1000 "cpu 90 0 0 10"]

/-- The preference of the second CPU cannot be written, but that of the first one is, and in the dry
run it is not. -/
theorem dryRun_rehearses_idleThenBusy :
    ∃ dry real, Host.take smallPaths smallMachine true = .ok dry ∧
      Host.take smallPaths smallMachine false = .ok real ∧
      let governor := Governor.new {} twoPreferences (.new ["stat"] 2) (.new ["tile0"])
      let occasions := idleThenBusyVisits.map Visit.occasion
      (Host.perform (.setEpp 192) real).1.fault.isSome = true ∧
      (governor.run Host.platform real occasions).map
          (fun tick => (tick.world.files.readText (smallPaths.epp 0)).toOption) =
        [some "192", some "64"] ∧
      (governor.run Host.platform dry occasions).map
          (fun tick => (tick.world.files.readText (smallPaths.epp 0)).toOption) =
        [none, none] ∧
      List.Forall₂ (Tick.Alike Host.SameRecord) (governor.run Host.platform dry occasions)
        (governor.run Host.platform real occasions) ∧
      smallMachine :: (governor.run Host.platform dry occasions).map
          (fun tick => tick.world.files) =
        idleThenBusyVisits.scanl (fun files visit => files.patch visit.changes) smallMachine := by
  -- Both machines are taken control of with the same list of CPUs.
  have listed : smallPaths.readOnline smallMachine = .ok (.interval 0 1) := by decide +kernel
  have taken : ∀ dryRun, Host.take smallPaths smallMachine dryRun =
      .ok { paths := smallPaths, files := smallMachine, online := .interval 0 1, dryRun,
            cpu := 0, lowPower := false, activeCpus := none, irq := .ignore } := by
    intro dryRun
    simp only [Host.take, listed]
  refine ⟨_, _, taken true, taken false, by decide +kernel, by decide +kernel,
    by decide +kernel, ?_⟩
  apply dryRun_rehearses (taken true) (taken false)
  intro path written
  -- Everything that is read stands in another directory than what is written.
  have directory : path.head? = some "itmt" ∨ path.head? = some "cpu" := by
    rcases written with rfl | ⟨cpu, -, rfl | rfl⟩
    · exact Or.inl rfl
    · exact Or.inr rfl
    · exact Or.inr rfl
  refine ⟨fun member => ?_, fun cpu same => ?_⟩
  · have elsewhere : ∀ file ∈ (Governor.new {} twoPreferences (.new ["stat"] 2)
        (.new ["tile0"])).reads, file.head? ≠ some "itmt" ∧ file.head? ≠ some "cpu" := by
      decide +kernel
    exact directory.elim (elsewhere path member).1 (elsewhere path member).2
  · -- Registers stand in a third directory.
    rw [same] at directory
    simp [HostPaths.registersOf, smallPaths] at directory

end Governor

end PowerGovernor
