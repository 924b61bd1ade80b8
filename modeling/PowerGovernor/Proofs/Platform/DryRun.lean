import PowerGovernor.Platform.Host
import PowerGovernor.Proofs.Platform.Likeness

/-! What a command writes to the files of a machine, and that a dry run looks like a real one. -/

namespace PowerGovernor

/-- The files that commands write to: the switch of turbo core scheduling, and both settings of
every CPU that is online. -/
def HostPaths.Writes (paths : HostPaths) (online : CpuSet) (path : Path) : Prop :=
  path = paths.itmt ∨ ∃ cpu ∈ online, path = paths.epp cpu ∨ path = paths.epb cpu

namespace Host

/-- What a machine remembers of a command, apart from its files. -/
def remember (host : Host) : Command → Host
  | .setActiveCpus cpus irq => { host with activeCpus := cpus, irq }
  | .changeMode change => { host with lowPower := change == .enter }
  | .setEpp _ | .setEpb _ | .setItmt _ => host

/-- A write changes nothing but one file, and in a dry run not even that. -/
theorem write_frame (host : Host) (path : Path) (value : String) :
    ∃ files, (host.write path value).2 = { host with files } ∧
      (∀ other, other ≠ path → host.files.AgreeAt files other) ∧
      (host.dryRun = true → files = host.files) := by
  -- A dry run only reports the write, and a real one makes it or fails.
  by_cases dry : host.dryRun = true
  · have unchanged : (host.write path value).2 = host := by simp [write, dry]
    exact ⟨host.files, unchanged, fun _ _ => rfl, fun _ => rfl⟩
  · cases done : host.files.writeText path value with
    | error fault =>
      -- A write that fails leaves all files alone.
      have unchanged : (host.write path value).2 = host := by simp [write, dry, done]
      exact ⟨host.files, unchanged, fun _ _ => rfl, fun _ => rfl⟩
    | ok files =>
      have replaced : (host.write path value).2 = { host with files } := by
        simp [write, dry, done]
      exact ⟨files, replaced, fun other apart => FileTree.agreeAt_of_writeText done apart,
        fun on => absurd on dry⟩

/-- Writing files in turn changes nothing but those files, and in a dry run not even them. -/
theorem writeAll_frame (value : String) (paths : List Path) :
    ∀ host : Host, ∃ files, (writeAll value paths host).2 = { host with files } ∧
      (∀ other, other ∉ paths → host.files.AgreeAt files other) ∧
      (host.dryRun = true → files = host.files) := by
  induction paths with
  | nil => exact fun host => ⟨host.files, rfl, fun _ _ => rfl, fun _ => rfl⟩
  | cons path rest ih =>
    intro host
    obtain ⟨files, after, kept, dry⟩ := host.write_frame path value
    simp only [writeAll]
    split
    · -- The first write that fails is the last one.
      refine ⟨files, after, fun other apart => kept other ?_, dry⟩
      exact fun same => apart (by simp [same])
    · -- The later writes begin with what the first one left.
      obtain ⟨final, more, rest, still⟩ := ih (host.write path value).2
      rw [after] at more rest still
      refine ⟨final, by rw [after]; exact more, fun other apart => ?_, fun on => ?_⟩
      · simp only [List.mem_cons, not_or] at apart
        exact (kept other apart.1).trans (rest other apart.2)
      · exact (still on).trans (dry on)

/-- A command changes what the machine remembers of it and the files that commands write to, and in
a dry run no file at all. -/
theorem perform_frame (host : Host) (command : Command) :
    ∃ files, (perform command host).2 = { host.remember command with files } ∧
      (∀ path, ¬ host.paths.Writes host.online path → host.files.AgreeAt files path) ∧
      (host.dryRun = true → files = host.files) := by
  -- Either setting is written to one file of each CPU that is online.
  have settings : ∀ (file : Nat → Path) (value : String),
      (∀ cpu ∈ host.online, host.paths.Writes host.online (file cpu)) →
      ∃ files, (writeAll value (host.online.toList.map file) host).2 = { host with files } ∧
        (∀ path, ¬ host.paths.Writes host.online path → host.files.AgreeAt files path) ∧
        (host.dryRun = true → files = host.files) := by
    intro file value writes
    obtain ⟨files, after, kept, dry⟩ := writeAll_frame value (host.online.toList.map file) host
    refine ⟨files, after, fun path unwritten => kept path fun member => ?_, dry⟩
    obtain ⟨cpu, online, rfl⟩ := List.mem_map.mp member
    exact unwritten (writes cpu ((CpuSet.mem_toList _ _).mp online))
  -- A command writes a setting to all CPUs, the one switch, or no file.
  cases command with
  | setEpp value =>
    exact settings host.paths.epp (toString value)
      fun cpu online => Or.inr ⟨cpu, online, Or.inl rfl⟩
  | setEpb value =>
    exact settings host.paths.epb (toString value)
      fun cpu online => Or.inr ⟨cpu, online, Or.inr rfl⟩
  | setItmt value =>
    obtain ⟨files, after, kept, dry⟩ := host.write_frame host.paths.itmt (toString value)
    exact ⟨files, after, fun path unwritten => kept path fun same => unwritten (Or.inl same), dry⟩
  | setActiveCpus cpus irq => exact ⟨host.files, rfl, fun _ _ => rfl, fun _ => rfl⟩
  | changeMode change => exact ⟨host.files, rfl, fun _ _ => rfl, fun _ => rfl⟩

/-- A machine in a dry run and one that is really controlled, which differ at most in the files that
commands write to. -/
structure Rehearses (paths : HostPaths) (online : CpuSet) (dry real : Host) : Prop where
  /-- Writes to the first machine are only reported. -/
  dryRun : dry.dryRun = true
  /-- The first machine finds its files in the given places. -/
  located : dry.paths = paths
  /-- The given CPUs of the first machine are online. -/
  listed : dry.online = online
  /-- Apart from its files, and from whether it writes them, the second machine is the same. -/
  same : ∃ files dryRun, real = { dry with files, dryRun }
  /-- The files that no command writes to are the same. -/
  agree : ∀ path, ¬ paths.Writes online path → dry.files.AgreeAt real.files path

variable {paths : HostPaths} {online : CpuSet} {dry real : Host}

/-- A command keeps a rehearsal going, whether or not it fails on the real machine. -/
theorem Rehearses.perform (rehearses : Rehearses paths online dry real) (command : Command) :
    Rehearses paths online (perform command dry).2 (perform command real).2 := by
  obtain ⟨dryRun, rfl, rfl, ⟨files, writes, rfl⟩, agree⟩ := rehearses
  obtain ⟨left, done, _, untouched⟩ := dry.perform_frame command
  obtain ⟨right, performed, kept, _⟩ :=
    Host.perform_frame { dry with files, dryRun := writes } command
  rw [done, performed, untouched dryRun]
  -- Nothing that the machines remember depends on their files.
  cases command <;>
    exact ⟨dryRun, rfl, rfl, ⟨right, writes, rfl⟩, fun path unwritten =>
      (agree path unwritten).trans (kept path unwritten)⟩

/-- A register is read from a file, so machines that agree on it read the same value. -/
theorem readRegister?_congr (rehearses : Rehearses paths online dry real) (cpu : Nat)
    (address : UInt32) (unwritten : ¬ paths.Writes online (paths.registersOf cpu)) :
    (dry.readRegister? cpu address).toOption = (real.readRegister? cpu address).toOption := by
  -- Nothing but the file of the registers is looked at.
  obtain ⟨_, rfl, rfl, ⟨files, writes, rfl⟩, agree⟩ := rehearses
  have same : dry.files.AgreeAt files (dry.paths.registersOf cpu) := agree _ unwritten
  have opened := same.canOpen
  have read := same.readBytes
  simp only [readRegister?, opened]
  split
  · -- A file that cannot be opened may be missing for different reasons.
    rfl
  · rcases read with ⟨bytes, one, other⟩ | ⟨fault, reason, one, other⟩
    · simp only [one, other]
    · simp only [one, other]
      rfl

/-- What the platform makes of a register that was read, or not. -/
theorem platform_readRegister (host : Host) (cpu : Nat) (address : UInt32) :
    (platform.readRegister cpu address host).1.toOption =
        (host.readRegister? cpu address).toOption ∧
      (platform.readRegister cpu address host).2 = host := by
  -- Reading a register leaves the machine as it is, whether or not there is a value.
  simp only [platform]
  cases host.readRegister? cpu address <;> exact ⟨rfl, rfl⟩

/-- A dry run looks like the real thing wherever commands do not write, if registers are read from
such files. -/
theorem rehearses_looksLike
    (registers : ∀ cpu, ¬ paths.Writes online (paths.registersOf cpu)) :
    platform.LooksLike platform (fun path => ¬ paths.Writes online path)
      (Rehearses paths online) where
  files := fun rehearses path unwritten => rehearses.agree path unwritten
  currentCpu := by
    rintro dry real ⟨_, _, _, ⟨files, writes, rfl⟩, _⟩
    rfl
  -- Registers are read from files that no command writes to.
  register := by
    intro dry real rehearses cpu address
    rw [(platform_readRegister dry cpu address).1, (platform_readRegister real cpu address).1]
    exact readRegister?_congr rehearses cpu address (registers cpu)
  readRegister := by
    intro dry real rehearses cpu address
    rw [(platform_readRegister dry cpu address).2, (platform_readRegister real cpu address).2]
    exact rehearses
  inLowPower := by
    rintro dry real ⟨_, _, _, ⟨files, writes, rfl⟩, _⟩
    rfl
  perform := fun rehearses command => rehearses.perform command

/-- A machine in a dry run with the given files, next to itself. -/
def Untouched (files : FileTree) (host itself : Host) : Prop :=
  host = itself ∧ host.dryRun = true ∧ host.files = files

/-- Whatever it is asked for, a machine in a dry run keeps its files. -/
theorem untouched_looksLike (files : FileTree) :
    platform.LooksLike platform (fun _ => True) (Untouched files) where
  files := by
    rintro host _ ⟨rfl, _⟩ path _
    rfl
  currentCpu := by
    rintro host _ ⟨rfl, _⟩
    rfl
  register := by
    rintro host _ ⟨rfl, _⟩ cpu address
    rfl
  readRegister := by
    rintro host _ ⟨rfl, dry, same⟩ cpu address
    rw [(platform_readRegister host cpu address).2]
    exact ⟨rfl, dry, same⟩
  inLowPower := by
    rintro host _ ⟨rfl, _⟩
    rfl
  perform := by
    -- In a dry run a command leaves a mark on what is remembered only.
    rintro host _ ⟨rfl, dry, same⟩ command
    obtain ⟨left, done, _, untouched⟩ := host.perform_frame command
    refine ⟨rfl, ?_⟩
    show (Host.perform command host).2.dryRun = true ∧ (Host.perform command host).2.files = files
    rw [done, untouched dry]
    cases command <;> exact ⟨dry, same⟩

end Host

end PowerGovernor
