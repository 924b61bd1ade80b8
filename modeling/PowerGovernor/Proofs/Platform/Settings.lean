import PowerGovernor.Platform.Host
import PowerGovernor.Proofs.CpuSet.RoundTrip
import PowerGovernor.Proofs.Files.Agreement
import PowerGovernor.Proofs.Files.Writing
import PowerGovernor.Proofs.Text.Decimal

/-! A setting is written for every CPU that is online, up to the first whose file cannot be
written. -/

namespace PowerGovernor

/-- A setting that each CPU has in a file of its own. -/
inductive CpuSetting where
  | epp
  | epb

namespace CpuSetting

/-- The file that holds the setting of one CPU, below the directory of that CPU. -/
def file (setting : CpuSetting) (paths : HostPaths) (cpu : Nat) : Path :=
  -- The names are written out here, so that a slip in the paths of the machine would show.
  match setting with
  | .epp => paths.cpus ++ ["cpu" ++ toString cpu, "cpufreq", "energy_performance_preference"]
  | .epb => paths.cpus ++ ["cpu" ++ toString cpu, "power", "energy_perf_bias"]

/-- The command that changes the setting of all CPUs. -/
def command (setting : CpuSetting) (value : UInt32) : Command :=
  match setting with
  | .epp => .setEpp value
  | .epb => .setEpb value

/-- Whether a machine shows a number for the setting. -/
def Shows (setting : CpuSetting) (value : UInt32) (posture : Posture) : Prop :=
  match setting with
  | .epp => posture.epp = .raw value
  | .epb => posture.epb = some value

/-- The machine finds the preference of a CPU there. -/
theorem file_epp (paths : HostPaths) : CpuSetting.epp.file paths = paths.epp := by
  funext cpu
  rw [HostPaths.epp, HostPaths.cpu, List.append_assoc]
  rfl

/-- The machine finds the bias of a CPU there. -/
theorem file_epb (paths : HostPaths) : CpuSetting.epb.file paths = paths.epb := by
  funext cpu
  rw [HostPaths.epb, HostPaths.cpu, List.append_assoc]
  rfl

/-- Different CPUs have their settings in different files. -/
theorem file_injective (setting : CpuSetting) (paths : HostPaths) :
    Function.Injective (setting.file paths) := by
  -- The paths differ in the component that names the CPU, which ends with its number.
  have apart : ∀ {left right : Nat} {tail : Path},
      paths.cpus ++ ("cpu" ++ toString left) :: tail =
        paths.cpus ++ ("cpu" ++ toString right) :: tail → left = right := by
    intro left right tail same
    have names := (List.cons.inj (List.append_cancel_left same)).1
    exact toString_injective ((String.append_right_inj "cpu").mp names)
  cases setting with
  | epp => exact fun _ _ same => apart same
  | epb => exact fun _ _ same => apart same

end CpuSetting

namespace Host

open FileTree (Rewritten)

variable {host : Host} {path : Path}

/-- Without a dry run, a file that can be written is replaced without a fault or a word. -/
theorem write_of_writable (host : Host) (real : host.dryRun = false)
    (writable : host.files.Writable path) (value : String) :
    ∃ files, host.files.writeText path value = .ok files ∧
      host.write path value = ({}, { host with files }) := by
  -- A write fails only where no file can be written.
  obtain ⟨files, written⟩ := (FileTree.exists_writeText_iff value).mpr writable
  exact ⟨files, written, by simp [write, real, written]⟩

/-- What is said when a value could not be written to a file. -/
def writeFailure (value : String) (path : Path) (reason : FileFault) : Fault :=
  ⟨"writing " ++ value ++ " to " ++ "/".intercalate path, [reason.message]⟩

/-- Without a dry run, a file that cannot be written is named together with its value. -/
theorem write_of_not_writable (host : Host) (real : host.dryRun = false)
    (locked : ¬ host.files.Writable path) (value : String) :
    ∃ reason, host.files.writeFault? path = some reason ∧
      host.write path value = ({ fault := some (writeFailure value path reason) }, host) := by
  -- A path that cannot be written has a fault, which is the reason that is given.
  rw [← FileTree.writeFault?_eq_none_iff, ← ne_eq, Option.ne_none_iff_exists'] at locked
  obtain ⟨reason, found⟩ := locked
  have said : (HostError.writing value path reason).fault = writeFailure value path reason := rfl
  exact ⟨reason, found, by simp [write, real, FileTree.writeText, found, said]⟩

/-- Files that can be written are all replaced, and then the writing goes on from there; which paths
can be written stays the same. -/
theorem writeAll_append_of_writable (value : String) (first : List Path) :
    ∀ host : Host, host.dryRun = false → (∀ path ∈ first, host.files.Writable path) →
      ∃ files, Rewritten first value host.files files ∧
        (∀ path, files.Writable path ↔ host.files.Writable path) ∧
        ∀ second, writeAll value (first ++ second) host =
          writeAll value second { host with files } := by
  induction first with
  -- Nothing is written before the writing goes on.
  | nil =>
    exact fun host _ _ =>
      ⟨host.files, FileTree.rewritten_nil value host.files, fun _ => Iff.rfl, fun _ => rfl⟩
  | cons path rest ih =>
    intro host real writable
    obtain ⟨files, written, done⟩ :=
      write_of_writable host real (writable path List.mem_cons_self) value
    -- Whether the others can be written does not depend on the first write.
    have stable := FileTree.writable_iff_of_writeText written
    obtain ⟨final, replaced, still, more⟩ := ih { host with files } real
      fun other member => (stable other).mpr (writable other (List.mem_cons_of_mem path member))
    refine ⟨final, (FileTree.rewritten_of_writeText written).append replaced,
      fun other => (still other).trans (stable other), fun second => ?_⟩
    -- The first write has nothing to report, so the rest decides what is reported.
    rw [List.cons_append, writeAll, done]
    dsimp only
    rw [more second]
    rfl

/-- The command writes the decimal text of the value to one file of every CPU that is online. -/
theorem perform_command (setting : CpuSetting) (value : UInt32) (host : Host) :
    perform (setting.command value) host =
      writeAll (toString value) (host.online.toList.map (setting.file host.paths)) host := by
  -- The files that are listed by name are the ones that the machine uses.
  cases setting with
  | epp => rw [CpuSetting.file_epp]; rfl
  | epb => rw [CpuSetting.file_epb]; rfl

/-- A number that was written is shown. -/
theorem shows_of_written {setting : CpuSetting} {value : UInt32}
    (written : host.files.get? (setting.file host.paths host.firstCpu) =
      some (.file (toString value).toUTF8)) : setting.Shows value host.posture := by
  have read := FileTree.readText_of_file written
  -- The text is a numeral without a blank around it.
  have digits : (toString value).toList = (toString value.toNat).toList := rfl
  have inked : trim (toString value).toList = (toString value).toList := by
    rw [digits]
    exact trim_of_forall fun char member => isBlank_of_isDigit (isDigit_of_mem_toString member)
  have number : readWord32? (toString value).toList = some value :=
    readWord32?_eq_some_iff.mpr (isNumeral_toString value.toNat)
  -- What is made of anything else than a numeral differs between the settings.
  cases setting with
  | epp =>
    rw [CpuSetting.file_epp] at read
    simp only [CpuSetting.Shows, posture, readEpp, read, inked, number]
  | epb =>
    rw [CpuSetting.file_epb] at read
    simp only [CpuSetting.Shows, posture, readNumber?, read, inked, number]

/-- The first CPU is online if any CPU is. -/
theorem firstCpu_mem (nonempty : host.online ≠ .empty) : host.firstCpu ∈ host.online := by
  rw [← CpuSet.mem_toList, firstCpu, CpuSet.least?]
  cases cpus : host.online.toList with
  | nil =>
    -- Without a first CPU there is none at all.
    refine absurd (CpuSet.ext_mem fun cpu => ?_) nonempty
    rw [← CpuSet.mem_toList, cpus]
    simp
  | cons cpu rest => simp

/-- A machine that lists its CPUs has at least one of them online. -/
theorem online_ne_empty {paths : HostPaths} {files : FileTree} {online : CpuSet}
    (listed : paths.readOnline files = .ok online) : online ≠ .empty := by
  unfold HostPaths.readOnline at listed
  -- The list could be read, and was legal.
  split at listed
  · cases listed
  · split at listed
    · cases listed
    · rename_i success
      cases listed
      exact CpuSet.ne_empty_of_read success

/-- Some CPUs have had a text written to their files, and nothing else of a machine has changed. -/
structure Wrote (file : Nat → Path) (text : String) (chosen : Nat → Prop)
    (before after : Host) : Prop where
  /-- Nothing but files has changed. -/
  same : ∃ files, after = { before with files }
  /-- The files of these CPUs hold the text. -/
  written : ∀ cpu, chosen cpu → after.files.get? (file cpu) = some (.file text.toUTF8)
  /-- The files of all other CPUs are left alone. -/
  spared : ∀ cpu, ¬ chosen cpu → before.files.AgreeAt after.files (file cpu)
  /-- So is every other path. -/
  kept : ∀ path, (∀ cpu, path ≠ file cpu) → before.files.AgreeAt after.files path

/-- What was written to the file of the first CPU is what the machine shows. -/
theorem Wrote.shows {setting : CpuSetting} {value : UInt32} {chosen : Nat → Prop}
    {before after : Host}
    (wrote : Wrote (setting.file before.paths) (toString value) chosen before after)
    (first : chosen before.firstCpu) : setting.Shows value after.posture := by
  have held := wrote.written before.firstCpu first
  -- A write does not change which CPU is the first one.
  obtain ⟨files, rfl⟩ := wrote.same
  exact shows_of_written held

/-- If every CPU has a file of its own, replacing the files of some leaves those of the others
alone. -/
theorem wrote_of_rewritten {file : Nat → Path} (apart : Function.Injective file) {text : String}
    {chosen : Nat → Prop} {cpus : List Nat} (listed : ∀ cpu, cpu ∈ cpus ↔ chosen cpu)
    {files : FileTree} (replaced : Rewritten (cpus.map file) text host.files files) :
    Wrote file text chosen host { host with files } := by
  -- The file of a CPU is among those replaced only if the CPU is.
  have among : ∀ cpu, file cpu ∈ cpus.map file ↔ chosen cpu :=
    fun cpu => (List.mem_map_of_injective apart).trans (listed cpu)
  refine ⟨⟨files, rfl⟩, fun cpu member => ?_, fun cpu outside => ?_, fun path other => ?_⟩
  · exact (replaced (file cpu)).trans (if_pos ((among cpu).mpr member))
  · exact ((replaced (file cpu)).trans (if_neg (outside ∘ (among cpu).mp))).symm
  · have unlisted : path ∉ cpus.map file := by
      intro member
      obtain ⟨cpu, -, same⟩ := List.mem_map.mp member
      exact other cpu same.symm
    exact ((replaced path).trans (if_neg unlisted)).symm

/-- If the files of all CPUs that are online can be written, a setting is written to all of them. -/
theorem perform_of_writable (setting : CpuSetting) (value : UInt32) (real : host.dryRun = false)
    (writable : ∀ cpu ∈ host.online, host.files.Writable (setting.file host.paths cpu)) :
    (perform (setting.command value) host).1 = {} ∧
      Wrote (setting.file host.paths) (toString value) (· ∈ host.online) host
        (perform (setting.command value) host).2 := by
  -- All that is going to be written is a file of some CPU that is online.
  have all : ∀ path ∈ host.online.toList.map (setting.file host.paths),
      host.files.Writable path :=
    List.forall_mem_map.mpr fun cpu listed => writable cpu ((CpuSet.mem_toList _ cpu).mp listed)
  obtain ⟨files, replaced, -, goesOn⟩ :=
    writeAll_append_of_writable (toString value) _ host real all
  -- Behind the last file there is nothing left to write.
  have done := goesOn []
  rw [List.append_nil] at done
  rw [perform_command, done]
  exact ⟨rfl, wrote_of_rewritten (setting.file_injective host.paths)
    (CpuSet.mem_toList host.online) replaced⟩

/-- If the file of a CPU cannot be written, and it is the lowest such CPU that is online, a setting
is written to the files of all lower ones, and the failure names this file. -/
theorem perform_of_not_writable (setting : CpuSetting) (value : UInt32)
    (real : host.dryRun = false) {cpu : Nat} (online : cpu ∈ host.online)
    (locked : ¬ host.files.Writable (setting.file host.paths cpu))
    (lowest : ∀ lower ∈ host.online, lower < cpu →
      host.files.Writable (setting.file host.paths lower)) :
    ∃ reason,
      (perform (setting.command value) host).2.files.writeFault? (setting.file host.paths cpu) =
        some reason ∧
      (perform (setting.command value) host).1 =
        { fault := some (writeFailure (toString value) (setting.file host.paths cpu) reason) } ∧
      Wrote (setting.file host.paths) (toString value)
        (fun lower => lower ∈ host.online ∧ lower < cpu) host
        (perform (setting.command value) host).2 := by
  -- The CPUs are written to in ascending order, so exactly the lower ones come before this one.
  obtain ⟨before, behind, cut, listed⟩ := CpuSet.exists_toList_eq online
  have all : ∀ path ∈ before.map (setting.file host.paths), host.files.Writable path := by
    refine List.forall_mem_map.mpr fun lower early => ?_
    obtain ⟨present, smaller⟩ := (listed lower).mp early
    exact lowest lower present smaller
  obtain ⟨files, replaced, still, goesOn⟩ :=
    writeAll_append_of_writable (toString value) _ host real all
  obtain ⟨reason, found, stopped⟩ := write_of_not_writable { host with files } real
    (mt (still _).mp locked) (toString value)
  -- The writing comes as far as this file, and does not go on behind it.
  have outcome : perform (setting.command value) host =
      ({ fault := some (writeFailure (toString value) (setting.file host.paths cpu) reason) },
        { host with files }) := by
    rw [perform_command, cut, List.map_append, List.map_cons, goesOn, writeAll, stopped]
  rw [outcome]
  exact ⟨reason, found, rfl,
    wrote_of_rewritten (setting.file_injective host.paths) listed replaced⟩

/-- Without a dry run, a setting is written for exactly the CPUs that are online. This succeeds if
and only if the files of all of them can be written, and then these files hold the decimal text of
the value, which the machine shows from then on. If some cannot be written, the failure names the
file of the lowest such CPU, and the files of the lower CPUs that are online hold the text. Either
way nothing else has changed. Which CPUs are online was read from the machine at some time, as it
is when control of it is taken. -/
theorem perform_writes_online (setting : CpuSetting) (value : UInt32) (host : Host)
    (real : host.dryRun = false)
    (listed : ∃ initial, host.paths.readOnline initial = .ok host.online) :
    let file := setting.file host.paths
    let response := (perform (setting.command value) host).1
    let after := (perform (setting.command value) host).2
    (response.fault = none ↔ ∀ cpu ∈ host.online, host.files.Writable (file cpu)) ∧
      ((∀ cpu ∈ host.online, host.files.Writable (file cpu)) →
        Wrote file (toString value) (· ∈ host.online) host after ∧
          setting.Shows value after.posture) ∧
      ((∃ cpu ∈ host.online, ¬ host.files.Writable (file cpu)) →
        ∃ cpu ∈ host.online, ¬ host.files.Writable (file cpu) ∧
          (∀ lower ∈ host.online, lower < cpu → host.files.Writable (file lower)) ∧
          (∃ reason, after.files.writeFault? (file cpu) = some reason ∧
            response.fault = some ⟨"writing " ++ toString value ++ " to " ++
              "/".intercalate (file cpu), [reason.message]⟩) ∧
          Wrote file (toString value) (fun lower => lower ∈ host.online ∧ lower < cpu) host
            after) := by
  intro file response after
  by_cases writable : ∀ cpu ∈ host.online, host.files.Writable (file cpu)
  · obtain ⟨done, wrote⟩ := perform_of_writable setting value real writable
    obtain ⟨initial, listed⟩ := listed
    have shows : setting.Shows value after.posture :=
      wrote.shows (firstCpu_mem (online_ne_empty listed))
    refine ⟨iff_of_true (congrArg Response.fault done) writable, fun _ => ⟨wrote, shows⟩, ?_⟩
    rintro ⟨cpu, online, locked⟩
    exact absurd (writable cpu online) locked
  · have stuck : ∃ cpu, cpu ∈ host.online ∧ ¬ host.files.Writable (file cpu) := by
      simpa only [not_forall, exists_prop] using writable
    -- There is a lowest such CPU, since there is one at all.
    classical
    obtain ⟨online, locked⟩ := Nat.find_spec stuck
    have lowest : ∀ lower ∈ host.online, lower < Nat.find stuck →
        host.files.Writable (file lower) := by
      intro lower present smaller
      by_contra other
      exact Nat.find_min stuck smaller ⟨present, other⟩
    obtain ⟨reason, found, failed, wrote⟩ :=
      perform_of_not_writable setting value real online locked lowest
    have fault : response.fault =
        some (writeFailure (toString value) (file (Nat.find stuck)) reason) :=
      congrArg Response.fault failed
    refine ⟨iff_of_false (by simp [fault]) writable, fun all => absurd all writable, fun _ => ?_⟩
    exact ⟨_, online, locked, lowest, ⟨reason, found, fault⟩, wrote⟩

/-- Where the files of a small machine are found. -/
def halfPaths : HostPaths := ⟨["cpu"], ["itmt"], ["msr"]⟩

/-- A machine with two CPUs, of which only the first one has a directory for its bias. -/
def halfMachine : Host where
  paths := halfPaths
  files :=
    let files := (FileTree.rooted []).place [] ["cpu", "online"] (.file "0,2".toUTF8)
    let files := files.place [] ["cpu", "cpu0", "cpufreq"] .directory
    let files := files.place [] ["cpu", "cpu2", "cpufreq"] .directory
    files.place [] ["cpu", "cpu0", "power"] .directory
  online := (CpuSet.interval 0 0).union (.interval 2 2)
  dryRun := false
  cpu := 0
  lowPower := false
  activeCpus := none
  irq := .ignore

/-- Its CPUs are the first and the third one. -/
theorem mem_online_halfMachine {cpu : Nat} (online : cpu ∈ halfMachine.online) :
    cpu = 0 ∨ cpu = 2 := by
  rcases CpuSet.mem_union.mp online with low | high
  -- Each of its two intervals has one member.
  · have := CpuSet.mem_interval.mp low
    omega
  · have := CpuSet.mem_interval.mp high
    omega

/-- A file can be made on it where there is none in a directory. -/
theorem writable_halfMachine {path : Path} (absent : halfMachine.files.get? path = none)
    (parent : halfMachine.files.get? path.dropLast = some .directory) :
    halfMachine.files.Writable path :=
  .inr ⟨absent, parent⟩

/-- The preference is written for both CPUs, and the bias for the first one only, which is said of
the file of the second one. -/
theorem perform_writes_online_half :
    (perform (.setEpp 128) halfMachine).1.fault = none ∧
      (perform (.setEpp 128) halfMachine).2.posture.epp = .raw 128 ∧
      (perform (.setEpb 6) halfMachine).1.fault =
        some ⟨"writing 6 to cpu/cpu2/power/energy_perf_bias",
          ["No such file or directory (os error 2)"]⟩ ∧
      (perform (.setEpb 6) halfMachine).2.files.get? ["cpu", "cpu0", "power", "energy_perf_bias"] =
        some (.file "6".toUTF8) := by
  have listed : halfPaths.readOnline halfMachine.files = .ok halfMachine.online := by
    decide +kernel
  obtain ⟨possible, all, -⟩ :=
    perform_writes_online .epp 128 halfMachine rfl ⟨halfMachine.files, listed⟩
  -- Both CPUs have the directory of the preference, so a file can be made in it.
  have both : ∀ cpu ∈ halfMachine.online,
      halfMachine.files.Writable (CpuSetting.epp.file halfMachine.paths cpu) := by
    intro cpu online
    rcases mem_online_halfMachine online with rfl | rfl
    · exact writable_halfMachine (by rfl) (by rfl)
    · exact writable_halfMachine (by rfl) (by rfl)
  obtain ⟨-, -, stuck⟩ := perform_writes_online .epb 6 halfMachine rfl ⟨halfMachine.files, listed⟩
  have missing : ¬ halfMachine.files.Writable (CpuSetting.epb.file halfPaths 2) := by
    rw [← FileTree.writeFault?_eq_none_iff]
    decide +kernel
  obtain ⟨cpu, online, locked, -, ⟨reason, found, fault⟩, wrote⟩ :=
    stuck ⟨2, by decide +kernel, missing⟩
  -- The first CPU has a directory, so it is the second one that is named.
  have present : halfMachine.files.Writable (CpuSetting.epb.file halfPaths 0) :=
    writable_halfMachine (by rfl) (by rfl)
  obtain rfl : cpu = 2 := by
    rcases mem_online_halfMachine online with rfl | second
    · exact absurd present locked
    · exact second
  -- What is missing is the directory that the file would be made in.
  have reasoned : (perform (CpuSetting.epb.command 6) halfMachine).2.files.writeFault?
      (CpuSetting.epb.file halfMachine.paths 2) = some .notFound := by decide +kernel
  obtain rfl : reason = .notFound := Option.some.inj (found.symm.trans reasoned)
  have said : "writing " ++ toString (6 : UInt32) ++ " to " ++
      "/".intercalate (CpuSetting.epb.file halfMachine.paths 2) =
        "writing 6 to cpu/cpu2/power/energy_perf_bias" := by decide +kernel
  have six : toString (6 : UInt32) = "6" := by decide +kernel
  have zero : CpuSetting.epb.file halfMachine.paths 0 =
      ["cpu", "cpu0", "power", "energy_perf_bias"] := by decide +kernel
  have written := wrote.written 0 ⟨by decide +kernel, by decide⟩
  have accepted := possible.mpr both
  simp only [CpuSetting.command] at accepted fault written
  rw [said] at fault
  rw [six, zero] at written
  exact ⟨accepted, (all both).2, fault, written⟩

end Host

end PowerGovernor
