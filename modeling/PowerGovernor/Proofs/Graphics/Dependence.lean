import PowerGovernor.Graphics.Probe
import PowerGovernor.Proofs.Platform.Likeness

/-! Which files a measurement of graphics load reads, and that it depends on nothing else. -/

namespace PowerGovernor.Graphics

/-- The counters that a source reads. -/
def Source.reads : Source → List Path
  | .undecided => []
  | .residency tier => tier.render.path.toList ++ tier.media.path.toList
  | .registers _ => []

/-- The files that a probe may read: those by which it decides on a source, and the counters of the
source that it decided on. -/
def Probe.reads (probe : Probe) : List Path :=
  [residencyPath probe.root "gt0", residencyPath probe.root "gt1", namePath probe.root] ++
    probe.source.reads

variable {left right : FileTree}

/-- The value of a counter depends on its file only. -/
theorem ResidencyCounter.read?_congr (counter : ResidencyCounter)
    (agree : ∀ path ∈ counter.path, left.AgreeAt right path) :
    counter.read? left = counter.read? right := by
  -- Why a file cannot be read is not told.
  unfold read?
  cases named : counter.path with
  | none => rfl
  | some path =>
    rcases (agree path named).readText with ⟨text, one, other⟩ | ⟨fault, reason, one, other⟩
    · simp only [one, other]
    · simp only [one, other]

/-- The baselines that a tier starts from depend on its counters only. -/
theorem ResidencyTier.start_congr {paths : EnginePaths}
    (agree : ∀ path ∈ paths.render.toList ++ paths.media.toList, left.AgreeAt right path)
    (now : Nat) : ResidencyTier.start paths left now = ResidencyTier.start paths right now := by
  -- Either counter is one of those on which the trees agree.
  have render : ∀ path ∈ paths.render, left.AgreeAt right path := fun path named =>
    agree path (by simp [Option.mem_def.mp named])
  have media : ∀ path ∈ paths.media, left.AgreeAt right path := fun path named =>
    agree path (by simp [Option.mem_def.mp named])
  simp only [start, ResidencyCounter.start]
  rw [ResidencyCounter.read?_congr ⟨paths.render, none⟩ render,
    ResidencyCounter.read?_congr ⟨paths.media, none⟩ media]

/-- The loads that a tier finds depend on its counters only. -/
theorem ResidencyTier.sample_congr (tier : ResidencyTier)
    (agree : ∀ path ∈ (Source.residency tier).reads, left.AgreeAt right path) (now : Nat) :
    tier.sample left now = tier.sample right now := by
  -- Again the counters agree one by one, and the rest of a tier is no file.
  have render : ∀ path ∈ tier.render.path, left.AgreeAt right path := fun path named =>
    agree path (by simp [Source.reads, Option.mem_def.mp named])
  have media : ∀ path ∈ tier.media.path, left.AgreeAt right path := fun path named =>
    agree path (by simp [Source.reads, Option.mem_def.mp named])
  simp only [sample, ResidencyCounter.update]
  rw [ResidencyCounter.read?_congr tier.render render,
    ResidencyCounter.read?_congr tier.media media]

/-- An update moves the baseline of a counter, not its file. -/
theorem ResidencyCounter.path_update (counter : ResidencyCounter) (files : FileTree)
    (elapsed : Nat) (label : String) :
    (counter.update files elapsed label).1.path = counter.path := by
  -- Only the baseline is written, if anything is.
  unfold update
  split <;> rfl

/-- Sampling a tier does not change where its counters are found. -/
theorem ResidencyTier.paths_sample (tier : ResidencyTier) (files : FileTree) (now : Nat) :
    (tier.sample files now).1.render.path = tier.render.path ∧
      (tier.sample files now).1.media.path = tier.media.path := by
  -- No time has passed, or both counters are updated.
  simp only [sample]
  split
  · exact ⟨rfl, rfl⟩
  · exact ⟨ResidencyCounter.path_update _ _ _ _, ResidencyCounter.path_update _ _ _ _⟩

/-- Sampling a tier does not change which counters it reads. -/
theorem ResidencyTier.reads_sample (tier : ResidencyTier) (files : FileTree) (now : Nat) :
    (Source.residency (tier.sample files now).1).reads = (Source.residency tier).reads := by
  -- A sample replaces what was read, and the paths stay.
  obtain ⟨render, media⟩ := tier.paths_sample files now
  simp only [Source.reads, render, media]

/-- Which counters are found depends on the files that are looked at for it. -/
theorem discover_congr (root : Path)
    (agree : ∀ path ∈ (Probe.new root).reads, left.AgreeAt right path) :
    discover root left = discover root right := by
  -- Discovery tries to open both counters and reads one name.
  have first := (agree (residencyPath root "gt0") (by simp [Probe.reads, Probe.new])).canOpen
  have second := (agree (residencyPath root "gt1") (by simp [Probe.reads, Probe.new])).canOpen
  have name := (agree (namePath root) (by simp [Probe.reads, Probe.new])).readText
  unfold discover
  rcases name with ⟨text, one, other⟩ | ⟨fault, reason, one, other⟩
  · -- Both trees show the same name, and so the same order of the engines.
    simp only [first, one, other]
    cases renderFirst? text with
    | none => rfl
    | some inOrder => cases inOrder <;> simp [first, second]
  · simp only [first, one, other]

/-- The counters that are found are those of the two engines. -/
theorem eq_residencyPath_of_discover {root : Path} {files : FileTree} {paths : EnginePaths}
    (found : (discover root files).1 = some paths) :
    ∀ path ∈ paths.render.toList ++ paths.media.toList,
      path = residencyPath root "gt0" ∨ path = residencyPath root "gt1" := by
  -- Only a counter that can be opened is found, at the path where it was tried.
  have opened : ∀ counter path,
      path ∈ (if files.canOpen counter then some counter else none).toList → path = counter := by
    intro counter path member
    split at member <;> simp_all
  simp only [discover] at found
  cases present : files.canOpen (residencyPath root "gt0") with
  | false => simp [present] at found
  | true =>
    cases named : files.readText (namePath root) with
    | error fault => simp [present, named] at found
    | ok name =>
      cases order : renderFirst? name with
      | none => simp [present, named, order] at found
      | some inOrder =>
        simp only [named, order, present, Bool.not_true, Bool.false_eq_true, if_false,
          Option.some.injEq] at found
        subst found
        intro path member
        -- Each engine has one of the two counters, if that can be opened.
        rcases List.mem_append.mp member with render | media
        · have named := opened _ _ render
          cases inOrder <;> simp [named]
        · have named := opened _ _ media
          cases inOrder <;> simp [named]

/-- The counters that are found lie where they are looked for. -/
theorem mem_of_discover {root : Path} {files : FileTree} {paths : EnginePaths} {notes : List Note}
    (found : discover root files = (some paths, notes)) :
    ∀ path ∈ paths.render.toList ++ paths.media.toList, path ∈ (Probe.new root).reads := by
  -- Both counters are looked at when the probe decides.
  intro path member
  rcases eq_residencyPath_of_discover (congrArg Prod.fst found) path member with rfl | rfl <;>
    simp [Probe.reads, Probe.new]

/-- Two measurements that find the same on machines that look alike. -/
structure Measurement.Alike {Left Right : Type} (alike : Left → Right → Prop)
    (first : Measurement Left) (second : Measurement Right) : Prop where
  /-- The probes remember the same. -/
  probe : first.probe = second.probe
  /-- The same load was measured. -/
  load : first.load = second.load
  /-- The same calls were made. -/
  calls : first.calls = second.calls
  /-- The machines look alike after the measurement. -/
  world : alike first.world second.world

namespace Probe

variable {Left Right : Type} {onLeft : Platform Left} {onRight : Platform Right}
  {watched : Path → Prop} {alike : Left → Right → Prop} {one : Left} {other : Right}

/-- Measuring by registers finds the same on machines with the same registers. -/
theorem sampleRegisters_alike (equal : onLeft.SameRegisters onRight alike)
    (related : alike one other) (probe : Probe) (baseline : Option RegisterPair) :
    (probe.sampleRegisters baseline onLeft one).Alike alike
      (probe.sampleRegisters baseline onRight other) := by
  -- Both machines read the registers of the same CPU.
  have reading := equal.readRegisters related (onLeft.currentCpu one)
  simp only [sampleRegisters, ← equal.currentCpu related]
  revert reading
  cases readRegisters onLeft (onLeft.currentCpu one) one with
  | mk outcome world calls =>
    cases readRegisters onRight (onLeft.currentCpu one) other with
    | mk found reached made =>
      rintro ⟨same, sameCalls, related⟩
      simp only at same sameCalls related
      -- Readings that fail for different reasons are only reported differently.
      cases outcome with
      | ok pair =>
        cases found with
        | ok seen => cases same; exact ⟨rfl, rfl, sameCalls, related⟩
        | error reason => cases same
      | error fault =>
        cases found with
        | ok seen => cases same
        | error reason => exact ⟨rfl, rfl, sameCalls, related⟩

/-- A measurement finds the same on machines that look alike wherever the probe reads. -/
theorem sample_alike (looks : onLeft.LooksLike onRight watched alike) (related : alike one other)
    {probe : Probe} (seen : ∀ path ∈ probe.reads, watched path) (now : Nat) :
    (probe.sample now onLeft one).Alike alike (probe.sample now onRight other) := by
  have agree : ∀ path ∈ probe.reads,
      (onLeft.files one).AgreeAt (onRight.files other) path :=
    fun path member => looks.files related path (seen path member)
  obtain ⟨root, source⟩ := probe
  -- Each source reads only what the probe may read.
  cases source with
  | residency tier =>
    have same := ResidencyTier.sample_congr tier
      (fun path member => agree path (List.mem_append.mpr (Or.inr member))) now
    simp only [sample, same]
    exact ⟨rfl, rfl, rfl, related⟩
  | registers baseline => exact sampleRegisters_alike looks.sameRegisters related _ baseline
  | undecided =>
    have found := discover_congr root agree
    simp only [sample, found]
    cases decided : discover root (onRight.files other) with
    | mk paths notes =>
      cases paths with
      | some paths =>
        -- The counters that were found are among the files that agree.
        have same := ResidencyTier.start_congr
          (fun path member => agree path (mem_of_discover decided path member)) now
        simp only [same]
        exact ⟨rfl, rfl, rfl, related⟩
      | none =>
        have registers :=
          sampleRegisters_alike looks.sameRegisters related ⟨root, .undecided⟩ none
        exact ⟨registers.probe, registers.load, registers.calls, registers.world⟩

/-- A measurement by registers reads no files. -/
theorem reads_sampleRegisters {World : Type} (probe : Probe) (baseline : Option RegisterPair)
    (platform : Platform World) (world : World) :
    ∀ path ∈ (probe.sampleRegisters baseline platform world).probe.reads, path ∈ probe.reads := by
  intro path member
  simp only [sampleRegisters] at member
  -- Whether or not the registers could be read, no counter is left to read.
  split at member <;>
    exact List.mem_append.mpr (Or.inl (by simpa [reads, Source.reads] using member))

/-- After a measurement a probe reads no other files than before. -/
theorem reads_sample {World : Type} (probe : Probe) (now : Nat) (platform : Platform World)
    (world : World) :
    ∀ path ∈ (probe.sample now platform world).probe.reads, path ∈ probe.reads := by
  obtain ⟨root, source⟩ := probe
  intro path member
  -- A probe that has decided keeps to its source, and deciding adds no other files.
  cases source with
  | residency tier =>
    simp only [sample, reads, ResidencyTier.reads_sample] at member
    exact member
  | registers baseline => exact reads_sampleRegisters _ baseline platform world path member
  | undecided =>
    simp only [sample] at member
    cases decided : discover root (platform.files world) with
    | mk paths notes =>
      rw [decided] at member
      cases paths with
      | some paths =>
        -- The counters that were found were among the files looked at.
        rcases List.mem_append.mp member with decisive | counter
        · exact List.mem_append.mpr (Or.inl decisive)
        · exact mem_of_discover decided path counter
      | none => exact reads_sampleRegisters _ none platform world path member

end Probe

end PowerGovernor.Graphics
