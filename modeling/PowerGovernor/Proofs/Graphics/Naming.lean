import PowerGovernor.Proofs.Graphics.Estimate

/-! The name of the first engine decides which of the two engines is which, and nothing about their
load. -/

namespace PowerGovernor

/-- Characters in front of some bytes do not change whether these are a text. -/
theorem isValidUTF8_utf8Encode_append_iff (chars : List Char) (rest : ByteArray) :
    (chars.utf8Encode ++ rest).IsValidUTF8 ↔ rest.IsValidUTF8 := by
  -- One character can be taken off after the other.
  induction chars with
  | nil => simp
  | cons char chars ih =>
    rw [List.utf8Encode_cons, ByteArray.append_assoc,
      ByteArray.isValidUTF8_utf8Encode_singleton_append_iff, ih]

/-- A text in front of some bytes does not change whether they are a text. -/
theorem isValidUTF8_append_iff (text : String) (rest : ByteArray) :
    (text.toUTF8 ++ rest).IsValidUTF8 ↔ rest.IsValidUTF8 := by
  -- A text is stored as its characters, one behind the other.
  have same : text.toUTF8 = text.toList.utf8Encode := String.utf8Encode_toList.symm
  rw [same]
  exact isValidUTF8_utf8Encode_append_iff text.toList rest

/-- A file that begins with a text is read as one that does, unless what follows is no text. -/
theorem FileTree.readText_of_begins {tree : FileTree} {path : Path} {text : String}
    {rest : ByteArray} (there : tree.get? path = some (.file (text.toUTF8 ++ rest))) :
    (rest.IsValidUTF8 → ∃ tail, tree.readText path = .ok (text ++ tail)) ∧
      (¬ rest.IsValidUTF8 → tree.readText path = .error .badText) := by
  constructor
  · intro valid
    -- What follows is a text, and the file holds both texts in a row.
    let tail := String.fromUTF8 rest valid
    have joined : (text ++ tail).toUTF8 = text.toUTF8 ++ rest := String.toByteArray_append
    exact ⟨tail, readText_of_file (by rw [there, joined])⟩
  · intro invalid
    -- With what follows the whole is no text either.
    have holds : tree path = some (.file (text.toUTF8 ++ rest)) := there
    have undecodable : String.fromUTF8? (text.toUTF8 ++ rest) = none :=
      dif_neg (mt (isValidUTF8_append_iff text rest).mp invalid)
    simp only [readText, readBytes, holds, undecodable]

/-- Moments at which two machines are met at the same time, and until which they have stayed
alike. -/
structure Moment.InStep {World Other : Type} (alike : World → Other → Prop) (first : Moment World)
    (second : Moment Other) : Prop where
  /-- The clocks show the same. -/
  now : first.now = second.now
  /-- What has happened to the machines keeps them alike. -/
  drift : first.Alike alike second

namespace Graphics

/-- The counters of both engines, which have changed places. -/
def EnginePaths.swap (paths : EnginePaths) : EnginePaths :=
  { render := paths.media, media := paths.render }

/-- A tier whose engines have changed places. -/
def ResidencyTier.swap (tier : ResidencyTier) : ResidencyTier :=
  { tier with render := tier.media, media := tier.render }

/-- Two trees with the same in the residency counters of both engines. -/
structure SameCounters (root : Path) (left right : FileTree) : Prop where
  /-- The counter of the first engine. -/
  first : left.AgreeAt right (residencyPath root "gt0")
  /-- The counter of the second engine. -/
  second : left.AgreeAt right (residencyPath root "gt1")

/-- One tree names the render engine as the first one, and the other tree the media engine. What
follows in the names may differ, but is a text in both of them or in neither. -/
def OppositeNames (root : Path) (left right : FileTree) : Prop :=
  ∃ rest other : ByteArray,
    left.get? (namePath root) = some (.file ("gt0-rc".toUTF8 ++ rest)) ∧
      right.get? (namePath root) = some (.file ("gt0-mc".toUTF8 ++ other)) ∧
      (rest.IsValidUTF8 ↔ other.IsValidUTF8)

/-- Measurements that report the same load and have made the same calls for it. -/
def Survey.SameReport {World Other : Type} (platform : Platform World) (elsewhere : Platform Other)
    (survey : Survey World) (twin : Survey Other) : Prop :=
  survey.load platform = twin.load elsewhere ∧
    (survey.measurement platform).calls = (twin.measurement elsewhere).calls

/-- Trees with the same counters agree at each of them. -/
theorem SameCounters.agreeAt {root : Path} {left right : FileTree}
    (counters : SameCounters root left right) {path : Path}
    (engine : path = residencyPath root "gt0" ∨ path = residencyPath root "gt1") :
    left.AgreeAt right path := by
  -- There are no counters but these two.
  rcases engine with rfl | rfl
  · exact counters.first
  · exact counters.second

/-- It makes no difference which of two engines comes first. -/
theorem larger_comm (left right : Reading) : left.larger right = right.larger left := by
  cases left with
  | none => exact (larger_none right).symm
  | some left =>
    cases right with
    | none => rfl
    | some right =>
      -- The larger of two shares has the larger count in either order.
      refine congrArg some (BasisPoints.ext ?_)
      rw [value_max, value_max, Nat.max_comm]

/-- What an engine is called does not matter for its load. -/
theorem ResidencyCounter.update_label (counter : ResidencyCounter) (files : FileTree)
    (elapsed : Nat) (label other : String) :
    (counter.update files elapsed label).1 = (counter.update files elapsed other).1 ∧
      (counter.update files elapsed label).2.1 = (counter.update files elapsed other).2.1 := by
  -- The label only shows in what is reported.
  unfold update
  split <;> exact ⟨rfl, rfl⟩

/-- Engines that have changed places are measured with the same load, and stay in their places. -/
theorem ResidencyTier.sample_swap (tier : ResidencyTier) (files : FileTree) (now : Nat) :
    (tier.swap.sample files now).1 = (tier.sample files now).1.swap ∧
      (tier.swap.sample files now).2.1 = (tier.sample files now).2.1 := by
  -- Each engine is measured for itself, over the time that both share.
  have render := tier.render.update_label files (now - tier.measured) "SAM" "GFX"
  have media := tier.media.update_label files (now - tier.measured) "GFX" "SAM"
  -- Without time between two measurements nothing is measured at all.
  by_cases still : now - tier.measured = 0
  · simp only [sample, swap, still, if_true, and_self]
  · simp only [sample, swap, still, if_false, render.1, render.2, media.1, media.2, true_and]
    exact larger_comm _ _

/-- A name is recognised by how it begins. -/
theorem renderFirst?_append (rest : String) :
    renderFirst? ("gt0-rc" ++ rest) = some true ∧ renderFirst? ("gt0-mc" ++ rest) = some false := by
  -- Five characters decide, and they come first.
  unfold renderFirst?
  rw [String.toList_append, String.toList_append]
  constructor <;> rfl

/-- Trees with opposite names and the same counters show the same engines in opposite places, or
none. -/
theorem discover_of_oppositeNames {root : Path} {left right : FileTree}
    (counters : SameCounters root left right) (names : OppositeNames root left right) :
    (discover root right).1 = (discover root left).1.map EnginePaths.swap := by
  have first := counters.first.canOpen
  have second := counters.second.canOpen
  obtain ⟨rest, other, one, opposite, same⟩ := names
  -- Discovery asks for the counter of the first engine, for the name, and then for the second
  -- counter.
  cases present : left.canOpen (residencyPath root "gt0") with
  | false => simp [discover, ← first, present]
  | true =>
    by_cases valid : rest.IsValidUTF8
    · obtain ⟨tail, read⟩ := (FileTree.readText_of_begins one).1 valid
      obtain ⟨ending, found⟩ := (FileTree.readText_of_begins opposite).1 (same.mp valid)
      simp [discover, EnginePaths.swap, ← first, ← second, present, read, found,
        renderFirst?_append]
    · -- Neither name can be read.
      have unread := (FileTree.readText_of_begins one).2 valid
      have unfound := (FileTree.readText_of_begins opposite).2 (mt same.mpr valid)
      simp [discover, ← first, present, unread, unfound]

section Runs

variable {World Other : Type} {platform : Platform World} {elsewhere : Platform Other}
  {alike : World → Other → Prop} {root : Path}

/-- Runs that are measured by the counters of tiers in opposite places report the same. -/
theorem surveys_of_swap
    (counters : ∀ {one other}, alike one other →
      SameCounters root (platform.files one) (elsewhere.files other))
    {moments : List (Moment World)} {others : List (Moment Other)}
    (together : List.Forall₂ (Moment.InStep alike) moments others) :
    ∀ {tier : ResidencyTier} {one : World} {other : Other},
      (∀ path ∈ (Source.residency tier).reads,
        path = residencyPath root "gt0" ∨ path = residencyPath root "gt1") →
      alike one other →
      List.Forall₂ (Survey.SameReport platform elsewhere)
        (Probe.surveys platform ⟨root, .residency tier⟩ one moments)
        (Probe.surveys elsewhere ⟨root, .residency tier.swap⟩ other others) := by
  -- The tiers stay in opposite places, and the machines alike.
  induction together with
  | nil => exact fun _ _ => .nil
  | @cons moment twin rest later step _ ih =>
    intro tier one other confined related
    have still := step.drift related
    have same : tier.sample (platform.files (moment.drift one)) moment.now =
        tier.sample (elsewhere.files (twin.drift other)) twin.now := by
      rw [step.now]
      exact tier.sample_congr
        (fun path member => (counters still).agreeAt (confined path member)) twin.now
    obtain ⟨places, loads⟩ := tier.sample_swap (elsewhere.files (twin.drift other)) twin.now
    rw [← same] at places loads
    refine .cons ⟨loads.symm, rfl⟩ ?_
    show List.Forall₂ _
      (Probe.surveys platform ⟨root, .residency (tier.sample _ moment.now).1⟩ _ rest)
      (Probe.surveys elsewhere ⟨root, .residency (tier.swap.sample _ twin.now).1⟩ _ later)
    rw [places]
    refine ih ?_ still
    rwa [ResidencyTier.reads_sample]

/-- Runs that find no counters at first report the same, since they go by the registers from then
on. -/
theorem surveys_of_undiscovered (registers : platform.SameRegisters elsewhere alike)
    {world : World} {other : Other} (related : alike world other) {first : Moment World}
    {start : Moment Other} {rest : List (Moment World)} {others : List (Moment Other)}
    (together : List.Forall₂ (Moment.InStep alike) (first :: rest) (start :: others))
    (unfound : (discover root (platform.files (first.drift world))).1 = none)
    (missing : (discover root (elsewhere.files (start.drift other))).1 = none) :
    List.Forall₂ (Survey.SameReport platform elsewhere)
      ((Probe.new root).surveys platform world (first :: rest))
      ((Probe.new root).surveys elsewhere other (start :: others)) := by
  obtain ⟨step, later⟩ := List.forall₂_cons.mp together
  -- Failing to find counters settles the question for good.
  have latched := (Survey.byRegisters_of_undiscovered unfound first.now).2.1
  have measured := Probe.sample_alike_of_undiscovered registers (step.drift related) unfound missing
    first.now start.now
  have drifts : List.Forall₂ (Moment.Alike alike) rest others := later.imp fun _ _ step => step.drift
  refine .cons ⟨measured.load, measured.calls⟩ ?_
  -- Both runs go on with one probe.
  show List.Forall₂ _
    (Probe.surveys platform ((Probe.new root).sample _ platform _).probe _ rest)
    (Probe.surveys elsewhere ((Probe.new root).sample _ elsewhere _).probe _ others)
  rw [← measured.probe]
  exact (Probe.surveys_alike_of_onRegisters registers drifts latched measured.world).imp
    fun _ _ alike => ⟨alike.load, alike.calls⟩

/-- Runs that find the counters of both engines in opposite places report the same. -/
theorem surveys_of_discovered
    (counters : ∀ {one other}, alike one other →
      SameCounters root (platform.files one) (elsewhere.files other))
    {world : World} {other : Other} (related : alike world other) {first : Moment World}
    {start : Moment Other} {rest : List (Moment World)} {others : List (Moment Other)}
    (together : List.Forall₂ (Moment.InStep alike) (first :: rest) (start :: others))
    {paths : EnginePaths}
    (found : (discover root (platform.files (first.drift world))).1 = some paths)
    (opposite : (discover root (elsewhere.files (start.drift other))).1 = some paths.swap) :
    List.Forall₂ (Survey.SameReport platform elsewhere)
      ((Probe.new root).surveys platform world (first :: rest))
      ((Probe.new root).surveys elsewhere other (start :: others)) := by
  obtain ⟨step, later⟩ := List.forall₂_cons.mp together
  have still := step.drift related
  have confined := eq_residencyPath_of_discover found
  -- Both tiers start from the same residencies, read at the same time.
  have baselines := ResidencyTier.start_congr
    (fun path member => (counters still).agreeAt (confined path member)) first.now
  rw [step.now] at baselines
  have decided := Probe.sample_of_discovered found first.now
  have mirrored := Probe.sample_of_discovered opposite start.now
  rw [step.now, baselines] at decided
  -- Neither first measurement has a load, or calls the machine.
  refine .cons ⟨?_, ?_⟩ ?_
  · show ((Probe.new root).sample first.now platform _).load =
      ((Probe.new root).sample start.now elsewhere _).load
    rw [step.now, decided, mirrored]
  · show ((Probe.new root).sample first.now platform _).calls =
      ((Probe.new root).sample start.now elsewhere _).calls
    rw [step.now, decided, mirrored]
  · show List.Forall₂ _
      (Probe.surveys platform ((Probe.new root).sample first.now platform _).probe
        ((Probe.new root).sample first.now platform _).world rest)
      (Probe.surveys elsewhere ((Probe.new root).sample start.now elsewhere _).probe
        ((Probe.new root).sample start.now elsewhere _).world others)
    rw [step.now, decided, mirrored]
    exact surveys_of_swap counters later confined still

/-- A machine whose first engine is named as the render engine and one whose first engine is named
as the media engine, with the same counters and the same registers at any times, have the same load
in every measurement, although each engine of the one is the other engine of the other.

The counters may be missing, unreadable or malformed and come and go; if those of the first engine
cannot be opened at the start, or the names cannot be read, both machines are measured by
registers. -/
theorem loads_blind_to_naming
    (registers : platform.SameRegisters elsewhere alike)
    (counters : ∀ {one other}, alike one other →
      SameCounters root (platform.files one) (elsewhere.files other))
    {world : World} {other : Other} (related : alike world other)
    {first : Moment World} {start : Moment Other} {rest : List (Moment World)}
    {others : List (Moment Other)}
    (together : List.Forall₂ (Moment.InStep alike) (first :: rest) (start :: others))
    (names : OppositeNames root (platform.files (first.drift world))
      (elsewhere.files (start.drift other))) :
    (discover root (elsewhere.files (start.drift other))).1 =
        (discover root (platform.files (first.drift world))).1.map EnginePaths.swap ∧
      List.Forall₂ (Survey.SameReport platform elsewhere)
        ((Probe.new root).surveys platform world (first :: rest))
        ((Probe.new root).surveys elsewhere other (start :: others)) := by
  have step := (List.forall₂_cons.mp together).1
  have opposite := discover_of_oppositeNames (counters (step.drift related)) names
  refine ⟨opposite, ?_⟩
  -- Only the first measurement looks for counters, and it finds them on both machines or on none.
  cases found : (discover root (platform.files (first.drift world))).1 with
  | none =>
    rw [found] at opposite
    exact surveys_of_undiscovered registers related together found opposite
  | some paths =>
    rw [found] at opposite
    exact surveys_of_discovered counters related together found opposite

end Runs

/-- The files of a tile with a name, and with what the counters of its engines hold if they are
there. -/
def namedTile (name : String) (first second : Option String) : FileTree := fun path =>
  if path = residencyPath ["tile0"] "gt0" then first.map fun text => .file text.toUTF8
  else if path = residencyPath ["tile0"] "gt1" then second.map fun text => .file text.toUTF8
  else if path = namePath ["tile0"] then some (.file name.toUTF8)
  else none

/-- Whatever they are called, such tiles show the same counters. -/
theorem sameCounters_namedTile (name other : String) (first second : Option String) :
    SameCounters ["tile0"] (namedTile name first second) (namedTile other first second) :=
  ⟨rfl, rfl⟩

/-- Simulated machines on one CPU with one script and the same counters have the same registers. -/
theorem sameRegisters_of_sameCounters :
    Simulated.platform.SameRegisters Simulated.platform fun one other =>
      (one.cpu = other.cpu ∧ one.script = other.script) ∧
        SameCounters ["tile0"] one.files other.files := by
  have files (cpu : Nat) (address : UInt32) (world : Simulated) :
      (Simulated.readRegister cpu address world).2.files = world.files := by
    unfold Simulated.readRegister
    split <;> rfl
  -- The relation is the one for registers, and the counters have to survive the readings.
  have same := Simulated.sameRegisters
  exact
    { currentCpu := fun related => same.currentCpu related.1
      register := fun related => same.register related.1
      readRegister := by
        intro one other related cpu address
        refine ⟨same.readRegister related.1 cpu address, ?_⟩
        -- Reading a register leaves the files alone.
        show SameCounters _ (Simulated.readRegister cpu address one).2.files
          (Simulated.readRegister cpu address other).2.files
        rw [files, files]
        exact related.2 }

/-- Of two engines the second one cannot be read a second after the start and the first one holds no
number a second later; whichever of them is the render engine, the loads are the same. -/
theorem loads_blind_to_naming_gaps :
    let moments (name : String) : List (Moment Simulated) :=
      [(0, some "0", some "0"), (1000, some "100", none), (2000, some "x", some "500"),
          (3000, some "1100", some "600")].map fun (now, first, second) =>
        ⟨now, fun world => { world with files := namedTile name first second }⟩
    let surveys (name : String) : List (Survey Simulated) :=
      (Probe.new ["tile0"]).surveys Simulated.platform { files := fun _ => none } (moments name)
    (discover ["tile0"] (namedTile "gt0-mc6" (some "0") (some "0"))).1 =
        (discover ["tile0"] (namedTile "gt0-rc6" (some "0") (some "0"))).1.map EnginePaths.swap ∧
      (surveys "gt0-rc6").map (Survey.load Simulated.platform) =
        [none, some (.clamp 9000), some (.clamp 5000), some (.clamp 9000)] ∧
      List.Forall₂ (Survey.SameReport Simulated.platform Simulated.platform) (surveys "gt0-rc6")
        (surveys "gt0-mc6") := by
  intro moments surveys
  have together : List.Forall₂ (Moment.InStep fun one other : Simulated =>
      (one.cpu = other.cpu ∧ one.script = other.script) ∧
        SameCounters ["tile0"] one.files other.files) (moments "gt0-rc6") (moments "gt0-mc6") := by
    -- At each moment both tiles come to show the same, each under its own name.
    refine .cons ⟨rfl, ?_⟩ (.cons ⟨rfl, ?_⟩ (.cons ⟨rfl, ?_⟩ (.cons ⟨rfl, ?_⟩ .nil))) <;>
      exact fun related => ⟨related.1, sameCounters_namedTile _ _ _ _⟩
  have names : OppositeNames ["tile0"] (namedTile "gt0-rc6" (some "0") (some "0"))
      (namedTile "gt0-mc6" (some "0") (some "0")) :=
    ⟨"6".toUTF8, "6".toUTF8, rfl, rfl, Iff.rfl⟩
  obtain ⟨opposite, same⟩ := loads_blind_to_naming sameRegisters_of_sameCounters
    (fun related => related.2) ⟨⟨rfl, rfl⟩, rfl, rfl⟩ together names
  exact ⟨opposite, by decide +kernel, same⟩

end Graphics

end PowerGovernor
