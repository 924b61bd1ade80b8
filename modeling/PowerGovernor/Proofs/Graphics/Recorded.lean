import PowerGovernor.Graphics.Probe
import PowerGovernor.Platform.Simulated
import PowerGovernor.Proofs.Graphics.Period

/-! The residency counters over a run of measurements, with what the probe remembers of them. -/

namespace PowerGovernor.Graphics

/-- What the counter at a path shows, if there is one that can be read. -/
def shown (path : Option Path) (files : FileTree) : Option Nat :=
  ({ path, last := none } : ResidencyCounter).read? files

/-- A measurement of the counters at the given paths. -/
def EnginePaths.look (paths : EnginePaths) (now : Nat) (files : FileTree) : Glance :=
  ⟨now, shown paths.render files, shown paths.media files⟩

/-- What remains beside the residency of a time that is not empty is the busy share. -/
theorem complementOfRatio_eq_busyOver (idle : Nat) {elapsed : Nat} (positive : 0 < elapsed) :
    BasisPoints.complementOfRatio idle elapsed = busyOver idle elapsed := by
  -- Only a time that is empty has a share of its own.
  have filled : elapsed ≠ 0 := Nat.ne_of_gt positive
  simp [BasisPoints.complementOfRatio, BasisPoints.ratio, filled, BasisPoints.idleShare, busyOver,
    Nat.min_comm]

/-- What a counter shows does not depend on its baseline. -/
theorem read?_eq_shown (counter : ResidencyCounter) (files : FileTree) :
    counter.read? files = shown counter.path files := rfl

/-- A counter keeps its baseline until it shows another value. -/
theorem update_counter (path : Option Path) (last : Option Nat) (files : FileTree)
    (elapsed : Nat) (label : String) :
    (ResidencyCounter.update ⟨path, last⟩ files elapsed label).1 =
      ⟨path, (shown path files).or last⟩ := by
  -- The counter shows a value, which becomes the baseline, or it does not.
  unfold ResidencyCounter.update
  rw [read?_eq_shown]
  cases shown path files <;> rfl

/-- The load of an engine is the busy share that its growth since the baseline leaves. -/
theorem update_load (path : Option Path) (last : Option Nat) (files : FileTree)
    {elapsed : Nat} (positive : 0 < elapsed) (label : String) :
    (ResidencyCounter.update ⟨path, last⟩ files elapsed label).2.1 =
      (shown path files).bind fun value => last.map fun last =>
        busyOver (value - last) elapsed := by
  -- Without a value there is nothing to compare, and without a baseline nothing to compare it with.
  unfold ResidencyCounter.update
  rw [read?_eq_shown]
  cases shown path files with
  | none => rfl
  | some value => simp only [complementOfRatio_eq_busyOver _ positive, Option.bind_some]

/-- The engines' counters after a history of measurements, each with its own last reading, and the
time of the latest measurement as the start of the next one. -/
def EnginePaths.tierAfter (paths : EnginePaths) (latest : Glance) (earlier : List Glance) :
    ResidencyTier where
  render := ⟨paths.render, (lastShown Glance.render (latest :: earlier)).map Prod.snd⟩
  media := ⟨paths.media, (lastShown Glance.media (latest :: earlier)).map Prod.snd⟩
  measured := latest.time

/-- The first measurement leaves the baselines that it reads. -/
theorem start_eq_tierAfter (paths : EnginePaths) (files : FileTree) (now : Nat) :
    ResidencyTier.start paths files now = paths.tierAfter (paths.look now files) [] := by
  unfold EnginePaths.tierAfter
  -- There are no earlier readings to fall back on.
  rw [lastShown_value, lastShown_value]
  simp only [lastShown, List.findSome?_nil, Option.map_none, Option.or_none]
  rfl

/-- A measurement at the time of the latest one changes nothing and reports nothing. -/
theorem sample_at_latest (paths : EnginePaths) (latest : Glance) (earlier : List Glance)
    (files : FileTree) :
    (paths.tierAfter latest earlier).sample files latest.time =
      (paths.tierAfter latest earlier, none, []) := by
  -- A time of zero is never divided by.
  simp [ResidencyTier.sample, EnginePaths.tierAfter]

/-- A measurement after some time updates both engines for that time. -/
theorem sample_of_passed (tier : ResidencyTier) (files : FileTree) {now : Nat}
    (passed : tier.measured < now) :
    tier.sample files now =
      let render := tier.render.update files (now - tier.measured) "GFX"
      let media := tier.media.update files (now - tier.measured) "SAM"
      (⟨render.1, media.1, now⟩, render.2.1.larger media.2.1, render.2.2 ++ media.2.2) := by
  -- Both engines are updated, one after the other.
  unfold ResidencyTier.sample
  rw [if_neg (Nat.sub_ne_zero_of_lt passed)]

/-- A later measurement becomes part of the history and reports the load over the time since the
latest measurement. -/
theorem sample_after_latest (paths : EnginePaths) {latest : Glance} (earlier : List Glance)
    (files : FileTree) {now : Nat} (passed : latest.time < now) :
    ((paths.tierAfter latest earlier).sample files now).1 =
        paths.tierAfter (paths.look now files) (latest :: earlier) ∧
      ((paths.tierAfter latest earlier).sample files now).2.1 =
        sharedLoad latest earlier (paths.look now files) := by
  have positive : 0 < now - latest.time := Nat.sub_pos_of_lt passed
  rw [sample_of_passed (paths.tierAfter latest earlier) files passed]
  unfold EnginePaths.tierAfter
  constructor
  · -- Each counter falls back on its own last reading if it cannot be read.
    rw [lastShown_value _ (paths.look now files), lastShown_value _ (paths.look now files)]
    simp only [update_counter]
    rfl
  · -- Both engines have grown over the same time, which is the one since the latest measurement.
    simp only [update_load _ _ _ positive, Option.map_map]
    rfl

variable {World : Type} {platform : Platform World} {root : Path} {probe : Probe}
  {paths : EnginePaths}

/-- A probe that found the counters of a tile, with what it has read from them at one measurement
after another, the latest first. A measurement at the time of the latest one reads nothing. -/
inductive Recorded (platform : Platform World) (root : Path) :
    Probe → EnginePaths → List Glance → Prop
  | discovered {now : Nat} {world : World} {paths : EnginePaths} {notes : List Note}
      (found : discover root (platform.files world) = (some paths, notes)) :
      Recorded platform root ((Probe.new root).sample now platform world).probe paths
        [paths.look now (platform.files world)]
  | again {probe : Probe} {paths : EnginePaths} {latest : Glance} {earlier : List Glance}
      (recorded : Recorded platform root probe paths (latest :: earlier)) (world : World) :
      Recorded platform root (probe.sample latest.time platform world).probe paths
        (latest :: earlier)
  | later {probe : Probe} {paths : EnginePaths} {latest : Glance} {earlier : List Glance}
      (recorded : Recorded platform root probe paths (latest :: earlier)) {now : Nat}
      (passed : latest.time < now) (world : World) :
      Recorded platform root (probe.sample now platform world).probe paths
        (paths.look now (platform.files world) :: latest :: earlier)

/-- The first measurement chooses the counters that it finds, and reports no load. -/
theorem sample_discovered {now : Nat} {world : World} {notes : List Note}
    (found : discover root (platform.files world) = (some paths, notes)) :
    ((Probe.new root).sample now platform world).probe =
        ⟨root, .residency (paths.tierAfter (paths.look now (platform.files world)) [])⟩ ∧
      ((Probe.new root).sample now platform world).load = none := by
  -- There is nothing to compare the first readings with.
  simp only [Probe.sample, Probe.new, found, start_eq_tierAfter, and_self]

/-- A probe with counters is measured by its counters. -/
theorem sample_residency (tier : ResidencyTier) (now : Nat) (world : World) :
    (Probe.sample ⟨root, .residency tier⟩ now platform world).probe =
        ⟨root, .residency (tier.sample (platform.files world) now).1⟩ ∧
      (Probe.sample ⟨root, .residency tier⟩ now platform world).load =
        (tier.sample (platform.files world) now).2.1 :=
  ⟨rfl, rfl⟩

/-- A probe remembers the last reading of each engine and the time of the latest measurement. -/
theorem Recorded.remembers {history : List Glance}
    (recorded : Recorded platform root probe paths history) :
    ∃ latest earlier, history = latest :: earlier ∧ Ordered history ∧
      probe = ⟨root, .residency (paths.tierAfter latest earlier)⟩ := by
  induction recorded with
  -- The memory is kept through every way in which a history grows.
  | discovered found =>
    exact ⟨_, _, rfl, List.pairwise_singleton _ _, (sample_discovered found).1⟩
  | again recorded world ih =>
    -- No time has passed, so nothing was read.
    obtain ⟨latest, earlier, same, ordered, rfl⟩ := ih
    cases same
    refine ⟨_, _, rfl, ordered, ?_⟩
    rw [(sample_residency _ _ _).1, sample_at_latest]
  | later recorded passed world ih =>
    -- Time has passed, so the measurement is recorded.
    obtain ⟨latest, earlier, same, ordered, rfl⟩ := ih
    cases same
    refine ⟨_, _, rfl, List.pairwise_cons.mpr ⟨?_, ordered⟩, ?_⟩
    · -- Every earlier measurement is at most as late as the latest one.
      intro glance member
      rcases List.mem_cons.mp member with rfl | before
      · exact passed
      · exact Nat.lt_trans (List.rel_of_pairwise_cons ordered before) passed
    · rw [(sample_residency _ _ _).1, (sample_after_latest _ _ _ passed).1]

/-- A probe with counters reports the growth of each engine's counter since its own last reading
over the time since the latest measurement. That never makes the machine look busier than it was
since those readings, and is right for whatever is measured next exactly if every counter that
could ever be read could also be read at the latest measurement. -/
theorem sample_load_fair_iff_unbroken {latest : Glance} {earlier : List Glance}
    (recorded : Recorded platform root probe paths (latest :: earlier)) :
    (∀ world, (probe.sample latest.time platform world).load = none) ∧
    (∀ now world, latest.time < now → (probe.sample now platform world).load =
      sharedLoad latest earlier (paths.look now (platform.files world))) ∧
    (∀ glance : Glance, latest.time < glance.time →
      Option.Rel (· ≤ ·) (sharedLoad latest earlier glance)
        (fairLoad (latest :: earlier) glance)) ∧
    ((∀ glance : Glance, latest.time < glance.time →
        sharedLoad latest earlier glance = fairLoad (latest :: earlier) glance) ↔
      Unbroken Glance.render latest earlier ∧ Unbroken Glance.media latest earlier) := by
  -- Everything the probe knows is in its history, so the claims are about histories only.
  obtain ⟨_, _, same, ordered, rfl⟩ := recorded.remembers
  cases same
  refine ⟨?_, ?_, ?_, sharedLoad_eq_fairLoad_iff ordered⟩
  · intro world
    rw [(sample_residency _ _ _).2, sample_at_latest]
  · intro now world passed
    rw [(sample_residency _ _ _).2, (sample_after_latest _ _ _ passed).2]
  · intro glance passed
    exact sharedLoad_le_fairLoad ordered passed

/-- The files of a tile whose first engine is the render engine, with what its counter holds. -/
def tileFiles (counter : Option String) : FileTree := fun path =>
  if path = residencyPath ["tile0"] "gt0" then counter.map fun text => .file text.toUTF8
  else if path = namePath ["tile0"] then some (.file "gt0-rc6".toUTF8)
  else none

/-- A machine with such a tile. -/
def tile (counter : Option String) : Simulated := { files := tileFiles counter }

/-- The only counter of such a tile is the one of the render engine. -/
def tilePaths : EnginePaths := ⟨some (residencyPath ["tile0"] "gt0"), none⟩

/-- Whatever the counter holds a second after it held zero, both measurements are recorded. -/
theorem recorded_tile (second : Option String) :
    ∃ probe, Recorded Simulated.platform ["tile0"] probe tilePaths
      [tilePaths.look 1000 (tileFiles second), ⟨0, some 0, none⟩] := by
  -- The tile is found whatever is noted about it.
  have found : discover ["tile0"] (tileFiles (some "0")) =
      (some tilePaths, (discover ["tile0"] (tileFiles (some "0"))).2) :=
    Prod.ext (by decide +kernel) rfl
  have first : Recorded Simulated.platform ["tile0"]
      ((Probe.new ["tile0"]).sample 0 Simulated.platform (tile (some "0"))).probe tilePaths
      [tilePaths.look 0 (tileFiles (some "0"))] := .discovered found
  have zero : tilePaths.look 0 (tileFiles (some "0")) = ⟨0, some 0, none⟩ := by decide +kernel
  rw [zero] at first
  exact ⟨_, .later first (by decide) (tile second)⟩

/-- A counter that was readable at two measurements is measured fairly from then on. -/
theorem sample_load_readable_tile : ∃ probe,
    Recorded Simulated.platform ["tile0"] probe tilePaths
      [⟨1000, some 400, none⟩, ⟨0, some 0, none⟩] ∧
    ∀ now world, 1000 < now → (probe.sample now Simulated.platform world).load =
      fairLoad [⟨1000, some 400, none⟩, ⟨0, some 0, none⟩] (tilePaths.look now world.files) := by
  obtain ⟨probe, recorded⟩ := recorded_tile (some "400")
  have second : tilePaths.look 1000 (tileFiles (some "400")) = ⟨1000, some 400, none⟩ := by
    decide +kernel
  rw [second] at recorded
  obtain ⟨_, shared, _, fair⟩ := sample_load_fair_iff_unbroken recorded
  refine ⟨probe, recorded, fun now world passed => ?_⟩
  -- The render engine was read at the latest measurement, and the media engine never.
  rw [shared now world passed]
  exact fair.mpr ⟨by simp [Unbroken], by simp [Unbroken]⟩ _ passed

/-- A counter that could not be read for a second and then shows a second of idleness is reported
as idle, although its engine was busy for half of the two seconds since its own last reading. -/
theorem sample_load_unreadable_tile : ∃ probe,
    Recorded Simulated.platform ["tile0"] probe tilePaths
      [⟨1000, none, none⟩, ⟨0, some 0, none⟩] ∧
    (probe.sample 2000 Simulated.platform (tile (some "1000"))).load = some .zero ∧
    fairLoad [⟨1000, none, none⟩, ⟨0, some 0, none⟩]
      (tilePaths.look 2000 (tileFiles (some "1000"))) = some (.clamp 5000) := by
  -- The recorded looks leave a single probe, and its next sample can be computed.
  obtain ⟨probe, recorded⟩ := recorded_tile none
  have second : tilePaths.look 1000 (tileFiles none) = ⟨1000, none, none⟩ := by decide +kernel
  rw [second] at recorded
  obtain ⟨_, _, same, _, rfl⟩ := recorded.remembers
  cases same
  refine ⟨_, recorded, ?_, by decide +kernel⟩
  rw [(sample_residency _ _ _).2]
  decide +kernel

end PowerGovernor.Graphics
