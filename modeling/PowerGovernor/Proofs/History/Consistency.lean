import Mathlib.Algebra.BigOperators.Group.List.Lemmas
import Mathlib.Algebra.Group.Action.Defs
import Mathlib.Algebra.Order.BigOperators.Group.List
import Mathlib.Algebra.Order.Group.Nat
import Mathlib.Data.List.MinMax
import PowerGovernor.Proofs.History.Window

/-! The statistics of a history agree with its snapshots and with each other: the tally of the modes
with the changes between them, the means with the readings, and the peak with the mean. -/

namespace PowerGovernor

/-- A mean that fits the readings: their sum divided by their number, rounded down, and no further
from them than the least and the largest one. -/
structure MeanFits (readings : List Reading) (mean : Reading) : Prop where
  /-- The mean is missing exactly if no reading is known. -/
  missing : mean = none ↔ ∀ load, some load ∉ readings
  /-- The mean is the sum of the known readings by their number. -/
  quotient : ∀ load, mean = some load →
    load.value = ((readings.filterMap id).map BasisPoints.value).sum /
      (readings.filterMap id).length
  /-- The mean lies between two of the readings that bound all of them. -/
  between : ∀ load, mean = some load →
    ∃ least largest, some least ∈ readings ∧ some largest ∈ readings ∧
      (∀ other, some other ∈ readings → least ≤ other ∧ other ≤ largest) ∧
      least ≤ load ∧ load ≤ largest

/-- What the statistics of snapshots say fits together. -/
structure Statistics.Consistent (snapshots : List Snapshot) (statistics : Statistics) : Prop where
  /-- Every snapshot counts as a poll. -/
  polls : statistics.polls = snapshots.length
  /-- No mode has two entries in the tally. -/
  nodup : (statistics.modePolls.map Prod.fst).Nodup
  /-- The modes in the tally are those that occur. -/
  modes : ∀ mode, mode ∈ statistics.modePolls.map Prod.fst ↔
    ∃ snapshot ∈ snapshots, snapshot.mode = mode
  /-- The tally says of each mode how often it occurs. -/
  occurrences : ∀ mode polls, (mode, polls) ∈ statistics.modePolls →
    polls = (snapshots.map Snapshot.mode).count mode
  /-- The polls of all modes are all polls. -/
  total : (statistics.modePolls.map Prod.snd).sum = statistics.polls
  /-- The mode changes between two polls at most once. -/
  transitions_le : statistics.transitions ≤ statistics.polls - 1
  /-- Every mode but the first takes a change to get to. -/
  distinct_le : (snapshots.map Snapshot.mode).dedup.length ≤ statistics.transitions + 1
  /-- Nothing changes exactly if there is one mode only. -/
  steady : statistics.transitions = 0 ↔ (snapshots.map Snapshot.mode).dedup.length = 1
  /-- The mean system load fits the readings. -/
  averageSystem : MeanFits (snapshots.map Snapshot.system) statistics.averageSystem
  /-- The mean CPU load fits the readings. -/
  averageCpu : MeanFits (snapshots.map Snapshot.cpu) statistics.averageCpu
  /-- The mean graphics load fits the readings. -/
  averageGfx : MeanFits (snapshots.map Snapshot.gfx) statistics.averageGfx
  /-- There is a peak exactly if there is a mean. -/
  peak_missing : statistics.peakCpu = none ↔ statistics.averageCpu = none
  /-- The peak is one of the readings. -/
  peak_reached : ∀ peak, statistics.peakCpu = some peak → some peak ∈ snapshots.map Snapshot.cpu
  /-- The mean does not exceed the peak. -/
  average_le_peak : ∀ average peak, statistics.averageCpu = some average →
    statistics.peakCpu = some peak → average ≤ peak

section Means

variable {readings : List Reading}

/-- A load is among the known readings if it is a reading. -/
theorem mem_known_iff {load : BasisPoints} : load ∈ readings.filterMap id ↔ some load ∈ readings := by
  simp [List.mem_filterMap]

/-- No reading is known exactly if no load is a reading. -/
theorem known_eq_nil_iff : readings.filterMap id = [] ↔ ∀ load, some load ∉ readings := by
  simp [List.eq_nil_iff_forall_not_mem]

/-- A mean is reached by what bounds all readings from above, and reaches what bounds all of them
from below. -/
theorem IsMean.bounds {mean least largest : BasisPoints} (isMean : IsMean readings (some mean))
    (bounds : ∀ other, some other ∈ readings → least ≤ other ∧ other ≤ largest) :
    least ≤ mean ∧ mean ≤ largest := by
  obtain - | ⟨nonempty, reached, most⟩ := isMean
  have positive := List.length_pos_iff.mpr nonempty
  have each : ∀ value ∈ (readings.filterMap id).map BasisPoints.value,
      least.value ≤ value ∧ value ≤ largest.value := by
    intro value member
    obtain ⟨load, known, rfl⟩ := List.mem_map.mp member
    exact bounds load (mem_known_iff.mp known)
  -- As many bounds as there are readings lie on both sides of the sum.
  have below := List.card_nsmul_le_sum _ least.value fun value member => (each value member).1
  have above := List.sum_le_card_nsmul _ largest.value fun value member => (each value member).2
  rw [List.length_map, smul_eq_mul, Nat.mul_comm] at below above
  exact ⟨Nat.le_of_lt_succ (Nat.lt_of_mul_lt_mul_right (Nat.lt_of_le_of_lt below most)),
    Nat.le_of_mul_le_mul_right (Nat.le_trans reached above) positive⟩

/-- Among readings of which one is known there are two that bound all others. -/
theorem exists_bounds (nonempty : readings.filterMap id ≠ []) :
    ∃ least largest, some least ∈ readings ∧ some largest ∈ readings ∧
      ∀ other, some other ∈ readings → least ≤ other ∧ other ≤ largest := by
  -- A list that is not empty has a least and a largest member.
  obtain ⟨least, low⟩ := Option.ne_none_iff_exists'.mp
    fun none => nonempty (List.argmin_eq_none (f := BasisPoints.value).mp none)
  obtain ⟨largest, high⟩ := Option.ne_none_iff_exists'.mp
    fun none => nonempty (List.argmax_eq_none (f := BasisPoints.value).mp none)
  refine ⟨least, largest, mem_known_iff.mp (List.argmin_mem low),
    mem_known_iff.mp (List.argmax_mem high), fun other reading => ?_⟩
  have known := mem_known_iff.mpr reading
  exact ⟨List.le_of_mem_argmin known low, List.le_of_mem_argmax known high⟩

/-- The mean of readings fits them. -/
theorem IsMean.fits {mean : Reading} (isMean : IsMean readings mean) : MeanFits readings mean := by
  cases isMean with
  | unknown silent => exact ⟨iff_of_true rfl (known_eq_nil_iff.mp silent), by simp, by simp⟩
  | known nonempty reached most =>
    -- There are readings, so two of them bound all others and the mean with them.
    obtain ⟨least, largest, one, other, bounds⟩ := exists_bounds nonempty
    have between := (IsMean.known nonempty reached most).bounds bounds
    refine ⟨iff_of_false (by simp) fun silent => nonempty (known_eq_nil_iff.mpr silent), ?_, ?_⟩
    · intro load same
      cases same
      exact (Nat.div_eq_of_lt_le reached most).symm
    · intro load same
      cases same
      exact ⟨least, largest, one, other, bounds, between⟩

end Means

/-- There is a peak exactly if a reading is known. -/
theorem IsPeak.eq_none_iff {readings : List Reading} {peak : Reading}
    (isPeak : IsPeak readings peak) : peak = none ↔ ∀ load, some load ∉ readings := by
  -- A peak is a reading itself.
  cases isPeak with
  | unknown silent => exact iff_of_true rfl silent
  | known reached => exact iff_of_false (by simp) fun silent => silent _ reached

/-- The mean does not exceed the peak. -/
theorem IsMean.le_peak {readings : List Reading} {mean peak : BasisPoints}
    (isMean : IsMean readings (some mean)) (isPeak : IsPeak readings (some peak)) :
    mean ≤ peak := by
  -- All readings lie between nothing and the peak, and so does their mean.
  obtain - | ⟨-, largest⟩ := isPeak
  exact (isMean.bounds fun other reading =>
    ⟨BasisPoints.zero_le other, largest other reading⟩).2

section Changes

/-- A first mode is a change more if it differs from the one behind it. -/
theorem countChanges_cons_cons (first second : Mode) (rest : List Mode) :
    countChanges (first :: second :: rest) =
      countChanges (second :: rest) + if first = second then 0 else 1 := by
  -- The first two modes are a pair of neighbours more.
  simp only [countChanges, List.tail_cons, List.zip_cons_cons, List.countP_cons]
  by_cases same : first = second <;> simp [same]

/-- There is at most one change behind each mode but the last. -/
theorem countChanges_le (modes : List Mode) : countChanges modes ≤ modes.length - 1 := by
  -- Changes are counted among the pairs of neighbours.
  have places : (modes.zip modes.tail).length = modes.length - 1 := by
    rw [List.length_zip, List.length_tail]
    omega
  exact places ▸ List.countP_le_length

/-- Every mode but the first takes a change to get to. -/
theorem length_dedup_le_countChanges (modes : List Mode) :
    modes.dedup.length ≤ countChanges modes + 1 := by
  -- Modes are added at the front, where at most one change is added with them.
  induction modes with
  | nil => simp
  | cons first rest ih =>
    cases rest with
    | nil => simp
    | cons second rest =>
      rw [countChanges_cons_cons]
      -- A mode that is not new is counted already, and a new one differs from its neighbour.
      by_cases known : first ∈ second :: rest
      · rw [List.dedup_cons_of_mem known]
        omega
      · have new : first ≠ second := fun same => known (same ▸ List.mem_cons_self)
        rw [List.dedup_cons_of_notMem known, List.length_cons, if_neg new]
        omega

/-- Nothing changes exactly if there is one mode only. -/
theorem countChanges_eq_zero_iff {modes : List Mode} (nonempty : modes ≠ []) :
    countChanges modes = 0 ↔ modes.dedup.length = 1 := by
  constructor
  · intro steady
    -- There is a mode, and without a change there is no second one.
    have most := length_dedup_le_countChanges modes
    have least := List.length_pos_iff.mpr (mt (List.dedup_eq_nil modes).mp nonempty)
    omega
  · intro single
    obtain ⟨only, listed⟩ := List.length_eq_one_iff.mp single
    have same : ∀ mode ∈ modes, mode = only := fun mode member => by
      simpa [listed] using List.mem_dedup.mpr member
    -- Both neighbours at any place are the only mode.
    refine List.countP_eq_zero.mpr fun pair member => ?_
    have neighbours := List.of_mem_zip (a := pair.1) (b := pair.2) member
    simp [same _ neighbours.1, same _ (List.mem_of_mem_tail neighbours.2)]

end Changes

section Tallying

variable {occurrences : Mode → Nat} {tally : List (Mode × Nat)}

/-- The modes in a tally are those that occur. -/
theorem Tallies.mem_modes_iff (tallies : Tallies occurrences tally) {mode : Mode} :
    mode ∈ tally.map Prod.fst ↔ 0 < occurrences mode := by
  rw [List.mem_map]
  constructor
  · -- Only modes that occur are tallied at all.
    intro listed
    obtain ⟨⟨other, count⟩, member, rfl⟩ := listed
    obtain ⟨positive, rfl⟩ := (tallies.counts other count).mp member
    exact positive
  · intro positive
    exact ⟨(mode, occurrences mode), (tallies.counts _ _).mpr ⟨positive, rfl⟩, rfl⟩

/-- No mode has two entries in a tally. -/
theorem Tallies.nodup_modes (tallies : Tallies occurrences tally) :
    (tally.map Prod.fst).Nodup := by
  -- The modes of a tally ascend.
  refine List.pairwise_map.mpr (tallies.ascending.imp ?_)
  intro one other below same
  exact Nat.lt_irrefl _ (same ▸ below)

/-- The counts in a tally add up to the number of occurrences. -/
theorem Tallies.sum_counts {modes : List Mode}
    (tallies : Tallies (fun mode => modes.count mode) tally) :
    (tally.map Prod.snd).sum = modes.length := by
  -- The tally has an entry for each mode, in another order than that of the occurrences.
  have entries : (tally.map Prod.fst).Perm modes.dedup := by
    refine (List.perm_ext_iff_of_nodup tallies.nodup_modes modes.nodup_dedup).mpr fun mode => ?_
    rw [tallies.mem_modes_iff, List.mem_dedup, List.count_pos_iff]
  have counts : tally.map Prod.snd = (tally.map Prod.fst).map modes.count := by
    rw [List.map_map]
    exact List.map_congr_left fun entry member => ((tallies.counts _ _).mp member).2
  rw [counts, (entries.map _).sum_eq, List.sum_map_count_dedup_eq_length]

end Tallying

namespace Statistics

variable {snapshots : List Snapshot} {statistics : Statistics}

/-- The transitions are the changes of the mode. -/
theorem Summarizes.changes (summary : Summarizes snapshots statistics) :
    statistics.transitions = countChanges (snapshots.map Snapshot.mode) := by
  rw [summary.transitions, countChanges_eq, List.length_map]

/-- Statistics that summarize snapshots fit together. -/
theorem Summarizes.consistent (summary : Summarizes snapshots statistics)
    (enough : 2 ≤ snapshots.length) : statistics.Consistent snapshots where
  polls := summary.polls
  nodup := summary.modePolls.nodup_modes
  modes mode := by
    rw [summary.modePolls.mem_modes_iff, List.count_pos_iff, List.mem_map]
  occurrences mode polls member := ((summary.modePolls.counts mode polls).mp member).2
  total := by
    rw [summary.modePolls.sum_counts, List.length_map, summary.polls]
  transitions_le := by
    rw [summary.changes, summary.polls, ← List.length_map Snapshot.mode]
    exact countChanges_le _
  distinct_le := summary.changes ▸ length_dedup_le_countChanges _
  steady := by
    rw [summary.changes]
    refine countChanges_eq_zero_iff fun none => ?_
    rw [List.map_eq_nil_iff.mp none] at enough
    exact absurd enough (by decide)
  averageSystem := summary.averageSystem.fits
  averageCpu := summary.averageCpu.fits
  averageGfx := summary.averageGfx.fits
  peak_missing := summary.peakCpu.eq_none_iff.trans summary.averageCpu.fits.missing.symm
  peak_reached peak found := by
    obtain - | ⟨reached, -⟩ := found ▸ summary.peakCpu
    exact reached
  average_le_peak average peak mean top :=
    (mean ▸ summary.averageCpu).le_peak (top ▸ summary.peakCpu)

end Statistics

namespace History

/-- Of two snapshots or more there are statistics, and what they say fits together.

The tally has an entry for exactly the modes that occur, with the number of times that they do, and
these numbers add up to all polls. There are fewer transitions than polls, at least as many as it
takes to get from one mode to all others, and none exactly if there is one mode only. Each mean is
the quotient of the known readings, between the least and the largest of them, and missing if there
are none; so is the peak, which is one of the readings and no smaller than the mean. -/
theorem statistics_consistent (history : History) (enough : 2 ≤ history.size) :
    ∃ statistics, history.statistics? = some statistics ∧
      statistics.Consistent history.toList := by
  rw [← length_toList] at enough
  -- Two snapshots are enough for statistics, and all statistics summarize their snapshots.
  obtain ⟨statistics, found⟩ := Option.ne_none_iff_exists'.mp
    (mt Statistics.ofSnapshots?_eq_none_iff.mp (Nat.not_lt.mpr enough))
  exact ⟨statistics, found, (Statistics.summarizes_of_ofSnapshots? found).consistent enough⟩

/-- A mode that is left and found again takes two changes, and a missing reading weighs nothing. -/
theorem statistics_consistent_return :
    let snapshot (cpu : Reading) (mode : Mode) : Snapshot := ⟨0, none, cpu, none, none, mode⟩
    let history := recordAll [snapshot (some (.clamp 1000)) (.state 1), snapshot none (.state 1),
      snapshot (some (.clamp 2001)) .lowPower, snapshot none (.state 1)]
    2 ≤ history.size ∧ ∃ statistics, history.statistics? = some statistics ∧
      statistics.Consistent history.toList ∧ statistics.transitions = 2 ∧
      statistics.modePolls = [(.lowPower, 1), (.state 1, 3)] ∧
      statistics.averageCpu = some (.clamp 1500) := by
  intro snapshot history
  have enough : 2 ≤ history.size := by decide +kernel
  obtain ⟨statistics, found, consistent⟩ := statistics_consistent history enough
  -- The statistics can be computed from the four snapshots.
  have computed : history.statistics?.map (fun statistics => (statistics.transitions,
      statistics.modePolls, statistics.averageCpu)) =
      some (2, [(.lowPower, 1), (.state 1, 3)], some (.clamp 1500)) := by
    decide +kernel
  rw [found, Option.map_some, Option.some.injEq, Prod.mk.injEq, Prod.mk.injEq] at computed
  exact ⟨enough, statistics, found, consistent, computed⟩

end History

end PowerGovernor
