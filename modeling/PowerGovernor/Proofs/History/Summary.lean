import Mathlib.Algebra.GroupWithZero.Nat
import PowerGovernor.History.Statistics
import PowerGovernor.Proofs.Load.Generations

/-! What the statistics of snapshots say: means, the peak, changes between neighbours, and a
tally. -/

namespace PowerGovernor

/-- The mean of the known readings, rounded down; without any the mean is not known either. -/
inductive IsMean (readings : List Reading) : Reading → Prop
  /-- No reading is known. -/
  | unknown (silent : readings.filterMap id = []) : IsMean readings none
  /-- The readings add up to the mean for each of them, and not to one more. -/
  | known {mean : BasisPoints} (nonempty : readings.filterMap id ≠ [])
      (reached : mean.value * (readings.filterMap id).length ≤
        ((readings.filterMap id).map BasisPoints.value).sum)
      (largest : ((readings.filterMap id).map BasisPoints.value).sum <
        (mean.value + 1) * (readings.filterMap id).length) :
      IsMean readings (some mean)

/-- The largest of the known readings. -/
inductive IsPeak (readings : List Reading) : Reading → Prop
  /-- No reading is known. -/
  | unknown (silent : ∀ load, some load ∉ readings) : IsPeak readings none
  /-- One of the readings is the peak, and none is above it. -/
  | known {peak : BasisPoints} (reached : some peak ∈ readings)
      (largest : ∀ load, some load ∈ readings → load ≤ peak) : IsPeak readings (some peak)

/-- Whether the mode behind a place is another one than the mode at it. -/
def changesAt (modes : List Mode) (place : Nat) : Bool :=
  modes[place]? != modes[place + 1]?

/-- Entries for the modes in ascending order, each with the number of times that it occurs. -/
structure Tallies (occurrences : Mode → Nat) (tally : List (Mode × Nat)) : Prop where
  /-- The modes ascend. -/
  ascending : tally.Pairwise fun one other => one.1.rank < other.1.rank
  /-- Exactly the modes that occur have an entry, which says how often they do. -/
  counts : ∀ mode count, (mode, count) ∈ tally ↔ 0 < count ∧ count = occurrences mode

/-- What the statistics of snapshots say about them. -/
structure Statistics.Summarizes (snapshots : List Snapshot) (statistics : Statistics) : Prop where
  /-- Every snapshot counts as a poll. -/
  polls : statistics.polls = snapshots.length
  /-- The time from the first snapshot to the last one. -/
  elapsed : ∃ first last, snapshots.head? = some first ∧ snapshots.getLast? = some last ∧
    statistics.elapsed = last.time - first.time
  /-- The mean system load. -/
  averageSystem : IsMean (snapshots.map Snapshot.system) statistics.averageSystem
  /-- The mean CPU load. -/
  averageCpu : IsMean (snapshots.map Snapshot.cpu) statistics.averageCpu
  /-- The mean graphics load. -/
  averageGfx : IsMean (snapshots.map Snapshot.gfx) statistics.averageGfx
  /-- The largest CPU load. -/
  peakCpu : IsPeak (snapshots.map Snapshot.cpu) statistics.peakCpu
  /-- The number of places at which the mode changes. -/
  transitions : statistics.transitions =
    (List.range (snapshots.length - 1)).countP (changesAt (snapshots.map Snapshot.mode))
  /-- The number of snapshots in each mode. -/
  modePolls : Tallies (fun mode => (snapshots.map Snapshot.mode).count mode) statistics.modePolls

section Means

variable {readings : List Reading}

/-- No share is larger than the whole, so many of them come to as many wholes at most. -/
theorem sum_values_le (shares : List BasisPoints) :
    (shares.map BasisPoints.value).sum ≤ shares.length * fullScale := by
  induction shares with
  | nil => simp
  | cons share rest ih =>
    -- Each share adds one whole at most.
    have single := share.value_le
    rw [List.map_cons, List.sum_cons, List.length_cons, Nat.add_mul]
    omega

/-- The average is the mean. -/
theorem isMean_averageReading (readings : List Reading) :
    IsMean readings (averageReading readings) := by
  -- The sum is taken while the list is gone through.
  have total : (readings.filterMap id).foldl (fun sum share => sum + share.value) 0 =
      ((readings.filterMap id).map BasisPoints.value).sum := by
    rw [List.sum_eq_foldl, List.foldl_map]
  by_cases silent : readings.filterMap id = []
  · -- Without known readings there is no mean.
    simp only [averageReading, silent, List.isEmpty_nil, if_true]
    exact .unknown silent
  · have positive := List.length_pos_iff.mpr silent
    -- The mean is no larger than the whole, so nothing is cut off.
    have small := Nat.div_le_of_le_mul (sum_values_le (readings.filterMap id))
    have nonempty : ¬(readings.filterMap id).isEmpty = true := by simpa using silent
    simp only [averageReading, if_neg nonempty, total]
    refine .known silent ?_ ?_
    · rw [BasisPoints.value_clamp, Nat.min_eq_left small]
      exact Nat.div_mul_le_self _ _
    · rw [BasisPoints.value_clamp, Nat.min_eq_left small, Nat.mul_comm]
      exact Nat.lt_mul_div_succ _ positive

/-- There is one mean only. -/
theorem IsMean.unique {first second : Reading} (one : IsMean readings first)
    (other : IsMean readings second) : first = second := by
  -- Either both means are known or neither is.
  rcases one with silent | ⟨known, reached, largest⟩ <;>
    rcases other with silentToo | ⟨knownToo, reachedToo, largestToo⟩
  · rfl
  · exact absurd silent knownToo
  · exact absurd silentToo known
  · -- Neither mean can be larger than the other one.
    have below := Nat.lt_of_mul_lt_mul_right (Nat.lt_of_le_of_lt reached largestToo)
    have above := Nat.lt_of_mul_lt_mul_right (Nat.lt_of_le_of_lt reachedToo largest)
    refine congrArg some (BasisPoints.ext ?_)
    omega

end Means

section Peaks

variable {readings : List Reading}

/-- The larger of two readings is one of them. -/
theorem Reading.larger_eq_or (left right : Reading) :
    left.larger right = left ∨ left.larger right = right := by
  cases left with
  | none => exact .inr rfl
  | some one =>
    cases right with
    | none => exact .inl rfl
    | some other =>
      -- The maximum of two shares is defined by comparing them.
      show some (if one ≤ other then other else one) = some one ∨
        some (if one ≤ other then other else one) = some other
      split
      · exact .inr rfl
      · exact .inl rfl

/-- The largest of many readings is one of them. -/
theorem Reading.foldl_larger_mem (start : Reading) (readings : List Reading) :
    readings.foldl Reading.larger start ∈ start :: readings := by
  induction readings generalizing start with
  | nil => exact List.mem_cons_self
  | cons reading rest ih =>
    -- What is largest so far is either the start or the first reading.
    rcases List.mem_cons.mp (ih (start.larger reading)) with same | later
    · rw [List.foldl_cons, same]
      rcases start.larger_eq_or reading with left | right
      · rw [left]
        exact List.mem_cons_self
      · rw [right]
        exact List.mem_cons_of_mem _ List.mem_cons_self
    · exact List.mem_cons_of_mem _ (List.mem_cons_of_mem _ later)

/-- The largest of many readings is missing only if all of them are. -/
theorem Reading.foldl_larger_eq_none_iff (start : Reading) (readings : List Reading) :
    readings.foldl Reading.larger start = none ↔
      start = none ∧ ∀ reading ∈ readings, reading = none := by
  induction readings generalizing start with
  | nil => simp
  | cons reading rest ih =>
    rw [List.foldl_cons, ih, List.forall_mem_cons, ← and_assoc]
    -- Of two readings the larger one is missing only if both are.
    refine and_congr_left fun _ => ?_
    cases start <;> cases reading <;> simp [larger]

/-- The largest reading is the peak. -/
theorem isPeak_foldl_larger (readings : List Reading) :
    IsPeak readings (readings.foldl Reading.larger none) := by
  cases top : readings.foldl Reading.larger none with
  | none =>
    -- Nothing known has been met.
    have silent := ((Reading.foldl_larger_eq_none_iff none readings).mp top).2
    exact .unknown fun load member => absurd (silent _ member) (by simp)
  | some peak =>
    -- The peak bounds itself, and so all readings.
    have bound := Reading.foldl_larger_le_iff readings none peak
    have reached := Reading.foldl_larger_mem none readings
    rw [top] at bound reached
    exact .known (by simpa using reached) (bound.mp (Nat.le_refl _)).2

/-- There is one peak only. -/
theorem IsPeak.unique {first second : Reading} (one : IsPeak readings first)
    (other : IsPeak readings second) : first = second := by
  rcases one with silent | ⟨reached, largest⟩ <;>
    rcases other with silentToo | ⟨reachedToo, largestToo⟩
  · rfl
  · exact absurd reachedToo (silent _)
  · exact absurd reached (silentToo _)
  · -- Each of the two peaks is one of the readings, so neither exceeds the other.
    exact congrArg some (BasisPoints.ext
      (Nat.le_antisymm (largestToo _ reached) (largest _ reachedToo)))

end Peaks

/-- Changes are counted by the place of the mode in front. -/
theorem countChanges_eq (modes : List Mode) :
    countChanges modes = (List.range (modes.length - 1)).countP (changesAt modes) := by
  -- Two neighbours are compared at a time, so the recursion needs two of them.
  induction modes with
  | nil => rfl
  | cons first rest ih =>
    cases rest with
    | nil => rfl
    | cons second more =>
      -- The first change may be at place zero, and the other ones move one place behind.
      have places : (first :: second :: more).length - 1 = (second :: more).length - 1 + 1 := by
        simp
      have head : changesAt (first :: second :: more) 0 = (first != second) := rfl
      have shifted : changesAt (first :: second :: more) ∘ Nat.succ = changesAt (second :: more) :=
        rfl
      rw [places, List.range_succ_eq_map, List.countP_cons, List.countP_map, shifted, ← ih, head]
      simp [countChanges, List.countP_cons]

section Tallying

variable {mode other : Mode} {count : Nat} {tally : List (Mode × Nat)}

/-- Modes of the same rank are the same. -/
theorem Mode.rank_injective : Function.Injective Mode.rank := by
  -- The two modes without a number come first, and the states behind them in their order.
  intro first second same
  cases first <;> cases second <;> simp only [rank] at same <;> first
    | rfl
    | omega
    | (congr 1; omega)

/-- One more occurrence is counted for the mode, and the other entries stay. -/
theorem mem_bumpMode (ascending : tally.Pairwise fun one other => one.1.rank < other.1.rank) :
    (other, count) ∈ bumpMode mode tally ↔
      (other ≠ mode ∧ (other, count) ∈ tally) ∨
        (other = mode ∧ ((∃ before, (mode, before) ∈ tally ∧ count = before + 1) ∨
          ((∀ before, (mode, before) ∉ tally) ∧ count = 1))) := by
  induction tally with
  | nil => simp [bumpMode]
  | cons entry rest ih =>
    obtain ⟨first, number⟩ := entry
    obtain ⟨behind, later⟩ := List.pairwise_cons.mp ascending
    simp only [bumpMode]
    split
    · -- The entry of the mode comes first, so there is no other one.
      rename_i same
      subst same
      have absent : ∀ before, (mode, before) ∉ rest := fun before member =>
        Nat.lt_irrefl _ (behind (mode, before) member)
      grind
    · rename_i different
      split
      · -- All entries are behind the mode, which has had none so far.
        rename_i ahead
        have absent : ∀ before, (mode, before) ∉ rest := fun before member =>
          Nat.lt_irrefl _ (Nat.lt_trans ahead (behind (mode, before) member))
        grind
      · -- Another mode comes first, which the count does not concern.
        grind

/-- The modes still ascend when one more occurrence is counted. -/
theorem pairwise_bumpMode (mode : Mode)
    (ascending : tally.Pairwise fun one other => one.1.rank < other.1.rank) :
    (bumpMode mode tally).Pairwise fun one other => one.1.rank < other.1.rank := by
  induction tally with
  | nil => simp [bumpMode]
  | cons entry rest ih =>
    obtain ⟨first, number⟩ := entry
    obtain ⟨behind, later⟩ := List.pairwise_cons.mp ascending
    simp only [bumpMode]
    split
    · -- Only the number of the entry changes.
      exact List.pairwise_cons.mpr ⟨behind, later⟩
    · rename_i different
      split
      · -- A new entry goes in front of those that it ranks before.
        rename_i ahead
        refine List.pairwise_cons.mpr ⟨List.forall_mem_cons.mpr ⟨ahead, ?_⟩, ascending⟩
        exact fun entry member => Nat.lt_trans ahead (behind entry member)
      · rename_i notAhead
        -- A mode that is neither the first one nor in front of it is behind it.
        have apart : mode.rank ≠ first.rank := fun same => different (Mode.rank_injective same)
        refine List.pairwise_cons.mpr ⟨?_, ih later⟩
        rintro ⟨next, count⟩ member
        rcases (mem_bumpMode later).mp member with ⟨-, kept⟩ | ⟨rfl, -⟩
        · exact behind _ kept
        · show first.rank < next.rank
          omega

/-- Counting one more occurrence keeps a tally right. -/
theorem Tallies.bump {occurrences : Mode → Nat} (tallies : Tallies occurrences tally)
    (mode : Mode) :
    Tallies (fun other => occurrences other + if other = mode then 1 else 0)
      (bumpMode mode tally) where
  ascending := pairwise_bumpMode mode tallies.ascending
  counts other count := by
    rw [mem_bumpMode tallies.ascending]
    simp only [tallies.counts]
    -- The entry of the mode gets one more, and no other entry moves.
    by_cases same : other = mode
    · subst same
      rw [if_pos rfl]
      constructor
      · rintro (⟨different, -⟩ | ⟨-, ⟨before, ⟨-, worth⟩, more⟩ | ⟨absent, single⟩⟩)
        · exact absurd rfl different
        · omega
        · have never := absent (occurrences other)
          omega
      · rintro ⟨-, total⟩
        -- Without an entry the mode has not occurred before.
        rcases Nat.eq_zero_or_pos (occurrences other) with never | before
        · exact .inr ⟨rfl, .inr ⟨fun before => by omega, by omega⟩⟩
        · exact .inr ⟨rfl, .inl ⟨_, ⟨before, rfl⟩, total⟩⟩
    · simp [same]

/-- Counting modes one after the other adds their occurrences to a tally. -/
theorem Tallies.foldl_bump (modes : List Mode) {occurrences : Mode → Nat}
    {tally : List (Mode × Nat)} (tallies : Tallies occurrences tally) :
    Tallies (fun mode => occurrences mode + modes.count mode)
      (modes.foldl (fun tally mode => bumpMode mode tally) tally) := by
  induction modes generalizing occurrences tally with
  | nil => exact tallies
  | cons first rest ih =>
    -- The first mode is counted before all others.
    have counted := ih (tallies.bump first)
    have same : (fun mode => occurrences mode + (first :: rest).count mode) =
        fun mode => occurrences mode + (if mode = first then 1 else 0) + rest.count mode := by
      funext mode
      rw [List.count_cons]
      grind
    rw [same]
    exact counted

/-- The tally of a list says how often each mode occurs in it. -/
theorem tallies_tallyModes (modes : List Mode) :
    Tallies (fun mode => modes.count mode) (tallyModes modes) := by
  -- Before the first mode nothing is tallied, and nothing has occurred.
  have nothing : Tallies (fun _ => 0) [] := ⟨List.Pairwise.nil, by simp; omega⟩
  have whole := nothing.foldl_bump modes
  simp only [Nat.zero_add] at whole
  exact whole

/-- There is one tally only. -/
theorem Tallies.unique {occurrences : Mode → Nat} {first second : List (Mode × Nat)}
    (one : Tallies occurrences first) (other : Tallies occurrences second) : first = second := by
  -- Ascending entries never repeat.
  have distinct : ∀ {tally}, Tallies occurrences tally → tally.Nodup := fun tallies =>
    tallies.ascending.imp fun below same => absurd (same ▸ below) (Nat.lt_irrefl _)
  have members : ∀ entry, entry ∈ first ↔ entry ∈ second := fun entry =>
    (one.counts entry.1 entry.2).trans (other.counts entry.1 entry.2).symm
  -- Lists of the same entries in the same order are equal.
  refine ((List.perm_ext_iff_of_nodup (distinct one) (distinct other)).mpr members).eq_of_pairwise
    ?_ one.ascending other.ascending
  intro entry next _ _ below above
  omega

end Tallying

namespace Statistics

variable {snapshots : List Snapshot} {statistics : Statistics}

/-- The statistics of snapshots summarize them. -/
theorem summarizes_of_ofSnapshots? (found : ofSnapshots? snapshots = some statistics) :
    Summarizes snapshots statistics := by
  unfold ofSnapshots? at found
  split at found
  · -- There is a first snapshot and a last one, and statistics unless they are the same.
    rename_i first last begins ends
    split at found
    · contradiction
    · cases found
      refine ⟨rfl, ⟨first, last, begins, ends, rfl⟩, isMean_averageReading _,
        isMean_averageReading _, isMean_averageReading _, isPeak_foldl_larger _, ?_,
        tallies_tallyModes _⟩
      show countChanges _ = _
      rw [countChanges_eq, List.length_map]
  · contradiction

/-- No two statistics summarize the same snapshots. -/
theorem Summarizes.unique {other : Statistics} (one : Summarizes snapshots statistics)
    (same : Summarizes snapshots other) : statistics = other := by
  -- The ends of a list are determined by it, and everything else is unique one by one.
  have elapsed : statistics.elapsed = other.elapsed := by
    obtain ⟨first, last, begins, ends, time⟩ := one.elapsed
    obtain ⟨start, finish, beginsToo, endsToo, timeToo⟩ := same.elapsed
    rw [begins, Option.some.injEq] at beginsToo
    rw [ends, Option.some.injEq] at endsToo
    rw [time, timeToo, beginsToo, endsToo]
  cases statistics
  cases other
  rw [Statistics.mk.injEq]
  exact ⟨one.polls.trans same.polls.symm, elapsed, one.averageSystem.unique same.averageSystem,
    one.averageCpu.unique same.averageCpu, one.averageGfx.unique same.averageGfx,
    one.peakCpu.unique same.peakCpu, one.transitions.trans same.transitions.symm,
    one.modePolls.unique same.modePolls⟩

/-- There are statistics from two snapshots on. -/
theorem ofSnapshots?_eq_none_iff : ofSnapshots? snapshots = none ↔ snapshots.length < 2 := by
  unfold ofSnapshots?
  split
  · split
    · -- Two ends are there, and the length decides.
      rename_i few
      simp [few]
    · rename_i enough
      simp [enough]
  · rename_i missing
    -- Only an empty list has no first or no last snapshot.
    cases snapshots with
    | nil => simp
    | cons first rest =>
      cases ends : (first :: rest).getLast? with
      | none => simp at ends
      | some last => exact (missing first last rfl ends).elim

/-- The statistics of snapshots are what summarizes them, from two snapshots on. -/
theorem ofSnapshots?_eq_some_iff :
    ofSnapshots? snapshots = some statistics ↔
      2 ≤ snapshots.length ∧ Summarizes snapshots statistics := by
  constructor
  · -- Statistics that are found summarize, and there is no other summary.
    intro found
    refine ⟨Nat.le_of_not_lt fun few => ?_, summarizes_of_ofSnapshots? found⟩
    rw [ofSnapshots?_eq_none_iff.mpr few] at found
    contradiction
  · rintro ⟨enough, summary⟩
    cases found : ofSnapshots? snapshots with
    | none =>
      have few := ofSnapshots?_eq_none_iff.mp found
      omega
    | some other => rw [(summarizes_of_ofSnapshots? found).unique summary]

end Statistics

end PowerGovernor
