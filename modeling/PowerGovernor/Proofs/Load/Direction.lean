import Mathlib.Algebra.GroupWithZero.Nat
import Mathlib.Algebra.Order.BigOperators.Group.List
import Mathlib.Algebra.Order.Group.Nat
import PowerGovernor.Load.Counters

/-! The load between two generations of counters is the exact share of the ticks that were not idle,
and it answers to every counter in the right direction. -/

namespace PowerGovernor

namespace BasisPoints

/-- The share of a part, rounded down, is not cut off; it is empty if the whole is. -/
theorem value_ratio {part whole : Nat} (inside : part ≤ whole) :
    (ratio part whole).value = fullScale * part / whole := by
  unfold ratio
  split
  · -- An empty whole has an empty share, as does division by zero.
    rename_i empty
    rw [empty, Nat.div_zero]
    rfl
  · -- A part of the whole is never more than all of it.
    have bound : part * fullScale / whole ≤ fullScale :=
      Nat.div_le_of_le_mul (Nat.mul_le_mul_right _ inside)
    rw [value_clamp, Nat.min_eq_left bound, Nat.mul_comm]

/-- The share of what is busy grows with it, and shrinks with what is idle. -/
theorem share_le_share {scale busy idle busier idler : Nat} (more : busy ≤ busier)
    (less : idler ≤ idle) : scale * busy / (busy + idle) ≤ scale * busier / (busier + idler) := by
  cases Nat.eq_zero_or_pos busy with
  -- Without busy time the first share is nothing.
  | inl none => simp [none]
  | inr positive =>
    rw [Nat.le_div_iff_mul_le (by omega)]
    -- The first share of all that is idle is at most what it leaves of all that is busy.
    have reached := Nat.div_mul_le_self (scale * busy) (busy + idle)
    have whole : scale * busy / (busy + idle) ≤ scale := Nat.div_le_of_le_mul
      (Nat.mul_comm scale busy ▸ Nat.mul_le_mul_right _ (Nat.le_add_right _ _))
    generalize scale * busy / (busy + idle) = share at reached whole ⊢
    obtain ⟨rest, rfl⟩ := Nat.exists_eq_add_of_le whole
    have idleShare : share * idle ≤ rest * busy := by
      rw [Nat.mul_add, Nat.add_mul] at reached
      omega
    calc share * (busier + idler)
        = share * busier + share * idler := Nat.mul_add ..
      _ ≤ share * busier + share * idle := Nat.add_le_add_left (Nat.mul_le_mul_left _ less) _
      _ ≤ share * busier + rest * busy := Nat.add_le_add_left idleShare _
      _ ≤ share * busier + rest * busier := Nat.add_le_add_left (Nat.mul_le_mul_left _ more) _
      _ = (share + rest) * busier := (Nat.add_mul ..).symm

end BasisPoints

namespace Counters

/-- How far a counter has advanced, as a number; one that runs backwards has not. -/
def gain (current previous : Counters) (index : Fin counterCount) : Nat :=
  (current.get index).toNat - (previous.get index).toNat

/-- How far some counters have advanced together. -/
def gained (current previous : Counters) (indexes : List (Fin counterCount)) : Nat :=
  (indexes.map (gain current previous)).sum

/-- The counters of busy time. -/
def busyIndexes : List (Fin counterCount) :=
  (List.finRange counterCount).filter fun index => !isIdle index

/-- The counters of idle time. -/
def idleIndexes : List (Fin counterCount) :=
  (List.finRange counterCount).filter isIdle

/-- How far all counters have advanced together. -/
def totalGain (current previous : Counters) : Nat :=
  gained current previous (List.finRange counterCount)

/-- How far the counters of busy time have advanced together. -/
def busyGain (current previous : Counters) : Nat :=
  gained current previous busyIndexes

/-- The ticks of the chosen ones among the first counters, while they are being summed up. -/
def runningTicks (chosen : Fin counterCount → Bool) (current previous : Counters) (count : Nat) :
    UInt64 :=
  ((List.finRange counterCount).take count).foldl
    (fun sum index => if chosen index then sum + advance current previous index else sum) 0

section Sums

variable {current other previous : Counters} {indexes : List (Fin counterCount)}

/-- A word has room for what a counter has advanced. -/
theorem toNat_advance (current previous : Counters) (index : Fin counterCount) :
    (advance current previous index).toNat = gain current previous index := by
  change _ = current[index].toNat - previous[index].toNat
  unfold advance
  split
  · -- The difference of the words is that of the numbers while nothing wraps around.
    rename_i ahead
    rw [UInt64.toNat_sub_of_le _ _ (UInt64.le_of_lt ahead)]
  · -- Numbers stop at nothing where words would wrap around.
    rename_i behind
    rw [UInt64.lt_iff_toNat_lt] at behind
    rw [UInt64.toNat_zero]
    omega

/-- Words add up like the numbers that they stand for as long as the sum fits. -/
theorem toNat_foldl_advance (indexes : List (Fin counterCount)) :
    ∀ start : UInt64, start.toNat + gained current previous indexes ≤ maxWord64 →
      (indexes.foldl (fun sum index => sum + advance current previous index) start).toNat =
        start.toNat + gained current previous indexes := by
  -- The sum so far has room for the next counter, since there is room for all that are left.
  induction indexes with
  | nil => simp [gained]
  | cons index rest ih =>
    intro start fits
    rw [gained, List.map_cons, List.sum_cons, ← gained] at fits ⊢
    have sum : (start + advance current previous index).toNat =
        start.toNat + gain current previous index := by
      rw [UInt64.toNat_add, toNat_advance]
      exact Nat.mod_eq_of_lt (by simp only [maxWord64] at fits; omega)
    rw [List.foldl_cons, ih _ (by omega), sum, Nat.add_assoc]

/-- Counters that advance further one by one do so together. -/
theorem gained_le (further : ∀ index ∈ indexes, gain current previous index ≤
    gain other previous index) :
    gained current previous indexes ≤ gained other previous indexes :=
  List.sum_le_sum further

/-- Fewer counters have advanced no further. -/
theorem gained_le_of_sublist {fewer : List (Fin counterCount)} (sublist : fewer.Sublist indexes) :
    gained current previous fewer ≤ gained current previous indexes :=
  (sublist.map _).sum_le_sum fun _ _ => Nat.zero_le _

/-- All time is busy or idle. -/
theorem totalGain_eq (current previous : Counters) :
    totalGain current previous = busyGain current previous + gained current previous idleIndexes := by
  -- Idle and busy counters are all counters, in another order.
  have parts := List.filter_append_perm isIdle (List.finRange counterCount)
  rw [totalGain, gained, ← (parts.map _).sum_nat, List.map_append, List.sum_append, Nat.add_comm]
  rfl

/-- While they are being summed up the ticks are exact, if the sum of them all fits. -/
theorem toNat_runningTicks (fits : totalGain current previous ≤ maxWord64)
    (chosen : Fin counterCount → Bool) (count : Nat) :
    (runningTicks chosen current previous count).toNat =
      gained current previous (((List.finRange counterCount).take count).filter chosen) := by
  -- What is summed up is a part of the sum of them all, so it fits as well.
  have fewer : (((List.finRange counterCount).take count).filter chosen).Sublist
      (List.finRange counterCount) := List.filter_sublist.trans (List.take_sublist ..)
  have fewerFit : (0 : UInt64).toNat + gained current previous
      (((List.finRange counterCount).take count).filter chosen) ≤ maxWord64 :=
    Nat.zero_add _ ▸ Nat.le_trans (gained_le_of_sublist fewer) fits
  rw [runningTicks, ← List.foldl_filter, toNat_foldl_advance _ _ fewerFit, UInt64.toNat_zero,
    Nat.zero_add]

/-- The ticks of chosen counters are exact if the sum of all fits. -/
theorem toNat_ticks (fits : totalGain current previous ≤ maxWord64)
    (chosen : Fin counterCount → Bool) :
    (ticks chosen current previous).toNat =
      gained current previous ((List.finRange counterCount).filter chosen) :=
  toNat_runningTicks fits chosen counterCount

/-- The load is the exact share of busy time, rounded down. -/
theorem value_busyBetween (fits : totalGain current previous ≤ maxWord64) :
    (busyBetween current previous).value =
      fullScale * busyGain current previous / totalGain current previous := by
  -- The whole is the sum of all counters, and the busy part is among them.
  have all : (List.finRange counterCount).filter (fun _ => true) = List.finRange counterCount :=
    List.filter_true _
  rw [busyBetween, toNat_ticks fits, toNat_ticks fits, all]
  exact BasisPoints.value_ratio (gained_le_of_sublist List.filter_sublist)

/-- More busy time and less idle time never lower the load. -/
theorem busyBetween_mono (fits : totalGain current previous ≤ maxWord64)
    (alsoFits : totalGain other previous ≤ maxWord64)
    (busier : ∀ index, isIdle index = false → gain current previous index ≤ gain other previous index)
    (lessIdle : ∀ index, isIdle index = true →
      gain other previous index ≤ gain current previous index) :
    busyBetween current previous ≤ busyBetween other previous := by
  -- As exact shares, both loads compare the same kinds of time.
  rw [BasisPoints.le_iff, value_busyBetween fits, value_busyBetween alsoFits, totalGain_eq,
    totalGain_eq]
  refine BasisPoints.share_le_share (gained_le fun index member => ?_)
    (gained_le fun index member => ?_)
  · exact busier index (by simpa using (List.mem_filter.mp member).2)
  · exact lessIdle index (List.mem_filter.mp member).2

end Sums

/-- A counter that is replaced advances as far as its new value says, and no other one changes. -/
theorem gain_set (current previous : Counters) (index other : Fin counterCount) (value : UInt64) :
    gain (current.set index value index.isLt) previous other =
      if index = other then value.toNat - (previous.get other).toNat
      else gain current previous other := by
  -- A replaced counter is read back, and the others are read as before.
  have replaced : (current.set index value index.isLt).get other =
      if index = other then value else current.get other := by
    change (current.set index value index.isLt)[other] = if _ then _ else current[other]
    simp only [Fin.getElem_fin, Vector.getElem_set, Fin.ext_iff]
  rw [gain, replaced]
  split <;> rfl

/-- A counter of the other kind does not notice the replacement. -/
theorem gain_set_of_isIdle_ne {index other : Fin counterCount}
    (different : isIdle other ≠ isIdle index) (current previous : Counters) (value : UInt64) :
    gain (current.set index value index.isLt) previous other = gain current previous other := by
  -- Counters of different kinds stand at different places.
  have apart : index ≠ other := fun same => different (same ▸ rfl)
  rw [gain_set, if_neg apart]

/-- A counter that is raised advances no less. -/
theorem gain_le_gain_set {current : Counters} {index : Fin counterCount} {value : UInt64}
    (raised : current.get index ≤ value) (previous : Counters) (other : Fin counterCount) :
    gain current previous other ≤ gain (current.set index value index.isLt) previous other := by
  -- Only the raised counter needs a thought.
  rw [gain_set]
  split
  · rename_i same
    subst same
    exact Nat.sub_le_sub_right (UInt64.le_iff_toNat_le.mp raised) _
  · exact Nat.le_refl _

/-- A counter that ran backwards advances as little as one that stood still. -/
theorem gain_set_previous {current previous : Counters} {index : Fin counterCount}
    (behind : current.get index < previous.get index) :
    gain (current.set index (previous.get index) index.isLt) previous = gain current previous := by
  funext other
  rw [gain_set]
  split
  · -- Neither what stands still nor what ran backwards has advanced.
    rename_i same
    subst same
    rw [UInt64.lt_iff_toNat_lt] at behind
    unfold gain
    omega
  · rfl

/-- The load depends on the counters only through how far they have advanced. -/
theorem busyBetween_congr {current other previous : Counters}
    (fits : totalGain current previous ≤ maxWord64)
    (same : gain other previous = gain current previous) :
    busyBetween other previous = busyBetween current previous := by
  -- Counters that have gained the same one by one have gained the same together.
  have sums : gained other previous = gained current previous := by
    funext indexes
    rw [gained, same, ← gained]
  have total : totalGain other previous = totalGain current previous := congrFun sums _
  have busy : busyGain other previous = busyGain current previous := congrFun sums _
  refine BasisPoints.ext ?_
  rw [value_busyBetween (total ▸ fits), value_busyBetween fits, total, busy]

/-- The load answers to every counter in the right direction.

As long as all ticks together fit in a word, they are summed up exactly, the double width has room
for the product, and the load is the exact share of busy time, rounded down, or nothing if no
counter has advanced. A busy counter that is raised never lowers it, an idle one never raises it,
and one that ran backwards counts as if it had stood still. -/
theorem busyBetween_responds (current previous : Counters)
    (fits : totalGain current previous ≤ maxWord64) :
    (∀ chosen count, (runningTicks chosen current previous count).toNat =
        gained current previous (((List.finRange counterCount).take count).filter chosen)) ∧
      busyGain current previous * fullScale < 2 ^ 128 ∧
      (busyBetween current previous).value =
        fullScale * busyGain current previous / totalGain current previous ∧
      (totalGain current previous = 0 → busyBetween current previous = .zero) ∧
      (busyBetween current previous).value ≤ fullScale ∧
      (∀ (index : Fin counterCount) (value : UInt64), current[index] ≤ value →
        totalGain (current.set index value) previous ≤ maxWord64 →
        if isIdle index then
          busyBetween (current.set index value) previous ≤ busyBetween current previous
        else busyBetween current previous ≤ busyBetween (current.set index value) previous) ∧
      ∀ index : Fin counterCount, current[index] < previous[index] →
        busyBetween (current.set index previous[index]) previous =
          busyBetween current previous := by
  have share := value_busyBetween fits
  refine ⟨toNat_runningTicks fits, ?_, share, ?_, (busyBetween current previous).value_le, ?_,
    fun index behind => busyBetween_congr fits (gain_set_previous behind)⟩
  · -- Busy time is a part of all time.
    have part : busyGain current previous ≤ totalGain current previous :=
      gained_le_of_sublist List.filter_sublist
    simp only [maxWord64, fullScale] at fits ⊢
    omega
  · -- Nothing divided by nothing is nothing.
    intro still
    rw [still, Nat.div_zero] at share
    exact BasisPoints.ext share
  · intro index value raised alsoFits
    have further := gain_le_gain_set raised previous
    -- Only time of the kind that the counter belongs to can have become more.
    split
    · rename_i idle
      refine busyBetween_mono alsoFits fits (fun other busy => ?_) fun other _ => further other
      exact (gain_set_of_isIdle_ne (by simp [busy, idle]) current previous value).le
    · rename_i busy
      refine busyBetween_mono fits alsoFits (fun other _ => further other) fun other idle => ?_
      exact (gain_set_of_isIdle_ne (by simp [busy, idle]) current previous value).le

/-- Counters that have almost filled a word: user time and idle time are raised, and the time spent
waiting ran backwards. -/
theorem busyBetween_responds_full :
    let previous : Counters := #v[0, 0, 0, 0, 5, 0, 0, 0, 0, 0]
    let current : Counters := #v[0xC000000000000000, 0, 0, 0x3FFFFFFFFFFF0000, 2, 0, 0, 0, 0, 0]
    totalGain current previous ≤ maxWord64 ∧
      (busyBetween current previous).value = 7500 ∧
      busyBetween current previous ≤
        busyBetween (current.set 0 0xC000000000001000) previous ∧
      busyBetween (current.set 3 0x3FFFFFFFFFFFF000) previous ≤ busyBetween current previous ∧
      busyBetween (current.set 4 5) previous = busyBetween current previous := by
  -- Nothing wraps: all that was gained fits in a word, with little room left.
  intro previous current
  have fits : totalGain current previous ≤ maxWord64 := by decide +kernel
  obtain ⟨-, -, -, -, -, raise, still⟩ := busyBetween_responds current previous fits
  exact ⟨fits, by decide +kernel, raise ⟨0, by decide⟩ _ (by decide) (by decide +kernel),
    raise ⟨3, by decide⟩ _ (by decide) (by decide +kernel), still ⟨4, by decide⟩ (by decide)⟩

end Counters

end PowerGovernor
