import Mathlib.Data.List.Induction
import PowerGovernor.Proofs.History.Summary

/-! A history keeps the latest snapshots in the order in which they were recorded, however often its
ring has gone round. -/

namespace PowerGovernor.History

/-- The history of snapshots that were recorded one after the other. -/
def recordAll (snapshots : List Snapshot) : History :=
  snapshots.foldl record empty

/-- In order the snapshots stand one place behind the other in the ring, and the first place follows
the last one. -/
theorem getElem?_toList (history : History) {place : Nat} (inside : place < history.size) :
    history.toList[place]? = history.slots[(history.oldest + place) % historyCapacity]? := by
  -- Both sides have something to show, since every place is in the ring.
  have there : (history.oldest + place) % historyCapacity < historyCapacity :=
    Nat.mod_lt _ (by decide)
  rw [List.getElem?_eq_getElem (by rwa [length_toList]), getElem_toList,
    Vector.getElem?_eq_getElem there]
  rfl

/-- Of all recorded snapshots the latest ones are kept, as many as there is room for. -/
theorem toList_recordAll (snapshots : List Snapshot) :
    (recordAll snapshots).toList = snapshots.drop (snapshots.length - historyCapacity) := by
  -- Each snapshot follows those that were kept before it, of which the oldest may have to go.
  induction snapshots using List.reverseRecOn with
  | nil => rfl
  | append_singleton earlier snapshot ih =>
    have kept : (recordAll earlier).size =
        earlier.length - (earlier.length - historyCapacity) := by
      rw [← length_toList, ih, List.length_drop]
    have step : recordAll (earlier ++ [snapshot]) = (recordAll earlier).record snapshot := by
      rw [recordAll, List.foldl_append]
      rfl
    have gone : earlier.length - historyCapacity +
          (earlier.length - (earlier.length - historyCapacity) + 1 - historyCapacity) =
        (earlier ++ [snapshot]).length - historyCapacity := by
      rw [List.length_append, List.length_singleton]
      omega
    rw [step, toList_record, kept, ih, ← List.drop_append_of_le_length (Nat.sub_le _ _),
      List.drop_drop, gone]

/-- There are as many snapshots as were recorded, up to the capacity. -/
theorem size_recordAll (snapshots : List Snapshot) :
    (recordAll snapshots).size = min snapshots.length historyCapacity := by
  -- The kept snapshots can be counted in the list of them.
  rw [← length_toList, toList_recordAll, List.length_drop]
  omega

/-- Nothing is kept only if nothing was recorded. -/
theorem isEmpty_recordAll (snapshots : List Snapshot) :
    (recordAll snapshots).isEmpty = true ↔ snapshots.length = 0 := by
  -- There is room for one snapshot at least.
  have room : 0 < historyCapacity := by decide
  rw [isEmpty, beq_iff_eq, size_recordAll]
  omega

/-- A history is the window of the latest snapshots.

However many snapshots have been recorded, the history keeps the latest ones, as many as its ring
has places, and lists them in the order in which they were recorded: walking round the ring from the
oldest one. Its statistics exist from two snapshots on, and are what summarizes this list. -/
theorem recordAll_is_window (snapshots : List Snapshot) :
    let history := recordAll snapshots
    let window := snapshots.drop (snapshots.length - historyCapacity)
    history.size = min snapshots.length historyCapacity ∧
    (history.isEmpty = true ↔ snapshots.length = 0) ∧
    history.toList = window ∧
    (∀ place < history.size,
      history.toList[place]? = history.slots[(history.oldest + place) % historyCapacity]?) ∧
    (history.statistics? = none ↔ snapshots.length < 2) ∧
    ∀ statistics, history.statistics? = some statistics ↔
      2 ≤ snapshots.length ∧ Statistics.Summarizes window statistics := by
  intro history window
  have listed : history.toList = window := toList_recordAll snapshots
  -- A window has room for two snapshots, so it has two exactly if two were recorded.
  have enough : 2 ≤ window.length ↔ 2 ≤ snapshots.length := by
    have room : 2 ≤ historyCapacity := by decide
    have length : window.length = snapshots.length - (snapshots.length - historyCapacity) :=
      List.length_drop
    omega
  refine ⟨size_recordAll snapshots, isEmpty_recordAll snapshots, listed,
    fun _ => history.getElem?_toList, ?_, fun statistics => ?_⟩
  · rw [statistics?, listed, Statistics.ofSnapshots?_eq_none_iff]
    omega
  · rw [statistics?, listed, Statistics.ofSnapshots?_eq_some_iff, enough]

end PowerGovernor.History
