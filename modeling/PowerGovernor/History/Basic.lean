import PowerGovernor.Governor.Basic

/-! The history of polls: a ring that keeps the latest ones. -/

namespace PowerGovernor

/-- What one poll left behind. -/
structure Snapshot where
  /-- When the poll took place, in nanoseconds. -/
  time : Nat := 0
  /-- Load of the whole system. -/
  system : Reading
  /-- Load of the busiest CPU. -/
  cpu : Reading
  /-- Load of the graphics engines. -/
  gfx : Reading
  /-- The recommended poll interval in milliseconds. -/
  interval : Option UInt32
  /-- What the machine was doing. -/
  mode : Mode
deriving DecidableEq

/-- What stands in a place of the ring before a snapshot is recorded there. -/
def Snapshot.blank : Snapshot :=
  { system := none, cpu := none, gfx := none, interval := none, mode := .normal }

/-- The ring keeps this many snapshots. -/
def historyCapacity : Nat := 8192

/-- The latest snapshots, in a ring of places that are there from the beginning; once all of them
are taken a new snapshot takes the place of the oldest. -/
structure History where
  /-- The places of the ring. -/
  slots : Vector Snapshot historyCapacity
  /-- The place for the next snapshot. -/
  head : Nat
  /-- The number of snapshots kept. -/
  size : Nat
  /-- The next snapshot has a place in the ring. -/
  head_lt : head < historyCapacity
  /-- There are no more snapshots than places. -/
  size_le : size ≤ historyCapacity
  /-- The places are taken in order, from the first one on. -/
  head_eq_size : size < historyCapacity → head = size

namespace History

/-- A history without snapshots. -/
def empty : History where
  slots := Vector.replicate historyCapacity .blank
  head := 0
  size := 0
  head_lt := by decide
  size_le := Nat.zero_le _
  head_eq_size := fun _ => rfl

/-- Whether no snapshot has been recorded. -/
def isEmpty (history : History) : Bool := history.size == 0

/-- Records a snapshot. -/
def record (history : History) (snapshot : Snapshot) : History where
  slots := history.slots.set history.head snapshot history.head_lt
  head := (history.head + 1) % historyCapacity
  size := if history.size < historyCapacity then history.size + 1 else history.size
  head_lt := Nat.mod_lt _ (by decide)
  size_le := by
    have bound := history.size_le
    split <;> omega
  head_eq_size := by
    intro room
    -- Where there is room afterwards there has been room before.
    split at room
    · rename_i before
      rw [if_pos before, history.head_eq_size before, Nat.mod_eq_of_lt room]
    · contradiction

/-- The place of the oldest snapshot. -/
def oldest (history : History) : Nat :=
  if history.size < historyCapacity then 0 else history.head

/-- The snapshot so many places behind the oldest one, where the first place follows the last. -/
def behindOldest (history : History) (distance : Nat) : Snapshot :=
  history.slots.get ⟨(history.oldest + distance) % historyCapacity, Nat.mod_lt _ (by decide)⟩

/-- The snapshots that are kept, the oldest first. -/
def toList (history : History) : List Snapshot :=
  (List.range history.size).map history.behindOldest

/-- The empty history keeps nothing. -/
@[simp] theorem toList_empty : empty.toList = [] := rfl

/-- The list has as many snapshots as are kept. -/
@[simp] theorem length_toList (history : History) : history.toList.length = history.size := by
  rw [toList, List.length_map, List.length_range]

/-- The list begins with the oldest snapshot and goes round the ring. -/
@[simp] theorem getElem_toList (history : History) {place : Nat}
    (inside : place < history.toList.length) :
    history.toList[place] = history.behindOldest place := by
  simp [toList]

/-- The place that is recorded at holds the snapshot, and all others are left alone. -/
theorem get_slots_record (history : History) (snapshot : Snapshot) (place : Fin historyCapacity) :
    (history.record snapshot).slots.get place =
      if history.head = place.val then snapshot else history.slots.get place := by
  exact Vector.getElem_set history.head_lt place.isLt

/-- While there is room, recording keeps what has been kept and puts the snapshot behind it. -/
theorem toList_record_of_room {history : History} (room : history.size < historyCapacity)
    (snapshot : Snapshot) : (history.record snapshot).toList = history.toList ++ [snapshot] := by
  have next := history.head_eq_size room
  have size : (history.record snapshot).size = history.size + 1 := if_pos room
  -- The first place holds the oldest snapshot before and after.
  have before : history.oldest = 0 := if_pos room
  have after : (history.record snapshot).oldest = 0 := by
    by_cases more : history.size + 1 < historyCapacity
    · rw [oldest, size, if_pos more]
    · rw [oldest, size, if_neg more]
      -- The last place has just been taken.
      have full : history.size + 1 = historyCapacity := by omega
      show (history.head + 1) % historyCapacity = 0
      rw [next, full, Nat.mod_self]
  refine List.ext_getElem (by simp [size]) fun place inside _ => ?_
  rw [length_toList, size] at inside
  have wrapped : (0 + place) % historyCapacity = place := by
    rw [Nat.zero_add]
    exact Nat.mod_eq_of_lt (Nat.lt_of_lt_of_le inside room)
  rw [getElem_toList, behindOldest, get_slots_record, List.getElem_append]
  simp only [after, wrapped, next, length_toList]
  by_cases last : place = history.size
  · simp [last]
  · have kept : place < history.size := by omega
    rw [if_neg (Ne.symm last), dif_pos kept, getElem_toList, behindOldest]
    simp only [before, wrapped]

/-- Once the ring is full, recording puts the snapshot behind what has been kept, of which the
oldest one goes. -/
theorem toList_record_of_full {history : History} (full : history.size = historyCapacity)
    (snapshot : Snapshot) :
    (history.record snapshot).toList = (history.toList ++ [snapshot]).tail := by
  have there := history.head_lt
  have size : (history.record snapshot).size = historyCapacity :=
    (if_neg (by omega)).trans full
  -- The oldest snapshot stands where the next one is recorded, and then behind it.
  have before : history.oldest = history.head := if_neg (by omega)
  have after : (history.record snapshot).oldest = (history.head + 1) % historyCapacity :=
    if_neg (by omega)
  refine List.ext_getElem (by simp [size, full]) fun place inside _ => ?_
  rw [length_toList, size] at inside
  rw [getElem_toList, behindOldest, get_slots_record, List.getElem_tail, List.getElem_append]
  simp only [after, length_toList, full]
  by_cases last : place + 1 = historyCapacity
  · have around : ((history.head + 1) % historyCapacity + place) % historyCapacity =
        history.head := by
      simp only [historyCapacity] at *
      omega
    simp [around, last]
  · have kept : place + 1 < historyCapacity := by omega
    have apart : history.head ≠
        ((history.head + 1) % historyCapacity + place) % historyCapacity := by
      simp only [historyCapacity] at *
      omega
    have shifted : ((history.head + 1) % historyCapacity + place) % historyCapacity =
        (history.oldest + (place + 1)) % historyCapacity := by
      rw [before, Nat.mod_add_mod, Nat.add_right_comm, Nat.add_assoc]
    rw [if_neg apart, dif_pos kept, getElem_toList, behindOldest]
    simp only [shifted]

/-- Recording keeps the latest snapshots, as many as the ring has room for. -/
theorem toList_record (history : History) (snapshot : Snapshot) :
    (history.record snapshot).toList =
      (history.toList ++ [snapshot]).drop (history.size + 1 - historyCapacity) := by
  have bound := history.size_le
  by_cases room : history.size < historyCapacity
  · -- While there is room nothing is dropped.
    have none : history.size + 1 - historyCapacity = 0 := by omega
    rw [none, List.drop_zero, toList_record_of_room room]
  · -- In a full ring one snapshot is.
    have one : history.size + 1 - historyCapacity = 1 := by omega
    rw [one, List.drop_one, toList_record_of_full (by omega)]

end History

end PowerGovernor
