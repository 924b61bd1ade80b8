import PowerGovernor.History.Report
import PowerGovernor.Proofs.History.Window
import PowerGovernor.Proofs.Text.Decimal

/-! The printed table of snapshots, and whether it tells truly that some have been overwritten. -/

namespace PowerGovernor

/-- The notice that the ring has gone round. -/
def wrapNotice : String := "(RING BUFFER WRAPPED -- SHOWING MOST RECENT 8192 SNAPSHOTS)"

/-- The printed table of some snapshots, with what there is to notice between the last of them and
their number; without snapshots nothing is printed. -/
def printedTable (notices : List String) : List Snapshot → List String
  | [] => []
  | first :: rest =>
    let head := ["", tableLine "TIME_S" "SYS" "CPU" "GFX" "NEXT_MS" "MODE", "".pushn '-' 60]
    -- All lines are timed from the first snapshot.
    head ++ (first :: rest).map (Snapshot.line first.time) ++ notices ++
      ["TOTAL SNAPSHOTS: " ++ toString (first :: rest).length]

namespace History

/-- The snapshot at whose place another one would be recorded, if there is no room left. -/
def displaced? (history : History) : Option Snapshot :=
  if history.size < historyCapacity then none else history.slots[history.head]?

/-- The snapshots that are overwritten while others are recorded one after the other. -/
def displacedBy (history : History) : List Snapshot → List Snapshot
  | [] => []
  | snapshot :: rest => history.displaced?.toList ++ (history.record snapshot).displacedBy rest

/-- A snapshot that is recorded overwrites the oldest one or none, and all others are kept. -/
theorem displaced_append_toList_record (history : History) (snapshot : Snapshot) :
    history.displaced?.toList ++ (history.record snapshot).toList =
      history.toList ++ [snapshot] := by
  by_cases room : history.size < historyCapacity
  · rw [displaced?, if_pos room, toList_record_of_room room]
    rfl
  · -- In a full ring the first place of the order is the one that is recorded at.
    have bound := history.size_le
    have full : history.size = historyCapacity := by omega
    have start : history.oldest = history.head := if_neg room
    have first : history.toList[0]? = history.slots[history.head]? := by
      rw [history.getElem?_toList (by rw [full]; decide), Nat.add_zero, start,
        Nat.mod_eq_of_lt history.head_lt]
    rw [displaced?, if_neg room, toList_record_of_full full, ← first]
    cases listed : history.toList with
    | nil =>
      have empty := history.length_toList
      rw [listed, full] at empty
      exact absurd empty (by decide)
    | cons oldest rest => rfl

/-- What is overwritten and what is kept in the end are all snapshots, in order. -/
theorem displacedBy_append_toList (snapshots : List Snapshot) :
    ∀ history : History, history.displacedBy snapshots ++ (snapshots.foldl record history).toList =
      history.toList ++ snapshots := by
  -- Each snapshot moves the border between the two parts by one place at most.
  induction snapshots with
  | nil => intro history; simp [displacedBy]
  | cons snapshot rest ih =>
    intro history
    rw [displacedBy, List.foldl_cons, List.append_assoc, ih, ← List.append_assoc,
      displaced_append_toList_record, List.append_assoc, List.singleton_append]

/-- Of many snapshots the ones beyond the capacity of the ring are overwritten. -/
theorem displacedBy_empty (snapshots : List Snapshot) :
    empty.displacedBy snapshots = snapshots.take (snapshots.length - historyCapacity) := by
  -- All snapshots together are known, and so are the ones that are kept.
  have whole := displacedBy_append_toList snapshots empty
  have kept : (snapshots.foldl record empty).toList =
      snapshots.drop (snapshots.length - historyCapacity) := toList_recordAll snapshots
  rw [kept, toList_empty, List.nil_append] at whole
  conv_rhs at whole =>
    rw [← List.take_append_drop (snapshots.length - historyCapacity) snapshots]
  exact List.append_cancel_right whole

/-- Something is overwritten exactly if more is recorded than the ring has room for. -/
theorem displacedBy_empty_ne_nil_iff (snapshots : List Snapshot) :
    empty.displacedBy snapshots ≠ [] ↔ historyCapacity < snapshots.length := by
  -- What is overwritten is the beginning of the list, as far as it exceeds the capacity.
  have positive : 0 < historyCapacity := by decide
  rw [displacedBy_empty, Ne, List.take_eq_nil_iff, ← List.length_eq_zero_iff]
  omega

/-- The dump is the table of what is kept, with the notice once the ring is full. -/
theorem dump_eq_printedTable (history : History) :
    history.dump = printedTable
      (if history.size = historyCapacity then ["", wrapNotice] else []) history.toList := by
  have notice : "(RING BUFFER WRAPPED -- SHOWING MOST RECENT " ++ toString historyCapacity ++
      " SNAPSHOTS)" = wrapNotice := by decide +kernel
  have length := history.length_toList
  unfold dump
  cases listed : history.toList with
  | nil => rfl
  | cons first rest =>
    rw [listed] at length
    simp only [printedTable, notice, length]

theorem printedTable_eq_nil_iff (notices : List String) (snapshots : List Snapshot) :
    printedTable notices snapshots = [] ↔ snapshots = [] := by
  -- The head alone has three lines.
  cases snapshots <;> simp [printedTable]

/-- The line of a snapshot begins with a digit of its time. -/
theorem exists_digit_line (start : Nat) (snapshot : Snapshot) :
    ∃ digit rest, (snapshot.line start).toList = digit :: rest ∧ digit.isDigit = true := by
  -- A time is written as a whole number of seconds with decimals behind it.
  have time : ∃ whole decimals,
      secondsText (snapshot.time - start) = toString (whole : Nat) ++ decimals := by
    rw [secondsText, fixedDecimals, if_neg (by decide)]
    exact ⟨_, _, (String.append_assoc ..).trans (String.append_assoc ..)⟩
  obtain ⟨whole, decimals, written⟩ := time
  obtain ⟨digit, more, digits⟩ := List.exists_cons_of_ne_nil (toString_ne_nil whole)
  have isDigit := isDigit_of_mem_toString (digits ▸ List.mem_cons_self)
  -- The time stands in front of whatever fills its column and the columns behind it.
  have line : ∃ rest, snapshot.line start = toString whole ++ rest := by
    simp only [Snapshot.line, tableLine, pad, written, String.append_assoc]
    exact ⟨_, rfl⟩
  obtain ⟨rest, begins⟩ := line
  refine ⟨digit, more ++ rest.toList, ?_, isDigit⟩
  rw [begins, String.toList_append, digits, List.cons_append]

/-- The notice stands in a table exactly if the table has snapshots and gives the notice. -/
theorem wrapNotice_mem_printedTable_iff (notices : List String) (snapshots : List Snapshot) :
    wrapNotice ∈ printedTable notices snapshots ↔ snapshots ≠ [] ∧ wrapNotice ∈ notices := by
  cases snapshots with
  | nil => simp [printedTable]
  | cons first rest =>
    -- No other line of the table begins with a bracket.
    have bracket : wrapNotice.toList.head? = some '(' := by decide +kernel
    have head : wrapNotice ∉
        ["", tableLine "TIME_S" "SYS" "CPU" "GFX" "NEXT_MS" "MODE", "".pushn '-' 60] := by
      decide +kernel
    have lines : wrapNotice ∉ (first :: rest).map (Snapshot.line first.time) := by
      intro member
      obtain ⟨snapshot, -, same⟩ := List.mem_map.mp member
      obtain ⟨digit, more, written, isDigit⟩ := exists_digit_line first.time snapshot
      rw [← same, written] at bracket
      cases bracket
      exact absurd isDigit (by decide)
    have total : wrapNotice ≠ "TOTAL SNAPSHOTS: " ++ toString (first :: rest).length := by
      intro same
      rw [same, String.toList_append] at bracket
      exact absurd bracket (by simp)
    simp only [printedTable, List.mem_append, List.mem_singleton, head, lines, total, false_or,
      or_false, ne_eq, reduceCtorEq, not_false_eq_true, true_and]

/-- What is printed of a run of snapshots is the table of the window, with the notice once as many
have been recorded as the ring has places. -/
theorem dump_recordAll (snapshots : List Snapshot) :
    (recordAll snapshots).dump = printedTable
      (if historyCapacity ≤ snapshots.length then ["", wrapNotice] else [])
      (snapshots.drop (snapshots.length - historyCapacity)) := by
  -- The ring keeps as many as have been recorded until it is full.
  have size := size_recordAll snapshots
  have full : (recordAll snapshots).size = historyCapacity ↔ historyCapacity ≤ snapshots.length := by
    omega
  rw [dump_eq_printedTable, toList_recordAll]
  simp only [full]

/-- The notice is printed once as many snapshots have been recorded as the ring has places. -/
theorem wrapNotice_mem_dump_iff (snapshots : List Snapshot) :
    wrapNotice ∈ (recordAll snapshots).dump ↔ historyCapacity ≤ snapshots.length := by
  have positive : 0 < historyCapacity := by decide
  rw [dump_recordAll, wrapNotice_mem_printedTable_iff, Ne, ← List.length_eq_zero_iff,
    List.length_drop]
  by_cases reached : historyCapacity ≤ snapshots.length
  · -- A ring that is full has a snapshot to print.
    have recorded : ¬ snapshots.length - (snapshots.length - historyCapacity) = 0 := by omega
    simp [reached, recorded]
  · simp [reached]

/-- A dump lists the latest snapshots in order, as many as the ring has places, with a line for each
of them and their number at the end, and nothing if there are none. Unless exactly as many have been
recorded as there are places, it gives notice exactly if a snapshot has been overwritten. -/
theorem dump_notice_truthful_iff (snapshots : List Snapshot) :
    let dump := (recordAll snapshots).dump
    let window := snapshots.drop (snapshots.length - historyCapacity)
    (dump = [] ↔ snapshots = []) ∧ window.length = min snapshots.length historyCapacity ∧
      dump = printedTable
        (if historyCapacity ≤ snapshots.length then ["", wrapNotice] else []) window ∧
      (empty.displacedBy snapshots ≠ [] ↔ historyCapacity < snapshots.length) ∧
      ((wrapNotice ∈ dump ↔ empty.displacedBy snapshots ≠ []) ↔
        snapshots.length ≠ historyCapacity) := by
  intro dump window
  have positive : 0 < historyCapacity := by decide
  have length : window.length = snapshots.length - (snapshots.length - historyCapacity) :=
    List.length_drop
  have overwritten := displacedBy_empty_ne_nil_iff snapshots
  have printed : dump = printedTable
      (if historyCapacity ≤ snapshots.length then ["", wrapNotice] else []) window :=
    dump_recordAll snapshots
  refine ⟨?_, by omega, printed, overwritten, ?_⟩
  · -- A window is empty only if nothing has been recorded.
    rw [printed, printedTable_eq_nil_iff, ← List.length_eq_zero_iff, ← List.length_eq_zero_iff]
    omega
  · -- The two conditions differ at the capacity itself only.
    rw [wrapNotice_mem_dump_iff, overwritten]
    omega

/-- A ring that has just been filled is said to have gone round, although nothing in it has been
overwritten. -/
theorem dump_notice_at_capacity :
    let snapshot : Snapshot := ⟨0, some (.clamp 100), some (.clamp 200), none, some 1000, .normal⟩
    let snapshots := List.replicate 8192 snapshot
    empty.displacedBy snapshots = [] ∧ wrapNotice ∈ (recordAll snapshots).dump := by
  intro snapshot snapshots
  -- There are exactly as many snapshots as places, so none of them had to share one.
  have filled : snapshots.length = historyCapacity := List.length_replicate
  have overwritten := displacedBy_empty_ne_nil_iff snapshots
  constructor
  · by_contra lost
    exact Nat.lt_irrefl _ (filled ▸ overwritten.mp lost)
  · exact (wrapNotice_mem_dump_iff snapshots).mpr filled.ge

end History

end PowerGovernor
