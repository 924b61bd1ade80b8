import PowerGovernor.History.Statistics
import PowerGovernor.Rounding

/-! Printed reports on the history of polls, line by line. -/

namespace PowerGovernor

/-- Nanoseconds as seconds with one decimal, computed in double precision. -/
def secondsText (nanoseconds : Nat) : String :=
  fixedDecimals 1 (roundDouble (roundDouble (nanoseconds : Rat) / 1000000000))

/-- A part of a whole as a percentage with one decimal, computed in double precision. -/
def shareText (part whole : Nat) : String :=
  fixedDecimals 1 (roundDouble (roundDouble ((part : Rat) / (whole : Rat)) * 100))

/-- One line of the table of snapshots. -/
def tableLine (time system cpu gfx interval mode : String) : String :=
  pad .left 10 time ++ " " ++ pad .left 8 system ++ " " ++ pad .left 8 cpu ++ " " ++
    pad .left 8 gfx ++ " " ++ pad .left 10 interval ++ " " ++ pad .left 12 mode

/-- The line of one snapshot, timed from the first one. -/
def Snapshot.line (start : Nat) (snapshot : Snapshot) : String :=
  let interval := match snapshot.interval with
    | some interval => toString interval
    | none => "-"
  tableLine (secondsText (snapshot.time - start)) snapshot.system.text snapshot.cpu.text
    snapshot.gfx.text interval snapshot.mode.text

/-- The table of all snapshots that are kept. -/
def History.dump (history : History) : List String :=
  match history.toList with
  | [] => []
  | first :: rest =>
    let wrapped := if history.size = historyCapacity then
      ["", "(RING BUFFER WRAPPED -- SHOWING MOST RECENT " ++ toString historyCapacity ++
        " SNAPSHOTS)"] else []
    ["", tableLine "TIME_S" "SYS" "CPU" "GFX" "NEXT_MS" "MODE", "".pushn '-' 60] ++
      (first :: rest).map (Snapshot.line first.time) ++ wrapped ++
      ["TOTAL SNAPSHOTS: " ++ toString history.size]

/-- The statistics in words. -/
def Statistics.report (statistics : Statistics) : List String :=
  let rule := "".pushn '=' 50
  let modes := statistics.modePolls.map fun (mode, polls) =>
    "  " ++ pad .left 18 (mode.text ++ ":") ++ " " ++ shareText polls statistics.polls ++ "%"
  ["", rule, "POWERTIDE SUMMARY", rule,
    "  AVG SYS BUSY:      " ++ statistics.averageSystem.text ++ "%",
    "  AVG CPU BUSY:      " ++ statistics.averageCpu.text ++ "%",
    "  AVG GFX BUSY:      " ++ statistics.averageGfx.text ++ "%",
    "  PEAK CPU BUSY:     " ++ statistics.peakCpu.text ++ "%",
    "  TRANSITIONS:       " ++ toString statistics.transitions] ++ modes ++
    ["  ELAPSED:           " ++ secondsText statistics.elapsed ++ "s",
      "  SAMPLES:           " ++ toString statistics.polls]

/-- The statistics of the snapshots that are kept, in words. -/
def History.summary (history : History) : List String :=
  match history.statistics? with
  | some statistics => statistics.report
  | none => []

end PowerGovernor
