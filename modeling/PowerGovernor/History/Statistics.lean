import PowerGovernor.History.Basic

/-! Statistics of the polls that are kept. -/

namespace PowerGovernor

/-- The order of modes: normal, low-power, then the policy states by number. -/
def Mode.rank : Mode → Nat
  | .normal => 0
  | .lowPower => 1
  | .state id => id + 2

/-- Counts one more occurrence of a mode in an ascending tally. -/
def bumpMode (mode : Mode) : List (Mode × Nat) → List (Mode × Nat)
  | [] => [(mode, 1)]
  | (other, count) :: rest =>
    if mode = other then (other, count + 1) :: rest
    else if mode.rank < other.rank then (mode, 1) :: (other, count) :: rest
    else (other, count) :: bumpMode mode rest

/-- How often each mode occurs, in the order of modes. -/
def tallyModes (modes : List Mode) : List (Mode × Nat) :=
  modes.foldl (fun tally mode => bumpMode mode tally) []

/-- How often neighbours in a list differ. -/
def countChanges (modes : List Mode) : Nat :=
  (modes.zip modes.tail).countP fun pair => pair.1 != pair.2

/-- The mean of the known readings, rounded down. -/
def averageReading (readings : List Reading) : Reading :=
  let known := readings.filterMap id
  if known.isEmpty then none
  else
    let total := known.foldl (fun sum share => sum + share.value) 0
    some (BasisPoints.clamp (total / known.length))

/-- What a list of snapshots amounts to. -/
structure Statistics where
  /-- The number of polls. -/
  polls : Nat
  /-- Nanoseconds between the first and the last poll. -/
  elapsed : Nat
  /-- Mean load of the whole system. -/
  averageSystem : Reading
  /-- Mean load of the busiest CPU. -/
  averageCpu : Reading
  /-- Mean load of the graphics engines. -/
  averageGfx : Reading
  /-- Largest load of the busiest CPU. -/
  peakCpu : Reading
  /-- How often the mode changed. -/
  transitions : Nat
  /-- How many polls each mode lasted. -/
  modePolls : List (Mode × Nat)
deriving DecidableEq

/-- The statistics of snapshots in the order of time; fewer than two have none. -/
def Statistics.ofSnapshots? (snapshots : List Snapshot) : Option Statistics :=
  match snapshots.head?, snapshots.getLast? with
  | some first, some last =>
    if snapshots.length < 2 then none
    else
      let modes := snapshots.map Snapshot.mode
      some
        { polls := snapshots.length
          elapsed := last.time - first.time
          averageSystem := averageReading (snapshots.map Snapshot.system)
          averageCpu := averageReading (snapshots.map Snapshot.cpu)
          averageGfx := averageReading (snapshots.map Snapshot.gfx)
          peakCpu := (snapshots.map Snapshot.cpu).foldl Reading.larger none
          transitions := countChanges modes
          modePolls := tallyModes modes }
  | _, _ => none

/-- The statistics of the snapshots that are kept. -/
def History.statistics? (history : History) : Option Statistics :=
  Statistics.ofSnapshots? history.toList

end PowerGovernor
