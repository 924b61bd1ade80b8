import PowerGovernor.Files.Tree
import PowerGovernor.Load.Counters
import PowerGovernor.Note

/-! CPU and system load between two successive readings of the statistics table. -/

namespace PowerGovernor

/-- The last known counters of one CPU. -/
structure CounterSlot where
  /-- Whether the latest table had a line for it. -/
  present : Bool
  /-- The counters. -/
  counters : Counters

/-- Counters that no table has mentioned yet. -/
def CounterSlot.unseen : CounterSlot := ⟨false, Counters.zero⟩

/-- The counters after one line of the table. -/
def CounterSlot.update (fields : List (Option UInt64)) (slot : CounterSlot) : CounterSlot :=
  ⟨true, slot.counters.update fields⟩

/-- The counters carried into the next table, which has not mentioned them yet. -/
def CounterSlot.carry (slot : CounterSlot) : CounterSlot :=
  { slot with present := false }

/-- All counters known after one table. -/
structure Generation where
  /-- The counters of all CPUs together. -/
  aggregate : CounterSlot
  /-- The counters of the single CPUs, by number. -/
  cpus : Array CounterSlot

namespace Generation

/-- A generation with room for a number of CPUs. -/
def unseen (cpuCount : Nat) : Generation :=
  ⟨.unseen, Array.replicate cpuCount .unseen⟩

/-- The slots of the CPUs, with room for one more number. -/
def makeRoom (cpus : Array CounterSlot) (number : Nat) : Array CounterSlot :=
  cpus ++ Array.replicate (number + 1 - cpus.size) .unseen

/-- Takes in one line of the table. -/
def absorb (generation : Generation) (line : StatLine) : Generation :=
  match line.tag with
  | .aggregate => { generation with aggregate := generation.aggregate.update line.fields }
  | .cpu number =>
    { generation with
      cpus := (makeRoom generation.cpus number).modify number (CounterSlot.update line.fields) }

/-- The start of the next generation: the same counters, none of them mentioned yet. -/
def carry (generation : Generation) : Generation :=
  ⟨generation.aggregate.carry, generation.cpus.map CounterSlot.carry⟩

/-- The load of one CPU, when both generations mention it. -/
def loadOf (current previous : CounterSlot) : Reading :=
  if current.present && previous.present then
    some (Counters.busyBetween current.counters previous.counters)
  else none

/-- The load of the busiest CPU that both generations mention. -/
def busiest (current previous : Generation) : BasisPoints :=
  ((Array.zipWith loadOf current.cpus previous.cpus).foldl Reading.larger none).getD .zero

end Generation

/-- The loads that a table leads to. -/
structure Busy where
  /-- Load of the whole system. -/
  system : BasisPoints
  /-- Load of the busiest CPU. -/
  cpu : BasisPoints
deriving DecidableEq

/-- The two latest generations of counters. -/
structure Sampler where
  /-- Where the statistics table is found. -/
  path : Path
  /-- The counters before the latest table. -/
  previous : Generation
  /-- The counters after the latest table. -/
  current : Generation
  /-- Whether any table has been read. -/
  primed : Bool

namespace Sampler

/-- A sampler that has read no table. -/
def new (path : Path) (cpuCount : Nat) : Sampler :=
  { path
    previous := .unseen cpuCount
    current := .unseen cpuCount
    primed := false }

/-- The lines about CPUs in a table. -/
def statLines (table : String) : List StatLine :=
  (table.toList.splitOn '\n').filterMap StatLine.read?

/-- What is reported about a line with fields that are no numbers. -/
def malformedNotes (line : StatLine) : List Note :=
  let count := line.fields.countP Option.isNone
  if count = 0 then [] else
    [.debug (line.tag.label ++ ": " ++ toString count ++
      " malformed field(s), deferring update to next sample")]

/-- Takes in a whole table; the first one only sets the baseline. -/
def ingest (sampler : Sampler) (table : String) : Sampler × Busy × List Note :=
  let lines := statLines table
  let current := lines.foldl Generation.absorb sampler.current.carry
  let next := { sampler with previous := sampler.current, current, primed := true }
  let busy : Busy :=
    if sampler.primed then
      { system :=
          Counters.busyBetween current.aggregate.counters sampler.current.aggregate.counters
        cpu := Generation.busiest current sampler.current }
    else ⟨.zero, .zero⟩
  (next, busy, lines.flatMap malformedNotes)

/-- Reads the table once; the loads are missing when it cannot be read. -/
def sample (sampler : Sampler) (files : FileTree) : Sampler × Option Busy × List Note :=
  match files.readText sampler.path with
  | .ok table =>
    let (next, busy, notes) := sampler.ingest table
    (next, some busy, notes)
  | .error fault => (sampler, none, [.debug (sampler.path.text ++ ": " ++ fault.message)])

end Sampler

end PowerGovernor
