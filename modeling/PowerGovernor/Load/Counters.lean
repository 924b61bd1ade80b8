import PowerGovernor.BasisPoints
import PowerGovernor.Text.Blank
import PowerGovernor.Text.Numeral

/-! Tick counters of the CPUs, as the kernel's statistics table lists them. -/

namespace PowerGovernor

/-- The number of counters in a line of the table. -/
def counterCount : Nat := 10

/-- Whose counters a line lists. -/
inductive CpuTag where
  | aggregate
  | cpu (number : Nat)
deriving DecidableEq

/-- A tag inside a message. -/
def CpuTag.label : CpuTag → String
  | .aggregate => "Aggregate"
  | .cpu number => "Cpu(" ++ toString number ++ ")"

/-- One line of counters; a field that is no number is listed as missing. -/
structure StatLine where
  /-- Whose counters these are. -/
  tag : CpuTag
  /-- The counters that the line has, up to their full number. -/
  fields : List (Option UInt64)
deriving DecidableEq

/-- Reads the first word of a line of counters. -/
def CpuTag.read? : List Char → Option CpuTag
  | ['c', 'p', 'u'] => some .aggregate
  | 'c' :: 'p' :: 'u' :: number => (readUnsigned maxWord64 number).toOption.map .cpu
  | _ => none

/-- Reads a line of the table; lines about anything but CPUs are none. -/
def StatLine.read? (line : List Char) : Option StatLine :=
  match words line with
  | [] => none
  | first :: rest =>
    (CpuTag.read? first).map fun tag =>
      { tag, fields := (rest.take counterCount).map readWord64? }

/-- The counters of one CPU, or of all of them together. -/
abbrev Counters := Vector UInt64 counterCount

namespace Counters

/-- Counters that have not started. -/
def zero : Counters := Vector.replicate counterCount 0

/-- The counters after a line: a field that is missing keeps its counter. -/
def update (counters : Counters) (fields : List (Option UInt64)) : Counters :=
  Vector.ofFn fun index => (fields[index.val]?.join).getD counters[index]

/-- A counter that the line gives is replaced, and any other one stays. -/
@[simp] theorem getElem_update (counters : Counters) (fields : List (Option UInt64))
    (index : Fin counterCount) :
    (counters.update fields)[index] = (fields[index.val]?.join).getD counters[index] := by
  simp [update]

/-- The positions of the counters of idle time. -/
def isIdle (index : Fin counterCount) : Bool :=
  index.val == 3 || index.val == 4

/-- How far a counter has advanced; one that runs backwards has not. -/
def advance (current previous : Counters) (index : Fin counterCount) : UInt64 :=
  if previous[index] < current[index] then current[index] - previous[index] else 0

/-- The ticks by which the chosen counters have advanced. -/
def ticks (chosen : Fin counterCount → Bool) (current previous : Counters) : UInt64 :=
  (List.finRange counterCount).foldl
    (fun sum index => if chosen index then sum + advance current previous index else sum) 0

/-- The share of ticks that were not idle. -/
def busyBetween (current previous : Counters) : BasisPoints :=
  BasisPoints.ratio (ticks (fun index => !isIdle index) current previous).toNat
    (ticks (fun _ => true) current previous).toNat

end Counters

end PowerGovernor
