import PowerGovernor.CpuSet.Basic

/-! The written form of a CPU set: maximal runs in ascending order. -/

namespace PowerGovernor.CpuSet

/-- The maximal runs of consecutive numbers in an ascending list, by their two ends. -/
def runs : List Nat → List (Nat × Nat)
  | [] => []
  | cpu :: rest =>
    match runs rest with
    | [] => [(cpu, cpu)]
    | (low, high) :: more =>
      if low = cpu + 1 then (cpu, high) :: more else (cpu, cpu) :: (low, high) :: more

/-- One run, written as a number or as its two ends. -/
def runText (run : Nat × Nat) : String :=
  if run.1 = run.2 then toString run.1 else toString run.1 ++ "-" ++ toString run.2

/-- The runs of a set, with commas between them. -/
def text (set : CpuSet) : String :=
  ",".intercalate ((runs set.toList).map runText)

end PowerGovernor.CpuSet
