import PowerGovernor.Policy.Table

/-! How the poll interval moves while a policy state is kept. -/

namespace PowerGovernor.Policy

/-- The sum of two words, or the largest word when it does not fit. -/
def saturatingAdd (left right : UInt32) : UInt32 :=
  (min (left.toNat + right.toNat) maxWord32).toUInt32

/-- A number of milliseconds without its incomplete hundred. -/
def floorToHundred (milliseconds : UInt32) : UInt32 :=
  milliseconds / 100 * 100

/-- The idle share of an interval. -/
def idlePart (interval : UInt32) (load : BasisPoints) : UInt32 :=
  -- The product of two words needs the double width, and the quotient fits in one again.
  (interval.toUInt64 * load.idleShare.toUInt64 / fullScale.toUInt64).toUInt32

namespace State

/-- The interval that the state's increment leads to, before its limits. -/
def incrementedInterval (state : State) (interval : UInt32) (cpu : Reading) : UInt32 :=
  match state.increment with
  | .fixed step => saturatingAdd interval step
  | .adaptive =>
    match cpu with
    | some load => floorToHundred (idlePart state.maxInterval load)
    | none => interval
  | .passthrough => interval

/-- Raises an interval to the state's shortest one, if it has one. -/
def raiseInterval (state : State) (interval : UInt32) : UInt32 :=
  if 0 < state.minInterval then max interval state.minInterval else interval

/-- Lowers an interval to the state's longest one, if it has one. -/
def lowerInterval (state : State) (interval : UInt32) : UInt32 :=
  if 0 < state.maxInterval then min interval state.maxInterval else interval

/-- The next poll interval while the state is kept. -/
def nextInterval (state : State) (interval : UInt32) (cpu : Reading) : UInt32 :=
  -- The longest interval wins over the shortest, and neither leads below the floor.
  let moved := state.incrementedInterval interval cpu
  max (state.lowerInterval (state.raiseInterval moved)) shortestInterval

/-- The poll interval when the state is newly entered. -/
def firstInterval (state : State) : UInt32 :=
  if 0 < state.minInterval then state.minInterval else defaultInterval

end State

end PowerGovernor.Policy
