/-! A clock that moves only when it is told to. -/

namespace PowerGovernor

/-- A point in time. -/
structure Clock where
  /-- Milliseconds since the clock's origin. -/
  milliseconds : Nat
deriving DecidableEq

/-- The whole seconds that have passed. -/
def Clock.seconds (clock : Clock) : Nat :=
  clock.milliseconds / 1000

/-- The clock some milliseconds later. -/
def Clock.advance (clock : Clock) (milliseconds : Nat) : Clock :=
  ⟨clock.milliseconds + milliseconds⟩

end PowerGovernor
