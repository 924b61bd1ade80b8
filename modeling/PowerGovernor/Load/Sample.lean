import PowerGovernor.BasisPoints

/-! The loads that one poll works with. -/

namespace PowerGovernor

/-- The loads known at one point in time. -/
structure Sample where
  /-- Load of the whole system. -/
  system : Reading := none
  /-- Load of the busiest CPU. -/
  cpu : Reading := none
  /-- Load of the graphics engines. -/
  gfx : Reading := none
  /-- Milliseconds on the controller's clock. -/
  timestamp : Nat := 0
deriving DecidableEq

end PowerGovernor
