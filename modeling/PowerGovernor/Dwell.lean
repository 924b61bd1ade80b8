import PowerGovernor.Note
import PowerGovernor.Text.Numeral

/-! The dwell gate, which holds back changes of mode that come too soon after one another. -/

namespace PowerGovernor

/-- The verdict on the load of the system. -/
inductive LoadStatus where
  | idle
  | normal
  | overload
  | unknown
deriving DecidableEq

/-- The name of a verdict. -/
def LoadStatus.label : LoadStatus → String
  | .idle => "IDLE"
  | .normal => "NORMAL"
  | .overload => "OVERLOAD"
  | .unknown => "UNKNOWN"

/-- Dwell times in and out of low-power mode, all in milliseconds. -/
structure DwellGate where
  /-- Running average of the time spent in low-power mode. -/
  averageIn : Nat := 0
  /-- Running average of the time spent out of it. -/
  averageOut : Nat := 0
  /-- When low-power mode was last entered. -/
  lastIn : Nat := 0
  /-- When low-power mode was last left. -/
  lastOut : Nat := 0
  /-- The average that an entry asks for. -/
  thresholdIn : Nat := 0
  /-- The average that an exit asks for. -/
  thresholdOut : Nat := 0
  /-- The least time to spend in low-power mode. -/
  minimumIn : Nat := 0
  /-- The least time to spend out of it. -/
  minimumOut : Nat := 0
deriving DecidableEq

namespace DwellGate

/-- A factor applied to a duration that stays within a 64-bit word. -/
def scale (duration factor : Nat) : Nat :=
  min (duration * factor) maxWord64

/-- An average that has moved a fifth of the way to a new duration. -/
def decay (average duration : Nat) : Nat :=
  min (scale average 4 / 5 + duration / 5) maxWord64

/-- An average raised by a fifth. -/
def inflate (average : Nat) : Nat :=
  scale average 6 / 5

/-- A gate whose averages start at their thresholds. -/
def new (now thresholdIn thresholdOut : Nat) : DwellGate where
  averageIn := thresholdIn
  averageOut := thresholdOut
  lastIn := now
  lastOut := now
  thresholdIn
  thresholdOut
  minimumIn := thresholdIn / 2
  minimumOut := thresholdOut / 2

/-- A gate without thresholds lets everything pass. -/
def disabled (gate : DwellGate) : Bool :=
  gate.thresholdIn == 0 && gate.thresholdOut == 0

/-- A request for low-power mode: the time out of it counts, and a refusal raises the average of
the time in it. -/
def requestIdle (gate : DwellGate) (now : Nat) : DwellGate × Bool × List Note :=
  let dwell := now - gate.lastOut
  let averageOut := decay gate.averageOut dwell
  if gate.thresholdIn ≤ gate.averageIn ∧ gate.minimumOut ≤ dwell then
    ({ gate with averageOut }, true, [])
  else
    ({ gate with averageOut, averageIn := inflate gate.averageIn }, false,
      [.info ("IGNORE IDLE: avg_in " ++ toString gate.averageIn ++ ", avg_out " ++
        toString averageOut ++ ", cur_out " ++ toString dwell)])

/-- A request to leave low-power mode: the time in it counts, and a refusal raises the average of
the time out of it. -/
def requestOverload (gate : DwellGate) (now : Nat) : DwellGate × Bool × List Note :=
  let dwell := now - gate.lastIn
  let averageIn := decay gate.averageIn dwell
  if gate.thresholdOut ≤ gate.averageOut ∧ gate.minimumIn ≤ dwell then
    ({ gate with averageIn }, true, [])
  else
    ({ gate with averageIn, averageOut := inflate gate.averageOut }, false,
      [.info ("IGNORE OVERLOAD: avg_in " ++ toString averageIn ++ ", avg_out " ++
        toString gate.averageOut ++ ", cur_in " ++ toString dwell)])

/-- Whether a verdict may be acted on. -/
def request (gate : DwellGate) (status : LoadStatus) (now : Nat) :
    DwellGate × Bool × List Note :=
  if gate.disabled then (gate, true, [])
  else
    match status with
    | .idle => gate.requestIdle now
    | .overload => gate.requestOverload now
    | .normal | .unknown => (gate, false, [])

/-- Low-power mode was entered. -/
def markEntered (gate : DwellGate) (now : Nat) : DwellGate :=
  { gate with lastIn := now }

/-- Low-power mode was left. -/
def markLeft (gate : DwellGate) (now : Nat) : DwellGate :=
  { gate with lastOut := now }

end DwellGate

end PowerGovernor
