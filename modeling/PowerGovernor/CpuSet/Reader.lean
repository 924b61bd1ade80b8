import PowerGovernor.CpuSet.Basic
import PowerGovernor.Text.Blank
import PowerGovernor.Text.Numeral

/-! Reading a CPU set from a list of numbers and ranges. -/

namespace PowerGovernor.CpuSet

/-- Why a text describes no CPU set. -/
inductive ReadError where
  | empty
  | badToken (token : String)
  | reversed (low high : Nat)
  | beyondLimit (cpu : Nat)
deriving DecidableEq

/-- The wording of a reading error. -/
def ReadError.message : ReadError → String
  | .empty => "empty cpu list"
  | .badToken token => "bad cpu token '" ++ token ++ "'"
  | .reversed low high => "reversed cpu range " ++ toString low ++ "-" ++ toString high
  | .beyondLimit cpu => "cpu " ++ toString cpu ++ " beyond limit " ++ toString cpuNumberLimit

/-- Reads one CPU number, which blanks may surround. -/
def readNumber (token : List Char) : Except ReadError Nat :=
  match readUnsigned maxWord64 (trim token) with
  | .ok cpu => .ok cpu
  | .error _ => .error (.badToken (String.ofList token))

/-- The set from low to high, unless the ends are reversed or reach the limit. -/
def ofEnds (low high : Nat) : Except ReadError CpuSet :=
  if high < low then .error (.reversed low high)
  else if high < cpuNumberLimit then .ok (interval low high)
  else .error (.beyondLimit high)

/-- Reads one item: a number, or two numbers with a dash between them. -/
def readItem (item : List Char) : Except ReadError CpuSet :=
  match item.splitOn '-' with
  | [single] => do
    let cpu ← readNumber single
    ofEnds cpu cpu
  | [first, last] => do
    let low ← readNumber first
    let high ← readNumber last
    ofEnds low high
  | _ => .error (.badToken (String.ofList item))

/-- The items of a text: its pieces between commas, trimmed, without the blank ones. -/
def items (text : List Char) : List (List Char) :=
  (((trim text).splitOn ',').map trim).filter fun item => !item.isEmpty

/-- Reads the union of all items; the first bad item decides the error. -/
def read (text : String) : Except ReadError CpuSet := do
  let parts ← (items text.toList).mapM readItem
  if parts.isEmpty then throw .empty
  return parts.foldl union empty

end PowerGovernor.CpuSet
