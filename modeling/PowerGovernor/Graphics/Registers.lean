import PowerGovernor.BasisPoints
import PowerGovernor.Platform.Basic

/-! Graphics load from registers: the active residency against the time stamp counter. -/

namespace PowerGovernor.Graphics

/-- The register of the time stamp counter. -/
def timeStampRegister : UInt32 := 0x10

/-- The register of the residency in which any graphics engine is active. -/
def activeResidencyRegister : UInt32 := 0x65A

/-- Both registers at one moment. -/
structure RegisterPair where
  /-- The time stamp counter. -/
  timeStamp : UInt64
  /-- The active residency. -/
  active : UInt64
deriving DecidableEq

/-- One reading of both registers, with the machine and its calls. -/
structure RegisterReading (World : Type) where
  /-- The registers, or why they could not be read. -/
  outcome : Except Fault RegisterPair
  /-- The machine after the reading. -/
  world : World
  /-- The calls that the reading took. -/
  calls : List Call

/-- Reads both registers of one CPU; the second one only after the first could be read. -/
def readRegisters {World : Type} (platform : Platform World) (cpu : Nat) (world : World) :
    RegisterReading World :=
  let firstCall := Call.readRegister cpu timeStampRegister
  match platform.readRegister cpu timeStampRegister world with
  | (.error fault, world) => ⟨.error fault, world, [firstCall]⟩
  | (.ok timeStamp, world) =>
    let calls := [firstCall, Call.readRegister cpu activeResidencyRegister]
    match platform.readRegister cpu activeResidencyRegister world with
    | (.error fault, world) => ⟨.error fault, world, calls⟩
    | (.ok active, world) => ⟨.ok ⟨timeStamp, active⟩, world, calls⟩

/-- The load between two readings, whose counters may have wrapped around. -/
def loadBetween (current previous : RegisterPair) : Reading :=
  let elapsed := current.timeStamp - previous.timeStamp
  if elapsed = 0 then none
  else some (BasisPoints.ratio (current.active - previous.active).toNat elapsed.toNat)

end PowerGovernor.Graphics
