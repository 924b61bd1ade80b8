import PowerGovernor.CpuSet.Printer
import PowerGovernor.Files.Tree
import PowerGovernor.Note
import PowerGovernor.Policy.Spec
import PowerGovernor.Text.Pad

/-! The machine as the controller sees it: what it can read, and what it can ask for. -/

namespace PowerGovernor

/-- A failure, with the causes behind it. -/
structure Fault where
  /-- What failed. -/
  summary : String
  /-- Why it failed, the nearest cause first. -/
  causes : List String := []
deriving DecidableEq

/-- A failure with all its causes. -/
def Fault.message (fault : Fault) : String :=
  ": ".intercalate (fault.summary :: fault.causes)

/-- An energy-performance preference, as a number or by its name. -/
inductive Epp where
  | raw (value : UInt32)
  | named (name : String)
  | unknown
deriving DecidableEq

/-- A preference in its three-character column. -/
def Epp.text : Epp → String
  | .raw value => padNumber 3 value.toNat
  | .named name => name
  | .unknown => "na"

/-- A change of the low-power mode. -/
inductive ModeChange where
  | enter
  | leave
deriving DecidableEq

/-- What the controller can ask a machine for. -/
inductive Command where
  | setEpp (value : UInt32)
  | setEpb (value : UInt32)
  | setItmt (value : UInt32)
  | setActiveCpus (cpus : Option CpuSet) (irq : IrqPolicy)
  | changeMode (change : ModeChange)
deriving DecidableEq

/-- The warning about a command that failed; a change of mode cannot fail. -/
def Command.warning (fault : Fault) : Command → List Note
  | .setEpp value => [.warn ("SET EPP " ++ toString value ++ " FAILED: " ++ fault.message)]
  | .setEpb value => [.warn ("SET EPB " ++ toString value ++ " FAILED: " ++ fault.message)]
  | .setItmt value => [.warn ("SET ITMT " ++ toString value ++ " FAILED: " ++ fault.message)]
  | .setActiveCpus _ _ => [.warn ("SET ACTIVE CPUS FAILED: " ++ fault.message)]
  | .changeMode _ => []

/-- One use of a machine by the controller. -/
inductive Call where
  | command (command : Command)
  | readRegister (cpu : Nat) (address : UInt32)
deriving DecidableEq

/-- How a machine answers a command. -/
structure Response where
  /-- Why the command failed, if it did. -/
  fault : Option Fault := none
  /-- What the machine reports about it. -/
  notes : List Note := []

/-- The settings a machine shows at one moment. -/
structure Posture where
  /-- The energy-performance preference. -/
  epp : Epp
  /-- The energy-performance bias. -/
  epb : Option UInt32
  /-- The turbo core scheduling. -/
  itmt : Option UInt32

/-- A kind of machine whose condition is a value of the given type. -/
structure Platform (World : Type) where
  /-- The files of the machine. -/
  files : World → FileTree
  /-- The CPU the controller runs on. -/
  currentCpu : World → Nat
  /-- Reads a register of one CPU. -/
  readRegister : Nat → UInt32 → World → Except Fault UInt64 × World
  /-- Whether the machine is in low-power mode. -/
  inLowPower : World → Bool
  /-- The settings the machine shows. -/
  posture : World → Posture
  /-- Carries out a command. -/
  perform : Command → World → Response × World

namespace Platform

variable {World : Type}

/-- Carries out commands in order, with a warning for each that fails. -/
def performAll (platform : Platform World) : List Command → World → List Note × World
  | [], world => ([], world)
  | command :: rest, world =>
    let (response, world) := platform.perform command world
    let warnings := match response.fault with
      | some fault => command.warning fault
      | none => []
    let (notes, world) := platform.performAll rest world
    (response.notes ++ warnings ++ notes, world)

end Platform

end PowerGovernor
