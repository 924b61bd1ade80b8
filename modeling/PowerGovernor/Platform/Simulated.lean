import PowerGovernor.Platform.Basic

/-! A machine that exists in memory: its settings are variables, its registers follow a script. -/

namespace PowerGovernor

/-- The settings that a simulated machine can refuse to change. -/
inductive Knob where
  | epp
  | epb
  | itmt
  | activeCpus
deriving DecidableEq

/-- The name of a setting in a refusal. -/
def Knob.label : Knob → String
  | .epp => "epp"
  | .epb => "epb"
  | .itmt => "itmt"
  | .activeCpus => "cpus"

/-- The condition of a simulated machine. -/
structure Simulated where
  /-- The files of the machine. -/
  files : FileTree
  /-- Whether the machine is in low-power mode. -/
  lowPower : Bool := false
  /-- The settings the machine shows. -/
  posture : Posture := ⟨.unknown, none, none⟩
  /-- The settings that the machine refuses to change. -/
  refused : List Knob := []
  /-- The CPU the controller runs on. -/
  cpu : Nat := 0
  /-- The outcomes of the next register reads; a missing one is a read that fails. -/
  script : List (Option UInt64) := []

namespace Simulated

/-- Changes a setting, unless the machine refuses. -/
def change (world : Simulated) (knob : Knob) (changed : Simulated) : Response × Simulated :=
  if world.refused.contains knob then
    ({ fault := some { summary := "writing " ++ knob.label ++ ": EPERM" } }, world)
  else ({}, changed)

/-- Carries out a command. -/
def perform (command : Command) (world : Simulated) : Response × Simulated :=
  match command with
  | .setEpp value =>
    world.change .epp { world with posture := { world.posture with epp := .raw value } }
  | .setEpb value =>
    world.change .epb { world with posture := { world.posture with epb := some value } }
  | .setItmt value =>
    world.change .itmt { world with posture := { world.posture with itmt := some value } }
  | .setActiveCpus _ _ => world.change .activeCpus world
  | .changeMode change => ({}, { world with lowPower := change == .enter })

/-- Takes the next outcome from the script. -/
def readRegister (_cpu : Nat) (_address : UInt32) (world : Simulated) :
    Except Fault UInt64 × Simulated :=
  match world.script with
  | [] => (.error { summary := "exhausted" }, world)
  | none :: rest => (.error { summary := "EIO" }, { world with script := rest })
  | some value :: rest => (.ok value, { world with script := rest })

/-- The simulated machine as a platform. -/
def platform : Platform Simulated where
  files := Simulated.files
  currentCpu := Simulated.cpu
  readRegister := readRegister
  inLowPower := Simulated.lowPower
  posture := Simulated.posture
  perform := perform

end Simulated

end PowerGovernor
