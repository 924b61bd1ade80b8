import PowerGovernor.BasisPoints
import PowerGovernor.CpuSet.Printer
import PowerGovernor.CpuSet.Reader
import PowerGovernor.Note
import PowerGovernor.Policy.Spec

/-! The table of policy states: configured states in order of priority, normalised once. -/

namespace PowerGovernor.Policy

/-- The poll interval in milliseconds when nothing else is asked for. -/
def defaultInterval : UInt32 := 1000

/-- The shortest poll interval in milliseconds that a kept state leads to. -/
def shortestInterval : UInt32 := 100

/-- The policy states decide from this number of usable states on. -/
def leastUsableStates : Nat := 2

/-- A policy state ready for matching, with its loads in basis points. -/
structure State where
  /-- The position in the configuration, counted from one. -/
  id : Nat
  /-- The name of the state. -/
  name : String
  /-- Whether the state may be selected. -/
  valid : Bool
  /-- The workload type the state is meant for. -/
  workload : Option UInt32
  /-- Largest system load for entering. -/
  systemLimit : Option BasisPoints
  /-- Largest CPU load for entering. -/
  cpuLimit : Option BasisPoints
  /-- CPU load for leaving. -/
  cpuExit : Option BasisPoints
  /-- Largest graphics load for entering. -/
  gfxLimit : Option BasisPoints
  /-- How far the system load may rise above its limit while the state is held. -/
  margin : Option BasisPoints
  /-- Shortest poll interval in milliseconds, zero for none. -/
  minInterval : UInt32
  /-- Longest poll interval in milliseconds. -/
  maxInterval : UInt32
  /-- How the poll interval moves while the state is kept. -/
  increment : Increment
  /-- The CPUs that stay active, when the state restricts them. -/
  activeCpus : Option CpuSet
  /-- What happens to interrupts. -/
  irq : IrqPolicy
  /-- Energy-performance preference of the state. -/
  epp : Option UInt32
  /-- Energy-performance bias of the state. -/
  epb : Option UInt32
  /-- Turbo core scheduling of the state. -/
  itmt : Option UInt32
  /-- The system load when the state was last selected. -/
  entrySystem : Reading
  /-- The CPU load when the state was last selected. -/
  entryCpu : Reading
deriving DecidableEq

/-- Whether the state limits any load. -/
def State.limitsLoad (state : State) : Bool :=
  state.systemLimit.isSome || state.cpuLimit.isSome || state.gfxLimit.isSome

/-- A load limit in percent; zero means that there is none. -/
def limitOfPercent (percent : UInt32) : Option BasisPoints :=
  if percent = 0 then none else some (BasisPoints.ofPercent percent.toNat)

/-- A margin in basis points; zero means that there is none. -/
def marginOfPoints (points : UInt32) : Option BasisPoints :=
  if points = 0 then none else some (BasisPoints.clamp points.toNat)

/-- The shortest interval of a state; one that is not set follows the longest up to the default. -/
def effectiveMin (spec : Spec) : UInt32 :=
  if spec.minInterval = 0 then min spec.maxInterval defaultInterval else spec.minInterval

/-- The longest interval of a state; one that is not set is the default, or the shortest if that
is longer. -/
def effectiveMax (spec : Spec) : UInt32 :=
  if spec.maxInterval = 0 then max (effectiveMin spec) defaultInterval else spec.maxInterval

/-- The CPUs a configured state restricts itself to; a blank list restricts nothing. -/
def readActiveCpus (spec : Spec) : Except CpuSet.ReadError (Option CpuSet) :=
  if isBlankText spec.activeCpus.toList then .ok none
  else (CpuSet.read spec.activeCpus).map some

/-- A usable state. -/
def usableState (id : Nat) (spec : Spec) (activeCpus : Option CpuSet) : State where
  id
  name := spec.name
  valid := true
  workload := spec.workload
  systemLimit := limitOfPercent spec.systemPercent
  cpuLimit := limitOfPercent spec.cpuPercent
  cpuExit := limitOfPercent spec.cpuExitPercent
  gfxLimit := limitOfPercent spec.gfxPercent
  margin := marginOfPoints spec.marginPoints
  minInterval := effectiveMin spec
  maxInterval := effectiveMax spec
  increment := spec.increment.getD .adaptive
  activeCpus
  irq := spec.irq
  epp := spec.epp
  epb := spec.epb
  itmt := spec.itmt
  entrySystem := none
  entryCpu := none

/-- A state that keeps its place in the table but is never selected. -/
def unusableState (id : Nat) (spec : Spec) : State where
  id
  name := spec.name
  valid := false
  workload := spec.workload
  systemLimit := none
  cpuLimit := none
  cpuExit := none
  gfxLimit := none
  margin := none
  minInterval := defaultInterval
  maxInterval := defaultInterval
  increment := .adaptive
  activeCpus := none
  irq := spec.irq
  epp := spec.epp
  epb := spec.epb
  itmt := spec.itmt
  entrySystem := none
  entryCpu := none

/-- A configured state made ready; one with an unreadable CPU list is kept as unusable. -/
def State.ofSpec (id : Nat) (spec : Spec) : State :=
  match readActiveCpus spec with
  | .ok activeCpus => usableState id spec activeCpus
  | .error _ => unusableState id spec

/-- The warning about a state with an unreadable CPU list. -/
def warningOfSpec (id : Nat) (spec : Spec) : List Note :=
  match readActiveCpus spec with
  | .ok _ => []
  | .error error =>
    [.warn ("STATE " ++ toString id ++ " (" ++ spec.name ++ "): INVALID ACTIVE CPUS '" ++
      spec.activeCpus ++ "': " ++ error.message)]

/-- The policy states in order of priority. -/
structure Table where
  /-- The states, the most preferred one first. -/
  states : List State
  /-- Whether the states decide; otherwise the built-in controller does. -/
  multiState : Bool

/-- How many states may be selected. -/
def Table.usableCount (table : Table) : Nat :=
  table.states.countP State.valid

/-- The table of the configured states, which are numbered from one. -/
def Table.ofSpecs (specs : List Spec) : Table :=
  let states := specs.mapIdx fun index spec => State.ofSpec (index + 1) spec
  { states, multiState := leastUsableStates ≤ states.countP State.valid }

/-- What is reported while the table is built. -/
def Table.notesOfSpecs (specs : List Spec) : List Note :=
  let table := Table.ofSpecs specs
  let warnings := (specs.mapIdx fun index spec => warningOfSpec (index + 1) spec).flatten
  let verdict := if table.multiState then [] else
    [Note.info (toString table.usableCount ++
      " valid config states found, using built-in idle/overload control")]
  warnings ++ verdict

end PowerGovernor.Policy
