import PowerGovernor.Platform.Basic
import PowerGovernor.Policy.Match
import PowerGovernor.Policy.Pace

/-! Selecting policy states over time: the first state in the table that admits the sample. -/

namespace PowerGovernor.Policy

/-- The outcome of one decision, before the machine has carried anything out. -/
structure Decision where
  /-- The recommended poll interval in milliseconds. -/
  interval : Option UInt32 := none
  /-- What the machine is asked for, in order. -/
  commands : List Command := []
  /-- What is reported before the commands. -/
  before : List Note := []
  /-- What is reported after the commands. -/
  after : List Note := []

/-- The policy states together with the one that is held. -/
structure Selector where
  /-- The policy states. -/
  table : Table
  /-- The place of the state that is held. -/
  current : Option Nat
  /-- The interval recommended last. -/
  interval : UInt32

namespace Selector

/-- A selector that holds no state yet. -/
def ofTable (table : Table) : Selector :=
  { table, current := none, interval := defaultInterval }

/-- Whether the policy states decide. -/
def multiState (selector : Selector) : Bool :=
  selector.table.multiState && !selector.table.states.isEmpty

/-- The state that is held. -/
def currentState? (selector : Selector) : Option State :=
  selector.current.bind fun index => selector.table.states[index]?

/-- Whether the state at a place admits the sample, given which state is held. -/
def admitsAt (selector : Selector) (sample : Sample) (hint : Option UInt32)
    (entry : State × Nat) : Bool :=
  entry.1.admits (selector.current == some entry.2) sample hint

/-- The place of the first state that admits the sample. -/
def find? (selector : Selector) (sample : Sample) (hint : Option UInt32) : Option Nat :=
  selector.table.states.zipIdx.findIdx? (selector.admitsAt sample hint)

/-- The traces of all states looked at, the last of which may have been found. -/
def traces (selector : Selector) (sample : Sample) (hint : Option UInt32) : List Note :=
  let entries := selector.table.states.zipIdx
  let seen := match selector.find? sample hint with
    | some index => entries.take (index + 1)
    | none => entries
  seen.map fun entry => entry.1.trace (selector.admitsAt sample hint entry) sample

end Selector

/-- The state with the loads of the sample it is selected for. -/
def State.recordEntry (sample : Sample) (state : State) : State :=
  { state with entrySystem := sample.system, entryCpu := sample.cpu }

/-- What a state asks the machine for when it is newly entered. -/
def State.commands (state : State) : List Command :=
  -- A state without a CPU set leaves every CPU active and interrupts alone.
  let activation := match state.activeCpus with
    | some cpus => Command.setActiveCpus (some cpus) state.irq
    | none => Command.setActiveCpus none .ignore
  (state.epp.map Command.setEpp).toList ++ (state.epb.map Command.setEpb).toList ++
    (state.itmt.map Command.setItmt).toList ++ [activation, .changeMode .enter]

namespace Selector

/-- Selects the state at a place: a held one is kept, any other one is newly entered. -/
def enter (selector : Selector) (index : Nat) (sample : Sample) : Selector × Decision :=
  match selector.table.states[index]? with
  | none => (selector, {})
  | some state =>
    let table :=
      { selector.table with states := selector.table.states.modify index (.recordEntry sample) }
    if selector.current = some index then
      let interval := state.nextInterval selector.interval sample.cpu
      ({ selector with table, interval }, { interval := some interval })
    else
      let interval := state.firstInterval
      ({ table, current := some index, interval },
        { interval := some interval
          commands := state.commands
          after := [.info ("STATE -> [" ++ toString state.id ++ "] " ++ state.name)] })

/-- Selects the first state that admits the sample; without one everything stays as it is. -/
def select (selector : Selector) (sample : Sample) (hint : Option UInt32) :
    Selector × Decision :=
  let before := selector.traces sample hint
  match selector.find? sample hint with
  | some index =>
    let (next, decision) := selector.enter index sample
    (next, { decision with before })
  | none => (selector, { before })

/-- The state that is held, the loads and the machine's settings in one line. -/
def statusLine (selector : Selector) (sample : Sample) (interval : Option UInt32)
    (posture : Posture) : String :=
  match selector.currentState? with
  | none => ""
  | some state =>
    let column (width : Nat) (value : Option UInt32) : String :=
      match value with
      | some value => padNumber width value.toNat
      | none => "na"
    let itmt := if state.itmt.isSome then "itmt " ++ column 2 posture.itmt ++ ", " else ""
    let pace := match interval with
      | some interval => "interval " ++ padNumber 4 interval.toNat
      | none => "interval   na"
    "[" ++ toString state.id ++ "/" ++ toString selector.table.states.length ++ "] " ++
      pad .right 12 state.name ++ ": bsys " ++ pad .right 6 sample.system.text ++
      ", bcpu " ++ pad .right 6 sample.cpu.text ++ ", bgfx " ++ pad .right 6 sample.gfx.text ++
      ", epp " ++ posture.epp.text ++ ", epb " ++ column 3 posture.epb ++ ", " ++ itmt ++ pace

/-- What is reported about the state that is held, if there is one. -/
def statusNotes (selector : Selector) (sample : Sample) (interval : Option UInt32)
    (posture : Posture) : List Note :=
  if selector.current.isSome then [.info (selector.statusLine sample interval posture)] else []

end Selector

end PowerGovernor.Policy
