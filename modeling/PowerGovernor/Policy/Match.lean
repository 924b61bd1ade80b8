import PowerGovernor.Load.Sample
import PowerGovernor.Policy.Table

/-! Which policy states admit a sample of loads. -/

namespace PowerGovernor.Policy

/-- Whether a reading is known to lie above a limit. -/
def exceeds (reading : Reading) (limit : BasisPoints) : Bool :=
  match reading with
  | some share => limit < share
  | none => false

/-- Whether a reading stays within a limit, if there is one. -/
def within (limit : Option BasisPoints) (reading : Reading) : Bool :=
  match limit with
  | some limit => !exceeds reading limit
  | none => true

namespace State

/-- Whether the state is meant for a workload type. -/
def acceptsWorkload (state : State) (hint : Option UInt32) : Bool :=
  match state.workload with
  | some workload => hint == some workload
  | none => true

/-- Whether the system load fits; only a held state may use its margin. -/
def acceptsSystem (state : State) (held : Bool) (reading : Reading) : Bool :=
  match state.systemLimit with
  | none => true
  | some limit =>
    !exceeds reading limit ||
      match state.margin with
      | some margin => held && !exceeds reading (limit + margin)
      | none => false

/-- Whether the state may be selected for a sample and a workload hint. -/
def admits (state : State) (held : Bool) (sample : Sample) (hint : Option UInt32) : Bool :=
  -- A limit that is not set and a load that is not known never stand in the way.
  state.valid && state.acceptsWorkload hint && within state.cpuLimit sample.cpu &&
    within state.gfxLimit sample.gfx && state.acceptsSystem held sample.system

/-- A limit inside a trace message. -/
def describeLimit (limit : Option BasisPoints) : String :=
  describeOption (limit.map fun share => toString share.value)

/-- The trace of one decision about a state. -/
def trace (state : State) (admitted : Bool) (sample : Sample) : Note :=
  .debug (pad .left 6 (if admitted then "Match" else "Ignore") ++ " " ++
    pad .right 12 state.name ++ ": sys_thres " ++ describeLimit state.systemLimit ++
    " cpu_thres " ++ describeLimit state.cpuLimit ++
    " gfx_thres " ++ describeLimit state.gfxLimit ++
    " hyst " ++ describeLimit state.margin ++ " (bgfx " ++ sample.gfx.text ++ ")")

end State

end PowerGovernor.Policy
