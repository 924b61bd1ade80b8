import PowerGovernor.Platform.Host
import PowerGovernor.Platform.Simulated

/-! Machines over time: how they change by themselves, and that their mode is the one asked for. -/

namespace PowerGovernor

variable {World : Type}

/-- The mode that a command leaves a machine in. -/
def Command.modeAfter (lowPower : Bool) : Command → Bool
  | .changeMode change => change == .enter
  | _ => lowPower

/-- A machine whose mode is always the one that it was last told to take. -/
structure Platform.TracksMode (platform : Platform World) : Prop where
  /-- Only a change of mode changes the mode, and it always does. -/
  inLowPower_perform : ∀ command world,
    platform.inLowPower (platform.perform command world).2 =
      command.modeAfter (platform.inLowPower world)
  /-- Reading a register leaves the mode alone. -/
  inLowPower_readRegister : ∀ cpu address world,
    platform.inLowPower (platform.readRegister cpu address world).2 = platform.inLowPower world

/-- A moment at which a machine is met. -/
structure Moment (World : Type) where
  /-- Milliseconds on the controller's clock. -/
  now : Nat
  /-- How the machine has changed by itself since the moment before. -/
  drift : World → World

/-- A machine keeps its mode until it is told to change it. -/
def Moment.KeepsMode (platform : Platform World) (moment : Moment World) : Prop :=
  ∀ world, platform.inLowPower (moment.drift world) = platform.inLowPower world

/-- A simulated machine that refuses a setting stays as it is, so its mode only follows changes. -/
theorem Simulated.tracksMode : Simulated.platform.TracksMode where
  inLowPower_perform command world := by
    -- A setting that is changed or refused touches no other variable.
    have change_lowPower : ∀ knob (changed : Simulated), changed.lowPower = world.lowPower →
        (world.change knob changed).2.lowPower = world.lowPower := by
      intro knob changed same
      unfold Simulated.change
      split
      · rfl
      · exact same
    cases command with
    | setEpp value => exact change_lowPower _ _ rfl
    | setEpb value => exact change_lowPower _ _ rfl
    | setItmt value => exact change_lowPower _ _ rfl
    | setActiveCpus cpus irq => exact change_lowPower _ _ rfl
    | changeMode change => rfl
  inLowPower_readRegister cpu address world := by
    change (Simulated.readRegister cpu address world).2.lowPower = world.lowPower
    unfold Simulated.readRegister
    split <;> rfl

namespace Host

/-- Writing a file does not change the mode. -/
@[simp] theorem lowPower_write (host : Host) (path : Path) (value : String) :
    (host.write path value).2.lowPower = host.lowPower := by
  -- A dry run writes nothing, and a write only touches the files.
  unfold write
  split
  · rfl
  · split <;> rfl

/-- Writing files in turn does not change the mode, however far it gets. -/
@[simp] theorem lowPower_writeAll (value : String) (paths : List Path) (host : Host) :
    (writeAll value paths host).2.lowPower = host.lowPower := by
  -- The machine that a write leaves is the one that the next write meets.
  induction paths generalizing host with
  | nil => rfl
  | cons path rest ih =>
    simp only [writeAll]
    -- The first write that fails is the last one.
    split
    · exact lowPower_write host path value
    · rw [ih, lowPower_write]

/-- A machine controlled through its files takes the mode that it was last told to take. -/
theorem tracksMode : Host.platform.TracksMode where
  -- Only a change of mode is remembered as one; everything else goes to files.
  inLowPower_perform command host := by
    cases command with
    | setEpp value => exact lowPower_writeAll _ _ host
    | setEpb value => exact lowPower_writeAll _ _ host
    | setItmt value => exact lowPower_write host _ _
    | setActiveCpus cpus irq => rfl
    | changeMode change => rfl
  inLowPower_readRegister cpu address host := by
    simp only [platform]
    split <;> rfl

end Host

namespace Platform

/-- After a series of commands a machine is in the mode that the last change of mode left. -/
theorem TracksMode.inLowPower_performAll {platform : Platform World}
    (tracks : platform.TracksMode) (commands : List Command) (world : World) :
    platform.inLowPower (platform.performAll commands world).2 =
      commands.foldl Command.modeAfter (platform.inLowPower world) := by
  -- Each command has the law of the platform, and the mode is passed on from one to the next.
  induction commands generalizing world with
  | nil => rfl
  | cons command rest ih =>
    simp only [performAll, List.foldl_cons]
    -- The rest starts from the mode that the first command left.
    rw [ih, tracks.inLowPower_perform]

end Platform

end PowerGovernor
