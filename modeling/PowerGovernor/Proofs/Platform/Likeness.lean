import PowerGovernor.Graphics.Registers
import PowerGovernor.Proofs.Files.Agreement

/-! Machines that look alike in everything the governor reads, whatever becomes of its commands. -/

namespace PowerGovernor

variable {Left Right : Type}

/-- Two kinds of machines and a relation between them under which they look alike: they hold the
same at every watched path, give the same registers and are in the same mode. Commands and readings
keep them alike, but a command may fail on one machine only. -/
structure Platform.LooksLike (left : Platform Left) (right : Platform Right)
    (watched : Path → Prop) (alike : Left → Right → Prop) : Prop where
  /-- Watched paths hold the same. -/
  files : ∀ {one other}, alike one other → ∀ path, watched path →
    (left.files one).AgreeAt (right.files other) path
  /-- The controller runs on the same CPU. -/
  currentCpu : ∀ {one other}, alike one other → left.currentCpu one = right.currentCpu other
  /-- The same registers can be read, with the same values. -/
  register : ∀ {one other}, alike one other → ∀ cpu address,
    (left.readRegister cpu address one).1.toOption =
      (right.readRegister cpu address other).1.toOption
  /-- Reading a register keeps the machines alike. -/
  readRegister : ∀ {one other}, alike one other → ∀ cpu address,
    alike (left.readRegister cpu address one).2 (right.readRegister cpu address other).2
  /-- The machines are in the same mode. -/
  inLowPower : ∀ {one other}, alike one other → left.inLowPower one = right.inLowPower other
  /-- A command keeps the machines alike. -/
  perform : ∀ {one other}, alike one other → ∀ command,
    alike (left.perform command one).2 (right.perform command other).2

/-- Two kinds of machines and a relation between them under which their registers cannot be told
apart, whatever their files hold. Reading a register keeps them so. -/
structure Platform.SameRegisters (left : Platform Left) (right : Platform Right)
    (alike : Left → Right → Prop) : Prop where
  /-- The controller runs on the same CPU. -/
  currentCpu : ∀ {one other}, alike one other → left.currentCpu one = right.currentCpu other
  /-- The same registers can be read, with the same values. -/
  register : ∀ {one other}, alike one other → ∀ cpu address,
    (left.readRegister cpu address one).1.toOption =
      (right.readRegister cpu address other).1.toOption
  /-- Reading a register keeps the machines alike. -/
  readRegister : ∀ {one other}, alike one other → ∀ cpu address,
    alike (left.readRegister cpu address one).2 (right.readRegister cpu address other).2

namespace Platform

variable {left : Platform Left} {right : Platform Right} {watched : Path → Prop}
  {alike : Left → Right → Prop} {one : Left} {other : Right}

/-- Machines that look alike have the same registers. -/
theorem LooksLike.sameRegisters (looks : left.LooksLike right watched alike) :
    left.SameRegisters right alike :=
  ⟨looks.currentCpu, looks.register, looks.readRegister⟩

/-- A series of commands keeps machines alike, whichever of the commands fail. -/
theorem LooksLike.performAll (looks : left.LooksLike right watched alike)
    (commands : List Command) : ∀ {one other}, alike one other →
      alike (left.performAll commands one).2 (right.performAll commands other).2 := by
  -- The relation is kept by each command, so it is quantified over both machines.
  induction commands with
  | nil => exact fun related => related
  | cons command rest ih => exact fun related => ih (looks.perform related command)

/-- A register is read from both machines with the same value, or from neither. -/
theorem SameRegisters.register_cases (same : left.SameRegisters right alike)
    (related : alike one other) (cpu : Nat) (address : UInt32) :
    (∃ value, (left.readRegister cpu address one).1 = .ok value ∧
        (right.readRegister cpu address other).1 = .ok value) ∨
      ∃ fault reason, (left.readRegister cpu address one).1 = .error fault ∧
        (right.readRegister cpu address other).1 = .error reason := by
  -- As optional values the outcomes are equal, so one reading fails only with the other.
  have equal := same.register related cpu address
  cases first : (left.readRegister cpu address one).1 with
  | ok value =>
    -- Where the first reading succeeds, the second one does, and with the same value.
    cases second : (right.readRegister cpu address other).1 with
    | ok found =>
      rw [first, second] at equal
      cases equal
      exact Or.inl ⟨value, rfl, rfl⟩
    | error reason =>
      rw [first, second] at equal
      cases equal
  | error fault =>
    cases second : (right.readRegister cpu address other).1 with
    | ok found =>
      rw [first, second] at equal
      cases equal
    | error reason => exact Or.inr ⟨fault, reason, rfl, rfl⟩

/-- Reading both registers takes the same calls, gives the same values and keeps machines alike. -/
theorem SameRegisters.readRegisters (same : left.SameRegisters right alike)
    (related : alike one other) (cpu : Nat) :
    let first := Graphics.readRegisters left cpu one
    let second := Graphics.readRegisters right cpu other
    first.outcome.toOption = second.outcome.toOption ∧ first.calls = second.calls ∧
      alike first.world second.world := by
  unfold Graphics.readRegisters
  -- The first register is read on both machines or on none, and both stay alike.
  have stamps := same.register_cases related cpu Graphics.timeStampRegister
  have stamped := same.readRegister related cpu Graphics.timeStampRegister
  revert stamps stamped
  cases left.readRegister cpu Graphics.timeStampRegister one with
  | mk first one =>
    cases right.readRegister cpu Graphics.timeStampRegister other with
    | mk second other =>
      rintro (⟨stamp, rfl, rfl⟩ | ⟨fault, reason, rfl, rfl⟩) stamped
      · -- Only after the first register could be read the second one is.
        have counts := same.register_cases stamped cpu Graphics.activeResidencyRegister
        have counted := same.readRegister stamped cpu Graphics.activeResidencyRegister
        revert counts counted
        simp only
        cases left.readRegister cpu Graphics.activeResidencyRegister one with
        | mk first one =>
          cases right.readRegister cpu Graphics.activeResidencyRegister other with
          | mk second other =>
            rintro (⟨active, rfl, rfl⟩ | ⟨fault, reason, rfl, rfl⟩) counted
            · exact ⟨rfl, rfl, counted⟩
            · exact ⟨rfl, rfl, counted⟩
      · -- Where the first one fails, nothing else is read on either machine.
        exact ⟨rfl, rfl, stamped⟩

end Platform

end PowerGovernor
