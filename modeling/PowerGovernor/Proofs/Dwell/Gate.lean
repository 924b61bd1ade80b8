import PowerGovernor.Dwell
import PowerGovernor.Platform.Basic

/-! What the dwell gate knows about either change of mode, and what one request does to that. -/

namespace PowerGovernor

/-- The verdict that asks for a change of mode. -/
def ModeChange.verdict : ModeChange → LoadStatus
  | .enter => .idle
  | .leave => .overload

namespace DwellGate

/-- The average that a change of mode asks to be high. -/
def average (gate : DwellGate) : ModeChange → Nat
  | .enter => gate.averageIn
  | .leave => gate.averageOut

/-- How high a change of mode asks its average to be. -/
def threshold (gate : DwellGate) : ModeChange → Nat
  | .enter => gate.thresholdIn
  | .leave => gate.thresholdOut

/-- How long a mode has to last before the change that ends it. -/
def minimum (gate : DwellGate) : ModeChange → Nat
  | .enter => gate.minimumOut
  | .leave => gate.minimumIn

/-- Since when the mode has lasted that a change ends. -/
def since (gate : DwellGate) : ModeChange → Nat
  | .enter => gate.lastOut
  | .leave => gate.lastIn

/-- The change of mode was made. -/
def mark (gate : DwellGate) (change : ModeChange) (now : Nat) : DwellGate :=
  match change with
  | .enter => gate.markEntered now
  | .leave => gate.markLeft now

/-- Two gates that differ in nothing but their averages. -/
structure SameBounds (gate next : DwellGate) : Prop where
  /-- The same averages are asked for. -/
  threshold : next.threshold = gate.threshold
  /-- The modes have to last equally long. -/
  minimum : next.minimum = gate.minimum
  /-- The modes have lasted since the same moments. -/
  since : next.since = gate.since

/-- A gate is disabled when neither change asks anything of its average. -/
theorem disabled_iff {gate : DwellGate} :
    gate.disabled = true ↔ ∀ change, gate.threshold change = 0 := by
  -- The two changes have a threshold each.
  simp only [disabled, Bool.and_eq_true, beq_iff_eq]
  constructor
  · rintro ⟨entry, exit⟩ change
    cases change with
    | enter => exact entry
    | leave => exact exit
  · intro free
    exact ⟨free .enter, free .leave⟩

/-- A request moves nothing but the averages. -/
theorem sameBounds_request (gate : DwellGate) (status : LoadStatus) (now : Nat) :
    gate.SameBounds (gate.request status now).1 := by
  -- A disabled gate stays as it is.
  unfold request
  split
  · exact ⟨rfl, rfl, rfl⟩
  · -- Allowed or refused, the new averages are all that is written.
    cases status with
    | idle =>
      simp only [requestIdle]
      split <;> exact ⟨rfl, rfl, rfl⟩
    | overload =>
      simp only [requestOverload]
      split <;> exact ⟨rfl, rfl, rfl⟩
    | normal => exact ⟨rfl, rfl, rfl⟩
    | unknown => exact ⟨rfl, rfl, rfl⟩

/-- A change is allowed once its average is high enough and the mode before it has lasted long
enough. -/
theorem allowed_iff {gate : DwellGate} {change : ModeChange} {now : Nat} :
    (gate.request change.verdict now).2.1 = true ↔
      gate.disabled = true ∨ (gate.threshold change ≤ gate.average change ∧
        gate.minimum change ≤ now - gate.since change) := by
  -- Either change makes the test of the other one on the opposite fields.
  unfold request
  cases off : gate.disabled with
  | true => simp
  | false =>
    cases change with
    | enter =>
      simp only [Bool.false_eq_true, if_false, ModeChange.verdict, requestIdle, false_or]
      split <;> simp_all [threshold, average, minimum, since]
    | leave =>
      simp only [Bool.false_eq_true, if_false, ModeChange.verdict, requestOverload, false_or]
      split <;> simp_all [threshold, average, minimum, since]

/-- Asking for a change raises the change's own average if it is refused, and leaves it alone
otherwise. -/
theorem average_request_self (gate : DwellGate) (change : ModeChange) (now : Nat) :
    (gate.request change.verdict now).1.average change =
      if (gate.request change.verdict now).2.1 then gate.average change
      else inflate (gate.average change) := by
  -- A disabled gate allows everything and is left as it is.
  unfold request
  cases gate.disabled with
  | true => rfl
  | false =>
    cases change with
    | enter =>
      simp only [Bool.false_eq_true, if_false, ModeChange.verdict, requestIdle]
      split <;> rfl
    | leave =>
      simp only [Bool.false_eq_true, if_false, ModeChange.verdict, requestOverload]
      split <;> rfl

/-- Asking for the other change draws an average towards the time that the present mode has
lasted, whatever the answer is. -/
theorem average_request_other {gate : DwellGate} (enabled : gate.disabled = false)
    {asked other : ModeChange} (apart : other ≠ asked) (now : Nat) :
    (gate.request asked.verdict now).1.average other =
      decay (gate.average other) (now - gate.since asked) := by
  -- The average decays before the request is judged.
  unfold request
  rw [enabled]
  cases asked with
  | enter =>
    cases other with
    | enter => exact absurd rfl apart
    | leave =>
      simp only [Bool.false_eq_true, if_false, ModeChange.verdict, requestIdle]
      split <;> rfl
  | leave =>
    cases other with
    | leave => exact absurd rfl apart
    | enter =>
      simp only [Bool.false_eq_true, if_false, ModeChange.verdict, requestOverload]
      split <;> rfl

/-- Making a change starts the mode that the other change ends. -/
theorem since_mark (gate : DwellGate) (change other : ModeChange) (now : Nat) :
    (gate.mark change now).since other = if other = change then gate.since other else now := by
  -- Each change starts the clock of the other one and leaves its own alone.
  cases change <;> cases other <;> rfl

/-- Making a change asks for nothing new. -/
theorem bounds_mark (gate : DwellGate) (change : ModeChange) (now : Nat) :
    (gate.mark change now).threshold = gate.threshold ∧
      (gate.mark change now).minimum = gate.minimum := by
  -- Marking writes moments only.
  cases change <;> exact ⟨rfl, rfl⟩

end DwellGate

end PowerGovernor
