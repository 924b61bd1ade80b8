import PowerGovernor.Proofs.Dwell.Gate

/-! When requests that are repeated are allowed in the end, and when the gate shuts a change out. -/

namespace PowerGovernor.DwellGate

/-- The answers to a number of equal requests at one moment. -/
def answers (gate : DwellGate) (status : LoadStatus) (now : Nat) : Nat → List Bool
  | 0 => []
  | count + 1 =>
    let (next, allowed, _) := gate.request status now
    allowed :: next.answers status now count

/-- The gate that a number of equal requests at one moment leaves behind. -/
def afterRequests (gate : DwellGate) (status : LoadStatus) (now : Nat) : Nat → DwellGate
  | 0 => gate
  | count + 1 => (gate.request status now).1.afterRequests status now count

/-- The largest average that a refusal leads to. -/
def highestRaised : Nat := maxWord64 / 5

/-- An average that reaches its threshold if it is raised often enough. Below five a fifth of it is
rounded away, and near the largest word it is cut off before it is divided. -/
def Reopens (gate : DwellGate) (change : ModeChange) : Prop :=
  gate.disabled = true ∨ gate.threshold change ≤ gate.average change ∨
    (5 ≤ gate.average change ∧ gate.threshold change ≤ highestRaised)

/-- A gate that was set up at some moment and then used at moments that never go back, with the
latest of them. -/
inductive Reached (opened thresholdIn thresholdOut : Nat) : DwellGate → Nat → Prop
  | setUp : Reached opened thresholdIn thresholdOut (.new opened thresholdIn thresholdOut) opened
  | request {gate : DwellGate} {latest now : Nat}
      (reached : Reached opened thresholdIn thresholdOut gate latest) (later : latest ≤ now)
      (status : LoadStatus) :
      Reached opened thresholdIn thresholdOut (gate.request status now).1 now
  | mark {gate : DwellGate} {latest now : Nat}
      (reached : Reached opened thresholdIn thresholdOut gate latest) (later : latest ≤ now)
      (change : ModeChange) :
      Reached opened thresholdIn thresholdOut (gate.mark change now) now

/-- No average is raised beyond a fifth of the largest word. -/
theorem inflate_le (average : Nat) : inflate average ≤ highestRaised := by
  -- The product is cut off at the largest word before it is divided.
  unfold inflate scale highestRaised
  omega

/-- An average below five is not raised at all. -/
theorem inflate_of_lt_five {average : Nat} (small : average < 5) : inflate average = average := by
  -- Six fifths of four or less are less than one more.
  unfold inflate scale maxWord64
  omega

/-- From five on an average grows until it is as high as it gets. -/
theorem lt_inflate {average : Nat} (large : 5 ≤ average) (low : average < highestRaised) :
    average < inflate average := by
  -- A sixth fifth of five or more is at least one, unless the product is cut off.
  unfold highestRaised maxWord64 at low
  unfold inflate scale maxWord64
  omega

/-- Without any time to draw it back, an average decays as long as there is something left. -/
theorem decay_zero_lt {average : Nat} (positive : 0 < average) : decay average 0 < average := by
  -- Four fifths of something are less than it, also when they are rounded down.
  unfold decay scale
  omega

/-- A gate that refuses a change can only reopen for it if it could before. -/
theorem Reopens.of_request {gate : DwellGate} {change : ModeChange} {now : Nat}
    (refused : (gate.request change.verdict now).2.1 = false)
    (reopens : (gate.request change.verdict now).1.Reopens change) : gate.Reopens change := by
  have bounds := sameBounds_request gate change.verdict now
  have raised := average_request_self gate change now
  rw [refused, if_neg Bool.false_ne_true] at raised
  have bound := inflate_le (gate.average change)
  unfold Reopens at reopens ⊢
  rw [disabled_iff, bounds.threshold, raised] at reopens
  rw [disabled_iff]
  -- An average below five has not moved, and any other one is covered by the last case.
  rcases Nat.lt_or_ge (gate.average change) 5 with small | large
  · rw [inflate_of_lt_five small] at reopens
    exact reopens
  · rcases reopens with off | enough | ⟨_, low⟩
    · exact Or.inl off
    · exact Or.inr (Or.inr ⟨large, Nat.le_trans enough bound⟩)
    · exact Or.inr (Or.inr ⟨large, low⟩)

/-- Whoever is answered with an approval has asked a gate that reopens. -/
theorem reopens_of_mem_answers {change : ModeChange} {now : Nat} (count : Nat) :
    ∀ gate : DwellGate, true ∈ gate.answers change.verdict now count → gate.Reopens change := by
  -- Whether the gate reopens is passed back through the refusals to the first request.
  induction count with
  | zero => intro gate approved; cases approved
  | succ count ih =>
    intro gate approved
    cases allowed : (gate.request change.verdict now).2.1 with
    | true =>
      -- The first request is approved, for one of the two reasons there are.
      rcases allowed_iff.mp allowed with off | ⟨enough, _⟩
      · exact Or.inl off
      · exact Or.inr (Or.inl enough)
    | false =>
      -- The first request is refused, so a later one is approved.
      simp only [answers, allowed, List.mem_cons, Bool.true_eq_false, false_or] at approved
      exact Reopens.of_request allowed (ih _ approved)

/-- A gate that reopens approves a change after finitely many requests, if the mode before it has
lasted long enough. -/
theorem exists_mem_answers_of_reopens {change : ModeChange} {now : Nat} :
    ∀ {gate : DwellGate}, gate.Reopens change →
      gate.minimum change ≤ now - gate.since change →
      ∃ count, true ∈ gate.answers change.verdict now count := by
  intro gate
  -- Each refusal takes the average nearer to its threshold.
  induction missing : gate.threshold change - gate.average change using Nat.strongRecOn
    generalizing gate with
  | _ missing ih =>
    intro reopens dwelt
    cases allowed : (gate.request change.verdict now).2.1 with
    | true => exact ⟨1, by simp [answers, allowed]⟩
    | false =>
      have denied : ¬ (gate.request change.verdict now).2.1 = true := by simp [allowed]
      rw [allowed_iff, not_or] at denied
      have short : gate.average change < gate.threshold change := by
        have := denied.2
        omega
      -- Of the ways to reopen only growth is left.
      obtain ⟨large, low⟩ : 5 ≤ gate.average change ∧ gate.threshold change ≤ highestRaised := by
        rcases reopens with off | enough | grows
        · exact absurd off denied.1
        · omega
        · exact grows
      have bounds := sameBounds_request gate change.verdict now
      have raised := average_request_self gate change now
      rw [allowed, if_neg Bool.false_ne_true] at raised
      have grown := lt_inflate large (Nat.lt_of_lt_of_le short low)
      obtain ⟨count, approved⟩ := ih
        ((gate.request change.verdict now).1.threshold change -
          (gate.request change.verdict now).1.average change)
        (by rw [bounds.threshold, raised]; omega) rfl
        (Or.inr (Or.inr (by rw [bounds.threshold, raised]; omega)))
        (by rw [bounds.minimum, bounds.since]; exact dwelt)
      exact ⟨count + 1, by simp [answers, approved]⟩

/-- Repeated requests for a change are approved in the end exactly if the gate reopens for it. -/
theorem exists_mem_answers_iff {gate : DwellGate} {change : ModeChange} {now : Nat}
    (dwelt : gate.minimum change ≤ now - gate.since change) :
    (∃ count, true ∈ gate.answers change.verdict now count) ↔ gate.Reopens change :=
  ⟨fun ⟨count, approved⟩ => reopens_of_mem_answers count gate approved,
    fun reopens => exists_mem_answers_of_reopens reopens dwelt⟩

variable {opened thresholdIn thresholdOut : Nat}

/-- Using a gate does not change its thresholds. -/
theorem Reached.threshold {gate : DwellGate} {latest : Nat}
    (reached : Reached opened thresholdIn thresholdOut gate latest) :
    gate.threshold = (new opened thresholdIn thresholdOut).threshold := by
  -- Neither requests nor changes write a threshold.
  induction reached with
  | setUp => rfl
  | request _ _ status ih => rw [(sameBounds_request _ status _).threshold, ih]
  | mark _ _ change ih => rw [(bounds_mark _ change _).1, ih]

/-- Asking for one change again and again as soon as the mode that it ends has begun lets the
average of the other change decay to nothing. -/
theorem Reached.exists_average_zero {asked other : ModeChange} (apart : other ≠ asked)
    {now : Nat} : ∀ {gate : DwellGate}, Reached opened thresholdIn thresholdOut gate now →
      gate.disabled = false → gate.since asked = now →
      ∃ starved, Reached opened thresholdIn thresholdOut starved now ∧
        starved.average other = 0 := by
  intro gate
  induction left : gate.average other using Nat.strongRecOn generalizing gate with
  | _ left ih =>
    intro reached enabled fresh
    -- The average is the measure: it sinks with each request until nothing is left.
    rcases Nat.eq_zero_or_pos (gate.average other) with empty | positive
    · exact ⟨gate, reached, empty⟩
    · have bounds := sameBounds_request gate asked.verdict now
      have drawn := average_request_other enabled apart now
      rw [fresh, Nat.sub_self] at drawn
      have less := decay_zero_lt positive
      -- The request after this one meets a smaller average and is as early.
      refine ih _ (by rw [drawn, ← left]; exact less) rfl (reached.request (Nat.le_refl now) _)
        ?_ (by rw [bounds.since]; exact fresh)
      rw [Bool.eq_false_iff, ne_eq, disabled_iff, bounds.threshold, ← disabled_iff]
      simp [enabled]

/-- Whatever threshold a change has, requests for the other change can shut it out, unless the
threshold is zero. -/
theorem exists_reached_not_reopens {change : ModeChange}
    (asks : (new opened thresholdIn thresholdOut).threshold change ≠ 0) :
    ∃ gate, Reached opened thresholdIn thresholdOut gate opened ∧ ¬ gate.Reopens change := by
  -- A gate with a threshold is not disabled.
  have enabled : (new opened thresholdIn thresholdOut).disabled = false := by
    rw [Bool.eq_false_iff, ne_eq, disabled_iff]
    intro free
    exact asks (free change)
  -- Both modes count as begun when the gate is set up, so the other change is asked for too early.
  obtain ⟨asked, apart, fresh⟩ : ∃ asked, change ≠ asked ∧
      (new opened thresholdIn thresholdOut).since asked = opened := by
    cases change with
    | enter => exact ⟨.leave, by decide, rfl⟩
    | leave => exact ⟨.enter, by decide, rfl⟩
  obtain ⟨gate, reached, starved⟩ :=
    Reached.exists_average_zero apart Reached.setUp enabled fresh
  refine ⟨gate, reached, ?_⟩
  -- An average of nothing reaches no threshold but zero, and does not grow.
  unfold Reopens
  rw [disabled_iff, starved, reached.threshold]
  rintro (free | enough | ⟨grows, _⟩)
  · exact asks (free change)
  · omega
  · omega

/-- Repeated requests for a change, made when the mode before it has lasted long enough, are
approved in the end exactly if the gate reopens for the change. A gate that is set up and then used
in any way always does so exactly if the change has no threshold. -/
theorem approved_in_the_end_iff (opened thresholdIn thresholdOut : Nat) (change : ModeChange) :
    (∀ (gate : DwellGate) (now : Nat), gate.minimum change ≤ now - gate.since change →
      ((∃ count, true ∈ gate.answers change.verdict now count) ↔ gate.Reopens change)) ∧
    ((∀ gate latest, Reached opened thresholdIn thresholdOut gate latest →
        gate.Reopens change) ↔
      (new opened thresholdIn thresholdOut).threshold change = 0) := by
  refine ⟨fun gate now dwelt => exists_mem_answers_iff dwelt, ?_, ?_⟩
  · intro always
    -- A change with a threshold can be shut out.
    refine Classical.byContradiction fun asks => ?_
    obtain ⟨gate, reached, shut⟩ := exists_reached_not_reopens asks
    exact shut (always gate opened reached)
  · -- Without a threshold any average is high enough.
    intro free gate latest reached
    refine Or.inr (Or.inl ?_)
    rw [reached.threshold, free]
    exact Nat.zero_le _

/-- A gate whose average has decayed a little is raised to its threshold again. -/
theorem approved_after_decay :
    let gate := ((new 0 1000 1000).request .overload 100).1
    gate.averageIn = 820 ∧ gate.minimum .enter ≤ 1000 - gate.since .enter ∧
      ∃ count, true ∈ gate.answers .idle 1000 count := by
  -- An average of 820 is large enough to grow to the threshold of 1000.
  refine ⟨by decide, by decide, ?_⟩
  exact ((approved_in_the_end_iff 0 1000 1000 .enter).1 _ 1000 (by decide)).mpr
    (Or.inr (Or.inr (by decide)))

/-- Equal requests at the latest moment are a way to use a gate. -/
theorem Reached.afterRequests (status : LoadStatus) {latest : Nat} (count : Nat) :
    ∀ {gate : DwellGate}, Reached opened thresholdIn thresholdOut gate latest →
      Reached opened thresholdIn thresholdOut (gate.afterRequests status latest count) latest := by
  -- Each request is one more use at the same moment.
  induction count with
  | zero => exact fun reached => reached
  | succ count ih => exact fun reached => ih (reached.request (Nat.le_refl latest) status)

/-- After twenty-three requests to leave low-power mode in its first moment an average of four is
left, which a fifth cannot be added to. From then on no number of requests ever has the mode entered
again, however long the machine has been out of it. -/
theorem never_approved_after_starvation :
    let gate := (new 0 1000 1000).afterRequests .overload 0 23
    Reached 0 1000 1000 gate 0 ∧ gate.averageIn = 4 ∧ ∀ now, 500 ≤ now →
      gate.minimum .enter ≤ now - gate.since .enter ∧
        ∀ count, true ∉ gate.answers .idle now count := by
  -- The gate is computed once, and what it admits is read off its average.
  refine ⟨Reached.afterRequests .overload 23 .setUp, by decide +kernel, fun now late => ?_⟩
  have minimum : ((new 0 1000 1000).afterRequests .overload 0 23).minimum .enter = 500 := by
    decide +kernel
  have since : ((new 0 1000 1000).afterRequests .overload 0 23).since .enter = 0 := by
    decide +kernel
  refine ⟨by omega, fun count approved => ?_⟩
  have shut : ¬ ((new 0 1000 1000).afterRequests .overload 0 23).Reopens .enter := by
    unfold Reopens
    decide +kernel
  exact shut (reopens_of_mem_answers count _ approved)

end PowerGovernor.DwellGate
