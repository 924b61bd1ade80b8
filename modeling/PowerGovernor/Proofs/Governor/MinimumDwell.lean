import PowerGovernor.Proofs.Dwell.Gate
import PowerGovernor.Proofs.Governor.Alternation

/-! Low-power mode lasts as long as its settings ask for, and so does the time out of it. -/

namespace PowerGovernor

/-- The least time in milliseconds that a mode lasts before the change that ends it. -/
def Settings.minimumDwell (settings : Settings) : ModeChange → Nat
  | .enter => settings.exitDwell / 2
  | .leave => settings.entryDwell / 2

/-- A gate whose minimum times are the halves of its thresholds. -/
def DwellGate.Halved (gate : DwellGate) : Prop :=
  gate.minimumIn = gate.thresholdIn / 2 ∧ gate.minimumOut = gate.thresholdOut / 2

namespace DwellGate

/-- Gates that differ in nothing but their averages have the same minimum times. -/
theorem Halved.of_sameBounds {gate next : DwellGate} (halved : gate.Halved)
    (same : gate.SameBounds next) : next.Halved := by
  -- The four bounds are what both kinds of changes ask for.
  have thresholdIn := congrFun same.threshold .enter
  have thresholdOut := congrFun same.threshold .leave
  have minimumIn := congrFun same.minimum .leave
  have minimumOut := congrFun same.minimum .enter
  simp only [threshold, minimum] at thresholdIn thresholdOut minimumIn minimumOut
  unfold Halved
  rw [minimumIn, minimumOut, thresholdIn, thresholdOut]
  exact halved

/-- Making a change keeps the minimum times. -/
theorem Halved.mark {gate : DwellGate} (halved : gate.Halved) (change : ModeChange) (now : Nat) :
    (gate.mark change now).Halved := by
  -- Marking writes none of the four bounds.
  cases change <;> exact halved

/-- A change that is allowed comes after the minimum time, even if the gate is disabled. -/
theorem Halved.minimum_le {gate : DwellGate} (halved : gate.Halved) {change : ModeChange}
    {now : Nat} (allowed : (gate.request change.verdict now).2.1 = true) :
    gate.minimum change ≤ now - gate.since change := by
  rcases allowed_iff.mp allowed with off | ⟨_, dwelt⟩
  · -- A disabled gate has thresholds of zero, and so minimum times of zero.
    have free := disabled_iff.mp off
    have entry : gate.thresholdIn = 0 := free .enter
    have exit : gate.thresholdOut = 0 := free .leave
    have none : gate.minimum change = 0 := by
      cases change <;> simp [minimum, halved.1, halved.2, entry, exit]
    omega
  · -- A gate that is not disabled has checked the minimum time itself.
    exact dwelt

end DwellGate

variable {World : Type}

/-- The changes of mode that a run asked for, each with the time of its poll. -/
def timedChanges (occasions : List (Occasion World)) (ticks : List (Tick World)) :
    List (Nat × ModeChange) :=
  (occasions.zip ticks).flatMap fun (occasion, tick) =>
    tick.modeChanges.map fun change => (occasion.now, change)

/-- The changes of the first poll come first. -/
theorem timedChanges_cons (occasion : Occasion World) (rest : List (Occasion World))
    (tick : Tick World) (ticks : List (Tick World)) :
    timedChanges (occasion :: rest) (tick :: ticks) =
      (tick.modeChanges.map fun change => (occasion.now, change)) ++ timedChanges rest ticks :=
  rfl

/-- Changes that come no sooner after one another than the given times. -/
def Spaced (minimum : ModeChange → Nat) (changes : List (Nat × ModeChange)) : Prop :=
  changes.Pairwise fun earlier later =>
    earlier.2 ≠ later.2 → earlier.1 + minimum later.2 ≤ later.1

/-- Changes none of which comes before its minimum time, counted from the moment that the gate
counts from and from every earlier change to the mode that it ends. -/
structure DwellGate.Admits (gate : DwellGate) (changes : List (Nat × ModeChange)) : Prop where
  /-- The changes come late enough after the moments that the gate knows of. -/
  counted : ∀ entry ∈ changes, gate.since entry.2 + gate.minimum entry.2 ≤ entry.1
  /-- The changes come late enough after one another. -/
  spaced : Spaced gate.minimum changes

/-- The averages of a gate have no part in which changes come late enough. -/
theorem DwellGate.Admits.of_sameBounds {gate next : DwellGate} {changes : List (Nat × ModeChange)}
    (admits : next.Admits changes) (same : gate.SameBounds next) : gate.Admits changes := by
  -- Neither condition mentions the averages.
  obtain ⟨counted, spaced⟩ := admits
  rw [same.minimum] at counted spaced
  rw [same.since] at counted
  exact ⟨counted, spaced⟩

/-- A change that comes late enough goes before those that come late enough after it. -/
theorem DwellGate.Admits.cons {gate : DwellGate} {change : ModeChange} {now : Nat}
    {changes : List (Nat × ModeChange)} (admits : (gate.mark change now).Admits changes)
    (begun : ∀ change, gate.since change ≤ now)
    (dwelt : gate.minimum change ≤ now - gate.since change) :
    gate.Admits ((now, change) :: changes) := by
  -- The change is late enough itself, and it marks the moment for its opposite.
  obtain ⟨counted, spaced⟩ := admits
  rw [(DwellGate.bounds_mark gate change now).2] at counted spaced
  simp only [DwellGate.since_mark] at counted
  refine ⟨?_, List.pairwise_cons.mpr ⟨?_, spaced⟩⟩
  · intro entry member
    rcases List.mem_cons.mp member with rfl | after
    · have := begun change
      simp only
      omega
    · -- The marked gate counts from no earlier than the gate before it.
      have limit := counted entry after
      have earlier := begun entry.2
      split at limit <;> omega
  · -- A later change of the other kind is counted from the mark.
    intro entry after apart
    have limit := counted entry after
    rw [if_neg (Ne.symm apart)] at limit
    exact limit

namespace Governor

/-- A poll that the built-in controller decides asks the gate about one verdict. It changes no mode
and keeps the gate that answered, or it makes a change that was allowed and tells the gate. -/
theorem tick_consults_gate {platform : Platform World} (tracks : platform.TracksMode)
    {governor : Governor} (monitored : governor.settings.monitor = true)
    (builtIn : governor.selector.multiState = false) (now : Nat) (world : World) :
    let tick := governor.tick now none platform world
    ∃ status, let (next, allowed, _) := (governor.gateAt now).request status now
      (tick.modeChanges = [] ∧ tick.governor.openedGate = some next) ∨
        ∃ change, status = ModeChange.verdict change ∧ allowed = true ∧
          tick.modeChanges = [change] ∧
          tick.governor.openedGate = some (next.mark change now) := by
  -- The controller either makes no change or the one that was asked for and allowed.
  rcases tick_controlled tracks monitored builtIn now world with
    ⟨kept, asks⟩ | ⟨change, -, allowed, made, asks⟩
  · -- The gate has answered, whatever it was asked about.
    exact ⟨_, Or.inl ⟨asks.modeChanges, by rw [kept]; rfl⟩⟩
  · exact ⟨change.verdict, Or.inr ⟨change, rfl, allowed, asks.modeChanges, by rw [made]; rfl⟩⟩

/-- Once its gate counts from moments in the past, a run makes only changes that come late
enough. -/
theorem admits_run {platform : Platform World} (tracks : platform.TracksMode) :
    ∀ occasions : List (Occasion World),
      (∀ occasion ∈ occasions, occasion.hint = none) →
      occasions.Pairwise (fun earlier later => earlier.now ≤ later.now) →
      ∀ (governor : Governor) (world : World) (gate : DwellGate),
        governor.settings.monitor = true → governor.selector.multiState = false →
        (∀ first ∈ occasions.head?, governor.gateAt first.now = gate) → gate.Halved →
        (∀ occasion ∈ occasions, ∀ change, gate.since change ≤ occasion.now) →
        gate.Admits (timedChanges occasions (governor.run platform world occasions)) := by
  -- A change moves the moment for the other change, which the rest of the run is measured against.
  intro occasions
  induction occasions with
  | nil =>
    intro _ _ governor world gate _ _ _ _ _
    exact ⟨by simp [run, timedChanges], by simp [run, timedChanges, Spaced]⟩
  | cons occasion rest ih =>
    intro plain ordered governor world gate monitored builtIn consulted halved past
    have unhinted := plain occasion (by simp)
    have opening := consulted occasion rfl
    obtain ⟨later, ordered⟩ := List.pairwise_cons.mp ordered
    simp only [run, unhinted, timedChanges_cons]
    obtain ⟨sameSettings, sameSelector, _, _⟩ :=
      tick_cases tracks monitored builtIn occasion.now (occasion.drift world)
    obtain ⟨status, outcome⟩ :=
      tick_consults_gate tracks monitored builtIn occasion.now (occasion.drift world)
    have bounds := gate.sameBounds_request status occasion.now
    rw [opening] at outcome
    generalize governor.tick occasion.now none platform (occasion.drift world) = tick
      at sameSettings sameSelector outcome ⊢
    have continued := ih (fun other member => plain other (by simp [member])) ordered
      tick.governor tick.world
    have nextHalved := halved.of_sameBounds bounds
    simp only at outcome
    rcases outcome with ⟨quiet, kept⟩ | ⟨change, rfl, allowed, made, marked⟩
    · -- The gate counts from the same moments as before.
      have admits := continued _ (sameSettings ▸ monitored) (sameSelector ▸ builtIn)
        (fun _ _ => by rw [gateAt, kept]; rfl) nextHalved
        (fun other member => by rw [bounds.since]; exact past other (by simp [member]))
      simpa [quiet] using admits.of_sameBounds bounds
    · -- The change itself is late enough, and the opposite change is counted from now on.
      have dwelt := halved.minimum_le allowed
      have begun := past occasion (by simp)
      have admits := continued _ (sameSettings ▸ monitored)
        (sameSelector ▸ builtIn) (fun _ _ => by rw [gateAt, marked]; rfl)
        (nextHalved.mark change occasion.now) (fun other member opposite => by
          rw [DwellGate.since_mark, bounds.since]
          have := past other (by simp [member]) opposite
          have := later other member
          split <;> omega)
      rw [← bounds.since] at begun
      rw [← bounds.since, ← bounds.minimum] at dwelt
      rw [made]
      exact (admits.cons begun dwelt).of_sameBounds bounds

/-- Without monitoring, polls without hints change no mode. -/
theorem timedChanges_of_unmonitored (platform : Platform World) :
    ∀ occasions : List (Occasion World), (∀ occasion ∈ occasions, occasion.hint = none) →
      ∀ (governor : Governor) (world : World), governor.settings.monitor = false →
        timedChanges occasions (governor.run platform world occasions) = [] := by
  intro occasions
  induction occasions with
  | nil => intro _ governor world _; rfl
  | cons occasion rest ih =>
    intro plain governor world off
    have unhinted := plain occasion (by simp)
    -- The poll does nothing but take the time.
    have later := ih (fun other member => plain other (by simp [member]))
      (governor.tick occasion.now none platform (occasion.drift world)).governor
      (governor.tick occasion.now none platform (occasion.drift world)).world
      (by simp [tick, off])
    simp only [run, unhinted, timedChanges_cons, later]
    simp [tick, off, Tick.modeChanges]

/-- Without enough usable policy states, a run of polls without hints on a clock that never goes
back keeps to the minimum times. Low-power mode is left no sooner than half the entry threshold
after it was entered. It is entered no sooner than half the exit threshold after it was left, or
after the first poll. -/
theorem changes_spaced_by_minimumDwell {platform : Platform World} (tracks : platform.TracksMode)
    (settings : Settings) {table : Policy.Table} (counted : table.Counted)
    (few : table.usableCount < Policy.leastUsableStates) (sampler : Sampler)
    (probe : Graphics.Probe) (world : World) {occasions : List (Occasion World)}
    (plain : ∀ occasion ∈ occasions, occasion.hint = none)
    (ordered : occasions.Pairwise fun earlier later => earlier.now ≤ later.now) :
    let changes := timedChanges occasions
      ((Governor.new settings table sampler probe).run platform world occasions)
    (∀ first ∈ occasions.head?, ∀ entry ∈ changes,
      first.now + settings.minimumDwell entry.2 ≤ entry.1) ∧
      Spaced settings.minimumDwell changes := by
  -- An unmonitored system never changes its mode.
  cases monitored : settings.monitor with
  | false =>
    have nothing := timedChanges_of_unmonitored platform occasions plain
      (Governor.new settings table sampler probe) world monitored
    simp [nothing, Spaced]
  | true =>
    cases occasions with
    | nil => simp [run, timedChanges, Spaced]
    | cons first rest =>
      -- The first poll sets up the gate, which counts from that poll for both changes.
      let gate := DwellGate.new first.now settings.entryDwell settings.exitDwell
      have since : ∀ change, gate.since change = first.now := by
        intro change
        cases change <;> rfl
      have minimum : gate.minimum = settings.minimumDwell := by
        funext change
        cases change <;> rfl
      have begun : ∀ occasion ∈ first :: rest, ∀ change, gate.since change ≤ occasion.now := by
        intro occasion member change
        rw [since]
        rcases List.mem_cons.mp member with rfl | later
        · exact Nat.le_refl _
        · exact List.rel_of_pairwise_cons ordered later
      have admits := admits_run tracks (first :: rest) plain ordered
        (Governor.new settings table sampler probe) world gate monitored
        (multiState_new_of_few counted few settings sampler probe)
        (fun _ same => by cases same; rfl) ⟨rfl, rfl⟩ begun
      obtain ⟨late, spaced⟩ := admits
      simp only [since, minimum] at late spaced
      refine ⟨fun _ same => ?_, spaced⟩
      cases same
      exact late

/-- Low-power mode that is entered a second after the first poll lasts for the two seconds that its
threshold of four seconds asks for. -/
theorem changes_spaced_idleThenBusy :
    let settings : Settings := { entryDwell := 4000, exitDwell := 1000 }
    let changes := timedChanges idleThenBusy
      ((Governor.new settings (.ofSpecs []) (.new ["stat"] 1) (.new ["tile0"])).run
        Simulated.platform { files := .rooted [] } idleThenBusy)
    changes = [(1000, .enter), (3000, .leave)] ∧
      (∀ first ∈ idleThenBusy.head?, ∀ entry ∈ changes,
        first.now + settings.minimumDwell entry.2 ≤ entry.1) ∧
      Spaced settings.minimumDwell changes := by
  refine ⟨by decide +kernel, ?_⟩
  -- Neither is there any policy state, nor does a poll have a hint or the clock go back.
  apply changes_spaced_by_minimumDwell Simulated.tracksMode _
    (Policy.Table.counted_ofSpecs []) (by decide)
  · decide
  · decide

end Governor

end PowerGovernor
