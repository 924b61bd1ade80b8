import PowerGovernor.Proofs.Burst.Window

/-! A tracker that is used in any order never counts a burst that was not registered, so that a high
rate stands for bursts that there were. -/

namespace PowerGovernor.Burst

/-- One use of a tracker. -/
inductive Use where
  /-- A stretch of load or of rest is reported. -/
  | report (activity : Activity)
  /-- An occurrence is registered directly. -/
  | register (occurrence : Occurrence)
  /-- It is asked whether a rate deserves an answer at once. -/
  | ask (initialRate : Nat)
  /-- A confirmation is counted. -/
  | confirm (limit : Nat)
deriving DecidableEq

/-- What the registration of an occurrence does to the history. -/
inductive Effect where
  /-- The history begins. -/
  | anchors
  /-- A real burst is counted. -/
  | counts
  /-- The history begins anew. -/
  | resets
  /-- The history only ages. -/
  | ages
deriving DecidableEq

/-- How many real bursts have been counted since the history last began anew, by effects that are
listed from the first to the last. -/
def countedSinceReset (effects : List Effect) : Nat :=
  (effects.reverse.takeWhile (· ≠ .resets)).count .counts

/-- One more effect counts one more burst, forgets all of them or leaves their number alone. -/
theorem countedSinceReset_concat (past : List Effect) (effect : Effect) :
    countedSinceReset (past ++ [effect]) =
      match effect with
      | .counts => countedSinceReset past + 1
      | .resets => 0
      | .anchors | .ages => countedSinceReset past := by
  -- Seen from the end, the new effect comes first.
  cases effect <;> simp [countedSinceReset]

namespace Tracker

/-- The tracker after a use of it; a question leaves it alone. -/
def next (tracker : Tracker) : Use → Tracker
  | .report activity => tracker.observe activity
  | .register occurrence => tracker.register occurrence.now occurrence.real occurrence.signals
  | .ask _ => tracker
  | .confirm limit => tracker.strike limit

/-- What a use of a tracker registers. -/
def registers (tracker : Tracker) : Use → List Occurrence
  | .report activity => tracker.occurrences activity
  | .register occurrence => [occurrence]
  | .ask _ | .confirm _ => []

/-- What an occurrence does to the history when it is registered: once the history has begun, a real
burst is counted while bursts count, and anything else begins the history anew if more than one
window has passed or the count has reached its limit. -/
def effect (tracker : Tracker) (occurrence : Occurrence) : Effect :=
  match tracker.anchor with
  | none => .anchors
  | some anchor =>
    if occurrence.real && occurrence.signals.countsBursts then .counts
    else if tracker.window < ((occurrence.now - anchor : Nat) : Rat) ∨ maxCount ≤ tracker.count then
      .resets
    else .ages

/-- The tracker after one use after another. -/
def afterAll (tracker : Tracker) (uses : List Use) : Tracker :=
  uses.foldl next tracker

/-- What one use after another does to the history, in order. -/
def effects (tracker : Tracker) : List Use → List Effect
  | [] => []
  | use :: rest => (tracker.registers use).map tracker.effect ++ (tracker.next use).effects rest

/-- What holds of a tracker after everything that has been done to its history. -/
structure Sound (tracker : Tracker) (past : List Effect) : Prop where
  /-- The spike time keeps to its limit. -/
  spikeTime_le : tracker.spikeTime ≤ maxSpikeTime
  /-- The spike rate is a percentage. -/
  spikeRate_le : tracker.spikeRate ≤ 100
  /-- Without a burst there is hardly any spike time, and no burst is known to be registered. -/
  calm : tracker.inBurst = false → tracker.spikeTime < 10 ∧ tracker.registered = false
  /-- The count is the number of real bursts since the history last began anew, up to its limit. -/
  count_eq : tracker.count = min maxCount (countedSinceReset past)
  /-- The rate is never above the count. -/
  perMinute_le : tracker.perMinute ≤ tracker.count
  /-- A high rate stands for at least as many real bursts. -/
  breach : tracker.breach = true → rateThreshold ≤ countedSinceReset past

/-- The part of a tracker that registrations leave alone keeps within its bounds. -/
structure Tempered (tracker : Tracker) : Prop where
  /-- The spike time keeps to its limit. -/
  spikeTime_le : tracker.spikeTime ≤ maxSpikeTime
  /-- Without a burst there is hardly any spike time, and no burst is known to be registered. -/
  calm : tracker.inBurst = false → tracker.spikeTime < 10 ∧ tracker.registered = false
  /-- The window is a whole number within its bounds. -/
  window : IsWindow tracker.window

/-- The history is what the effects so far have made of it. -/
structure Accounts (tracker : Tracker) (past : List Effect) : Prop where
  /-- The count is the number of real bursts since the history last began anew, up to its limit. -/
  count_eq : tracker.count = min maxCount (countedSinceReset past)
  /-- The rate is never above the count. -/
  perMinute_le : tracker.perMinute ≤ tracker.count

variable {tracker : Tracker} {past : List Effect}

/-- A run ends with its last use. -/
theorem afterAll_concat (tracker : Tracker) (uses : List Use) (use : Use) :
    tracker.afterAll (uses ++ [use]) = (tracker.afterAll uses).next use :=
  List.foldl_concat ..

/-- A spike rate of zero leaves less than a hundredth of the spike time. -/
theorem spikeRate_eq_zero_iff : tracker.spikeRate = 0 ↔ tracker.spikeTime < 10 := by
  -- The rate is a hundred times the spike time over its limit, rounded down.
  unfold spikeRate maxSpikeTime
  omega

/-- A registration leaves alone what is not part of the history. -/
theorem Tempered.register (tempered : tracker.Tempered) (now : Nat) (real : Bool)
    (signals : Signals) : (tracker.register now real signals).Tempered := by
  -- Neither the spike time nor the window belongs to the history.
  rw [register_eq]
  exact ⟨tempered.spikeTime_le, tempered.calm, tempered.window⟩

/-- A spike adds its duration to the spike time, up to the limit. -/
theorem spikeTime_addSpike (tracker : Tracker) (now duration : Nat) (signals : Signals) :
    (tracker.addSpike now duration signals).spikeTime =
      min (tracker.spikeTime + duration) maxSpikeTime := by
  -- The equation of a spike shows its spike time.
  rw [addSpike_eq]
  rfl

/-- A quiet time cools the tracker down, whatever it registers. -/
theorem spikeTime_addQuiet (tracker : Tracker) (now duration : Nat) (signals : Signals) :
    (tracker.addQuiet now duration signals).1.spikeTime = tracker.spikeTime - duration := by
  -- The equation of a quiet time shows it as well.
  rw [addQuiet_eq]
  rfl

/-- A report keeps the tracker within its bounds. -/
theorem Tempered.observe (tempered : tracker.Tempered) (activity : Activity) :
    (tracker.observe activity).Tempered := by
  have window := isWindow_observe tempered.window activity
  unfold Tracker.observe at window ⊢
  -- The window has its own law, and the spike time moves up or down.
  cases kind : activity.kind with
  | spike =>
    rw [kind] at window
    dsimp only at window ⊢
    -- There is a burst after every spike, so calm is not an issue.
    refine ⟨?_, fun calm => ?_, window⟩
    · rw [spikeTime_addSpike]
      exact Nat.min_le_right _ _
    · rw [inBurst_addSpike] at calm
      contradiction
  | quiet =>
    rw [kind] at window
    dsimp only at window ⊢
    refine ⟨?_, fun calm => ⟨?_, registered_addQuiet _ _ _ _⟩, window⟩
    · rw [spikeTime_addQuiet]
      exact (Nat.sub_le _ _).trans tempered.spikeTime_le
    · rw [spikeTime_addQuiet]
      rw [inBurst_addQuiet] at calm
      cases bursting : tracker.inBurst with
      | false =>
        have before := (tempered.calm bursting).1
        omega
      | true =>
        -- A burst is over once the spike rate has come down to zero.
        simp only [bursting, endsBurst, Bool.true_and, Bool.not_eq_false', beq_iff_eq] at calm
        exact spikeRate_eq_zero_iff.mp calm

/-- Every use keeps the tracker within its bounds. -/
theorem Tempered.next (tempered : tracker.Tempered) (use : Use) : (tracker.next use).Tempered := by
  -- Reports and registrations have laws of their own; the other uses touch nothing that is bounded.
  cases use with
  | report activity => exact tempered.observe activity
  | register occurrence => exact tempered.register _ _ _
  | ask initialRate => exact tempered
  | confirm limit => exact ⟨tempered.spikeTime_le, tempered.calm, tempered.window⟩

/-- The account depends on nothing but the history. -/
theorem Accounts.of_history {other : Tracker} (accounts : tracker.Accounts past)
    (same : other.history = tracker.history) : other.Accounts past := by
  -- The count and the rate are parts of the history.
  simp only [history, Prod.mk.injEq] at same
  obtain ⟨count, rate, -⟩ := same
  exact ⟨count.trans accounts.count_eq, by rw [rate, count]; exact accounts.perMinute_le⟩

/-- The account goes on with the effect of a registration. -/
theorem Accounts.register (accounts : tracker.Accounts past) (fits : IsWindow tracker.window)
    (occurrence : Occurrence) :
    (tracker.register occurrence.now occurrence.real occurrence.signals).Accounts
      (past ++ [tracker.effect occurrence]) := by
  obtain ⟨count_eq, perMinute_le⟩ := accounts
  have within : tracker.count ≤ maxCount := count_eq ▸ Nat.min_le_left _ _
  unfold effect
  cases since : tracker.anchor with
  | none =>
    -- The history only begins: nothing is counted, and the rate stays where it was.
    have begun := history_register_of_none tracker occurrence.now occurrence.real
      occurrence.signals since
    simp only [history, Prod.mk.injEq] at begun
    obtain ⟨count, rate, -⟩ := begun
    constructor
    · rw [count, countedSinceReset_concat]
      exact count_eq
    · rw [rate, count]
      exact perMinute_le
  | some anchor =>
    have older := one_lt_elapsedWindows_iff fits anchor occurrence.now
    have outcome := history_register_of_some tracker occurrence.now occurrence.real
      occurrence.signals since
    simp only [history, older, Bool.or_eq_true, decide_eq_true_eq] at outcome
    dsimp only
    -- The registration and the account ask the same two questions.
    split_ifs at outcome ⊢ <;> simp only [Prod.mk.injEq] at outcome <;>
      obtain ⟨count, rate, -⟩ := outcome
    · -- The count and the number of bursts grow together, the count up to its limit.
      constructor
      · rw [count, countedSinceReset_concat, count_eq]
        dsimp only
        omega
      · rw [rate, count]
        exact rateOver_le (Nat.min_le_right _ _) _
    · constructor
      · rw [count, countedSinceReset_concat]
        rfl
      · rw [rate, count]
        exact rateOver_le (Nat.zero_le _) _
    · constructor
      · rw [count, countedSinceReset_concat]
        exact count_eq
      · rw [rate, count]
        exact rateOver_le within _

/-- A report registers at most one occurrence. -/
theorem occurrences_cases (tracker : Tracker) (activity : Activity) :
    tracker.occurrences activity = [] ∨
      ∃ occurrence, tracker.occurrences activity = [occurrence] := by
  unfold occurrences
  -- A spike registers a burst or nothing.
  cases activity.kind with
  | spike =>
    dsimp only
    split
    · exact Or.inr ⟨_, rfl⟩
    · exact Or.inl rfl
  | quiet =>
    dsimp only
    -- Only the end of a burst that has been registered registers nothing.
    split
    · split
      · exact Or.inl rfl
      · exact Or.inr ⟨_, rfl⟩
    · exact Or.inr ⟨_, rfl⟩

/-- A use registers at most one occurrence. -/
theorem registers_cases (tracker : Tracker) (use : Use) :
    tracker.registers use = [] ∨ ∃ occurrence, tracker.registers use = [occurrence] := by
  -- A report registers one occurrence at most, and a registration is one.
  cases use with
  | report activity => exact occurrences_cases tracker activity
  | register occurrence => exact .inr ⟨occurrence, rfl⟩
  | ask initialRate => exact .inl rfl
  | confirm limit => exact .inl rfl

/-- What a use does to the history is what it registers. -/
theorem history_next (tracker : Tracker) (use : Use) :
    (tracker.next use).history = (tracker.registerAll (tracker.registers use)).history := by
  -- Questions and confirmations register nothing and leave the history alone.
  cases use with
  | report activity => exact history_observe tracker activity
  | register occurrence => rfl
  | ask initialRate => rfl
  | confirm limit => rfl

/-- The account goes on with the effects of a use. -/
theorem Accounts.next (accounts : tracker.Accounts past) (fits : IsWindow tracker.window)
    (use : Use) :
    (tracker.next use).Accounts (past ++ (tracker.registers use).map tracker.effect) := by
  have outcome := history_next tracker use
  -- Without an occurrence there is no effect, and with one it is the effect of its registration.
  rcases registers_cases tracker use with nothing | ⟨occurrence, single⟩
  · rw [nothing] at outcome ⊢
    rw [List.map_nil, List.append_nil]
    exact accounts.of_history outcome
  · rw [single] at outcome ⊢
    exact (accounts.register fits occurrence).of_history outcome

/-- Whatever it is used for, a tracker stays within its bounds and accounts for its history. -/
theorem accounts_afterAll (uses : List Use) :
    ∀ {tracker : Tracker} {past : List Effect}, tracker.Tempered → tracker.Accounts past →
      (tracker.afterAll uses).Tempered ∧
        (tracker.afterAll uses).Accounts (past ++ tracker.effects uses) := by
  -- The effects of the first use become part of the past of the others.
  induction uses with
  | nil =>
    intro tracker past tempered accounts
    rw [effects, List.append_nil]
    exact ⟨tempered, accounts⟩
  | cons use rest ih =>
    intro tracker past tempered accounts
    have later := ih (tempered.next use) (accounts.next tempered.window use)
    rwa [List.append_assoc] at later

section Anchors

/-- Whatever is registered, the history has begun then. -/
theorem isSome_anchor_register (tracker : Tracker) (now : Nat) (real : Bool) (signals : Signals) :
    (tracker.register now real signals).anchor.isSome = true := by
  -- The anchor is the third part of the history.
  show (tracker.register now real signals).history.2.2.isSome = true
  cases since : tracker.anchor with
  | none => rw [history_register_of_none _ _ _ _ since]; rfl
  | some anchor =>
    rw [history_register_of_some _ _ _ _ since]
    dsimp only
    split_ifs <;> rfl

/-- The history has begun after a use if it had begun before or something has been registered. -/
theorem isSome_anchor_next (tracker : Tracker) (use : Use) :
    (tracker.next use).anchor.isSome =
      (tracker.anchor.isSome || !(tracker.registers use).isEmpty) := by
  -- Of all uses only registrations touch the anchor, and a use registers one thing at most.
  have outcome := history_next tracker use
  have same : (tracker.next use).anchor =
      (tracker.registerAll (tracker.registers use)).anchor :=
    congrArg (fun history => history.2.2) outcome
  rcases registers_cases tracker use with nothing | ⟨occurrence, single⟩
  · rw [same, nothing, List.isEmpty_nil, Bool.not_true, Bool.or_false]
    rfl
  · rw [same, single, List.isEmpty_cons, Bool.not_false, Bool.or_true]
    exact isSome_anchor_register _ _ _ _

/-- A history that has begun does not begin once more. -/
theorem anchors_notMem_effects (uses : List Use) :
    ∀ {tracker : Tracker}, tracker.anchor.isSome = true → .anchors ∉ tracker.effects uses := by
  -- Having begun is what every use hands on to the next one.
  induction uses with
  | nil => exact fun _ => List.not_mem_nil
  | cons use rest ih =>
    intro tracker begun
    rw [effects, List.mem_append, not_or]
    constructor
    · -- Once there is an anchor, whatever is registered is measured from it.
      obtain ⟨anchor, since⟩ := Option.isSome_iff_exists.mp begun
      intro member
      obtain ⟨occurrence, -, anchors⟩ := List.mem_map.mp member
      simp only [effect, since] at anchors
      split_ifs at anchors
    · refine ih ?_
      rw [isSome_anchor_next, begun, Bool.true_or]

/-- The first occurrence that a tracker without a history registers sets its anchor, and none of the
others does. -/
theorem effects_cases (uses : List Use) :
    ∀ {tracker : Tracker}, tracker.anchor = none →
      tracker.effects uses = [] ∧ (tracker.afterAll uses).anchor = none ∨
        ∃ rest, tracker.effects uses = .anchors :: rest ∧ .anchors ∉ rest := by
  induction uses with
  | nil => exact fun unset => .inl ⟨rfl, unset⟩
  | cons use rest ih =>
    intro tracker unset
    have after := isSome_anchor_next tracker use
    rw [unset, Option.isSome_none, Bool.false_or] at after
    rcases registers_cases tracker use with nothing | ⟨occurrence, single⟩
    · -- A use that registers nothing leaves the anchor to the others.
      rw [nothing, List.isEmpty_nil, Bool.not_true, Option.isSome_eq_false_iff,
        Option.isNone_iff_eq_none] at after
      rw [effects, nothing]
      exact ih after
    · rw [single, List.isEmpty_cons, Bool.not_false] at after
      -- The first occurrence meets no anchor, and leaves one for all that follow.
      have first : tracker.effect occurrence = .anchors := by simp only [effect, unset]
      refine .inr ⟨_, ?_, anchors_notMem_effects rest after⟩
      rw [effects, single, List.map_singleton, first, List.singleton_append]

end Anchors

/-- In every state that a new tracker can reach, by whichever uses in whichever order and at
whichever times, the spike time and the spike rate keep to their limits, a burst that is over leaves
hardly any spike time and no mark behind, the count is the number of real bursts registered since
the history last began anew, and a rate is high only after that many of them. -/
theorem sound_afterAll (uses : List Use) : (new.afterAll uses).Sound (new.effects uses) := by
  -- A new tracker is cold, with an empty account.
  have tempered : new.Tempered := ⟨by decide, fun _ => by decide, 90, rfl, by decide, by decide⟩
  have accounts : new.Accounts [] := ⟨rfl, le_rfl⟩
  obtain ⟨tempered, accounts⟩ := accounts_afterAll uses tempered accounts
  rw [List.nil_append] at accounts
  refine ⟨tempered.spikeTime_le, Nat.min_le_right _ _, tempered.calm, accounts.count_eq,
    accounts.perMinute_le, fun high => ?_⟩
  -- The rate is at most the count, and the count at most the number of bursts.
  have rate : rateThreshold ≤ (new.afterAll uses).perMinute := of_decide_eq_true high
  have count := accounts.perMinute_le
  have bursts := accounts.count_eq
  omega

/-- What is registered first only begins the history: two bursts are counted behind it, forgotten as
the history has lasted too long, and three others make a high rate. -/
theorem sound_afterAll_reset :
    let occur (now : Nat) (real : Bool) : Use := .register ⟨now, real, ⟨false, true⟩⟩
    let uses := [occur 0 true, occur 1 true, occur 2 true, occur 100 false, occur 101 true, .confirm 3,
      occur 102 true, occur 103 true]
    let effects := [.anchors, .counts, .counts, .resets, .counts, .counts, .counts]
    new.effects uses = effects ∧ (new.afterAll uses).Sound effects ∧
      (new.afterAll uses).breach = true ∧ (new.afterAll uses).count = 3 := by
  intro occur uses effects
  have sound := sound_afterAll uses
  have same : new.effects uses = effects := by decide +kernel
  rw [same] at sound
  have high : (new.afterAll uses).breach = true := by decide +kernel
  -- The count is read off the account of the effects.
  exact ⟨same, sound, high, sound.count_eq.trans (by decide)⟩

end Tracker

end PowerGovernor.Burst
