import PowerGovernor.Burst

/-! Runs of spikes and quiet times, with the occurrences of bursts that they register. -/

namespace PowerGovernor.Burst

/-- Whether a stretch of time was one of load or one of rest. -/
inductive Kind where
  | spike
  | quiet
deriving DecidableEq

/-- A stretch of time that is reported to a tracker. -/
structure Activity where
  /-- Whether it was one of load or one of rest. -/
  kind : Kind
  /-- When it is reported, in seconds. -/
  now : Nat
  /-- How long it was. -/
  duration : Nat
  /-- What the classifier says when it is reported. -/
  signals : Signals
deriving DecidableEq

/-- The registration of an occurrence, which is real or only lets the history age. -/
structure Occurrence where
  /-- When it is registered. -/
  now : Nat
  /-- Whether there was a burst. -/
  real : Bool
  /-- What the classifier says then. -/
  signals : Signals
deriving DecidableEq

namespace Tracker

/-- The tracker after a report. -/
def observe (tracker : Tracker) (activity : Activity) : Tracker :=
  match activity.kind with
  | .spike => tracker.addSpike activity.now activity.duration activity.signals
  | .quiet => (tracker.addQuiet activity.now activity.duration activity.signals).1

/-- The tracker after one report after another. -/
def after (tracker : Tracker) (run : List Activity) : Tracker :=
  run.foldl observe tracker

/-- What a report has registered. -/
def occurrences (tracker : Tracker) (activity : Activity) : List Occurrence :=
  match activity.kind with
  | .spike =>
    if tracker.registersOnSpike activity.signals then [⟨activity.now, true, activity.signals⟩]
    else []
  | .quiet =>
    if tracker.endsBurst activity.duration then
      if tracker.registered then [] else [⟨activity.now, true, activity.signals⟩]
    else [⟨activity.now, false, activity.signals⟩]

/-- What one report after another has registered, in order. -/
def registrations (tracker : Tracker) : List Activity → List Occurrence
  | [] => []
  | activity :: rest =>
    tracker.occurrences activity ++ (tracker.observe activity).registrations rest

/-- A tracker after the registrations alone. -/
def registerAll (tracker : Tracker) (occurrences : List Occurrence) : Tracker :=
  occurrences.foldl
    (fun tracker occurrence => tracker.register occurrence.now occurrence.real occurrence.signals)
    tracker

/-- The part of a tracker that only registrations change. -/
def history (tracker : Tracker) : Nat × Nat × Option Nat :=
  (tracker.count, tracker.perMinute, tracker.anchor)

/-- Trackers whose registrations have the same outcome. -/
def Agrees (left right : Tracker) : Prop :=
  left.history = right.history ∧ left.window = right.window

section Register

variable (tracker : Tracker) (now : Nat) (real : Bool) (signals : Signals)

/-- A registration changes nothing but the history. -/
theorem register_eq : tracker.register now real signals =
    { tracker with
      count := (tracker.register now real signals).count
      perMinute := (tracker.register now real signals).perMinute
      anchor := (tracker.register now real signals).anchor } := by
  unfold register
  cases tracker.anchor with
  | none => rfl
  | some anchor =>
    -- Either the burst counts, or the history begins anew, or it is kept.
    dsimp only
    split
    · rfl
    · split <;> rfl

/-- A registration neither begins nor ends a burst. -/
@[simp] theorem inBurst_register :
    (tracker.register now real signals).inBurst = tracker.inBurst := by
  -- A burst is no part of the history.
  rw [register_eq]

/-- A registration leaves the window of history alone. -/
@[simp] theorem window_register :
    (tracker.register now real signals).window = tracker.window := by
  -- Neither is its window.
  rw [register_eq]

/-- The first registration only sets the anchor of the history. -/
theorem history_register_of_none (unset : tracker.anchor = none) :
    (tracker.register now real signals).history =
      (tracker.count, tracker.perMinute, some now) := by
  -- Without an anchor no other question is asked.
  simp only [register, history, unset]

/-- Any other registration counts a real burst, clears a history that has lasted too long or counted
too much, or keeps the history as it is. -/
theorem history_register_of_some {anchor : Nat} (since : tracker.anchor = some anchor) :
    (tracker.register now real signals).history =
      let windows := tracker.elapsedWindows anchor now
      if real && signals.countsBursts then
        (min (tracker.count + 1) maxCount, rateOver (min (tracker.count + 1) maxCount) windows,
          some now)
      else if 1 < windows || maxCount ≤ tracker.count then (0, rateOver 0 windows, some now)
      else (tracker.count, rateOver tracker.count windows, some anchor) := by
  simp only [register, history, since]
  by_cases counts : (real && signals.countsBursts) = true
  · simp only [if_pos counts]
  · -- What is not counted may still clear the history.
    by_cases clears :
        (decide (1 < tracker.elapsedWindows anchor now) || decide (maxCount ≤ tracker.count)) = true
    · simp only [if_neg counts, if_pos clears]
    · simp only [if_neg counts, if_neg clears, since]

/-- The outcome of a registration depends on the history and its window. -/
theorem Agrees.register {left right : Tracker} (agrees : left.Agrees right) :
    (left.register now real signals).Agrees (right.register now real signals) := by
  obtain ⟨same, window⟩ := agrees
  refine ⟨?_, by simpa using window⟩
  simp only [history, Prod.mk.injEq] at same
  obtain ⟨count, rate, anchor⟩ := same
  -- Both have the same anchor, so both ask the same questions.
  cases since : right.anchor with
  | none =>
    rw [history_register_of_none left _ _ _ (anchor.trans since),
      history_register_of_none right _ _ _ since, count, rate]
  | some moment =>
    have windows : left.elapsedWindows moment now = right.elapsedWindows moment now := by
      simp only [elapsedWindows, window]
    rw [history_register_of_some left _ _ _ (anchor.trans since),
      history_register_of_some right _ _ _ since, windows, count]

end Register

/-- Trackers that agree still agree after the same registrations. -/
theorem Agrees.registerAll {left right : Tracker} (agrees : left.Agrees right)
    (occurrences : List Occurrence) :
    (left.registerAll occurrences).Agrees (right.registerAll occurrences) := by
  -- Agreement is kept by each registration, so both trackers vary.
  induction occurrences generalizing left right with
  | nil => exact agrees
  | cons occurrence rest ih =>
    -- They agree after the first registration, and so after the rest.
    exact ih (agrees.register occurrence.now occurrence.real occurrence.signals)

/-- Registrations are made one after another. -/
theorem registerAll_cons (tracker : Tracker) (occurrence : Occurrence) (rest : List Occurrence) :
    tracker.registerAll (occurrence :: rest) =
      (tracker.register occurrence.now occurrence.real occurrence.signals).registerAll rest := rfl

/-- Registrations can be made in two parts. -/
theorem registerAll_append (tracker : Tracker) (first second : List Occurrence) :
    tracker.registerAll (first ++ second) = (tracker.registerAll first).registerAll second :=
  List.foldl_append

section Reports

variable {tracker : Tracker} {now duration : Nat} {signals : Signals}

/-- A spike that registers the burst is registered with the heated tracker. -/
theorem noticeSpike_of_registers (registers : tracker.registersOnSpike signals = true) :
    tracker.noticeSpike now duration signals =
      { register { tracker with
        spikeTime := min (tracker.spikeTime + duration) maxSpikeTime } now true signals with
          registered := true } :=
  if_pos registers

/-- Any other spike leaves a burst going on. -/
theorem noticeSpike_of_not_registers (silent : ¬ tracker.registersOnSpike signals = true) :
    tracker.noticeSpike now duration signals =
      { tracker with
        spikeTime := min (tracker.spikeTime + duration) maxSpikeTime, inBurst := true } :=
  if_neg silent

/-- A spike heats the tracker up and leaves a burst going on; of the rest it only changes the
history and whether the burst is registered, before its rate is added. -/
theorem noticeSpike_eq (tracker : Tracker) (now duration : Nat) (signals : Signals) :
    tracker.noticeSpike now duration signals =
      { tracker with
        spikeTime := min (tracker.spikeTime + duration) maxSpikeTime
        count := (tracker.noticeSpike now duration signals).count
        perMinute := (tracker.noticeSpike now duration signals).perMinute
        anchor := (tracker.noticeSpike now duration signals).anchor
        inBurst := true
        registered := (tracker.noticeSpike now duration signals).registered } := by
  by_cases registers : tracker.registersOnSpike signals = true
  · -- Only a burst that is going on is registered.
    have bursting : tracker.inBurst = true := by
      simp only [registersOnSpike, Bool.and_eq_true] at registers
      exact registers.1.1
    rw [noticeSpike_of_registers registers, register_eq, ← bursting]
  · -- Any other spike begins a burst or leaves one going on.
    rw [noticeSpike_of_not_registers registers]

/-- A spike adds its rate to those of the burst after it has been noticed. -/
theorem addSpike_eq (tracker : Tracker) (now duration : Nat) (signals : Signals) :
    tracker.addSpike now duration signals =
      recordRate { tracker with
        spikeTime := min (tracker.spikeTime + duration) maxSpikeTime
        count := (tracker.addSpike now duration signals).count
        perMinute := (tracker.addSpike now duration signals).perMinute
        anchor := (tracker.addSpike now duration signals).anchor
        inBurst := true
        registered := (tracker.addSpike now duration signals).registered } :=
  congrArg recordRate (noticeSpike_eq tracker now duration signals)

/-- There is a burst after every spike. -/
theorem inBurst_addSpike (tracker : Tracker) (now duration : Nat) (signals : Signals) :
    (tracker.addSpike now duration signals).inBurst = true := by
  -- The equation of a spike says so.
  rw [addSpike_eq]
  rfl

/-- A burst stays registered, or is registered by a spike. -/
theorem registered_addSpike (tracker : Tracker) (now duration : Nat) (signals : Signals) :
    (tracker.addSpike now duration signals).registered =
      (tracker.registered || tracker.registersOnSpike signals) := by
  -- The rate that is added at the end makes no difference to this.
  show (tracker.noticeSpike now duration signals).registered = _
  by_cases registers : tracker.registersOnSpike signals = true
  · rw [noticeSpike_of_registers registers, registers, Bool.or_true]
  · rw [noticeSpike_of_not_registers registers, Bool.eq_false_iff.mpr registers, Bool.or_false]

/-- A spike does to the history what it registers. -/
theorem agrees_addSpike (tracker : Tracker) (now duration : Nat) (signals : Signals) :
    (tracker.addSpike now duration signals).Agrees
      (if tracker.registersOnSpike signals then tracker.register now true signals
      else tracker) := by
  -- Neither the spike time nor the rates are part of what registrations depend on.
  show (tracker.noticeSpike now duration signals).Agrees _
  by_cases registers : tracker.registersOnSpike signals = true
  · rw [noticeSpike_of_registers registers, if_pos registers]
    exact Agrees.register now true signals ⟨rfl, rfl⟩
  · rw [noticeSpike_of_not_registers registers, if_neg registers]
    exact ⟨rfl, rfl⟩

/-- A quiet time ends a burst that has cooled down. -/
theorem addQuiet_of_ends (ends : tracker.endsBurst duration = true) :
    tracker.addQuiet now duration signals = (tracker.cool duration).endBurst now signals :=
  if_pos ends

/-- In any other quiet time the history ages, and no burst is known to be registered. -/
theorem addQuiet_of_not_ends (lasts : ¬ tracker.endsBurst duration = true) :
    (tracker.addQuiet now duration signals).1 =
      { (tracker.cool duration).register now false signals with registered := false } :=
  congrArg Prod.fst (if_neg lasts)

/-- The end of a burst shortens the window by its strength and forgets its rates; of the rest it
only changes the history. -/
theorem endBurst_eq (tracker : Tracker) (now : Nat) (signals : Signals) :
    (tracker.endBurst now signals).1 =
      { tracker with
        count := (tracker.endBurst now signals).1.count
        perMinute := (tracker.endBurst now signals).1.perMinute
        anchor := (tracker.endBurst now signals).1.anchor
        window := 60 - ((bias tracker.meanRate tracker.window).floor : Rat)
        inBurst := false
        registered := false
        rateSum := 0
        rateCount := 0 } := by
  unfold endBurst
  dsimp only
  -- The registration that may come first changes nothing but the history.
  split
  · rfl
  · rw [register_eq]

/-- No burst goes on after the end of one. -/
theorem inBurst_endBurst (tracker : Tracker) (now : Nat) (signals : Signals) :
    (tracker.endBurst now signals).1.inBurst = false := by
  rw [endBurst_eq]

/-- A quiet time cools the tracker down, and forgets the rates of a burst that it ends; the
confirmations are left alone. -/
theorem addQuiet_eq (tracker : Tracker) (now duration : Nat) (signals : Signals) :
    (tracker.addQuiet now duration signals).1 =
      { tracker.cool duration with
        count := (tracker.addQuiet now duration signals).1.count
        perMinute := (tracker.addQuiet now duration signals).1.perMinute
        anchor := (tracker.addQuiet now duration signals).1.anchor
        window := (tracker.addQuiet now duration signals).1.window
        inBurst := (tracker.addQuiet now duration signals).1.inBurst
        registered := false
        rateSum := if tracker.endsBurst duration then 0 else tracker.rateSum
        rateCount := if tracker.endsBurst duration then 0 else tracker.rateCount } := by
  -- Both branches forget the registration, the second one even while the burst goes on.
  by_cases ends : tracker.endsBurst duration = true
  · rw [addQuiet_of_ends ends, endBurst_eq, if_pos ends, if_pos ends]
  · rw [addQuiet_of_not_ends ends, register_eq, if_neg ends, if_neg ends]
    rfl

/-- The end of a burst registers it unless that has been done. -/
theorem history_endBurst (tracker : Tracker) (now : Nat) (signals : Signals) :
    (tracker.endBurst now signals).1.history =
      (if tracker.registered then tracker else tracker.register now true signals).history := by
  -- The burst is over before it is registered, which makes no difference to the history.
  have resting : ({ tracker with inBurst := false } : Tracker).Agrees tracker := ⟨rfl, rfl⟩
  unfold endBurst
  dsimp only
  split
  · rfl
  · exact (resting.register now true signals).1

/-- A quiet time never begins a burst, and may end one. -/
theorem inBurst_addQuiet (tracker : Tracker) (now duration : Nat) (signals : Signals) :
    (tracker.addQuiet now duration signals).1.inBurst =
      (tracker.inBurst && !tracker.endsBurst duration) := by
  by_cases ends : tracker.endsBurst duration = true
  -- A burst that ends is over, and any other one is left as it is.
  · rw [addQuiet_of_ends ends, inBurst_endBurst, ends, Bool.not_true, Bool.and_false]
  · rw [addQuiet_of_not_ends ends, Bool.eq_false_iff.mpr ends, Bool.not_false, Bool.and_true]
    exact inBurst_register _ _ _ _

/-- No burst is known to be registered after a quiet time. -/
theorem registered_addQuiet (tracker : Tracker) (now duration : Nat) (signals : Signals) :
    (tracker.addQuiet now duration signals).1.registered = false := by
  rw [addQuiet_eq]

/-- A tracker cools down without its history. -/
theorem agrees_cool (tracker : Tracker) (duration : Nat) : (tracker.cool duration).Agrees tracker :=
  ⟨rfl, rfl⟩

/-- A quiet time does to the history what it registers. -/
theorem history_addQuiet (tracker : Tracker) (now duration : Nat) (signals : Signals) :
    (tracker.addQuiet now duration signals).1.history =
      (if tracker.endsBurst duration then
        if tracker.registered then tracker else tracker.register now true signals
      else tracker.register now false signals).history := by
  -- Cooling down comes first and leaves the history to the registration.
  have cooled := agrees_cool tracker duration
  by_cases ends : tracker.endsBurst duration = true
  · rw [addQuiet_of_ends ends, history_endBurst, if_pos ends]
    have same : (tracker.cool duration).registered = tracker.registered := rfl
    rw [same]
    -- The burst has been registered already, or it is registered now.
    split
    · exact cooled.1
    · exact (cooled.register now true signals).1
  · rw [addQuiet_of_not_ends ends, if_neg ends]
    exact (cooled.register now false signals).1

/-- A quiet time that ends no burst leaves the window of history alone. -/
theorem window_addQuiet (lasts : ¬ tracker.endsBurst duration = true) :
    (tracker.addQuiet now duration signals).1.window = tracker.window := by
  -- Cooling down comes first, and a registration of a pause at most follows it.
  rw [addQuiet_of_not_ends lasts]
  exact window_register _ _ _ _

end Reports

section Runs

variable {tracker : Tracker} {activity : Activity}

/-- What is registered accounts for the history after a report. -/
theorem history_observe (tracker : Tracker) (activity : Activity) :
    (tracker.observe activity).history =
      (tracker.registerAll (tracker.occurrences activity)).history := by
  unfold observe occurrences
  -- Either kind of report has an equation for its history, with the same cases as its occurrences.
  cases activity.kind with
  | spike =>
    dsimp only
    rw [(agrees_addSpike _ _ _ _).1]
    split <;> rfl
  | quiet =>
    dsimp only
    rw [history_addQuiet]
    split
    · split <;> rfl
    · rfl

/-- A burst that is registered after a report goes on after it. -/
theorem inBurst_of_registered_observe (tracker : Tracker) (activity : Activity)
    (registered : (tracker.observe activity).registered = true) :
    (tracker.observe activity).inBurst = true := by
  unfold observe at registered ⊢
  cases kind : activity.kind with
  | spike => exact inBurst_addSpike _ _ _ _
  | quiet =>
    -- After a quiet time no burst is registered.
    simp only [kind, registered_addQuiet] at registered
    contradiction

/-- The window of history only changes when a burst ends. -/
theorem window_observe (lasts : (tracker.observe activity).inBurst = true) :
    (tracker.observe activity).window = tracker.window := by
  unfold observe at lasts ⊢
  cases kind : activity.kind with
  | spike =>
    -- A spike agrees with its registration, which has no window to change.
    have agrees := agrees_addSpike tracker activity.now activity.duration activity.signals
    dsimp only
    rw [agrees.2]
    split
    · exact window_register _ _ _ _
    · rfl
  | quiet =>
    -- The burst that goes on has not been ended.
    simp only [kind, inBurst_addQuiet, Bool.and_eq_true, Bool.not_eq_true'] at lasts
    exact window_addQuiet (Bool.eq_false_iff.mp lasts.2)

end Runs

end Tracker

end PowerGovernor.Burst
