import PowerGovernor.Proofs.Burst.Run

/-! What is registered between the beginning of a burst and its end. -/

namespace PowerGovernor.Burst

/-- A spike at which the classifier wants to step down. -/
def Activity.Demotes (activity : Activity) : Prop :=
  activity.kind = .spike ∧ activity.signals.shouldDemote = true

/-- Once a spike has demoted, spikes follow each other without a pause. -/
def NoPauseAfterDemotion (inside : List Activity) : Prop :=
  inside.Pairwise fun earlier later => earlier.Demotes → later.kind = .spike

/-- The quiet times among some reports, each of which only lets the history age. -/
def pauses (inside : List Activity) : List Occurrence :=
  (inside.filter fun activity => activity.kind = .quiet).map fun activity =>
    ⟨activity.now, false, activity.signals⟩

/-- A spike is no pause. -/
theorem pauses_of_spike {activity : Activity} (rest : List Activity)
    (spike : activity.kind = .spike) : pauses (activity :: rest) = pauses rest := by
  simp [pauses, spike]

/-- A quiet time is a pause before those that follow. -/
theorem pauses_of_quiet {activity : Activity} (rest : List Activity)
    (quiet : activity.kind = .quiet) :
    pauses (activity :: rest) = ⟨activity.now, false, activity.signals⟩ :: pauses rest := by
  simp [pauses, quiet]

/-- No pause is a real burst. -/
theorem countP_real_pauses (inside : List Activity) :
    (pauses inside).countP Occurrence.real = 0 := by
  simp [pauses, List.countP_eq_zero]

namespace Tracker

/-- A burst goes on before and after each of some reports. -/
def Lasts (tracker : Tracker) : List Activity → Prop
  | [] => tracker.inBurst = true
  | activity :: rest => tracker.inBurst = true ∧ (tracker.observe activity).Lasts rest

/-- Whether a burst goes on can be followed report by report. -/
instance decidableLasts :
    (tracker : Tracker) → (run : List Activity) → Decidable (tracker.Lasts run)
  | tracker, [] => inferInstanceAs (Decidable (tracker.inBurst = true))
  | tracker, activity :: rest =>
    have := decidableLasts (tracker.observe activity) rest
    inferInstanceAs (Decidable (_ ∧ (tracker.observe activity).Lasts rest))

/-- A burst from the report that begins it to the report that ends it. -/
structure EdgePair (tracker : Tracker) (rise : Activity) (inside : List Activity)
    (fall : Activity) : Prop where
  /-- There is no burst before. -/
  calm : tracker.inBurst = false
  /-- There is one from the first report on. -/
  lasts : (tracker.observe rise).Lasts inside
  /-- The last report ends it. -/
  ends : (((tracker.observe rise).after inside).observe fall).inBurst = false

/-- Some pause in a burst finds the history older than its window. -/
def Expires (tracker : Tracker) (anchor : Nat) (inside : List Activity) : Prop :=
  ∃ activity ∈ inside, activity.kind = .quiet ∧
    1 < tracker.elapsedWindows anchor activity.now

variable {tracker : Tracker}

/-- A burst that lasts goes on at once. -/
theorem Lasts.inBurst {run : List Activity} (lasts : tracker.Lasts run) :
    tracker.inBurst = true := by
  -- Without a report the burst has to go on to the end, and with one it has to be there before it.
  cases run with
  | nil => exact lasts
  | cons => exact lasts.1

/-- Registrations leave the window of history alone. -/
theorem window_registerAll (tracker : Tracker) (occurrences : List Occurrence) :
    (tracker.registerAll occurrences).window = tracker.window := by
  induction occurrences generalizing tracker with
  | nil => rfl
  -- Each registration keeps the window that the ones before it kept.
  | cons occurrence rest ih => exact (ih _).trans (window_register _ _ _ _)

/-- Reports are made in two parts with what each part has registered. -/
theorem registrations_append (tracker : Tracker) (first second : List Activity) :
    tracker.registrations (first ++ second) =
      tracker.registrations first ++ (tracker.after first).registrations second := by
  -- The tracker moves on with each report, so the induction is over all trackers.
  induction first generalizing tracker with
  | nil => rfl
  | cons activity rest ih =>
    rw [List.cons_append, registrations, registrations, ih, List.append_assoc]
    rfl

/-- A report that leaves a burst going on does to the history what it registers. -/
theorem agrees_observe {activity : Activity} (lasts : (tracker.observe activity).inBurst = true) :
    (tracker.observe activity).Agrees (tracker.registerAll (tracker.occurrences activity)) :=
  ⟨history_observe tracker activity,
    (window_observe lasts).trans (window_registerAll _ _).symm⟩

/-- Throughout a burst the registrations account for the history. -/
theorem agrees_after {run : List Activity} (lasts : tracker.Lasts run) :
    (tracker.after run).Agrees (tracker.registerAll (tracker.registrations run)) := by
  induction run generalizing tracker with
  | nil => exact ⟨rfl, rfl⟩
  | cons activity rest ih =>
    have step := agrees_observe lasts.2.inBurst
    have tail := ih lasts.2
    -- What the rest registers has the same outcome after the report as after its registrations.
    have both := step.registerAll ((tracker.observe activity).registrations rest)
    rw [registrations, registerAll_append]
    exact ⟨tail.1.trans both.1, tail.2.trans both.2⟩

/-- What a burst has registered accounts for the history after its end. -/
theorem history_edgePair {inside : List Activity} (lasts : tracker.Lasts inside)
    (fall : Activity) : ((tracker.after inside).observe fall).history =
      (tracker.registerAll (tracker.registrations (inside ++ [fall]))).history := by
  have throughout := agrees_after lasts
  -- The last report may change the window, but not before it has registered the burst.
  rw [history_observe, registrations_append, registerAll_append, registrations, registrations,
    List.append_nil]
  exact (throughout.registerAll _).1

/-- Only a quiet time ends a burst, and it registers the burst unless that has been done. -/
theorem occurrences_fall {fall : Activity} (bursting : tracker.inBurst = true)
    (ends : (tracker.observe fall).inBurst = false) :
    tracker.occurrences fall =
      if tracker.registered then [] else [⟨fall.now, true, fall.signals⟩] := by
  unfold observe at ends
  unfold occurrences
  cases kind : fall.kind with
  | spike =>
    -- A spike leaves a burst going on.
    simp only [kind, inBurst_addSpike] at ends
    contradiction
  | quiet =>
    simp only [kind, inBurst_addQuiet, bursting, Bool.true_and, Bool.not_eq_false'] at ends
    simp only [if_pos ends]

/-- Nothing is registered after the registration of a burst if only spikes follow until its end. -/
theorem registrations_of_registered {inside : List Activity} {fall : Activity}
    (registered : tracker.registered = true) (lasts : tracker.Lasts inside)
    (spikes : ∀ activity ∈ inside, activity.kind = .spike)
    (ends : ((tracker.after inside).observe fall).inBurst = false) :
    tracker.registrations (inside ++ [fall]) = [] := by
  -- The burst stays registered through the spikes, so that its end has nothing left to do.
  induction inside generalizing tracker with
  | nil =>
    rw [List.nil_append, registrations, registrations, List.append_nil,
      occurrences_fall lasts.inBurst ends, if_pos registered]
  | cons activity rest ih =>
    have spike : activity.kind = .spike := spikes activity List.mem_cons_self
    have silent : tracker.registersOnSpike activity.signals = false := by
      simp only [registersOnSpike, registered, Bool.not_true, Bool.and_false]
    have nothing : tracker.occurrences activity = [] := by
      simp only [occurrences, spike, silent, Bool.false_eq_true, if_false]
    have still : (tracker.observe activity).registered = true := by
      simp only [observe, spike, registered_addSpike, registered, Bool.true_or]
    rw [List.cons_append, registrations, nothing, List.nil_append]
    refine ih still lasts.2 ?_ ends
    intro later member
    exact spikes later (List.mem_cons_of_mem _ member)

/-- What one report registers in a burst that has not been registered: a demotion registers the
burst, any other spike registers nothing, and a pause lets the history age. -/
theorem occurrences_waiting {activity : Activity} (bursting : tracker.inBurst = true)
    (waiting : tracker.registered = false) (lasts : (tracker.observe activity).inBurst = true) :
    (activity.Demotes ∧ (tracker.observe activity).registered = true ∧
      tracker.occurrences activity = [⟨activity.now, true, activity.signals⟩]) ∨
    (activity.kind = .spike ∧ (tracker.observe activity).registered = false ∧
      tracker.occurrences activity = []) ∨
    (activity.kind = .quiet ∧ (tracker.observe activity).registered = false ∧
      tracker.occurrences activity = [⟨activity.now, false, activity.signals⟩]) := by
  unfold observe at lasts ⊢
  unfold occurrences
  cases kind : activity.kind with
  | spike =>
    -- The burst goes on unregistered, so the classifier alone decides.
    have asked : tracker.registersOnSpike activity.signals = activity.signals.shouldDemote := by
      simp only [registersOnSpike, bursting, waiting, Bool.true_and, Bool.not_false, Bool.and_true]
    cases demotes : activity.signals.shouldDemote with
    | true =>
      refine .inl ⟨⟨kind, demotes⟩, ?_, ?_⟩
      · simp only [registered_addSpike, asked, demotes, Bool.or_true]
      · simp only [asked, demotes, if_true]
    | false =>
      refine .inr (.inl ⟨rfl, ?_, ?_⟩)
      · simp only [registered_addSpike, asked, demotes, waiting, Bool.or_false]
      · simp only [asked, demotes, Bool.false_eq_true, if_false]
  | quiet =>
    -- The burst goes on, so this is no end of it.
    simp only [kind, inBurst_addQuiet, Bool.and_eq_true, Bool.not_eq_true'] at lasts
    refine .inr (.inr ⟨rfl, registered_addQuiet _ _ _ _, ?_⟩)
    simp only [lasts.2, Bool.false_eq_true, if_false]

/-- Every burst is registered. -/
theorem exists_real_registration {inside : List Activity} {fall : Activity}
    (waiting : tracker.registered = false) (lasts : tracker.Lasts inside)
    (ends : ((tracker.after inside).observe fall).inBurst = false) :
    ∃ occurrence ∈ tracker.registrations (inside ++ [fall]), occurrence.real = true := by
  induction inside generalizing tracker with
  | nil =>
    -- The end of the burst is the last chance, and takes it.
    refine ⟨⟨fall.now, true, fall.signals⟩, ?_, rfl⟩
    simp [registrations, occurrences_fall lasts.inBurst ends, waiting]
  | cons activity rest ih =>
    rw [List.cons_append, registrations]
    -- A demotion is enough; otherwise the burst is still to be registered.
    rcases occurrences_waiting lasts.inBurst waiting lasts.2.inBurst with
      ⟨_, _, demotion⟩ | ⟨_, still, _⟩ | ⟨_, still, _⟩
    · exact ⟨⟨activity.now, true, activity.signals⟩, by simp [demotion], rfl⟩
    · obtain ⟨occurrence, member, real⟩ := ih still lasts.2 ends
      exact ⟨occurrence, List.mem_append_right _ member, real⟩
    · obtain ⟨occurrence, member, real⟩ := ih still lasts.2 ends
      exact ⟨occurrence, List.mem_append_right _ member, real⟩

/-- Without a pause after a demotion, a burst lets the history age in its pauses and is then
registered once. -/
theorem registrations_waiting {inside : List Activity} {fall : Activity}
    (waiting : tracker.registered = false) (lasts : tracker.Lasts inside)
    (ordered : NoPauseAfterDemotion inside)
    (ends : ((tracker.after inside).observe fall).inBurst = false) :
    ∃ burst, tracker.registrations (inside ++ [fall]) = pauses inside ++ [burst] ∧
      burst.real = true ∧ ∃ activity ∈ inside ++ [fall], burst.signals = activity.signals := by
  -- While the burst is unregistered every report is of one of three kinds.
  induction inside generalizing tracker with
  | nil =>
    refine ⟨⟨fall.now, true, fall.signals⟩, ?_, rfl, fall, by simp, rfl⟩
    simp [registrations, occurrences_fall lasts.inBurst ends, waiting, pauses]
  | cons activity rest ih =>
    obtain ⟨onlySpikes, later⟩ := List.pairwise_cons.mp ordered
    rw [List.cons_append, registrations]
    rcases occurrences_waiting lasts.inBurst waiting lasts.2.inBurst with
      ⟨demotes, registered, demotion⟩ | ⟨spike, still, silent⟩ | ⟨quiet, still, aging⟩
    · -- The demotion is the registration, and nothing follows.
      have spikes := fun later member => onlySpikes later member demotes
      have nothing := registrations_of_registered registered lasts.2 spikes ends
      have unpaused : pauses rest = [] := by
        simpa [pauses] using fun later member => by simp [spikes later member]
      refine ⟨⟨activity.now, true, activity.signals⟩, ?_, rfl, activity, by simp, rfl⟩
      rw [demotion, nothing, pauses_of_spike rest demotes.1, unpaused]
      rfl
    · -- A spike without a demotion leaves all to the rest.
      obtain ⟨burst, shape, real, source, member, same⟩ := ih still lasts.2 later ends
      refine ⟨burst, ?_, real, source, List.mem_cons_of_mem _ member, same⟩
      rw [silent, shape, pauses_of_spike rest spike, List.nil_append]
    · -- A pause comes first in the list of pauses.
      obtain ⟨burst, shape, real, source, member, same⟩ := ih still lasts.2 later ends
      refine ⟨burst, ?_, real, source, List.mem_cons_of_mem _ member, same⟩
      rw [aging, shape, pauses_of_quiet rest quiet]
      rfl

/-- A pause in a history that is younger than its window, and counts less than its limit, leaves
the count and the anchor alone. -/
theorem count_register_pause {anchor now : Nat} (signals : Signals)
    (since : tracker.anchor = some anchor) (below : tracker.count < maxCount)
    (young : tracker.elapsedWindows anchor now ≤ 1) :
    (tracker.register now false signals).count = tracker.count ∧
      (tracker.register now false signals).anchor = some anchor := by
  have aged := history_register_of_some tracker now false signals since
  -- Neither of the two reasons to clear the history is there.
  have kept : ¬ (decide (1 < tracker.elapsedWindows anchor now) ||
      decide (maxCount ≤ tracker.count)) = true := by
    simp only [Bool.or_eq_true, decide_eq_true_eq]
    rintro (expired | full)
    · exact absurd young (Rat.not_le.mpr expired)
    · omega
  rw [Bool.false_and, if_neg Bool.false_ne_true, if_neg kept] at aged
  simp only [history, Prod.mk.injEq] at aged
  exact ⟨aged.1, aged.2.2⟩

/-- The registration of a burst adds one to the count if bursts count and the count can grow. -/
theorem count_register_real {anchor : Nat} {signals : Signals}
    (since : tracker.anchor = some anchor) (below : tracker.count < maxCount)
    (counts : signals.countsBursts = true) (now : Nat) :
    (tracker.register now true signals).count = tracker.count + 1 := by
  have grown := history_register_of_some tracker now true signals since
  rw [counts, Bool.and_self, if_pos rfl] at grown
  simp only [history, Prod.mk.injEq] at grown
  -- The limit cuts nothing off.
  rw [grown.1]
  omega

/-- A pause in an expired history begins it anew. -/
theorem count_register_expired {anchor now : Nat} (signals : Signals)
    (since : tracker.anchor = some anchor) (expired : 1 < tracker.elapsedWindows anchor now) :
    (tracker.register now false signals).count = 0 ∧
      (tracker.register now false signals).anchor = some now := by
  -- A pause is nothing real, so nothing is counted again after the count was cleared.
  have cleared := history_register_of_some tracker now false signals since
  rw [Bool.false_and, if_neg Bool.false_ne_true, if_pos (by simp [expired])] at cleared
  simp only [history, Prod.mk.injEq] at cleared
  exact ⟨cleared.1, cleared.2.2⟩

/-- A pause in a young history lets it expire when it would have expired without the pause. -/
theorem expires_cons_of_young {anchor : Nat} {activity : Activity} {rest : List Activity}
    (young : ¬ 1 < tracker.elapsedWindows anchor activity.now) :
    tracker.Expires anchor (activity :: rest) ↔
      (tracker.register activity.now false activity.signals).Expires anchor rest := by
  -- The window is the same, so the history is as old as before.
  have aged (now : Nat) : (tracker.register activity.now false
      activity.signals).elapsedWindows anchor now = tracker.elapsedWindows anchor now := by
    rw [elapsedWindows, window_register]
    rfl
  simp only [Expires, aged, List.mem_cons, exists_eq_or_imp, young, and_false, false_or]

/-- Pauses and then a burst add one to the count, unless a pause has cleared it. -/
theorem count_registerAll {anchor : Nat} {inside : List Activity} {burst : Occurrence}
    (since : tracker.anchor = some anchor) (below : tracker.count < maxCount)
    (real : burst.real = true) (counts : burst.signals.countsBursts = true) :
    (¬ tracker.Expires anchor inside →
      (tracker.registerAll (pauses inside ++ [burst])).count = tracker.count + 1) ∧
    (tracker.Expires anchor inside →
      (tracker.registerAll (pauses inside ++ [burst])).count = 1) := by
  induction inside generalizing tracker anchor with
  | nil =>
    refine ⟨fun _ => ?_, fun expires => by simp [Expires] at expires⟩
    -- Without a pause there is only the burst itself.
    have single : tracker.registerAll (pauses [] ++ [burst]) =
        tracker.register burst.now burst.real burst.signals := rfl
    rw [single, real]
    exact count_register_real since below counts burst.now
  | cons activity rest ih =>
    cases kind : activity.kind with
    | spike =>
      -- A spike is no pause.
      have same : tracker.Expires anchor (activity :: rest) ↔ tracker.Expires anchor rest := by
        simp [Expires, kind]
      rw [pauses_of_spike rest kind, same]
      exact ih since below
    | quiet =>
      rw [pauses_of_quiet rest kind, List.cons_append, registerAll_cons]
      by_cases expired : 1 < tracker.elapsedWindows anchor activity.now
      · -- This pause clears the count and begins a history with an anchor of its own.
        obtain ⟨count, anchored⟩ := count_register_expired activity.signals since expired
        refine ⟨fun young => absurd ⟨activity, List.mem_cons_self, kind, expired⟩ young,
          fun _ => ?_⟩
        obtain ⟨grows, again⟩ := ih anchored (by rw [count]; decide)
        -- Whether or not another pause clears it, the burst is counted from zero.
        by_cases expires : (tracker.register activity.now false activity.signals).Expires
            activity.now rest
        · exact again expires
        · rw [grows expires, count]
      · -- This pause changes nothing that the rest depends on.
        obtain ⟨count, anchored⟩ :=
          count_register_pause activity.signals since below (Rat.not_lt.mp expired)
        rw [expires_cons_of_young expired, ← count]
        exact ih anchored (by rw [count]; exact below)

/-- The report that begins a burst is a spike, which registers nothing. -/
theorem occurrences_rise {rise : Activity} (calm : tracker.inBurst = false)
    (begins : (tracker.observe rise).inBurst = true) :
    tracker.occurrences rise = [] ∧
      (tracker.observe rise).registered = tracker.registered := by
  have silent : tracker.registersOnSpike rise.signals = false := by
    simp only [registersOnSpike, calm, Bool.false_and]
  unfold observe at begins ⊢
  unfold occurrences
  cases kind : rise.kind with
  | spike =>
    refine ⟨by simp only [silent, Bool.false_eq_true, if_false], ?_⟩
    simp only [registered_addSpike, silent, Bool.or_false]
  | quiet =>
    -- A quiet time begins no burst.
    simp only [kind, inBurst_addQuiet, calm, Bool.false_and] at begins
    contradiction

/-- A tracker that has only seen reports knows of no registered burst when there is no burst. -/
theorem registered_after_new {past : List Activity}
    (calm : (new.after past).inBurst = false) : (new.after past).registered = false := by
  rcases List.eq_nil_or_concat past with rfl | ⟨init, last, rfl⟩
  · rfl
  · -- A burst that the last report left registered would go on.
    rw [List.concat_eq_append, after, List.foldl_append] at calm ⊢
    refine Bool.eq_false_iff.mpr fun registered => ?_
    have bursting := inBurst_of_registered_observe _ last registered
    exact absurd (bursting.symm.trans calm) Bool.noConfusion

/-- A burst is registered, from the report that begins it to the report that ends it. It is
registered once if no pause follows a demotion in it, and then adds one to the count if bursts
count, the count can grow and no pause clears the history. -/
theorem edgePair_registers_once {past inside : List Activity} {rise fall : Activity}
    (pair : (new.after past).EdgePair rise inside fall) :
    1 ≤ ((new.after past).registrations (rise :: inside ++ [fall])).countP Occurrence.real ∧
    (NoPauseAfterDemotion inside →
      ((new.after past).registrations (rise :: inside ++ [fall])).countP Occurrence.real = 1 ∧
      ∀ anchor, (new.after past).anchor = some anchor → (new.after past).count < maxCount →
        (∀ activity ∈ inside ++ [fall], activity.signals.countsBursts = true) →
        (¬ (new.after past).Expires anchor inside →
          ((new.after past).after (rise :: inside ++ [fall])).count =
            (new.after past).count + 1) ∧
        ((new.after past).Expires anchor inside →
          ((new.after past).after (rise :: inside ++ [fall])).count = 1)) := by
  obtain ⟨calm, lasts, ends⟩ := pair
  -- Nothing but the missing registration matters of what the tracker has seen before.
  have unregistered := registered_after_new calm
  generalize new.after past = tracker at calm lasts ends unregistered ⊢
  have begins := lasts.inBurst
  obtain ⟨silent, same⟩ := occurrences_rise calm begins
  have waiting := same.trans unregistered
  have begun : (tracker.observe rise).Agrees tracker := by
    have step := agrees_observe begins
    rwa [silent] at step
  -- The beginning registers nothing, so all is registered in the rest of the burst.
  have whole : tracker.registrations (rise :: inside ++ [fall]) =
      (tracker.observe rise).registrations (inside ++ [fall]) := by
    rw [List.cons_append, registrations, silent, List.nil_append]
  rw [whole]
  refine ⟨?_, fun ordered => ?_⟩
  · obtain ⟨occurrence, member, real⟩ := exists_real_registration waiting lasts ends
    exact List.countP_pos_iff.mpr ⟨occurrence, member, real⟩
  · obtain ⟨burst, shape, real, source, found, said⟩ :=
      registrations_waiting waiting lasts ordered ends
    refine ⟨by rw [shape, List.countP_append, countP_real_pauses]; simp [real], ?_⟩
    intro anchor since below counts
    have split : tracker.after (rise :: inside ++ [fall]) =
        ((tracker.observe rise).after inside).observe fall := by
      simp only [after, List.cons_append, List.foldl_cons, List.foldl_append, List.foldl_nil]
    -- The registrations account for the count after the end.
    have outcome := history_edgePair lasts fall
    rw [shape, (begun.registerAll (pauses inside ++ [burst])).1] at outcome
    have same : (((tracker.observe rise).after inside).observe fall).count =
        (tracker.registerAll (pauses inside ++ [burst])).count := congrArg Prod.fst outcome
    rw [split, same]
    exact count_registerAll since below real (by rw [said]; exact counts source found)

/-- A spike at which the classifier wants to step down or not, while bursts count. -/
def spikeAt (now duration : Nat) (demote : Bool) : Activity :=
  ⟨.spike, now, duration, ⟨demote, true⟩⟩

/-- A quiet time while bursts count. -/
def quietAt (now duration : Nat) : Activity := ⟨.quiet, now, duration, ⟨false, true⟩⟩

/-- A pause and then two demotions are one burst, which counts once. -/
theorem edgePair_pauseThenDemotions :
    (new.after [quietAt 0 10]).EdgePair (spikeAt 10 500 false)
      [quietAt 20 10, spikeAt 30 10 true, spikeAt 40 10 true] (quietAt 50 1000) ∧
    ((new.after [quietAt 0 10]).after (spikeAt 10 500 false ::
      [quietAt 20 10, spikeAt 30 10 true, spikeAt 40 10 true] ++ [quietAt 50 1000])).count =
        (new.after [quietAt 0 10]).count + 1 := by
  -- The whole burst takes less than a window, so the anchor of the first sample still holds.
  have pair : (new.after [quietAt 0 10]).EdgePair (spikeAt 10 500 false)
      [quietAt 20 10, spikeAt 30 10 true, spikeAt 40 10 true] (quietAt 50 1000) :=
    ⟨by decide +kernel, by decide +kernel, by decide +kernel⟩
  have ordered : NoPauseAfterDemotion [quietAt 20 10, spikeAt 30 10 true, spikeAt 40 10 true] := by
    simp [NoPauseAfterDemotion, Activity.Demotes, quietAt, spikeAt]
  have young : ¬ (new.after [quietAt 0 10]).Expires 0
      [quietAt 20 10, spikeAt 30 10 true, spikeAt 40 10 true] := by
    unfold Expires
    decide +kernel
  have counted := ((edgePair_registers_once pair).2 ordered).2 0 (by decide +kernel)
    (by decide +kernel) (by decide +kernel)
  exact ⟨pair, counted.1 young⟩

/-- A pause between two demotions has one burst registered and counted twice, and a pause in an
expired history clears the count of the burst before. -/
theorem edgePair_registered_twice_and_cleared :
    ((new.after [quietAt 0 10]).EdgePair (spikeAt 10 500 false)
        [spikeAt 20 10 true, quietAt 30 10, spikeAt 40 10 true] (quietAt 50 1000) ∧
      ((new.after [quietAt 0 10]).registrations (spikeAt 10 500 false ::
        [spikeAt 20 10 true, quietAt 30 10, spikeAt 40 10 true] ++
          [quietAt 50 1000])).countP Occurrence.real = 2 ∧
      (new.after [quietAt 0 10]).anchor = some 0 ∧ (new.after [quietAt 0 10]).count = 0 ∧
      ((new.after [quietAt 0 10]).after (spikeAt 10 500 false ::
        [spikeAt 20 10 true, quietAt 30 10, spikeAt 40 10 true] ++ [quietAt 50 1000])).count = 2) ∧
    ((new.after [quietAt 0 10, spikeAt 10 500 false, quietAt 20 1000]).EdgePair
        (spikeAt 30 500 false) [quietAt 1000 10] (quietAt 1010 1000) ∧
      (new.after [quietAt 0 10, spikeAt 10 500 false, quietAt 20 1000]).anchor = some 20 ∧
      (new.after [quietAt 0 10, spikeAt 10 500 false, quietAt 20 1000]).count = 1 ∧
      ((new.after [quietAt 0 10, spikeAt 10 500 false, quietAt 20 1000]).after
        (spikeAt 30 500 false :: [quietAt 1000 10] ++ [quietAt 1010 1000])).count = 1) := by
  -- Both runs are short enough to be computed.
  refine ⟨⟨⟨?_, ?_, ?_⟩, ?_, ?_, ?_, ?_⟩, ⟨?_, ?_, ?_⟩, ?_, ?_, ?_⟩
  all_goals decide +kernel

end Tracker

end PowerGovernor.Burst
