import Mathlib.Data.List.Chain
import Mathlib.Data.List.Induction
import PowerGovernor.Proofs.Burst.Breach
import PowerGovernor.Proofs.Burst.Registration

/-! Spikes that stand alone, and which of them are registered as bursts all the same. -/

namespace PowerGovernor.Burst

/-- No two spikes follow each other directly. -/
def SpikesAlone (run : List Activity) : Prop :=
  -- A run may still end with a spike, which nothing has followed yet.
  run.IsChain fun earlier later => earlier.kind = .spike → later.kind = .quiet

/-- Something holds of every report of a run, given the reports before it. -/
def AllAlong (holds : List Activity → Activity → Prop) (run : List Activity) : Prop :=
  ∀ index (inside : index < run.length), holds (run.take index) run[index]

/-- The spike time that one report after another leaves. -/
def heat (run : List Activity) : Nat :=
  run.foldl (fun time activity =>
    -- Spikes heat up to the limit, and quiet times cool down to nothing.
    match activity.kind with
    | .spike => min (time + activity.duration) maxSpikeTime
    | .quiet => time - activity.duration) 0

/-- From the first spike on, no spike demotes and no quiet time takes the spike time below a
hundredth of its limit. -/
def Lingers : List Activity → Prop :=
  AllAlong fun past activity => (∃ earlier ∈ past, earlier.kind = .spike) →
    -- A demotion registers the burst that is going on, and so does its end.
    (activity.kind = .spike → activity.signals.shouldDemote = false) ∧
      (activity.kind = .quiet → activity.duration + 10 ≤ heat past)

/-- No real burst is among what has been registered. -/
def NothingReal (occurrences : List Occurrence) : Prop :=
  -- What is not real only lets the history age.
  ∀ occurrence ∈ occurrences, occurrence.real = false

instance {holds : List Activity → Activity → Prop} [∀ past next, Decidable (holds past next)]
    (run : List Activity) : Decidable (AllAlong holds run) :=
  inferInstanceAs (Decidable (∀ index (_ : index < run.length), _))

instance (run : List Activity) : Decidable (SpikesAlone run) :=
  inferInstanceAs (Decidable (run.IsChain _))

instance (run : List Activity) : Decidable (Lingers run) :=
  inferInstanceAs (Decidable (AllAlong _ run))

/-- What holds all along a longer run holds all along the shorter one and at its end. -/
theorem allAlong_concat {holds : List Activity → Activity → Prop} {run : List Activity}
    {last : Activity} :
    AllAlong holds (run ++ [last]) ↔ AllAlong holds run ∧ holds run last := by
  -- Each place of the longer run is one of the shorter run, or the last one.
  constructor
  · intro along
    refine ⟨fun index inside => ?_, ?_⟩
    · have earlier := along index (by simp; omega)
      rwa [List.take_append_of_le_length (Nat.le_of_lt inside), List.getElem_append_left inside]
        at earlier
    · have atEnd := along run.length (by simp)
      simpa using atEnd
  · rintro ⟨along, atEnd⟩ index inside
    rcases Nat.lt_or_ge index run.length with before | behind
    · rw [List.take_append_of_le_length (Nat.le_of_lt before), List.getElem_append_left before]
      exact along index before
    · -- Only the last report is left.
      have same : index = run.length := by simp at inside; omega
      subst same
      simpa using atEnd

theorem nothingReal_append {first second : List Occurrence} :
    NothingReal (first ++ second) ↔ NothingReal first ∧ NothingReal second :=
  List.forall_mem_append

namespace Tracker

variable {tracker : Tracker} {run : List Activity} {activity : Activity}

theorem after_concat (tracker : Tracker) (run : List Activity) (activity : Activity) :
    tracker.after (run ++ [activity]) = (tracker.after run).observe activity :=
  List.foldl_concat ..

theorem registrations_concat (tracker : Tracker) (run : List Activity) (activity : Activity) :
    tracker.registrations (run ++ [activity]) =
      tracker.registrations run ++ (tracker.after run).occurrences activity := by
  rw [registrations_append, registrations, registrations, List.append_nil]

/-- A new tracker knows the spike time of what it has been told. -/
theorem spikeTime_after (run : List Activity) : (new.after run).spikeTime = heat run := by
  -- The last report finds the spike time that the reports before it have left.
  induction run using List.reverseRecOn with
  | nil => rfl
  | append_singleton run last ih =>
    rw [after_concat, heat, List.foldl_concat, ← heat, observe]
    -- Whatever a report registers, it changes the spike time by its duration.
    cases last.kind with
    | spike => rw [spikeTime_addSpike, ih]
    | quiet => rw [spikeTime_addQuiet, ih]

/-- A quiet time ends a burst if it leaves less than a hundredth of the limit. -/
theorem endsBurst_iff (tracker : Tracker) (duration : Nat) :
    tracker.endsBurst duration = true ↔
      tracker.inBurst = true ∧ tracker.spikeTime < duration + 10 := by
  rw [endsBurst, Bool.and_eq_true, beq_iff_eq, spikeRate_eq_zero_iff]
  -- The rate that is asked for is the one after the tracker has cooled down.
  have left : (tracker.cool duration).spikeTime = tracker.spikeTime - duration := rfl
  exact and_congr_right fun _ => by omega

/-- A spike registers the burst that is going on if it demotes, unless that has been done. -/
theorem registersOnSpike_iff (waiting : tracker.registered = false) (signals : Signals) :
    tracker.registersOnSpike signals = true ↔
      tracker.inBurst = true ∧ signals.shouldDemote = true := by
  rw [registersOnSpike, waiting, Bool.not_false, Bool.and_true, Bool.and_eq_true]

/-- While no burst is known to be registered, a report registers nothing real unless there is a
burst that it demotes or ends. -/
theorem nothingReal_occurrences_iff (waiting : tracker.registered = false) :
    NothingReal (tracker.occurrences activity) ↔ (tracker.inBurst = true →
      (activity.kind = .spike → activity.signals.shouldDemote = false) ∧
        (activity.kind = .quiet → activity.duration + 10 ≤ tracker.spikeTime)) := by
  unfold occurrences
  cases kind : activity.kind with
  | spike =>
    have asked := registersOnSpike_iff waiting activity.signals
    dsimp only
    by_cases demotes : tracker.inBurst = true ∧ activity.signals.shouldDemote = true
    · rw [if_pos (asked.mpr demotes)]
      simp [NothingReal, demotes]
    · -- Nothing is registered at all, real or not.
      rw [if_neg (mt asked.mp demotes)]
      simpa [NothingReal] using demotes
  | quiet =>
    have ends := tracker.endsBurst_iff activity.duration
    dsimp only
    rw [waiting, if_neg Bool.false_ne_true]
    by_cases drained : tracker.inBurst = true ∧ tracker.spikeTime < activity.duration + 10
    · rw [if_pos (ends.mpr drained)]
      simp [NothingReal, drained]
    · -- The occurrence that is registered only lets the history age.
      rw [if_neg (mt ends.mp drained)]
      simpa [NothingReal] using drained

/-- A report that registers nothing real leaves no burst registered, and there is one if there was
one or if this is a spike. -/
theorem inBurst_observe_of_nothingReal (waiting : tracker.registered = false)
    (nothing : NothingReal (tracker.occurrences activity)) :
    ((tracker.observe activity).inBurst = true ↔
      tracker.inBurst = true ∨ activity.kind = .spike) ∧
    (tracker.observe activity).registered = false := by
  have within := (nothingReal_occurrences_iff waiting).mp nothing
  unfold observe
  cases kind : activity.kind with
  | spike =>
    -- A spike inside a burst would be registered as real if it asked for a demotion.
    have silent : ¬ tracker.registersOnSpike activity.signals = true := by
      rw [registersOnSpike_iff waiting]
      rintro ⟨bursting, demotes⟩
      exact Bool.false_ne_true (((within bursting).1 kind).symm.trans demotes)
    simp [inBurst_addSpike, registered_addSpike, waiting, silent]
  | quiet =>
    -- The end of a burst that is not registered yet would be registered as real.
    have lasts : ¬ tracker.endsBurst activity.duration = true := by
      rw [endsBurst_iff]
      rintro ⟨bursting, drained⟩
      have left := (within bursting).2 kind
      omega
    simp [inBurst_addQuiet, registered_addQuiet, lasts]

/-- A registration that is not of a real burst counts nothing. -/
theorem count_register_le (tracker : Tracker) (now : Nat) (signals : Signals) :
    (tracker.register now false signals).count ≤ tracker.count := by
  unfold register
  cases tracker.anchor with
  | none => exact Nat.le_refl _
  | some anchor =>
    -- The history is kept or begins anew.
    dsimp only
    rw [Bool.false_and, if_neg Bool.false_ne_true]
    split
    · exact Nat.zero_le _
    · exact Nat.le_refl _

/-- A report that registers nothing real counts nothing. -/
theorem count_observe_le (nothing : NothingReal (tracker.occurrences activity)) :
    (tracker.observe activity).count ≤ tracker.count := by
  have outcome : (tracker.observe activity).count =
      (tracker.registerAll (tracker.occurrences activity)).count :=
    congrArg Prod.fst (history_observe tracker activity)
  rw [outcome]
  rcases tracker.occurrences_cases activity with silent | ⟨occurrence, single⟩
  · rw [silent]
    exact Nat.le_refl _
  · -- The one occurrence there is lets the history age at most.
    have unreal : occurrence.real = false := nothing occurrence (by simp [single])
    rw [single, registerAll_cons, unreal]
    exact count_register_le _ _ _

/-- While nothing real is registered, there is a burst from the first spike on. -/
theorem inBurst_after_of_nothingReal (nothing : NothingReal (new.registrations run)) :
    ((new.after run).inBurst = true ↔ ∃ earlier ∈ run, earlier.kind = .spike) ∧
      (new.after run).registered = false := by
  -- A burst that nothing real was registered for has neither been demoted nor ended.
  induction run using List.reverseRecOn with
  | nil => exact ⟨by simp [after, new], rfl⟩
  | append_singleton run last ih =>
    rw [registrations_concat, nothingReal_append] at nothing
    obtain ⟨bursting, waiting⟩ := ih nothing.1
    have step := inBurst_observe_of_nothingReal waiting nothing.2
    rw [after_concat]
    refine ⟨?_, step.2⟩
    -- There is a spike in the longer run if there is one before the last report, or if it is one.
    rw [step.1, bursting]
    simp [or_and_right, exists_or]

/-- Nothing real is registered exactly if the first burst lasts and is not demoted. -/
theorem nothingReal_registrations_iff (run : List Activity) :
    NothingReal (new.registrations run) ↔ Lingers run := by
  induction run using List.reverseRecOn with
  | nil => simp [registrations, NothingReal, Lingers, AllAlong]
  | append_singleton run last ih =>
    -- Both sides speak about the shorter run and then about the last report.
    unfold Lingers at ih ⊢
    rw [registrations_concat, nothingReal_append, allAlong_concat, ← ih]
    refine and_congr_right fun before => ?_
    -- As long as it is so, the spikes that there were tell whether there is a burst.
    obtain ⟨bursting, waiting⟩ := inBurst_after_of_nothingReal before
    rw [nothingReal_occurrences_iff waiting, bursting, spikeTime_after]

/-- While nothing real is registered, the count never grows. -/
theorem count_allAlong (nothing : NothingReal (new.registrations run)) :
    AllAlong (fun past next => (new.after (past ++ [next])).count ≤ (new.after past).count)
      run := by
  -- The last report cannot raise the count that the reports before it have left.
  induction run using List.reverseRecOn with
  | nil => intro index inside; simp at inside
  | append_singleton run last ih =>
    rw [registrations_concat, nothingReal_append] at nothing
    rw [allAlong_concat]
    refine ⟨ih nothing.1, ?_⟩
    rw [after_concat]
    exact count_observe_le nothing.2

/-- No burst is known to be registered before a spike that stands alone. -/
theorem registered_before_lone_spike {past later : List Activity} {spike : Activity}
    (alone : SpikesAlone (past ++ spike :: later)) (hot : spike.kind = .spike) :
    (new.after past).registered = false := by
  rcases List.eq_nil_or_concat past with rfl | ⟨init, last, rfl⟩
  · -- A new tracker knows of no burst at all.
    rfl
  · -- The report before it was a quiet time, which leaves no burst registered.
    rw [List.concat_eq_append] at alone ⊢
    rw [List.append_assoc, List.singleton_append] at alone
    have apart := (List.isChain_append_cons_cons.mp alone).2.1
    cases kind : last.kind with
    | spike => exact absurd ((apart kind).symm.trans hot) Kind.noConfusion
    | quiet =>
      rw [after_concat, observe, kind]
      exact registered_addQuiet _ _ _ _

/-- A spike and the quiet time after it register one real burst between them, or none. -/
theorem countP_real_spike_quiet {spike quiet : Activity} (waiting : tracker.registered = false)
    (hot : spike.kind = .spike) (rests : quiet.kind = .quiet) :
    (tracker.registrations [spike, quiet]).countP Occurrence.real =
      if tracker.inBurst = true ∧ spike.signals.shouldDemote = true ∨
          (tracker.observe spike).spikeTime < quiet.duration + 10 then 1 else 0 := by
  have asked := registersOnSpike_iff waiting spike.signals
  have known : (tracker.observe spike).registered = tracker.registersOnSpike spike.signals := by
    simp only [observe, hot, registered_addSpike, waiting, Bool.false_or]
  have ends : (tracker.observe spike).endsBurst quiet.duration = true ↔
      (tracker.observe spike).spikeTime < quiet.duration + 10 := by
    rw [endsBurst_iff, observe, hot, inBurst_addSpike, eq_self, true_and]
  simp only [registrations, occurrences, hot, rests, known, ends, List.append_nil]
  by_cases demotes : tracker.inBurst = true ∧ spike.signals.shouldDemote = true
  · -- The spike registers the burst, so that its end has nothing left to do.
    rw [if_pos (asked.mpr demotes), if_pos (Or.inl demotes), if_pos (asked.mpr demotes)]
    split <;> rfl
  · -- The burst is left to the quiet time, which registers it if it ends it.
    rw [if_neg (mt asked.mp demotes), if_neg (mt asked.mp demotes), List.nil_append]
    simp only [demotes, false_or]
    split <;> rfl

/-- In a run of spikes that stand alone nothing real is registered, and the count never grows,
exactly if the first of them lingers to the end and none demotes after it. Each of them with the
quiet time after it has one burst registered if it demotes while earlier ones linger, or if the
quiet time leaves less than a hundredth of the limit, and none otherwise. -/
theorem lone_spikes_unregistered_iff_lingers (alone : SpikesAlone run) :
    (NothingReal (new.registrations run) ∧
        AllAlong (fun past next => (new.after (past ++ [next])).count ≤ (new.after past).count)
          run ↔ Lingers run) ∧
    ∀ past spike quiet later, run = past ++ spike :: quiet :: later → spike.kind = .spike →
      ((new.after past).registrations [spike, quiet]).countP Occurrence.real =
        if (new.after past).inBurst = true ∧ spike.signals.shouldDemote = true ∨
            heat (past ++ [spike]) < quiet.duration + 10 then 1 else 0 := by
  constructor
  · -- What is not registered is not counted either, so that the count adds no condition.
    rw [← nothingReal_registrations_iff, and_iff_left_iff_imp]
    exact count_allAlong
  · rintro past spike quiet later rfl hot
    -- The report after the spike is a quiet time, and the burst before it is not registered.
    have waiting := registered_before_lone_spike alone hot
    have rests := (List.isChain_append_cons_cons.mp alone).2.1 hot
    rw [countP_real_spike_quiet waiting hot rests, ← after_concat, spikeTime_after]

/-- Spikes that stand alone and linger are left out of the history. -/
theorem lone_spikes_unregistered_lingering :
    let run := [quietAt 0 10, spikeAt 10 500 false, quietAt 20 100, spikeAt 30 100 false,
      quietAt 40 400]
    SpikesAlone run ∧ Lingers run ∧ NothingReal (new.registrations run) ∧
      ((new.after [quietAt 0 10, spikeAt 10 500 false, quietAt 20 100]).registrations
        [spikeAt 30 100 false, quietAt 40 400]).countP Occurrence.real = 0 := by
  -- Some of the spike time is left over both times, so neither burst ends with its spike.
  intro run
  have alone : SpikesAlone run := by decide +kernel
  have lingers : Lingers run := by decide +kernel
  obtain ⟨unregistered, pair⟩ := lone_spikes_unregistered_iff_lingers alone
  refine ⟨alone, lingers, (unregistered.mpr lingers).1, ?_⟩
  exact (pair _ _ _ [] rfl rfl).trans (by decide +kernel)

/-- A spike that stands alone is registered and counted once it has cooled down. -/
theorem lone_spike_registered :
    let run := [quietAt 0 10, spikeAt 10 500 false, quietAt 20 1000]
    SpikesAlone run ∧ new.registrations run =
      [⟨0, false, ⟨false, true⟩⟩, ⟨20, true, ⟨false, true⟩⟩] ∧
      (new.after [quietAt 0 10, spikeAt 10 500 false]).count = 0 ∧ (new.after run).count = 1 := by
  decide +kernel

end Tracker

end PowerGovernor.Burst
