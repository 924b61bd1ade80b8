import Mathlib.Data.List.Forall2
import PowerGovernor.Proofs.Governor.Run
import PowerGovernor.Proofs.Graphics.Dependence

/-! The governor does the same on machines that look alike, however long it runs. -/

namespace PowerGovernor

variable {Left Right : Type}

/-- Two polls after which the governors are the same and have asked for the same, on machines that
look alike. -/
structure Tick.Alike (alike : Left → Right → Prop) (first : Tick Left) (second : Tick Right) :
    Prop where
  /-- The governors remember the same. -/
  governor : first.governor = second.governor
  /-- The same poll interval is recommended. -/
  interval : first.interval = second.interval
  /-- The same calls were made. -/
  calls : first.calls = second.calls
  /-- The machines look alike after the poll. -/
  world : alike first.world second.world

/-- Two occasions that differ in nothing that the governor can see. -/
structure Occasion.Alike (alike : Left → Right → Prop) (first : Occasion Left)
    (second : Occasion Right) : Prop where
  /-- The clock shows the same. -/
  now : first.now = second.now
  /-- The same hint is given. -/
  hint : first.hint = second.hint
  /-- What happens to the machines keeps them alike. -/
  drift : ∀ {one other}, alike one other → alike (first.drift one) (second.drift other)

/-- Two parts of a poll are alike if the second parts are, from wherever the first ones end. -/
theorem Tick.Alike.andThen {alike : Left → Right → Prop} {first : Tick Left}
    {second : Tick Right} (begun : first.Alike alike second)
    {more : Governor → Left → Tick Left} {further : Governor → Right → Tick Right}
    (ended : ∀ one other, alike one other →
      (more first.governor one).Alike alike (further first.governor other)) :
    (first.andThen more).Alike alike (second.andThen further) := by
  -- Governors and machines are alike where the second parts begin.
  have rest := ended first.world second.world begun.world
  simp only [Tick.andThen, ← begun.governor]
  refine ⟨rest.governor, rest.interval, ?_, rest.world⟩
  show first.calls ++ _ = second.calls ++ _
  rw [begun.calls, rest.calls]

/-- What a sampler finds depends on the file of its table only. -/
theorem Sampler.sample_congr {sampler : Sampler} {left right : FileTree}
    (agree : left.AgreeAt right sampler.path) :
    (sampler.sample left).1 = (sampler.sample right).1 ∧
      (sampler.sample left).2.1 = (sampler.sample right).2.1 := by
  unfold Sampler.sample
  -- An unreadable table is only reported differently.
  rcases agree.readText with ⟨table, one, other⟩ | ⟨fault, reason, one, other⟩
  · simp only [one, other, and_self]
  · simp only [one, other, and_self]

/-- A sampler keeps to its file. -/
theorem Sampler.path_sample (sampler : Sampler) (files : FileTree) :
    (sampler.sample files).1.path = sampler.path := by
  -- A sampler writes its counters, not its path.
  unfold Sampler.sample
  split <;> rfl

namespace Governor

/-- The files that a governor may read. -/
def reads (governor : Governor) : List Path :=
  governor.sampler.path :: governor.probe.reads

section Polls

variable {left : Platform Left} {right : Platform Right} {watched : Path → Prop}
  {alike : Left → Right → Prop} {one : Left} {other : Right} {governor : Governor}

/-- A policy state is selected by the sample alone. -/
theorem selectState_alike (looks : left.LooksLike right watched alike) (related : alike one other)
    (governor : Governor) (hint : Option UInt32) :
    (governor.selectState hint left one).Alike alike (governor.selectState hint right other) :=
  ⟨rfl, rfl, rfl, looks.performAll _ related⟩

/-- Graphics load is measured from what the probe reads. -/
theorem measureGraphics_alike (looks : left.LooksLike right watched alike)
    (related : alike one other) (governor : Governor)
    (seen : ∀ path ∈ governor.probe.reads, watched path) (now : Nat) :
    (governor.measureGraphics now left one).Alike alike
      (governor.measureGraphics now right other) := by
  -- The probe is the only part that looks at the machines.
  have measured := Graphics.Probe.sample_alike looks related seen now
  simp only [measureGraphics, measured.probe, measured.load]
  exact ⟨rfl, rfl, measured.calls, measured.world⟩

/-- The loads of a poll are measured from what the governor reads. -/
theorem measured_alike (looks : left.LooksLike right watched alike) (related : alike one other)
    (seen : ∀ path ∈ governor.reads, watched path) (now : Nat) :
    (governor.measured now left one).Alike alike (governor.measured now right other) := by
  -- The table is one of the files that the governor reads, and the probe reads the others.
  have agree := looks.files related governor.sampler.path (seen _ (by simp [reads]))
  obtain ⟨sampler, busy⟩ := Sampler.sample_congr agree
  simp only [measured, measureCpus, sampler, busy]
  have graphics := measureGraphics_alike looks related
    { governor with
      sampler := (governor.sampler.sample (right.files other)).1
      sample := { governor.sample with
        timestamp := now
        system := (governor.sampler.sample (right.files other)).2.1.map Busy.system
        cpu := (governor.sampler.sample (right.files other)).2.1.map Busy.cpu }
      openedGate := some (governor.gateAt now) }
    (fun path member => seen path (List.mem_cons_of_mem _ member)) now
  exact ⟨graphics.governor, graphics.interval, graphics.calls, graphics.world⟩

/-- The built-in controller decides by the sample and the mode of the machine. -/
theorem controlTick_alike (looks : left.LooksLike right watched alike) (related : alike one other)
    (governor : Governor) (gate : DwellGate) (now : Nat) :
    (governor.controlTick gate now left one).Alike alike
      (governor.controlTick gate now right other) := by
  -- Of a machine the controller sees the mode, which is the same on both.
  simp only [controlTick, looks.inLowPower related]
  exact ⟨rfl, rfl, rfl, looks.performAll _ related⟩

/-- With a hint, one poll does the same on machines that look alike wherever the probe reads, if it
measures graphics load at all. -/
theorem tick_alike_of_hint (looks : left.LooksLike right watched alike) (related : alike one other)
    (seen : governor.settings.pollOnHint = true → ∀ path ∈ governor.probe.reads, watched path)
    (now : Nat) (hint : UInt32) :
    (governor.tick now (some hint) left one).Alike alike
      (governor.tick now (some hint) right other) := by
  simp only [tick, tickWithHint]
  split
  · rename_i polled
    -- With a hint graphics load is all that is measured.
    refine (measureGraphics_alike looks related
      { governor with sample := { governor.sample with timestamp := now } } (seen polled)
      now).andThen ?_
    intro one other related
    exact selectState_alike looks related _ (some hint)
  · -- Without a measurement the selection is all there is.
    have selected := selectState_alike looks related
      { governor with sample := { governor.sample with timestamp := now } } (some hint)
    exact ⟨selected.governor, rfl, selected.calls, selected.world⟩

/-- One poll does the same on machines that look alike wherever the governor reads. -/
theorem tick_alike (looks : left.LooksLike right watched alike) (related : alike one other)
    (seen : ∀ path ∈ governor.reads, watched path) (now : Nat) (hint : Option UInt32) :
    (governor.tick now hint left one).Alike alike (governor.tick now hint right other) := by
  cases hint with
  | some hint =>
    exact tick_alike_of_hint looks related
      (fun _ path member => seen path (List.mem_cons_of_mem _ member)) now hint
  | none =>
    -- Unmonitored polls leave everything as it is.
    cases monitored : governor.settings.monitor with
    | false =>
      simp only [tick, monitored, Bool.false_eq_true, if_false]
      exact ⟨rfl, rfl, rfl, related⟩
    | true =>
      rw [tick_eq_measured_andThen monitored, tick_eq_measured_andThen monitored]
      refine (measured_alike looks related seen now).andThen ?_
      intro one other related
      -- Either way of deciding is blind to what the machines differ in.
      split
      · exact selectState_alike looks related _ none
      · exact controlTick_alike looks related _ _ now

end Polls

/-- A step of the built-in controller changes neither what is measured nor how. -/
theorem reads_controlMode (governor : Governor) (gate : DwellGate) (now : Nat) (lowPower : Bool) :
    (governor.controlMode gate now lowPower).1.reads = governor.reads := by
  -- A step writes the gate, the verdict and nothing else that could name a file.
  simp only [controlMode]
  split <;> rfl

/-- After measuring a governor reads no other files than before. -/
theorem reads_measured {World : Type} (governor : Governor) (now : Nat) (platform : Platform World)
    (world : World) :
    ∀ path ∈ (governor.measured now platform world).governor.reads, path ∈ governor.reads := by
  intro path member
  -- The table stays where it is, and the probe reads no more than before.
  rcases List.mem_cons.mp member with table | graphics
  · rw [table]
    exact List.mem_cons.mpr (Or.inl (Sampler.path_sample _ _))
  · exact List.mem_cons_of_mem _
      (Graphics.Probe.reads_sample governor.probe now platform world path graphics)

/-- After a poll with a hint a probe reads no other files than before. -/
theorem probe_reads_tick {World : Type} (governor : Governor) (now : Nat) (hint : UInt32)
    (platform : Platform World) (world : World) :
    ∀ path ∈ (governor.tick now (some hint) platform world).governor.probe.reads,
      path ∈ governor.probe.reads := by
  intro path member
  simp only [tick, tickWithHint] at member
  -- The probe is the old one if graphics load is not measured.
  split at member
  · exact Graphics.Probe.reads_sample governor.probe now platform world path member
  · exact member

/-- After a poll a governor reads no other files than before. -/
theorem reads_tick {World : Type} (governor : Governor) (now : Nat) (hint : Option UInt32)
    (platform : Platform World) (world : World) :
    ∀ path ∈ (governor.tick now hint platform world).governor.reads, path ∈ governor.reads := by
  intro path member
  cases hint with
  | some hint =>
    -- With a hint the sampler is not touched.
    have sampler : (governor.tick now (some hint) platform world).governor.sampler =
        governor.sampler := by
      simp only [tick, tickWithHint]
      split <;> rfl
    rcases List.mem_cons.mp member with table | graphics
    · exact List.mem_cons.mpr (Or.inl (table.trans (congrArg Sampler.path sampler)))
    · exact List.mem_cons_of_mem _
        (probe_reads_tick governor now hint platform world path graphics)
  | none =>
    cases monitored : governor.settings.monitor with
    | false =>
      simp only [tick, monitored, Bool.false_eq_true, if_false] at member
      exact member
    | true =>
      rw [tick_eq_measured_andThen monitored] at member
      -- Deciding reads no files, so only the measurements count.
      apply reads_measured governor now platform world
      simp only [Tick.andThen] at member
      split at member
      · exact member
      · simp only [controlTick, reads_controlMode] at member
        exact member

/-- If single polls with certain hints do the same on machines that are alike, and leave the governor
ready for the next one, so do runs of such polls. -/
theorem run_alike_of_polls {left : Platform Left} {right : Platform Right}
    {alike : Left → Right → Prop} {told : Option UInt32 → Prop} {ready : Governor → Prop}
    (step : ∀ (governor : Governor) (now : Nat) (hint : Option UInt32) (one : Left) (other : Right),
      told hint → ready governor → alike one other →
      (governor.tick now hint left one).Alike alike (governor.tick now hint right other) ∧
        ready (governor.tick now hint left one).governor) :
    ∀ {firsts : List (Occasion Left)} {seconds : List (Occasion Right)},
      List.Forall₂ (Occasion.Alike alike) firsts seconds →
      (∀ occasion ∈ firsts, told occasion.hint) →
      ∀ (governor : Governor) {one : Left} {other : Right}, alike one other → ready governor →
        List.Forall₂ (Tick.Alike alike) (governor.run left one firsts)
          (governor.run right other seconds) := by
  -- Each poll leaves one governor and two machines that are alike to the polls after it.
  intro firsts seconds occasions
  induction occasions with
  | nil => intro _ governor one other _ _; exact .nil
  | cons same rest ih =>
    intro hinted governor one other related prepared
    rename_i first second _ _
    obtain ⟨given, others⟩ := List.forall_mem_cons.mp hinted
    obtain ⟨poll, again⟩ := step governor first.now first.hint _ _ given prepared
      (same.drift related)
    simp only [run, ← same.now, ← same.hint]
    refine .cons poll ?_
    rw [← poll.governor]
    exact ih others _ poll.world again

/-- A run of polls does the same on machines that look alike wherever the governor reads. -/
theorem run_alike {left : Platform Left} {right : Platform Right} {watched : Path → Prop}
    {alike : Left → Right → Prop} (looks : left.LooksLike right watched alike)
    {firsts : List (Occasion Left)} {seconds : List (Occasion Right)}
    (occasions : List.Forall₂ (Occasion.Alike alike) firsts seconds) (governor : Governor)
    {one : Left} {other : Right} (related : alike one other)
    (seen : ∀ path ∈ governor.reads, watched path) :
    List.Forall₂ (Tick.Alike alike) (governor.run left one firsts)
      (governor.run right other seconds) := by
  have step (governor : Governor) (now : Nat) (hint : Option UInt32) (one : Left) (other : Right)
      (_ : True) (seen : ∀ path ∈ governor.reads, watched path) (related : alike one other) :
      (governor.tick now hint left one).Alike alike (governor.tick now hint right other) ∧
        ∀ path ∈ (governor.tick now hint left one).governor.reads, watched path :=
    -- What the governor reads only gets less.
    ⟨tick_alike looks related seen now hint,
      fun path member => seen path (reads_tick governor now hint left one path member)⟩
  exact run_alike_of_polls step occasions (fun _ _ => trivial) governor related seen

end Governor

end PowerGovernor
