import PowerGovernor.Proofs.Graphics.Latch

/-! A load by registers spans the time since the latest reading that succeeded, however many have
failed since. -/

namespace PowerGovernor.Graphics

variable {World : Type}

/-- How far a counter of 64 bits has come from one value to another, modulo its range. -/
def advance (previous current : UInt64) : Nat :=
  -- A counter that has overflowed shows a smaller value than before.
  (((current.toNat : Int) - previous.toNat) % UInt64.size).toNat

/-- The load between two readings of the registers: the share of the time stamps that the residency
has kept up with, and none if the time stamp has not moved. -/
def estimateBetween (previous current : RegisterPair) : Reading :=
  let elapsed := advance previous.timeStamp current.timeStamp
  if elapsed = 0 then none
  else some (.clamp (advance previous.active current.active * fullScale / elapsed))

/-- The latest pair among readings that are listed from the first to the last, some of which may
have failed. -/
def latestPair (past : List (Option RegisterPair)) : Option RegisterPair :=
  -- A reading that failed says nothing.
  (past.filterMap id).getLast?

/-- The load that a reading shows after the readings before it. -/
def estimate (past : List (Option RegisterPair)) (reading : Option RegisterPair) : Reading :=
  (latestPair past).bind fun previous => reading.bind fun current =>
    estimateBetween previous current

/-- The loads that one reading after another shows after the readings before them. -/
def estimates (past : List (Option RegisterPair)) : List (Option RegisterPair) → List Reading
  | [] => []
  | reading :: rest => estimate past reading :: estimates (past ++ [reading]) rest

/-- What a measurement reads from the registers of the current CPU: both of them, or nothing. -/
def Survey.reading (platform : Platform World) (survey : Survey World) : Option RegisterPair :=
  let cpu := platform.currentCpu survey.world
  -- The residency is read from the machine as the first reading leaves it.
  let stamped := platform.readRegister cpu timeStampRegister survey.world
  let counted := platform.readRegister cpu activeResidencyRegister stamped.2
  stamped.1.toOption.bind fun timeStamp => counted.1.toOption.map fun active => ⟨timeStamp, active⟩

/-- The load that a measurement reports. -/
def Survey.load (platform : Platform World) (survey : Survey World) : Reading :=
  (survey.measurement platform).load

section Readings

variable {past : List (Option RegisterPair)} {reading : Option RegisterPair}

/-- A further reading is the latest one, unless it failed. -/
theorem latestPair_concat (past : List (Option RegisterPair)) (reading : Option RegisterPair) :
    latestPair (past ++ [reading]) = reading.or (latestPair past) := by
  -- A reading that failed drops out of the list.
  cases reading <;> simp [latestPair]

/-- Readings are estimated in two parts, of which the second one knows the first. -/
theorem estimates_append (past first second : List (Option RegisterPair)) :
    estimates past (first ++ second) = estimates past first ++ estimates (past ++ first) second := by
  -- What has been read is handed on as the past of the rest.
  induction first generalizing past with
  | nil => simp [estimates]
  | cons reading rest ih => simp [estimates, ih]

/-- There is one load for every reading. -/
theorem length_estimates (past readings : List (Option RegisterPair)) :
    (estimates past readings).length = readings.length := by
  -- The past does not matter for how many there are.
  induction readings generalizing past with
  | nil => rfl
  | cons reading rest ih => simp [estimates, ih]

/-- Of the readings before them, estimates depend on the latest that succeeded only. -/
theorem estimates_congr {past other : List (Option RegisterPair)}
    (same : latestPair past = latestPair other) (readings : List (Option RegisterPair)) :
    estimates past readings = estimates other readings := by
  induction readings generalizing past other with
  | nil => rfl
  | cons reading rest ih =>
    -- Both histories go on with the same reading, so the latest pair stays the same.
    have next : latestPair (past ++ [reading]) = latestPair (other ++ [reading]) := by
      rw [latestPair_concat, latestPair_concat, same]
    simp only [estimates, estimate, same, ih next]

/-- A counter of 64 bits is subtracted modulo its range. -/
theorem toNat_sub_eq_advance (previous current : UInt64) :
    (current - previous).toNat = advance previous current := by
  -- Words are subtracted modulo their range, and the remainder of integers is never negative.
  have before := previous.toNat_lt
  have now := current.toNat_lt
  rw [UInt64.toNat_sub, advance, UInt64.size]
  omega

/-- The load between two readings is the estimate. -/
theorem loadBetween_eq (previous current : RegisterPair) :
    loadBetween current previous = estimateBetween previous current := by
  -- The time stamp stands still as a word exactly if it has not advanced.
  have still : current.timeStamp - previous.timeStamp = 0 ↔
      advance previous.timeStamp current.timeStamp = 0 := by
    rw [← toNat_sub_eq_advance, ← UInt64.toNat_inj, UInt64.toNat_zero]
  simp only [loadBetween, estimateBetween, still, toNat_sub_eq_advance]
  split
  · rfl
  · -- Some time has passed, so the share is a quotient.
    rename_i moved
    rw [BasisPoints.ratio, if_neg moved]

end Readings

section Runs

variable {platform : Platform World} {root : Path}

/-- Both registers are read, or the measurement has nothing to go by. -/
theorem reading_eq_outcome (platform : Platform World) (survey : Survey World) :
    survey.reading platform =
      (readRegisters platform (platform.currentCpu survey.world) survey.world).outcome.toOption := by
  simp only [Survey.reading, readRegisters]
  -- The second register is read from the machine that the first reading leaves.
  cases stamped : platform.readRegister (platform.currentCpu survey.world) timeStampRegister
      survey.world with
  | mk stamp next =>
    cases stamp with
    -- The residency is not asked for, and would not count either.
    | error fault => rfl
    | ok timeStamp =>
      cases counted : platform.readRegister (platform.currentCpu survey.world)
          activeResidencyRegister next with
      | mk count last => cases count <;> simp [Except.toOption, counted]

/-- A measurement by registers shows the load since its baseline, and moves the baseline if the
registers could be read. -/
theorem measurement_of_registers (platform : Platform World) (root : Path)
    (baseline : Option RegisterPair) (world : World) (now : Nat) :
    let survey : Survey World := ⟨⟨root, .registers baseline⟩, world, now⟩
    survey.load platform = baseline.bind (fun previous =>
        (survey.reading platform).bind fun current => estimateBetween previous current) ∧
      (survey.measurement platform).probe =
        ⟨root, .registers ((survey.reading platform).or baseline)⟩ := by
  intro survey
  -- The measurement goes by the outcome of its two readings, on either way.
  have outcome := reading_eq_outcome platform survey
  have measured : survey.measurement platform =
      (⟨root, .registers baseline⟩ : Probe).sampleRegisters baseline platform world := rfl
  rw [Survey.load, measured, outcome]
  simp only [Probe.sampleRegisters]
  cases (readRegisters platform (platform.currentCpu world) world).outcome with
  | error fault =>
    -- A reading that fails leaves the baseline where it was.
    exact ⟨by cases baseline <;> rfl, rfl⟩
  | ok pair =>
    refine ⟨?_, rfl⟩
    cases baseline with
    | none => rfl
    | some previous => exact loadBetween_eq previous pair

/-- The loads of a run are the estimates of its readings, after those that led to its baseline. -/
theorem load_surveys (platform : Platform World) (root : Path) (moments : List (Moment World)) :
    ∀ (past : List (Option RegisterPair)) (world : World),
      let surveys := Probe.surveys platform ⟨root, .registers (latestPair past)⟩ world moments
      surveys.map (Survey.load platform) =
        estimates past (surveys.map (Survey.reading platform)) := by
  -- The baseline is the latest pair of a history, and that is what every measurement keeps.
  induction moments with
  | nil => exact fun past world => rfl
  | cons moment rest ih =>
    intro past world
    have step := measurement_of_registers platform root (latestPair past) (moment.drift world)
      moment.now
    simp only [Probe.surveys, List.map_cons, estimates]
    -- The first measurement leaves the latest pair of a history that its reading belongs to.
    rw [step.2, ← latestPair_concat]
    exact congrArg₂ List.cons step.1 (ih _ _)

/-- Wherever a run is divided, the loads on both sides are estimates. -/
theorem load_of_split {moments : List (Moment World)} {world : World}
    {past later : List (Survey World)} {survey : Survey World}
    (split : Probe.surveys platform ⟨root, .registers none⟩ world moments =
      past ++ survey :: later) :
    let read := Survey.reading platform
    past.map (Survey.load platform) = estimates [] (past.map read) ∧
      survey.load platform = estimate (past.map read) (read survey) ∧
      later.map (Survey.load platform) =
        estimates (past.map read ++ [read survey]) (later.map read) := by
  intro read
  -- A new run has an empty history.
  have loads := load_surveys platform root moments [] world
  rw [show latestPair [] = none from rfl] at loads
  rw [split] at loads
  simp only [List.map_append, List.map_cons, estimates_append, List.nil_append, estimates] at loads
  -- There are as many estimates as measurements on the left.
  obtain ⟨before, rest⟩ := List.append_inj loads (by simp [length_estimates])
  obtain ⟨here, behind⟩ := List.cons.inj rest
  exact ⟨before, here, behind⟩

/-- A measurement by registers reports no load if one of its two readings failed, if no measurement
before it has read both registers, or if the time stamp has not moved since the latest that has.
Otherwise it reports what the residency has advanced since that same measurement as a share of what
the time stamp has.

A measurement that fails leaves no trace: on any machine that gives the same readings without it,
all other measurements report the same loads. -/
theorem register_loads_span_successes (root : Path) (platform : Platform World) (world : World)
    (moments : List (Moment World)) :
    let surveys := Probe.surveys platform ⟨root, .registers none⟩ world moments
    ∀ past survey later, surveys = past ++ survey :: later →
      survey.load platform =
          estimate (past.map (Survey.reading platform)) (survey.reading platform) ∧
        (survey.reading platform = none →
          ∀ {Other : Type} (elsewhere : Platform Other) (other : Other)
            (others : List (Moment Other)),
            let twins := Probe.surveys elsewhere ⟨root, .registers none⟩ other others
            twins.map (Survey.reading elsewhere) =
                (past ++ later).map (Survey.reading platform) →
              twins.map (Survey.load elsewhere) = (past ++ later).map (Survey.load platform)) := by
  intro surveys past survey later split
  -- The load at the cut is the estimate from the readings before it.
  obtain ⟨before, here, behind⟩ := load_of_split split
  refine ⟨here, ?_⟩
  intro failed Other elsewhere other others twins same
  -- Without the reading that failed the latest pair before the later ones is the same.
  have unmoved : latestPair (past.map (Survey.reading platform) ++ [survey.reading platform]) =
      latestPair (past.map (Survey.reading platform)) := by
    rw [failed, latestPair_concat, Option.none_or]
  have loads : twins.map (Survey.load elsewhere) = estimates [] (twins.map _) :=
    load_surveys elsewhere root others [] other
  rw [loads, same, List.map_append, List.map_append, estimates_append, List.nil_append, before,
    behind, estimates_congr unmoved]

/-- A measurement whose second register fails and one whose first register does are passed over: the
next one shows the load since the first, and does so without the one or the other before it too. -/
theorem register_loads_span_failures :
    let run (script : List (Option UInt64)) (times : List Nat) : List (Survey Simulated) :=
      Probe.surveys Simulated.platform ⟨["tile0"], .registers none⟩ { files := fun _ => none, script }
        (times.map fun now => ⟨now, id⟩)
    let surveys := run [some 0, some 0, some 400, none, none, some 1000, some 500] [0, 1, 2, 3]
    let spared := run [some 0, some 0, none, some 1000, some 500] [0, 2, 3]
    surveys.map (Survey.reading Simulated.platform) =
        [some ⟨0, 0⟩, none, none, some ⟨1000, 500⟩] ∧
      surveys[3].load Simulated.platform = some (.clamp 5000) ∧
      spared.map (Survey.load Simulated.platform) =
        (surveys.take 1 ++ surveys.drop 2).map (Survey.load Simulated.platform) := by
  intro run surveys spared
  -- The second measurement misses its residency, and the third one its time stamp.
  have spans := register_loads_span_successes ["tile0"] Simulated.platform
    { files := fun _ => none
      script := [some 0, some 0, some 400, none, none, some 1000, some 500] }
    ([0, 1, 2, 3].map fun now => ⟨now, id⟩)
  obtain ⟨last, -⟩ := spans (surveys.take 3) surveys[3] [] rfl
  obtain ⟨-, skipped⟩ := spans (surveys.take 1) surveys[1] (surveys.drop 2) rfl
  refine ⟨by decide, last.trans (by decide), ?_⟩
  exact skipped rfl Simulated.platform _ ([0, 2, 3].map fun now => ⟨now, id⟩) (by decide)

end Runs

end PowerGovernor.Graphics
