import PowerGovernor.BasisPoints

/-! The period over which graphics load is measured, against the one that each counter asks for. -/

namespace PowerGovernor.Graphics

/-- What one measurement finds in the counters of both engines. -/
structure Glance where
  /-- When the measurement took place. -/
  time : Nat
  /-- What the counter of the render engine shows, if it can be read. -/
  render : Option Nat
  /-- What the counter of the media engine shows, if it can be read. -/
  media : Option Nat
deriving DecidableEq

/-- The busy share of a time in which an engine was idle for some milliseconds. -/
def busyOver (idle elapsed : Nat) : BasisPoints :=
  .clamp (fullScale - min fullScale (idle * fullScale / elapsed))

/-- When the counter of one engine could last be read, and what it showed, in a history that lists
the latest measurement first. -/
def lastShown (shows : Glance → Option Nat) (history : List Glance) : Option (Nat × Nat) :=
  history.findSome? fun glance => (shows glance).map fun value => (glance.time, value)

/-- The load of one engine since its own last reading, when its counter shows a value now. -/
def ownLoad (shows : Glance → Option Nat) (history : List Glance) (now : Nat)
    (value : Option Nat) : Reading :=
  value.bind fun value => (lastShown shows history).map fun (time, last) =>
    busyOver (value - last) (now - time)

/-- The load of the busier engine, with each engine measured since its own last reading. -/
def fairLoad (history : List Glance) (glance : Glance) : Reading :=
  (ownLoad Glance.render history glance.time glance.render).larger
    (ownLoad Glance.media history glance.time glance.media)

/-- The load that the growth of an engine's counter since its own last reading shows when it is put
down to the time since the latest measurement. -/
def hastyLoad (shows : Glance → Option Nat) (latest : Glance) (earlier : List Glance) (now : Nat)
    (value : Option Nat) : Reading :=
  value.bind fun value => (lastShown shows (latest :: earlier)).map fun (_, last) =>
    busyOver (value - last) (now - latest.time)

/-- The load of the busier engine, with both engines measured since the latest measurement. -/
def sharedLoad (latest : Glance) (earlier : List Glance) (glance : Glance) : Reading :=
  (hastyLoad Glance.render latest earlier glance.time glance.render).larger
    (hastyLoad Glance.media latest earlier glance.time glance.media)

/-- A counter that could ever be read could be read at the latest measurement. -/
def Unbroken (shows : Glance → Option Nat) (latest : Glance) (earlier : List Glance) : Prop :=
  ∀ glance ∈ earlier, (shows glance).isSome → (shows latest).isSome

/-- Measurements from the latest to the first, each of them later than the next. -/
def Ordered (history : List Glance) : Prop :=
  history.Pairwise fun newer older => older.time < newer.time

/-- Without a load of the second engine the first one's stands. -/
@[simp] theorem larger_none (reading : Reading) : reading.larger none = reading := by
  -- A missing second load is never larger.
  cases reading <;> rfl

/-- Without a load of the first engine the second one's stands. -/
@[simp] theorem none_larger (reading : Reading) : Reading.larger none reading = reading := rfl

/-- A counter that cannot be read has no load of its own. -/
@[simp] theorem ownLoad_none (shows : Glance → Option Nat) (history : List Glance) (now : Nat) :
    ownLoad shows history now none = none := rfl

/-- A counter that cannot be read has no load over the shared time. -/
@[simp] theorem hastyLoad_none (shows : Glance → Option Nat) (latest : Glance)
    (earlier : List Glance) (now : Nat) : hastyLoad shows latest earlier now none = none := rfl

variable {shows : Glance → Option Nat} {latest : Glance} {earlier : List Glance}

/-- The latest glance answers for a counter, unless it could not be read. -/
theorem lastShown_cons (shows : Glance → Option Nat) (latest : Glance) (earlier : List Glance) :
    lastShown shows (latest :: earlier) =
      match shows latest with
      | some value => some (latest.time, value)
      | none => lastShown shows earlier := by
  -- The search begins with the latest glance.
  unfold lastShown
  rw [List.findSome?_cons]
  cases shows latest <;> rfl

/-- A last reading gives way to the latest glance if that could read the counter. -/
theorem lastShown_value (shows : Glance → Option Nat) (latest : Glance) (earlier : List Glance) :
    (lastShown shows (latest :: earlier)).map Prod.snd =
      (shows latest).or ((lastShown shows earlier).map Prod.snd) := by
  rw [lastShown_cons]
  -- Only the value is asked for, so the time of the reading drops out.
  cases shows latest <;> rfl

/-- The last reading of a counter is one of the history's. -/
theorem exists_of_lastShown {history : List Glance} {time value : Nat}
    (last : lastShown shows history = some (time, value)) :
    ∃ glance ∈ history, shows glance = some value ∧ glance.time = time := by
  -- The search stops at a member in which the counter is shown.
  obtain ⟨glance, member, found⟩ := List.exists_of_findSome?_eq_some last
  obtain ⟨_, showing, same⟩ := Option.map_eq_some_iff.mp found
  cases same
  exact ⟨glance, member, showing, rfl⟩

/-- A counter that was ever read has a last reading. -/
theorem exists_lastShown {history : List Glance} {glance : Glance} (member : glance ∈ history)
    (showing : (shows glance).isSome) :
    ∃ time value, lastShown shows history = some (time, value) := by
  -- The search for a reading stops at that member at the latest.
  have found : (lastShown shows history).isSome :=
    List.findSome?_isSome_iff.mpr ⟨glance, member, by simpa using showing⟩
  obtain ⟨⟨time, value⟩, same⟩ := Option.isSome_iff_exists.mp found
  exact ⟨time, value, same⟩

/-- A counter is unbroken exactly if its last reading, if any, is part of the latest
measurement. -/
theorem unbroken_iff (ordered : Ordered (latest :: earlier)) :
    Unbroken shows latest earlier ↔
      ∀ time value, lastShown shows (latest :: earlier) = some (time, value) →
        time = latest.time := by
  cases showing : shows latest with
  | some value =>
    -- Both sides hold, since the latest glance answers.
    simp only [Unbroken, lastShown_cons, showing]
    constructor
    · intro _ time found last
      cases last
      rfl
    · intro _ _ _ _
      rfl
  | none =>
    simp only [Unbroken, lastShown_cons, showing]
    constructor
    · intro unbroken time value last
      -- An earlier reading would be a gap.
      obtain ⟨glance, member, readable, _⟩ := exists_of_lastShown last
      simpa using unbroken glance member (by simp [readable])
    · intro current glance member readable
      obtain ⟨time, value, last⟩ := exists_lastShown member readable
      obtain ⟨found, inside, _, at_⟩ := exists_of_lastShown last
      -- Such a reading would be older than the latest measurement and as old as it.
      have older := List.rel_of_pairwise_cons ordered inside
      have same := current time value last
      omega

/-- Over a longer time the same idle time leaves a larger share of load. -/
theorem busyOver_mono (idle : Nat) {shorter longer : Nat} (positive : 0 < shorter)
    (le : shorter ≤ longer) : busyOver idle shorter ≤ busyOver idle longer := by
  -- Dividing by more leaves a smaller idle share.
  have shares : idle * fullScale / longer ≤ idle * fullScale / shorter :=
    Nat.div_le_div_left le positive
  simp only [BasisPoints.le_iff, busyOver, BasisPoints.value_clamp]
  omega

/-- A millisecond of idleness within one millisecond is none of load, and within more it is not
all of the time. -/
theorem busyOver_one_lt {longer : Nat} (more : 1 < longer) : busyOver 1 1 < busyOver 1 longer := by
  -- The whole divided by more than one is less than the whole.
  have share : 1 * fullScale / longer < fullScale :=
    Nat.div_lt_of_lt_mul (by simp only [fullScale]; omega)
  simp only [BasisPoints.lt_iff, busyOver, BasisPoints.value_clamp, Nat.div_one, fullScale] at *
  omega

/-- The larger of two shares has the larger count. -/
theorem value_max (left right : BasisPoints) :
    (max left right).value = max left.value right.value := by
  -- Shares are ordered by their counts.
  change (if left ≤ right then right else left).value = _
  split <;> rename_i order <;> rw [BasisPoints.le_iff] at order <;> omega

/-- The busier of two engines has no more load when neither of the engines has. -/
theorem larger_mono {left right left' right' : Reading} (first : Option.Rel (· ≤ ·) left left')
    (second : Option.Rel (· ≤ ·) right right') :
    Option.Rel (· ≤ ·) (left.larger right) (left'.larger right') := by
  cases first with
  -- Where one engine has no load, the other one decides on both sides.
  | none => exact second
  | some le =>
    -- Both engines have a load on both sides now, or only the first one has.
    cases second with
    | none => exact .some le
    | some le' =>
      refine .some ?_
      rw [BasisPoints.le_iff] at le le' ⊢
      rw [value_max, value_max]
      omega

/-- The last reading of a counter is no later than the latest measurement. -/
theorem lastShown_le {time value : Nat} (ordered : Ordered (latest :: earlier))
    (last : lastShown shows (latest :: earlier) = some (time, value)) : time ≤ latest.time := by
  -- The reading is part of the history, in which nothing is later than the latest.
  obtain ⟨glance, member, _, rfl⟩ := exists_of_lastShown last
  rcases List.mem_cons.mp member with rfl | before
  · exact Nat.le_refl _
  · exact Nat.le_of_lt (List.rel_of_pairwise_cons ordered before)

/-- The time since the latest measurement never makes an engine look busier than its own time. -/
theorem hastyLoad_le_ownLoad (ordered : Ordered (latest :: earlier)) {now : Nat}
    (passed : latest.time < now) (value : Option Nat) :
    Option.Rel (· ≤ ·) (hastyLoad shows latest earlier now value)
      (ownLoad shows (latest :: earlier) now value) := by
  unfold hastyLoad ownLoad
  -- Without a value or an earlier reading there is no load on either side.
  cases value with
  | none => exact .none
  | some value =>
    cases last : lastShown shows (latest :: earlier) with
    | none => exact .none
    | some reading =>
      obtain ⟨time, idle⟩ := reading
      -- The idle time is the same on both sides, and the engine's own time is no shorter.
      have le : time ≤ latest.time := lastShown_le ordered last
      exact .some (busyOver_mono (value - idle) (by omega) (by omega))

/-- Both times are the same for an unbroken counter. -/
theorem hastyLoad_eq_ownLoad (ordered : Ordered (latest :: earlier))
    (unbroken : Unbroken shows latest earlier) (now : Nat) (value : Option Nat) :
    hastyLoad shows latest earlier now value = ownLoad shows (latest :: earlier) now value := by
  unfold hastyLoad ownLoad
  congr 1
  funext value
  -- The only difference is the time since which the growth counts.
  cases last : lastShown shows (latest :: earlier) with
  | none => rfl
  | some reading =>
    have same := (unbroken_iff ordered).mp unbroken reading.1 reading.2 last
    simp only [Option.map_some, same]

/-- A broken counter that grows by a millisecond within the next one shows an idle engine, which
it has not been since its own last reading. -/
theorem exists_hastyLoad_lt (ordered : Ordered (latest :: earlier))
    (broken : ¬ Unbroken shows latest earlier) :
    ∃ value said own, hastyLoad shows latest earlier (latest.time + 1) (some value) = some said ∧
      ownLoad shows (latest :: earlier) (latest.time + 1) (some value) = some own ∧
      said < own := by
  rw [unbroken_iff ordered] at broken
  simp only [Classical.not_forall] at broken
  obtain ⟨time, idle, last, differs⟩ := broken
  -- The last reading is older than the latest measurement, so the engine's own time is longer.
  have le : time ≤ latest.time := lastShown_le ordered last
  refine ⟨idle + 1, busyOver 1 1, busyOver 1 (latest.time + 1 - time), ?_, ?_, ?_⟩
  · simp [hastyLoad, last]
  · simp [ownLoad, last]
  · exact busyOver_one_lt (by omega)

/-- The shared time never makes the busier engine look busier than it was. -/
theorem sharedLoad_le_fairLoad (ordered : Ordered (latest :: earlier)) {glance : Glance}
    (passed : latest.time < glance.time) :
    Option.Rel (· ≤ ·) (sharedLoad latest earlier glance)
      (fairLoad (latest :: earlier) glance) :=
  larger_mono (hastyLoad_le_ownLoad ordered passed _) (hastyLoad_le_ownLoad ordered passed _)

/-- The shared time is right for whatever comes next exactly if both counters are unbroken. -/
theorem sharedLoad_eq_fairLoad_iff (ordered : Ordered (latest :: earlier)) :
    (∀ glance : Glance, latest.time < glance.time →
      sharedLoad latest earlier glance = fairLoad (latest :: earlier) glance) ↔
    Unbroken Glance.render latest earlier ∧ Unbroken Glance.media latest earlier := by
  constructor
  · intro fair
    -- A broken counter is refuted by a measurement in which only that counter can be read.
    constructor <;> refine Classical.byContradiction fun broken => ?_ <;>
      obtain ⟨value, said, own, saying, owning, less⟩ := exists_hastyLoad_lt ordered broken
    · have same := fair ⟨latest.time + 1, some value, none⟩ (Nat.lt_succ_self _)
      simp only [sharedLoad, fairLoad, saying, owning, hastyLoad_none, ownLoad_none, larger_none,
        Option.some.injEq] at same
      subst same
      exact Nat.lt_irrefl _ less
    · have same := fair ⟨latest.time + 1, none, some value⟩ (Nat.lt_succ_self _)
      simp only [sharedLoad, fairLoad, saying, owning, hastyLoad_none, ownLoad_none, none_larger,
        Option.some.injEq] at same
      subst same
      exact Nat.lt_irrefl _ less
  · rintro ⟨render, media⟩ glance _
    -- Neither engine has a time of its own.
    unfold sharedLoad fairLoad
    rw [hastyLoad_eq_ownLoad ordered render, hastyLoad_eq_ownLoad ordered media]

end PowerGovernor.Graphics
