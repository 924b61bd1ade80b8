import PowerGovernor.Proofs.Load.Generations
import PowerGovernor.Proofs.Load.Lines

/-! The sampler's two generations of counters refine the whole history of its tables. -/

namespace PowerGovernor

/-- One more table replaces the counters that it gives numbers for. -/
theorem getElem_latestCounters_append (tables : List String) (table : String) (tag : CpuTag)
    {index : Nat} (inside : index < counterCount) :
    (latestCounters (tables ++ [table]) tag)[index] =
      (latestValue? (Sampler.statLines table) tag ⟨index, inside⟩).getD
        (latestCounters tables tag)[index] := by
  simp only [latestCounters, Vector.getElem_ofFn, List.flatMap_append,
    List.flatMap_singleton, latestValue?_append]
  -- Where the table gives no number the tables before it decide.
  cases latestValue? (Sampler.statLines table) tag ⟨index, inside⟩ <;> rfl

namespace Sampler

/-- A sampler knows of a history of tables: whether there was any, the counters that they leave,
and which tags the latest of them mentions. -/
structure Reflects (path : Path) (tables : List String) (sampler : Sampler) : Prop where
  /-- Tables are read from this path. -/
  path : sampler.path = path
  /-- A sampler is primed by its first table. -/
  primed : sampler.primed = tables.getLast?.isSome
  /-- The counters are those of the whole history. -/
  counters : ∀ tag, (sampler.current.slot tag).counters = latestCounters tables tag
  /-- A tag is present if the latest table has a line for it. -/
  present : ∀ tag, (sampler.current.slot tag).present = true ↔
    ∃ latest, tables.getLast? = some latest ∧ ∃ line ∈ statLines latest, line.tag = tag

variable {path : Path} {tables : List String} {sampler : Sampler}

/-- A new sampler knows of no table, whatever room it has. -/
theorem reflects_new (path : Path) (cpuCount : Nat) : (new path cpuCount).Reflects path [] where
  path := rfl
  primed := rfl
  -- No line has given a number, so every counter is at zero on both sides.
  counters tag := by
    simp only [new, Generation.slot_unseen]
    apply Vector.ext
    intro index inside
    simp [CounterSlot.unseen, Counters.zero, latestCounters, latestValue?]
  present tag := by simp [new, CounterSlot.unseen]

/-- The counters after a table are those of the history that it ends. -/
theorem Reflects.counters_ingest (reflects : sampler.Reflects path tables) (table : String)
    (tag : CpuTag) :
    ((sampler.ingest table).1.current.slot tag).counters =
      latestCounters (tables ++ [table]) tag := by
  apply Vector.ext
  intro index inside
  -- The new generation starts from the counters of the one before.
  have absorbed := Generation.counters_absorbAll (statLines table) tag inside
    sampler.current.carry
  have appended := getElem_latestCounters_append tables table tag inside
  rw [Generation.slot_carry, CounterSlot.carry, reflects.counters tag] at absorbed
  rw [← appended] at absorbed
  exact absorbed

/-- A tag is present after a table that has a line for it, whatever came before. -/
theorem present_ingest (sampler : Sampler) (table : String) (tag : CpuTag) :
    ((sampler.ingest table).1.current.slot tag).present = true ↔
      ∃ line ∈ statLines table, line.tag = tag := by
  -- No tag is present before the first line is absorbed.
  have absorbed := Generation.present_absorbAll (statLines table) tag sampler.current.carry
  have unmentioned : ¬ (sampler.current.carry.slot tag).present = true := by
    simp [Generation.slot_carry, CounterSlot.carry]
  exact absorbed.trans (or_iff_right unmentioned)

/-- A sampler that takes in a table knows of one more. -/
theorem Reflects.ingest (reflects : sampler.Reflects path tables) (table : String) :
    (sampler.ingest table).1.Reflects path (tables ++ [table]) where
  path := reflects.path
  primed := by simp [Sampler.ingest]
  counters := reflects.counters_ingest table
  -- The history ends with the table that was taken in.
  present tag := by
    rw [present_ingest]
    simp

/-- The loads that a sampler finds in a table are those that the table shows after the history that
the sampler knows of. -/
theorem Reflects.busy_ingest (reflects : sampler.Reflects path tables) (table : String) :
    (sampler.ingest table).2.1 = busyAfter tables table := by
  have now := reflects.counters_ingest table
  have mentioned := present_ingest sampler table
  have primed := reflects.primed
  have present := reflects.present
  -- The first table has no other one to be compared with.
  unfold busyAfter
  simp only [Sampler.ingest] at now mentioned ⊢
  cases last : tables.getLast? with
  | none => simp [primed, last]
  | some before =>
    simp only [last, Option.isSome_some] at primed
    simp only [last, Option.some.injEq, exists_eq_left'] at present
    rw [if_pos primed, Busy.mk.injEq]
    constructor
    · -- The counters of all CPUs together have a slot like any other.
      have current := now .aggregate
      have previous := reflects.counters .aggregate
      simp only [Generation.slot] at current previous
      rw [loadAfter, current, previous]
    · -- Both sides are the least share that bounds the load of every CPU that is listed twice.
      apply BasisPoints.eq_of_le_iff
      intro bound
      rw [Generation.busiest_le_iff, BasisPoints.foldl_max_le_iff]
      simp only [now, reflects.counters, mentioned, present, BasisPoints.zero_le, true_and,
        List.mem_map, List.mem_filter, List.contains_iff_mem, mem_listedCpus]
      constructor
      · rintro bounded load ⟨cpu, ⟨listed, again⟩, rfl⟩
        exact bounded cpu listed again
      · intro bounded cpu listed again
        exact bounded _ ⟨cpu, ⟨listed, again⟩, rfl⟩

/-- Whatever a sampler is given, it knows of one more table exactly if it could read one. -/
theorem Reflects.feed (reflects : sampler.Reflects path tables) (feed : Feed) :
    (sampler.feed feed).1.Reflects path (tables ++ (feed.table? path).toList) ∧
      (sampler.feed feed).2 = (feed.table? path).map (busyAfter tables) := by
  cases feed with
  | table text =>
    have found := reflects.busy_ingest text
    exact ⟨reflects.ingest text, congrArg some found⟩
  | machine files =>
    simp only [Sampler.feed, Sampler.sample, Feed.table?, reflects.path]
    cases files.readText path with
    | error fault =>
      -- A table that cannot be read changes nothing.
      simpa [Except.toOption] using reflects
    | ok text =>
      have found := reflects.busy_ingest text
      exact ⟨reflects.ingest text, congrArg some found⟩

/-- A sampler knows of all the tables in a series of what it was given. -/
theorem Reflects.feedAll (feeds : List Feed) :
    ∀ {sampler : Sampler} {tables : List String}, sampler.Reflects path tables →
      (sampler.feedAll feeds).Reflects path (tables ++ feeds.filterMap (Feed.table? path)) := by
  induction feeds with
  | nil => intro sampler tables reflects; simpa [Sampler.feedAll] using reflects
  | cons feed rest ih =>
    intro sampler tables reflects
    -- The first table, if there is one, is the first of those that are added.
    have next := ih (reflects.feed feed).1
    rw [List.append_assoc] at next
    cases given : feed.table? path <;> simpa [given, Sampler.feedAll] using next

/-- Whatever a new sampler has been given before, the loads that it finds next are those that the
table shows after the history of all tables it could read; without a table it finds none. The room
that it was made with plays no part. -/
theorem feed_eq_busyAfter (path : Path) (cpuCount : Nat) (before : List Feed) (feed : Feed) :
    let found := (((new path cpuCount).feedAll before).feed feed).2
    found = (feed.table? path).map (busyAfter (before.filterMap (Feed.table? path))) ∧
      ∀ busy ∈ found, busy.system.value ≤ fullScale ∧ busy.cpu.value ≤ fullScale := by
  -- A new sampler knows of no table, and each table that it can read adds to what it knows.
  have reflects := Reflects.feedAll before (reflects_new path cpuCount)
  exact ⟨(reflects.feed feed).2, fun busy _ => ⟨busy.system.value_le, busy.cpu.value_le⟩⟩

/-- A field that is no number defers its ticks to the next table that gives one, lines about
anything but CPUs say nothing, and a CPU counts that two tables in a row list. -/
theorem feed_eq_busyAfter_deferred :
    let before := [Feed.table "cpu 100 0 0 100\nctxt 7",
      .table "cpu ? 0 0 200\ncpu7 1 1 1 1\ncpux 9"]
    let latest := Feed.table "cpu 300 0 0 200\n cpu7 4 1 1 2\ncpu8 5"
    IsStatLine "cpu ? 0 0 200".toList ⟨.aggregate, [none, some 0, some 0, some 200]⟩ ∧
      (∀ line, ¬ IsStatLine "cpux 9".toList line) ∧
      (((new ["stat"] 0).feedAll before).feed latest).2 = some ⟨.full, .clamp 7500⟩ := by
  -- What is deferred is made up for by the latest table, over both of them.
  intro before latest
  obtain ⟨found, -⟩ := feed_eq_busyAfter ["stat"] 0 before latest
  have unread : StatLine.read? "cpux 9".toList = none := by decide +kernel
  refine ⟨StatLine.read?_eq_some_iff.mp (by decide +kernel), fun line legal => ?_,
    found.trans (by decide +kernel)⟩
  rw [StatLine.read?_eq_some_iff.mpr legal] at unread
  cases unread

end Sampler

end PowerGovernor
