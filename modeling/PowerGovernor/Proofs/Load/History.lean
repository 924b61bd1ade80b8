import PowerGovernor.Load.Sampler

/-! What a whole history of statistics tables says about every counter, and the loads it shows. -/

namespace PowerGovernor

/-- The number that a line gives for a counter, if its field is one. -/
def StatLine.value? (line : StatLine) (index : Fin counterCount) : Option UInt64 :=
  (line.fields[index.val]?).join

/-- The latest number that a series of lines gives for a counter of one tag. -/
def latestValue? (lines : List StatLine) (tag : CpuTag) (index : Fin counterCount) :
    Option UInt64 :=
  -- Lines with another tag, and those without a number there, are passed over.
  lines.reverse.findSome? fun line => if line.tag = tag then line.value? index else none

/-- A line at the end of a series decides about a counter if it gives a number for it. -/
theorem latestValue?_append (earlier later : List StatLine) (tag : CpuTag)
    (index : Fin counterCount) :
    latestValue? (earlier ++ later) tag index =
      (latestValue? later tag index).or (latestValue? earlier tag index) := by
  -- The search goes backwards, so it meets the later lines first.
  simp only [latestValue?, List.reverse_append, List.findSome?_append]

/-- A single line gives the number in its field, to the counters of its tag only. -/
theorem latestValue?_singleton (line : StatLine) (tag : CpuTag) (index : Fin counterCount) :
    latestValue? [line] tag index = if line.tag = tag then line.value? index else none := by
  -- In a single line the search succeeds or fails at once.
  simp only [latestValue?, List.reverse_singleton, List.findSome?_singleton]

/-- The counters of one tag as a history of tables leaves them; one that no line ever gave a number
for is at zero. -/
def latestCounters (tables : List String) (tag : CpuTag) : Counters :=
  Vector.ofFn fun index =>
    (latestValue? (tables.flatMap Sampler.statLines) tag index).getD 0

/-- The CPU that a line is about, if it is about a single one. -/
def StatLine.cpu? (line : StatLine) : Option Nat :=
  match line.tag with
  | .aggregate => none
  | .cpu number => some number

/-- The CPUs that a table has lines about. -/
def listedCpus (table : String) : List Nat :=
  (Sampler.statLines table).filterMap StatLine.cpu?

/-- A CPU is listed by a table with a line that has its tag. -/
theorem mem_listedCpus {table : String} {cpu : Nat} :
    cpu ∈ listedCpus table ↔ ∃ line ∈ Sampler.statLines table, line.tag = .cpu cpu := by
  unfold listedCpus
  rw [List.mem_filterMap]
  constructor
  · rintro ⟨line, member, named⟩
    -- Only a line about a single CPU has one to name.
    refine ⟨line, member, ?_⟩
    unfold StatLine.cpu? at named
    split at named
    · cases named
    · rename_i tagged
      cases named
      exact tagged
  · rintro ⟨line, member, tagged⟩
    -- A line with the tag of a CPU is about that CPU.
    exact ⟨line, member, by simp [StatLine.cpu?, tagged]⟩

/-- The load of one tag between a history of tables and the same history with one more table. -/
def loadAfter (tables : List String) (table : String) (tag : CpuTag) : BasisPoints :=
  Counters.busyBetween (latestCounters (tables ++ [table]) tag) (latestCounters tables tag)

/-- The loads that a table shows after a history of tables. Without a history nothing is known, and
the busiest CPU is one of those that this table and the one before it both list. -/
def busyAfter (tables : List String) (table : String) : Busy :=
  match tables.getLast? with
  | none => ⟨.zero, .zero⟩
  | some before =>
    -- A CPU that the table before did not list has no earlier counters to compare with.
    let listed := (listedCpus table).filter (listedCpus before).contains
    { system := loadAfter tables table .aggregate
      cpu := (listed.map fun cpu => loadAfter tables table (.cpu cpu)).foldl max .zero }

/-- What a sampler is given: a table as such, or the files of a machine to read it from. -/
inductive Feed where
  | table (text : String)
  | machine (files : FileTree)

/-- The table that a sampler is given, if it can be read. -/
def Feed.table? (path : Path) : Feed → Option String
  | .table text => some text
  | .machine files => (files.readText path).toOption

/-- A sampler after it was given something, with the loads that it found. -/
def Sampler.feed (sampler : Sampler) : Feed → Sampler × Option Busy
  | .table text =>
    let (next, busy, _) := sampler.ingest text
    (next, some busy)
  | .machine files =>
    let (next, busy, _) := sampler.sample files
    (next, busy)

/-- A sampler after a series of what it was given. -/
def Sampler.feedAll (sampler : Sampler) (feeds : List Feed) : Sampler :=
  feeds.foldl (fun sampler feed => (sampler.feed feed).1) sampler

end PowerGovernor
