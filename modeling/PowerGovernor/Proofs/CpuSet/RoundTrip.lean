import PowerGovernor.Proofs.CpuSet.Language
import PowerGovernor.Proofs.CpuSet.Runs

/-! The written form of a CPU set is the only one of its kind, and is read back as the same set. -/

namespace PowerGovernor.CpuSet

/-- How a run is written: as its number if it is alone, and otherwise as its ends with a dash. -/
inductive IsRunText : String → Nat × Nat → Prop
  /-- A CPU alone. -/
  | single (cpu : Nat) : IsRunText (toString cpu) (cpu, cpu)
  /-- Several CPUs, the smallest and the largest of which are written. -/
  | range {low high : Nat} (several : low < high) :
      IsRunText (toString low ++ "-" ++ toString high) (low, high)

/-- A text that lists the runs of a set, with commas between them: they ascend, there is a missing
CPU between each two of them, and they cover the set. -/
def IsCanonical (text : String) (set : CpuSet) : Prop :=
  ∃ parts ends, text = ",".intercalate parts ∧ List.Forall₂ IsRunText parts ends ∧
    Separate ends ∧ ∀ cpu, Covers ends cpu ↔ cpu ∈ set

section Writing

variable {run : Nat × Nat} {set : CpuSet}

/-- A run is written in one way only. -/
theorem IsRunText.eq {part : String} (written : IsRunText part run) : part = runText run := by
  -- The two ways of writing a run are told apart by whether its ends are the same.
  cases written with
  | single cpu => rw [runText, if_pos rfl]
  | range several => rw [runText, if_neg (Nat.ne_of_lt several)]

/-- A run with its ends in order can be written. -/
theorem isRunText_runText (ordered : run.1 ≤ run.2) : IsRunText (runText run) run := by
  obtain ⟨low, high⟩ := run
  rcases Nat.lt_or_eq_of_le ordered with several | alone
  · -- With several CPUs both ends are written.
    rw [runText, if_neg (Nat.ne_of_lt several)]
    exact .range several
  · obtain rfl : low = high := alone
    rw [runText, if_pos rfl]
    exact .single low

/-- The written form is the one text that lists the runs of a set. -/
theorem isCanonical_iff {text : String} : IsCanonical text set ↔ text = set.text := by
  obtain ⟨separate, covers⟩ := runs_toList set
  constructor
  · rintro ⟨parts, ends, rfl, written, apart, same⟩
    -- No other intervals could be listed.
    have runs : ends = runs set.toList :=
      apart.unique separate fun cpu => (same cpu).trans (covers cpu).symm
    have parts : parts = ends.map runText := by
      rw [← List.forall₂_eq_eq_eq, List.forall₂_map_right_iff]
      exact written.imp fun _ _ => IsRunText.eq
    rw [CpuSet.text, parts, runs]
  · rintro rfl
    refine ⟨_, _, rfl, ?_, separate, covers⟩
    rw [List.forall₂_map_left_iff, List.forall₂_same]
    exact fun run member => isRunText_runText (separate.ordered run member)

end Writing

section Characters

variable {set : CpuSet} {run : Nat × Nat} {char : Char}

/-- A run is written with digits and a dash. -/
theorem chars_runText (member : char ∈ (runText run).toList) :
    char.isDigit = true ∨ char = '-' := by
  -- Both ends are written in decimal, with the dash between them.
  rw [runText] at member
  split at member
  · exact .inl (isDigit_of_mem_toString member)
  · rw [String.toList_append, String.toList_append, List.mem_append, List.mem_append] at member
    rcases member with (lower | dash) | upper
    · exact .inl (isDigit_of_mem_toString lower)
    · exact .inr (List.mem_singleton.mp dash)
    · exact .inl (isDigit_of_mem_toString upper)

/-- Something is written for every run. -/
theorem runText_ne_nil (run : Nat × Nat) : (runText run).toList ≠ [] := by
  -- There is a digit of the first end at least.
  rw [runText]
  split
  · exact toString_ne_nil run.1
  · simp

/-- The written form of a set is what is written for its runs, with commas between. -/
theorem toList_text (set : CpuSet) :
    set.text.toList =
      [','].intercalate ((runs set.toList).map fun run => (runText run).toList) := by
  rw [text, String.toList_intercalate, List.map_map]
  rfl

/-- A set is written with digits, dashes and commas. -/
theorem chars_text (member : char ∈ set.text.toList) :
    char.isDigit = true ∨ char = '-' ∨ char = ',' := by
  -- A character is one of those between the runs, or belongs to a run.
  rw [toList_text] at member
  rcases mem_intercalate member with comma | ⟨piece, among, inside⟩
  · exact .inr (.inr comma)
  · obtain ⟨run, -, rfl⟩ := List.mem_map.mp among
    exact (chars_runText inside).imp_right .inl

/-- There is no blank in the written form of a set. -/
theorem isBlank_of_mem_text (member : char ∈ set.text.toList) : isBlank char = false := by
  rcases chars_text member with digit | rfl | rfl
  · exact isBlank_of_isDigit digit
  · decide
  · decide

end Characters

section Reading

variable {set : CpuSet}

/-- A set with members has runs. -/
theorem runs_ne_nil (nonempty : set ≠ empty) : runs set.toList ≠ [] := by
  intro none
  -- Without runs nothing would be covered.
  refine nonempty (ext_mem fun cpu => ?_)
  rw [← (runs_toList set).2 cpu, none]
  simp [Covers]

/-- The items of the written form of a set are its written runs. -/
theorem items_text (nonempty : set ≠ empty) :
    items set.text.toList = (runs set.toList).map fun run => (runText run).toList := by
  -- There are no blanks to be trimmed and no commas within the runs.
  have whole : trim set.text.toList = set.text.toList :=
    trim_of_forall fun _ => isBlank_of_mem_text
  have pieces : set.text.toList.splitOn ',' =
      (runs set.toList).map fun run => (runText run).toList := by
    refine splitOn_eq_iff.mpr ⟨by simp [runs_ne_nil nonempty], ?_, (toList_text set).symm⟩
    intro piece member comma
    obtain ⟨run, -, rfl⟩ := List.mem_map.mp member
    rcases chars_runText comma with digit | dash
    · exact absurd digit (by decide)
    · exact absurd dash (by decide)
  have trimmed : ∀ run, trim (runText run).toList = (runText run).toList := by
    refine fun run => trim_of_forall fun char member => ?_
    rcases chars_runText member with digit | rfl
    · exact isBlank_of_isDigit digit
    · decide
  -- None of the pieces is dropped as blank.
  have inked : ∀ run, (!(runText run).toList.isEmpty) = true := fun run => by
    rw [Bool.not_eq_true', List.isEmpty_eq_false_iff]
    exact runText_ne_nil run
  simp only [items, whole, pieces, List.map_map, List.filter_map, Function.comp_def, trimmed, inked,
    List.filter_true]

/-- The text of a number is read as this number, if it is one of a CPU. -/
theorem isNumber_toString {cpu : Nat} (small : cpu < cpuNumberLimit) :
    IsNumber (toString cpu).toList cpu := by
  have whole : trim (toString cpu).toList = (toString cpu).toList :=
    trim_of_forall fun _ member => isBlank_of_isDigit (isDigit_of_mem_toString member)
  -- All CPU numbers are far below the largest word.
  refine ⟨by rw [whole]; exact isNumeral_toString cpu, ?_⟩
  simp only [cpuNumberLimit, maxWord64] at small ⊢
  omega

/-- A written run names the CPUs between its ends. -/
theorem IsRunText.names {part : String} {low high : Nat} (written : IsRunText part (low, high))
    (small : high < cpuNumberLimit) : Names part.toList low high := by
  -- The ends of a run are in order, so if the upper one is small enough both are.
  cases written with
  | single => exact ⟨.single (isNumber_toString small), Nat.le_refl low, small⟩
  | range several =>
    have order := Nat.le_of_lt several
    have lower := isNumber_toString (Nat.lt_of_le_of_lt order small)
    rw [String.toList_append, String.toList_append, List.append_assoc]
    exact ⟨.range lower (isNumber_toString small), order, small⟩

/-- The runs of a set stay below the limit. -/
theorem runs_small {run : Nat × Nat} (member : run ∈ runs set.toList) :
    run.2 < cpuNumberLimit := by
  -- The upper end of a run is in the set.
  obtain ⟨separate, covers⟩ := runs_toList set
  exact lt_of_contains ((covers run.2).mp
    ⟨run, member, separate.ordered run member, Nat.le_refl run.2⟩)

/-- The written form of a set with members is read as this set. -/
theorem read_text (nonempty : set ≠ empty) : read set.text = .ok set := by
  obtain ⟨separate, covers⟩ := runs_toList set
  -- Run by run, an interval is read, and these intervals make up the set.
  have done : (items set.text.toList).mapM readItem =
      .ok ((runs set.toList).map fun run => interval run.1 run.2) := by
    rw [items_text nonempty, mapM_eq_ok_iff, List.forall₂_map_left_iff, List.forall₂_map_right_iff,
      List.forall₂_same]
    intro run member
    have written := isRunText_runText (separate.ordered run member)
    exact readItem_of_names (written.names (runs_small member))
  refine read_eq_ok_iff_done.mpr ⟨by simp [items_text nonempty, runs_ne_nil nonempty], _, done, ?_⟩
  refine ext_mem fun cpu => ?_
  rw [mem_foldl_union, or_iff_right notMem_empty, ← covers cpu]
  constructor
  · rintro ⟨part, member, inside⟩
    obtain ⟨run, among, rfl⟩ := List.mem_map.mp member
    obtain ⟨above, below, -⟩ := mem_interval.mp inside
    exact ⟨run, among, above, below⟩
  · rintro ⟨run, among, above, below⟩
    have small := Nat.lt_of_le_of_lt below (runs_small among)
    exact ⟨_, List.mem_map_of_mem among, mem_interval.mpr ⟨above, below, small⟩⟩

/-- What is read from a text has members. -/
theorem ne_empty_of_read {text : String} (success : read text = .ok set) : set ≠ empty := by
  obtain ⟨listed, legal, members⟩ := read_eq_ok_iff.mp success
  -- The first item names at least its lower end.
  obtain ⟨item, member⟩ := List.exists_mem_of_ne_nil _ listed
  obtain ⟨low, high, names⟩ := legal item member
  have inside : low ∈ set :=
    (members low).mpr ⟨item, member, low, high, names, Nat.le_refl low, names.ordered⟩
  rintro rfl
  exact notMem_empty inside

/-- Different sets are written differently. -/
theorem text_injective : Function.Injective text := by
  -- Nothing is read from the text of the set without members, and each other set from its own.
  have back : Function.LeftInverse (fun text => (read text).toOption.getD empty) text := by
    intro set
    by_cases nonempty : set = empty
    · subst nonempty
      decide +kernel
    · show (read set.text).toOption.getD empty = set
      rw [read_text nonempty]
      rfl
  exact back.injective

/-- The written form of a set is its canonical text, and is read as the set.

It is the only text that lists the runs of the set, each alone or with a dash between its two ends,
in ascending order and with a missing CPU between each two of them, so that different sets are
written differently. Every set that has members is read back from it, and so in particular
everything that has been read from some other text. -/
theorem text_round_trip (set : CpuSet) :
    (set ≠ empty → read set.text = .ok set) ∧
    (∀ text, IsCanonical text set ↔ text = set.text) ∧
    (∀ other : CpuSet, set.text = other.text ↔ set = other) ∧
    ∀ text, read text = .ok set → read set.text = .ok set :=
  ⟨read_text, fun _ => isCanonical_iff, fun _ => text_injective.eq_iff,
    fun _ success => read_text (ne_empty_of_read success)⟩

/-- A set that touches both limits, written in another order. -/
theorem text_round_trip_limits :
    let set : CpuSet := (interval 8190 8191).union (interval 0 0)
    read "8190-8191, 0,8191" = .ok set ∧ set.text = "0,8190-8191" ∧ read "0,8190-8191" = .ok set := by
  -- The set comes from a text of another order, so its own text is read as the same set.
  have success : read "8190-8191, 0,8191" = .ok ((interval 8190 8191).union (interval 0 0)) := by
    decide +kernel
  have written : ((interval 8190 8191).union (interval 0 0)).text = "0,8190-8191" := by
    decide +kernel
  refine ⟨success, written, ?_⟩
  rw [← written]
  exact (text_round_trip _).2.2.2 _ success

end Reading

end PowerGovernor.CpuSet
