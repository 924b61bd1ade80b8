import PowerGovernor.CpuSet.Reader
import PowerGovernor.Proofs.Text.Decimal
import PowerGovernor.Proofs.Text.Pieces

/-! The language of CPU lists: which texts are read, as which sets, and what is wrong with the
others. -/

namespace PowerGovernor.CpuSet

/-- A CPU number as it is written: a numeral of 64 bits, with blanks around it or not. -/
def IsNumber (token : List Char) (cpu : Nat) : Prop :=
  IsNumeral (trim token) cpu ∧ cpu ≤ maxWord64

/-- The two ends of an item: the same number twice, or the numbers around a dash. -/
inductive HasEnds : List Char → Nat → Nat → Prop
  /-- A number alone is both ends. -/
  | single {item : List Char} {cpu : Nat} (number : IsNumber item cpu) : HasEnds item cpu cpu
  /-- Two numbers are one end each. -/
  | range {first last : List Char} {low high : Nat} (lower : IsNumber first low)
      (upper : IsNumber last high) : HasEnds (first ++ '-' :: last) low high

/-- An item that names the CPUs from low to high. -/
structure Names (item : List Char) (low high : Nat) : Prop where
  /-- The item has these ends. -/
  ends : HasEnds item low high
  /-- The ends are in order. -/
  ordered : low ≤ high
  /-- There are CPUs with such numbers. -/
  small : high < cpuNumberLimit

/-- What is wrong with an item: its sides, from left to right, then the order of its ends, and then
their size. -/
inductive Offends (item : List Char) : ReadError → Prop
  /-- Without a dash, the item is no number. -/
  | noNumber (whole : '-' ∉ item) (meaningless : ∀ cpu, ¬IsNumber item cpu) :
      Offends item (.badToken (String.ofList item))
  /-- The left side is no number. -/
  | noLower {first last : List Char} (split : item = first ++ '-' :: last)
      (single : '-' ∉ first ∧ '-' ∉ last) (meaningless : ∀ cpu, ¬IsNumber first cpu) :
      Offends item (.badToken (String.ofList first))
  /-- The left side is a number, but the right side is none. -/
  | noUpper {first last : List Char} {low : Nat} (split : item = first ++ '-' :: last)
      (single : '-' ∉ last) (lower : IsNumber first low) (meaningless : ∀ cpu, ¬IsNumber last cpu) :
      Offends item (.badToken (String.ofList last))
  /-- There are several dashes. -/
  | dashes (several : 2 ≤ item.count '-') : Offends item (.badToken (String.ofList item))
  /-- The ends are in the wrong order. -/
  | reversed {low high : Nat} (ends : HasEnds item low high) (wrong : high < low) :
      Offends item (.reversed low high)
  /-- The ends are in order, but too large. -/
  | beyondLimit {low high : Nat} (ends : HasEnds item low high) (ordered : low ≤ high)
      (large : cpuNumberLimit ≤ high) : Offends item (.beyondLimit high)

section Members

variable {cpu : Nat}

/-- No CPU is a member of the empty set. -/
@[simp] theorem notMem_empty : cpu ∉ empty := by
  -- Membership is what the bits say, and the empty set has none.
  show ¬empty.contains cpu = true
  simp

/-- Sets with the same members are equal. -/
theorem ext_mem {left right : CpuSet} (agree : ∀ cpu, cpu ∈ left ↔ cpu ∈ right) : left = right :=
  ext_contains fun cpu => Bool.eq_iff_iff.mpr (agree cpu)

/-- An interval has the CPUs between its ends as members. -/
theorem mem_interval {low high : Nat} :
    cpu ∈ interval low high ↔ low ≤ cpu ∧ cpu ≤ high ∧ cpu < cpuNumberLimit := by
  -- An interval is defined bit by bit, up to the largest CPU number.
  show (interval low high).contains cpu = true ↔ _
  rw [contains_interval, decide_eq_true_iff]

/-- A union has the members of both sets. -/
theorem mem_union {left right : CpuSet} : cpu ∈ left.union right ↔ cpu ∈ left ∨ cpu ∈ right := by
  -- A union is taken bit by bit.
  show (left.union right).contains cpu = true ↔ _
  rw [contains_union, Bool.or_eq_true]
  rfl

/-- A union of many sets has the members of each of them. -/
theorem mem_foldl_union {parts : List CpuSet} {start : CpuSet} :
    cpu ∈ parts.foldl union start ↔ cpu ∈ start ∨ ∃ part ∈ parts, cpu ∈ part := by
  -- What has been united so far keeps its members.
  induction parts generalizing start with
  | nil => simp
  | cons part rest ih => simp [ih, mem_union, or_assoc]

end Members

section Numbers

variable {token : List Char}

/-- A token is read as the number that it is written for. -/
theorem readNumber_eq_ok_iff {cpu : Nat} : readNumber token = .ok cpu ↔ IsNumber token cpu := by
  -- Blanks are trimmed before the digits are read.
  rw [IsNumber, ← readUnsigned_eq_ok_iff, readNumber]
  cases readUnsigned maxWord64 (trim token) <;> simp

/-- A token that is no number is reported as it stands. -/
theorem readNumber_of_meaningless (meaningless : ∀ cpu, ¬IsNumber token cpu) :
    readNumber token = .error (.badToken (String.ofList token)) := by
  -- Reading the digits either fails or proves that they were a number.
  cases read : readUnsigned maxWord64 (trim token) with
  | error error => simp only [readNumber, read]
  | ok cpu => exact absurd (readUnsigned_eq_ok_iff.mp read) (meaningless cpu)

/-- No number is written with a dash. -/
theorem IsNumber.dash_notMem {cpu : Nat} (number : IsNumber token cpu) : '-' ∉ token := by
  -- Around the digits and the sign there are only blanks, and a dash is none of them.
  obtain ⟨before, after, blank, blankToo, split⟩ := (trim_eq_iff.mp (Eq.refl (trim token))).2
  have ink : '-' ∉ trim token := fun member => by
    rcases number.1.chars member with digit | sign
    · exact absurd digit (by decide)
    · exact absurd sign (by decide)
  rw [split, List.mem_append, List.mem_append, not_or, not_or]
  exact ⟨fun member => absurd (isBlank_of_mem blank member) (by decide), ink,
    fun member => absurd (isBlank_of_mem blankToo member) (by decide)⟩

end Numbers

section Items

variable {item : List Char}

/-- An item has no dash, or one between its two sides, or several. -/
theorem dash_cases (item : List Char) :
    '-' ∉ item ∨ (∃ first last, ('-' ∉ first ∧ '-' ∉ last) ∧ item = first ++ '-' :: last) ∨
      2 ≤ item.count '-' := by
  by_cases whole : '-' ∈ item
  · right
    -- The first dash ends the left side, and any other one stands behind it.
    obtain ⟨first, last, split, clean⟩ := List.eq_append_cons_of_mem whole
    by_cases again : '-' ∈ last
    · right
      have positive := List.count_pos_iff.mpr again
      rw [split, List.count_append, List.count_cons_self]
      omega
    · exact .inl ⟨first, last, ⟨clean, again⟩, split⟩
  · exact .inl whole

/-- Without a dash an item is read as a number, which is both of its ends. -/
theorem readItem_of_whole (whole : '-' ∉ item) :
    readItem item = (readNumber item).bind fun cpu => ofEnds cpu cpu := by
  -- The dashes of an item separate its sides, and here there is one side only.
  have pieces : item.splitOn '-' = [item] := List.splitOn_eq_singleton whole
  simp only [readItem, pieces]
  rfl

/-- With one dash an item is read as its two ends, the left one first. -/
theorem readItem_of_range {first last : List Char} (single : '-' ∉ first ∧ '-' ∉ last) :
    readItem (first ++ '-' :: last) =
      (readNumber first).bind fun low => (readNumber last).bind fun high => ofEnds low high := by
  -- A single dash leaves two sides, neither of which has another one.
  have pieces : (first ++ '-' :: last).splitOn '-' = [first, last] :=
    splitOn_eq_iff.mpr ⟨by simp, by simp [single], by simp⟩
  simp only [readItem, pieces]
  rfl

/-- With several dashes an item is reported as a whole. -/
theorem readItem_of_dashes (several : 2 ≤ item.count '-') :
    readItem item = .error (.badToken (String.ofList item)) := by
  -- There are three pieces at least.
  have pieces := length_splitOn '-' item
  unfold readItem
  split
  · -- One piece would mean no dash.
    rename_i single split
    rw [split, List.length_singleton] at pieces
    omega
  · -- Two pieces would mean one dash.
    rename_i first last split
    rw [split, List.length_cons, List.length_singleton] at pieces
    omega
  · rfl

/-- An item with two ends is read as the set between them. -/
theorem readItem_of_hasEnds {low high : Nat} (ends : HasEnds item low high) :
    readItem item = ofEnds low high := by
  -- No number holds a dash, so the form of the item decides how it is split.
  cases ends with
  | single number =>
    rw [readItem_of_whole number.dash_notMem, readNumber_eq_ok_iff.mpr number]
    rfl
  | range lower upper =>
    rw [readItem_of_range ⟨lower.dash_notMem, upper.dash_notMem⟩, readNumber_eq_ok_iff.mpr lower,
      readNumber_eq_ok_iff.mpr upper]
    rfl

/-- An item is read as the interval that it names. -/
theorem readItem_of_names {low high : Nat} (names : Names item low high) :
    readItem item = .ok (interval low high) := by
  have order := names.ordered
  -- The order of the ends and their size are exactly what is checked.
  rw [readItem_of_hasEnds names.ends, ofEnds, if_neg (by omega), if_pos names.small]

/-- From an item with which something is wrong nothing but the error is read. -/
theorem readItem_of_offends {error : ReadError} (offends : Offends item error) :
    readItem item = .error error := by
  -- The offences are listed in the order of the checks, and each passes those before its own.
  cases offends with
  | noNumber whole meaningless =>
    rw [readItem_of_whole whole, readNumber_of_meaningless meaningless]
    rfl
  | noLower split single meaningless =>
    rw [split, readItem_of_range single, readNumber_of_meaningless meaningless]
    rfl
  | noUpper split single lower meaningless =>
    rw [split, readItem_of_range ⟨lower.dash_notMem, single⟩, readNumber_eq_ok_iff.mpr lower,
      readNumber_of_meaningless meaningless]
    rfl
  | dashes several => exact readItem_of_dashes several
  | reversed ends wrong => rw [readItem_of_hasEnds ends, ofEnds, if_pos wrong]
  | beyondLimit ends ordered large =>
    rw [readItem_of_hasEnds ends, ofEnds, if_neg (by omega), if_neg (by omega)]

/-- An item with two ends names an interval, or something is wrong with the ends. -/
theorem names_or_offends_of_hasEnds {low high : Nat} (ends : HasEnds item low high) :
    (∃ low high, Names item low high) ∨ ∃ error, Offends item error := by
  -- The order of the ends is looked at first, and then their size.
  by_cases wrong : high < low
  · exact .inr ⟨_, .reversed ends wrong⟩
  · by_cases small : high < cpuNumberLimit
    · exact .inl ⟨low, high, ends, by omega, small⟩
    · exact .inr ⟨_, .beyondLimit ends (by omega) (by omega)⟩

/-- Every item names an interval, or something is wrong with it. -/
theorem names_or_offends (item : List Char) :
    (∃ low high, Names item low high) ∨ ∃ error, Offends item error := by
  -- The cases follow the reader: how many dashes, then the left side, then the right one.
  rcases dash_cases item with whole | ⟨first, last, single, split⟩ | several
  · by_cases number : ∃ cpu, IsNumber item cpu
    · obtain ⟨cpu, number⟩ := number
      exact names_or_offends_of_hasEnds (.single number)
    · exact .inr ⟨_, .noNumber whole (not_exists.mp number)⟩
  · by_cases lower : ∃ low, IsNumber first low
    · obtain ⟨low, lower⟩ := lower
      by_cases upper : ∃ high, IsNumber last high
      · obtain ⟨high, upper⟩ := upper
        subst split
        exact names_or_offends_of_hasEnds (.range lower upper)
      · exact .inr ⟨_, .noUpper split single.2 lower (not_exists.mp upper)⟩
    · exact .inr ⟨_, .noLower split single (not_exists.mp lower)⟩
  · exact .inr ⟨_, .dashes several⟩

/-- From an item either the interval that it names is read, or what is wrong with it. -/
theorem readItem_eq_iff (item : List Char) :
    (∀ set, readItem item = .ok set ↔ ∃ low high, Names item low high ∧ set = interval low high) ∧
      ∀ error, readItem item = .error error ↔ Offends item error := by
  -- The ends that an item names say which set is legal.
  refine read_eq_iff ((names_or_offends item).imp_left ?_) ?_ readItem_of_offends
  · rintro ⟨low, high, names⟩
    exact ⟨_, low, high, names, rfl⟩
  · rintro _ ⟨low, high, names, rfl⟩
    exact readItem_of_names names

/-- What is read from an item is the interval that it names. -/
theorem readItem_eq_ok_iff {set : CpuSet} :
    readItem item = .ok set ↔ ∃ low high, Names item low high ∧ set = interval low high :=
  (readItem_eq_iff item).1 set

/-- An item can be read exactly if it names an interval. -/
theorem exists_readItem_iff :
    (∃ set, readItem item = .ok set) ↔ ∃ low high, Names item low high := by
  -- Each named interval is the result of one reading.
  simp only [readItem_eq_ok_iff]
  constructor
  · rintro ⟨_, low, high, names, rfl⟩
    exact ⟨low, high, names⟩
  · rintro ⟨low, high, names⟩
    exact ⟨_, low, high, names, rfl⟩

/-- The error that is read from an item is what is wrong with it. -/
theorem readItem_eq_error_iff {error : ReadError} :
    readItem item = .error error ↔ Offends item error :=
  (readItem_eq_iff item).2 error

end Items

section Texts

variable {text : String}

/-- The items of a text are what its commas separate, trimmed, without what is blank. -/
theorem exists_pieces (text : List Char) :
    ∃ pieces : List (List Char), pieces ≠ [] ∧ (∀ piece ∈ pieces, ',' ∉ piece) ∧
      [','].intercalate pieces = trim text ∧
      items text = (pieces.map trim).filter fun item => !item.isEmpty := by
  -- The pieces are those that the commas leave, before any of them is trimmed.
  obtain ⟨nonempty, clean, whole⟩ := splitOn_eq_iff.mp (Eq.refl ((trim text).splitOn ','))
  exact ⟨_, nonempty, clean, whole, rfl⟩

/-- A text without items is reported as empty. -/
theorem read_of_items_nil (none : items text.toList = []) : read text = .error .empty := by
  -- The empty list is looked for before the items are read.
  rw [read, none]
  rfl

/-- An item that cannot be read ends the reading with its error. -/
theorem read_of_failed {error : ReadError}
    (failed : (items text.toList).mapM readItem = .error error) : read text = .error error := by
  -- The union is taken only after the last item was read.
  rw [read, failed]
  rfl

/-- A text is read as the union of its items, if there are any and all of them can be read. -/
theorem read_eq_ok_iff_done {set : CpuSet} :
    read text = .ok set ↔ items text.toList ≠ [] ∧
      ∃ parts, (items text.toList).mapM readItem = .ok parts ∧ parts.foldl union empty = set := by
  by_cases none : items text.toList = []
  · simp [read_of_items_nil none, none]
  · cases outcome : (items text.toList).mapM readItem with
    | error error => simp [read_of_failed outcome]
    | ok parts =>
      -- There are as many parts as items.
      have same := (mapM_eq_ok_iff.mp outcome).length_eq
      cases parts with
      | nil => exact absurd (List.length_eq_zero_iff.mp same) none
      | cons part rest =>
        have united : read text = .ok ((part :: rest).foldl union empty) := by
          rw [read, outcome]
          rfl
        simp [united, none]

/-- The union of the items has the CPUs between the ends of each of them. -/
theorem mem_union_of_done {parts : List CpuSet}
    (done : (items text.toList).mapM readItem = .ok parts) (cpu : Nat) :
    cpu ∈ parts.foldl union empty ↔
      ∃ item ∈ items text.toList, ∃ low high, Names item low high ∧ low ≤ cpu ∧ cpu ≤ high := by
  -- Every part comes from one item, and is the interval that the item names.
  rw [mem_foldl_union, exists_mem_results done fun part => cpu ∈ part, or_iff_right notMem_empty]
  refine exists_congr fun item => and_congr_right fun _ => ?_
  simp only [readItem_eq_ok_iff]
  constructor
  · rintro ⟨_, ⟨low, high, names, rfl⟩, member⟩
    obtain ⟨above, below, -⟩ := mem_interval.mp member
    exact ⟨low, high, names, above, below⟩
  · rintro ⟨low, high, names, above, below⟩
    -- The upper end is small enough for all CPUs below it.
    have small := Nat.lt_of_le_of_lt below names.small
    exact ⟨_, ⟨low, high, names, rfl⟩, mem_interval.mpr ⟨above, below, small⟩⟩

/-- A text is read exactly if it has items and each of them names an interval, and then as the set
of the CPUs in these intervals. -/
theorem read_eq_ok_iff {set : CpuSet} :
    read text = .ok set ↔
      items text.toList ≠ [] ∧ (∀ item ∈ items text.toList, ∃ low high, Names item low high) ∧
        ∀ cpu, cpu ∈ set ↔
          ∃ item ∈ items text.toList, ∃ low high, Names item low high ∧ low ≤ cpu ∧ cpu ≤ high := by
  -- The members of a set determine it, so it is enough to say what they are.
  simp only [read_eq_ok_iff_done, ← exists_readItem_iff, ← exists_mapM_iff]
  refine and_congr_right fun _ => ?_
  constructor
  · rintro ⟨parts, done, rfl⟩
    exact ⟨⟨parts, done⟩, mem_union_of_done done⟩
  · rintro ⟨⟨parts, done⟩, members⟩
    exact ⟨parts, done, ext_mem fun cpu => (mem_union_of_done done cpu).trans (members cpu).symm⟩

/-- The error is that of the first item with which something is wrong, or says that there is no
item. -/
theorem read_eq_error_iff {error : ReadError} :
    read text = .error error ↔
      (items text.toList = [] ∧ error = .empty) ∨
        ∃ before item after, items text.toList = before ++ item :: after ∧
          (∀ earlier ∈ before, ∃ low high, Names earlier low high) ∧ Offends item error := by
  simp only [← exists_readItem_iff, ← readItem_eq_error_iff, ← mapM_eq_error_iff]
  by_cases none : items text.toList = []
  · -- Nothing can go wrong where nothing is read.
    simp [read_of_items_nil none, none, pure, Except.pure, eq_comm]
  · cases outcome : (items text.toList).mapM readItem with
    | error found => simp [read_of_failed outcome, none]
    | ok parts =>
      -- Where all items could be read there is no error, neither as outcome nor as an item to
      -- blame.
      have success := read_eq_ok_iff_done.mpr ⟨none, parts, outcome, rfl⟩
      simp [success, none]

/-- CPU lists are read as their language says.

The items of a text are what its commas separate, trimmed, without what is blank. A text is read
exactly if it has items and each of them names an interval, and as the union of these intervals, so
that texts with the same items are read as the same set, in whichever order they have them and
however often. The error that is reported otherwise is about the first item with which something is
wrong, or says that there is no item. -/
theorem read_decides_language (text : String) :
    (∃ pieces : List (List Char), pieces ≠ [] ∧ (∀ piece ∈ pieces, ',' ∉ piece) ∧
      [','].intercalate pieces = trim text.toList ∧
      items text.toList = (pieces.map trim).filter fun item => !item.isEmpty) ∧
    (∀ set, read text = .ok set ↔
      items text.toList ≠ [] ∧ (∀ item ∈ items text.toList, ∃ low high, Names item low high) ∧
        ∀ cpu, cpu ∈ set ↔
          ∃ item ∈ items text.toList, ∃ low high, Names item low high ∧ low ≤ cpu ∧ cpu ≤ high) ∧
    (∀ error, read text = .error error ↔
      (items text.toList = [] ∧ error = .empty) ∨
        ∃ before item after, items text.toList = before ++ item :: after ∧
          (∀ earlier ∈ before, ∃ low high, Names earlier low high) ∧ Offends item error) ∧
    ∀ (other : String) (set : CpuSet),
      (∀ item, item ∈ items other.toList ↔ item ∈ items text.toList) →
        read text = .ok set → read other = .ok set := by
  refine ⟨exists_pieces text.toList, fun _ => read_eq_ok_iff, fun _ => read_eq_error_iff, ?_⟩
  intro other set same success
  obtain ⟨listed, legal, members⟩ := read_eq_ok_iff.mp success
  -- Everything that decides about a set is said in terms of which items there are.
  obtain ⟨item, member⟩ := List.exists_mem_of_ne_nil _ listed
  refine read_eq_ok_iff.mpr ⟨List.ne_nil_of_mem ((same item).mpr member), ?_, ?_⟩
  · exact fun item member => legal item ((same item).mp member)
  · simpa only [same] using members

/-- Items that overlap, in another order and one of them twice. -/
theorem read_decides_language_shuffled :
    let set : CpuSet := (interval 0 0).union (interval 4 6)
    read " 4-6 ,, +5,0" = .ok set ∧ read "0, 4-6,+5,0" = .ok set := by
  have success : read " 4-6 ,, +5,0" = .ok ((interval 0 0).union (interval 4 6)) := by
    decide +kernel
  refine ⟨success, (read_decides_language " 4-6 ,, +5,0").2.2.2 _ _ ?_ success⟩
  -- Both texts have the same three items, which is all that the law asks for.
  have items : items " 4-6 ,, +5,0".toList = ["4-6".toList, "+5".toList, "0".toList] := by
    decide +kernel
  have others : CpuSet.items "0, 4-6,+5,0".toList =
      ["0".toList, "4-6".toList, "+5".toList, "0".toList] := by
    decide +kernel
  rw [items, others]
  intro item
  simp only [List.mem_cons, List.not_mem_nil, or_false]
  grind

end Texts

end PowerGovernor.CpuSet
