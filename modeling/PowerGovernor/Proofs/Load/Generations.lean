import PowerGovernor.Proofs.Load.History

/-! What a generation of counters holds for each tag, and which of its CPUs is the busiest. -/

namespace PowerGovernor

namespace BasisPoints

/-- Shares with the same upper bounds are equal. -/
theorem eq_of_le_iff {left right : BasisPoints}
    (same : ∀ bound : BasisPoints, left ≤ bound ↔ right ≤ bound) : left = right := by
  -- Each share is one of the bounds of the other.
  have one : right.value ≤ left.value := (same left).mp (Nat.le_refl _)
  have other : left.value ≤ right.value := (same right).mpr (Nat.le_refl _)
  exact BasisPoints.ext (Nat.le_antisymm other one)

/-- The larger of two shares is bounded by what bounds both. -/
theorem max_le_iff {left right bound : BasisPoints} :
    max left right ≤ bound ↔ left ≤ bound ∧ right ≤ bound := by
  -- The maximum is defined by comparing the shares.
  change (if left ≤ right then right else left).value ≤ bound.value ↔
    left.value ≤ bound.value ∧ right.value ≤ bound.value
  by_cases below : left ≤ right
  · have : left.value ≤ right.value := below
    rw [if_pos below]
    omega
  · have : ¬ left.value ≤ right.value := below
    rw [if_neg below]
    omega

/-- Nothing is below the empty share. -/
theorem zero_le (share : BasisPoints) : zero ≤ share := Nat.zero_le _

/-- The largest of many shares is bounded by what bounds them all. -/
theorem foldl_max_le_iff (shares : List BasisPoints) (start bound : BasisPoints) :
    shares.foldl max start ≤ bound ↔ start ≤ bound ∧ ∀ share ∈ shares, share ≤ bound := by
  -- What is largest so far has the bounds of all that was passed.
  induction shares generalizing start with
  | nil => simp
  | cons share rest ih => simp [ih, max_le_iff, and_assoc]

end BasisPoints

/-- The largest of many readings is bounded by what bounds those that are not missing. -/
theorem Reading.foldl_larger_le_iff (readings : List Reading) (start : Reading)
    (bound : BasisPoints) :
    (readings.foldl Reading.larger start).getD .zero ≤ bound ↔
      start.getD .zero ≤ bound ∧ ∀ load, some load ∈ readings → load ≤ bound := by
  induction readings generalizing start with
  | nil => simp
  | cons reading rest ih =>
    -- A missing reading changes neither side.
    cases reading with
    | none => cases start <;> simp [ih, larger]
    | some load =>
      cases start with
      | none => simp [ih, larger, BasisPoints.zero_le]
      | some first => simp [ih, larger, BasisPoints.max_le_iff, and_assoc]

namespace Generation

/-- What a generation holds for a tag; a CPU without room in it is unseen. -/
def slot (generation : Generation) : CpuTag → CounterSlot
  | .aggregate => generation.aggregate
  | .cpu number => (generation.cpus[number]?).getD .unseen

/-- However much room there is, nothing is known in the beginning. -/
@[simp] theorem slot_unseen (cpuCount : Nat) (tag : CpuTag) :
    (unseen cpuCount).slot tag = .unseen := by
  cases tag with
  | aggregate => rfl
  | cpu number =>
    -- With room or without, a CPU is unseen.
    simp only [slot, unseen, Array.getElem?_replicate]
    split <;> rfl

/-- The next generation starts with the same counters, none of them mentioned. -/
@[simp] theorem slot_carry (generation : Generation) (tag : CpuTag) :
    generation.carry.slot tag = (generation.slot tag).carry := by
  cases tag with
  | aggregate => rfl
  | cpu number =>
    simp only [slot, carry, Array.getElem?_map]
    -- A CPU without room is as unknown after the change as before.
    cases generation.cpus[number]? <;> rfl

/-- Making room shows nothing new about any CPU. -/
theorem getElem?_makeRoom (cpus : Array CounterSlot) (number other : Nat) :
    ((makeRoom cpus number)[other]?).getD .unseen = (cpus[other]?).getD .unseen := by
  -- What is added behind the slots that exist is unseen.
  unfold makeRoom
  rw [Array.getElem?_append]
  split
  · rfl
  · rename_i outside
    have absent : cpus[other]? = none := Array.getElem?_eq_none (Nat.le_of_not_lt outside)
    rw [absent, Array.getElem?_replicate]
    split <;> rfl

/-- A line changes what is held for its own tag and nothing else. -/
theorem slot_absorb (generation : Generation) (line : StatLine) (tag : CpuTag) :
    (generation.absorb line).slot tag =
      if line.tag = tag then (generation.slot tag).update line.fields
      else generation.slot tag := by
  unfold absorb
  cases named : line.tag with
  | aggregate =>
    cases tag with
    | aggregate => simp [slot]
    | cpu other => simp [slot]
  | cpu number =>
    cases tag with
    | aggregate => simp [slot]
    | cpu other =>
      simp only [slot, CpuTag.cpu.injEq, Array.getElem?_modify]
      by_cases same : number = other
      · -- There is room for this CPU by now, so its slot is the one that is updated.
        subst same
        have room : number < (makeRoom generation.cpus number).size := by
          simp only [makeRoom, Array.size_append, Array.size_replicate]
          omega
        have held := getElem?_makeRoom generation.cpus number number
        rw [Array.getElem?_eq_getElem room] at held ⊢
        simp only [Option.getD_some] at held
        simp [held]
      · simp only [if_neg same]
        exact getElem?_makeRoom generation.cpus number other

/-- Lines leave the latest numbers that they give, over what was held before. -/
theorem counters_absorbAll (lines : List StatLine) (tag : CpuTag) {index : Nat}
    (inside : index < counterCount) :
    ∀ generation : Generation,
      ((lines.foldl absorb generation).slot tag).counters[index] =
        (latestValue? lines tag ⟨index, inside⟩).getD (generation.slot tag).counters[index] := by
  -- The generation varies, since each line leaves another one to the lines behind it.
  induction lines with
  | nil => intro generation; rfl
  | cons line rest ih =>
    intro generation
    -- The first line only decides where no later one does.
    rw [List.foldl_cons, ih, slot_absorb, ← List.singleton_append, latestValue?_append,
      latestValue?_singleton]
    cases latestValue? rest tag ⟨index, inside⟩ with
    | some value => rfl
    | none =>
      by_cases named : line.tag = tag
      · simp only [if_pos named, Option.none_or, Option.getD_none]
        exact Counters.getElem_update _ line.fields ⟨index, inside⟩
      · simp only [if_neg named, Option.none_or, Option.getD_none]

/-- A tag is mentioned once it was before or has a line. -/
theorem present_absorbAll (lines : List StatLine) (tag : CpuTag) :
    ∀ generation : Generation,
      ((lines.foldl absorb generation).slot tag).present = true ↔
        (generation.slot tag).present = true ∨ ∃ line ∈ lines, line.tag = tag := by
  induction lines with
  | nil => intro generation; simp
  | cons line rest ih =>
    intro generation
    rw [List.foldl_cons, ih, slot_absorb]
    -- A line marks its own tag as present and leaves the other marks alone.
    by_cases named : line.tag = tag
    · simp [named, CounterSlot.update]
    · simp [named]

/-- A CPU that is mentioned has room in its generation. -/
theorem getElem?_of_present {generation : Generation} {cpu : Nat}
    (mentioned : (generation.slot (.cpu cpu)).present = true) :
    generation.cpus[cpu]? = some (generation.slot (.cpu cpu)) := by
  simp only [slot] at mentioned ⊢
  cases held : generation.cpus[cpu]? with
  | none =>
    -- An unseen slot is not mentioned.
    rw [held] at mentioned
    cases mentioned
  | some slot => rfl

/-- The load of the busiest CPU is bounded by what bounds the loads of all CPUs that both
generations mention. -/
theorem busiest_le_iff (current previous : Generation) (bound : BasisPoints) :
    busiest current previous ≤ bound ↔
      ∀ cpu, (current.slot (.cpu cpu)).present = true →
        (previous.slot (.cpu cpu)).present = true →
        Counters.busyBetween (current.slot (.cpu cpu)).counters
          (previous.slot (.cpu cpu)).counters ≤ bound := by
  unfold busiest
  rw [← Array.foldl_toList, Reading.foldl_larger_le_iff]
  simp only [Option.getD_none, BasisPoints.zero_le, true_and, Array.mem_toList_iff,
    Array.mem_iff_getElem?, Array.getElem?_zipWith]
  constructor
  · -- A CPU that both generations mention has a load among those that are compared.
    intro bounded cpu mentioned before
    refine bounded _ ⟨cpu, ?_⟩
    rw [getElem?_of_present mentioned, getElem?_of_present before]
    simp [loadOf, mentioned, before]
  · rintro bounded load ⟨cpu, found⟩
    have limit := bounded cpu
    simp only [slot] at limit
    -- Only a CPU with room in both generations has a load.
    cases here : current.cpus[cpu]? with
    | none => simp [here] at found
    | some slot =>
      cases there : previous.cpus[cpu]? with
      | none => simp [here, there] at found
      | some earlier =>
        simp only [here, there, Option.some.injEq, loadOf, Bool.and_eq_true] at found
        simp only [here, there, Option.getD_some] at limit
        split at found
        · rename_i both
          cases found
          exact limit both.1 both.2
        · cases found

end Generation

end PowerGovernor
