/-! Finite sets of CPU numbers below a fixed limit. -/

namespace PowerGovernor

/-- CPU numbers stay below this limit. -/
def cpuNumberLimit : Nat := 8192

/-- A set of CPU numbers, one bit for each number below the limit. -/
structure CpuSet where
  /-- The bits of the CPUs in the set. -/
  bits : BitVec cpuNumberLimit
deriving DecidableEq

namespace CpuSet

/-- The set without any CPU. -/
def empty : CpuSet := ⟨BitVec.ofNat cpuNumberLimit 0⟩

instance : Inhabited CpuSet := ⟨empty⟩

/-- Whether a CPU is in the set. -/
def contains (set : CpuSet) (cpu : Nat) : Bool :=
  set.bits.getLsbD cpu

instance : Membership Nat CpuSet := ⟨fun set cpu => set.contains cpu = true⟩

instance (cpu : Nat) (set : CpuSet) : Decidable (cpu ∈ set) :=
  inferInstanceAs (Decidable (set.contains cpu = true))

/-- Every CPU of a set lies below the limit. -/
theorem lt_of_contains {set : CpuSet} {cpu : Nat} (inside : set.contains cpu = true) :
    cpu < cpuNumberLimit :=
  BitVec.lt_of_getLsbD inside

/-- Sets with the same CPUs are equal. -/
theorem ext_contains {left right : CpuSet}
    (agree : ∀ cpu, left.contains cpu = right.contains cpu) : left = right := by
  -- Vectors with the same bits are equal.
  have same : left.bits = right.bits := BitVec.eq_of_getLsbD_eq fun cpu _ => agree cpu
  cases left
  cases right
  simpa using same

/-- No CPU is in the empty set. -/
@[simp] theorem contains_empty (cpu : Nat) : empty.contains cpu = false :=
  BitVec.getLsbD_zero

/-- The CPUs of both sets. -/
def union (left right : CpuSet) : CpuSet :=
  ⟨left.bits ||| right.bits⟩

/-- The union holds the CPUs of either set. -/
@[simp] theorem contains_union (left right : CpuSet) (cpu : Nat) :
    (left.union right).contains cpu = (left.contains cpu || right.contains cpu) :=
  BitVec.getLsbD_or

/-- All CPUs from low to high that lie below the limit. -/
def interval (low high : Nat) : CpuSet :=
  ⟨(BitVec.allOnes (high + 1 - low)).setWidth cpuNumberLimit <<< low⟩

/-- The interval holds the CPUs between its ends. -/
@[simp] theorem contains_interval (low high cpu : Nat) :
    (interval low high).contains cpu =
      decide (low ≤ cpu ∧ cpu ≤ high ∧ cpu < cpuNumberLimit) := by
  -- The shift moves a block of ones up to the low end.
  simp only [contains, interval, BitVec.getLsbD_shiftLeft, BitVec.getLsbD_setWidth,
    BitVec.getLsbD_allOnes]
  by_cases above : low ≤ cpu <;> by_cases below : cpu ≤ high <;>
    by_cases small : cpu < cpuNumberLimit <;> simp [above, below, small] <;> omega

/-- The CPUs of the set in ascending order. -/
def toList (set : CpuSet) : List Nat :=
  (List.range (set.bits.toNat.log2 + 1)).filter set.contains

/-- The list names exactly the CPUs of the set. -/
@[simp] theorem mem_toList (set : CpuSet) (cpu : Nat) : cpu ∈ set.toList ↔ cpu ∈ set := by
  -- A CPU of the set has its bit below the end of the number.
  change cpu ∈ (List.range (set.bits.toNat.log2 + 1)).filter set.contains ↔
    set.contains cpu = true
  simp only [List.mem_filter, List.mem_range, and_iff_right_iff_imp]
  intro inside
  have large := Nat.ge_two_pow_of_testBit inside
  have positive : set.bits.toNat ≠ 0 := by
    have := Nat.two_pow_pos cpu
    omega
  exact Nat.lt_succ_of_le ((Nat.le_log2 positive).mpr large)

/-- The list is strictly ascending. -/
theorem pairwise_toList (set : CpuSet) : set.toList.Pairwise (· < ·) :=
  List.pairwise_lt_range.filter _

/-- Before a CPU of the set, the list names exactly the lower ones. -/
theorem exists_toList_eq {set : CpuSet} {cpu : Nat} (member : cpu ∈ set) :
    ∃ before behind, set.toList = before ++ cpu :: behind ∧
      ∀ lower, lower ∈ before ↔ lower ∈ set ∧ lower < cpu := by
  obtain ⟨before, behind, cut⟩ := List.append_of_mem ((mem_toList set cpu).mpr member)
  have ascending := set.pairwise_toList
  rw [cut, List.pairwise_append, List.pairwise_cons] at ascending
  obtain ⟨-, ⟨above, -⟩, below⟩ := ascending
  refine ⟨before, behind, cut, fun lower => ?_⟩
  rw [← mem_toList, cut, List.mem_append, List.mem_cons]
  constructor
  · exact fun early => ⟨Or.inl early, below lower early cpu List.mem_cons_self⟩
  · -- What does not come before the CPU is the CPU itself or above it.
    rintro ⟨early | rfl | late, smaller⟩
    · exact early
    · omega
    · have := above lower late
      omega

/-- The number of CPUs in the set. -/
def size (set : CpuSet) : Nat := set.toList.length

/-- Whether the set holds no CPU. -/
def isEmpty (set : CpuSet) : Bool := set.toList.isEmpty

/-- The smallest CPU of the set. -/
def least? (set : CpuSet) : Option Nat := set.toList.head?

/-- The largest CPU of the set. -/
def greatest? (set : CpuSet) : Option Nat := set.toList.getLast?

end CpuSet

end PowerGovernor
