import PowerGovernor.CpuSet.Printer

/-! The runs of a CPU set: intervals with gaps between them, which no other such intervals are. -/

namespace PowerGovernor.CpuSet

/-- Whether a number lies in one of some intervals. -/
def Covers (ends : List (Nat × Nat)) (cpu : Nat) : Prop :=
  ∃ run ∈ ends, run.1 ≤ cpu ∧ cpu ≤ run.2

/-- Ascending intervals with a number missing between each two of them. -/
structure Separate (ends : List (Nat × Nat)) : Prop where
  /-- No interval is empty. -/
  ordered : ∀ run ∈ ends, run.1 ≤ run.2
  /-- Each interval begins behind a gap. -/
  apart : ends.Pairwise fun one other => one.2 + 1 < other.1

section Intervals

variable {low high cpu : Nat} {more : List (Nat × Nat)}

/-- A number lies in the first interval or in a later one. -/
theorem covers_cons :
    Covers ((low, high) :: more) cpu ↔ (low ≤ cpu ∧ cpu ≤ high) ∨ Covers more cpu := by
  simp [Covers]

/-- The first interval of separate ones ends before a gap. -/
theorem separate_cons :
    Separate ((low, high) :: more) ↔
      low ≤ high ∧ (∀ run ∈ more, high + 1 < run.1) ∧ Separate more := by
  -- Both properties speak about all intervals, the first one and the later ones.
  constructor
  · rintro ⟨ordered, apart⟩
    obtain ⟨first, others⟩ := List.forall_mem_cons.mp ordered
    obtain ⟨gap, later⟩ := List.pairwise_cons.mp apart
    exact ⟨first, gap, others, later⟩
  · rintro ⟨first, gap, others, later⟩
    exact ⟨List.forall_mem_cons.mpr ⟨first, others⟩, List.pairwise_cons.mpr ⟨gap, later⟩⟩

/-- What the later intervals cover lies behind the gap. -/
theorem Separate.beyond (separate : Separate ((low, high) :: more)) (covered : Covers more cpu) :
    high + 1 < cpu := by
  -- The interval that covers the number begins behind the gap.
  obtain ⟨run, member, above, -⟩ := covered
  have gap := (separate_cons.mp separate).2.1 run member
  omega

/-- Nothing is covered below the first interval. -/
theorem Separate.low_le (separate : Separate ((low, high) :: more))
    (covered : Covers ((low, high) :: more) cpu) : low ≤ cpu := by
  -- What later intervals cover is even further up.
  have order := (separate_cons.mp separate).1
  rcases covers_cons.mp covered with ⟨above, -⟩ | later
  · exact above
  · have gap := separate.beyond later
    omega

/-- The later intervals cover what is covered behind the first one. -/
theorem Separate.covers_tail_iff (separate : Separate ((low, high) :: more)) :
    Covers more cpu ↔ Covers ((low, high) :: more) cpu ∧ high < cpu := by
  -- The first interval ends where the later ones have not begun yet.
  constructor
  · intro later
    have gap := separate.beyond later
    exact ⟨covers_cons.mpr (.inr later), by omega⟩
  · rintro ⟨covered, behind⟩
    rcases covers_cons.mp covered with ⟨-, below⟩ | later
    · omega
    · exact later

/-- Intervals that cover at least as much begin at least as early, and if they begin at the same
number, their first interval is at least as long. -/
theorem Separate.first_le {start finish : Nat} {rest : List (Nat × Nat)}
    (one : Separate ((low, high) :: more)) (other : Separate ((start, finish) :: rest))
    (wider : ∀ cpu, Covers ((low, high) :: more) cpu → Covers ((start, finish) :: rest) cpu) :
    start ≤ low ∧ (start = low → high ≤ finish) := by
  have order := (separate_cons.mp one).1
  have orderToo := (separate_cons.mp other).1
  -- Everything in the first interval of the one is covered by the other.
  have covered : ∀ cpu, low ≤ cpu → cpu ≤ high → Covers ((start, finish) :: rest) cpu :=
    fun cpu above below => wider cpu (covers_cons.mpr (.inl ⟨above, below⟩))
  refine ⟨other.low_le (covered low (Nat.le_refl low) order), fun same => ?_⟩
  refine Nat.le_of_not_lt fun longer => ?_
  -- The number behind the shorter interval would lie in its gap.
  rcases covers_cons.mp (covered (finish + 1) (by omega) (by omega)) with ⟨-, below⟩ | later
  · omega
  · have gap := other.beyond later
    omega

end Intervals

/-- Separate intervals are determined by what they cover. -/
theorem Separate.unique {one other : List (Nat × Nat)} (first : Separate one)
    (second : Separate other) (same : ∀ cpu, Covers one cpu ↔ Covers other cpu) : one = other := by
  -- The first intervals cover what begins the set, and the others what lies behind it.
  induction one generalizing other with
  | nil =>
    cases other with
    | nil => rfl
    | cons run rest =>
      -- An interval is never empty, so it covers something that no interval covers.
      have ordered := second.ordered run List.mem_cons_self
      have covered := (same run.1).mpr ⟨run, List.mem_cons_self, Nat.le_refl _, ordered⟩
      simp [Covers] at covered
  | cons run more ih =>
    cases other with
    | nil =>
      have ordered := first.ordered run List.mem_cons_self
      have covered := (same run.1).mp ⟨run, List.mem_cons_self, Nat.le_refl _, ordered⟩
      simp [Covers] at covered
    | cons next rest =>
      obtain ⟨low, high⟩ := run
      obtain ⟨start, finish⟩ := next
      -- Each list covers all that the other one does, so the first intervals have the same ends.
      have forth := first.first_le second fun cpu => (same cpu).mp
      have back := second.first_le first fun cpu => (same cpu).mpr
      have begins : start = low := by omega
      have stops : finish = high := by omega
      subst begins stops
      -- Behind the first interval the rest of both lists covers the same.
      have tails : ∀ cpu, Covers more cpu ↔ Covers rest cpu := fun cpu => by
        rw [first.covers_tail_iff, second.covers_tail_iff, same cpu]
      rw [ih (separate_cons.mp first).2.2 (separate_cons.mp second).2.2 tails]

/-- The runs of an ascending list are separate and cover what is in the list. -/
theorem runs_of_ascending {list : List Nat} (ascending : list.Pairwise (· < ·)) :
    Separate (runs list) ∧ ∀ cpu, Covers (runs list) cpu ↔ cpu ∈ list := by
  -- The first number joins the first run behind it, unless there is a gap between them.
  induction list with
  | nil => exact ⟨⟨by simp [runs], by simp [runs]⟩, by simp [runs, Covers]⟩
  | cons first rest ih =>
    obtain ⟨above, later⟩ := List.pairwise_cons.mp ascending
    obtain ⟨separate, covers⟩ := ih later
    cases known : runs rest with
    | nil =>
      rw [known] at separate covers
      simp only [runs, known]
      -- The last number of the list is a run of its own.
      refine ⟨separate_cons.mpr ⟨Nat.le_refl first, by simp, separate⟩, fun cpu => ?_⟩
      rw [covers_cons, covers, List.mem_cons]
      refine or_congr_left ?_
      omega
    | cons run more =>
      obtain ⟨low, high⟩ := run
      rw [known] at separate covers
      obtain ⟨ordered, gap, others⟩ := separate_cons.mp separate
      have behind : first < low :=
        above low ((covers low).mp (covers_cons.mpr (.inl ⟨Nat.le_refl low, ordered⟩)))
      simp only [runs, known]
      split
      · -- The number is the one before the run, which now begins with it.
        rename_i next
        refine ⟨separate_cons.mpr ⟨by omega, gap, others⟩, fun cpu => ?_⟩
        rw [covers_cons, List.mem_cons, ← covers, covers_cons, ← or_assoc]
        refine or_congr_left ?_
        omega
      · -- At least one number is missing, so a run of one number begins before the gap.
        rename_i apart
        refine ⟨separate_cons.mpr ⟨Nat.le_refl first, ?_, separate⟩, fun cpu => ?_⟩
        · refine List.forall_mem_cons.mpr ⟨by omega, fun run member => ?_⟩
          have further := gap run member
          omega
        · rw [covers_cons, covers, List.mem_cons]
          refine or_congr_left ?_
          omega

/-- The runs of a set are separate and cover its members. -/
theorem runs_toList (set : CpuSet) :
    Separate (runs set.toList) ∧ ∀ cpu, Covers (runs set.toList) cpu ↔ cpu ∈ set := by
  -- The members of a set are listed in ascending order.
  obtain ⟨separate, covers⟩ := runs_of_ascending set.pairwise_toList
  exact ⟨separate, fun cpu => (covers cpu).trans (set.mem_toList cpu)⟩

end PowerGovernor.CpuSet
