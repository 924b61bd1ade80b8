import Mathlib.Data.List.Forall2
import PowerGovernor.Load.Counters
import PowerGovernor.Proofs.Text.Numeral
import PowerGovernor.Proofs.Text.Words

/-! Which lines of a statistics table are about CPUs, and what they say. -/

namespace PowerGovernor

/-- A word that begins a line about CPUs: about all of them together, or about the one whose number
follows. -/
inductive IsCpuTag : List Char → CpuTag → Prop
  /-- Without a number all CPUs are meant. -/
  | aggregate : IsCpuTag "cpu".toList .aggregate
  /-- The number of a CPU fits into 64 bits. -/
  | cpu {numeral : List Char} {number : Nat} (written : IsNumeral numeral number)
      (fits : number < 2 ^ 64) : IsCpuTag ("cpu".toList ++ numeral) (.cpu number)

/-- What a word says about a counter: the number that it is a numeral of, or nothing. -/
inductive IsField : List Char → Option UInt64 → Prop
  /-- A numeral that fits into 64 bits gives its number. -/
  | number {word : List Char} {value : UInt64} (written : IsNumeral word value.toNat) :
      IsField word (some value)
  /-- Any other word gives none. -/
  | malformed {word : List Char} (other : ∀ value : UInt64, ¬ IsNumeral word value.toNat) :
      IsField word none

/-- A line about CPUs: its first word says which of them, and the ten words behind it, or as many as
there are, are the fields. -/
def IsStatLine (text : List Char) (line : StatLine) : Prop :=
  ∃ first rest, HasWords text (first :: rest) ∧ IsCpuTag first line.tag ∧
    List.Forall₂ IsField (rest.take 10) line.fields

/-- The first word of a line about CPUs is read as what it says, and no other word is. -/
theorem CpuTag.read?_eq_some_iff {word : List Char} {tag : CpuTag} :
    CpuTag.read? word = some tag ↔ IsCpuTag word tag := by
  -- Behind the three letters nothing may follow but a numeral.
  constructor
  · intro read
    unfold read? at read
    split at read
    · cases read
      exact .aggregate
    · obtain ⟨number, ⟨written, fits⟩, rfl⟩ := map_readUnsigned_eq_some_iff.mp read
      exact .cpu written (Nat.lt_succ_of_le fits)
    · cases read
  · rintro (_ | ⟨written, fits⟩)
    · rfl
    · rename_i numeral number
      have found := map_readUnsigned_eq_some_iff.mpr
        ⟨number, ⟨written, (Nat.le_of_lt_succ fits : number ≤ maxWord64)⟩, Eq.refl (cpu number)⟩
      -- A numeral is no empty text, so the tag is not the one of all CPUs.
      obtain ⟨first, rest, rfl⟩ := List.exists_cons_of_ne_nil written.ne_nil
      exact found

/-- A word is read as the field that it says. -/
theorem readWord64?_eq_iff {word : List Char} {field : Option UInt64} :
    readWord64? word = field ↔ IsField word field := by
  constructor
  · rintro rfl
    -- A word that gives no number is a numeral of none.
    cases found : readWord64? word with
    | some value => exact .number (readWord64?_eq_some_iff.mp found)
    | none =>
      refine .malformed fun value written => ?_
      rw [readWord64?_eq_some_iff.mpr written] at found
      cases found
  · rintro (written | other)
    · exact readWord64?_eq_some_iff.mpr written
    · exact Option.eq_none_iff_forall_ne_some.mpr fun value found =>
        other value (readWord64?_eq_some_iff.mp found)

/-- The lines about CPUs are read, each as what it says, and no other lines are. -/
theorem StatLine.read?_eq_some_iff {text : List Char} {line : StatLine} :
    StatLine.read? text = some line ↔ IsStatLine text line := by
  -- Field by field, what is read is what the words say.
  have fields (rest : List (List Char)) :
      (rest.take counterCount).map readWord64? = line.fields ↔
        List.Forall₂ IsField (rest.take 10) line.fields := by
    rw [← List.forall₂_eq_eq_eq, List.forall₂_map_left_iff]
    simp only [readWord64?_eq_iff]
    rfl
  constructor
  · intro read
    unfold StatLine.read? at read
    split at read
    · cases read
    · rename_i first rest found
      obtain ⟨tag, tagged, rfl⟩ := Option.map_eq_some_iff.mp read
      exact ⟨first, rest, words_eq_iff.mp found, CpuTag.read?_eq_some_iff.mp tagged,
        (fields rest).mp rfl⟩
  · rintro ⟨first, rest, has, tagged, said⟩
    rw [StatLine.read?, has.words_eq]
    dsimp only
    rw [CpuTag.read?_eq_some_iff.mpr tagged, (fields rest).mpr said]
    rfl

end PowerGovernor
