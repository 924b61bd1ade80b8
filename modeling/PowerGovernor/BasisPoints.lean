import PowerGovernor.Text.Pad

/-! Shares of a whole in hundredths of a percent. -/

namespace PowerGovernor

/-- The number of basis points in the whole. -/
def fullScale : Nat := 10000

/-- A share between nothing and the whole. -/
structure BasisPoints where
  /-- The count of hundredths of a percent. -/
  value : Nat
  /-- No share is larger than the whole. -/
  value_le : value ≤ fullScale
deriving DecidableEq

namespace BasisPoints

/-- The least share that is not below the given count, or the whole. -/
def clamp (count : Nat) : BasisPoints :=
  ⟨min count fullScale, Nat.min_le_right count fullScale⟩

/-- A count is cut at the whole. -/
@[simp] theorem value_clamp (count : Nat) : (clamp count).value = min count fullScale := rfl

/-- Shares with the same count are equal. -/
@[ext] theorem ext {left right : BasisPoints} (same : left.value = right.value) : left = right := by
  cases left
  cases right
  simpa using same

/-- The empty share. -/
def zero : BasisPoints := clamp 0

/-- The whole. -/
def full : BasisPoints := clamp fullScale

instance : Inhabited BasisPoints := ⟨zero⟩

instance : LE BasisPoints := ⟨fun left right => left.value ≤ right.value⟩

instance : LT BasisPoints := ⟨fun left right => left.value < right.value⟩

instance (left right : BasisPoints) : Decidable (left ≤ right) :=
  inferInstanceAs (Decidable (left.value ≤ right.value))

instance (left right : BasisPoints) : Decidable (left < right) :=
  inferInstanceAs (Decidable (left.value < right.value))

instance : Max BasisPoints := maxOfLe

/-- Shares add up to the whole at most. -/
instance : Add BasisPoints := ⟨fun left right => clamp (left.value + right.value)⟩

/-- Shares are ordered by their counts. -/
theorem le_iff {left right : BasisPoints} : left ≤ right ↔ left.value ≤ right.value := Iff.rfl

/-- Shares are ordered by their counts. -/
theorem lt_iff {left right : BasisPoints} : left < right ↔ left.value < right.value := Iff.rfl

/-- The sum is cut at the whole. -/
@[simp] theorem value_add (left right : BasisPoints) :
    (left + right).value = min (left.value + right.value) fullScale := rfl

/-- A percentage, cut at a hundred percent. -/
def ofPercent (percent : Nat) : BasisPoints :=
  clamp (percent * 100)

/-- The share that a part takes of a whole, rounded down; a whole of zero holds no share. -/
def ratio (part whole : Nat) : BasisPoints :=
  if whole = 0 then zero else clamp (part * fullScale / whole)

/-- What a share leaves of the whole. -/
def idleShare (share : BasisPoints) : Nat :=
  fullScale - share.value

/-- The share that a part leaves of a whole. -/
def complementOfRatio (part whole : Nat) : BasisPoints :=
  clamp (ratio part whole).idleShare

/-- A share as a percentage with two decimals. -/
def text (share : BasisPoints) : String :=
  let hundredths := toString (share.value % 100)
  toString (share.value / 100) ++ "." ++ "".pushn '0' (2 - hundredths.length) ++ hundredths

end BasisPoints

/-- A measured share, or nothing when it could not be measured. -/
abbrev Reading := Option BasisPoints

/-- A reading as a percentage, or a mark for a missing one. -/
def Reading.text : Reading → String
  | some share => share.text
  | none => "n/a"

/-- The larger of two readings, in which a missing one counts least. -/
def Reading.larger : Reading → Reading → Reading
  | some left, some right => some (max left right)
  | some left, none => some left
  | none, right => right

end PowerGovernor
