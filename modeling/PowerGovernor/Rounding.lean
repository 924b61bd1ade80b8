import PowerGovernor.Text.Pad

/-! Rounding of rational numbers to the nearest integer, to binary precision and to decimals. -/

namespace PowerGovernor

/-- The nearest integer; a half goes to the even neighbour. -/
def roundHalfEven (value : Rat) : Int :=
  let below := value.floor
  let excess := value - below
  if excess < 1 / 2 then below
  else if 1 / 2 < excess then below + 1
  else if below % 2 = 0 then below
  else below + 1

/-- The exponent of the highest power of two that is not above a positive number. -/
def binaryExponent (value : Rat) : Int :=
  -- The two logarithms miss the exponent by at most one.
  let guess : Int := (Nat.log2 value.num.natAbs : Int) - Nat.log2 value.den
  if value < (2 : Rat) ^ guess then guess - 1 else guess

/-- The nearest number with the given count of significant bits, ties to even, without bounds on
the exponent; binary floating point gives it for every nonnegative number in its normal range. -/
def roundBinary (precision : Nat) (value : Rat) : Rat :=
  if value = 0 then 0
  else
    let unit := (2 : Rat) ^ (binaryExponent value + 1 - precision)
    roundHalfEven (value / unit) * unit

/-- Rounding to single precision. -/
def roundSingle (value : Rat) : Rat := roundBinary 24 value

/-- Rounding to double precision. -/
def roundDouble (value : Rat) : Rat := roundBinary 53 value

/-- The number of units of the last decimal in one whole. -/
def decimalScale : Nat → Nat
  | 0 => 1
  | places + 1 => 10 * decimalScale places

/-- A nonnegative number written with a fixed count of decimals, ties to even. -/
def fixedDecimals (places : Nat) (value : Rat) : String :=
  let scale := decimalScale places
  let units := (roundHalfEven (value * (scale : Rat))).toNat
  if places = 0 then toString units
  else
    let fraction := toString (units % scale)
    toString (units / scale) ++ "." ++ "".pushn '0' (places - fraction.length) ++ fraction

end PowerGovernor
