/-! Decimal numerals within a limit, and the reason why a text is none. -/

namespace PowerGovernor

/-- Why a text is not a decimal numeral of the wanted size. -/
inductive NumeralError where
  | empty
  | invalidDigit
  | tooLarge
  | tooSmall
deriving DecidableEq

/-- The wording of a numeral error. -/
def NumeralError.message : NumeralError → String
  | .empty => "cannot parse integer from empty string"
  | .invalidDigit => "invalid digit found in string"
  | .tooLarge => "number too large to fit in target type"
  | .tooSmall => "number too small to fit in target type"

/-- The value of an ASCII digit. -/
def digitValue? (char : Char) : Option Nat :=
  if '0' ≤ char ∧ char ≤ '9' then some (char.toNat - '0'.toNat) else none

/-- Appends digits to a value, reporting the first character that is no digit or goes over the
limit. -/
def readDigits (limit : Nat) (tooFar : NumeralError) : Nat → List Char → Except NumeralError Nat
  | value, [] => .ok value
  | value, char :: rest =>
    match digitValue? char with
    | none => .error .invalidDigit
    | some digit =>
      if 10 * value + digit ≤ limit then readDigits limit tooFar (10 * value + digit) rest
      else .error tooFar

/-- Reads digits after at most one plus sign, up to and including the limit. -/
def readUnsigned (limit : Nat) : List Char → Except NumeralError Nat
  | [] => .error .empty
  | ['+'] => .error .invalidDigit
  | '+' :: digits => readDigits limit .tooLarge 0 digits
  | digits => readDigits limit .tooLarge 0 digits

/-- The largest 32-bit word. -/
def maxWord32 : Nat := 0xFFFFFFFF

/-- The largest 64-bit word. -/
def maxWord64 : Nat := 0xFFFFFFFFFFFFFFFF

/-- The largest signed 64-bit word; the least one lies one further from zero. -/
def maxSigned64 : Nat := 0x7FFFFFFFFFFFFFFF

/-- Reads digits after at most one sign as a signed 64-bit word. -/
def readSigned64 : List Char → Except NumeralError Int
  | ['-'] => .error .invalidDigit
  | '-' :: digits => (readDigits (maxSigned64 + 1) .tooSmall 0 digits).map fun size => -(size : Int)
  | text => (readUnsigned maxSigned64 text).map fun size => (size : Int)

/-- Reads a numeral that fits in 32 bits. -/
def readWord32? (text : List Char) : Option UInt32 :=
  (readUnsigned maxWord32 text).toOption.map Nat.toUInt32

/-- Reads a numeral that fits in 64 bits. -/
def readWord64? (text : List Char) : Option UInt64 :=
  (readUnsigned maxWord64 text).toOption.map Nat.toUInt64

end PowerGovernor
