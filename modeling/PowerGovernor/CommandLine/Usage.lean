import PowerGovernor.CommandLine.Options
import PowerGovernor.Policy.Reader
import PowerGovernor.Text.Style

/-! Why arguments cannot be used, and what is printed about it. -/

namespace PowerGovernor.CommandLine

/-- Why a value does not suit an option. -/
inductive ValueError where
  | numeral (error : NumeralError)
  | outOfRange (number : Int)
  | state (error : Policy.SpecError)
deriving DecidableEq

/-- The wording of a value error. -/
def ValueError.message : ValueError → String
  | .numeral error => error.message
  | .outOfRange number => toString number ++ " is not in 0..=" ++ toString maxWord32
  | .state error => error.message

/-- Why the arguments cannot be used. -/
inductive UsageError where
  | unexpectedArgument (argument : String)
  | unneededValue (value : String) (switch : Switch)
  | missingValue (parameter : Parameter)
  | invalidValue (value : String) (parameter : Parameter) (error : ValueError)
  | repeatedParameter (parameter : Parameter)
  | repeatedSwitch (switch : Switch)
deriving DecidableEq

namespace UsageError

/-- The wording of a usage error, in which the piece at fault stands out. -/
def message : UsageError → String
  | .unexpectedArgument argument =>
    "unexpected argument '" ++ Style.fault.apply argument ++ "' found"
  | .unneededValue value switch =>
    "unexpected value '" ++ Style.fault.apply value ++ "' for '" ++
      Style.literal.apply switch.usage ++ "' found; no more were expected"
  | .missingValue parameter =>
    "a value is required for '" ++ Style.fault.apply parameter.usage ++ "' but none was supplied"
  | .invalidValue value parameter error =>
    "invalid value '" ++ Style.fault.apply value ++ "' for '" ++
      Style.literal.apply parameter.usage ++ "': " ++ error.message
  | .repeatedParameter parameter =>
    "the argument '" ++ Style.fault.apply parameter.usage ++ "' cannot be used multiple times"
  | .repeatedSwitch switch =>
    "the argument '" ++ Style.fault.apply switch.usage ++ "' cannot be used multiple times"

/-- Whether the error is about the arguments as a whole, not only about one value. -/
def concernsArguments : UsageError → Bool
  | .unexpectedArgument _ | .unneededValue _ _ | .repeatedParameter _ | .repeatedSwitch _ => true
  | .missingValue _ | .invalidValue _ _ _ => false

/-- The form that arguments have to take. -/
def synopsis : String :=
  Style.heading.apply "Usage:" ++ " " ++ Style.literal.apply "powertide" ++ " [OPTIONS]"

/-- What a terminal is sent about a usage error. -/
def report (error : UsageError) : String :=
  Style.failure.apply "error:" ++ " " ++ error.message ++
    (if error.concernsArguments then "\n\n" ++ synopsis else "") ++
    "\n\nFor more information, try '" ++ Style.literal.apply "--help" ++ "'.\n"

end UsageError

end PowerGovernor.CommandLine
