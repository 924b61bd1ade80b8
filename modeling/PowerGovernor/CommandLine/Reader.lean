import PowerGovernor.CommandLine.Usage

/-! Reading the arguments of the command line from left to right. -/

namespace PowerGovernor.CommandLine

/-- Reads a number of 32 bits; one that is only too large or negative is out of range. -/
def readValue32 (value : String) : Except ValueError UInt32 :=
  match readSigned64 value.toList with
  | .error error => .error (.numeral error)
  | .ok number =>
    if 0 ≤ number ∧ number ≤ maxWord32 then .ok number.toNat.toUInt32
    else .error (.outOfRange number)

/-- Reads a number of 64 bits. -/
def readValue64 (value : String) : Except ValueError UInt64 :=
  match readUnsigned maxWord64 value.toList with
  | .error error => .error (.numeral error)
  | .ok number => .ok number.toUInt64

/-- The options with one value set. -/
def Parameter.set (parameter : Parameter) (value : String) (options : Options) :
    Except ValueError Options :=
  match parameter with
  | .entryThreshold => (readValue32 value).map fun number =>
    { options with entryThreshold := number }
  | .exitThreshold => (readValue32 value).map fun number =>
    { options with exitThreshold := number }
  | .entryInterval => (readValue32 value).map fun number =>
    { options with entryInterval := number }
  | .exitInterval => (readValue32 value).map fun number =>
    { options with exitInterval := number }
  | .entryDwell => (readValue64 value).map fun number => { options with entryDwell := number }
  | .exitDwell => (readValue64 value).map fun number => { options with exitDwell := number }
  | .workload => (readValue32 value).map fun number => { options with workload := some number }
  | .ticks => (readValue64 value).map fun number => { options with ticks := some number }
  | .state =>
    match Policy.Spec.read value with
    | .ok spec => .ok { options with states := options.states ++ [spec] }
    | .error error => .error (.state error)

/-- How far the arguments have been read. -/
structure Progress where
  /-- The options set so far. -/
  options : Options := {}
  /-- The options that have been given a value. -/
  given : List Parameter := []
  /-- The option that was named last, with its value once that is known. -/
  pending : Option (Parameter × Option String) := none

namespace Progress

/-- Gives an option its value. -/
def give (progress : Progress) (parameter : Parameter) (value : String) :
    Except UsageError Progress :=
  if progress.given.contains parameter && !parameter.repeatable then
    .error (.repeatedParameter parameter)
  else
    match parameter.set value progress.options with
    | .error error => .error (.invalidValue value parameter error)
    | .ok options => .ok { options, given := parameter :: progress.given, pending := none }

/-- Gives the option that was named last its value. -/
def settle (progress : Progress) : Except UsageError Progress :=
  match progress.pending with
  | none => .ok progress
  | some (parameter, none) => .error (.missingValue parameter)
  | some (parameter, some value) => progress.give parameter value

/-- Turns a switch on. -/
def turnOn (progress : Progress) (switch : Switch) : Except UsageError Progress :=
  if progress.options.has switch then .error (.repeatedSwitch switch)
  else
    .ok { progress with
      options := { progress.options with switches := switch :: progress.options.switches } }

end Progress

/-- What the command line asks for. -/
inductive Request where
  | help
  | run (options : Options)

/-- The form of one argument. -/
inductive ArgumentForm where
  | separator
  | long (name : String) (value : Option String)
  | short (first : Char)
  | plain (text : String)

/-- Tells the form of an argument by its dashes. -/
def ArgumentForm.of (argument : String) : ArgumentForm :=
  match argument.toList with
  | ['-', '-'] => .separator
  | '-' :: '-' :: rest =>
    let name := String.ofList (rest.takeWhile fun char => char != '=')
    match rest.dropWhile fun char => char != '=' with
    | [] => .long name none
    | _ :: value => .long name (some (String.ofList value))
  | '-' :: first :: _ => .short first
  | _ => .plain argument

/-- Reads the arguments behind the separator: there must be none. -/
def readTrailing (progress : Progress) : List String → Except UsageError Request
  | [] => progress.settle.map fun progress => .run progress.options
  | argument :: _ => .error (.unexpectedArgument argument)

/-- Reads arguments; an option that was named last gets its value before the next one is met. -/
def readFrom (progress : Progress) : List String → Except UsageError Request
  | [] => progress.settle.map fun progress => .run progress.options
  | argument :: rest =>
    match ArgumentForm.of argument with
    | .separator => readTrailing progress rest
    | .short first =>
      -- The only short option is the one for help.
      if first = 'h' then progress.settle.map fun _ => .help
      else .error (.unexpectedArgument (String.ofList ['-', first]))
    | .plain text =>
      match progress.pending with
      | some (parameter, none) =>
        readFrom { progress with pending := some (parameter, some text) } rest
      | _ => .error (.unexpectedArgument text)
    | .long name value =>
      match Parameter.all.find? fun parameter => parameter.name == name with
      | some parameter => do
        let progress ← progress.settle
        match value with
        | some value => readFrom (← progress.give parameter value) rest
        | none => readFrom { progress with pending := some (parameter, none) } rest
      | none =>
        match Switch.all.find? fun switch => switch.name == name, value with
        | some switch, some value => .error (.unneededValue value switch)
        | some switch, none => do
          let progress ← progress.settle
          if switch = .help then return .help
          readFrom (← progress.turnOn switch) rest
        | none, _ => .error (.unexpectedArgument ("--" ++ name))

/-- Reads all arguments. -/
def read (arguments : List String) : Except UsageError Request :=
  readFrom {} arguments

end PowerGovernor.CommandLine
