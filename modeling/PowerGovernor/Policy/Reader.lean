import PowerGovernor.Policy.Spec
import PowerGovernor.Text.Blank
import PowerGovernor.Text.Numeral

/-! Reading a policy state from a name and a list of settings. -/

namespace PowerGovernor.Policy

/-- Why a text describes no policy state. -/
inductive SpecError where
  | malformed (text : String)
  | unknownKey (key : String)
  | badValue (key value : String)
deriving DecidableEq

/-- The wording of a state description error. -/
def SpecError.message : SpecError → String
  | .malformed text => "state spec must look like 'name:key=value,...', got '" ++ text ++ "'"
  | .unknownKey key => "unknown state key '" ++ key ++ "'"
  | .badValue key value => "bad value '" ++ value ++ "' for '" ++ key ++ "'"

/-- The characters that a state's name is made of. -/
def isNameChar (char : Char) : Bool :=
  char.isAlphanum || char == '_' || char == '.' || char == '-'

/-- The characters that a setting's key is made of. -/
def isKeyChar (char : Char) : Bool :=
  char.isLower || char == '_'

/-- One setting of a state. -/
inductive Setting where
  | workload (value : UInt32)
  | systemPercent (value : UInt32)
  | cpuPercent (value : UInt32)
  | cpuExitPercent (value : UInt32)
  | gfxPercent (value : UInt32)
  | marginPoints (value : UInt32)
  | minInterval (value : UInt32)
  | maxInterval (value : UInt32)
  | increment (value : Increment)
  | activeCpus (value : String)
  | irq (value : IrqPolicy)
  | epp (value : UInt32)
  | epb (value : UInt32)
  | itmt (value : UInt32)
deriving DecidableEq

/-- The state with one setting replaced. -/
def Setting.apply (spec : Spec) : Setting → Spec
  | .workload value => { spec with workload := some value }
  | .systemPercent value => { spec with systemPercent := value }
  | .cpuPercent value => { spec with cpuPercent := value }
  | .cpuExitPercent value => { spec with cpuExitPercent := value }
  | .gfxPercent value => { spec with gfxPercent := value }
  | .marginPoints value => { spec with marginPoints := value }
  | .minInterval value => { spec with minInterval := value }
  | .maxInterval value => { spec with maxInterval := value }
  | .increment value => { spec with increment := some value }
  | .activeCpus value => { spec with activeCpus := value }
  | .irq value => { spec with irq := value }
  | .epp value => { spec with epp := some value }
  | .epb value => { spec with epb := some value }
  | .itmt value => { spec with itmt := some value }

/-- Reads the value of a poll increment: a word, or a number of milliseconds. -/
def readIncrement? (value : List Char) : Option Increment :=
  if value = "adaptive".toList then some .adaptive
  else if value = "passthrough".toList then some .passthrough
  else (readWord32? value).map .fixed

/-- Reads the value of an interrupt policy. -/
def readIrq? (value : List Char) : Option IrqPolicy :=
  if value = "on".toList then some .enable
  else if value = "off".toList then some .disable
  else if value = "ignore".toList then some .ignore
  else none

/-- A CPU list in which semicolons stand for the commas. -/
def cpuListOfValue (value : List Char) : String :=
  String.ofList (value.map fun char => if char = ';' then ',' else char)

/-- The keys of the settings, and how each value is read. -/
def settingReader? (key : String) : Option (List Char → Option Setting) :=
  match key with
  | "wlt" => some fun value => (readWord32? value).map .workload
  | "sys" => some fun value => (readWord32? value).map .systemPercent
  | "cpu" => some fun value => (readWord32? value).map .cpuPercent
  | "exit_cpu" => some fun value => (readWord32? value).map .cpuExitPercent
  | "gfx" => some fun value => (readWord32? value).map .gfxPercent
  | "hyst_bp" => some fun value => (readWord32? value).map .marginPoints
  | "min_ms" => some fun value => (readWord32? value).map .minInterval
  | "max_ms" => some fun value => (readWord32? value).map .maxInterval
  | "inc" => some fun value => (readIncrement? value).map .increment
  | "cpus" => some fun value => some (.activeCpus (cpuListOfValue value))
  | "irq" => some fun value => (readIrq? value).map .irq
  | "epp" => some fun value => (readWord32? value).map .epp
  | "epb" => some fun value => (readWord32? value).map .epb
  | "itmt" => some fun value => (readWord32? value).map .itmt
  | _ => none

/-- Splits a piece into its key and its value, if it has the form of a setting. -/
def splitSetting? (piece : List Char) : Option (List Char × List Char) :=
  -- Blanks may stand around the key and around the value, and the value holds no equals sign.
  let start := trimStart piece
  let key := start.takeWhile isKeyChar
  match trimStart (start.dropWhile isKeyChar) with
  | '=' :: value =>
    if key.isEmpty || value.contains '=' then none else some (key, trim value)
  | _ => none

/-- Reads one setting from a piece of a description. -/
def readSetting (piece : List Char) : Except SpecError Setting :=
  match splitSetting? piece with
  | none => .error (.malformed (String.ofList piece))
  | some (key, value) =>
    match settingReader? (String.ofList key) with
    | none => .error (.unknownKey (String.ofList key))
    | some reader =>
      match reader value with
      | none => .error (.badValue (String.ofList key) (String.ofList value))
      | some setting => .ok setting

/-- Splits a trimmed description into its name and its body, if it has the right form. -/
def splitSpec? (text : List Char) : Option (List Char × List Char) :=
  let name := text.takeWhile isNameChar
  if name.isEmpty then none
  else
    match text.dropWhile isNameChar with
    | [] => some (name, [])
    | ':' :: body => if body.contains '\n' then none else some (name, body)
    | _ => none

/-- The pieces of a body between commas, without the blank ones. -/
def settingPieces (body : List Char) : List (List Char) :=
  (body.splitOn ',').filter fun piece => !isBlankText piece

/-- Reads a state; of several settings with one key the last one holds. -/
def Spec.read (text : String) : Except SpecError Spec :=
  match splitSpec? (trim text.toList) with
  | none => .error (.malformed text)
  | some (name, body) => do
    let settings ← (settingPieces body).mapM readSetting
    return settings.foldl Setting.apply { name := String.ofList name }

end PowerGovernor.Policy
