/-! Messages that the controller reports beside its results. -/

namespace PowerGovernor

/-- How important a message is. -/
inductive Severity where
  | debug
  | info
  | warn
deriving DecidableEq

/-- Severities by growing importance. -/
def Severity.rank : Severity → Nat
  | .debug => 0
  | .info => 1
  | .warn => 2

/-- The name that stands before a message. -/
def Severity.label : Severity → String
  | .debug => "DEBUG"
  | .info => "INFO"
  | .warn => "WARN"

/-- One reported message. -/
structure Note where
  /-- The importance of the message. -/
  severity : Severity
  /-- The wording of the message. -/
  text : String
deriving DecidableEq

/-- A message for tracing. -/
def Note.debug (text : String) : Note := ⟨.debug, text⟩

/-- A message about the normal course. -/
def Note.info (text : String) : Note := ⟨.info, text⟩

/-- A message about something that failed. -/
def Note.warn (text : String) : Note := ⟨.warn, text⟩

/-- A message behind the name of its severity. -/
def Note.line (note : Note) : String :=
  note.severity.label ++ " " ++ note.text

/-- The messages that are at least as important as a threshold. -/
def Note.atLeast (threshold : Severity) (notes : List Note) : List Note :=
  notes.filter fun note => threshold.rank ≤ note.severity.rank

/-- An optional item inside a message. -/
def describeOption : Option String → String
  | some item => "Some(" ++ item ++ ")"
  | none => "None"

end PowerGovernor
