/-! Control sequences of terminals, and what a text reads like without them. -/

namespace PowerGovernor

/-- Where a reader of control sequences stands between two characters. -/
inductive SequenceState where
  /-- Outside every sequence. -/
  | text
  /-- Behind an escape character. -/
  | escape
  /-- Behind an escape character and characters that wait for a final one. -/
  | escapeIntermediate
  /-- In a control sequence, which a letter ends. -/
  | control
  /-- At the start of a device control string. -/
  | deviceStart
  /-- In the parameters of a device control string. -/
  | deviceParameter
  /-- Behind the parameters of a device control string. -/
  | deviceIntermediate
  /-- In a string, which the string terminator ends. -/
  | string
  /-- In a command to the operating system, which a bell ends. -/
  | command
deriving DecidableEq

/-- The code point of the escape character. -/
def escapePoint : Nat := 0x1B

/-- The code points that cancel a sequence. -/
def isCancel (point : Nat) : Bool :=
  point == 0x18 || point == 0x1A

/-- Whether a code point lies between two others. -/
def isBetween (low high point : Nat) : Bool :=
  low ≤ point && point ≤ high

/-- The string terminator as a single byte. -/
def stringTerminator : UInt8 := 0x9C

/-- Whether a character ends a string, which it does with any of its bytes. -/
def endsString (char : Char) : Bool :=
  (String.utf8EncodeChar char).contains stringTerminator

namespace SequenceState

/-- The state behind an escape character and one more character. -/
def afterEscape (point : Nat) : SequenceState :=
  if point = '['.toNat then .control
  else if point = ']'.toNat then .command
  else if point = 'P'.toNat then .deviceStart
  else if point = 'X'.toNat || point = '^'.toNat || point = '_'.toNat then .string
  else if isBetween 0x20 0x2F point then .escapeIntermediate
  else if isBetween 0x30 0x7E point then .text
  else .escape

/-- The state after a character that neither begins nor cancels a sequence. -/
def advance (state : SequenceState) (char : Char) : SequenceState :=
  let point := char.toNat
  match state with
  | .text => .text
  | .escape => afterEscape point
  | .escapeIntermediate => if isBetween 0x30 0x7E point then .text else .escapeIntermediate
  | .control => if isBetween 0x40 0x7E point then .text else .control
  | .deviceStart =>
    if isBetween 0x20 0x2F point then .deviceIntermediate
    else if isBetween 0x30 0x3F point then .deviceParameter
    else if isBetween 0x40 0x7E point then .string
    else .deviceStart
  | .deviceParameter =>
    if isBetween 0x20 0x2F point then .deviceIntermediate
    else if isBetween 0x3C 0x7E point then .string
    else .deviceParameter
  | .deviceIntermediate => if isBetween 0x30 0x7E point then .string else .deviceIntermediate
  | .string => if endsString char then .text else .string
  | .command => if point = 0x07 then .text else .command

/-- The state after a character; an escape character begins a sequence in every state. -/
def next (state : SequenceState) (char : Char) : SequenceState :=
  if char.toNat = escapePoint then .escape
  else if isCancel char.toNat then .text
  else state.advance char

end SequenceState

/-- The control characters that only lay out a text. -/
def isLayout (char : Char) : Bool :=
  char == '\t' || char == '\n' || char == '\x0c' || char == '\r'

/-- Whether a character outside every sequence can be seen. -/
def isVisible (char : Char) : Bool :=
  isLayout char || (0x20 ≤ char.toNat && char.toNat != 0x7F)

/-- Whether a character can be seen in a state; layout shows through the shorter sequences. -/
def SequenceState.shows (state : SequenceState) (char : Char) : Bool :=
  match state with
  | .text => isVisible char
  | .escape | .escapeIntermediate | .control => isLayout char
  | .deviceStart | .deviceParameter | .deviceIntermediate | .string | .command => false

/-- The state by which a character is judged: a suspended sequence lets everything be text. -/
def SequenceState.effective (state : SequenceState) (suspended : Bool) : SequenceState :=
  if suspended then .text else state

/-- The visible characters of a text that begins in some state. A visible character suspends the
sequence around it: everything is text up to the next character that cannot be seen, which resumes
the sequence, unless a character outside ASCII has ended it for good. -/
def visibleFrom (state : SequenceState) (suspended : Bool) : List Char → List Char
  | [] => []
  | char :: rest =>
    if (state.effective suspended).shows char then
      char :: visibleFrom (if char.toNat < 0x80 then state else .text) true rest
    else visibleFrom (state.next char) false rest

/-- A text without its control sequences and without the control characters outside of them. -/
def plainText (text : String) : String :=
  String.ofList (visibleFrom .text false text.toList)

end PowerGovernor
