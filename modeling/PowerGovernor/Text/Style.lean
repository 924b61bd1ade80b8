import PowerGovernor.Text.ControlSequence

/-! Styles of text on a terminal, which leave no trace in a plain text. -/

namespace PowerGovernor

/-- How a terminal shows a piece of text. -/
inductive Style where
  /-- The mark of a failure, bold and red. -/
  | failure
  /-- A piece that is at fault, yellow. -/
  | fault
  /-- A piece to be typed as it stands, bold. -/
  | literal
  /-- A heading, bold and underlined. -/
  | heading
deriving DecidableEq

/-- The control sequences that begin a style. -/
def Style.opening : Style → String
  | .failure => "\x1b[1m\x1b[31m"
  | .fault => "\x1b[33m"
  | .literal => "\x1b[1m"
  | .heading => "\x1b[1m\x1b[4m"

/-- The control sequence that ends every style. -/
def Style.closing : String := "\x1b[0m"

/-- A text shown in a style. -/
def Style.apply (style : Style) (text : String) : String :=
  style.opening ++ text ++ Style.closing

end PowerGovernor
