/-! Texts cut to a precision and padded to a width, both counted in characters. -/

namespace PowerGovernor

/-- The side on which a padded text stands. -/
inductive Alignment where
  | left
  | centre
  | right
deriving DecidableEq

/-- A run of spaces. -/
def spaces (count : Nat) : String :=
  "".pushn ' ' count

/-- Fills a text up to a width with spaces; a centred text has the odd space on its right. -/
def pad (alignment : Alignment) (width : Nat) (text : String) : String :=
  let missing := width - text.length
  match alignment with
  | .left => text ++ spaces missing
  | .centre => spaces (missing / 2) ++ text ++ spaces (missing - missing / 2)
  | .right => spaces missing ++ text

/-- A number of any size, written in decimal and moved to the right of its column. -/
def padNumber (width value : Nat) : String :=
  pad .right width (toString value)

/-- How a text is fitted into a column. -/
structure Column where
  /-- The side the text keeps to. -/
  alignment : Alignment
  /-- The least number of characters written. -/
  width : Nat
  /-- The largest number of characters kept of the text, when there is a limit. -/
  precision : Option Nat

/-- Cuts a text to the column's precision, then pads it to the column's width. -/
def Column.fit (column : Column) (text : String) : String :=
  let kept := match column.precision with
    | some limit => String.ofList (text.toList.take limit)
    | none => text
  pad column.alignment column.width kept

end PowerGovernor
