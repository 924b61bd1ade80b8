/-! Blank characters, trimming, and the words of a text. -/

namespace PowerGovernor

/-- The characters that carry the Unicode White_Space property. -/
def isBlank (char : Char) : Bool :=
  -- The property is a short list of code points and two ranges.
  let point := char.toNat
  (0x09 ≤ point && point ≤ 0x0D) || point == 0x20 || point == 0x85 || point == 0xA0 ||
    point == 0x1680 || (0x2000 ≤ point && point ≤ 0x200A) || point == 0x2028 ||
    point == 0x2029 || point == 0x202F || point == 0x205F || point == 0x3000

/-- A text without the blanks it begins with. -/
def trimStart (text : List Char) : List Char :=
  text.dropWhile isBlank

/-- A text without the blanks it ends with. -/
def trimEnd (text : List Char) : List Char :=
  (text.reverse.dropWhile isBlank).reverse

/-- A text without the blanks around it. -/
def trim (text : List Char) : List Char :=
  trimEnd (trimStart text)

/-- Whether a text holds nothing but blanks. -/
def isBlankText (text : List Char) : Bool :=
  text.all isBlank

/-- The longest runs of a text that hold no blank, from left to right. -/
def words (text : List Char) : List (List Char) :=
  (text.splitOnP isBlank).filter fun word => !word.isEmpty

end PowerGovernor
