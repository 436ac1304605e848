/-!
# Characters of YAML texts

The characters that a YAML text may hold, its line breaks and its blanks.
-/

namespace WorkloadForms.Yaml

/-- The next-line control character. -/
def nextLine : Char := Char.ofNat 0x85

/-- The line separator and the paragraph separator. -/
def isSeparator (c : Char) : Bool := c.toNat == 0x2028 || c.toNat == 0x2029

/-- A character that ends a line. -/
def isBreak (c : Char) : Bool := c == '\n' || c == '\r' || c == nextLine || isSeparator c

/-- A space or a tab. -/
def isGap (c : Char) : Bool := c == ' ' || c == '\t'

/-- A blank or a line break. -/
def isGapOrBreak (c : Char) : Bool := isGap c || isBreak c

/-- Whether a word ends before this place: at a blank, a break or the end of the text. -/
def endsWord : Option Char → Bool
  | none => true
  | some c => isGapOrBreak c

/-- A character that may stand in a text. -/
def isPermitted (c : Char) : Bool :=
  let n := c.toNat
  n == 0x09 || n == 0x0A || n == 0x0D || (0x20 ≤ n && n ≤ 0x7E) || n == 0x85
    || (0xA0 ≤ n && n ≤ 0xD7FF) || (0xE000 ≤ n && n ≤ 0xFFFD) || 0x10000 ≤ n

/-- The mark of byte order. -/
def byteOrderMark : Char := Char.ofNat 0xFEFF

/-- A character that is written as it stands. Of the permitted ones the tab, the carriage return,
the next-line character and the mark of byte order are not. -/
def isPrintable (c : Char) : Bool :=
  let n := c.toNat
  n == 0x0A || (0x20 ≤ n && n ≤ 0x7E) || (0xA0 ≤ n && n ≤ 0xD7FF)
    || (0xE000 ≤ n && n ≤ 0xFFFD && n != 0xFEFF) || 0x10000 ≤ n

/-- The brackets and the comma of flow collections. -/
def isFlowIndicator (c : Char) : Bool :=
  c == ',' || c == '[' || c == ']' || c == '\x7b' || c == '\x7d'

end WorkloadForms.Yaml
