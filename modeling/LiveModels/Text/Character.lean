import LiveModels.Text.Ranges
import LiveModels.Text.Table.WordCharacter
import LiveModels.Text.Table.Alphanumeric
import LiveModels.Text.Table.DecimalDigit
import LiveModels.Text.Table.Escaped

/-!
# Classes of characters

Word characters, alphanumeric characters, digits, and the characters that quoted text shows as
themselves. Each class is spelled out for ASCII and read from a table beyond it.
-/

namespace LiveModels.Text

/-- Whether a character is an ASCII letter or digit. -/
def isAsciiAlphanumeric (c : Char) : Bool :=
  c.isAlphanum

/-- Whether a character may stand in a word: a letter, mark, decimal digit or connector. -/
def isWordCharacter (c : Char) : Bool :=
  if c.toNat < 0x80 then c.isAlphanum || c == '_' else inside Table.wordCharacter c.toNat

/-- Whether a character is alphabetic or numeric. -/
def isAlphanumeric (c : Char) : Bool :=
  if c.toNat < 0x80 then c.isAlphanum else inside Table.alphanumeric c.toNat

/-- Whether a character is a decimal digit of some script. -/
def isDecimalDigit (c : Char) : Bool :=
  if c.toNat < 0x80 then c.isDigit else inside Table.decimalDigit c.toNat

/-- Whether a character is one of the sixteen digits that lower-case hexadecimal text uses. -/
def isLowerHex (c : Char) : Bool :=
  c.isDigit || (decide ('a' ≤ c) && decide (c ≤ 'f'))

/-- Whether a character stands for itself in quoted text. -/
def isShown (c : Char) : Bool :=
  if c.toNat < 0x7f then decide (0x20 ≤ c.toNat) else !inside Table.escaped c.toNat

end LiveModels.Text
