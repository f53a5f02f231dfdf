import MailMerge.Text.Alphabetic
import MailMerge.Text.Mark
import MailMerge.Text.Numeric
/-!
Word characters, by the Unicode definition: alphabetic characters, marks, decimal digits, connector
punctuation and the two joiners. A word boundary lies where such a character meets another one or
the end of the text.
-/

namespace MailMerge.Text

/-- Connector punctuation beyond ASCII. -/
def connectors : CodeRanges := [
  (0x203F, 0x2040), (0x2054, 0x2054), (0xFE33, 0xFE34), (0xFE4D, 0xFE4F), (0xFF3F, 0xFF3F)]

/-- A letter, mark, digit, connector or joiner. -/
def isWordChar (c : Char) : Bool :=
  if c.toNat < 0x80 then c.isAlphanum || c == '_'
  else isAlphabetic c || isMark c || isDecimalDigit c || connectors.covers c ||
    c == '\u200C' || c == '\u200D'

/-- An alphabetic or numeric character. -/
def isAlphanumeric (c : Char) : Bool := isAlphabetic c || isNumeric c

end MailMerge.Text
