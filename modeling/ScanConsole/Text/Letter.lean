import ScanConsole.Text.LetterTable
import ScanConsole.Text.Ranges

/-!
# Letters and numbers

What a name in any script is spelled with: `isAlphabetic` characters and
`isNumeric` ones. A number need not be a decimal digit: roman numerals and
fractions are numbers too.
-/

namespace ScanConsole.Text

/-- A letter, or a sign that stands for a sound, of any script. -/
def isAlphabetic (c : Char) : Bool :=
  if c.toNat < 0x80 then c.isAlpha else covers alphabeticRanges c

/-- A digit or another number of any script. -/
def isNumeric (c : Char) : Bool :=
  if c.toNat < 0x80 then c.isDigit else covers numberRanges c

/-- A letter or a number. -/
def isAlphanumeric (c : Char) : Bool := isAlphabetic c || isNumeric c

end ScanConsole.Text
