import ScanConsole.Text.Ranges
import ScanConsole.Text.WordTable

/-!
# Words and their edges

A word character is a letter, mark, digit, connector or join control. An edge
lies between two neighbouring positions exactly one of which holds a word
character; the outside of a text counts as no word character.
-/

namespace ScanConsole.Text

def isWord (c : Char) : Bool :=
  if c.toNat < 0x80 then c.isAlphanum || c == '_' else covers wordRanges c

def isDecimal (c : Char) : Bool :=
  if c.toNat < 0x80 then c.isDigit else covers digitRanges c

/-- Some neighbour is there and is a word character. -/
def isWordAt : Option Char → Bool
  | some c => isWord c
  | none => false

/-- A word begins or ends between these two neighbours. -/
def isWordEdge (before after : Option Char) : Bool :=
  isWordAt before != isWordAt after

end ScanConsole.Text
