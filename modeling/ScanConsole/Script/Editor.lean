import ScanConsole.Text.Blank
import ScanConsole.Text.Utf8

/-!
# The script editor

The editor holds a text and a caret, which is counted in bytes of UTF-8. A caret
reported for a text is moved back to the nearest place between two characters,
and to the end of the text at most.
-/

namespace ScanConsole

/-- The greatest boundary between two characters of the text that is at most `caret`, in bytes. -/
def caretWithin : List Char → Nat → Nat
  | [], _ => 0
  | c :: rest, caret =>
    if caret < c.utf8Size then 0 else c.utf8Size + caretWithin rest (caret - c.utf8Size)

/-- A text under edit. -/
structure Editor where
  text : String := ""
  /-- The place of the caret in bytes. -/
  caret : Nat := 0
  deriving DecidableEq, Repr

namespace Editor

/-- An editor with its caret behind the text. -/
def ofText (text : String) : Editor := ⟨text, Text.Utf8.size text.toList⟩

/-- The text after a keystroke, with the caret as near as possible to the one reported. -/
def input (text : String) (caret : Nat) : Editor := ⟨text, caretWithin text.toList caret⟩

def isBlank (e : Editor) : Bool := Text.isBlankText e.text

end Editor

end ScanConsole
