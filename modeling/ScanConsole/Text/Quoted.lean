import ScanConsole.Text.Hex
import ScanConsole.Text.PrintableTable
import ScanConsole.Text.Ranges

/-!
# Quoted text for diagnostics

A text between double quotes in which every character can be seen: quote,
backslash and the usual controls have short escapes, anything without a visible
form is written by its code point.
-/

namespace ScanConsole.Text

/-- A character without a visible form. -/
def isUnprintable (c : Char) : Bool :=
  let n := c.toNat
  if n < 0x80 then n < 0x20 || n == 0x7F else covers unprintableRanges c

/-- How one character is written inside the quotes. -/
def quotedChar (c : Char) : List Char :=
  if c == '"' then ['\\', '"']
  else if c == '\\' then ['\\', '\\']
  else if c == '\n' then ['\\', 'n']
  else if c == '\r' then ['\\', 'r']
  else if c == '\t' then ['\\', 't']
  else if c.toNat == 0 then ['\\', '0']
  else if isUnprintable c then ['\\', 'u', '\x7b'] ++ hexDigits c.toNat ++ ['\x7d']
  else [c]

def quoted (s : String) : String :=
  String.ofList ('"' :: s.toList.flatMap quotedChar ++ ['"'])

end ScanConsole.Text
