import ScanConsole.Json.Document
import ScanConsole.Text.Hex

/-!
# Writing JSON

The compact form: no blanks, fields in the order of the list, and in strings
only the quote, the backslash and the controls below the space escaped, the
latter by their short names where there are any.
-/

namespace ScanConsole.Json

/-- How one character is written inside a string. -/
def writeChar (c : Char) : List Char :=
  if c == '"' then ['\\', '"']
  else if c == '\\' then ['\\', '\\']
  else if c == '\x08' then ['\\', 'b']
  else if c == '\x0c' then ['\\', 'f']
  else if c == '\n' then ['\\', 'n']
  else if c == '\r' then ['\\', 'r']
  else if c == '\t' then ['\\', 't']
  else if c.toNat < 0x20 then
    ['\\', 'u', '0', '0', Text.hexDigit (c.toNat / 16), Text.hexDigit (c.toNat % 16)]
  else [c]

def writeString (s : String) : List Char := '"' :: s.toList.flatMap writeChar ++ ['"']

mutual

def Value.write : Value → List Char
  | .null => ['n', 'u', 'l', 'l']
  | .boolean true => ['t', 'r', 'u', 'e']
  | .boolean false => ['f', 'a', 'l', 's', 'e']
  | .number n => n.text.toList
  | .string s => writeString s
  | .array items => '[' :: writeItems items ++ [']']
  | .object fields => '\x7b' :: writeFields fields ++ ['\x7d']

def Value.writeItems : List Value → List Char
  | [] => []
  | [v] => v.write
  | v :: rest => v.write ++ ',' :: writeItems rest

def Value.writeFields : List (String × Value) → List Char
  | [] => []
  | [(name, v)] => writeString name ++ ':' :: v.write
  | (name, v) :: rest => writeString name ++ ':' :: v.write ++ ',' :: writeFields rest

end

def Value.compact (v : Value) : String := String.ofList v.write

end ScanConsole.Json
