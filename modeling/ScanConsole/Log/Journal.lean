import ScanConsole.Log.Buffer
import ScanConsole.Log.Filter
import ScanConsole.Text.Hex

/-!
# The journal

The journal writes the records that its filter allows to its buffer, one line
each unless the message has line feeds of its own. Controls that a terminal
would obey are written as text.
-/

namespace ScanConsole.Log

/-- How a character of a message is written. -/
def shownChar (c : Char) : List Char :=
  let n := c.toNat
  if n == 0x1b || n == 0x07 || n == 0x08 || n == 0x0c || n == 0x7f then
    ['\\', 'x'] ++ (if n < 16 then ['0'] else []) ++ Text.hexDigits n
  else if 0x80 ≤ n && n ≤ 0x9f then ['\\', 'u', '\x7b'] ++ Text.hexDigits n ++ ['\x7d']
  else [c]

/-- A record as it is written: the level in five places, the origin and the message. -/
def Record.text (r : Record) : String :=
  String.ofList (List.replicate (5 - r.level.name.length) ' ') ++ r.level.name ++ " " ++
    r.origin.path ++ ": " ++ String.ofList (r.message.toList.flatMap shownChar)

/-- A filter and the buffer behind it. -/
structure Journal where
  filter : Filter
  buffer : Buffer := {}

namespace Journal

def record (j : Journal) (r : Record) : Journal :=
  if j.filter.allows r then
    { j with buffer := j.buffer.write (Text.Utf8.bytesOf (r.text ++ "\n")) }
  else j

def recordAll (j : Journal) (rs : List Record) : Journal := rs.foldl record j

/-- What is reported when error reporting is set up without an address to report to. -/
def reportingUnavailable : Record := ⟨.error, .logger, "Sentry initialization failed"⟩

end Journal

end ScanConsole.Log
