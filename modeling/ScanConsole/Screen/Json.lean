import ScanConsole.Json.Decoder
import ScanConsole.Json.Printer
import ScanConsole.Screen.Basic
import ScanConsole.Text.Blank

/-!
# Result screens in JSON

The items of a screen may be any values. In a table an array is a row of cells
and a string a row of words; anything else is a row of one cell. Among lines an
array is one line, its cells joined by spaces. A value that is no string is
shown as it is written, and `null` as nothing.
-/

namespace ScanConsole

open Json (Decoder Value)

namespace Screen

/-- A value as the text of a cell. -/
def cellText : Value → String
  | .string s => s
  | .null => ""
  | v => v.compact

def row : Value → List String
  | .array cells => cells.map cellText
  | .string line => (Text.words line.toList).map String.ofList
  | v => [cellText v]

def line : Value → String
  | .array cells => " ".intercalate (cells.map cellText)
  | v => cellText v

/-- The items of a screen, of a table or not. -/
def contentOf (isTable : Bool) (items : List Value) : ScreenContent :=
  if isTable then .table (items.map row) else .lines (items.map line)

/-- A screen, whose fields may all be absent. -/
def decoder : Decoder Screen := fun room d =>
  match Decoder.fields [["screen_name"], ["is_table"], ["content"]] room d with
  | some (room, [name, isTable, content]) => do
    let name ← Decoder.defaulted "" Decoder.string room name
    let isTable ← Decoder.defaulted false Decoder.boolean room isTable
    let items ← Decoder.defaulted [] (Decoder.list Decoder.value) room content
    some ⟨name, contentOf isTable items⟩
  | _ => none

def contentJson : ScreenContent → Value
  | .lines lines => Value.ofStrings lines
  | .table rows => .array (rows.map Value.ofStrings)

def toJson (s : Screen) : Value :=
  .object [("screen_name", .string s.name), ("is_table", .boolean s.content.isTable),
    ("content", contentJson s.content)]

end Screen

end ScanConsole
