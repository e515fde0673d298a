import ScanConsole.Text.Hex
import ScanConsole.Text.Utf8

/-!
# Percent encoding

Each part of an address has a set of characters that are written as `%` and two
hexadecimal digits a byte. Characters outside ASCII and controls are always
written so. A percent sign never is, so what is encoded already stays as it is.
-/

namespace ScanConsole.Url

def percentByte (b : UInt8) : List Char := ['%', Text.hexCapital (b.toNat / 16), Text.hexCapital (b.toNat % 16)]

/-- A control, or a character outside ASCII. -/
def isControl (c : Char) : Bool := c.toNat < 0x20 || 0x7E < c.toNat

/-- The characters encoded in a fragment. -/
def inFragmentSet (c : Char) : Bool := isControl c || " \"<>\x60".toList.contains c

/-- The characters encoded in a query. -/
def inQuerySet (c : Char) : Bool := isControl c || " \"#<>".toList.contains c

/-- The characters encoded in the query of a special scheme. -/
def inSpecialQuerySet (c : Char) : Bool := inQuerySet c || c == '\x27'

/-- The characters encoded in a segment of a path. -/
def inPathSet (c : Char) : Bool := inFragmentSet c || "#?\x7b\x7d".toList.contains c

/-- The characters encoded in a user name or password. -/
def inUserSet (c : Char) : Bool := inPathSet c || "/:;=@[\\]^|".toList.contains c

/-- A text with the characters of a set encoded. -/
def percentEncode (inSet : Char → Bool) (s : List Char) : List Char :=
  s.flatMap fun c => if inSet c then (Text.Utf8.encode [c]).flatMap percentByte else [c]

/-- The bytes that a text stands for; a percent sign without two digits stands for itself. -/
def percentDecode : List Char → List UInt8
  | [] => []
  | '%' :: a :: b :: rest =>
    match Text.hexValue? a, Text.hexValue? b with
    | some x, some y => UInt8.ofNat (16 * x + y) :: percentDecode rest
    | _, _ => 0x25 :: percentDecode (a :: b :: rest)
  | c :: rest => Text.Utf8.encode [c] ++ percentDecode rest
  termination_by s => s.length

end ScanConsole.Url
