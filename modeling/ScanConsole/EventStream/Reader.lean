import ScanConsole.Text.Utf8
import ScanConsole.Text.Lines
import ScanConsole.Text.Search

/-!
# Event streams

A stream of events is text in lines that end with a line feed. A line `data: …`
adds to the payload of the event in progress, an empty line ends the event, and
any other line is skipped; what is left unfinished at the end is dropped. A
`Reader` takes the bytes one at a time, so it does not matter how they were cut
into chunks.
-/

namespace ScanConsole.EventStream

/-- An event stream read up to some point. -/
structure Reader where
  /-- The bytes of the open line, the last one first. -/
  line : List UInt8 := []
  /-- The payload lines of the event in progress, the last one first. -/
  data : List (List Char) := []
  deriving DecidableEq, Repr

/-- The name and the value of a field: they stand around the first colon, and one space behind the
colon belongs to neither. -/
def splitField (line : List Char) : List Char × List Char :=
  match Text.splitOnce? ':' line with
  | some (name, ' ' :: value) => (name, value)
  | some (name, value) => (name, value)
  | none => (line, [])

/-- A payload: its lines joined. -/
def payload (data : List (List Char)) : String :=
  String.ofList (['\n'].intercalate data)

namespace Reader

/-- A finished line, and the payload it completes. -/
def finishLine (r : Reader) (line : List Char) : Reader × Option String :=
  match line with
  | [] =>
    if r.data.isEmpty then ({ r with line := [] }, none) else ({}, some (payload r.data.reverse))
  | ':' :: _ => ({ r with line := [] }, none)
  | line =>
    let (name, value) := splitField line
    if name == "data".toList then ({ line := [], data := value :: r.data }, none)
    else ({ r with line := [] }, none)

/-- One byte, and the payload it completes. -/
def push (r : Reader) (b : UInt8) : Reader × Option String :=
  if b == 10 then r.finishLine (Text.dropReturn (Text.Utf8.decodeLossy r.line.reverse))
  else ({ r with line := b :: r.line }, none)

/-- A chunk, and the payloads that it completes. -/
def feed (r : Reader) : List UInt8 → Reader × List String
  | [] => (r, [])
  | b :: rest =>
    let (r, done) := r.push b
    let (r, more) := r.feed rest
    (r, done.toList ++ more)

end Reader

/-- A piece of a body as it arrives: bytes, or a failure of the connection. -/
inductive Chunk where
  | bytes (bytes : List UInt8)
  | failure (reason : String)
  deriving DecidableEq, Repr

/-- What a body gives: payloads and failures in their order. -/
inductive Item where
  | payload (text : String)
  | failure (reason : String)
  deriving DecidableEq, Repr

/-- What the rest of a body gives. -/
def itemsFrom (r : Reader) : List Chunk → List Item
  | [] => []
  | .bytes bytes :: rest =>
    let (r, payloads) := r.feed bytes
    payloads.map Item.payload ++ itemsFrom r rest
  | .failure reason :: rest => .failure reason :: itemsFrom r rest

def items (chunks : List Chunk) : List Item := itemsFrom {} chunks

/-- The payloads of each chunk in turn. -/
def feedEach (r : Reader) : List (List UInt8) → List (List String)
  | [] => []
  | chunk :: rest =>
    let (r, payloads) := r.feed chunk
    payloads :: feedEach r rest

end ScanConsole.EventStream
