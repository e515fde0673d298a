import ScanConsole.Log.Mask
import ScanConsole.Text.Lines

/-!
# The log in memory

The buffer keeps the latest lines, newest first, each with its secrets masked.
Lines that show nothing are not kept. A reader asks for all lines, or for those
written since it asked last.
-/

namespace ScanConsole.Log

def bufferLimit : Nat := 20000

structure Buffer where
  /-- The lines, newest first. -/
  lines : List String := []
  /-- How many of them have not been asked for yet. -/
  unread : Nat := 0
  deriving DecidableEq, Repr

namespace Buffer

/-- The lines that some bytes leave in the log, in their order. -/
def linesOf (bytes : List UInt8) : List String :=
  ((Text.lines (Text.Utf8.decodeLossy bytes)).filter fun l => !Text.allBlank l).map fun l =>
    String.ofList (mask l)

/-- Lines added, the last of them the newest. -/
def append (b : Buffer) (fresh : List String) : Buffer where
  lines := (fresh.reverseAux b.lines).take bufferLimit
  unread := min bufferLimit (b.unread + fresh.length)

/-- Bytes written. All of them are taken. -/
def write (b : Buffer) (bytes : List UInt8) : Buffer := b.append (linesOf bytes)

/-- Lines as text, each behind a line feed. -/
def textOf (lines : List String) : String := String.join (lines.map fun l => "\n" ++ l)

def unreadLines (b : Buffer) : List String := b.lines.take b.unread

/-- The buffer after its unread lines have been read. -/
def markRead (b : Buffer) : Buffer := { b with unread := 0 }

inductive Request where
  /-- To take these bytes. -/
  | write (bytes : List UInt8)
  /-- For the lines since this was asked last. -/
  | fresh
  /-- For all lines. -/
  | all
  deriving DecidableEq, Repr

inductive Reply where
  /-- So many bytes have been taken. -/
  | taken (count : Nat)
  | fresh (text : String)
  | all (text : String)
  deriving DecidableEq, Repr

/-- The answer to a request, and the buffer after it. -/
def serve (b : Buffer) : Request → Reply × Buffer
  | .write bytes => (.taken bytes.length, b.write bytes)
  | .fresh => (.fresh (textOf b.unreadLines), b.markRead)
  | .all => (.all (textOf b.lines), b)

/-- The answers to several requests, one after the other, and the buffer after them. -/
def serveAll (b : Buffer) : List Request → List Reply × Buffer
  | [] => ([], b)
  | r :: rest =>
    let (reply, b) := b.serve r
    let (replies, b) := serveAll b rest
    (reply :: replies, b)

end Buffer

end ScanConsole.Log
