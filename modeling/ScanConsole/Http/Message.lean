import ScanConsole.Failure
import ScanConsole.Http.Token
import ScanConsole.Text.Utf8
import ScanConsole.Url.Basic

/-!
# Requests and replies

What goes over the network. The body of a reply comes in chunks and may break
off; then it can still be read piece by piece, but not as a whole. Bodies are
text in UTF-8: a reply that declares another charset is not among these, nor one
whose body begins with a byte order mark of UTF-16, which would be read as such.
-/

namespace ScanConsole.Http

structure Request where
  method : String
  url : Url
  headers : List (String × String) := []
  body : Option String := none
  deriving DecidableEq, Repr

/-- A character that may stand in the value of a header. -/
def isValueChar (c : Char) : Bool := (32 ≤ c.toNat && c.toNat != 127) || c == '\t'

namespace Request

/-- The path and the query as they are sent. -/
def target (r : Request) : String :=
  String.ofList (r.url.path.text ++ Url.markedText '?' r.url.query)

def header? (r : Request) (name : String) : Option String :=
  (r.headers.find? fun h => h.1 == name).map (·.2)

/-- The request can be sent: it goes over the web, and its headers are well formed. -/
def isSendable (r : Request) : Bool :=
  ["http", "https"].contains (String.ofList r.url.scheme) &&
    r.headers.all fun h => isToken h.1 && h.2.toList.all isValueChar

end Request

structure Reply where
  status : Nat
  headers : List (String × String) := []
  /-- The body in pieces, as it comes. -/
  chunks : List (List UInt8) := []
  /-- The body comes to its end. -/
  complete : Bool := true
  deriving DecidableEq, Repr

namespace Reply

/-- The status says that all went well. -/
def isSuccess (r : Reply) : Bool := 200 ≤ r.status && r.status ≤ 299

/-- A text without the mark of byte order at its head. -/
def dropMark : List Char → List Char
  | '\uFEFF' :: rest => rest
  | s => s

def text (r : Reply) : Except Failure String :=
  if r.complete then .ok (String.ofList (dropMark (Text.Utf8.decodeLossy r.chunks.flatten)))
  else .error .http

/-- The values of all headers of this name that are plain text; names are compared without case. -/
def values (r : Reply) (name : String) : List String :=
  (r.headers.filter fun h => h.1.toLower == name.toLower && h.2.toList.all fun c =>
    (32 ≤ c.toNat && c.toNat < 127) || c == '\t').map (·.2)

end Reply

end ScanConsole.Http
