import ScanConsole.Url.Address

/-!
# Addresses on the web

An address has a scheme, an authority unless it needs none, a path, and perhaps
a query and a fragment. A path is a list of segments, or else any text, and then
nothing can be joined to the address. `Url.text` writes an address.
-/

namespace ScanConsole

namespace Url

/-- Where a host is. -/
inductive Host where
  /-- A name, empty in places where none is needed. -/
  | name (text : List Char)
  | address4 (n : Nat)
  | address6 (groups : List Nat)
  deriving DecidableEq, Repr

def Host.text : Host → List Char
  | .name s => s
  | .address4 n => address4Text n
  | .address6 gs => '[' :: address6Text gs ++ [']']

inductive Path where
  /-- Any text. -/
  | plain (text : List Char)
  | segments (segments : List (List Char))
  deriving DecidableEq, Repr

structure Authority where
  username : List Char := []
  password : List Char := []
  host : Host
  /-- The port, if it is not the usual one of the scheme. -/
  port : Option Nat := none
  deriving DecidableEq, Repr

/-- User name and password as they are written. -/
def Authority.userText (a : Authority) : List Char :=
  if a.username.isEmpty && a.password.isEmpty then []
  else a.username ++ (if a.password.isEmpty then [] else ':' :: a.password) ++ ['@']

def Authority.text (a : Authority) : List Char :=
  a.userText ++ a.host.text ++
    match a.port with
    | none => []
    | some p => ':' :: (toString p).toList

def Path.text : Path → List Char
  | .plain s => s
  | .segments ss => ss.flatMap fun s => '/' :: s

end Url

/-- An address on the web. -/
structure Url where
  scheme : List Char
  authority : Option Url.Authority
  path : Url.Path
  query : Option (List Char)
  fragment : Option (List Char)
  deriving DecidableEq, Repr

namespace Url

/-- The authority and the path as they are written. Without an authority, a path that starts with two
slashes is kept apart from one by a point. -/
def placeText (u : Url) : List Char :=
  match u.authority, u.path with
  | some a, path => "//".toList ++ a.text ++ path.text
  | none, .segments ([] :: s :: rest) => "/.".toList ++ (Path.segments ([] :: s :: rest)).text
  | none, path => path.text

/-- A part behind its mark, if it is there. -/
def markedText (mark : Char) : Option (List Char) → List Char
  | none => []
  | some s => mark :: s

def chars (u : Url) : List Char :=
  u.scheme ++ [':'] ++ u.placeText ++ markedText '?' u.query ++ markedText '#' u.fragment

def text (u : Url) : String := String.ofList u.chars

/-- The usual port of a scheme. -/
def defaultPort? (scheme : List Char) : Option Nat :=
  match String.ofList scheme with
  | "http" => some 80
  | "ws" => some 80
  | "https" => some 443
  | "wss" => some 443
  | "ftp" => some 21
  | _ => none

/-- The scheme has its own rules for authorities and paths. -/
def isSpecial (scheme : List Char) : Bool := (defaultPort? scheme).isSome || scheme == "file".toList

end Url

end ScanConsole
