import ScanConsole.Text.Lowercase
import ScanConsole.Text.Search
import ScanConsole.Text.Blank

/-!
# Resources

A resource is a machine that can be scanned. The backend lists it as an entry,
of which only the address is certain; the console shows it with a host name and
a compliance score. `Resource.isFoundBy` is the search over resources,
`Resource.ofEntries` the step from a list of entries to a list of resources.
-/

namespace ScanConsole

/-- How well a resource complies with policy. -/
inductive Compliance where
  /-- A placeholder in percent: the backend computes no score yet. -/
  | synthetic (percent : Nat)
  deriving DecidableEq, Repr

namespace Compliance

/-- The placeholder for the resource at this place of the list: 80, 85 and 90 in turn. -/
def ofIndex (i : Nat) : Compliance := .synthetic (80 + i % 3 * 5)

def percent : Compliance → Nat
  | .synthetic p => p

def isSynthetic : Compliance → Bool
  | .synthetic _ => true

def label : Compliance → String
  | .synthetic p => toString p ++ "% (synthetic)"

end Compliance

/-- A resource as the console shows it. -/
structure Resource where
  address : String
  hostname : String
  port : Option Nat
  status : Option String
  compliance : Compliance
  deriving DecidableEq, Repr

namespace Resource

/-- A resource as the backend lists it. -/
structure Entry where
  address : String
  hostname : Option String
  port : Option Nat
  status : Option String
  deriving DecidableEq, Repr

/-- The host name shown: the listed one unless it is absent or empty. -/
def Entry.shownHostname (e : Entry) : String :=
  match e.hostname with
  | some h => if h == "" then "Unknown" else h
  | none => "Unknown"

/-- The entry at place `i` of a list. -/
def ofEntry (i : Nat) (e : Entry) : Resource :=
  ⟨e.address, e.shownHostname, e.port, e.status, .ofIndex i⟩

/-- The entries of a list, the first at place `i`. -/
def ofEntriesFrom (i : Nat) : List Entry → List Resource
  | [] => []
  | e :: rest => ofEntry i e :: ofEntriesFrom (i + 1) rest

def ofEntries (entries : List Entry) : List Resource := ofEntriesFrom 0 entries

/-- The query is empty but for blanks, or its trimmed small form stands in that of the host name or of
the address. -/
def isFoundBy (r : Resource) (query : String) : Bool :=
  let q := Text.lower (Text.trim query.toList)
  q.isEmpty || Text.occurs q (Text.lower r.hostname.toList) ||
    Text.occurs q (Text.lower r.address.toList)

end Resource

end ScanConsole
