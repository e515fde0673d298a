import ScanConsole.Plugin.Basic
import ScanConsole.Resource.Basic

/-!
# Execution sessions

A session is one run of a plugin on a resource as the operator sees it: its log,
its status, and a progress that is 0 until the run is done and 100 then.
-/

namespace ScanConsole

/-- What names a session: a number of 128 bits. -/
structure SessionId where
  number : Nat
  deriving DecidableEq, Repr, Inhabited

namespace SessionId

/-- The last `count` hexadecimal digits of a number. -/
def lastDigits : (count n : Nat) → List Char
  | 0, _ => []
  | count + 1, n => lastDigits count (n / 16) ++ [Nat.digitChar (n % 16)]

/-- Thirty-two hexadecimal digits in five groups. -/
def text (id : SessionId) : String :=
  let ds := lastDigits 32 id.number
  let group (start length : Nat) := String.ofList ((ds.drop start).take length)
  "-".intercalate [group 0 8, group 8 4, group 12 4, group 16 4, group 20 12]

end SessionId

/-- How far a session has come. -/
inductive Status where
  | running
  | error
  | done
  deriving DecidableEq, Repr

def Status.name : Status → String
  | .running => "running"
  | .error => "error"
  | .done => "done"

def Status.all : List Status := [.running, .error, .done]

def Status.ofName? (name : String) : Option Status := Status.all.find? fun s => s.name == name

/-- One run of a plugin on a resource. -/
structure Session where
  id : SessionId
  plugin : Plugin
  resource : Resource
  status : Status
  logs : List String
  progress : Nat
  deriving DecidableEq, Repr

namespace Session

def startingLine (plugin : Plugin) (resource : Resource) : String :=
  "Starting execution of " ++ plugin.name ++ " on " ++ resource.hostname ++ "..."

def start (id : SessionId) (plugin : Plugin) (resource : Resource) : Session :=
  ⟨id, plugin, resource, .running, [startingLine plugin resource], 0⟩

/-- A session stays on screen while it runs. -/
def canBeDismissed (s : Session) : Bool := s.status != .running

def log (lines : List String) (s : Session) : Session := { s with logs := s.logs ++ lines }

/-- The run failed; the lines say why. -/
def fail (lines : List String) (s : Session) : Session :=
  { s with logs := s.logs ++ lines, status := .error }

def complete (s : Session) : Session := { s with status := .done, progress := 100 }

end Session

end ScanConsole
