import ScanConsole.Json.Decoder
import ScanConsole.Json.Printer

/-!
# Refresh intervals

How often the results of a tab are fetched anew: not at all, or after one of
four periods.
-/

namespace ScanConsole

open Json (Decoder Value)

/-- How often the results of a tab are fetched anew. -/
inductive RefreshInterval where
  | off
  | halfMinute
  | minute
  | fiveMinutes
  | tenMinutes
  deriving DecidableEq, Repr, Inhabited

namespace RefreshInterval

/-- All intervals in the order in which they are offered. -/
def all : List RefreshInterval := [.off, .halfMinute, .minute, .fiveMinutes, .tenMinutes]

/-- The period in seconds; zero for none. -/
def seconds : RefreshInterval → Nat
  | .off => 0
  | .halfMinute => 30
  | .minute => 60
  | .fiveMinutes => 300
  | .tenMinutes => 600

def label : RefreshInterval → String
  | .off => "No refresh"
  | .halfMinute => "30 seconds"
  | .minute => "1 minute"
  | .fiveMinutes => "5 minutes"
  | .tenMinutes => "10 minutes"

/-- There is a period. -/
def isEnabled (i : RefreshInterval) : Bool := 0 < i.seconds

def options : List (String × Nat) := all.map fun i => (i.label, i.seconds)

/-- No interval has this period. -/
structure Unsupported where
  seconds : Nat
  deriving DecidableEq, Repr

def Unsupported.message (u : Unsupported) : String :=
  "unsupported refresh interval: " ++ toString u.seconds ++ "s"

def ofSeconds (n : Nat) : Except Unsupported RefreshInterval :=
  match all.find? fun i => i.seconds == n with
  | some i => .ok i
  | none => .error ⟨n⟩

def toJson (i : RefreshInterval) : Value := .ofNat i.seconds

def decoder : Decoder RefreshInterval := fun room d =>
  (Decoder.word64 room d).bind fun n => (ofSeconds n).toOption

end RefreshInterval

end ScanConsole
