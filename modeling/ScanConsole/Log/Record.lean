/-!
# Log records

A record is what a part of the console reports: how grave it is, which part
reports it, and the message. Levels are ordered from the gravest to the most
talkative.
-/

namespace ScanConsole.Log

/-- How grave a record is. -/
inductive Level where
  | error
  | warn
  | info
  | debug
  | trace
  deriving DecidableEq, Repr

namespace Level

/-- The place of a level, from the gravest on. -/
def rank : Level → Nat
  | .error => 1
  | .warn => 2
  | .info => 3
  | .debug => 4
  | .trace => 5

def name : Level → String
  | .error => "ERROR"
  | .warn => "WARN"
  | .info => "INFO"
  | .debug => "DEBUG"
  | .trace => "TRACE"

end Level

/-- A part of the console that reports. -/
inductive Origin where
  /-- The application state. -/
  | store
  /-- The forms. -/
  | view
  /-- The logging itself. -/
  | logger
  deriving DecidableEq, Repr

def Origin.path : Origin → String
  | .store => "allsafe_console::store"
  | .view => "allsafe_console::view"
  | .logger => "allsafe_console::logger"

/-- What a part of the console reports. -/
structure Record where
  level : Level
  origin : Origin
  message : String
  deriving DecidableEq, Repr

end ScanConsole.Log
