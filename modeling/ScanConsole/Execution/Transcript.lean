import ScanConsole.Execution.Event

/-!
# What events mean for a session

An event adds lines to the log of its session, or ends it with a failure or with
results. Output counts only once a block of commands has begun, and a
`Transcript` is what has to be remembered for that.
-/

namespace ScanConsole

/-- What one event does to its session. -/
inductive Effect where
  | log (lines : List String)
  | fail (lines : List String)
  | complete (lines : List String) (results : List Screen)
  deriving DecidableEq, Repr

/-- What is remembered of the events so far. -/
structure Transcript where
  /-- The screen whose commands began last. -/
  screen : Option Nat := none
  deriving DecidableEq, Repr

namespace Transcript

def completionLine : String := "\nExecution completed successfully!"

def errorLine (message : String) : String := "ERROR: " ++ message

/-- The number of a screen as the operator counts, from one on; it stays within 64 bits. -/
def shownNumber (screen : Nat) : Nat := min (screen + 1) (Json.Literal.wordLimit - 1)

def blockLine (screen : Nat) : String :=
  "\n=== Executing commands for screen " ++ toString (shownNumber screen) ++ " ==="

def commandLine (command : String) : String := "$ " ++ command

/-- The lines of output, which are none before the first block of commands. -/
def outputLines (t : Transcript) (line : String) : List String :=
  match t.screen with
  | some _ => [line]
  | none => []

def effect (t : Transcript) : Event → Effect
  | .status m => .log [m]
  | .error m => .fail [errorLine m]
  | .commandStart screen commands => .log (blockLine screen :: commands.map commandLine)
  | .output data => .log (t.outputLines data)
  | .errorOutput data => .log (t.outputLines (errorLine data))
  | .complete results => .complete [completionLine] results

def after (t : Transcript) : Event → Transcript
  | .commandStart screen _ => ⟨some screen⟩
  | _ => t

end Transcript

end ScanConsole
