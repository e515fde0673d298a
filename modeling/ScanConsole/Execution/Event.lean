import ScanConsole.Json.Decoder
import ScanConsole.Screen.Json

/-!
# Execution events

What the backend tells while a plugin runs. In JSON an event is an object with
its kind under `type`, or an array that starts with its kind. The kind may stand
behind other fields, so an event has to be a value in all its parts before any
of them is looked at.
-/

namespace ScanConsole

open Json (Decoder Document Value)

/-- What the backend tells while a plugin runs. -/
inductive Event where
  | status (message : String)
  | error (message : String)
  /-- The commands for a screen begin. -/
  | commandStart (screen : Nat) (commands : List String)
  | output (data : String)
  | errorOutput (data : String)
  /-- The run is over. -/
  | complete (results : List Screen)
  deriving DecidableEq, Repr

namespace Event

/-- An event of a kind, from its other fields. -/
def ofKind? (kind : String) : Decoder Event := fun room d =>
  if kind == "status" then
    match Decoder.fields [["message"]] room d with
    | some (room, [m]) => (Decoder.required Decoder.string room m).map status
    | _ => none
  else if kind == "error" then
    match Decoder.fields [["message"]] room d with
    | some (room, [m]) => (Decoder.required Decoder.string room m).map error
    | _ => none
  else if kind == "command_start" then
    match Decoder.fields [["screen_index"], ["commands"]] room d with
    | some (room, [screen, commands]) => do
      some (commandStart (← Decoder.required Decoder.word64 room screen)
        (← Decoder.defaulted [] (Decoder.list Decoder.string) room commands))
    | _ => none
  else if kind == "output" then
    match Decoder.fields [["data"]] room d with
    | some (room, [data]) => (Decoder.required Decoder.string room data).map output
    | _ => none
  else if kind == "error_output" then
    match Decoder.fields [["data"]] room d with
    | some (room, [data]) => (Decoder.required Decoder.string room data).map errorOutput
    | _ => none
  else if kind == "complete" then
    match Decoder.fields [["results", "screens"]] room d with
    | some (room, [results]) =>
      (Decoder.defaulted [] (Decoder.list Screen.decoder) room results).map complete
    | _ => none
  else none

/-- The kind of an event, and the event without it. -/
def kind? : Document → Option (String × Document)
  | .object fs =>
    match fs.filter fun f => f.1 == some "type" with
    | [(_, .string (some kind))] => some (kind, .object (fs.filter fun f => f.1 != some "type"))
    | _ => none
  | .array (.string (some kind) :: rest) => some (kind, .array rest)
  | _ => none

def decoder : Decoder Event := fun room d =>
  match d.value? room, kind? d with
  | some _, some (kind, rest) => ofKind? kind room rest
  | _, _ => none

def decode? (payload : String) : Option Event := Json.decode? decoder payload

def toJson : Event → Value
  | .status m => .object [("type", .string "status"), ("message", .string m)]
  | .error m => .object [("type", .string "error"), ("message", .string m)]
  | .commandStart screen commands =>
    .object [("type", .string "command_start"), ("screen_index", .ofNat screen),
      ("commands", Value.ofStrings commands)]
  | .output data => .object [("type", .string "output"), ("data", .string data)]
  | .errorOutput data => .object [("type", .string "error_output"), ("data", .string data)]
  | .complete results =>
    .object [("type", .string "complete"), ("results", .array (results.map Screen.toJson))]

end Event

end ScanConsole
