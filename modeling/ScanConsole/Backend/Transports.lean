import ScanConsole.Backend.Client
import ScanConsole.EventStream.Reader
import ScanConsole.Execution.Channel

/-!
# The transports of executions

A run reaches the backend in one of two ways. The streaming transport reads the
events from an event stream as they come, where payloads that are no events are
skipped. The synchronous transport gets one reply with everything and makes the
same events of it: a message for each line of log, then the results.
-/

namespace ScanConsole

open Json (Decoder Value)

namespace Client

/-- A request to run a plugin, and the reply to it. -/
def execute (headers : List (String × String)) (r : ExecutionRequest) (c : Client) :
    Except Failure Http.Reply × Client :=
  let (reply, c) := c.send "POST" c.config.executionPath headers (some r.toJson)
  (accepted reply, c)

end Client

/-! ## Streaming -/

/-- The item of a channel in an item of an event stream, unless it is to be skipped. -/
def Item.ofStream? : EventStream.Item → Option Item
  | .payload text => (Event.decode? text).map Item.event
  | .failure _ => some (.failure .http)

/-- The body of a reply as an event stream. -/
def streamChunks (r : Http.Reply) : List EventStream.Chunk :=
  r.chunks.map EventStream.Chunk.bytes ++ (if r.complete then [] else [.failure ""])

/-- The items in the body of a reply. -/
def streamItems (r : Http.Reply) : List Item :=
  (EventStream.items (streamChunks r)).filterMap Item.ofStream?

/-- The events come as an event stream. -/
def streaming : Transport Client where
  connect request c :=
    let (reply, c) := c.execute [("accept", "text/event-stream")] request
    match reply with
    | .ok r => (.opened (streamItems r), c)
    | .error f => (.refused f, c)

/-! ## Synchronous -/

structure WholeReply where
  results : Option (List Screen)
  logs : List String
  error : Option String
  deriving DecidableEq, Repr

namespace WholeReply

/-- A reply, whose parts may all be absent. -/
def decoder : Decoder WholeReply := fun room d =>
  match Decoder.fields [["scan_results"], ["logs"], ["error"]] room d with
  | some (room, [results, logs, error]) => do
    some ⟨← Decoder.optional (Decoder.list Screen.decoder) room results,
      ← Decoder.defaulted [] (Decoder.list Decoder.string) room logs,
      ← Decoder.optional Decoder.string room error⟩
  | _ => none

/-- The events that a reply stands for: its error alone, if it has one. -/
def events (r : WholeReply) : List Event :=
  match r.error with
  | some message => [.error message]
  | none => r.logs.map Event.status ++ [.complete (r.results.getD [])]

end WholeReply

/-- The answer that a reply gives. A rejection with words of the backend counts as an error event. -/
def wholeAnswer (reply : Except Failure Http.Reply) : Answer :=
  match reply with
  | .error (.rejected _ (some message)) => .opened [.event (.error message)]
  | reply =>
    match Client.readAs WholeReply.decoder reply with
    | .ok r => .opened (r.events.map Item.event)
    | .error f => .refused f

/-- The events come all at once. -/
def synchronous : Transport Client where
  connect request c :=
    let (reply, c) := c.execute [] request
    (wholeAnswer reply, c)

def configured : Transport Client where
  connect request c :=
    match c.config.transport with
    | .streaming => streaming.connect request c
    | .synchronous => synchronous.connect request c

end ScanConsole
