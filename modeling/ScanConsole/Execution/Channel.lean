import ScanConsole.Backend.Messages
import ScanConsole.Execution.Event
import ScanConsole.Failure

/-!
# Channels

A transport answers a request to run a plugin with a refusal or with a channel:
a finite list of items, each an event or a failure of the channel, behind which
the channel is closed. A channel may also fall silent and go on only when it is
released.
-/

namespace ScanConsole

inductive Item where
  | event (e : Event)
  | failure (f : Failure)
  /-- Nothing, until the channel is released. -/
  | silence
  deriving DecidableEq, Repr

/-- The answer to a request to run a plugin. -/
inductive Answer where
  | refused (f : Failure)
  | opened (items : List Item)
  deriving DecidableEq, Repr

/-- What delivers the events of runs, where `σ` is what it remembers between two requests. -/
structure Transport (σ : Type) where
  connect : ExecutionRequest → σ → Answer × σ

/-- A channel read up to some point. -/
structure Channel where
  /-- The number of the request that opened it. -/
  number : Nat
  /-- How many items have been asked for. -/
  asked : Nat := 0
  /-- What is still to come. -/
  items : List Item
  /-- The channel has fallen silent. -/
  silent : Bool := false
  deriving DecidableEq, Repr

/-- The channel behind the item that was asked for last. -/
def Channel.next (c : Channel) (rest : List Item) : Channel :=
  { c with asked := c.asked + 1, items := rest }

/-! ## Prepared answers -/

/-- The transport whose answers are prepared, one for each request; later requests are answered with a
channel that is closed at once. -/
def prepared : Transport (List Answer) where
  connect _ answers :=
    match answers with
    | [] => (.opened [], [])
    | a :: rest => (a, rest)

end ScanConsole
