import ScanConsole.Execution.Channel
import ScanConsole.State.Apply

/-!
# The world of executions

Executions share a world: the state of the console, a clock that never goes
back, a supply of session identifiers, and what their transport remembers. The
world also keeps the glimpses: what the console held each time a run opened its
channel or asked for an item.
-/

namespace ScanConsole

/-- Where a run is when it looks outside. -/
inductive Outlook where
  /-- It opens its channel. -/
  | opening (request : ExecutionRequest)
  /-- It asks channel `number` for the item at this place. -/
  | asking (number place : Nat)
  deriving DecidableEq, Repr

/-- What the console held at such a moment. -/
structure Glimpse where
  outlook : Outlook
  sessions : List Session
  deriving DecidableEq, Repr

structure World (σ : Type) where
  state : State := {}
  clock : Instant
  /-- The number of the next session. -/
  nextSession : Nat := 1
  /-- How many channels have been asked for. -/
  requests : Nat := 0
  /-- The channels that have been released, once for each release. -/
  releases : List Nat := []
  /-- The tabs that have been opened, in their order. -/
  tabsOpened : List String := []
  /-- The glimpses, in their order. -/
  glimpses : List Glimpse := []
  /-- What the transport remembers. -/
  link : σ

namespace World

variable {σ : Type}

def dispatch (a : Action) (w : World σ) : World σ := { w with state := w.state.apply a }

/-- The state changed by several actions, one after the other. -/
def dispatchAll (actions : List Action) (w : World σ) : World σ := actions.foldl (fun w a => w.dispatch a) w

/-- The session of a run that was given up is cleared, if there is one. -/
def clearOrphan (orphan : Option SessionId) (w : World σ) : World σ :=
  match orphan with
  | some session => w.dispatch (.executionCleared session)
  | none => w

/-- The time, and the world a moment later. -/
def now (w : World σ) : Instant × World σ := (w.clock, { w with clock := ⟨w.clock.nanos + 1000000⟩ })

/-- A session identifier that has never been used. -/
def freshSession (w : World σ) : SessionId × World σ :=
  (⟨w.nextSession⟩, { w with nextSession := w.nextSession + 1 })

/-- What the console holds, kept. -/
def look (outlook : Outlook) (w : World σ) : World σ :=
  { w with glimpses := w.glimpses ++ [⟨outlook, w.state.sessions⟩] }

/-- A channel asked for: its number and the answer. -/
def connect (tr : Transport σ) (request : ExecutionRequest) (w : World σ) : Nat × Answer × World σ :=
  let w := w.look (.opening request)
  let (answer, link) := tr.connect request w.link
  (w.requests, answer, { w with requests := w.requests + 1, link := link })

/-- A channel released once. -/
def release (number : Nat) (w : World σ) : World σ := { w with releases := number :: w.releases }

/-- A release of a channel used up, if there is one. -/
def useRelease? (number : Nat) (w : World σ) : Option (World σ) :=
  if w.releases.contains number then some { w with releases := w.releases.erase number } else none

/-- A tab with this identifier has been opened. -/
def noteTab (id : String) (w : World σ) : World σ := { w with tabsOpened := w.tabsOpened ++ [id] }

end World

end ScanConsole
