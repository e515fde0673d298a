/-!
# A fair lock

A lock that many readers or one writer hold at a time and that is granted in the
order of the requests. A writer announces itself when it asks and withdraws the
announcement when it is granted; a reader that asks while there is an
announcement is counted as waiting until it is granted. What the lock protects
is the list of those who have written, each of whom adds its name.
-/

namespace ScanConsole

namespace Lock

/-- What a request asks for. -/
inductive Access where
  | read
  | write
  deriving DecidableEq, Repr

/-- A request that has not been granted. -/
structure Request where
  who : String
  access : Access
  /-- The request is counted as waiting. -/
  counted : Bool
  /-- The lock is to be given back as soon as it is granted. -/
  withdrawn : Bool
  deriving DecidableEq, Repr

/-- One who has been granted the lock. -/
structure Holder where
  who : String
  access : Access
  deriving DecidableEq, Repr

end Lock

/-- A fair lock with what it protects. -/
structure Lock where
  writers : List String := []
  holders : List Lock.Holder := []
  /-- The requests in their order. -/
  queue : List Lock.Request := []
  /-- A writer has announced itself. -/
  announced : Bool := false
  /-- How many readers are counted as waiting. -/
  waiting : Nat := 0
  deriving DecidableEq, Repr

namespace Lock

/-- The lock could be granted now. -/
def admits (l : Lock) : Access → Bool
  | .read => l.holders.all fun h => h.access == .read
  | .write => l.holders.isEmpty

/-- The lock in the hands of one more; one that withdrew gives it back at once. -/
def grant (l : Lock) (r : Request) : Lock :=
  let holders := if r.withdrawn then l.holders else l.holders ++ [⟨r.who, r.access⟩]
  match r.access with
  | .read => { l with holders := holders, waiting := if r.counted then l.waiting - 1 else l.waiting }
  | .write => { l with holders := holders, announced := false, writers := l.writers ++ [r.who] }

/-- The requests of a queue granted in their order, up to the first that has to wait. -/
def grantFrom (l : Lock) : List Request → Lock
  | [] => { l with queue := [] }
  | r :: rest =>
    if l.admits r.access then grantFrom (l.grant r) rest else { l with queue := r :: rest }

/-- All requests granted that can be. -/
def settle (l : Lock) : Lock := l.grantFrom l.queue

def request (l : Lock) (who : String) (access : Access) : Lock :=
  match access with
  | .read =>
    settle { l with
      queue := l.queue ++ [⟨who, .read, l.announced, false⟩]
      waiting := if l.announced then l.waiting + 1 else l.waiting }
  | .write => settle { l with queue := l.queue ++ [⟨who, .write, false, false⟩], announced := true }

/-- The lock given back; who has not been granted it yet gives it back when that happens. -/
def release (l : Lock) (who : String) : Lock :=
  if l.holders.any fun h => h.who == who then
    settle { l with holders := l.holders.filter fun h => h.who != who }
  else
    { l with queue := l.queue.map fun r => if r.who == who then { r with withdrawn := true } else r }

end Lock

end ScanConsole
