import ScanConsole.Failure

/-!
# The worker pool

Front ends that do not wait for work themselves hand it to a pool, which has to
be started first and needs to be started only once.
-/

namespace ScanConsole

/-- The pool of the process. -/
structure Pool where
  started : Bool := false
  deriving DecidableEq, Repr

namespace Pool

def start (_ : Pool) : Pool := ⟨true⟩

/-- The result of work that the pool does. -/
def run {α : Type} (p : Pool) (work : Unit → α) : Except Failure α :=
  if p.started then .ok (work ()) else .error (.runtime "runtime not initialized")

end Pool

end ScanConsole
