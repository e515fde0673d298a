import ScanConsole.Jobs.Check

/-!
# Workspaces

A workspace holds a world and the tasks that go on in it in the background, each
known by the name of its handle while somebody holds it. A selection in the
background has two halves: its run, and a part that waits for the run and then
opens the tab. `Workspace.settle` lets every task move until it waits or has
ended.

There are three ways to let a task go before it has ended:

    `Workspace.drop`      its handle is dropped, or its future where there is a runtime
    `Workspace.abandon`   its future is dropped on a thread without a runtime
    `Workspace.detach`    somebody who waits for its result in a join is dropped

The first gives the task up, and the session of its run is cleared by a task of
its own. The second gives it up too, but there is nothing that such a task could
go on in, so the session stays as it is. The third does not give it up at all:
the join has taken the handle, and dropping that lets the task go on by itself.

The handle of a selection belongs to the waiting part. If that has begun it
stands in a join of the run, so the run goes on by itself and opens no tab; if
not, the run is given up as soon as the waiting part would have begun.
-/

namespace ScanConsole

/-- Where the waiting part of a selection stands. -/
inductive Waiting where
  /-- It is still to begin. -/
  | ahead
  | begun
  /-- It was given up before it began, which nobody has noticed yet. -/
  | givenUp
  deriving DecidableEq, Repr

inductive TaskWork where
  | job (j : Job)
  | selection (j : Job) (waiting : Waiting)
  /-- The session of a run that was given up is to be cleared. -/
  | clear (session : SessionId)

/-- Something that goes on in the background. -/
structure Task where
  /-- The name of the handle, if somebody holds it. -/
  handle : Option String
  work : TaskWork

namespace Task

/-- What the task gave back, if it has ended. -/
def result? (t : Task) : Option (Except Failure Yield) :=
  match t.work with
  | .job j => j.result?
  | .selection j _ => j.result?
  | .clear _ => none

/-- What is left of a job that is given up: the clearing of its session. -/
def remains (j : Job) : List Task := j.orphan?.toList.map fun session => ⟨none, .clear session⟩

/-- What is left of a task that is given up where there is a runtime. -/
def dropped (t : Task) : List Task :=
  match t.work with
  | .job j => remains j
  | .selection ⟨.running _ r⟩ .begun => [⟨none, .job (.ofRun r)⟩]
  | .selection _ .begun => []
  | .selection j _ => [⟨none, .selection j .givenUp⟩]
  | .clear session => [⟨none, .clear session⟩]

/-- What is left of a task that is given up where there is none: nobody clears the session of a run. The
two halves of a selection were begun in the runtime, which gives them up there. -/
def abandoned (t : Task) : List Task :=
  match t.work with
  | .job _ => []
  | _ => t.dropped

/-- The task as it goes on when nobody holds it any more. -/
def unheld (t : Task) : Task := { t with handle := none }

/-- The waiting part of a selection has its turn: it begins, or it is found given up. -/
def await (t : Task) : List Task :=
  match t.work with
  | .selection j .ahead => [{ t with work := .selection j .begun }]
  | .selection j .givenUp => remains j
  | _ => [t]

variable {σ : Type}

/-- Moves of a task as long as there are any, and what is left of it. -/
def settle (tr : Transport σ) (t : Task) (w : World σ) : List Task × World σ :=
  match t.work with
  | .job j =>
    let (j, w) := j.settle tr w
    ([{ t with work := .job j }], w)
  | .selection ⟨.running _ r⟩ .givenUp =>
    let (r, w) := r.settle tr w
    ([], w.clearOrphan r.orphan?)
  | .selection _ .givenUp => ([], w)
  | .selection j _ =>
    let (j, w) := j.settle tr w
    ([{ t with work := .selection j .begun }], w)
  | .clear session => ([], w.dispatch (.executionCleared session))

/-- The task has ended and nobody holds it. -/
def isSpent (t : Task) : Bool := t.handle.isNone && t.result?.isSome

end Task

structure Workspace (σ : Type) where
  world : World σ
  /-- The tasks in the order in which they began. -/
  tasks : List Task := []

namespace Workspace

variable {σ : Type}

def onWorld (f : World σ → World σ) (ws : Workspace σ) : Workspace σ := { ws with world := f ws.world }

/-- Moves of the tasks, one after the other, and what is left of them. -/
def settleTasks (tr : Transport σ) (w : World σ) : List Task → List Task × World σ
  | [] => ([], w)
  | t :: rest =>
    let (left, w) := t.settle tr w
    let (others, w) := settleTasks tr w rest
    (left ++ others, w)

/-- Every task moves until it waits or has ended. -/
def settle (tr : Transport σ) (ws : Workspace σ) : Workspace σ :=
  let (tasks, w) := settleTasks tr ws.world ws.tasks
  ⟨w, tasks.filter fun t => !t.isSpent⟩

/-! ## In the background -/

def spawn (t : Task) (ws : Workspace σ) : Workspace σ := { ws with tasks := ws.tasks ++ [t] }

/-- A run begun, with the identifier of its session. -/
def spawnRun (handle : String) (plugin : Plugin) (resource : Resource) (ws : Workspace σ) :
    SessionId × Workspace σ :=
  let (id, w) := ws.world.freshSession
  (id, spawn ⟨some handle, .job (.ofRun (.ofPair id plugin resource))⟩ { ws with world := w })

/-- A selection begun, with the identifier of its session. -/
def spawnSelect (handle : String) (plugin : Plugin) (resource : Resource) (ws : Workspace σ) :
    SessionId × Workspace σ :=
  let (id, w) := ws.world.freshSession
  (id, spawn ⟨some handle, .selection (.ofSelect (.ofPair id plugin resource)) .ahead⟩
    { ws with world := w })

def spawnRefresh (handle tab : String) (ws : Workspace σ) : Workspace σ :=
  ws.spawn ⟨some handle, .job (.ofRefresh tab none)⟩

def task? (handle : String) (ws : Workspace σ) : Option Task :=
  ws.tasks.find? fun t => t.handle == some handle

/-- The task behind a handle has ended; none if there is no such handle. -/
def isFinished? (handle : String) (ws : Workspace σ) : Option Bool :=
  (ws.task? handle).map fun t => t.result?.isSome

/-- What the task behind a handle gave back; the handle is then gone. This is a join that has come to its
end, of a task that has ended; a join that is given up before is `detach`. -/
def join (handle : String) (ws : Workspace σ) : Option (Except Failure Yield) × Workspace σ :=
  match (ws.task? handle).bind Task.result? with
  | some result => (some result, { ws with tasks := ws.tasks.eraseP fun t => t.handle == some handle })
  | none => (none, ws)

/-- The task behind a handle let go, of which this is left. -/
def letGo (left : Task → List Task) (handle : String) (ws : Workspace σ) : Workspace σ :=
  match ws.task? handle with
  | some t => { ws with tasks := (ws.tasks.eraseP fun t => t.handle == some handle) ++ left t }
  | none => ws

@[simp] theorem world_letGo (left : Task → List Task) (handle : String) (ws : Workspace σ) :
    (ws.letGo left handle).world = ws.world := by
  unfold letGo
  split <;> rfl

/-- A handle dropped, or a future where there is a runtime. -/
def drop (handle : String) (ws : Workspace σ) : Workspace σ := ws.letGo Task.dropped handle

/-- A future dropped on a thread without a runtime. -/
def abandon (handle : String) (ws : Workspace σ) : Workspace σ := ws.letGo Task.abandoned handle

/-- A join dropped in which somebody waits for the task. -/
def detach (handle : String) (ws : Workspace σ) : Workspace σ :=
  ws.letGo (fun t => [t.unheld]) handle

/-! ## In the foreground -/

/-- A job carried through; one that comes to wait for its channel is given up. -/
def perform (tr : Transport σ) (j : Job) (w : World σ) : Option (Except Failure Yield) × World σ :=
  let (j, w) := j.settle tr w
  match j.result? with
  | some result => (some result, w)
  | none => (none, w.clearOrphan j.orphan?)

def run (tr : Transport σ) (plugin : Plugin) (resource : Resource) (w : World σ) :
    Option (Except Failure Yield) × World σ :=
  let (id, w) := w.freshSession
  perform tr (.ofRun (.ofPair id plugin resource)) w

def select (tr : Transport σ) (plugin : Plugin) (resource : Resource) (w : World σ) :
    Option (Except Failure Yield) × World σ :=
  let (id, w) := w.freshSession
  perform tr (.ofSelect (.ofPair id plugin resource)) w

def refresh (tr : Transport σ) (tab : String) (w : World σ) :
    Option (Except Failure Yield) × World σ :=
  perform tr (.ofRefresh tab none) w

/-- A check for due refreshes: the tabs whose refresh succeeded. A refresh that comes to wait for its
channel is given up, and with it the rest of the check. -/
def check (tr : Transport σ) (time : Instant) (w : World σ) : List String × World σ :=
  let (c, w) := (Check.ofTime time).settle tr w
  match c.result? with
  | some refreshed => (refreshed, w)
  | none => (c.refreshed, w.clearOrphan c.orphan?)

/-- The check that a scheduler makes while it goes on. -/
def checkNow (tr : Transport σ) (w : World σ) : List String × World σ :=
  let (time, w) := w.now
  check tr time w

/-- A refresh interval set, which starts anew from now on. -/
def setInterval (tab : String) (interval : RefreshInterval) (w : World σ) : World σ :=
  let (time, w) := w.now
  w.dispatch (.refreshIntervalSet tab interval time)

end Workspace

end ScanConsole
