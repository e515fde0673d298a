import ScanConsole.Jobs.Workspace

/-!
# Turns

The tasks of a workspace go on side by side, and nothing fixes whose turn is
next. A `Turn` is one thing that happens: a task makes one move, a task is let
go in one of the three ways, a task begins, somebody else tells the console an
action. `Workspace.play` lets turns happen in the order of a list, so a
statement about every list of turns is one about every interleaving. A turn that
cannot happen changes nothing.

A `Deed` is what a move shows to the outside, and `Workspace.deeds` says who did
what, each deed under the session that its task works for. `Workspace.course` is
what the console shows of one session while its run goes on.
-/

namespace ScanConsole

/-- What a move shows to the outside. -/
inductive Deed where
  /-- It tells the console an action. -/
  | tells (a : Action)
  /-- It asks the transport for a channel and gets this answer. -/
  | opens (request : ExecutionRequest) (answer : Answer)
  /-- It asks channel `number` for the item at this place. -/
  | asks (number place : Nat)
  | nothing
  deriving DecidableEq, Repr

variable {σ : Type}

def Deed.onState (s : State) : Deed → State
  | .tells a => s.apply a
  | _ => s

def Deed.glimpses (s : State) : Deed → List Glimpse
  | .opens request _ => [⟨.opening request, s.sessions⟩]
  | .asks number place => [⟨.asking number place, s.sessions⟩]
  | _ => []

/-- The deed of the next move of a run. -/
def Run.deed (tr : Transport σ) (r : Run) (w : World σ) : Deed :=
  match r.stage with
  | .ready => .nothing
  | .starting => .tells (.executionStarted r.session)
  | .opening => .opens r.request (tr.connect r.request w.link).1
  | .listening c _ _ => if c.silent then .nothing else .asks c.number c.asked
  | .logging lines _ _ _ => .tells (.executionLogged r.session.id lines)
  | .failing lines _ => .tells (.executionFailed r.session.id lines)
  | .completing lines _ => .tells (.executionLogged r.session.id lines)
  | .finishing _ => .tells (.executionCompleted r.session.id)
  | .ended _ => .nothing

namespace Job

/-- The run that the job makes, if it is at it. -/
def run? (j : Job) : Option Run :=
  match j.stage with
  | .running _ r => some r
  | _ => none

def session? (j : Job) : Option SessionId :=
  match j.stage with
  | .running _ r => some r.session.id
  | .reporting session _ _ => some session
  | .clearing session _ => some session
  | _ => none

/-- The deed of the next move of a job. -/
def deed (tr : Transport σ) (j : Job) (w : World σ) : Deed :=
  match j.stage with
  | .running _ r => r.deed tr w
  | .reporting session report _ => .tells (report.action session)
  | .clearing session _ => .tells (.executionCleared session)
  | _ => .nothing

def isRunning (j : Job) : Bool :=
  match j.run? with
  | some r => r.result?.isNone
  | none => false

end Job

namespace Task

def job? (t : Task) : Option Job :=
  match t.work with
  | .job j => some j
  | .selection j _ => some j
  | .clear _ => none

/-- The run that a task makes, if it is at it. -/
def run? (t : Task) : Option Run := t.job?.bind Job.run?

def session? (t : Task) : Option SessionId :=
  match t.work with
  | .job j => j.session?
  | .selection j _ => j.session?
  | .clear session => some session

/-- The deed of the next move of a task. -/
def deed (tr : Transport σ) (t : Task) (w : World σ) : Deed :=
  match t.work with
  | .job j => j.deed tr w
  | .selection j _ => j.deed tr w
  | .clear session => .tells (.executionCleared session)

/-- The task goes on with a run of this session. -/
def isLive (session : SessionId) (t : Task) : Bool :=
  match t.run? with
  | some r => r.session.id == session && r.result?.isNone
  | none => false

/-- One move of a task, if there is one, and what is left of it. What follows the run of a selection is
for its waiting part, which has to begin first. -/
def step (tr : Transport σ) (t : Task) (w : World σ) : Option (List Task × World σ) :=
  match t.work with
  | .job j => (j.step tr w).map fun m => ([{ t with work := .job m.1 }], m.2)
  | .selection j waiting =>
    if waiting == .begun || j.isRunning then
      (j.step tr w).map fun m => ([{ t with work := .selection m.1 waiting }], m.2)
    else none
  | .clear session => some ([], w.dispatch (.executionCleared session))

end Task

/-- What a task can be begun for. -/
inductive Errand where
  | run (plugin : Plugin) (resource : Resource)
  /-- A selection in one piece. -/
  | select (plugin : Plugin) (resource : Resource)
  /-- A selection in two halves. -/
  | selection (plugin : Plugin) (resource : Resource)
  /-- A refresh, done at the given time or else at that of the clock. -/
  | refresh (tab : String) (time : Option Instant)

/-- One thing that happens in a workspace. -/
inductive Turn where
  /-- The task at this place moves. -/
  | move (place : Nat)
  /-- The waiting part of the selection at this place has its turn. -/
  | await (place : Nat)
  /-- A handle is dropped, or a future where there is a runtime. -/
  | drop (handle : String)
  /-- A future is dropped on a thread without a runtime. -/
  | abandon (handle : String)
  /-- A join is dropped that waits for the task behind this handle. -/
  | detach (handle : String)
  /-- A handle is given back for the result of its task, if that has ended. -/
  | join (handle : String)
  /-- The tasks that have ended and that nobody holds go. -/
  | tidy
  | begin (handle : String) (errand : Errand)
  /-- Somebody who is no task tells the console an action. -/
  | tell (a : Action)
  /-- A channel is released once. -/
  | release (number : Nat)

namespace Workspace

def begin (handle : String) (errand : Errand) (ws : Workspace σ) : Workspace σ :=
  match errand with
  | .run plugin resource => (ws.spawnRun handle plugin resource).2
  | .select plugin resource =>
    let (id, w) := ws.world.freshSession
    spawn ⟨some handle, .job (.ofSelect (.ofPair id plugin resource))⟩ { ws with world := w }
  | .selection plugin resource => (ws.spawnSelect handle plugin resource).2
  | .refresh tab time => ws.spawn ⟨some handle, .job (.ofRefresh tab time)⟩

/-- One move of the task at a place, if it has one. -/
def moveAt (tr : Transport σ) (place : Nat) (ws : Workspace σ) : Workspace σ :=
  match ws.tasks[place]? with
  | none => ws
  | some t =>
    match t.step tr ws.world with
    | none => ws
    | some (left, w) => ⟨w, ws.tasks.take place ++ left ++ ws.tasks.drop (place + 1)⟩

/-- The turn of the waiting part at a place, if there is one. -/
def awaitAt (place : Nat) (ws : Workspace σ) : Workspace σ :=
  match ws.tasks[place]? with
  | none => ws
  | some t => { ws with tasks := ws.tasks.take place ++ t.await ++ ws.tasks.drop (place + 1) }

def turn (tr : Transport σ) (ws : Workspace σ) : Turn → Workspace σ
  | .move place => ws.moveAt tr place
  | .await place => ws.awaitAt place
  | .drop handle => ws.drop handle
  | .abandon handle => ws.abandon handle
  | .detach handle => ws.detach handle
  | .join handle => (ws.join handle).2
  | .tidy => { ws with tasks := ws.tasks.filter fun t => !t.isSpent }
  | .begin handle errand => ws.begin handle errand
  | .tell a => ws.onWorld (World.dispatch a)
  | .release number => ws.onWorld (World.release number)

def play (tr : Transport σ) (ws : Workspace σ) (turns : List Turn) : Workspace σ :=
  turns.foldl (turn tr) ws

/-- The deed of a turn, under the session that its task works for. -/
def deed? (tr : Transport σ) (ws : Workspace σ) : Turn → Option (SessionId × Deed)
  | .move place =>
    match ws.tasks[place]? with
    | none => none
    | some t =>
      match t.step tr ws.world with
      | none => none
      | some _ => t.session?.map fun session => (session, t.deed tr ws.world)
  | _ => none

/-- The deeds of several turns, in their order. -/
def deeds (tr : Transport σ) : Workspace σ → List Turn → List (SessionId × Deed)
  | _, [] => []
  | ws, u :: rest => (ws.deed? tr u).toList ++ deeds tr (ws.turn tr u) rest

def isLive (session : SessionId) (ws : Workspace σ) : Bool := ws.tasks.any (Task.isLive session)

/-- What the console shows of a session while its run goes on: whenever that changes, what it is then. -/
def course (tr : Transport σ) (session : SessionId) :
    Workspace σ → List Turn → List (Option Session)
  | _, [] => []
  | ws, u :: rest =>
    let ws' := ws.turn tr u
    let shown := ws'.world.state.session? session
    if (ws.isLive session || ws'.isLive session) && shown != ws.world.state.session? session then
      shown :: course tr session ws' rest
    else course tr session ws' rest

/-- No task has a move, and no waiting part of a selection is still to have its turn. -/
def Waits (tr : Transport σ) (ws : Workspace σ) : Prop :=
  ∀ t ∈ ws.tasks, t.step tr ws.world = none ∧ t.await = [t]

/-! ## Equations -/

@[simp] theorem play_nil (tr : Transport σ) (ws : Workspace σ) : ws.play tr [] = ws := rfl

@[simp] theorem play_cons (tr : Transport σ) (ws : Workspace σ) (u : Turn) (us : List Turn) :
    ws.play tr (u :: us) = (ws.turn tr u).play tr us := rfl

theorem play_append (tr : Transport σ) (ws : Workspace σ) (us vs : List Turn) :
    ws.play tr (us ++ vs) = (ws.play tr us).play tr vs := List.foldl_append

theorem deeds_append (tr : Transport σ) (ws : Workspace σ) (us vs : List Turn) :
    ws.deeds tr (us ++ vs) = ws.deeds tr us ++ (ws.play tr us).deeds tr vs := by
  induction us generalizing ws with
  | nil => rfl
  | cons u us ih => simp only [List.cons_append, deeds, ih, play_cons, List.append_assoc]

theorem course_append (tr : Transport σ) (session : SessionId) (ws : Workspace σ)
    (us vs : List Turn) :
    ws.course tr session (us ++ vs) =
      ws.course tr session us ++ (ws.play tr us).course tr session vs := by
  induction us generalizing ws with
  | nil => rfl
  | cons u us ih =>
    simp only [List.cons_append, course, ih, play_cons]
    split <;> rfl

end Workspace

end ScanConsole
