import ScanConsole.Execution.Transcript
import ScanConsole.Execution.World

/-!
# Runs

A run takes a plugin through its execution on a resource. It starts its session,
opens a channel, takes one item after the other and tells the console what each
of them means, until an item ends it. `Run.step` is one such move; a run that
waits for its channel, and one that has ended, has none. `Run.settle` makes
moves as long as there are any.
-/

namespace ScanConsole

/-- What a successful run delivers. -/
structure Outcome where
  session : SessionId
  plugin : Plugin
  resource : Resource
  results : List Screen
  logs : List String
  deriving DecidableEq, Repr

/-- Where a run stands. -/
inductive Stage where
  /-- Nothing has happened yet. -/
  | ready
  /-- The start of the session is to be told. -/
  | starting
  /-- The session has started, and a channel is to be opened. -/
  | opening
  /-- Items are taken from a channel. -/
  | listening (channel : Channel) (transcript : Transcript) (logs : List String)
  /-- Lines are to be told, and then items are taken again. -/
  | logging (lines : List String) (channel : Channel) (transcript : Transcript) (logs : List String)
  /-- The failure is to be told with the last lines. -/
  | failing (lines : List String) (failure : Failure)
  /-- The last lines are to be told, and then the completion. -/
  | completing (lines : List String) (outcome : Outcome)
  /-- The completion is to be told. -/
  | finishing (outcome : Outcome)
  | ended (result : Except Failure Outcome)

/-- A run of a plugin on a resource. -/
structure Run where
  /-- The session as it starts. -/
  session : Session
  stage : Stage := .ready

namespace Run

/-- The last line of a session that lost its channel or never got one. -/
def connectionFailed : String := "Connection failed"

def ofPair (id : SessionId) (plugin : Plugin) (resource : Resource) : Run :=
  { session := .start id plugin resource }

def request (r : Run) : ExecutionRequest := ⟨r.session.plugin.name, r.session.resource.address⟩

def outcome (r : Run) (results : List Screen) (logs : List String) : Outcome :=
  ⟨r.session.id, r.session.plugin, r.session.resource, results, logs⟩

/-- The channel is lost. -/
def losing (f : Failure) : Stage := .failing [connectionFailed] f

/-- What follows an event of the channel; the channel then stands at `c`. -/
def onEvent (r : Run) (c : Channel) (t : Transcript) (logs : List String) (e : Event) : Stage :=
  match t.effect e with
  | .log [] => .listening c (t.after e) logs
  | .log lines => .logging lines c (t.after e) (logs ++ lines)
  | .fail lines => .failing lines (.stream ("\n".intercalate lines))
  | .complete lines results => .completing lines (r.outcome results (logs ++ lines))

/-- What follows asking the channel for its next item. -/
def onAsk (r : Run) (c : Channel) (t : Transcript) (logs : List String) : Stage :=
  match c.items with
  | [] => losing (.stream connectionFailed)
  | .failure f :: _ => losing f
  | .silence :: rest => .listening { c.next rest with silent := true } t logs
  | .event e :: rest => r.onEvent (c.next rest) t logs e

def onAnswer (r : Run) (number : Nat) : Answer → Stage
  | .refused f => losing f
  | .opened items => .listening { number := number, items := items } {} r.session.logs

variable {σ : Type}

/-- One move, if there is one. -/
def step (tr : Transport σ) (r : Run) (w : World σ) : Option (Run × World σ) :=
  match r.stage with
  | .ready => some ({ r with stage := .starting }, w)
  | .starting => some ({ r with stage := .opening }, w.dispatch (.executionStarted r.session))
  | .opening =>
    let (number, answer, w) := w.connect tr r.request
    some ({ r with stage := r.onAnswer number answer }, w)
  | .listening c t logs =>
    if c.silent then
      (w.useRelease? c.number).map fun w =>
        ({ r with stage := .listening { c with silent := false } t logs }, w)
    else some ({ r with stage := r.onAsk c t logs }, w.look (.asking c.number c.asked))
  | .logging lines c t logs =>
    some ({ r with stage := .listening c t logs }, w.dispatch (.executionLogged r.session.id lines))
  | .failing lines f =>
    some ({ r with stage := .ended (.error f) }, w.dispatch (.executionFailed r.session.id lines))
  | .completing lines o =>
    some ({ r with stage := .finishing o }, w.dispatch (.executionLogged r.session.id lines))
  | .finishing o =>
    some ({ r with stage := .ended (.ok o) }, w.dispatch (.executionCompleted r.session.id))
  | .ended _ => none

/-- What the run delivered, if it has ended. -/
def result? (r : Run) : Option (Except Failure Outcome) :=
  match r.stage with
  | .ended result => some result
  | _ => none

/-- The session that has to be cleared when the run is given up: none if the run has not begun or has
ended. -/
def orphan? (r : Run) : Option SessionId :=
  match r.stage with
  | .ready => none
  | .ended _ => none
  | _ => some r.session.id

end Run

/-! ## Settling -/

/-- How many stages without a channel are still ahead. -/
def Stage.rank : Stage → Nat
  | .ready => 3
  | .starting => 2
  | .opening => 1
  | _ => 0

/-- A bound for the moves that are left behind the opening. -/
def Stage.work : Stage → Nat
  | .listening c _ _ => 3 * c.items.length + (if c.silent then 1 else 0) + 3
  | .logging _ c _ _ => 3 * c.items.length + (if c.silent then 1 else 0) + 4
  | .failing _ _ => 1
  | .completing _ _ => 2
  | .finishing _ => 1
  | _ => 0

namespace Run

variable {σ : Type}

theorem rank_onAsk (r : Run) (c : Channel) (t : Transcript) (logs : List String) :
    (r.onAsk c t logs).rank = 0 := by
  unfold onAsk onEvent losing
  repeat' split
  all_goals rfl

theorem work_onAsk_lt (r : Run) (c : Channel) (t : Transcript) (logs : List String)
    (hs : c.silent = false) : (r.onAsk c t logs).work < 3 * c.items.length + 3 := by
  unfold onAsk onEvent losing
  repeat' split
  all_goals simp_all [Stage.work, Channel.next]
  all_goals omega

theorem rank_onAnswer (r : Run) (number : Nat) (a : Answer) : (r.onAnswer number a).rank = 0 := by
  cases a <;> rfl

/-- A run that has ended has no move. -/
theorem result?_of_step {tr : Transport σ} {r r' : Run} {w w' : World σ}
    (h : r.step tr w = some (r', w')) : r.result? = none := by
  obtain ⟨session, stage⟩ := r
  cases stage <;> first
    | rfl
    | cases h

/-- Every move brings the run nearer to its end. -/
theorem step_decreases {tr : Transport σ} {r r' : Run} {w w' : World σ}
    (h : r.step tr w = some (r', w')) :
    r'.stage.rank < r.stage.rank ∨
      (r'.stage.rank = r.stage.rank ∧ r'.stage.work < r.stage.work) := by
  obtain ⟨session, stage⟩ := r
  unfold step at h
  cases stage with
  | ready =>
    simp only [Option.some.injEq, Prod.mk.injEq] at h
    obtain ⟨rfl, _⟩ := h
    exact .inl (by simp [Stage.rank])
  | starting =>
    simp only [Option.some.injEq, Prod.mk.injEq] at h
    obtain ⟨rfl, _⟩ := h
    exact .inl (by simp [Stage.rank])
  | opening =>
    simp only [Option.some.injEq, Prod.mk.injEq] at h
    obtain ⟨rfl, _⟩ := h
    exact .inl (by rw [rank_onAnswer]; exact Nat.zero_lt_one)
  | listening c t logs =>
    refine .inr ?_
    by_cases hs : c.silent = true
    · simp only [hs, if_true, Option.map_eq_some_iff, Prod.mk.injEq] at h
      obtain ⟨w₁, _, rfl, _⟩ := h
      simp [Stage.rank, Stage.work, hs]
    · simp only [hs, Bool.false_eq_true, if_false, Option.some.injEq, Prod.mk.injEq] at h
      obtain ⟨rfl, _⟩ := h
      refine ⟨by simpa [Stage.rank] using rank_onAsk _ c t logs, ?_⟩
      have hlt := work_onAsk_lt ⟨session, .listening c t logs⟩ c t logs (by simpa using hs)
      exact Nat.lt_of_lt_of_le hlt (by simp [Stage.work, hs])
  | logging lines c t logs =>
    simp only [Option.some.injEq, Prod.mk.injEq] at h
    obtain ⟨rfl, _⟩ := h
    exact .inr ⟨rfl, by simp [Stage.work]⟩
  | failing lines f =>
    simp only [Option.some.injEq, Prod.mk.injEq] at h
    obtain ⟨rfl, _⟩ := h
    exact .inr ⟨rfl, by simp [Stage.work]⟩
  | completing lines o =>
    simp only [Option.some.injEq, Prod.mk.injEq] at h
    obtain ⟨rfl, _⟩ := h
    exact .inr ⟨rfl, by simp [Stage.work]⟩
  | finishing o =>
    simp only [Option.some.injEq, Prod.mk.injEq] at h
    obtain ⟨rfl, _⟩ := h
    exact .inr ⟨rfl, by simp [Stage.work]⟩
  | ended result => simp at h

/-- Moves as long as there are any. -/
def settle (tr : Transport σ) (r : Run) (w : World σ) : Run × World σ :=
  match _moved : r.step tr w with
  | none => (r, w)
  | some (r', w') => settle tr r' w'
  termination_by (r.stage.rank, r.stage.work)
  decreasing_by
    rcases step_decreases _moved with h | ⟨h, h'⟩
    · exact Prod.Lex.left _ _ h
    · rw [← h]; exact Prod.Lex.right _ h'

end Run

end ScanConsole
