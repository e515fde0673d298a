import ScanConsole.Execution.Run

/-!
# Jobs

A job is a run with a purpose: for its own sake, to open a tab with the results,
or to refresh a tab that is open. A refresh looks its tab up first and takes the
time then; when its run has ended it tells the console the results, or the
failure, and for a tab that is gone it does nothing. `Job.step` is one move of a
job and `Job.settle` makes moves as long as there are any.
-/

namespace ScanConsole

/-- What a run is for. -/
inductive Purpose where
  | run
  /-- To open a tab. -/
  | select
  /-- To refresh a tab, which is done at this time. -/
  | refresh (tab : String) (time : Instant)
  deriving DecidableEq, Repr

/-- What a job gives back. -/
inductive Yield where
  | outcome (o : Outcome)
  /-- The identifier of the tab. -/
  | tab (id : String)
  /-- Whether a refresh found its tab when it began. -/
  | refreshed (found : Bool)

/-- What a job tells the console when its run has ended. -/
inductive Report where
  | opened (tab : Tab)
  | refreshed (tab : String) (results : List Screen) (logs : List String) (time : Instant)
  | refreshFailed (tab : String) (time : Instant)
  deriving DecidableEq, Repr

namespace Report

/-- The action of a report on the run of this session. -/
def action (session : SessionId) : Report → Action
  | .opened tab => .tabCreated tab
  | .refreshed tab results logs time => .tabRefreshed tab results logs time
  | .refreshFailed tab time => .tabRefreshFailed tab session time

/-- The session goes behind the report; that of a failed refresh stays on screen. -/
def clears : Report → Bool
  | .refreshFailed _ _ => false
  | _ => true

end Report

/-- Where a job stands. -/
inductive JobStage where
  /-- A refresh has to look its tab up; it is done at the given time or else at that of the clock. -/
  | looking (tab : String) (time : Option Instant)
  | running (purpose : Purpose) (r : Run)
  /-- The run of this session has ended, and a report of it is to be told. -/
  | reporting (session : SessionId) (report : Report) (result : Except Failure Yield)
  /-- The session is to be cleared, after which the job ends. -/
  | clearing (session : SessionId) (result : Except Failure Yield)
  | ended (result : Except Failure Yield)

structure Job where
  stage : JobStage

namespace Job

def ofRun (r : Run) : Job := ⟨.running .run r⟩

def ofSelect (r : Run) : Job := ⟨.running .select r⟩

def ofRefresh (tab : String) (time : Option Instant) : Job := ⟨.looking tab time⟩

/-- What the job gave back, if it has ended. -/
def result? (j : Job) : Option (Except Failure Yield) :=
  match j.stage with
  | .ended result => some result
  | _ => none

/-- The session that has to be cleared when the job is given up. -/
def orphan? (j : Job) : Option SessionId :=
  match j.stage with
  | .running _ r => r.orphan?
  | _ => none

variable {σ : Type}

/-- A refresh that begins: the tab is looked up, and a session and a time are taken. -/
def begin (tab : String) (time : Option Instant) (w : World σ) : JobStage × World σ :=
  match w.state.tab? tab with
  | none => (.ended (.ok (.refreshed false)), w)
  | some t =>
    let (id, w) := w.freshSession
    let (time, w) :=
      match time with
      | some time => (time, w)
      | none => w.now
    (.running (.refresh tab time) (.ofPair id t.plugin t.resource), w)

def conclude (purpose : Purpose) (r : Run) (result : Except Failure Outcome) (w : World σ) :
    JobStage × World σ :=
  match purpose, result with
  | .run, .ok o => (.ended (.ok (.outcome o)), w)
  | .select, .ok o =>
    let (time, w) := w.now
    let tab := Tab.create o.plugin o.resource o.results o.logs time
    (.reporting r.session.id (.opened tab) (.ok (.tab tab.id)), w.noteTab tab.id)
  | .refresh tab time, .ok o =>
    (.reporting r.session.id (.refreshed tab o.results o.logs time) (.ok (.refreshed true)), w)
  | .refresh tab time, .error f =>
    (.reporting r.session.id (.refreshFailed tab time) (.error f), w)
  | _, .error f => (.ended (.error f), w)

def afterReport (session : SessionId) (report : Report) (result : Except Failure Yield) : JobStage :=
  if report.clears then .clearing session result else .ended result

/-- One move, if there is one. -/
def step (tr : Transport σ) (j : Job) (w : World σ) : Option (Job × World σ) :=
  match j.stage with
  | .looking tab time =>
    let (stage, w) := begin tab time w
    some (⟨stage⟩, w)
  | .running purpose r =>
    match r.result? with
    | some result =>
      let (stage, w) := conclude purpose r result w
      some (⟨stage⟩, w)
    | none => (r.step tr w).map fun m => (⟨.running purpose m.1⟩, m.2)
  | .reporting session report result =>
    some (⟨afterReport session report result⟩, w.dispatch (report.action session))
  | .clearing session result => some (⟨.ended result⟩, w.dispatch (.executionCleared session))
  | .ended _ => none

end Job

/-! ## Settling -/

/-- How many parts of the job are still ahead. -/
def JobStage.rank : JobStage → Nat
  | .looking _ _ => 2
  | .running _ _ => 1
  | _ => 0

/-- How many stages of the run without a channel are still ahead. -/
def JobStage.runRank : JobStage → Nat
  | .running _ r => r.stage.rank
  | _ => 0

/-- A bound for the moves that are left in this part. -/
def JobStage.work : JobStage → Nat
  | .running _ r => r.stage.work
  | .reporting _ _ _ => 2
  | .clearing _ _ => 1
  | _ => 0

namespace Job

variable {σ : Type}

theorem rank_conclude (purpose : Purpose) (r : Run) (result : Except Failure Outcome)
    (w : World σ) : (conclude purpose r result w).1.rank = 0 := by
  unfold conclude
  split <;> rfl

theorem rank_begin_lt (tab : String) (time : Option Instant) (w : World σ) :
    (begin tab time w).1.rank < 2 := by
  unfold begin
  split <;> simp [JobStage.rank]

/-- Every move brings the job nearer to its end. -/
theorem step_decreases {tr : Transport σ} {j j' : Job} {w w' : World σ}
    (h : j.step tr w = some (j', w')) :
    j'.stage.rank < j.stage.rank ∨ (j'.stage.rank = j.stage.rank ∧
      (j'.stage.runRank < j.stage.runRank ∨
        (j'.stage.runRank = j.stage.runRank ∧ j'.stage.work < j.stage.work))) := by
  obtain ⟨stage⟩ := j
  unfold step at h
  cases stage with
  | looking tab time =>
    simp only [Option.some.injEq, Prod.mk.injEq] at h
    obtain ⟨rfl, _⟩ := h
    exact .inl (rank_begin_lt tab time w)
  | running purpose r =>
    cases hr : r.result? with
    | some result =>
      simp only [hr, Option.some.injEq, Prod.mk.injEq] at h
      obtain ⟨rfl, _⟩ := h
      refine .inl ?_
      show (conclude purpose r result w).1.rank < 1
      rw [rank_conclude]
      exact Nat.zero_lt_one
    | none =>
      simp only [hr, Option.map_eq_some_iff, Prod.mk.injEq] at h
      obtain ⟨⟨r', w₁⟩, hm, rfl, _⟩ := h
      exact .inr ⟨rfl, Run.step_decreases hm⟩
  | reporting session report result =>
    simp only [Option.some.injEq, Prod.mk.injEq] at h
    obtain ⟨rfl, _⟩ := h
    refine .inr ?_
    unfold afterReport
    split <;> simp [JobStage.rank, JobStage.runRank, JobStage.work]
  | clearing session result =>
    simp only [Option.some.injEq, Prod.mk.injEq] at h
    obtain ⟨rfl, _⟩ := h
    exact .inr (by simp [JobStage.rank, JobStage.runRank, JobStage.work])
  | ended result => simp at h

/-- Moves as long as there are any. -/
def settle (tr : Transport σ) (j : Job) (w : World σ) : Job × World σ :=
  match _moved : j.step tr w with
  | none => (j, w)
  | some (j', w') => settle tr j' w'
  termination_by (j.stage.rank, j.stage.runRank, j.stage.work)
  decreasing_by
    rcases step_decreases _moved with h | ⟨h, h' | ⟨h', h''⟩⟩
    · exact Prod.Lex.left _ _ h
    · rw [← h]; exact Prod.Lex.right _ (Prod.Lex.left _ _ h')
    · rw [← h, ← h']; exact Prod.Lex.right _ (Prod.Lex.right _ h'')

end Job

end ScanConsole
