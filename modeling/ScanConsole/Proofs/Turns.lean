import ScanConsole.Jobs.Turn
import ScanConsole.Proofs.Sessions

/-!
# What a turn can do

`Change` lists what a turn can do to a workspace, and `change_turn` says that
there is nothing else:

    change_turn tr ws u : Change tr ws u (ws.deed? tr u) (ws.turn tr u)

What is proved of interleavings is proved by the cases of `Change`, never by
unfolding `Workspace.turn`. A constructor says of the tasks around the one that
has the turn only that they stay in their order, so the place at which a task
stands, by which `Turn.move` names it, plays no part in any later proof.

Three facts about moves carry what is proved of interleavings:

    a move does to the console what its deed shows                   (`Task.step_deed`)
    it drives no session but the one that its task works for         (`Task.drives_deed`)
    what is left of a task works for that session, or a fresh one    (`Task.step_sessions`)

Each is proved of a run first, then of a job, which mostly does what its run
does, and then of a task, which mostly does what its job does. None of them has
a hypothesis on the workspace or on the transport.

A turn that cannot happen is a `Change` too, since it leaves the workspace as it
is: `Change.thinned` takes no task away then.
-/

namespace ScanConsole

variable {σ : Type} {tr : Transport σ}

/-! ## A move and its deed

A run keeps its session and takes none from the supply (`Run.step_session`), and
what it tells drives that session (`Run.drives_deed`). The only move that does
not show is that of a silent channel, which uses a release up. -/

/-- What a move does to the console is what its deed shows. -/
structure Shows (d : Deed) (w w' : World σ) : Prop where
  state : w'.state = d.onState w.state
  glimpses : w'.glimpses = w.glimpses ++ d.glimpses w.state

theorem shows_dispatch (a : Action) (w : World σ) : Shows (.tells a) w (w.dispatch a) :=
  ⟨rfl, (List.append_nil _).symm⟩

theorem shows_nothing {w w' : World σ} (hs : w'.state = w.state) (hg : w'.glimpses = w.glimpses) :
    Shows .nothing w w' :=
  ⟨hs, hg.trans (List.append_nil _).symm⟩

theorem eq_of_useRelease? {n : Nat} {w w' : World σ} (h : w.useRelease? n = some w') :
    w' = { w with releases := w.releases.erase n } := by
  unfold World.useRelease? at h
  split at h
  · exact (Option.some.inj h).symm
  · cases h

theorem Run.step_deed {r r' : Run} {w w' : World σ} (h : r.step tr w = some (r', w')) :
    Shows (r.deed tr w) w w' := by
  obtain ⟨session, stage⟩ := r
  cases stage with
  | ready => cases h; exact shows_nothing rfl rfl
  | starting => cases h; exact shows_dispatch _ _
  | opening => cases h; exact ⟨rfl, rfl⟩
  | listening c t logs =>
    unfold Run.step at h
    unfold Run.deed
    by_cases hs : c.silent = true
    · simp only [hs, if_true, Option.map_eq_some_iff, Prod.mk.injEq] at h ⊢
      obtain ⟨w₁, hw, -, rfl⟩ := h
      rw [eq_of_useRelease? hw]
      exact shows_nothing rfl rfl
    · simp only [hs, Bool.false_eq_true, if_false, Option.some.injEq, Prod.mk.injEq] at h ⊢
      obtain ⟨-, rfl⟩ := h
      exact ⟨rfl, rfl⟩
  | logging lines c t logs => cases h; exact shows_dispatch _ _
  | failing lines f => cases h; exact shows_dispatch _ _
  | completing lines o => cases h; exact shows_dispatch _ _
  | finishing o => cases h; exact shows_dispatch _ _
  | ended result => cases h

theorem Run.step_session {r r' : Run} {w w' : World σ} (h : r.step tr w = some (r', w')) :
    r'.session = r.session ∧ w'.nextSession = w.nextSession := by
  obtain ⟨session, stage⟩ := r
  cases stage with
  | listening c t logs =>
    unfold Run.step at h
    by_cases hs : c.silent = true
    · simp only [hs, if_true, Option.map_eq_some_iff, Prod.mk.injEq] at h
      obtain ⟨w₁, hw, rfl, rfl⟩ := h
      rw [eq_of_useRelease? hw]
      exact ⟨rfl, rfl⟩
    · simp only [hs, Bool.false_eq_true, if_false, Option.some.injEq, Prod.mk.injEq] at h
      obtain ⟨rfl, rfl⟩ := h
      exact ⟨rfl, rfl⟩
  | ended result => cases h
  | _ => cases h; exact ⟨rfl, rfl⟩

theorem Run.drives_deed {r : Run} {w : World σ} {a : Action} (h : r.deed tr w = .tells a) :
    a.drives? = some r.session.id := by
  obtain ⟨session, stage⟩ := r
  cases stage with
  | listening c t logs =>
    simp only [Run.deed] at h
    split at h <;> cases h
  | _ => cases h <;> rfl

/-! ## Jobs

A job is a run with something before it and something behind it, and `JobMove`
has a constructor for each part. That a job has no other moves (`jobMove_step`)
is the inversion lemma which all later proofs about jobs use in place of
`Job.step`. Behind a move a job works for the session that it worked for, for
none, or for a fresh one. -/

/-- One move of a job, by what it is. -/
inductive JobMove (tr : Transport σ) (w : World σ) : Job → Job → World σ → Prop
  /-- The tab of a refresh is gone. -/
  | missed (tab : String) (time : Option Instant) :
      JobMove tr w ⟨.looking tab time⟩ ⟨.ended (.ok (.refreshed false))⟩ w
  | began (tab : String) (time : Option Instant) (at' : Instant) (t : Tab) (clock : Instant) :
      w.state.tab? tab = some t → at' = time.getD w.clock →
      JobMove tr w ⟨.looking tab time⟩
        ⟨.running (.refresh tab at') (.ofPair ⟨w.nextSession⟩ t.plugin t.resource)⟩
        { w with nextSession := w.nextSession + 1, clock := clock }
  | ran (p : Purpose) (r r' : Run) (w' : World σ) : r.step tr w = some (r', w') →
      JobMove tr w ⟨.running p r⟩ ⟨.running p r'⟩ w'
  | concluded (p : Purpose) (r : Run) (result : Except Failure Outcome) : r.stage = .ended result →
      JobMove tr w ⟨.running p r⟩ ⟨(Job.conclude p r result w).1⟩ (Job.conclude p r result w).2
  | reported (session : SessionId) (report : Report) (result : Except Failure Yield) :
      JobMove tr w ⟨.reporting session report result⟩ ⟨Job.afterReport session report result⟩
        (w.dispatch (report.action session))
  | cleared (session : SessionId) (result : Except Failure Yield) :
      JobMove tr w ⟨.clearing session result⟩ ⟨.ended result⟩ (w.dispatch (.executionCleared session))

theorem Run.stage_of_result? {r : Run} {result : Except Failure Outcome}
    (h : r.result? = some result) : r.stage = .ended result := by
  obtain ⟨session, stage⟩ := r
  cases stage <;> cases h
  rfl

theorem jobMove_step {j j' : Job} {w w' : World σ} (h : j.step tr w = some (j', w')) :
    JobMove tr w j j' w' := by
  obtain ⟨stage⟩ := j
  cases stage with
  | looking tab time =>
    simp only [Job.step, Job.begin] at h
    cases htab : w.state.tab? tab with
    | none =>
      simp only [htab, Option.some.injEq, Prod.mk.injEq] at h
      obtain ⟨rfl, rfl⟩ := h
      exact .missed tab time
    | some t =>
      simp only [htab, Option.some.injEq, Prod.mk.injEq] at h
      obtain ⟨rfl, rfl⟩ := h
      cases time with
      | none => exact .began tab none _ t _ htab rfl
      | some time => exact .began tab (some time) _ t w.clock htab rfl
  | running p r =>
    simp only [Job.step] at h
    cases hr : r.result? with
    | none =>
      simp only [hr, Option.map_eq_some_iff, Prod.mk.injEq] at h
      obtain ⟨⟨r', w₁⟩, hm, rfl, rfl⟩ := h
      exact .ran p r r' w₁ hm
    | some result =>
      simp only [hr, Option.some.injEq, Prod.mk.injEq] at h
      obtain ⟨rfl, rfl⟩ := h
      exact .concluded p r result (Run.stage_of_result? hr)
  | reporting session report result => cases h; exact .reported session report result
  | clearing session result => cases h; exact .cleared session result
  | ended result => cases h

theorem conclude_world (p : Purpose) (r : Run) (result : Except Failure Outcome) (w : World σ) :
    (Job.conclude p r result w).2.state = w.state ∧
      (Job.conclude p r result w).2.glimpses = w.glimpses ∧
      (Job.conclude p r result w).2.nextSession = w.nextSession := by
  unfold Job.conclude
  split <;> exact ⟨rfl, rfl, rfl⟩

theorem conclude_session (p : Purpose) (r : Run) (result : Except Failure Outcome) (w : World σ) :
    ∀ s, (⟨(Job.conclude p r result w).1⟩ : Job).session? = some s → s = r.session.id := by
  intro s
  unfold Job.conclude
  split <;> intro h <;> cases h <;> rfl

theorem conclude_run? (p : Purpose) (r : Run) (result : Except Failure Outcome) (w : World σ) :
    (⟨(Job.conclude p r result w).1⟩ : Job).run? = none := by
  unfold Job.conclude
  split <;> rfl

theorem afterReport_session {session s : SessionId} {report : Report}
    {result : Except Failure Yield}
    (h : (⟨Job.afterReport session report result⟩ : Job).session? = some s) : s = session := by
  unfold Job.afterReport at h
  split at h <;> cases h
  rfl

theorem afterReport_run? (session : SessionId) (report : Report) (result : Except Failure Yield) :
    (⟨Job.afterReport session report result⟩ : Job).run? = none := by
  unfold Job.afterReport
  split <;> rfl

theorem Job.step_deed {j j' : Job} {w w' : World σ} (h : j.step tr w = some (j', w')) :
    Shows (j.deed tr w) w w' := by
  cases jobMove_step h with
  | missed tab time => exact shows_nothing rfl rfl
  | began tab time at' t clock ht => exact shows_nothing rfl rfl
  | ran p r r' w' hr => exact Run.step_deed hr
  | concluded p r result hr =>
    obtain ⟨hs, hg, -⟩ := conclude_world p r result w
    have hd : (⟨.running p r⟩ : Job).deed tr w = .nothing := by
      simp only [Job.deed, Run.deed, hr]
    rw [hd]
    exact shows_nothing hs hg
  | reported session report result => exact shows_dispatch _ _
  | cleared session result => exact shows_dispatch _ _

theorem Job.drives_deed {j : Job} {w : World σ} {a : Action} {s : SessionId}
    (h : j.deed tr w = .tells a) (ha : a.drives? = some s) : j.session? = some s := by
  obtain ⟨stage⟩ := j
  cases stage with
  | running p r => exact (Run.drives_deed h).symm.trans ha
  | reporting session report result =>
    cases h
    cases report <;> cases ha
  | clearing session result => cases h; exact ha
  | _ => cases h

theorem Job.step_session {j j' : Job} {w w' : World σ} (h : j.step tr w = some (j', w')) :
    (w'.nextSession = w.nextSession ∧ ∀ s, j'.session? = some s → j.session? = some s) ∨
      (w'.nextSession = w.nextSession + 1 ∧ j.session? = none ∧
        j'.session? = some ⟨w.nextSession⟩) := by
  cases jobMove_step h with
  | missed tab time => exact .inl ⟨rfl, fun s hs => by cases hs⟩
  | began tab time at' t clock ht => exact .inr ⟨rfl, rfl, rfl⟩
  | ran p r r' w' hr =>
    obtain ⟨hs, hn⟩ := Run.step_session hr
    exact .inl ⟨hn, fun s h => by rw [← h]; exact congrArg (fun x : Session => some x.id) hs.symm⟩
  | concluded p r result hr =>
    obtain ⟨-, -, hn⟩ := conclude_world p r result w
    exact .inl ⟨hn, fun s hs => by rw [conclude_session p r result w s hs]; rfl⟩
  | reported session report result =>
    exact .inl ⟨rfl, fun s hs => by rw [afterReport_session hs]; rfl⟩
  | cleared session result => exact .inl ⟨rfl, fun s hs => by cases hs⟩

/-! ## Tasks

A task clears a session and is gone, or its job moves (`Task.step_cases`); and
as long as its run goes on, a job or a selection moves as the run does
(`Task.step_job_of_none`, `Task.step_selection_of_none`).

`Task.session?` is what later proofs follow a task by. What is left of a task
works for the session that the task worked for: after a move, if it is not a
fresh one, after the turn of a waiting part, and after a drop. -/

def Task.withJob (t : Task) (j : Job) : Task :=
  match t.work with
  | .job _ => { t with work := .job j }
  | .selection _ awaited => { t with work := .selection j awaited }
  | .clear _ => t

theorem Task.session?_of_job? {t : Task} {j : Job} (h : t.job? = some j) :
    t.session? = j.session? := by
  obtain ⟨handle, work⟩ := t
  cases work <;> cases h <;> rfl

theorem Task.deed_of_job? {t : Task} {j : Job} (h : t.job? = some j) (w : World σ) :
    t.deed tr w = j.deed tr w := by
  obtain ⟨handle, work⟩ := t
  cases work <;> cases h <;> rfl

theorem Task.job?_withJob {t : Task} {j j' : Job} (h : t.job? = some j) :
    (t.withJob j').job? = some j' := by
  obtain ⟨handle, work⟩ := t
  cases work <;> cases h <;> rfl

theorem Task.step_cases {t : Task} {left : List Task} {w w' : World σ}
    (h : t.step tr w = some (left, w')) :
    (∃ s, t.work = .clear s ∧ left = [] ∧ w' = w.dispatch (.executionCleared s)) ∨
      ∃ j j', t.job? = some j ∧ j.step tr w = some (j', w') ∧ left = [t.withJob j'] := by
  obtain ⟨handle, work⟩ := t
  cases work with
  | job j =>
    simp only [Task.step, Option.map_eq_some_iff, Prod.mk.injEq] at h
    obtain ⟨⟨j', w₁⟩, hm, rfl, rfl⟩ := h
    exact .inr ⟨j, j', rfl, hm, rfl⟩
  | selection j awaited =>
    simp only [Task.step] at h
    split at h
    · simp only [Option.map_eq_some_iff, Prod.mk.injEq] at h
      obtain ⟨⟨j', w₁⟩, hm, rfl, rfl⟩ := h
      exact .inr ⟨j, j', rfl, hm, rfl⟩
    · cases h
  | clear s => cases h; exact .inl ⟨s, rfl, rfl, rfl⟩

theorem Task.step_deed {t : Task} {left : List Task} {w w' : World σ}
    (h : t.step tr w = some (left, w')) : Shows (t.deed tr w) w w' := by
  rcases Task.step_cases h with ⟨s, hw, -, rfl⟩ | ⟨j, j', hj, hm, -⟩
  · have hd : t.deed tr w = .tells (.executionCleared s) := by simp only [Task.deed, hw]
    rw [hd]
    exact shows_dispatch _ _
  · rw [Task.deed_of_job? hj]
    exact Job.step_deed hm

theorem Task.drives_deed {t : Task} {w : World σ} {a : Action} {s : SessionId}
    (h : t.deed tr w = .tells a) (ha : a.drives? = some s) : t.session? = some s := by
  cases hj : t.job? with
  | some j =>
    rw [Task.deed_of_job? hj] at h
    rw [Task.session?_of_job? hj]
    exact Job.drives_deed h ha
  | none =>
    obtain ⟨handle, work⟩ := t
    cases work with
    | clear s' => cases h; exact ha
    | _ => cases hj

theorem Task.step_sessions {t : Task} {left : List Task} {w w' : World σ}
    (h : t.step tr w = some (left, w')) :
    (w'.nextSession = w.nextSession ∧
        (left.filterMap Task.session?).Sublist t.session?.toList) ∨
      (w'.nextSession = w.nextSession + 1 ∧ t.session? = none ∧
        left.filterMap Task.session? = [⟨w.nextSession⟩]) := by
  rcases Task.step_cases h with ⟨s, -, rfl, rfl⟩ | ⟨j, j', hj, hm, rfl⟩
  · exact .inl ⟨rfl, List.nil_sublist _⟩
  · have hj' : (t.withJob j').session? = j'.session? :=
      Task.session?_of_job? (Task.job?_withJob hj)
    rw [Task.session?_of_job? hj]
    rcases Job.step_session hm with ⟨hn, hs⟩ | ⟨hn, h₀, hs⟩
    · refine .inl ⟨hn, ?_⟩
      cases hs' : j'.session? with
      | none =>
        rw [List.filterMap_cons_none (hj'.trans hs')]
        exact List.nil_sublist _
      | some s =>
        rw [List.filterMap_cons_some (hj'.trans hs'), hs s hs']
        exact List.Sublist.refl _
    · exact .inr ⟨hn, h₀, List.filterMap_cons_some (hj'.trans hs)⟩

theorem Task.step_job_of_none {r : Run} (handle : Option String) (p : Purpose) (hr : r.result? = none)
    (w : World σ) :
    Task.step tr ⟨handle, .job ⟨.running p r⟩⟩ w =
      (r.step tr w).map fun m => ([⟨handle, .job ⟨.running p m.1⟩⟩], m.2) := by
  simp only [Task.step, Job.step, hr, Option.map_map]
  rfl

theorem Task.step_selection_of_none {handle : Option String} {p : Purpose} {r : Run}
    (waiting : Waiting) (hr : r.result? = none) (w : World σ) :
    Task.step tr ⟨handle, .selection ⟨.running p r⟩ waiting⟩ w =
      (r.step tr w).map fun m => ([⟨handle, .selection ⟨.running p m.1⟩ waiting⟩], m.2) := by
  simp only [Task.step, Job.isRunning, Job.run?, Job.step, hr, Option.isNone_none, Bool.or_true,
    if_true, Option.map_map]
  rfl

theorem Task.sessions_remains (j : Job) :
    ((Task.remains j).filterMap Task.session?).Sublist j.session?.toList := by
  obtain ⟨stage⟩ := j
  cases stage with
  | running p r =>
    obtain ⟨session, stage⟩ := r
    cases stage <;> first
      | exact List.nil_sublist _
      | exact List.Sublist.refl _
  | _ => exact List.nil_sublist _

theorem Task.sessions_await (t : Task) :
    (t.await.filterMap Task.session?).Sublist t.session?.toList := by
  have single (t : Task) : ([t].filterMap Task.session?).Sublist t.session?.toList := by
    cases h : t.session? <;> simp [h]
  obtain ⟨handle, work⟩ := t
  cases work with
  | selection j waiting =>
    cases waiting with
    | ahead => exact single ⟨handle, .selection j .begun⟩
    | begun => exact single ⟨handle, .selection j .begun⟩
    | givenUp => exact sessions_remains j
  | job j => exact single ⟨handle, .job j⟩
  | clear s => exact List.Sublist.refl _

theorem Task.sessions_dropped (t : Task) :
    (t.dropped.filterMap Task.session?).Sublist t.session?.toList := by
  have given (j : Job) :
      ([⟨none, .selection j .givenUp⟩].filterMap Task.session?).Sublist j.session?.toList := by
    cases h : j.session? <;> simp [Task.session?, h]
  obtain ⟨handle, work⟩ := t
  cases work with
  | job j => exact sessions_remains j
  | selection j waiting =>
    obtain ⟨stage⟩ := j
    cases waiting with
    | begun =>
      cases stage with
      | running p r => exact List.Sublist.refl _
      | _ => exact List.nil_sublist _
    | ahead => cases stage <;> exact given _
    | givenUp => cases stage <;> exact given _
  | clear s => exact List.Sublist.refl _

/-! ## Tasks that are let go

There are three turns that let a task go, and they leave different things. Most
proofs need no more than that whatever is left is left of a drop, or is the task
itself (`Task.LetGo.mem`); without a runtime, nothing is left at all or what is
left anyway (`Task.abandoned_cases`). -/

/-- What a turn that lets a task go leaves of it. -/
inductive Task.LetGo (t : Task) : Turn → List Task → Prop
  | dropped {handle : String} : t.handle = some handle → LetGo t (.drop handle) t.dropped
  | abandoned {handle : String} : t.handle = some handle → LetGo t (.abandon handle) t.abandoned
  | detached {handle : String} : t.handle = some handle → LetGo t (.detach handle) [t.unheld]

theorem Task.abandoned_cases (t : Task) : t.abandoned = [] ∨ t.abandoned = t.dropped := by
  obtain ⟨handle, work⟩ := t
  cases work with
  | job j => exact .inl rfl
  | selection j waiting => exact .inr rfl
  | clear s => exact .inr rfl

namespace Task.LetGo

variable {t t' : Task} {u : Turn} {left : List Task}

theorem held (h : t.LetGo u left) : ∃ handle, t.handle = some handle := by
  cases h with
  | dropped hh => exact ⟨_, hh⟩
  | abandoned hh => exact ⟨_, hh⟩
  | detached hh => exact ⟨_, hh⟩

theorem mem (h : t.LetGo u left) (ht' : t' ∈ left) : t' ∈ t.dropped ∨ t' = t.unheld := by
  cases h with
  | dropped hh => exact .inl ht'
  | abandoned hh =>
    rcases t.abandoned_cases with hnil | heq
    · rw [hnil] at ht'
      cases ht'
    · exact .inl (heq ▸ ht')
  | detached hh => exact .inr (List.mem_singleton.mp ht')

theorem sessions (h : t.LetGo u left) :
    (left.filterMap Task.session?).Sublist t.session?.toList := by
  cases h with
  | dropped hh => exact t.sessions_dropped
  | abandoned hh =>
    rcases t.abandoned_cases with hnil | heq
    · rw [hnil]
      exact List.nil_sublist _
    · rw [heq]
      exact t.sessions_dropped
  | detached hh =>
    have hs : t.unheld.session? = t.session? := rfl
    cases h : t.session? <;> simp [hs, h]

end Task.LetGo

/-! ## Turns

The constructors `moved`, `awaited` and `letGo` are about one task, which has
others on both sides. `thinned` is what joins and tidying do: tasks that have
ended go. A task after a turn was there before, has come out of one that was, or
has just begun (`mem_change`). -/

/-- What a turn can do, with the deed that it shows. -/
inductive Change (tr : Transport σ) (ws : Workspace σ) :
    Turn → Option (SessionId × Deed) → Workspace σ → Prop
  | moved {place : Nat} {l r left : List Task} {t : Task} {w : World σ} :
      ws.tasks = l ++ t :: r → t.step tr ws.world = some (left, w) →
      Change tr ws (.move place) (t.session?.map (·, t.deed tr ws.world)) ⟨w, l ++ left ++ r⟩
  | awaited {place : Nat} {l r : List Task} {t : Task} : ws.tasks = l ++ t :: r →
      Change tr ws (.await place) none ⟨ws.world, l ++ t.await ++ r⟩
  | letGo {u : Turn} {l r left : List Task} {t : Task} : ws.tasks = l ++ t :: r → t.LetGo u left →
      Change tr ws u none ⟨ws.world, l ++ r ++ left⟩
  /-- Tasks that have ended go, if anything happens at all. -/
  | thinned {u : Turn} {tasks : List Task} : tasks.Sublist ws.tasks →
      (∀ t ∈ ws.tasks, t.result? = none → t ∈ tasks) → Change tr ws u none ⟨ws.world, tasks⟩
  | begun {handle : String} {errand : Errand} {t : Task} {n : Nat} :
      (n = ws.world.nextSession ∧ t.session? = none) ∨
        (n = ws.world.nextSession + 1 ∧ t.session? = some ⟨ws.world.nextSession⟩) →
      (∀ r, t.run? = some r → ∃ plugin resource,
        r = .ofPair ⟨ws.world.nextSession⟩ plugin resource) →
      (∀ s, t.session? = some s → ∃ r, t.job? = some (.ofRun r) ∨ t.job? = some (.ofSelect r)) →
      Change tr ws (.begin handle errand) none
        ⟨{ ws.world with nextSession := n }, ws.tasks ++ [t]⟩
  | told {a : Action} : Change tr ws (.tell a) none ⟨ws.world.dispatch a, ws.tasks⟩
  | released {number : Nat} :
      Change tr ws (.release number) none ⟨ws.world.release number, ws.tasks⟩

theorem change_stay (ws : Workspace σ) (u : Turn) : Change tr ws u none ws :=
  .thinned (List.Sublist.refl _) fun _ ht _ => ht

theorem split_of_getElem? {α : Type} {xs : List α} {place : Nat} {x : α} (h : xs[place]? = some x) :
    xs = xs.take place ++ x :: xs.drop (place + 1) := by
  obtain ⟨hlt, rfl⟩ := List.getElem?_eq_some_iff.mp h
  rw [← List.drop_eq_getElem_cons hlt, List.take_append_drop]

theorem change_move (ws : Workspace σ) (place : Nat) :
    Change tr ws (.move place) (ws.deed? tr (.move place)) (ws.moveAt tr place) := by
  cases ht : ws.tasks[place]? with
  | none =>
    simp only [Workspace.moveAt, Workspace.deed?, ht]
    exact change_stay ws _
  | some t =>
    cases hm : t.step tr ws.world with
    | none =>
      simp only [Workspace.moveAt, Workspace.deed?, ht, hm]
      exact change_stay ws _
    | some m =>
      obtain ⟨left, w⟩ := m
      simp only [Workspace.moveAt, Workspace.deed?, ht, hm]
      exact .moved (split_of_getElem? ht) hm

theorem change_await (ws : Workspace σ) (place : Nat) :
    Change tr ws (.await place) none (ws.awaitAt place) := by
  unfold Workspace.awaitAt
  cases ht : ws.tasks[place]? with
  | none => exact change_stay ws _
  | some t => exact .awaited (split_of_getElem? ht)

theorem tasks_of_task? {ws : Workspace σ} {handle : String} {t : Task}
    (h : ws.task? handle = some t) :
    ∃ l r, ws.tasks = l ++ t :: r ∧ t.handle = some handle ∧
      (ws.tasks.eraseP fun t => t.handle == some handle) = l ++ r := by
  obtain ⟨hp, l, r, htasks, hl⟩ := List.find?_eq_some_iff_append.mp h
  have hl' : ∀ x ∈ l, ¬ (x.handle == some handle) = true := fun x hx => by simpa using hl x hx
  refine ⟨l, r, htasks, by simpa using hp, ?_⟩
  rw [htasks, List.eraseP_append_right _ hl']
  exact congrArg (l ++ ·) (List.eraseP_cons_of_pos hp)

theorem change_letGo (ws : Workspace σ) {u : Turn} {handle : String} {left : Task → List Task}
    (hleft : ∀ t : Task, t.handle = some handle → t.LetGo u (left t)) :
    Change tr ws u none (ws.letGo left handle) := by
  unfold Workspace.letGo
  cases h : ws.task? handle with
  | none => exact change_stay ws _
  | some t =>
    obtain ⟨l, r, htasks, hh, he⟩ := tasks_of_task? h
    simp only [he]
    exact .letGo htasks (hleft t hh)

theorem change_join (ws : Workspace σ) (handle : String) :
    Change tr ws (.join handle) none (ws.join handle).2 := by
  unfold Workspace.join
  cases h : ws.task? handle with
  | none => exact change_stay ws _
  | some t =>
    cases hr : t.result? with
    | none =>
      simp only [Option.bind_some, hr]
      exact change_stay ws _
    | some result =>
      simp only [Option.bind_some, hr]
      obtain ⟨l, r, htasks, -, he⟩ := tasks_of_task? h
      refine .thinned List.eraseP_sublist fun x hx hn => ?_
      rw [he]
      rw [htasks] at hx
      rcases List.mem_append.mp hx with hx | hx
      · exact List.mem_append_left _ hx
      · rcases List.mem_cons.mp hx with rfl | hx
        · cases hr.symm.trans hn
        · exact List.mem_append_right _ hx

theorem change_begin (ws : Workspace σ) (handle : String) (errand : Errand) :
    Change tr ws (.begin handle errand) none (ws.begin handle errand) := by
  cases errand with
  | refresh tab time =>
    exact .begun (t := ⟨some handle, .job (.ofRefresh tab time)⟩) (n := ws.world.nextSession)
      (.inl ⟨rfl, rfl⟩) (fun r hr => by cases hr) fun s hs => by cases hs
  | run plugin resource =>
    exact .begun (.inr ⟨rfl, rfl⟩) (fun r hr => ⟨plugin, resource, (Option.some.inj hr).symm⟩)
      fun s _ => ⟨_, .inl rfl⟩
  | _ plugin resource =>
    exact .begun (.inr ⟨rfl, rfl⟩) (fun r hr => ⟨plugin, resource, (Option.some.inj hr).symm⟩)
      fun s _ => ⟨_, .inr rfl⟩

/-- There is nothing else. -/
theorem change_turn (tr : Transport σ) (ws : Workspace σ) (u : Turn) :
    Change tr ws u (ws.deed? tr u) (ws.turn tr u) := by
  cases u with
  | move place => exact change_move ws place
  | await place => exact change_await ws place
  | drop handle => exact change_letGo ws fun _ => .dropped
  | abandon handle => exact change_letGo ws fun _ => .abandoned
  | detach handle => exact change_letGo ws fun _ => .detached
  | join handle => exact change_join ws handle
  | tidy =>
    refine .thinned List.filter_sublist fun t ht hn => List.mem_filter.mpr ⟨ht, ?_⟩
    simp [Task.isSpent, hn]
  | begin handle errand => exact change_begin ws handle errand
  | tell a => exact .told
  | release number => exact .released

theorem mem_change {ws ws' : Workspace σ} {u : Turn} {d : Option (SessionId × Deed)}
    (h : Change tr ws u d ws') {t' : Task} (ht' : t' ∈ ws'.tasks) :
    t' ∈ ws.tasks ∨
      (∃ t ∈ ws.tasks, (∃ left w, t.step tr ws.world = some (left, w) ∧ t' ∈ left) ∨
        t' ∈ t.await ∨ t' ∈ t.dropped ∨ t' = t.unheld) ∨
      ∃ handle errand, u = .begin handle errand := by
  cases h with
  | @moved place l r left t w htasks hm =>
    have hmem : t' ∈ left ∨ t' ∈ l ++ r := by simpa [or_comm, or_assoc, or_left_comm] using ht'
    rcases hmem with hleft | hother
    · exact .inr (.inl ⟨t, by simp [htasks], .inl ⟨left, w, hm, hleft⟩⟩)
    · exact .inl (by simpa [htasks, or_left_comm] using Or.inr (List.mem_append.mp hother))
  | @awaited place l r t htasks =>
    have hmem : t' ∈ t.await ∨ t' ∈ l ++ r := by simpa [or_comm, or_assoc, or_left_comm] using ht'
    rcases hmem with hawait | hother
    · exact .inr (.inl ⟨t, by simp [htasks], .inr (.inl hawait)⟩)
    · exact .inl (by simpa [htasks, or_left_comm] using Or.inr (List.mem_append.mp hother))
  | @letGo u l r left t htasks hgo =>
    rcases List.mem_append.mp ht' with hother | hleft
    · exact .inl (by simpa [htasks, or_left_comm] using Or.inr (List.mem_append.mp hother))
    · exact .inr (.inl ⟨t, by simp [htasks], .inr (.inr (hgo.mem hleft))⟩)
  | thinned hsub => exact .inl (hsub.subset ht')
  | @begun handle errand => exact .inr (.inr ⟨handle, errand, rfl⟩)
  | told => exact .inl ht'
  | released => exact .inl ht'

end ScanConsole
