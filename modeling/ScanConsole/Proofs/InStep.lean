import ScanConsole.Proofs.Failures
import ScanConsole.Proofs.Joined
import ScanConsole.Proofs.Watch

/-!
# Jobs in step with the console

Anybody may clear or dismiss a session while its job is still at it. What a job
can rely on all the same is little (`Job.Agrees`): the session of a run that has
not told its start is not there, and once the run has failed, its session is
gone or has failed.

    ws.InStep → Change tr ws u d ws' →
      (∀ a, u = .tell a → a.writes? = none) → ws'.InStep       (`inStep_change`)

This is weaker than that runs and the console agree (`Run.Fits`), and so is what
it asks of others: they must not tell how sessions go on, but they may clear
them. It is what is left to know of the session when the report of a failure is
told, whatever the operator has done meanwhile.

The session that is next in the supply is not there either
(`Workspace.InStep.absent`), so a refresh that takes it starts from nothing.
-/

namespace ScanConsole

variable {σ : Type} {tr : Transport σ} {ws ws' : Workspace σ} {u : Turn}
  {d : Option (SessionId × Deed)}

/-! ## What a job relies on

What a job relies on still holds where its session is what it was, or is gone
(`Job.Agrees.congr`), so only its own moves have to be looked at. A session that
is told to fail has failed, if it is there. -/

/-- What a run relies on of its session. -/
def Run.Agrees (st : State) (r : Run) : Prop :=
  match r.stage with
  | .ready | .starting => st.Absent r.session.id
  | .ended (.error _) => st.HasFailed r.session.id
  | _ => True

/-- What a job relies on of its session; and the tab that it opens names no failure. -/
def Job.Agrees (st : State) (j : Job) : Prop :=
  match j.stage with
  | .running _ r => r.Agrees st
  | .reporting session (.refreshFailed _ _) _ => st.HasFailed session
  | .reporting _ (.opened tab) _ => tab.failedSession = none
  | _ => True

section
variable {st st' : State}

theorem Run.Agrees.congr {r : Run} (h : r.Agrees st)
    (hold : ∀ x ∈ st'.sessions, x.id = r.session.id → x ∈ st.sessions) : r.Agrees st' := by
  obtain ⟨session, stage⟩ := r
  cases stage with
  | ready => exact State.Absent.congr h hold
  | starting => exact State.Absent.congr h hold
  | ended result =>
    cases result with
    | error f => exact State.HasFailed.congr h hold
    | ok o => exact trivial
  | _ => exact trivial

theorem Job.Agrees.congr {j : Job} (h : j.Agrees st)
    (hold : ∀ x ∈ st'.sessions, j.session? = some x.id → x ∈ st.sessions) : j.Agrees st' := by
  obtain ⟨stage⟩ := j
  cases stage with
  | running p r => exact Run.Agrees.congr h fun x hx hid => hold x hx (congrArg some hid.symm)
  | reporting session report result =>
    cases report with
    | refreshFailed tab time =>
      exact State.HasFailed.congr h fun x hx hid => hold x hx (congrArg some hid.symm)
    | _ => exact h
  | _ => exact trivial

theorem Run.agrees_of_told {session : Session} {stage : Stage} (h : stage.isTold = true) :
    Run.Agrees st ⟨session, stage⟩ := by
  cases stage <;> first
    | exact trivial
    | cases h

theorem hasFailed_told (hd : (st.sessions.map (·.id)).Nodup) (session : SessionId)
    (lines : List String) : (st.apply (.executionFailed session lines)).HasFailed session := by
  intro x hx hid
  have hd' : ((st.onSession session (Session.fail lines)).sessions.map (·.id)).Nodup := by
    show ((updateFirst _ _ st.sessions).map (·.id)).Nodup
    rwa [map_updateFirst (advances_fail lines).id]
  have hfind := session?_of_mem hd' hx
  rw [hid, session?_onSession (advances_fail lines)] at hfind
  obtain ⟨y, -, rfl⟩ := Option.map_eq_some_iff.mp hfind
  rfl

theorem Run.agrees_step {r r' : Run} {w w' : World σ} (h : r.step tr w = some (r', w'))
    (hr : r.Agrees w.state) (hd : (w.state.sessions.map (·.id)).Nodup) : r'.Agrees w'.state := by
  obtain ⟨session, stage⟩ := r
  cases stage with
  | ready => cases h; exact hr
  | starting => cases h; exact trivial
  | opening => cases h; exact Run.agrees_of_told (Run.isTold_onAnswer _ _ _)
  | listening c t logs =>
    simp only [Run.step] at h
    by_cases hs : c.silent = true
    · simp only [hs, if_true, Option.map_eq_some_iff, Prod.mk.injEq] at h
      obtain ⟨w₁, -, rfl, rfl⟩ := h
      exact Run.agrees_of_told rfl
    · simp only [hs, Bool.false_eq_true, if_false, Option.some.injEq, Prod.mk.injEq] at h
      obtain ⟨rfl, rfl⟩ := h
      exact Run.agrees_of_told (Run.isTold_onAsk _ _ _ _)
  | logging lines c t logs => cases h; exact trivial
  | failing lines f => cases h; exact hasFailed_told hd session.id lines
  | completing lines o => cases h; exact trivial
  | finishing o => cases h; exact trivial
  | ended result => cases h

theorem Job.agrees_step {j j' : Job} {w w' : World σ} (h : j.step tr w = some (j', w'))
    (hj : j.Agrees w.state) (hd : (w.state.sessions.map (·.id)).Nodup)
    (hfresh : w.state.Absent ⟨w.nextSession⟩) : j'.Agrees w'.state := by
  cases jobMove_step h with
  | missed tab time => exact trivial
  | began tab time at' t clock htab => exact hfresh
  | ran p r r' w' hr => exact Run.agrees_step hr hj hd
  | concluded p r result hr =>
    rw [(conclude_world p r result w).1]
    have hrun : r.Agrees w.state := hj
    rw [Run.Agrees, hr] at hrun
    cases result with
    | ok o => cases p <;> first
        | exact trivial
        | rfl
    | error f =>
      cases p with
      | refresh tab time => exact hrun
      | _ => exact trivial
  | reported session report result => cases report <;> exact trivial
  | cleared session result => exact trivial

end

/-! ## Turns

A session that is there behind a turn was there before, or its own task told
something of it (`mem_sessions_change`). -/

/-- Sessions are told apart, and every job relies on what is so. -/
structure Workspace.InStep (ws : Workspace σ) : Prop where
  owned : ws.Owned
  distinct : (ws.world.state.sessions.map (·.id)).Nodup
  known : ∀ x ∈ ws.world.state.sessions, x.id.number < ws.world.nextSession
  agrees : ∀ t ∈ ws.tasks, ∀ j, t.job? = some j → j.Agrees ws.world.state

theorem Workspace.Idle.inStep (h : ws.Idle) : ws.InStep where
  owned := h.owned
  distinct := h.distinct
  known := h.known
  agrees t ht := by simp [h.tasks] at ht

theorem Workspace.InStep.absent (h : ws.InStep) : ws.world.state.Absent ⟨ws.world.nextSession⟩ := by
  intro x hx hid
  have hlt := h.known x hx
  rw [hid] at hlt
  exact absurd hlt (Nat.lt_irrefl _)

theorem drives?_of_writes {a : Action} {s : SessionId} (h : a.writes? = some s) : a.drives? = some s := by
  cases a <;> first
    | exact h
    | cases h

theorem mem_sessions_change (h : Change tr ws u d ws') (hquiet : ∀ a, u = .tell a → a.writes? = none)
    {x : Session} (hx : x ∈ ws'.world.state.sessions) :
    x ∈ ws.world.state.sessions ∨ ∃ a, d = some (x.id, .tells a) ∧ a.writes? = some x.id := by
  rcases state_change h with hst | ⟨a, hst, hwho⟩
  · exact .inl (hst ▸ hx)
  rw [hst] at hx
  rcases mem_sessions_apply hx with hold | hwrites
  · exact .inl hold
  rcases hwho with ⟨s, rfl⟩ | ⟨-, hu⟩
  · obtain ⟨t, -, hs, hdeed, -⟩ := moved_change h
    obtain rfl := Option.some.inj (hs.symm.trans (Task.drives_deed hdeed (drives?_of_writes hwrites)))
    exact .inr ⟨a, rfl, hwrites⟩
  · cases (hquiet a hu).symm.trans hwrites

theorem distinct_of_inStep (hs : ws.InStep) (h : Change tr ws u d ws')
    (hquiet : ∀ a, u = .tell a → a.writes? = none) :
    (ws'.world.state.sessions.map (·.id)).Nodup := by
  refine nodup_change hs.distinct h (fun x hu => by cases hquiet _ hu) ?_
  intro t ht r hr hstage
  obtain ⟨j, hj, hjr⟩ := Option.bind_eq_some_iff.mp hr
  obtain ⟨stage⟩ := j
  cases stage <;> cases hjr
  have hrun : r.Agrees ws.world.state := hs.agrees t ht _ hj
  rwa [Run.Agrees, hstage] at hrun

theorem agrees_change (hs : ws.InStep) (h : Change tr ws u d ws')
    (hquiet : ∀ a, u = .tell a → a.writes? = none) {t' : Task} (ht' : t' ∈ ws'.tasks) {j' : Job}
    (hj' : t'.job? = some j') : j'.Agrees ws'.world.state := by
  have hsession : t'.session? = j'.session? := Task.session?_of_job? hj'
  cases hs' : j'.session? with
  | none =>
    -- A job without a session relies on nothing.
    obtain ⟨stage⟩ := j'
    cases stage <;> first
      | exact trivial
      | cases hs'
  | some s =>
    have congr (hj : j'.Agrees ws.world.state) (hd : ∀ e, d ≠ some (s, e)) :
        j'.Agrees ws'.world.state := by
      refine hj.congr ?_
      intro x hx hid
      rcases mem_sessions_change h hquiet hx with hold | ⟨a, hd', -⟩
      · exact hold
      · rw [Option.some.inj (hid.symm.trans hs')] at hd'
        exact absurd hd' (hd _)
    cases origin_change hs.owned h ht' (hsession.trans hs') with
    | same ht hd => exact congr (hs.agrees t' ht j' hj') hd
    | awaited t ht hts hmem hd =>
      exact congr (hs.agrees t ht j' (Task.job?_of_await hmem hj')) (by simp [hd])
    | dropped t handle ht hts hh hmem hd =>
      refine congr ?_ (by simp [hd])
      rcases Task.job?_of_dropped hmem hj' with hj | ⟨p, r, hj, rfl⟩
      · exact hs.agrees t ht j' hj
      · have hrun : Job.Agrees ws.world.state ⟨.running p r⟩ := hs.agrees t ht _ hj
        exact hrun
    | unheld t handle ht hts hh heq hd =>
      subst heq
      exact congr (hs.agrees t ht j' hj') (by simp [hd])
    | moved t ht hts hstep hd =>
      rcases Task.step_cases hstep with ⟨x, -, hnil, -⟩ | ⟨j, j₁, hj, hm, hleft⟩
      · cases hnil
      · obtain rfl := (List.cons.inj hleft).1
        obtain rfl := Option.some.inj ((Task.job?_withJob hj).symm.trans hj')
        exact Job.agrees_step hm (hs.agrees t ht j hj) hs.distinct hs.absent
    | fresh p plugin resource hfresh hj hopen hd hst =>
      obtain rfl := Option.some.inj (hj'.symm.trans hj)
      rw [hst]
      have habsent := hs.absent
      rwa [← hfresh] at habsent

/-- Every turn keeps the jobs in step with the console. -/
theorem inStep_change (hs : ws.InStep) (h : Change tr ws u d ws')
    (hquiet : ∀ a, u = .tell a → a.writes? = none) : ws'.InStep where
  owned := owned_change hs.owned h
  distinct := distinct_of_inStep hs h hquiet
  known x hx := by
    refine Nat.lt_of_lt_of_le ?_ (nextSession_le_change h)
    rcases mem_sessions_change h hquiet hx with hold | ⟨a, rfl, -⟩
    · exact hs.known x hold
    · obtain ⟨t, ht, hts, -⟩ := moved_change h
      exact hs.owned.known _ (Workspace.mem_owners ht hts)
  agrees t' ht' j' hj' := agrees_change hs h hquiet ht' hj'

theorem Workspace.InStep.alike (hs : ws.InStep) (h : ws.Alike ws') : ws'.InStep where
  owned := hs.owned.alike h
  distinct := by rw [h.state]; exact hs.distinct
  known := by rw [h.state, h.next]; exact hs.known
  agrees t ht j hj := by
    rw [h.state]
    exact hs.agrees t (h.tasks.mem_iff.mp ht) j hj

end ScanConsole
