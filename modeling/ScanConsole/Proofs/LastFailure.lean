import ScanConsole.Proofs.InStep

/-!
# The last failure of a tab

A refresh that fails leaves its session on screen until the next refresh of its
tab ends. Refreshes of one tab may overlap and end in any order, others may
dismiss or clear the session or close the tab in between, and the session and
the name of it in the tab are kept apart. Still, of all the failed refreshes of
a tab that is open at most one session is left, that of the last report on the
tab (`last_failure_stays`), and no refresh takes away the session of anybody
else.

The invariant is `Workspace.Reported`:

    the jobs are in step with the console            (`Workspace.InStep`)
    the state is what was told                       (`State.Traced`)
    nobody works any more for the session of a failed refresh once this has
      been reported
    a refresh goes on only of a tab that has been open

The third is what the second condition of `Action.Due` asks for: nothing is told
of a session after the report that its refresh has failed. The first and the
last give the third condition of it: the report of a failure is about a tab that
has been open, and comes when the session has failed or is gone.

## What is assumed

At the beginning the console is at rest and no tab names a failure. What others
than tasks and checks tell is foreign (`Action.Foreign`): nothing of how
sessions go on or of refreshes. And no tab gets an identifier that was used
before; identifiers are made of a time, so this is a fact about the clock.
Handles and checks may be dropped at any moment, and joins too.
-/

namespace ScanConsole

variable {σ : Type} {tr : Transport σ} {ws ws' : Workspace σ} {u : Turn}
  {d : Option (SessionId × Deed)}

/-! ## What a job is there for

A job never comes to refresh another tab, and neither does what is left of
it. -/

/-- The tab that a job is there to refresh. -/
def Job.aim? (j : Job) : Option String :=
  match j.stage with
  | .looking tab _ => some tab
  | .running (.refresh tab _) _ => some tab
  | .reporting _ (.refreshed tab _ _ _) _ => some tab
  | .reporting _ (.refreshFailed tab _) _ => some tab
  | _ => none

/-- The tab that a task is there to refresh. -/
def Task.aim? (t : Task) : Option String := t.job?.bind Job.aim?

section
variable {id : String} {s : SessionId} {a : Action}

theorem Job.aim?_step {j j' : Job} {w w' : World σ} (h : j.step tr w = some (j', w'))
    (hj' : j'.aim? = some id) : j.aim? = some id := by
  cases jobMove_step h with
  | missed tab time => cases hj'
  | began tab time at' t clock htab => exact hj'
  | ran p r r' w' hr => cases p <;> exact hj'
  | concluded p r result hr => cases p <;> cases result <;> exact hj'
  | reported session report result => cases report <;> cases hj'
  | cleared session result => cases hj'

theorem Task.aim?_of_job? {t : Task} {j : Job} (h : t.job? = some j) : t.aim? = j.aim? := by
  rw [Task.aim?, h]
  rfl

theorem closed_aim (tr : Transport σ) (s : SessionId) (id : String) :
    Closed tr s fun t => t.aim? ≠ some id where
  step t w t' w' h hstep _ haim := by
    rcases Task.step_cases hstep with ⟨x, -, hnil, -⟩ | ⟨j, j', hj, hm, hleft⟩
    · cases hnil
    · obtain rfl := (List.cons.inj hleft).1
      rw [Task.aim?_of_job? (Task.job?_withJob hj)] at haim
      exact h ((Task.aim?_of_job? hj).trans (Job.aim?_step hm haim))
  await t t' h hmem _ haim := by
    obtain ⟨j, hj, hja⟩ := Option.bind_eq_some_iff.mp haim
    exact h ((Task.aim?_of_job? (Task.job?_of_await hmem hj)).trans hja)
  dropped t t' handle h _ hmem _ haim := by
    obtain ⟨j, hj, hja⟩ := Option.bind_eq_some_iff.mp haim
    rcases Task.job?_of_dropped hmem hj with hj | ⟨p, r, -, rfl⟩
    · exact h ((Task.aim?_of_job? hj).trans hja)
    · cases hja
  unheld _ _ h _ := h

/-! ## What a job tells

A task tells how its run goes on, or its report, or it clears its session
(`Task.deed_cases`). Who tells that a refresh of a tab has ended is there to
refresh it, and no task dismisses a session. -/

theorem Run.writes_deed {r : Run} {w : World σ} (h : r.deed tr w = .tells a) :
    a.writes? = some r.session.id := by
  obtain ⟨session, stage⟩ := r
  cases stage with
  | listening c t logs =>
    simp only [Run.deed] at h
    split at h <;> cases h
  | _ => cases h <;> rfl

theorem Task.deed_cases {t : Task} {w : World σ} (h : t.deed tr w = .tells a) :
    (∃ s, a.writes? = some s) ∨
      (∃ s report result, t.job? = some ⟨.reporting s report result⟩ ∧ a = report.action s) ∨
      ∃ s, a = .executionCleared s := by
  cases hj : t.job? with
  | some j =>
    rw [Task.deed_of_job? hj] at h
    obtain ⟨stage⟩ := j
    cases stage with
    | running p r => exact .inl ⟨_, Run.writes_deed h⟩
    | reporting s report result => cases h; exact .inr (.inl ⟨s, report, result, rfl, rfl⟩)
    | clearing s result => cases h; exact .inr (.inr ⟨s, rfl⟩)
    | _ => cases h
  | none =>
    obtain ⟨handle, work⟩ := t
    cases work with
    | clear s => cases h; exact .inr (.inr ⟨s, rfl⟩)
    | _ => cases hj

theorem Task.aim?_of_deed {t : Task} {w : World σ} (h : t.deed tr w = .tells a)
    (ha : a.refreshes? = some id) : t.aim? = some id := by
  rcases Task.deed_cases h with ⟨s, hwrites⟩ | ⟨s, report, result, hj, rfl⟩ | ⟨s, rfl⟩
  · cases (writes?_of_refreshes ha).symm.trans hwrites
  · rw [Task.aim?_of_job? hj]
    cases report <;> exact ha
  · cases ha

theorem Task.job?_of_failure {t : Task} {w : World σ} (h : t.deed tr w = .tells a)
    (ha : a.failureOf? id = some s) :
    ∃ time result, t.job? = some ⟨.reporting s (.refreshFailed id time) result⟩ := by
  rcases Task.deed_cases h with ⟨x, hwrites⟩ | ⟨x, report, result, hj, rfl⟩ | ⟨x, rfl⟩
  · cases (writes?_of_refreshes (refreshes?_of_failure ha)).symm.trans hwrites
  · cases report with
    | refreshFailed tab time =>
      obtain ⟨rfl, hsame⟩ := Option.ite_none_right_eq_some.mp ha
      obtain rfl := Option.some.inj hsame
      exact ⟨time, result, hj⟩
    | _ => cases ha
  · cases ha

theorem Task.job?_of_opened {t : Task} {w : World σ} {tab : Tab}
    (h : t.deed tr w = .tells (.tabCreated tab)) :
    ∃ x result, t.job? = some ⟨.reporting x (.opened tab) result⟩ := by
  rcases Task.deed_cases h with ⟨x, hwrites⟩ | ⟨x, report, result, hj, ha⟩ | ⟨x, ha⟩
  · cases hwrites
  · cases report <;> cases ha
    exact ⟨x, result, hj⟩
  · cases ha

theorem Task.deed_ne_dismissed {t : Task} {w : World σ} :
    t.deed tr w ≠ .tells (.executionDismissed s) := by
  intro h
  rcases Task.deed_cases h with ⟨x, hwrites⟩ | ⟨x, report, result, hj, ha⟩ | ⟨x, ha⟩
  · cases hwrites
  · cases report <;> cases ha
  · cases ha

end

/-! ## What was told and what there is

What a task or somebody else tells is due (`due_told`). When the failure of a
refresh has been told, the job has ended, so nobody works for its session
(`finished_told`). -/

/-- What others than the tasks may tell: nothing of how sessions go on or of refreshes; and a tab that they
open names no failure. -/
structure Action.Foreign (a : Action) : Prop where
  writes : a.writes? = none
  refreshes : a.refreshes? = none
  opens : ∀ tab, a = .tabCreated tab → tab.failedSession = none

/-- The jobs are in step with the console, the state is what was told, and what was told of refreshes is
about tabs that have been open and sessions that nobody works for any more. -/
structure Workspace.Reported (first : List String) (told : List Action) (ws : Workspace σ) : Prop where
  inStep : ws.InStep
  traced : ws.world.state.Traced first told
  finished : ∀ id, ∀ s ∈ failures id told, ws.Kept (fun _ => False) s
  aimed : ∀ t ∈ ws.tasks, t.session? ≠ none → ∀ id, t.aim? = some id → id ∈ openedIds first told

section
variable {first : List String} {told : List Action} {a : Action}

theorem Workspace.Reported.alike (hr : ws.Reported first told) (h : ws.Alike ws') :
    ws'.Reported first told where
  inStep := hr.inStep.alike h
  traced := by rw [h.state]; exact hr.traced
  finished id s hs := (hr.finished id s hs).alike h
  aimed t ht := hr.aimed t (h.tasks.mem_iff.mp ht)

/-- What a task or somebody else tells is due. -/
theorem due_told (hr : ws.Reported first told) (h : Change tr ws u d ws') (ha : u.told? d = some a)
    (hforeign : ∀ b, u = .tell b → b.Foreign)
    (hnew : ∀ tab, a = .tabCreated tab → tab.id ∉ openedIds first told) :
    a.Due first told ws.world.state := by
  have hwho : a.Foreign ∨ ∃ t ∈ ws.tasks, t.deed tr ws.world = .tells a := by
    rcases Turn.told?_cases ha with hu | ⟨s, rfl⟩
    · exact .inl (hforeign a hu)
    · obtain ⟨t, ht, -, hdeed, -⟩ := moved_change h
      exact .inr ⟨t, ht, hdeed⟩
  rcases hwho with hf | ⟨t, ht, hdeed⟩
  · refine ⟨fun tab htab => ⟨hnew tab htab, hf.opens tab htab⟩, ?_, ?_⟩
    · intro s hs
      cases hf.writes.symm.trans hs
    · intro id s hs
      cases hf.refreshes.symm.trans (refreshes?_of_failure hs)
  · refine ⟨?_, ?_, ?_⟩
    · intro tab htab
      refine ⟨hnew tab htab, ?_⟩
      subst htab
      obtain ⟨x, result, hj⟩ := Task.job?_of_opened hdeed
      exact hr.inStep.agrees t ht _ hj
    · intro s hs id hmem
      have hts := Task.drives_deed hdeed (drives?_of_writes hs)
      exact (hr.finished id s hmem).tasks t ht hts
    · intro id s hs
      obtain ⟨time, result, hj⟩ := Task.job?_of_failure hdeed hs
      have hts : t.session? ≠ none := by
        rw [Task.session?_of_job? hj]
        exact Option.some_ne_none s
      exact ⟨hr.aimed t ht hts id (Task.aim?_of_job? hj), hr.inStep.agrees t ht _ hj⟩

theorem finished_told (ho : ws.Owned) (h : Change tr ws u d ws') (ha : u.told? d = some a)
    (hforeign : ∀ b, u = .tell b → b.Foreign) {id : String} {s : SessionId}
    (hs : a.failureOf? id = some s) : ws'.Kept (fun _ => False) s := by
  rcases Turn.told?_cases ha with hu | ⟨s', rfl⟩
  · cases (hforeign a hu).refreshes.symm.trans (refreshes?_of_failure hs)
  obtain ⟨t, ht, hts, hdeed, -⟩ := moved_change h
  obtain ⟨time, result, hj⟩ := Task.job?_of_failure hdeed hs
  obtain rfl : s' = s := Option.some.inj (hts.symm.trans (Task.session?_of_job? hj))
  refine kept_none_of_move ho h fun t₀ ht₀ hts₀ t' hstep hs' => ?_
  -- The job ends with its report.
  obtain rfl := eq_of_owned ho ht ht₀ hts hts₀
  rcases Task.step_cases hstep with ⟨x, -, hnil, -⟩ | ⟨j, j', hj₀, hm, hleft⟩
  · cases hnil
  · obtain rfl := (List.cons.inj hleft).1
    obtain rfl := Option.some.inj (hj.symm.trans hj₀)
    rw [Task.session?_of_job? (Task.job?_withJob hj)] at hs'
    generalize ws'.world = w' at hm
    cases jobMove_step hm
    cases hs'

theorem aimed_change (hr : ws.Reported first told) (h : Change tr ws u d ws') {t' : Task}
    (ht' : t' ∈ ws'.tasks) (hs' : t'.session? ≠ none) {id : String} (haim : t'.aim? = some id) :
    id ∈ openedIds first told := by
  obtain ⟨s, hs⟩ := Option.ne_none_iff_exists'.mp hs'
  have hclosed := closed_aim tr s id
  by_contra hnot
  have before {t : Task} (ht : t ∈ ws.tasks) (hts : t.session? = some s) : t.aim? ≠ some id := by
    intro hta
    exact hnot (hr.aimed t ht (by rw [hts]; exact Option.some_ne_none s) id hta)
  cases origin_change hr.inStep.owned h ht' hs with
  | same ht hd => exact before ht hs haim
  | awaited t ht hts hmem hd => exact hclosed.await t t' (before ht hts) hmem hs haim
  | dropped t handle ht hts hh hmem hd =>
    exact hclosed.dropped t t' handle (before ht hts) hh hmem hs haim
  | unheld t handle ht hts hh heq hd =>
    subst heq
    exact hclosed.unheld t handle (before ht hts) hh haim
  | moved t ht hts hstep hd => exact hclosed.step t _ t' _ (before ht hts) hstep hs haim
  | fresh p plugin resource hfresh hj hopen hd hst =>
    rw [Task.aim?_of_job? hj] at haim
    cases p with
    | refresh tab time =>
      obtain rfl : tab = id := Option.some.inj haim
      obtain ⟨t, ht⟩ := Option.isSome_iff_exists.mp (hopen tab time rfl)
      have hid : t.id = tab := by simpa using List.find?_some ht
      exact hnot (hid ▸ hr.traced.opened t (List.mem_of_find?_eq_some ht))
    | _ => cases haim

theorem reported_change (hr : ws.Reported first told) (h : Change tr ws u d ws')
    (hforeign : ∀ b, u = .tell b → b.Foreign)
    (hnew : ∀ tab, u.told? d = some (.tabCreated tab) → tab.id ∉ openedIds first told)
    (hst : ws'.world.state = ws.world.state.applyAll (u.told? d).toList) :
    ws'.Reported first (told ++ (u.told? d).toList) := by
  have hstep : ws'.InStep := inStep_change hr.inStep h fun b hb => (hforeign b hb).writes
  have hfinished : ∀ id, ∀ s ∈ failures id told, ws'.Kept (fun _ => False) s := fun id s hs =>
    kept_change (closed_none tr s) hr.inStep.owned (hr.finished id s hs) h
  cases ha : u.told? d with
  | none =>
    rw [ha] at hst
    rw [Option.toList_none, List.append_nil]
    refine ⟨hstep, ?_, hfinished, fun t ht hs id haim => aimed_change hr h ht hs haim⟩
    rw [hst]
    exact hr.traced
  | some a =>
    rw [ha] at hst
    refine ⟨hstep, ?_, ?_, ?_⟩
    · rw [hst]
      exact hr.traced.apply (due_told hr h ha hforeign fun tab htab => hnew tab (htab ▸ ha))
    · intro id s hs
      rcases mem_failures_concat.mp hs with hold | hnew
      · exact hfinished id s hold
      · exact finished_told hr.inStep.owned h ha hforeign hnew
    · intro t ht hs id haim
      exact mem_openedIds_append (aimed_change hr h ht hs haim)

end

/-! ## Shifts

Carried over to shifts by `Shift.Joint`, where checks refresh tabs too. -/

namespace Shift

variable {s : Shift σ} {first : List String} {told : List Action}

/-- What others than tasks and checks tell is foreign. -/
def Undisturbed (turns : List ShiftTurn) : Prop := ∀ a, .work (.tell a) ∈ turns → a.Foreign

theorem reported_turn {v : ShiftTurn} (hr : s.joined.Reported first told)
    (hforeign : ∀ a, v = .work (.tell a) → a.Foreign)
    (hnew : (openedIds first (told ++ (s.told? tr v).toList)).Nodup) :
    (s.turn tr v).joined.Reported first (told ++ (s.told? tr v).toList) := by
  obtain ⟨ws, ws', u, d, hbefore, hc, hafter, htold, hsays⟩ := joint_turn tr s v
  have hst : ws'.world.state = ws.world.state.applyAll (u.told? d).toList := by
    rw [← htold, hbefore.state, ← hafter.state]
    exact state_told tr s v
  have hfresh : ∀ tab, u.told? d = some (.tabCreated tab) → tab.id ∉ openedIds first told := by
    intro tab htab
    rw [htold, htab] at hnew
    exact not_mem_openedIds hnew
  rw [htold]
  refine (reported_change (hr.alike hbefore) hc (fun a ha => ?_) hfresh hst).alike hafter
  cases hsays a ha with
  | tell => exact hforeign a rfl
  | setInterval tab interval => exact ⟨rfl, rfl, fun tab h => by cases h⟩

theorem reported_play {turns : List ShiftTurn} (hr : s.joined.Reported first told)
    (hforeign : Undisturbed turns) (hnew : (openedIds first (told ++ s.tolds tr turns)).Nodup) :
    (s.play tr turns).joined.Reported first (told ++ s.tolds tr turns) := by
  induction turns generalizing s told with
  | nil =>
    rw [tolds, List.append_nil]
    exact hr
  | cons v turns ih =>
    rw [tolds, ← List.append_assoc] at hnew ⊢
    have hforeign₀ : ∀ a, v = .work (.tell a) → a.Foreign := fun a ha =>
      hforeign a (ha ▸ List.mem_cons_self)
    exact ih (reported_turn hr hforeign₀ (nodup_openedIds_left hnew))
      (fun a ha => hforeign a (List.mem_cons_of_mem _ ha)) hnew

theorem reported_start (hi : s.workspace.Idle) (hc : s.checks = [])
    (hd : (s.state.tabs.map (·.id)).Nodup) (hnone : ∀ t ∈ s.state.tabs, t.failedSession = none) :
    s.joined.Reported (s.state.tabs.map (·.id)) [] := by
  have hreported : s.workspace.Reported (s.state.tabs.map (·.id)) [] := by
    refine ⟨hi.inStep, State.traced_start hd hnone, ?_, ?_⟩
    · intro id x hx
      exact absurd hx List.not_mem_nil
    · intro t ht
      rw [hi.tasks] at ht
      exact absurd ht List.not_mem_nil
  exact hreported.alike (alike_joined hc)

/-! ## Who takes sessions away

A task takes away the session that it works for, or a failed one of the tab that
it refreshes (`taken_by_mover`). No other deed makes a session go. -/

/-- The task whose turn it is, or the refresh of the check whose turn it is. -/
def mover? (s : Shift σ) : ShiftTurn → Option Task
  | .work (.move place) => s.workspace.tasks[place]?
  | .move place => s.checks[place]?.bind Check.task?
  | _ => none

theorem deed_of_mover {v : ShiftTurn} {t : Task} {a : Action} (ht : s.mover? v = some t)
    (ha : s.told? tr v = some a) : t.deed tr s.timed.world = .tells a := by
  cases v with
  | work u =>
    cases u with
    | move place =>
      have htask : s.timed.tasks[place]? = some t := ht
      simp only [told?, Workspace.deed?, htask] at ha
      cases hm : t.step tr s.timed.world with
      | none => simp only [hm, Option.bind_none] at ha; cases ha
      | some m =>
        simp only [hm] at ha
        exact Deed.eq_of_told? ((Task.told?_of_deed t s.timed.world).symm.trans ha)
    | _ => cases ht
  | move place =>
    obtain ⟨c, hc, hct⟩ := Option.bind_eq_some_iff.mp ht
    obtain ⟨time, fresh, due, current, got⟩ := c
    obtain ⟨⟨tab, j⟩, rfl, rfl⟩ := Option.map_eq_some_iff.mp hct
    simp only [told?, hc] at ha
    obtain ⟨m, -, htold⟩ := Option.bind_eq_some_iff.mp ha
    cases fresh with
    | true => cases htold
    | false => exact Deed.eq_of_told? htold
  | _ => cases ht

/-- A task takes away the session that it works for, or a failed one of the tab that it refreshes. -/
theorem taken_by_mover (hr : s.joined.Reported first told) {v : ShiftTurn} {t : Task}
    (ht : s.mover? v = some t) {x : Session} (hx : x ∈ s.state.sessions)
    (hgone : ∀ y ∈ (s.turn tr v).state.sessions, y.id ≠ x.id) :
    t.session? = some x.id ∨ ∃ id, t.aim? = some id ∧ x.id ∈ failures id told := by
  rw [state_told] at hgone
  cases ha : s.told? tr v with
  | none =>
    rw [ha] at hgone
    exact absurd rfl (hgone x hx)
  | some a =>
    rw [ha] at hgone
    have hdeed := deed_of_mover ht ha
    have named {id : String} {tab : Tab} (hrefreshes : a.refreshes? = some id)
        (htab : s.state.tab? id = some tab) (hfailed : tab.failedSession = some x.id) :
        ∃ id, t.aim? = some id ∧ x.id ∈ failures id told := by
      have hid : tab.id = id := by simpa using List.find?_some htab
      refine ⟨id, Task.aim?_of_deed hdeed hrefreshes, ?_⟩
      exact hid ▸ (hr.traced.last tab (List.mem_of_find?_eq_some htab) x.id hfailed).mem
    rcases stays_apply hx a with ⟨y, hy, hid⟩ | hremoval
    · exact absurd hid (hgone y hy)
    · cases hremoval with
      | cleared h => exact .inl (Task.drives_deed hdeed (by rw [h]; rfl))
      | dismissed y h hy hstop => exact absurd (h ▸ hdeed) Task.deed_ne_dismissed
      | refreshed id results logs time tab h htab hfailed herr =>
        exact .inr (named (by rw [h]; rfl) htab hfailed)
      | failedAgain id session time tab h hne htab hfailed herr =>
        exact .inr (named (by rw [h]; rfl) htab hfailed)

/-! ## Whose failures are told

If no task that works for this session is there to refresh this tab, no failure
is told of the two: in one turn (`stranger_turn`), and so in all. -/

/-- If no task that works for this session is there to refresh this tab, no failure is told of the two. -/
theorem stranger_turn (tr : Transport σ) {v : ShiftTurn} (hr : s.joined.Reported first told)
    (hforeign : ∀ a, v = .work (.tell a) → a.Foreign) {id : String} {x : SessionId}
    (hk : s.joined.Kept (fun t => t.aim? ≠ some id) x) :
    (s.turn tr v).joined.Kept (fun t => t.aim? ≠ some id) x ∧
      ∀ a, s.told? tr v = some a → a.failureOf? id ≠ some x := by
  obtain ⟨ws, ws', u, d, hbefore, hc, hafter, htold, hsays⟩ := joint_turn tr s v
  have hk₀ : ws.Kept (fun t => t.aim? ≠ some id) x := hk.alike hbefore
  refine ⟨(kept_change (closed_aim tr x id) (hr.alike hbefore).inStep.owned hk₀ hc).alike hafter, ?_⟩
  intro a ha hfailure
  rw [htold] at ha
  rcases Turn.told?_cases ha with hu | ⟨x', rfl⟩
  · cases hsays a hu with
    | tell => cases (hforeign a rfl).refreshes.symm.trans (refreshes?_of_failure hfailure)
    | setInterval tab interval => cases hfailure
  · obtain ⟨t, ht, -, hdeed, -⟩ := moved_change hc
    obtain ⟨time, result, hj⟩ := Task.job?_of_failure hdeed hfailure
    exact hk₀.tasks t ht (Task.session?_of_job? hj) (Task.aim?_of_job? hj)

theorem stranger_play {turns : List ShiftTurn} (hr : s.joined.Reported first told)
    (hforeign : Undisturbed turns) (hnew : (openedIds first (told ++ s.tolds tr turns)).Nodup)
    {id : String} {x : SessionId} (hk : s.joined.Kept (fun t => t.aim? ≠ some id) x) :
    x ∉ failures id (s.tolds tr turns) := by
  induction turns generalizing s told with
  | nil => exact List.not_mem_nil
  | cons v turns ih =>
    have hforeign₀ : ∀ a, v = .work (.tell a) → a.Foreign := fun a ha =>
      hforeign a (ha ▸ List.mem_cons_self)
    obtain ⟨hk', hquiet⟩ := stranger_turn tr hr hforeign₀ hk
    rw [tolds, ← List.append_assoc] at hnew
    have hr' : (s.turn tr v).joined.Reported first (told ++ (s.told? tr v).toList) :=
      reported_turn hr hforeign₀ (nodup_openedIds_left hnew)
    have hrest := ih hr' (fun a ha => hforeign a (List.mem_cons_of_mem _ ha)) hnew hk'
    rw [tolds, failures, List.filterMap_append]
    intro hmem
    rcases List.mem_append.mp hmem with hmem | hmem
    · obtain ⟨a, ha, hfailure⟩ := List.mem_filterMap.mp hmem
      exact hquiet a (Option.mem_toList.mp ha) hfailure
    · exact hrest hmem

end Shift

/-! ## The statement

Two sessions that were left of a tab would both be named by it. -/

theorem length_failuresLeft {first : List String} {told : List Action} {s : State} {t : Tab}
    (hs : s.Traced first told) (hd : (s.sessions.map (·.id)).Nodup) (ht : t ∈ s.tabs) :
    (s.failuresLeft t.id told).length ≤ 1 := by
  have hids : ((s.failuresLeft t.id told).map (·.id)).Nodup := hd.sublist (List.filter_sublist.map _)
  have hnamed : ∀ x ∈ s.failuresLeft t.id told, t.failedSession = some x.id := fun x hx =>
    hs.named t ht x (List.mem_filter.mp hx).1 (of_decide_eq_true (List.mem_filter.mp hx).2)
  match hleft : s.failuresLeft t.id told with
  | [] => exact Nat.zero_le 1
  | [x] => exact Nat.le_refl 1
  | x :: y :: rest =>
    rw [hleft] at hids hnamed
    have hx := hnamed x List.mem_cons_self
    have hy := hnamed y (List.mem_cons_of_mem _ List.mem_cons_self)
    have hsame : x.id = y.id := Option.some.inj (hx.symm.trans hy)
    simp [hsame] at hids

/-- However refreshes, checks, selections and the operator follow one another: of the failed refreshes of
a tab that is open at most one session is left; it has failed, the tab names it, and its failure is what
was told last of the tab. A task or check takes away no session but its own and those of failed refreshes
of the tab that it refreshes; and these are never sessions of anything else than refreshes of this tab. -/
theorem last_failure_stays (tr : Transport σ) {s : Shift σ} (hi : s.workspace.Idle)
    (hc : s.checks = []) (hnone : ∀ t ∈ s.state.tabs, t.failedSession = none)
    (turns : List ShiftTurn) (hforeign : Shift.Undisturbed turns)
    (hnew : (openedIds (s.state.tabs.map (·.id)) (s.tolds tr turns)).Nodup) :
    let st := (s.play tr turns).state
    let told := s.tolds tr turns
    (∀ t ∈ st.tabs, (st.failuresLeft t.id told).length ≤ 1 ∧
      ∀ x ∈ st.failuresLeft t.id told,
        x.status = .error ∧ t.failedSession = some x.id ∧ LastReport t.id x.id told) ∧
    ∀ before after, turns = before ++ after →
      let s₀ := s.play tr before
      (∀ v t, s₀.mover? v = some t → ∀ x ∈ s₀.state.sessions,
        (∀ y ∈ (s₀.turn tr v).state.sessions, y.id ≠ x.id) →
          t.session? = some x.id ∨ ∃ id, t.aim? = some id ∧ x.id ∈ failures id (s.tolds tr before)) ∧
      ∀ t ∈ s₀.joined.tasks, ∀ x id, t.session? = some x → t.aim? ≠ some id → x ∉ failures id told := by
  intro st told
  have hd : (s.state.tabs.map (·.id)).Nodup := (List.nodup_append.mp hnew).1
  have hstart : s.joined.Reported (s.state.tabs.map (·.id)) [] := Shift.reported_start hi hc hd hnone
  have hend : (s.play tr turns).joined.Reported (s.state.tabs.map (·.id)) told :=
    Shift.reported_play hstart hforeign hnew
  refine ⟨?_, ?_⟩
  · intro t ht
    refine ⟨length_failuresLeft hend.traced hend.inStep.distinct ht, ?_⟩
    intro x hx
    obtain ⟨hmem, hfailure⟩ := List.mem_filter.mp hx
    have hfailure : x.id ∈ failures t.id told := of_decide_eq_true hfailure
    have hnamed : t.failedSession = some x.id := hend.traced.named t ht x hmem hfailure
    exact ⟨hend.traced.failed t.id x.id hfailure x hmem rfl, hnamed, hend.traced.last t ht x.id hnamed⟩
  · rintro before after rfl s₀
    have htold : told = s.tolds tr before ++ s₀.tolds tr after := s.tolds_append tr before after
    have hbefore : s₀.joined.Reported (s.state.tabs.map (·.id)) (s.tolds tr before) := by
      refine Shift.reported_play hstart (fun a ha => hforeign a (List.mem_append_left _ ha)) ?_
      rw [s.tolds_append] at hnew
      exact nodup_openedIds_left hnew
    refine ⟨fun v t ht x hx hgone => Shift.taken_by_mover hbefore ht hx hgone, ?_⟩
    intro t ht x id hs haim
    have hk : s₀.joined.Kept (fun t => t.aim? ≠ some id) x := by
      refine ⟨hbefore.inStep.owned.known x (Workspace.mem_owners ht hs), ?_⟩
      intro t' ht' hs'
      rwa [eq_of_owned hbefore.inStep.owned ht ht' hs hs']
    have hrest : x ∉ failures id (s₀.tolds tr after) := by
      refine Shift.stranger_play hbefore (fun a ha => hforeign a (List.mem_append_right _ ha)) ?_ hk
      rwa [s.tolds_append] at hnew
    rw [htold, failures, List.filterMap_append]
    intro hmem
    rcases List.mem_append.mp hmem with hmem | hmem
    · exact (hbefore.finished id x hmem).tasks t ht hs
    · exact hrest hmem

/-- A manual refresh and an automatic one of the same tab overlap and both fail: the second failure stays. -/
theorem last_failure_stays_overlapping :
    let tr : Transport Unit := ⟨fun _ _ => (.opened [.event (.error "down")], ())⟩
    let tab : Tab :=
      { Tab.create ⟨⟨"1"⟩, "disk", "", none⟩ ⟨"::1", "web", none, none, .synthetic 80⟩ [] [] ⟨0⟩ with
        id := "a", pinned := true, interval := .halfMinute }
    let s : Shift Unit :=
      { clock := ⟨100000000000⟩
        workspace := ⟨{ clock := ⟨0⟩, link := (), state := { tabs := [tab] } }, []⟩ }
    let turns : List ShiftTurn :=
      [.check, .move 0, .move 0, .move 0, .work (.begin "x" (.refresh "a" none))] ++
        List.replicate 8 (.work (.move 0)) ++ List.replicate 7 (.move 0)
    let st := (s.play tr turns).state
    let told := s.tolds tr turns
    s.workspace.Idle ∧ s.checks = [] ∧ (∀ t ∈ s.state.tabs, t.failedSession = none) ∧
      Shift.Undisturbed turns ∧ (openedIds (s.state.tabs.map (·.id)) told).Nodup ∧
      failures "a" told = [⟨2⟩, ⟨1⟩] ∧ (st.failuresLeft "a" told).map (·.id) = [⟨1⟩] ∧
      ∀ t ∈ st.tabs, (st.failuresLeft t.id told).length ≤ 1 ∧
        ∀ x ∈ st.failuresLeft t.id told,
          x.status = .error ∧ t.failedSession = some x.id ∧ LastReport t.id x.id told := by
  intro tr tab s turns st told
  have hi : s.workspace.Idle := Workspace.Idle.of_empty rfl rfl
  have hnone : ∀ t ∈ s.state.tabs, t.failedSession = none := by decide
  have hforeign : Shift.Undisturbed turns := by
    intro a ha
    simp [turns] at ha
  have hnew : (openedIds (s.state.tabs.map (·.id)) told).Nodup := by decide
  exact ⟨hi, rfl, hnone, hforeign, hnew, by decide, by decide,
    (last_failure_stays tr hi rfl hnone turns hforeign hnew).1⟩

end ScanConsole
