import ScanConsole.Proofs.Selection

/-!
# No session is stuck, but for two ways to let a run go

A session that runs in the console is watched: its run goes on, or a task is
about to clear it. A turn keeps this as long as only the tasks drive sessions
(`sound_change`), with one exception. If the future of a run is dropped on a
thread without a runtime, there is nothing that a task which clears the session
could go on in. The session is stranded then (`Workspace.strands?`): no task
works for it any more, so it runs until somebody from outside clears it.
`Workspace.Sound` keeps a list of the stranded sessions, and says of every other
session that it is watched.

So in a workspace where every task waits, the sessions that run are those of
live runs and the stranded ones:

    (ws₀.play tr turns).Waits tr →
      ∀ x ∈ …sessions, (x.status = .running ↔
        (ws₀.play tr turns).isLive x.id = true ∨ x.id ∈ ws₀.stranded tr turns)

If no future is dropped without a runtime, there are only the former.

What becomes of a run that is let go before its end depends on how that is done:

    `drop`      nothing more is told of the session than that it is
                cleared, and it goes                                 (`drop_job`)
    `abandon`   nothing more is told of it, and it stays as it is    (`abandon_job`)
    `detach`    the run goes on by itself, and may come to its end   (`detach_job`)

The last is what befalls a run in whose join somebody waits, such as the waiting
part of a selection. Neither of the last two does what a handle or a future is
said to do when it is dropped (`stuck_sessions`). `no_stuck_session` puts all of
this together.

## The hypothesis on others

`no_stuck_session` asks of those who are no tasks that they drive no session at
all: they neither start sessions nor add to them, end them or clear them.
Dismissals, tabs, pins, closings and everything else they may do. Without this a
session that somebody else starts would run with no run behind it.
-/

namespace ScanConsole

variable {σ : Type} {tr : Transport σ} {ws ws' : Workspace σ} {u : Turn}
  {d : Option (SessionId × Deed)} {s : SessionId} {lost : List SessionId}

theorem closed_none (tr : Transport σ) (s : SessionId) : Closed tr s fun _ => False :=
  ⟨fun _ _ _ _ h => h.elim, fun _ _ h => h.elim, fun _ _ _ h => h.elim, fun _ _ h => h.elim⟩

/-! ## Sessions that nobody attends to

Such a session stays as it is, because no task tells anything about it and the
actions of others leave a running session alone unless they drive it
(`session?_of_unattended`). -/

namespace Workspace

/-- The session that a turn strands: that of a run whose future is dropped without a runtime. -/
def strands? (ws : Workspace σ) : Turn → Option SessionId
  | .abandon handle =>
    (ws.task? handle).bind fun t =>
      match t.work with
      | .job j => j.orphan?
      | _ => none
  | _ => none

/-- The sessions that several turns strand. -/
def stranded (tr : Transport σ) : Workspace σ → List Turn → List SessionId
  | _, [] => []
  | ws, u :: rest => (ws.strands? u).toList ++ stranded tr (ws.turn tr u) rest

/-- No task works for the session, and if it is there it runs. -/
structure Unattended (s : SessionId) (ws : Workspace σ) : Prop where
  kept : ws.Kept (fun _ => False) s
  running : ∀ x, ws.world.state.session? s = some x → x.status = .running

/-- Whatever happens, the session stays as it is. -/
def Stays (tr : Transport σ) (s : SessionId) (ws : Workspace σ) : Prop :=
  ∀ after, Lawful s after →
    (ws.play tr after).world.state.session? s = ws.world.state.session? s

/-- With no more than releases and moves the session may come to its end. -/
def CanEnd (tr : Transport σ) (s : SessionId) (ws : Workspace σ) : Prop :=
  ∃ after, (∀ a, Turn.tell a ∉ after) ∧
    ∃ x, (ws.play tr after).world.state.session? s = some x ∧ x.status ≠ .running

end Workspace

open Workspace

theorem session?_of_unattended (h : Change tr ws u d ws') (hun : ws.Unattended s)
    (hlaw : ∀ a, u = .tell a → a.drives? ≠ some s) :
    ws'.world.state.session? s = ws.world.state.session? s := by
  refine session?_change h hlaw ?_ hun.running
  rintro e rfl
  obtain ⟨t, ht, hs, -⟩ := moved_change h
  exact hun.kept.tasks t ht hs

theorem unattended_change (ho : ws.Owned) (hun : ws.Unattended s) (h : Change tr ws u d ws')
    (hlaw : ∀ a, u = .tell a → a.drives? ≠ some s) : ws'.Unattended s where
  kept := kept_change (closed_none tr s) ho hun.kept h
  running := by
    rw [session?_of_unattended h hun hlaw]
    exact hun.running

theorem stays_of_unattended (ho : ws.Owned) (hun : ws.Unattended s) : ws.Stays tr s := by
  intro after hlaw
  induction after generalizing ws with
  | nil => rfl
  | cons u after ih =>
    have hc := change_turn tr ws u
    have hlaw₀ : ∀ a, u = .tell a → a.drives? ≠ some s := fun a ha => hlaw a (ha ▸ List.mem_cons_self)
    have hrest := ih (owned_change ho hc) (unattended_change ho hun hc hlaw₀)
      fun a ha => hlaw a (List.mem_cons_of_mem _ ha)
    exact hrest.trans (session?_of_unattended hc hun hlaw₀)

/-- Every session that runs is that of a live run, is to be cleared, or is stranded; and what this rests
on. -/
structure Workspace.Sound (stranded : List SessionId) (ws : Workspace σ) : Prop where
  owned : ws.Owned
  distinct : (ws.world.state.sessions.map (·.id)).Nodup
  fits : ∀ s, ws.Fits s
  unattended : ∀ s ∈ stranded, ws.Unattended s
  watched : ∀ s x, ws.world.state.session? s = some x → x.status = .running → s ∉ stranded →
    ws.isLive s = true ∨ ∃ t ∈ ws.tasks, t.Clears s

theorem Workspace.Idle.sound (h : ws.Idle) : ws.Sound [] := by
  refine ⟨h.owned, h.distinct, h.fits, fun s hs => by simp at hs, fun s x hx hrun _ => ?_⟩
  exact absurd hrun (h.still x (List.mem_of_find?_eq_some hx))

/-! ## Distinct identifiers

A session is started by its own run, which is at that stage and has no session
in the console yet (`Run.Fits`). So identifiers stay distinct. -/

theorem Task.run?_of_deed_started {t : Task} {w : World σ} {x : Session}
    (h : t.deed tr w = .tells (.executionStarted x)) :
    ∃ r, t.run? = some r ∧ r.stage = .starting ∧ r.session = x := by
  have ofJob {j : Job} (h : j.deed tr w = .tells (.executionStarted x)) :
      ∃ r, j.run? = some r ∧ r.stage = .starting ∧ r.session = x := by
    obtain ⟨stage⟩ := j
    cases stage with
    | running p r =>
      obtain ⟨session, stage⟩ := r
      refine ⟨_, rfl, ?_⟩
      cases stage with
      | starting => cases h; exact ⟨rfl, rfl⟩
      | listening c t logs =>
        simp only [Job.deed, Run.deed] at h
        split at h <;> cases h
      | _ => cases h
    | reporting session report result => cases report <;> cases h
    | _ => cases h
  obtain ⟨handle, work⟩ := t
  cases work with
  | clear s => cases h
  | _ => exact ofJob h

theorem nodup_change (hd : (ws.world.state.sessions.map (·.id)).Nodup) (h : Change tr ws u d ws')
    (hquiet : ∀ x, u ≠ .tell (.executionStarted x))
    (habsent : ∀ t ∈ ws.tasks, ∀ r, t.run? = some r → r.stage = .starting →
      ∀ x ∈ ws.world.state.sessions, x.id ≠ r.session.id) :
    (ws'.world.state.sessions.map (·.id)).Nodup := by
  rcases state_change h with hst | ⟨a, hst, hwho⟩
  · rw [hst]; exact hd
  rw [hst]
  rcases ids_apply ws.world.state a with hsub | ⟨x, rfl, hids⟩
  · exact hd.sublist hsub
  rcases hwho with ⟨s, rfl⟩ | ⟨-, hu⟩
  · obtain ⟨t, ht, -, hdeed, -⟩ := moved_change h
    obtain ⟨r, hr, hstage, rfl⟩ := Task.run?_of_deed_started hdeed
    rw [hids]
    refine List.nodup_append.mpr ⟨hd, List.pairwise_singleton _ _, fun i hi j hj => ?_⟩
    obtain ⟨y, hy, rfl⟩ := List.mem_map.mp hi
    rw [List.mem_singleton.mp hj]
    exact habsent t ht r hr hstage y hy
  · exact absurd hu (hquiet x)

theorem distinct_change (hs : ws.Sound lost) (h : Change tr ws u d ws')
    (hquiet : ∀ a, u = .tell a → a.drives? = none) :
    (ws'.world.state.sessions.map (·.id)).Nodup := by
  refine nodup_change hs.distinct h (fun x hu => by cases hquiet _ hu) fun t ht r hr hstage y hy => ?_
  have hfit := ((hs.fits r.session.id).runs t ht r hr rfl).2
  rw [hstage] at hfit
  simpa using List.find?_eq_none.mp hfit y hy

/-! ## Who watches a session

A session that runs behind a turn without a deed for it was there before and ran
(`session?_of_running`), so it was watched; what is left of the one that watched
it watches it still. The turn of a waiting part and a drop leave a run or give
it up (`Task.await_of_run?`, `Task.dropped_of_run?`), and a detached task is as
live as before.

A session whose own task has the turn runs only if its run goes on
(`watched_of_move`): what follows the end of a run starts no session. -/

theorem session?_of_running (hs : ws.Sound lost) (h : Change tr ws u d ws')
    (hlaw : ∀ a, u = .tell a → a.drives? ≠ some s) (hd : ∀ e, d ≠ some (s, e)) {x : Session}
    (hx : ws'.world.state.session? s = some x) (hrun : x.status = .running) :
    ws.world.state.session? s = some x := by
  rcases undriven_change h hlaw hd with hst | ⟨a, hst, ha⟩
  · rwa [hst] at hx
  rw [hst] at hx
  obtain rfl := id_of_session? hx
  rcases running_apply (List.mem_of_find?_eq_some hx) hrun with rfl | ⟨y, hy, hid, hyrun⟩
  · exact absurd rfl ha
  · have hy' : ws.world.state.session? x.id = some y := hid ▸ session?_of_mem hs.distinct hy
    rw [← hx, session?_apply_of_ne ha]
    intro z hz
    rwa [Option.some.inj (hz.symm.trans hy')]

theorem Task.result?_of_run? {t : Task} {r : Run} (h : t.run? = some r) : t.result? = none := by
  obtain ⟨handle, work⟩ := t
  cases work with
  | clear s => cases h
  | _ j =>
    obtain ⟨stage⟩ := j
    cases stage <;> first
      | rfl
      | cases h

theorem Task.await_of_run? {t : Task} {r : Run} (h : t.run? = some r) :
    (∃ t' ∈ t.await, t'.run? = some r) ∨ ∃ p, t.await = Task.remains ⟨.running p r⟩ := by
  obtain ⟨handle, work⟩ := t
  cases work with
  | job j => exact .inl ⟨_, List.mem_singleton_self _, h⟩
  | selection j waiting =>
    cases waiting with
    | givenUp =>
      obtain ⟨stage⟩ := j
      cases stage <;> cases h
      exact .inr ⟨_, rfl⟩
    | _ => exact .inl ⟨_, List.mem_singleton_self _, h⟩
  | clear s => cases h

theorem Task.dropped_of_run? {t : Task} {r : Run} (h : t.run? = some r) :
    (∃ t' ∈ t.dropped, t'.run? = some r) ∨ ∃ p, t.dropped = Task.remains ⟨.running p r⟩ := by
  obtain ⟨handle, work⟩ := t
  cases work with
  | job j =>
    obtain ⟨stage⟩ := j
    cases stage <;> cases h
    exact .inr ⟨_, rfl⟩
  | selection j waiting =>
    obtain ⟨stage⟩ := j
    cases stage <;> cases h
    cases waiting <;> exact .inl ⟨_, List.mem_singleton_self _, rfl⟩
  | clear s => cases h

/-- A live run is still watched when somebody else has a turn, unless it is dropped without a runtime. -/
theorem watched_of_run (hs : ws.Sound lost) (h : Change tr ws u d ws')
    (hkeep : ∀ handle, u ≠ .abandon handle) {t : Task} {r : Run}
    (ht : t ∈ ws.tasks) (hr : t.run? = some r) (hres : r.result? = none)
    (hd : ∀ e, d ≠ some (r.session.id, e)) :
    ws'.isLive r.session.id = true ∨ ws'.Fades r.session.id := by
  have hfit := (hs.fits r.session.id).runs t ht r hr rfl
  have left {ts : List Task} (hw : ws'.world = ws.world) (hmem : ∀ t' ∈ ts, t' ∈ ws'.tasks)
      (hts : (∃ t' ∈ ts, t'.run? = some r) ∨ ∃ p, ts = Task.remains ⟨.running p r⟩) :
      ws'.isLive r.session.id = true ∨ ws'.Fades r.session.id := by
    rcases hts with ⟨t', ht', hr'⟩ | ⟨p, rfl⟩
    · exact .inl (isLive_of_mem (hmem t' ht') hr' hres)
    · exact .inr (fades_of_remains p (hw ▸ hfit) hres hmem)
  cases fate_change h ht (Task.result?_of_run? hr) with
  | stays ht' => exact .inl (isLive_of_mem ht' hr hres)
  | awaited hmem hw => exact left hw hmem (Task.await_of_run? hr)
  | letGo ts hgo hmem hw =>
    cases hgo with
    | dropped hh => exact left hw hmem (Task.dropped_of_run? hr)
    | abandoned hh => exact absurd rfl (hkeep _)
    | detached hh => exact .inl (isLive_of_mem (hmem _ (List.mem_singleton_self _)) hr hres)
  | moved ts hstep hmem hd' => exact absurd hd' (Task.session?_of_run? hr ▸ hd _)

theorem Workspace.Sound.still (hs : ws.Sound lost) {t : Task} (ht : t ∈ ws.tasks)
    (hts : t.session? = some s) (hlive : t.isLive s = false) (hclears : ¬ t.Clears s) {x : Session}
    (hx : ws.world.state.session? s = some x) : x.status ≠ .running := by
  intro hrun
  have hattended : s ∉ lost := fun hmem => (hs.unattended s hmem).kept.tasks t ht hts
  rcases hs.watched s x hx hrun hattended with hl | ⟨t', ht', hc⟩
  · obtain ⟨t', ht', r, hr, rfl, hres⟩ := run?_of_isLive hl
    obtain rfl := eq_of_owned hs.owned ht ht' hts (Task.session?_of_run? hr)
    simp [Task.isLive, hr, hres] at hlive
  · obtain rfl := eq_of_owned hs.owned ht ht' hts hc.session?
    exact hclears hc

theorem watched_of_move (hs : ws.Sound lost) {t : Task} {left : List Task} (ht : t ∈ ws.tasks)
    (hts : t.session? = some s) (hstep : t.step tr ws.world = some (left, ws'.world))
    (hleft : ∀ t' ∈ left, t' ∈ ws'.tasks) {x : Session}
    (hx : ws'.world.state.session? s = some x) (hrun : x.status = .running) :
    ws'.isLive s = true := by
  rcases Task.step_cases hstep with ⟨s', hw, -, hw'⟩ | ⟨j, j', hj, hm, rfl⟩
  · simp only [Task.session?, hw, Option.some.injEq] at hts
    rw [hw', hts] at hx
    cases (session?_dropSession _ s).symm.trans hx
  -- Only a run that goes on keeps its session running; behind its end nothing starts the session again.
  have hsession : j.session? = some s := (Task.session?_of_job? hj).symm.trans hts
  have hclears : ¬ t.Clears s := fun hc => by
    simp [Task.job?, show t.work = .clear s from hc] at hj
  generalize hw : ws'.world = w' at hm hx
  cases jobMove_step hm with
  | missed tab time => cases hsession
  | began tab time at' tab' clock htab => cases hsession
  | ran p r r' w' hr =>
    obtain rfl := Option.some.inj hsession
    have hrun? : t.run? = some r := by simp only [Task.run?, hj]; rfl
    have hrun?' : (t.withJob ⟨.running p r'⟩).run? = some r' := by
      simp only [Task.run?, Task.job?_withJob hj]; rfl
    cases hres : r'.result? with
    | none =>
      rw [← (Run.step_session hr).1]
      exact isLive_of_mem (hleft _ (List.mem_singleton_self _)) hrun?' hres
    | some result =>
      have hfit := (hs.fits r.session.id).runs t ht r hrun? rfl
      obtain ⟨y, hy, hstop⟩ := Run.session?_of_ended hr hfit (by simp [hres])
      obtain rfl := Option.some.inj (hx.symm.trans hy)
      exact absurd hrun hstop
  | concluded p r result hr =>
    have hlive : t.isLive s = false := by
      simp [Task.isLive, Task.run?, hj, Job.run?, Run.result?, hr]
    rw [(conclude_world p r result ws.world).1] at hx
    exact absurd hrun (hs.still ht hts hlive hclears hx)
  | reported session report result =>
    have hlive : t.isLive s = false := by simp [Task.isLive, Task.run?, hj, Job.run?]
    obtain rfl := id_of_session? hx
    rcases running_apply (List.mem_of_find?_eq_some hx) hrun with hstart | ⟨y, hy, hid, hyrun⟩
    · cases report <;> cases hstart
    · have hy' := hid ▸ session?_of_mem hs.distinct hy
      exact absurd hyrun (hs.still ht hts hlive hclears hy')
  | cleared session result =>
    obtain rfl := Option.some.inj hsession
    cases (session?_dropSession _ session).symm.trans hx

theorem lawful_of_quiet (hquiet : ∀ a, u = .tell a → a.drives? = none) (s : SessionId) :
    ∀ a, u = .tell a → a.drives? ≠ some s := fun a ha hd => by
  cases (hquiet a ha).symm.trans hd

/-- Every turn keeps the sessions watched, except one that drops a future without a runtime. -/
theorem sound_change (hs : ws.Sound lost) (h : Change tr ws u d ws')
    (hquiet : ∀ a, u = .tell a → a.drives? = none) (hkeep : ∀ handle, u ≠ .abandon handle) :
    ws'.Sound lost := by
  have hlaw := lawful_of_quiet hquiet
  refine ⟨owned_change hs.owned h, distinct_change hs h hquiet,
    fun s => fits_change hs.owned (hs.fits s) h (hlaw s),
    fun s hmem => unattended_change hs.owned (hs.unattended s hmem) h (hlaw s),
    fun s x hx hrun hattended => ?_⟩
  -- Either the task of this session has the turn, or the session ran before and its watch goes on.
  by_cases hd : ∃ e, d = some (s, e)
  · obtain ⟨e, rfl⟩ := hd
    obtain ⟨t, ht, hts, -, left, hstep, hleft⟩ := moved_change h
    exact .inl (watched_of_move hs ht hts hstep hleft hx hrun)
  · have hd' : ∀ e, d ≠ some (s, e) := fun e he => hd ⟨e, he⟩
    have fading (hf : ws'.Fades s) : ∃ t ∈ ws'.tasks, t.Clears s :=
      hf.resolve_left fun hnone => by cases hnone.symm.trans hx
    have hx₀ := session?_of_running hs h (hlaw s) hd' hx hrun
    rcases hs.watched s x hx₀ hrun hattended with hl | ⟨t, ht, hc⟩
    · obtain ⟨t, ht, r, hr, rfl, hres⟩ := run?_of_isLive hl
      exact (watched_of_run hs h hkeep ht hr hres hd').imp_right fading
    · exact .inr (fading (fades_of_clears h ht hc))

/-! ## Without a runtime

Only a job can be dropped without a runtime, and nothing is left of it. The
two halves of a selection were begun in the runtime, and so was a task that
clears. -/

section
variable {handle : String} {t : Task} {j : Job}

theorem Job.run_of_orphan? (h : j.orphan? = some s) :
    ∃ p r, j = ⟨.running p r⟩ ∧ r.result? = none ∧ r.session.id = s := by
  obtain ⟨stage⟩ := j
  cases stage with
  | running p r =>
    refine ⟨p, r, rfl, ?_⟩
    obtain ⟨session, stage⟩ := r
    cases stage <;> cases h <;> exact ⟨rfl, rfl⟩
  | _ => cases h

theorem kept_of_abandoned (ho : ws.Owned) (ht : ws.task? handle = some t) (hw : t.work = .job j)
    (hs : j.session? = some s) : (ws.abandon handle).Kept (fun _ => False) s := by
  have hts : t.session? = some s := by simp only [Task.session?, hw, hs]
  refine kept_letGo ho ht hts fun t' ht' _ => ?_
  simp only [Task.abandoned, hw] at ht'
  cases ht'

theorem unattended_of_abandoned (ho : ws.Owned) {p : Purpose} {r : Run} (ht : ws.task? handle = some t)
    (hw : t.work = .job ⟨.running p r⟩) (hf : r.Fits ws.world.state) (hr : r.result? = none) :
    (ws.abandon handle).Unattended r.session.id where
  kept := kept_of_abandoned ho ht hw rfl
  running := by
    rw [show (ws.abandon handle).world = ws.world from world_letGo _ _ ws]
    exact hf.running hr

theorem sound_abandon (tr : Transport σ) (hs : ws.Sound lost) (ht : ws.task? handle = some t)
    (hw : t.work = .job j) : (ws.abandon handle).Sound (lost ++ j.orphan?.toList) := by
  have hc : Change tr ws (.abandon handle) none (ws.abandon handle) := change_turn tr ws (.abandon handle)
  obtain ⟨l, r₀, htasks, habandon⟩ := letGo_of_task? Task.abandoned ht
  replace habandon : ws.abandon handle = ⟨ws.world, l ++ r₀ ++ t.abandoned⟩ := habandon
  have hmem : t ∈ ws.tasks := htasks ▸ by simp
  refine ⟨owned_change hs.owned hc, distinct_change hs hc (fun a ha => by cases ha),
    fun s => fits_change hs.owned (hs.fits s) hc (fun a ha => by cases ha), fun s hlost => ?_,
    fun s x hx hrun hattended => ?_⟩
  · rcases List.mem_append.mp hlost with hlost | horphan
    · exact unattended_change hs.owned (hs.unattended s hlost) hc (fun a ha => by cases ha)
    · obtain ⟨p, r, rfl, hr, rfl⟩ := Job.run_of_orphan? (Option.mem_toList.mp horphan)
      have hrun? : t.run? = some r := Task.run?_of_job? (p := p) (by simp only [Task.job?, hw])
      exact unattended_of_abandoned hs.owned ht hw ((hs.fits _).runs t hmem r hrun? rfl) hr
  · have hother {t' : Task} (ht' : t' ∈ ws.tasks) (hne : t' ≠ t) : t' ∈ (ws.abandon handle).tasks := by
      rw [habandon]
      rw [htasks] at ht'
      rcases List.mem_append.mp ht' with h | h
      · simp [h]
      · exact List.mem_append_left _ (List.mem_append_right _ ((List.mem_cons.mp h).resolve_left hne))
    have hx₀ : ws.world.state.session? s = some x := by rwa [habandon] at hx
    rcases hs.watched s x hx₀ hrun (fun h => hattended (List.mem_append_left _ h)) with
      hl | ⟨t', ht', hclears⟩
    · obtain ⟨t', ht', r, hr, rfl, hres⟩ := run?_of_isLive hl
      refine .inl (isLive_of_mem (hother ht' ?_) hr hres)
      -- The run that is dropped has started its session, so this is stranded.
      rintro rfl
      have hfit := (hs.fits r.session.id).runs t' ht' r hr rfl
      rcases Run.orphan?_of_result? hres with horphan | hready
      · have hj : j.orphan? = some r.session.id := by
          simp only [Task.run?, Task.job?, hw, Option.bind_some] at hr
          obtain ⟨stage⟩ := j
          cases stage <;> cases hr
          exact horphan
        exact hattended (List.mem_append_right _ (Option.mem_toList.mpr hj))
      · have hst := hfit.2
        rw [hready] at hst
        cases hst.symm.trans hx₀
    · refine .inr ⟨t', hother ht' ?_, hclears⟩
      rintro rfl
      cases hw.symm.trans hclears

end

theorem sound_turn (tr : Transport σ) (hs : ws.Sound lost)
    (hquiet : ∀ a, u = .tell a → a.drives? = none) :
    (ws.turn tr u).Sound (lost ++ (ws.strands? u).toList) := by
  have keeping {u : Turn} (hquiet : ∀ a, u = .tell a → a.drives? = none)
      (hkeep : ∀ handle, u ≠ .abandon handle) : (ws.turn tr u).Sound (lost ++ none.toList) := by
    rw [Option.toList_none, List.append_nil]
    exact sound_change hs (change_turn tr ws u) hquiet hkeep
  cases u with
  | abandon handle =>
    cases ht : ws.task? handle with
    | none =>
      have hstay : ws.abandon handle = ws := by simp only [Workspace.abandon, Workspace.letGo, ht]
      have hnone : ws.strands? (.abandon handle) = none := by rw [strands?, ht, Option.bind_none]
      rw [hnone, Option.toList_none, List.append_nil]
      show (ws.abandon handle).Sound lost
      rwa [hstay]
    | some t =>
      obtain ⟨held, work⟩ := t
      cases work with
      | job j =>
        have hsome : ws.strands? (.abandon handle) = j.orphan? := by rw [strands?, ht]; rfl
        rw [hsome]
        exact sound_abandon tr hs ht rfl
      -- The rest was begun in the runtime, and that gives it up.
      | _ =>
        have habandon : ws.abandon handle = ws.drop handle := by
          simp only [Workspace.abandon, Workspace.drop, Workspace.letGo, ht, Task.abandoned]
        have hnone : ws.strands? (.abandon handle) = none := by rw [strands?, ht]; rfl
        have hdrop := keeping (u := .drop handle) (fun a ha => by cases ha) fun _ h => by cases h
        rw [hnone]
        show (ws.abandon handle).Sound _
        rwa [habandon]
  | _ => exact keeping hquiet fun handle hu => by cases hu

theorem sound_play (tr : Transport σ) (hs : ws.Sound lost) {turns : List Turn}
    (hquiet : ∀ a, .tell a ∈ turns → a.drives? = none) :
    (ws.play tr turns).Sound (lost ++ ws.stranded tr turns) := by
  induction turns generalizing ws lost with
  | nil => rw [Workspace.stranded, List.append_nil]; exact hs
  | cons u turns ih =>
    have hs' := ih (sound_turn tr hs fun a ha => hquiet a (ha ▸ List.mem_cons_self))
      fun a ha => hquiet a (List.mem_cons_of_mem _ ha)
    rwa [List.append_assoc] at hs'

/-! ## Dropping a job

Each of the three ways has a lemma of its own, for a job under a handle in any
workspace whose sessions are watched. -/

section
variable {handle : String} {j : Job}

theorem clears_of_dropped (ho : ws.Owned) (ht : ws.task? handle = some ⟨some handle, .job j⟩)
    (hj : j.session? = some s) : (ws.drop handle).Kept (Task.Clears s) s :=
  kept_letGo ho ht hj fun _ ht' hs' => Task.clears_of_remains ht' hs'

theorem stops_of_dropped (ho : ws.Owned) {p : Purpose} {r : Run}
    (ht : ws.task? handle = some ⟨some handle, .job ⟨.running p r⟩⟩) (hf : r.Fits ws.world.state)
    (hr : r.result? = none) : (ws.drop handle).Stops tr r.session.id := by
  have ho' := owned_change ho (change_turn tr ws (.drop handle))
  refine stops_of_clears ho' (clears_of_dropped ho ht rfl) ?_
  obtain ⟨l, r₀, -, hdrop⟩ := drop_of_task? ht
  rw [hdrop]
  exact fades_of_remains p hf hr fun t' ht' => List.mem_append_right _ ht'

theorem remains_of_stopped (hf : ws.Fits s) (ht : ⟨some handle, .job j⟩ ∈ ws.tasks)
    (hj : j.session? = some s) {x : Session} (hx : ws.world.state.session? s = some x)
    (hstop : x.status ≠ .running) : Task.remains j = [] := by
  obtain ⟨stage⟩ := j
  cases stage with
  | running p r =>
    obtain rfl := Option.some.inj hj
    cases hr : r.result? with
    | none => exact absurd ((hf.runs _ ht r rfl rfl).running hr x hx) hstop
    | some result =>
      simp [Task.remains, Job.orphan?, Run.orphan?, Run.stage_of_result? hr]
  | _ => rfl

/-- Dropping a job tells nothing by itself, and afterwards nothing more is told of its session but that it is
cleared; if its run had not ended, the session goes; if the session ran no longer, nothing more is done to
it. -/
theorem drop_job (hs : ws.Sound lost) (ht : ws.task? handle = some ⟨some handle, .job j⟩)
    (hj : j.session? = some s) :
    (ws.drop handle).world = ws.world ∧
      (∀ after e, (s, e) ∈ (ws.drop handle).deeds tr after → e = .tells (.executionCleared s)) ∧
      (∀ p r, j = ⟨.running p r⟩ → r.result? = none → (ws.drop handle).Stops tr s) ∧
      (∀ x, ws.world.state.session? s = some x → x.status ≠ .running →
        ∀ after e, (s, e) ∉ (ws.drop handle).deeds tr after) := by
  have ho : (ws.drop handle).Owned := owned_change hs.owned (change_turn tr ws (.drop handle))
  have hmem : (⟨some handle, .job j⟩ : Task) ∈ ws.tasks := List.mem_of_find?_eq_some ht
  refine ⟨world_letGo _ _ ws, fun after e he => ?_, fun p r heq hr => ?_,
    fun x hx hstop after e he => ?_⟩
  · obtain ⟨t, w, hc, -, hd⟩ :=
      deed_of_kept (closed_clears tr s) ho (clears_of_dropped hs.owned ht hj) he
    exact hd.symm.trans (hc.deed w)
  · subst heq
    obtain rfl := Option.some.inj hj
    exact stops_of_dropped hs.owned ht ((hs.fits r.session.id).runs _ hmem r rfl rfl) hr
  · have hnone := remains_of_stopped (hs.fits s) hmem hj hx hstop
    have hk : (ws.drop handle).Kept (fun _ => False) s := kept_letGo hs.owned ht hj fun t' ht' _ => by
      rw [show Task.dropped ⟨some handle, .job j⟩ = [] from hnone] at ht'
      exact absurd ht' List.not_mem_nil
    obtain ⟨t, w, hfalse, -⟩ := deed_of_kept (closed_none tr s) ho hk he
    exact hfalse

/-- Without a runtime nothing more is told of its session; if its run had not ended, the session stays as it
is for good. -/
theorem abandon_job (hs : ws.Sound lost) (ht : ws.task? handle = some ⟨some handle, .job j⟩)
    (hj : j.session? = some s) :
    (ws.abandon handle).world = ws.world ∧
      (∀ after e, (s, e) ∉ (ws.abandon handle).deeds tr after) ∧
      (∀ p r, j = ⟨.running p r⟩ → r.result? = none → (ws.abandon handle).Stays tr s) := by
  have ho : (ws.abandon handle).Owned := owned_change hs.owned (change_turn tr ws (.abandon handle))
  refine ⟨world_letGo _ _ ws, fun after e he => ?_, fun p r heq hr => ?_⟩
  · obtain ⟨t, w, hfalse, -⟩ :=
      deed_of_kept (closed_none tr s) ho (kept_of_abandoned hs.owned ht rfl hj) he
    exact hfalse
  · subst heq
    obtain rfl := Option.some.inj hj
    have hfit := (hs.fits r.session.id).runs _ (List.mem_of_find?_eq_some ht) r rfl rfl
    exact stays_of_unattended ho (unattended_of_abandoned hs.owned ht rfl hfit hr)

/-- When a join of it is dropped a job goes on: its run may come to its end, and the session of a run for its
own sake is cleared by nobody. -/
theorem detach_job (hs : ws.Sound lost) {p : Purpose} {r : Run}
    (ht : ws.task? handle = some ⟨some handle, .job ⟨.running p r⟩⟩) (hr : r.result? = none) :
    (ws.detach handle).world = ws.world ∧ (ws.detach handle).CanEnd tr r.session.id ∧
      (p = .run → ∀ after e, (r.session.id, e) ∈ (ws.detach handle).deeds tr after →
        e ≠ .tells (.executionCleared r.session.id)) := by
  obtain ⟨l, r₀, -, hdetach⟩ := letGo_of_task? (fun t => [t.unheld]) ht
  replace hdetach : ws.detach handle = ⟨ws.world, l ++ r₀ ++ [⟨none, .job ⟨.running p r⟩⟩]⟩ := hdetach
  have hworld : (ws.detach handle).world = ws.world := world_letGo _ _ ws
  refine ⟨hworld, ?_, fun hp after e he => ?_⟩
  · have hfit := (hs.fits r.session.id).runs _ (List.mem_of_find?_eq_some ht) r rfl rfl
    have hplace : (ws.detach handle).tasks[(l ++ r₀).length]? = some ⟨none, .job ⟨.running p r⟩⟩ := by
      rw [hdetach]
      exact List.getElem?_concat_length
    exact exists_end (fun r w hr => Task.step_job_of_none none p hr w) hplace (hworld ▸ hfit) hr
  · subst hp
    have ho : (ws.detach handle).Owned := owned_change hs.owned (change_turn tr ws (.detach handle))
    have hk : (ws.detach handle).Kept (fun t => ∃ r, t = Task.detached r) r.session.id :=
      kept_letGo hs.owned ht rfl fun t' ht' _ => ⟨r, List.mem_singleton.mp ht'⟩
    obtain ⟨t, w, ⟨r', rfl⟩, -, hd⟩ := deed_of_kept (closed_detached tr _) ho hk he
    rw [← hd]
    exact r'.deed_ne_cleared w _

end

theorem Workspace.Sound.running (hs : ws.Sound lost) {x : Session}
    (hx : ws.world.state.session? s = some x) (h : ws.isLive s = true ∨ s ∈ lost) :
    x.status = .running := by
  rcases h with hl | hlost
  · obtain ⟨t, ht, r, hr, rfl, hres⟩ := run?_of_isLive hl
    exact ((hs.fits r.session.id).runs t ht r hr rfl).running hres x hx
  · exact (hs.unattended s hlost).running x hx

/-- Where every task waits, the sessions that run are those of live runs, and those whose run was dropped
without a runtime. A job that is dropped where there is one tells nothing more but that its session is
cleared; if its run had not ended, the session goes; if the session ran no longer, nothing more is done to
it. Without a runtime the session stays for good. If a join of the job is dropped the run goes on. -/
theorem no_stuck_session (tr : Transport σ) {ws₀ : Workspace σ} (hi : ws₀.Idle) (turns : List Turn)
    (hquiet : ∀ a, .tell a ∈ turns → a.drives? = none) :
    let ws := ws₀.play tr turns
    (ws.Waits tr → ∀ x ∈ ws.world.state.sessions,
        (x.status = .running ↔ ws.isLive x.id = true ∨ x.id ∈ ws₀.stranded tr turns)) ∧
      ∀ handle j s, ws.task? handle = some ⟨some handle, .job j⟩ → j.session? = some s →
        ((ws.drop handle).world = ws.world ∧
          (∀ after e, (s, e) ∈ (ws.drop handle).deeds tr after → e = .tells (.executionCleared s)) ∧
          (∀ p r, j = ⟨.running p r⟩ → r.result? = none → (ws.drop handle).Stops tr s) ∧
          (∀ x, ws.world.state.session? s = some x → x.status ≠ .running →
            ∀ after e, (s, e) ∉ (ws.drop handle).deeds tr after)) ∧
        ((ws.abandon handle).world = ws.world ∧
          (∀ after e, (s, e) ∉ (ws.abandon handle).deeds tr after) ∧
          (∀ p r, j = ⟨.running p r⟩ → r.result? = none → (ws.abandon handle).Stays tr s)) ∧
        (∀ p r, j = ⟨.running p r⟩ → r.result? = none →
          (ws.detach handle).world = ws.world ∧ (ws.detach handle).CanEnd tr s ∧
            (p = .run → ∀ after e, (s, e) ∈ (ws.detach handle).deeds tr after →
              e ≠ .tells (.executionCleared s))) := by
  intro ws
  have hs : ws.Sound ([] ++ ws₀.stranded tr turns) := sound_play tr hi.sound hquiet
  rw [List.nil_append] at hs
  refine ⟨fun hwaits x hx => ⟨fun hrun => ?_, ?_⟩, fun handle j s ht hj => ⟨?_, ?_, ?_⟩⟩
  · by_cases hlost : x.id ∈ ws₀.stranded tr turns
    · exact .inr hlost
    rcases hs.watched x.id x (session?_of_mem hs.distinct hx) hrun hlost with hl | ⟨t, ht, hc⟩
    · exact .inl hl
    · cases (hc.step ws.world).symm.trans (hwaits t ht).1
  · exact hs.running (session?_of_mem hs.distinct hx)
  · exact drop_job hs ht hj
  · exact abandon_job hs ht hj
  · rintro p r rfl hr
    obtain rfl := Option.some.inj hj
    exact detach_job hs ht hr

/-- A run begins, and takes items until its channel is silent. -/
def runUntilQuiet : List Turn :=
  .begin "a" (.run ⟨⟨"1"⟩, "disk", "", none⟩ ⟨"10.0.0.1", "web", none, none, .synthetic 80⟩) ::
    List.replicate 6 (.move 0)

/-- The run is dropped there, and its session goes. -/
theorem no_stuck_session_prepared :
    ((quietStart.play prepared runUntilQuiet).drop "a").Stops prepared ⟨1⟩ := by
  have hquiet : ∀ a, Turn.tell a ∈ runUntilQuiet → a.drives? = none := fun a ha => by
    simp [runUntilQuiet] at ha
  obtain ⟨r, ht, hid, hr⟩ : ∃ r : Run,
      (quietStart.play prepared runUntilQuiet).task? "a" = some ⟨some "a", .job ⟨.running .run r⟩⟩ ∧
        r.session.id = ⟨1⟩ ∧ r.result? = none := ⟨_, rfl, rfl, rfl⟩
  have hjob := (no_stuck_session prepared quietStart_idle runUntilQuiet hquiet).2 "a" _ ⟨1⟩ ht
    (congrArg some hid)
  exact hjob.1.2.2.1 _ r rfl hr

/-- It is let go in one of the other ways. Without a runtime its session runs on although no task is left. If a
join of the run is dropped, the run takes the next item; and so it does if the handle of a selection is
dropped whose waiting part is in that join. -/
theorem stuck_sessions :
    let ws := quietStart.play prepared runUntilQuiet
    let onward : List Turn := [.release 0, .move 0, .move 0]
    (ws.abandon "a").tasks = [] ∧
      ((ws.abandon "a").world.state.session? ⟨1⟩).map (·.status) = some .running ∧
      (⟨1⟩, .asks 0 2) ∈ (ws.detach "a").deeds prepared onward ∧
      (⟨1⟩, .asks 0 2) ∈ ((quietStart.play prepared untilQuiet).drop "h").deeds prepared onward := by
  decide +kernel

end ScanConsole
