import ScanConsole.Proofs.Turns

/-!
# Whose session it is

No two tasks of a workspace work for one session, and every session that a task
works for comes from the supply (`Workspace.Owned`). So when a task moves, the
tasks of other sessions stay as they are, and `Origin` says of each task behind
a turn which task it was before.

A run and the console agree (`Run.Fits`): the session of a run that has not told
its start is not there, and that of a run that goes on is there and runs. Others
cannot disturb this as long as they do not drive that session (`fits_change`).

Both are invariants of all turns:

    ws.Owned  → Change tr ws u d ws' → ws'.Owned                    (`owned_change`)
    ws.Owned → ws.Fits s → Change tr ws u d ws' →
      (∀ a, u = .tell a → a.drives? ≠ some s) → ws'.Fits s          (`fits_change`)

The second has a hypothesis, and it cannot be avoided: somebody who is no task
may tell the console that a session is completed or cleared while its run goes
on, and then the two do not agree any more. `Lawful` is this hypothesis for a
list of turns. It leaves to others everything but the actions that drive this
one session; a dismissal is allowed, since the console refuses it while the
session runs.

They start from a console at rest (`Workspace.Idle`), where no task is there and
the supply has only new sessions.
-/

namespace ScanConsole

variable {σ : Type} {tr : Transport σ} {ws ws' : Workspace σ} {u : Turn}
  {d : Option (SessionId × Deed)} {s : SessionId}

namespace Workspace

def owners (ws : Workspace σ) : List SessionId := ws.tasks.filterMap Task.session?

/-- No two tasks work for one session, and none for a session that the supply still has. -/
structure Owned (ws : Workspace σ) : Prop where
  nodup : ws.owners.Nodup
  known : ∀ s ∈ ws.owners, s.number < ws.world.nextSession

/-- A console at rest: no task, no session that runs, and a supply that has only new sessions. -/
structure Idle (ws : Workspace σ) : Prop where
  tasks : ws.tasks = []
  distinct : (ws.world.state.sessions.map (·.id)).Nodup
  known : ∀ x ∈ ws.world.state.sessions, x.id.number < ws.world.nextSession
  still : ∀ x ∈ ws.world.state.sessions, x.status ≠ .running

theorem Idle.of_empty {ws : Workspace σ} (ht : ws.tasks = []) (hs : ws.world.state.sessions = []) :
    ws.Idle := by
  constructor <;> simp [ht, hs]

theorem mem_owners {t : Task} (ht : t ∈ ws.tasks) (hs : t.session? = some s) : s ∈ ws.owners :=
  List.mem_filterMap.mpr ⟨t, ht, hs⟩

end Workspace

open Workspace

theorem owners_replace {l r left : List Task} {t : Task}
    (h : (left.filterMap Task.session?).Sublist t.session?.toList) :
    ((l ++ left ++ r).filterMap Task.session?).Sublist ((l ++ t :: r).filterMap Task.session?) := by
  rw [← List.singleton_append (l := r), ← List.append_assoc, List.filterMap_append,
    List.filterMap_append, List.filterMap_append, List.filterMap_append]
  refine ((List.Sublist.refl _).append ?_).append (List.Sublist.refl _)
  cases hs : t.session? with
  | none => simpa [hs] using h
  | some s => simpa [hs] using h

theorem owners_change (h : Change tr ws u d ws') :
    ∃ xs, xs.Sublist ws.owners ∧
      ((ws'.world.nextSession = ws.world.nextSession ∧ ws'.owners.Perm xs) ∨
        (ws'.world.nextSession = ws.world.nextSession + 1 ∧
          ws'.owners.Perm (⟨ws.world.nextSession⟩ :: xs))) := by
  cases h with
  | @moved place l r left t w htasks hm =>
    rcases Task.step_sessions hm with ⟨hn, hsub⟩ | ⟨hn, hnone, hfresh⟩
    · refine ⟨_, ?_, .inl ⟨hn, List.Perm.refl _⟩⟩
      rw [owners, owners, htasks]
      exact owners_replace hsub
    · refine ⟨ws.owners, List.Sublist.refl _, .inr ⟨hn, ?_⟩⟩
      simp only [owners, htasks, List.append_assoc, List.filterMap_append, hfresh,
        List.filterMap_cons_none hnone]
      exact List.perm_middle
  | @awaited place l r t htasks =>
    refine ⟨_, ?_, .inl ⟨rfl, List.Perm.refl _⟩⟩
    rw [owners, owners, htasks]
    exact owners_replace t.sessions_await
  | @letGo u l r left t htasks hgo =>
    refine ⟨(l ++ left ++ r).filterMap Task.session?, ?_, .inl ⟨rfl, ?_⟩⟩
    · rw [owners, htasks]
      exact owners_replace hgo.sessions
    · refine List.Perm.filterMap _ ?_
      rw [List.append_assoc, List.append_assoc]
      exact List.perm_append_comm.append_left l
  | thinned hsub => exact ⟨_, hsub.filterMap _, .inl ⟨rfl, List.Perm.refl _⟩⟩
  | @begun handle errand t n ht hr =>
    refine ⟨ws.owners, List.Sublist.refl _, ?_⟩
    rcases ht with ⟨rfl, hs⟩ | ⟨rfl, hs⟩
    · exact .inl ⟨rfl, by simp [owners, hs]⟩
    · refine .inr ⟨rfl, ?_⟩
      simp only [owners, List.filterMap_append, List.filterMap_cons_some hs, List.filterMap_nil]
      exact List.perm_append_comm
  | told => exact ⟨_, List.Sublist.refl _, .inl ⟨rfl, List.Perm.refl _⟩⟩
  | released => exact ⟨_, List.Sublist.refl _, .inl ⟨rfl, List.Perm.refl _⟩⟩

theorem nextSession_le_change (h : Change tr ws u d ws') :
    ws.world.nextSession ≤ ws'.world.nextSession := by
  obtain ⟨xs, -, ⟨hn, -⟩ | ⟨hn, -⟩⟩ := owners_change h <;> omega

theorem owned_change (ho : ws.Owned) (h : Change tr ws u d ws') : ws'.Owned := by
  obtain ⟨xs, hsub, ⟨hn, hperm⟩ | ⟨hn, hperm⟩⟩ := owners_change h
  · refine ⟨hperm.nodup_iff.mpr (ho.nodup.sublist hsub), fun s hs => ?_⟩
    rw [hn]
    exact ho.known s (hsub.subset (hperm.mem_iff.mp hs))
  · have hfresh : (⟨ws.world.nextSession⟩ : SessionId) ∉ xs := fun hmem =>
      absurd (ho.known _ (hsub.subset hmem)) (Nat.lt_irrefl _)
    refine ⟨hperm.nodup_iff.mpr (List.nodup_cons.mpr ⟨hfresh, ho.nodup.sublist hsub⟩),
      fun s hs => ?_⟩
    rw [hn]
    rcases List.mem_cons.mp (hperm.mem_iff.mp hs) with rfl | hs
    · exact Nat.lt_succ_self _
    · exact Nat.lt_succ_of_lt (ho.known s (hsub.subset hs))

theorem owned_play (tr : Transport σ) (ho : ws.Owned) (turns : List Turn) : (ws.play tr turns).Owned := by
  induction turns generalizing ws with
  | nil => exact ho
  | cons u turns ih => exact ih (owned_change ho (change_turn tr ws u))

theorem Workspace.Idle.owned (h : ws.Idle) : ws.Owned := by
  constructor <;> simp [owners, h.tasks]

theorem nextSession_le_play (tr : Transport σ) (ws : Workspace σ) (turns : List Turn) :
    ws.world.nextSession ≤ (ws.play tr turns).world.nextSession := by
  induction turns generalizing ws with
  | nil => exact Nat.le_refl _
  | cons u turns ih => exact Nat.le_trans (nextSession_le_change (change_turn tr ws u)) (ih _)

/-! ## Where a task comes from

Two tasks that work for one session stand at one place (`session?_ne_of_owned`),
which is what makes "the task of a session" a name. A task that works for
session `s` behind a turn was there before, or was left of the task that worked
for `s` before, or has begun its run just now (`origin_change`). In the last
case it has told nothing, and to refresh a tab it has begun only if that is
open.

A waiting part that has its turn leaves the job; so does a drop, unless a run
goes on for its own sake (`Task.job?_of_dropped`). A task that makes a run
behind a move made the same run before, and the move was one of that run. -/

/-- Which task `t'`, which works for session `s` behind a turn, was before the turn. -/
inductive Origin (tr : Transport σ) (ws : Workspace σ) (d : Option (SessionId × Deed))
    (ws' : Workspace σ) (s : SessionId) (t' : Task) : Prop
  | same : t' ∈ ws.tasks → (∀ e, d ≠ some (s, e)) → Origin tr ws d ws' s t'
  | awaited (t : Task) : t ∈ ws.tasks → t.session? = some s → t' ∈ t.await → d = none →
      Origin tr ws d ws' s t'
  | dropped (t : Task) (handle : String) : t ∈ ws.tasks → t.session? = some s →
      t.handle = some handle → t' ∈ t.dropped → d = none → Origin tr ws d ws' s t'
  | unheld (t : Task) (handle : String) : t ∈ ws.tasks → t.session? = some s →
      t.handle = some handle → t' = t.unheld → d = none → Origin tr ws d ws' s t'
  | moved (t : Task) : t ∈ ws.tasks → t.session? = some s →
      t.step tr ws.world = some ([t'], ws'.world) → d = some (s, t.deed tr ws.world) →
      Origin tr ws d ws' s t'
  | fresh (p : Purpose) (plugin : Plugin) (resource : Resource) : s = ⟨ws.world.nextSession⟩ →
      t'.job? = some ⟨.running p (.ofPair s plugin resource)⟩ →
      (∀ tab time, p = .refresh tab time → (ws.world.state.tab? tab).isSome = true) →
      (∀ e, d ≠ some (s, e)) → ws'.world.state = ws.world.state → Origin tr ws d ws' s t'

theorem session?_ne_of_owned (ho : ws.Owned) {l r : List Task} {t t' : Task}
    (htasks : ws.tasks = l ++ t :: r) (ht' : t' ∈ l ++ r) (hs' : t'.session? = some s) :
    t.session? ≠ some s := by
  intro hs
  have hnd := ho.nodup
  rw [owners, htasks, List.filterMap_append, List.filterMap_cons_some hs] at hnd
  have hnot := (List.nodup_cons.mp (List.perm_middle.nodup_iff.mp hnd)).1
  rw [← List.filterMap_append] at hnot
  exact hnot (List.mem_filterMap.mpr ⟨t', ht', hs'⟩)

theorem eq_of_owned (ho : ws.Owned) {t t' : Task} (ht : t ∈ ws.tasks) (ht' : t' ∈ ws.tasks)
    (hs : t.session? = some s) (hs' : t'.session? = some s) : t' = t := by
  obtain ⟨l, r, htasks⟩ := List.append_of_mem ht
  rw [htasks] at ht'
  rcases List.mem_append.mp ht' with h | h
  · exact absurd hs (session?_ne_of_owned ho htasks (List.mem_append_left _ h) hs')
  · rcases List.mem_cons.mp h with h | h
    · exact h
    · exact absurd hs (session?_ne_of_owned ho htasks (List.mem_append_right _ h) hs')

theorem Task.length_step {t : Task} {left : List Task} {w w' : World σ} {t' : Task}
    (h : t.step tr w = some (left, w')) (ht' : t' ∈ left) : left = [t'] := by
  rcases Task.step_cases h with ⟨s, -, rfl, -⟩ | ⟨j, j', -, -, rfl⟩
  · exact absurd ht' List.not_mem_nil
  · rw [List.mem_singleton.mp ht']

theorem Task.run?_of_job? {t : Task} {p : Purpose} {r : Run} (h : t.job? = some ⟨.running p r⟩) :
    t.run? = some r := by
  rw [Task.run?, h]
  rfl

theorem Task.fresh_of_step {t t' : Task} {w w' : World σ} (h : t.step tr w = some ([t'], w'))
    (hnone : t.session? = none) (hs : t'.session? = some s) :
    w'.state = w.state ∧ ∃ p plugin resource, t'.job? = some ⟨.running p (.ofPair s plugin resource)⟩ ∧
      ∀ tab time, p = .refresh tab time → (w.state.tab? tab).isSome = true := by
  rcases Task.step_cases h with ⟨s', -, hnil, -⟩ | ⟨j, j', hj, hm, hleft⟩
  · cases hnil
  obtain rfl := (List.cons.inj hleft).1
  have hjn : j.session? = none := (Task.session?_of_job? hj).symm.trans hnone
  have hs' : j'.session? = some s := (Task.session?_of_job? (Task.job?_withJob hj)).symm.trans hs
  cases jobMove_step hm with
  | began tab time at' tab' clock htab =>
    obtain rfl := Option.some.inj hs'
    refine ⟨rfl, _, tab'.plugin, tab'.resource, Task.job?_withJob hj, ?_⟩
    rintro _ _ ⟨⟩
    rw [htab]
    rfl
  | missed tab time => cases hs'
  | _ => cases hjn

theorem Task.session?_of_left {t t' : Task} {left : List Task}
    (hsub : (left.filterMap Task.session?).Sublist t.session?.toList) (ht' : t' ∈ left)
    (hs : t'.session? = some s) : t.session? = some s := by
  have hmem := hsub.subset (List.mem_filterMap.mpr ⟨t', ht', hs⟩)
  simpa using hmem

/-- What is left of the task that moved works for its session or a fresh one. -/
theorem origin_of_left {t t' : Task} {left : List Task} (ht : t ∈ ws.tasks)
    (hm : t.step tr ws.world = some (left, ws'.world)) (hleft : t' ∈ left) (hs : t'.session? = some s) :
    Origin tr ws (t.session?.map (·, t.deed tr ws.world)) ws' s t' := by
  obtain rfl := Task.length_step hm hleft
  rcases Task.step_sessions hm with ⟨-, hsub⟩ | ⟨-, hnone, hfresh⟩
  · have hts : t.session? = some s := Task.session?_of_left hsub (List.mem_singleton_self _) hs
    exact .moved t ht hts hm (by rw [hts]; rfl)
  · rw [List.filterMap_cons_some hs] at hfresh
    obtain rfl : s = ⟨ws.world.nextSession⟩ := (List.cons.inj hfresh).1
    have hd : ∀ e, (t.session?.map (·, t.deed tr ws.world)) ≠
        some (⟨ws.world.nextSession⟩, e) := by simp [hnone]
    obtain ⟨hst, p, plugin, resource, hj, hopen⟩ := Task.fresh_of_step hm hnone hs
    exact .fresh p plugin resource rfl hj hopen hd hst

/-- No task but the one that moved works for its session. -/
theorem origin_of_other (ho : ws.Owned) {l r : List Task} {t t' : Task}
    (htasks : ws.tasks = l ++ t :: r) (hother : t' ∈ l ++ r) (hs : t'.session? = some s) :
    Origin tr ws (t.session?.map (·, t.deed tr ws.world)) ws' s t' := by
  have ht' : t' ∈ ws.tasks := by
    rw [htasks]
    rcases List.mem_append.mp hother with h | h
    · exact List.mem_append_left _ h
    · exact List.mem_append_right _ (List.mem_cons_of_mem _ h)
  have hne := session?_ne_of_owned ho htasks hother hs
  refine .same ht' fun e he => ?_
  obtain ⟨s₀, ht₀, heq⟩ := Option.map_eq_some_iff.mp he
  obtain ⟨rfl, -⟩ := Prod.mk.inj heq
  exact hne ht₀

theorem origin_change (ho : ws.Owned) (h : Change tr ws u d ws') {t' : Task}
    (ht' : t' ∈ ws'.tasks) (hs : t'.session? = some s) : Origin tr ws d ws' s t' := by
  cases h with
  | @moved place l r left t w htasks hm =>
    have hmem : t' ∈ left ∨ t' ∈ l ++ r := by simpa [or_comm, or_assoc, or_left_comm] using ht'
    rcases hmem with hleft | hother
    · exact origin_of_left (by simp [htasks]) hm hleft hs
    · exact origin_of_other ho htasks hother hs
  | @awaited place l r t htasks =>
    rcases List.mem_append.mp ht' with h | h
    · rcases List.mem_append.mp h with h | h
      · exact .same (by simp [htasks, h]) fun _ h => by cases h
      · exact .awaited t (by simp [htasks]) (Task.session?_of_left t.sessions_await h hs) h rfl
    · exact .same (by simp [htasks, h]) fun _ h => by cases h
  | @letGo u l r left t htasks hgo =>
    rcases List.mem_append.mp ht' with h | h
    · refine .same ?_ fun _ h => by cases h
      rcases List.mem_append.mp h with h | h <;> simp [htasks, h]
    · have hts : t.session? = some s := Task.session?_of_left hgo.sessions h hs
      obtain ⟨handle, hh⟩ := hgo.held
      rcases hgo.mem h with hdropped | hunheld
      · exact .dropped t handle (by simp [htasks]) hts hh hdropped rfl
      · exact .unheld t handle (by simp [htasks]) hts hh hunheld rfl
  | thinned hsub => exact .same (hsub.subset ht') fun _ h => by cases h
  | @begun handle errand t n ht hpair hjob =>
    rcases List.mem_append.mp ht' with h | h
    · exact .same h fun _ h => by cases h
    · obtain rfl := List.mem_singleton.mp h
      rcases ht with ⟨-, hnone⟩ | ⟨-, hfresh⟩
      · cases hnone.symm.trans hs
      · obtain rfl := Option.some.inj (hs.symm.trans hfresh)
        obtain ⟨r, hj | hj⟩ := hjob _ hs
        · obtain ⟨plugin, resource, rfl⟩ := hpair r (Task.run?_of_job? hj)
          exact .fresh _ plugin resource rfl hj (by rintro _ _ ⟨⟩) (fun _ h => by cases h) rfl
        · obtain ⟨plugin, resource, rfl⟩ := hpair r (Task.run?_of_job? hj)
          exact .fresh _ plugin resource rfl hj (by rintro _ _ ⟨⟩) (fun _ h => by cases h) rfl
  | told => exact .same ht' fun _ h => by cases h
  | released => exact .same ht' fun _ h => by cases h

theorem Task.session?_of_run? {t : Task} {r : Run} (h : t.run? = some r) :
    t.session? = some r.session.id := by
  obtain ⟨j, hj, hr⟩ := Option.bind_eq_some_iff.mp h
  rw [Task.session?_of_job? hj]
  obtain ⟨stage⟩ := j
  cases stage <;> cases hr
  rfl

theorem Task.job?_of_await {t t' : Task} (h : t' ∈ t.await) {j : Job} (hj : t'.job? = some j) :
    t.job? = some j := by
  obtain ⟨handle, work⟩ := t
  cases work with
  | selection j' waiting =>
    cases waiting with
    | givenUp =>
      obtain ⟨s, -, rfl⟩ := List.mem_map.mp h
      cases hj
    | _ =>
      rw [List.mem_singleton.mp h] at hj
      exact hj
  | _ =>
    rw [List.mem_singleton.mp h] at hj
    exact hj

theorem Task.job?_of_dropped {t t' : Task} (h : t' ∈ t.dropped) {j : Job} (hj : t'.job? = some j) :
    t.job? = some j ∨ ∃ p r, t.job? = some ⟨.running p r⟩ ∧ j = .ofRun r := by
  obtain ⟨handle, work⟩ := t
  cases work with
  | job j' =>
    obtain ⟨s, -, rfl⟩ := List.mem_map.mp h
    cases hj
  | clear s =>
    rw [List.mem_singleton.mp h] at hj
    cases hj
  | selection j' waiting =>
    have hgivenUp : t' ∈ [(⟨none, .selection j' .givenUp⟩ : Task)] → j' = j := by
      intro hmem
      rw [List.mem_singleton.mp hmem] at hj
      exact Option.some.inj hj
    obtain ⟨stage⟩ := j'
    cases waiting with
    | begun =>
      cases stage with
      | running p r =>
        rw [List.mem_singleton.mp h] at hj
        exact .inr ⟨p, r, rfl, (Option.some.inj hj).symm⟩
      | _ => exact absurd h List.not_mem_nil
    | ahead => cases stage <;> exact .inl (congrArg some (hgivenUp h))
    | givenUp => cases stage <;> exact .inl (congrArg some (hgivenUp h))

theorem Task.run?_of_await {t t' : Task} {r : Run} (ht' : t' ∈ t.await)
    (h : t'.run? = some r) : t.run? = some r := by
  obtain ⟨j, hj, hr⟩ := Option.bind_eq_some_iff.mp h
  rw [Task.run?, Task.job?_of_await ht' hj]
  exact hr

theorem Task.run?_of_dropped {t t' : Task} {r : Run} (ht' : t' ∈ t.dropped)
    (h : t'.run? = some r) : t.run? = some r := by
  obtain ⟨j, hj, hr⟩ := Option.bind_eq_some_iff.mp h
  rcases Task.job?_of_dropped ht' hj with hsame | ⟨p, r', hrun, rfl⟩
  · rw [Task.run?, hsame]
    exact hr
  · obtain rfl := Option.some.inj hr
    exact Task.run?_of_job? hrun

theorem Task.run_of_step {t t' : Task} {w w' : World σ} {r' : Run}
    (h : t.step tr w = some ([t'], w')) (hs : t.session? ≠ none) (hr' : t'.run? = some r') :
    ∃ r, t.run? = some r ∧ r.step tr w = some (r', w') ∧ t.deed tr w = r.deed tr w := by
  rcases Task.step_cases h with ⟨s, -, hnil, -⟩ | ⟨j, j', hj, hm, hleft⟩
  · cases hnil
  · obtain rfl := (List.cons.inj hleft).1
    rw [Task.session?_of_job? hj] at hs
    have hj' : j'.run? = some r' := by
      rwa [Task.run?, Task.job?_withJob hj] at hr'
    cases jobMove_step hm with
    | ran p r r'' w' hstep =>
      obtain rfl := Option.some.inj hj'
      exact ⟨r, by rw [Task.run?, hj]; rfl, hstep, Task.deed_of_job? hj w⟩
    | missed tab time => exact absurd rfl hs
    | began tab time at' tab' clock htab => exact absurd rfl hs
    | concluded p r result hr => cases (conclude_run? p r result w).symm.trans hj'
    | reported session report result =>
      cases (afterReport_run? session report result).symm.trans hj'
    | cleared session result => cases hj'

/-! ## Live runs

A session is live as long as the run that is at it has not ended. Since the
session has one task only, it does not matter which task is asked. -/

theorem isLive_of_mem {t : Task} {r : Run} (ht : t ∈ ws.tasks) (hr : t.run? = some r)
    (hres : r.result? = none) : ws.isLive r.session.id = true :=
  List.any_eq_true.mpr ⟨t, ht, by simp [Task.isLive, hr, hres]⟩

theorem run?_of_isLive (h : ws.isLive s = true) :
    ∃ t ∈ ws.tasks, ∃ r, t.run? = some r ∧ r.session.id = s ∧ r.result? = none := by
  obtain ⟨t, ht, hl⟩ := List.any_eq_true.mp h
  refine ⟨t, ht, ?_⟩
  unfold Task.isLive at hl
  split at hl
  · next r hr =>
    simp only [Bool.and_eq_true, beq_iff_eq, Option.isNone_iff_eq_none] at hl
    exact ⟨r, hr, hl⟩
  · cases hl

theorem isLive_of_run? (ho : ws.Owned) {t : Task} {r : Run} (ht : t ∈ ws.tasks)
    (hr : t.run? = some r) : ws.isLive r.session.id = r.result?.isNone := by
  cases hres : r.result? with
  | none => exact isLive_of_mem ht hr hres
  | some result =>
    refine Bool.eq_false_iff.mpr fun hl => ?_
    obtain ⟨t', ht', r', hr', hid, hres'⟩ := run?_of_isLive hl
    have hs' : t'.session? = some r.session.id := hid ▸ Task.session?_of_run? hr'
    obtain rfl := eq_of_owned ho ht ht' (Task.session?_of_run? hr) hs'
    obtain rfl := Option.some.inj (hr.symm.trans hr')
    cases hres.symm.trans hres'

/-! ## What a turn does to the state

The state changes by an action that a task tells as its deed, or that somebody
else tells (`state_change`). A turn with a deed is a move of a task that works
for the session (`moved_change`); a turn without one for this session does not
drive it, and leaves it as it is while it runs or is not there
(`session?_change`). -/

theorem Task.deed_of_session? {t : Task} (h : t.session? = none) (w : World σ) :
    t.deed tr w = .nothing := by
  obtain ⟨handle, work⟩ := t
  cases work with
  | clear s => cases h
  | _ j =>
    obtain ⟨stage⟩ := j
    cases stage <;> cases h <;> rfl

theorem state_change (h : Change tr ws u d ws') :
    ws'.world.state = ws.world.state ∨
      ∃ a, ws'.world.state = ws.world.state.apply a ∧
        ((∃ s, d = some (s, .tells a)) ∨ (d = none ∧ u = .tell a)) := by
  cases h with
  | @moved place l r left t w htasks hm =>
    have hst := (Task.step_deed hm).state
    cases hd : t.deed tr ws.world with
    | tells a =>
      rw [hd] at hst
      refine .inr ⟨a, hst, .inl ?_⟩
      cases hs : t.session? with
      | none => cases (Task.deed_of_session? hs ws.world).symm.trans hd
      | some s => exact ⟨s, rfl⟩
    | _ => rw [hd] at hst; exact .inl hst
  | told => exact .inr ⟨_, rfl, .inr ⟨rfl, rfl⟩⟩
  | _ => exact .inl rfl

/-- A turn with a deed is a move of a task that works for the session. -/
theorem moved_change {e : Deed} (h : Change tr ws u (some (s, e)) ws') :
    ∃ t ∈ ws.tasks, t.session? = some s ∧ t.deed tr ws.world = e ∧
      ∃ left, t.step tr ws.world = some (left, ws'.world) ∧ ∀ t' ∈ left, t' ∈ ws'.tasks := by
  generalize hd : some (s, e) = d at h
  cases h with
  | @moved place l r left t w htasks hm =>
    cases hs : t.session? with
    | none => rw [hs] at hd; cases hd
    | some s₀ =>
      rw [hs] at hd
      obtain ⟨rfl, rfl⟩ := Prod.mk.inj (Option.some.inj hd)
      exact ⟨t, by simp [htasks], hs, rfl, left, hm, fun t' ht' => by simp [ht']⟩
  | _ => cases hd

theorem undriven_change (h : Change tr ws u d ws') (hlaw : ∀ a, u = .tell a → a.drives? ≠ some s)
    (hd : ∀ e, d ≠ some (s, e)) :
    ws'.world.state = ws.world.state ∨
      ∃ a, ws'.world.state = ws.world.state.apply a ∧ a.drives? ≠ some s := by
  rcases state_change h with hst | ⟨a, hst, ⟨s', hd'⟩ | ⟨-, hu⟩⟩
  · exact .inl hst
  · subst hd'
    obtain ⟨t, -, hs', hdeed, -⟩ := moved_change h
    refine .inr ⟨a, hst, fun ha => ?_⟩
    have hts := Task.drives_deed hdeed ha
    exact hd _ (by rw [Option.some.inj (hts.symm.trans hs')])
  · exact .inr ⟨a, hst, hlaw a hu⟩

theorem session?_change (h : Change tr ws u d ws')
    (hlaw : ∀ a, u = .tell a → a.drives? ≠ some s) (hd : ∀ e, d ≠ some (s, e))
    (hr : ∀ x, ws.world.state.session? s = some x → x.status = .running) :
    ws'.world.state.session? s = ws.world.state.session? s := by
  rcases undriven_change h hlaw hd with hst | ⟨a, hst, ha⟩
  · rw [hst]
  · rw [hst]
    exact session?_apply_of_ne ha hr

/-! ## Runs and the console agree

`Run.Fits` goes by the stage of the run, so a move of the run keeps it by the
cases of `Run.step`: telling the start puts the session there, and telling an
end takes it from the running ones, behind which nothing is asked of it any
more. A session that runs still runs when lines are added to its log.

A workspace fits a session if all runs of that session do, and if the session is
not there as long as the supply still has it (`Workspace.Fits.unborn`). The
second half is for runs that are yet to begin. -/

/-- What the console shows of the session of a run, by the stage of the run. -/
def Run.Fits (st : State) (r : Run) : Prop :=
  r.session.status = .running ∧
    match r.stage with
    | .ready | .starting => st.session? r.session.id = none
    | .ended _ => True
    | _ => ∃ x, st.session? r.session.id = some x ∧ x.status = .running

theorem Run.Fits.running {st : State} {r : Run} (h : r.Fits st) (hr : r.result? = none) :
    ∀ x, st.session? r.session.id = some x → x.status = .running := by
  intro x hx
  obtain ⟨session, stage⟩ := r
  have hst := h.2
  cases stage with
  | ready => cases hst.symm.trans hx
  | starting => cases hst.symm.trans hx
  | ended result => cases hr
  | _ =>
    obtain ⟨y, hy, hrun⟩ := hst
    rwa [Option.some.inj (hx.symm.trans hy)]

theorem Run.Fits.congr {st st' : State} {r : Run} (h : r.Fits st)
    (hs : r.result? = none → st'.session? r.session.id = st.session? r.session.id) :
    r.Fits st' := by
  obtain ⟨session, stage⟩ := r
  refine ⟨h.1, ?_⟩
  have hst := h.2
  cases stage with
  | ended result => exact trivial
  | _ => simpa only [hs rfl] using hst

theorem Run.fits_ofPair {st : State} {plugin : Plugin} {resource : Resource}
    (h : st.session? s = none) : (Run.ofPair s plugin resource).Fits st := ⟨rfl, h⟩

theorem running_logged {st : State} {lines : List String}
    (h : ∃ x, st.session? s = some x ∧ x.status = .running) :
    ∃ x, (st.apply (.executionLogged s lines)).session? s = some x ∧ x.status = .running := by
  obtain ⟨x, hx, hrun⟩ := h
  refine ⟨x.log lines, ?_, hrun⟩
  show (st.onSession s (Session.log lines)).session? s = _
  rw [session?_onSession (advances_log lines), hx]
  rfl

theorem session?_started {st : State} {x : Session} (h : st.session? x.id = none) :
    (st.apply (.executionStarted x)).session? x.id = some x := by
  show (st.sessions ++ [x]).find? _ = some x
  rw [List.find?_append]
  show (st.session? x.id).or _ = _
  rw [h]
  simp

/-- The session has been told to start, and not yet to end. -/
def Stage.isTold : Stage → Bool
  | .ready | .starting | .ended _ => false
  | _ => true

theorem Run.isTold_onAsk (r : Run) (c : Channel) (t : Transcript) (logs : List String) :
    (r.onAsk c t logs).isTold = true := by
  unfold onAsk onEvent losing
  repeat' split
  all_goals rfl

theorem Run.isTold_onAnswer (r : Run) (number : Nat) (a : Answer) :
    (r.onAnswer number a).isTold = true := by
  cases a <;> rfl

theorem Run.Fits.onStage {st : State} {session : Session} {stage stage' : Stage}
    (h : Run.Fits st ⟨session, stage⟩) (ht : stage.isTold = true) (ht' : stage'.isTold = true) :
    Run.Fits st ⟨session, stage'⟩ := by
  refine ⟨h.1, ?_⟩
  have hst := h.2
  cases stage <;> cases ht <;> cases stage' <;> first
    | exact hst
    | cases ht'

theorem Run.fits_step {r r' : Run} {w w' : World σ} (h : r.step tr w = some (r', w'))
    (hf : r.Fits w.state) : r'.Fits w'.state := by
  obtain ⟨session, stage⟩ := r
  cases stage with
  | ready => cases h; exact ⟨hf.1, hf.2⟩
  | starting => cases h; exact ⟨hf.1, session, session?_started hf.2, hf.1⟩
  | opening => cases h; exact hf.onStage rfl (Run.isTold_onAnswer _ _ _)
  | listening c t logs =>
    simp only [Run.step] at h
    by_cases hs : c.silent = true
    · simp only [hs, if_true, Option.map_eq_some_iff, Prod.mk.injEq] at h
      obtain ⟨w₁, hw, rfl, rfl⟩ := h
      rw [eq_of_useRelease? hw]
      exact ⟨hf.1, hf.2⟩
    · simp only [hs, Bool.false_eq_true, if_false, Option.some.injEq, Prod.mk.injEq] at h
      obtain ⟨rfl, rfl⟩ := h
      exact hf.onStage rfl (Run.isTold_onAsk _ _ _ _)
  | logging lines c t logs => cases h; exact ⟨hf.1, running_logged hf.2⟩
  | failing lines f => cases h; exact ⟨hf.1, trivial⟩
  | completing lines o => cases h; exact ⟨hf.1, running_logged hf.2⟩
  | finishing o => cases h; exact ⟨hf.1, trivial⟩
  | ended result => cases h

/-- The session of a run that comes to its end is there, and runs no longer. -/
theorem Run.session?_of_ended {r r' : Run} {w w' : World σ} (h : r.step tr w = some (r', w'))
    (hf : r.Fits w.state) (hr' : r'.result? ≠ none) :
    ∃ x, w'.state.session? r.session.id = some x ∧ x.status ≠ .running := by
  obtain ⟨session, stage⟩ := r
  have onStage {stage : Stage} (ht : stage.isTold = true) :
      (⟨session, stage⟩ : Run).result? = none := by
    cases stage <;> first
      | rfl
      | cases ht
  cases stage with
  | ready => cases h; exact absurd rfl hr'
  | starting => cases h; exact absurd rfl hr'
  | opening => cases h; exact absurd (onStage (Run.isTold_onAnswer _ _ _)) hr'
  | listening c t logs =>
    simp only [Run.step] at h
    by_cases hs : c.silent = true
    · simp only [hs, if_true, Option.map_eq_some_iff, Prod.mk.injEq] at h
      obtain ⟨w₁, -, rfl, -⟩ := h
      exact absurd rfl hr'
    · simp only [hs, Bool.false_eq_true, if_false, Option.some.injEq, Prod.mk.injEq] at h
      obtain ⟨rfl, -⟩ := h
      exact absurd (onStage (Run.isTold_onAsk _ _ _ _)) hr'
  | logging lines c t logs => cases h; exact absurd rfl hr'
  | failing lines f =>
    cases h
    obtain ⟨x, hx, -⟩ := hf.2
    refine ⟨x.fail lines, ?_, fun hrun => by cases hrun⟩
    show (w.state.onSession session.id (Session.fail lines)).session? session.id = _
    rw [session?_onSession (advances_fail lines), hx]
    rfl
  | completing lines o => cases h; exact absurd rfl hr'
  | finishing o =>
    cases h
    obtain ⟨x, hx, -⟩ := hf.2
    refine ⟨x.complete, ?_, fun hrun => by cases hrun⟩
    show (w.state.onSession session.id Session.complete).session? session.id = _
    rw [session?_onSession advances_complete, hx]
    rfl
  | ended result => cases h

/-- The runs of a session agree with the console, and a session that the supply still has is not there. -/
structure Workspace.Fits (s : SessionId) (ws : Workspace σ) : Prop where
  unborn : ws.world.nextSession ≤ s.number → ws.world.state.session? s = none
  runs : ∀ t ∈ ws.tasks, ∀ r, t.run? = some r → r.session.id = s → r.Fits ws.world.state

/-- Turns by which nobody but its own run drives a session. -/
def Lawful (s : SessionId) (turns : List Turn) : Prop :=
  ∀ a, Turn.tell a ∈ turns → a.drives? ≠ some s

theorem fits_change (ho : ws.Owned) (hf : ws.Fits s) (h : Change tr ws u d ws')
    (hlaw : ∀ a, u = .tell a → a.drives? ≠ some s) : ws'.Fits s := by
  constructor
  · intro hle
    have hle₀ := Nat.le_trans (nextSession_le_change h) hle
    have hnone := hf.unborn hle₀
    rw [session?_change h hlaw (fun e he => ?_) (fun x hx => by cases hnone.symm.trans hx), hnone]
    subst he
    obtain ⟨t, ht, hs, -⟩ := moved_change h
    exact absurd (ho.known s (mem_owners ht hs)) (Nat.not_lt.mpr hle₀)
  · intro t' ht' r' hr' hid
    subst hid
    have congr (hfit : r'.Fits ws.world.state) (hd : ∀ e, d ≠ some (r'.session.id, e)) :
        r'.Fits ws'.world.state :=
      hfit.congr fun hres => session?_change h hlaw hd (hfit.running hres)
    cases origin_change ho h ht' (Task.session?_of_run? hr') with
    | same ht hd => exact congr (hf.runs t' ht r' hr' rfl) hd
    | awaited t ht hs hmem hd =>
      exact congr (hf.runs t ht r' (Task.run?_of_await hmem hr') rfl) (by simp [hd])
    | dropped t handle ht hs hh hmem hd =>
      exact congr (hf.runs t ht r' (Task.run?_of_dropped hmem hr') rfl) (by simp [hd])
    | unheld t handle ht hs hh heq hd =>
      subst heq
      exact congr (hf.runs t ht r' hr' rfl) (by simp [hd])
    | moved t ht hs hstep hd =>
      obtain ⟨r, hr, hm, -⟩ := Task.run_of_step hstep (by simp [hs]) hr'
      refine Run.fits_step hm (hf.runs t ht r hr ?_)
      rw [(Run.step_session hm).1]
    | fresh p plugin resource hs hj hopen hd hst =>
      rw [Option.some.inj (hr'.symm.trans (Task.run?_of_job? hj)), hst]
      exact Run.fits_ofPair (hf.unborn (Nat.le_of_eq (congrArg SessionId.number hs).symm))

theorem fits_play (tr : Transport σ) (ho : ws.Owned) (hf : ws.Fits s) {turns : List Turn} (hlaw : Lawful s turns) :
    (ws.play tr turns).Fits s := by
  induction turns generalizing ws with
  | nil => exact hf
  | cons u turns ih =>
    have hc := change_turn tr ws u
    exact ih (owned_change ho hc)
      (fits_change ho hf hc fun a ha => hlaw a (ha ▸ List.mem_cons_self))
      fun a ha => hlaw a (List.mem_cons_of_mem _ ha)

theorem Workspace.Idle.fits (h : ws.Idle) (s : SessionId) : ws.Fits s := by
  refine ⟨fun hle => ?_, by simp [h.tasks]⟩
  refine List.find?_eq_none.mpr fun x hx hid => ?_
  have hlt := h.known x hx
  rw [eq_of_beq hid] at hlt
  exact absurd hlt (Nat.not_lt.mpr hle)

end ScanConsole
