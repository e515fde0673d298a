import ScanConsole.Proofs.Ownership

/-!
# What is left of what was given up

A task that was given up where there is a runtime leaves a task that clears its
session, or nothing. From then on the tasks of that session only clear it
(`Task.Clears`), so nothing else is told of it, and it goes (`stops_of_clears`).

The tasks of a session that is no longer in the supply come from the tasks that
it has. So a property of these tasks which moves, turns of a waiting part and
all ways to let a task go keep (`Closed`) is one of all of them for ever, and
says what may still be told of the session:

    Closed tr s P → ws.Owned → ws.Kept P s →
      Change tr ws u d ws' → ws'.Kept P s                           (`kept_change`)
    … → (s, e) ∈ ws.deeds tr after →
      ∃ t w, P t ∧ t.session? = some s ∧ t.deed tr w = e            (`deed_of_kept`)

With `P` false there is no task for the session, and nothing more is told of it.
With `P` that a task clears the session, nothing but its clearing is told. The
two properties of a selection that was given up are in the module on selections.

Nothing here says when a clearing has its turn. `Workspace.Stops` therefore says
of the session itself that it is not there as soon as no clearing is pending,
which holds of every workspace in which all tasks wait.
-/

namespace ScanConsole

variable {σ : Type} {tr : Transport σ} {ws ws' : Workspace σ} {u : Turn}
  {d : Option (SessionId × Deed)} {s : SessionId} {P : Task → Prop}

/-! ## What becomes of a task

This looks forward where `Origin` looks back: a task that has not ended does not
get lost, but stays, or leaves what its turn leaves of it. -/

/-- What becomes of a task in a turn. -/
inductive Fate (tr : Transport σ) (ws : Workspace σ) (u : Turn) (d : Option (SessionId × Deed))
    (ws' : Workspace σ) (t : Task) : Prop
  | stays : t ∈ ws'.tasks → Fate tr ws u d ws' t
  | awaited : (∀ t' ∈ t.await, t' ∈ ws'.tasks) → ws'.world = ws.world → Fate tr ws u d ws' t
  | letGo (left : List Task) : t.LetGo u left → (∀ t' ∈ left, t' ∈ ws'.tasks) →
      ws'.world = ws.world → Fate tr ws u d ws' t
  | moved (left : List Task) : t.step tr ws.world = some (left, ws'.world) →
      (∀ t' ∈ left, t' ∈ ws'.tasks) → d = t.session?.map (·, t.deed tr ws.world) →
      Fate tr ws u d ws' t

theorem fate_change (h : Change tr ws u d ws') {t : Task} (ht : t ∈ ws.tasks)
    (hn : t.result? = none) : Fate tr ws u d ws' t := by
  have place {l r : List Task} {t₀ : Task} (htasks : ws.tasks = l ++ t₀ :: r) :
      t = t₀ ∨ t ∈ l ++ r := by
    rw [htasks] at ht
    simpa [or_left_comm] using ht
  cases h with
  | @moved _ l r left t₀ w htasks hm =>
    rcases place htasks with rfl | h
    · exact .moved left hm (fun t' ht' => by simp [ht']) rfl
    · exact .stays (by rcases List.mem_append.mp h with h | h <;> simp [h])
  | @awaited _ l r t₀ htasks =>
    rcases place htasks with rfl | h
    · exact .awaited (fun t' ht' => by simp [ht']) rfl
    · exact .stays (by rcases List.mem_append.mp h with h | h <;> simp [h])
  | @letGo u l r left t₀ htasks hgo =>
    rcases place htasks with rfl | h
    · exact .letGo left hgo (fun t' ht' => by simp [ht']) rfl
    · exact .stays (List.mem_append_left _ h)
  | thinned hsub hkeep => exact .stays (hkeep t ht hn)
  | begun hs hr => exact .stays (List.mem_append_left _ ht)
  | told => exact .stays ht
  | released => exact .stays ht

/-! ## What stays true of the tasks of a session

`Workspace.Kept` asks that the session is no longer in the supply, for otherwise
a new task could begin to work for it. A move of the task of a session behind
which nothing of the task works for the session is the last
(`kept_none_of_move`). -/

/-- The tasks of a session, which is no longer in the supply, satisfy `P`. -/
structure Workspace.Kept (P : Task → Prop) (s : SessionId) (ws : Workspace σ) : Prop where
  known : s.number < ws.world.nextSession
  tasks : ∀ t ∈ ws.tasks, t.session? = some s → P t

/-- What is left of a task that satisfies `P` satisfies `P`, as far as it works for the session. -/
structure Closed (tr : Transport σ) (s : SessionId) (P : Task → Prop) : Prop where
  step : ∀ t w t' w', P t → t.step tr w = some ([t'], w') → t'.session? = some s → P t'
  await : ∀ t t', P t → t' ∈ t.await → t'.session? = some s → P t'
  dropped : ∀ t t' handle, P t → t.handle = some handle → t' ∈ t.dropped → t'.session? = some s → P t'
  unheld : ∀ t handle, P t → t.handle = some handle → P t.unheld

theorem kept_change (hp : Closed tr s P) (ho : ws.Owned) (hk : ws.Kept P s)
    (h : Change tr ws u d ws') : ws'.Kept P s := by
  refine ⟨Nat.lt_of_lt_of_le hk.known (nextSession_le_change h), fun t' ht' hs' => ?_⟩
  cases origin_change ho h ht' hs' with
  | same ht hd => exact hk.tasks t' ht hs'
  | awaited t ht hs hmem hd => exact hp.await t t' (hk.tasks t ht hs) hmem hs'
  | dropped t handle ht hs hh hmem hd => exact hp.dropped t t' handle (hk.tasks t ht hs) hh hmem hs'
  | unheld t handle ht hs hh heq hd => exact heq ▸ hp.unheld t handle (hk.tasks t ht hs) hh
  | moved t ht hs hstep hd => exact hp.step t _ t' _ (hk.tasks t ht hs) hstep hs'
  | fresh p plugin resource hs hj hopen hd hst =>
    have hlt := hk.known
    rw [hs] at hlt
    exact absurd hlt (Nat.lt_irrefl _)

theorem kept_none_of_move {e : Deed} (ho : ws.Owned) (h : Change tr ws u (some (s, e)) ws')
    (hlast : ∀ t ∈ ws.tasks, t.session? = some s → ∀ t', t.step tr ws.world = some ([t'], ws'.world) →
      t'.session? ≠ some s) : ws'.Kept (fun _ => False) s := by
  obtain ⟨t, ht, hts, -⟩ := moved_change h
  have hknown := ho.known s (Workspace.mem_owners ht hts)
  refine ⟨Nat.lt_of_lt_of_le hknown (nextSession_le_change h), fun t' ht' hs' => ?_⟩
  cases origin_change ho h ht' hs' with
  | same _ hd => exact hd _ rfl
  | awaited _ _ _ _ hd => cases hd
  | dropped _ _ _ _ _ _ hd => cases hd
  | unheld _ _ _ _ _ _ hd => cases hd
  | moved t₀ ht₀ hts₀ hstep hd => exact hlast t₀ ht₀ hts₀ t' hstep hs'
  | fresh _ _ _ _ _ _ hd _ => exact hd _ rfl

theorem deed_of_kept (hp : Closed tr s P) (ho : ws.Owned) (hk : ws.Kept P s) {after : List Turn}
    {e : Deed} (h : (s, e) ∈ ws.deeds tr after) :
    ∃ (t : Task) (w : World σ), P t ∧ t.session? = some s ∧ t.deed tr w = e := by
  induction after generalizing ws with
  | nil => exact absurd h List.not_mem_nil
  | cons u after ih =>
    have hc := change_turn tr ws u
    rcases List.mem_append.mp h with h | h
    · rw [Option.mem_toList.mp h] at hc
      obtain ⟨t, ht, hs, hd, -⟩ := moved_change hc
      exact ⟨t, ws.world, hk.tasks t ht hs, hs, hd⟩
    · exact ih (owned_change ho hc) (kept_change hp ho hk hc) h

/-! ## Sessions that are cleared

A task that clears a session goes on by itself whoever lets it go, so a session
fades until it is gone: it is not there, or is to be cleared.

`Workspace.Stops` asks that only tasks drive the session from then on
(`Lawful`). Somebody from outside who starts a session under an identifier that
was used before would put it there again. -/

/-- The task clears this session. -/
def Task.Clears (s : SessionId) (t : Task) : Prop := t.work = .clear s

namespace Task.Clears

variable {t : Task}

theorem session? (h : t.Clears s) : t.session? = some s := by
  simp only [Task.session?, show t.work = .clear s from h]

theorem result? (h : t.Clears s) : t.result? = none := by
  simp only [Task.result?, show t.work = .clear s from h]

theorem deed (h : t.Clears s) (w : World σ) : t.deed tr w = .tells (.executionCleared s) := by
  simp only [Task.deed, show t.work = .clear s from h]

theorem step (h : t.Clears s) (w : World σ) :
    t.step tr w = some ([], w.dispatch (.executionCleared s)) := by
  simp only [Task.step, show t.work = .clear s from h]

theorem await (h : t.Clears s) : t.await = [t] := by
  simp only [Task.await, show t.work = .clear s from h]

theorem dropped (h : t.Clears s) : t.dropped = [⟨none, .clear s⟩] := by
  simp only [Task.dropped, show t.work = .clear s from h]

theorem mem_letGo (h : t.Clears s) {left : List Task} (hgo : t.LetGo u left) :
    ⟨none, .clear s⟩ ∈ left := by
  obtain ⟨handle, work⟩ := t
  obtain rfl : work = .clear s := h
  cases hgo <;> exact List.mem_singleton_self _

theorem gone (h : t.Clears s) {left : List Task} {w w' : World σ}
    (hstep : t.step tr w = some (left, w')) : w'.state.session? s = none := by
  rw [h.step] at hstep
  obtain ⟨-, rfl⟩ := Prod.mk.inj (Option.some.inj hstep)
  exact session?_dropSession _ s

end Task.Clears

theorem closed_clears (tr : Transport σ) (s : SessionId) : Closed tr s (Task.Clears s) := by
  constructor
  · intro t w t' w' h hstep _
    rw [h.step] at hstep
    cases hstep
  · intro t t' h hmem _
    rw [h.await, List.mem_singleton] at hmem
    rw [hmem]
    exact h
  · intro t t' handle h _ hmem _
    rw [h.dropped, List.mem_singleton] at hmem
    rw [hmem]
    rfl
  · intro t handle h _
    exact h

namespace Workspace

/-- The session is not there, or is to be cleared. -/
def Fades (s : SessionId) (ws : Workspace σ) : Prop :=
  ws.world.state.session? s = none ∨ ∃ t ∈ ws.tasks, t.Clears s

/-- Whatever happens, nothing more is told of the session than that it is cleared, and as soon as no
clearing of it is pending it is not there. -/
def Stops (tr : Transport σ) (s : SessionId) (ws : Workspace σ) : Prop :=
  ∀ after, Lawful s after →
    (∀ e, (s, e) ∈ ws.deeds tr after → e = .tells (.executionCleared s)) ∧
      ((∀ t ∈ (ws.play tr after).tasks, t.work ≠ .clear s) →
        (ws.play tr after).world.state.session? s = none)

end Workspace

theorem fades_of_clears (h : Change tr ws u d ws') {t : Task} (ht : t ∈ ws.tasks)
    (hc : t.Clears s) : ws'.Fades s := by
  cases fate_change h ht hc.result? with
  | stays ht' => exact .inr ⟨t, ht', hc⟩
  | awaited hleft hw => exact .inr ⟨t, hleft t (by simp [hc.await]), hc⟩
  | letGo left hgo hleft hw => exact .inr ⟨⟨none, .clear s⟩, hleft _ (hc.mem_letGo hgo), rfl⟩
  | moved left hstep hleft hd => exact .inl (hc.gone hstep)

theorem fades_change (hk : ws.Kept (Task.Clears s) s) (hf : ws.Fades s)
    (h : Change tr ws u d ws') (hlaw : ∀ a, u = .tell a → a.drives? ≠ some s) : ws'.Fades s := by
  rcases hf with hnone | ⟨t, ht, hclears⟩
  · refine .inl ?_
    by_cases hd : ∃ e, d = some (s, e)
    · obtain ⟨e, rfl⟩ := hd
      obtain ⟨t, ht, hs, -, left, hstep, -⟩ := moved_change h
      exact (hk.tasks t ht hs).gone hstep
    · rw [session?_change h hlaw (fun e he => hd ⟨e, he⟩) (fun x hx => by cases hnone.symm.trans hx),
        hnone]
  · exact fades_of_clears h ht hclears

theorem stops_of_clears (ho : ws.Owned) (hk : ws.Kept (Task.Clears s) s) (hf : ws.Fades s) :
    ws.Stops tr s := by
  intro after hlaw
  constructor
  · intro e he
    obtain ⟨t, w, hc, -, hd⟩ := deed_of_kept (closed_clears tr s) ho hk he
    exact hd.symm.trans (hc.deed w)
  · have hfades : (ws.play tr after).Fades s := by
      induction after generalizing ws with
      | nil => exact hf
      | cons u after ih =>
        have hc := change_turn tr ws u
        exact ih (owned_change ho hc) (kept_change (closed_clears tr s) ho hk hc)
          (fades_change hk hf hc fun a ha => hlaw a (ha ▸ List.mem_cons_self))
          fun a ha => hlaw a (List.mem_cons_of_mem _ ha)
    intro hnot
    rcases hfades with hnone | ⟨t, ht, hclears⟩
    · exact hnone
    · exact absurd hclears (hnot t ht)

/-! ## A job that is given up

What is left of a job only clears. The session of a run that is given up before
its end fades: the run is asked for its session (`Run.orphan?`), and has none to
name only before it has begun, when the session is not there. -/

theorem Run.orphan?_of_result? {r : Run} (h : r.result? = none) :
    r.orphan? = some r.session.id ∨ r.stage = .ready := by
  obtain ⟨session, stage⟩ := r
  cases stage <;> first
    | exact .inl rfl
    | exact .inr rfl
    | cases h

theorem Task.clears_of_remains {j : Job} {t : Task} (ht : t ∈ Task.remains j)
    (hs : t.session? = some s) : t.Clears s := by
  obtain ⟨s', -, rfl⟩ := List.mem_map.mp ht
  exact congrArg TaskWork.clear (Option.some.inj hs)

theorem mem_left_of_replaced (ho : ws.Owned) {l r : List Task} {t t' : Task}
    (htasks : ws.tasks = l ++ t :: r) (hs : t.session? = some s) {left : List Task}
    (ht' : t' ∈ l ++ r ∨ t' ∈ left) (hs' : t'.session? = some s) : t' ∈ left := by
  rcases ht' with h | h
  · exact absurd hs (session?_ne_of_owned ho htasks h hs')
  · exact h

theorem fades_of_remains (p : Purpose) {r : Run} (hfit : r.Fits ws.world.state) (hr : r.result? = none)
    (hleft : ∀ t ∈ Task.remains ⟨.running p r⟩, t ∈ ws.tasks) : ws.Fades r.session.id := by
  rcases Run.orphan?_of_result? hr with ho | hready
  · refine .inr ⟨⟨none, .clear r.session.id⟩, hleft _ ?_, rfl⟩
    simp [Task.remains, Job.orphan?, ho]
  · have hst := hfit.2
    rw [hready] at hst
    exact .inl hst

/-! ## A task that is let go

The workspace names the task by its handle, and the first task with this handle
is let go. The tasks of its session are then what is left of it
(`mem_left_of_replaced`, `kept_letGo`). -/

section
variable {handle : String} {t : Task} {left : Task → List Task}

theorem letGo_of_task? (left : Task → List Task) (h : ws.task? handle = some t) :
    ∃ l r, ws.tasks = l ++ t :: r ∧ ws.letGo left handle = ⟨ws.world, l ++ r ++ left t⟩ := by
  obtain ⟨l, r, htasks, -, he⟩ := tasks_of_task? h
  refine ⟨l, r, htasks, ?_⟩
  simp only [Workspace.letGo, h, he]

theorem drop_of_task? (h : ws.task? handle = some t) :
    ∃ l r, ws.tasks = l ++ t :: r ∧ ws.drop handle = ⟨ws.world, l ++ r ++ t.dropped⟩ :=
  letGo_of_task? Task.dropped h

theorem kept_letGo (ho : ws.Owned) (h : ws.task? handle = some t) (hs : t.session? = some s)
    (hleft : ∀ t' ∈ left t, t'.session? = some s → P t') : (ws.letGo left handle).Kept P s := by
  obtain ⟨l, r, htasks, hgo⟩ := letGo_of_task? left h
  have hknown := ho.known s (Workspace.mem_owners (htasks ▸ by simp) hs)
  rw [hgo]
  refine ⟨hknown, fun t' ht' hs' => ?_⟩
  exact hleft t' (mem_left_of_replaced ho htasks hs (List.mem_append.mp ht') hs') hs'

end

end ScanConsole
