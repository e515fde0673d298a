import Mathlib.Data.List.Induction
import ScanConsole.Proofs.RefreshCourse
import ScanConsole.Proofs.Tabs

/-!
# What a refresh answers

A refresh that finds no tab answers so at once. One that has found its tab
answers after its run that it has refreshed the tab, and does not look for it
again. So whoever gets this answer knows (`Success`)

    that the refresh found a tab with this identifier
    that its channel was answered with results
    that it told the console these results, in a turn of its own

but the tab may have been closed or replaced in between, and then nothing was
refreshed (`refreshed_without_tab`). `refresh_answers` says exactly when: the
tab with the identifier gets the results if there is one when they are told, and
otherwise it has been taken away while the refresh went on (`Success.Arrives`).

## The invariant

`Traced` says what the turns so far have shown of a job that refreshes a tab, by
the stage that it is at:

    looking      nothing
    running      the tab that it found, and the answer, if it is settled what
                 comes of the run
    reporting    the same, and that the run has completed
    clearing     the success, if this is what it will give back
    ended        the success, if this is what it gives back

It speaks of turns that are over only, and so the turns of others keep it
(`Traced.more`), whatever they do; the turns of the job itself are the step
(`Traced.step`).

## Handles and checks

Two kinds of callers get an answer. A task is joined under its handle, and there
may be several tasks under it in the course of time, so the theorem asks that
all that begins under the handle is a refresh of this tab. A check notes the
tabs whose refreshes succeeded, and refreshes one tab after the other. For both
the jobs are followed through the turns, each as a refresh of its tab
(`TasksTraced`, `CheckTraced`).

Other tasks, checks and actions are arbitrary, and identifiers of tabs may be
used again.
-/

namespace ScanConsole

variable {σ : Type} {tr : Transport σ}

deriving instance DecidableEq for Yield

/-! ## Refreshes that succeed

A success is a record of the turns: when it looked, when it told, and what. More
turns do not undo it. -/

namespace Shift

/-- A refresh of the tab with this identifier, as the turns show it: it finds the tab, its channel is answered
with results, and later it tells the console these, in a turn of its own. -/
structure Success (tr : Transport σ) (own : Shift σ → ShiftTurn → Prop) (s : Shift σ)
    (turns : List ShiftTurn) (id : String) where
  refresh : Refresh
  answer : Answer
  results : List Screen
  /-- The turns before it looks for its tab. -/
  before : List ShiftTurn
  /-- Those from there on, up to the one in which it tells the results. -/
  between : List ShiftTurn
  telling : ShiftTurn
  after : List ShiftTurn
  split : turns = before ++ between ++ telling :: after
  found : (s.play tr before).state.tab? id = some refresh.tab
  completed : answer.ending = .completed results
  answered : (refresh.session, .opens refresh.tab.request answer) ∈ (s.play tr before).deeds tr between
  told : (s.play tr (before ++ between)).deed? tr telling = some (refresh.session,
    .tells (.tabRefreshed id results (fullLog refresh.tab.plugin refresh.tab.resource answer) refresh.time))
  itself : own (s.play tr (before ++ between)) telling

variable {own : Shift σ → ShiftTurn → Prop} {s : Shift σ} {turns : List ShiftTurn} {id : String}

/-- The shift when the refresh tells the results. -/
def Success.last (r : s.Success tr own turns id) : Shift σ := s.play tr (r.before ++ r.between)

/-- The tab with the results of the refresh. -/
def Success.renewed (r : s.Success tr own turns id) (t : Tab) : Tab :=
  { t with
    results := r.results
    logs := fullLog r.refresh.tab.plugin r.refresh.tab.resource r.answer
    refreshedAt := r.refresh.time
    failedSession := none }

def Success.more (r : s.Success tr own turns id) (rest : List ShiftTurn) : s.Success tr own (turns ++ rest) id :=
  { r with
    after := r.after ++ rest
    split := (congrArg (· ++ rest) r.split).trans (List.append_assoc ..) }

/-- The refresh of a job that took its time at the given one, or else when it found its tab. -/
def Success.Began (r : s.Success tr own turns id) (time : Option Instant) : Prop :=
  r.refresh.time = time.getD (s.play tr r.before).clock

/-! ## What the turns have shown of a refresh

A refresh looks for its tab, and ends at once or is about to run. The run moves;
if its channel is opened, that is a deed of this turn. -/

/-- What the turns show of a job that has given this back. -/
structure Shown (tr : Transport σ) (own : Shift σ → ShiftTurn → Prop) (s : Shift σ)
    (turns : List ShiftTurn) (id : String) (time : Option Instant) (result : Except Failure Yield) :
    Prop where
  success : result = .ok (.refreshed true) → ∃ r : s.Success tr own turns id, r.Began time
  missed : result = .ok (.refreshed false) →
    ∃ before after, turns = before ++ after ∧ (s.play tr before).state.tab? id = none

/-- The refresh has found its tab, and has taken its time. -/
structure Found (tr : Transport σ) (s : Shift σ) (id : String) (time : Option Instant)
    (before : List ShiftTurn) (x : Refresh) : Prop where
  tab : (s.play tr before).state.tab? id = some x.tab
  time : x.time = time.getD (s.play tr before).clock

/-- What the turns have shown of a job that refreshes the tab with this identifier. -/
inductive Traced (tr : Transport σ) (own : Shift σ → ShiftTurn → Prop) (s : Shift σ)
    (turns : List ShiftTurn) (id : String) (time : Option Instant) : Job → Prop
  | looking : Traced tr own s turns id time (.ofRefresh id time)
  | running {before after : List ShiftTurn} {x : Refresh} {r : Run} : turns = before ++ after →
      Found tr s id time before x → r.session = x.start →
      (∀ v, r.foretold = some v → ∃ answer, v = answer.fate x.start ∧
        (x.session, .opens x.tab.request answer) ∈ (s.play tr before).deeds tr after) →
      Traced tr own s turns id time ⟨.running (.refresh id x.time) r⟩
  | reporting {before after : List ShiftTurn} {x : Refresh} {answer : Answer} {results : List Screen} :
      turns = before ++ after → Found tr s id time before x → answer.ending = .completed results →
      (x.session, .opens x.tab.request answer) ∈ (s.play tr before).deeds tr after →
      Traced tr own s turns id time ⟨.reporting x.session
        (.refreshed id results (fullLog x.tab.plugin x.tab.resource answer) x.time) (.ok (.refreshed true))⟩
  | failing {session : SessionId} {report : Report} {f : Failure} :
      Traced tr own s turns id time ⟨.reporting session report (.error f)⟩
  | clearing {session : SessionId} {result : Except Failure Yield} : Shown tr own s turns id time result →
      Traced tr own s turns id time ⟨.clearing session result⟩
  | ended {result : Except Failure Yield} : Shown tr own s turns id time result →
      Traced tr own s turns id time ⟨.ended result⟩

section
variable {time : Option Instant} {result : Except Failure Yield} {f : Failure} {j j' : Job} {w' : World σ}
  {v : ShiftTurn} {before after : List ShiftTurn} {d : SessionId × Deed}

theorem Shown.more (h : Shown tr own s turns id time result) (rest : List ShiftTurn) :
    Shown tr own s (turns ++ rest) id time result where
  success hr := by
    obtain ⟨r, hr⟩ := h.success hr
    exact ⟨r.more rest, hr⟩
  missed hr := by
    obtain ⟨before, after, rfl, hnone⟩ := h.missed hr
    exact ⟨before, after ++ rest, List.append_assoc .., hnone⟩

theorem shown_error : Shown tr own s turns id time (.error f) :=
  ⟨fun h => (by cases h), fun h => (by cases h)⟩

theorem mem_deeds_more (h : d ∈ s.deeds tr turns) (rest : List ShiftTurn) : d ∈ s.deeds tr (turns ++ rest) := by
  rw [deeds_append]
  exact List.mem_append_left _ h

theorem mem_deeds_last (hsplit : turns = before ++ after) (h : (s.play tr turns).deed? tr v = some d) :
    d ∈ (s.play tr before).deeds tr (after ++ [v]) := by
  rw [hsplit, play_append] at h
  rw [deeds_append]
  refine List.mem_append_right _ ?_
  rw [deeds, h]
  exact List.mem_cons_self

theorem Traced.more (h : Traced tr own s turns id time j) (rest : List ShiftTurn) :
    Traced tr own s (turns ++ rest) id time j := by
  have further {before after : List ShiftTurn} (hsplit : turns = before ++ after) :
      turns ++ rest = before ++ (after ++ rest) := by rw [hsplit, List.append_assoc]
  cases h with
  | looking => exact .looking
  | running hsplit hfound hsession hforetold =>
    refine .running (further hsplit) hfound hsession fun v hv => ?_
    obtain ⟨answer, hfate, hmem⟩ := hforetold v hv
    exact ⟨answer, hfate, mem_deeds_more hmem rest⟩
  | reporting hsplit hfound hcompleted hmem =>
    exact .reporting (further hsplit) hfound hcompleted (mem_deeds_more hmem rest)
  | failing => exact .failing
  | clearing h => exact .clearing (h.more rest)
  | ended h => exact .ended (h.more rest)

/-- A refresh looks for its tab: it ends at once, or its run is about to begin. -/
theorem traced_looked (hm : Job.step tr (.ofRefresh id time) (s.play tr turns).timed.world = some (j', w')) :
    Traced tr own s (turns ++ [v]) id time j' := by
  cases htab : (s.play tr turns).timed.world.state.tab? id with
  | none =>
    simp only [Job.step, Job.ofRefresh, Job.begin, htab, Option.some.injEq, Prod.mk.injEq] at hm
    obtain ⟨rfl, -⟩ := hm
    exact .ended ⟨fun h => (by cases h), fun _ => ⟨turns, [v], rfl, htab⟩⟩
  | some t =>
    obtain ⟨w, hstep, -⟩ := Refresh.job_of_found tr htab time
    obtain rfl := congrArg Prod.fst (Option.some.inj (hstep.symm.trans hm))
    obtain rfl : t.id = id := by simpa using List.find?_some htab
    exact .running rfl ⟨htab, rfl⟩ rfl fun v hv => by cases hv

/-- The run of a refresh moves; if its channel is opened, that is a deed of this turn. -/
theorem traced_ran {x : Refresh} {r r' : Run} (hsplit : turns = before ++ after)
    (hfound : Found tr s id time before x) (hsession : r.session = x.start)
    (hforetold : ∀ v, r.foretold = some v → ∃ answer, v = answer.fate x.start ∧
      (x.session, .opens x.tab.request answer) ∈ (s.play tr before).deeds tr after)
    (hm : r.step tr (s.play tr turns).timed.world = some (r', w'))
    (hdeed : (s.play tr turns).deed? tr v =
      some (x.session, r.deed tr (s.play tr turns).timed.world)) :
    Traced tr own s (turns ++ [v]) id time ⟨.running (.refresh id x.time) r'⟩ := by
  refine .running (by rw [hsplit, List.append_assoc]) hfound ((Run.step_session hm).1.trans hsession) ?_
  intro v₀ hv₀
  cases hr : r.foretold with
  | some v₁ =>
    obtain rfl := Option.some.inj ((Run.foretold_step hr hm).symm.trans hv₀)
    obtain ⟨answer, hfate, hmem⟩ := hforetold v₁ hr
    exact ⟨answer, hfate, mem_deeds_more hmem [v]⟩
  | none =>
    obtain ⟨session, stage⟩ := r
    obtain rfl : session = x.start := hsession
    cases stage with
    | ready => cases hm; cases hv₀
    | starting => cases hm; cases hv₀
    | opening =>
      cases hm
      exact ⟨_, Option.some.inj (hv₀.symm.trans (Run.foretold_onAnswer_eq _ _ _)),
        mem_deeds_last hsplit hdeed⟩
    | _ => cases hr

/-- A move of the job, in a turn of its own. -/
theorem Traced.step (h : Traced tr own s turns id time j) (hown : own (s.play tr turns) v)
    (hm : j.step tr (s.play tr turns).timed.world = some (j', w'))
    (hdeed : (s.play tr turns).deed? tr v =
      j.session?.map (·, j.deed tr (s.play tr turns).timed.world)) :
    Traced tr own s (turns ++ [v]) id time j' := by
  cases h with
  | looking => exact traced_looked hm
  | @running before after x r hsplit hfound hsession hforetold =>
    have hsession? : (⟨.running (.refresh id x.time) r⟩ : Job).session? = some x.session :=
      congrArg (fun y : Session => some y.id) hsession
    rw [hsession?] at hdeed
    cases jobMove_step hm with
    | ran p r r' w' hr => exact traced_ran hsplit hfound hsession hforetold hr hdeed
    | concluded p r result hr =>
      have hresult : r.foretold = some result := by simp only [Run.foretold, hr]
      obtain ⟨answer, rfl, hmem⟩ := hforetold result hresult
      have hid : r.session.id = x.session := congrArg Session.id hsession
      have hmore := mem_deeds_more hmem [v]
      have hsplit' : turns ++ [v] = before ++ (after ++ [v]) := by rw [hsplit, List.append_assoc]
      unfold Answer.fate
      cases hending : answer.ending with
      | completed results =>
        have hreports : Traced tr own s (turns ++ [v]) id time ⟨.reporting x.session (.refreshed id results
            (fullLog x.tab.plugin x.tab.resource answer) x.time) (.ok (.refreshed true))⟩ :=
          .reporting hsplit' hfound hending hmore
        rw [← hid] at hreports
        exact hreports
      | failed line f => exact .failing
  | @reporting before after x answer results hsplit hfound hcompleted hmem =>
    cases hm
    have hlast : (s.play tr (before ++ after)).deed? tr v = some (x.session,
        .tells (.tabRefreshed id results (fullLog x.tab.plugin x.tab.resource answer) x.time)) := by
      rw [← hsplit]
      exact hdeed
    refine .clearing ⟨fun _ => ?_, fun h => (by cases h)⟩
    exact ⟨⟨x, answer, results, before, after, v, [], by rw [hsplit], hfound.tab, hcompleted, hmem, hlast,
      hsplit ▸ hown⟩,
      hfound.time⟩
  | failing =>
    cases hm
    unfold Job.afterReport
    split
    · exact .clearing shown_error
    · exact .ended shown_error
  | clearing h =>
    cases hm
    exact .ended (h.more [v])
  | ended h => cases hm

end

end Shift

/-! ## Tasks under a handle

A move leaves the handle, and what is left of a dropped task has none. So under
a handle there is what was there before, what is left of a task after its move,
or what begins. -/

theorem Task.handle_of_dropped {t t' : Task} (h : t' ∈ t.dropped) : t'.handle = none := by
  have ofRemains {j : Job} (hmem : t' ∈ remains j) : t'.handle = none := by
    obtain ⟨session, -, rfl⟩ := List.mem_map.mp hmem
    rfl
  obtain ⟨handle, work⟩ := t
  cases work with
  | job j => exact ofRemains h
  | clear session => rw [List.mem_singleton.mp h]
  | selection j waiting =>
    obtain ⟨stage⟩ := j
    cases waiting <;> cases stage <;> first
      | exact absurd h List.not_mem_nil
      | rw [List.mem_singleton.mp h]

theorem Task.handle_of_letGo {t t' : Task} {u : Turn} {left : List Task} (h : t.LetGo u left)
    (ht' : t' ∈ left) : t'.handle = none := by
  rcases h.mem ht' with hdropped | rfl
  · exact handle_of_dropped hdropped
  · rfl

theorem Task.handle_of_step {t t' : Task} {left : List Task} {w w' : World σ}
    (h : t.step tr w = some (left, w')) (ht' : t' ∈ left) : t'.handle = t.handle := by
  rcases Task.step_cases h with ⟨session, -, rfl, -⟩ | ⟨j, j', -, -, rfl⟩
  · exact absurd ht' List.not_mem_nil
  · rw [List.mem_singleton.mp ht']
    obtain ⟨handle, work⟩ := t
    cases work <;> rfl

theorem Task.handle_of_await {t t' : Task} {handle : String} (h : t' ∈ t.await)
    (hh : t'.handle = some handle) : t.handle = some handle := by
  obtain ⟨handle', work⟩ := t
  cases work with
  | selection j waiting =>
    cases waiting with
    | givenUp =>
      obtain ⟨session, -, rfl⟩ := List.mem_map.mp h
      cases hh
    | _ =>
      rw [List.mem_singleton.mp h] at hh
      exact hh
  | _ =>
    rw [List.mem_singleton.mp h] at hh
    exact hh

theorem Workspace.mem_moveAt {ws : Workspace σ} {place : Nat} {t' : Task}
    (ht' : t' ∈ (ws.moveAt tr place).tasks) :
    t' ∈ ws.tasks ∨ ∃ t left w, ws.tasks[place]? = some t ∧ t.step tr ws.world = some (left, w) ∧
      t' ∈ left ∧ ws.deed? tr (.move place) = t.session?.map (·, t.deed tr ws.world) := by
  cases ht : ws.tasks[place]? with
  | none =>
    simp only [moveAt, ht] at ht'
    exact .inl ht'
  | some t =>
    cases hm : t.step tr ws.world with
    | none =>
      simp only [moveAt, ht, hm] at ht'
      exact .inl ht'
    | some m =>
      obtain ⟨left, w⟩ := m
      simp only [moveAt, ht, hm, List.mem_append] at ht'
      rcases ht' with (hbefore | hleft) | hafter
      · exact .inl (List.mem_of_mem_take hbefore)
      · exact .inr ⟨t, left, w, rfl, hm, hleft, by simp only [deed?, ht, hm]⟩
      · exact .inl (List.mem_of_mem_drop hafter)

/-- A task under a handle, after a turn by which none begins or moves: it was there before, or its waiting part
had its turn. -/
theorem mem_change_of_handle {ws ws' : Workspace σ} {u : Turn} {d : Option (SessionId × Deed)}
    (h : Change tr ws u d ws') (hbegin : ∀ handle e, u ≠ .begin handle e) (hmove : ∀ place, u ≠ .move place)
    {t' : Task} (ht' : t' ∈ ws'.tasks) {handle : String} (hh : t'.handle = some handle) :
    t' ∈ ws.tasks ∨ ∃ t ∈ ws.tasks, t.handle = some handle ∧ t' ∈ t.await := by
  cases h with
  | moved => exact absurd rfl (hmove _)
  | @awaited place l r t htasks =>
    have hmem : t' ∈ t.await ∨ t' ∈ l ++ r := by simpa [or_comm, or_assoc, or_left_comm] using ht'
    rcases hmem with hawait | hother
    · exact .inr ⟨t, by simp [htasks], Task.handle_of_await hawait hh, hawait⟩
    · exact .inl (by simpa [htasks, or_left_comm] using Or.inr (List.mem_append.mp hother))
  | @letGo u l r left t htasks hgo =>
    rcases List.mem_append.mp ht' with hother | hleft
    · exact .inl (by simpa [htasks, or_left_comm] using Or.inr (List.mem_append.mp hother))
    · cases (Task.handle_of_letGo hgo hleft).symm.trans hh
  | thinned hsub => exact .inl (hsub.subset ht')
  | begun => exact absurd rfl (hbegin _ _)
  | told => exact .inl ht'
  | released => exact .inl ht'

theorem Workspace.tasks_begin (handle : String) (errand : Errand) (ws : Workspace σ) :
    ∃ work, (ws.begin handle errand).tasks = ws.tasks ++ [⟨some handle, work⟩] ∧
      ∀ id time, errand = .refresh id time → work = .job (.ofRefresh id time) := by
  cases errand with
  | refresh id time =>
    refine ⟨_, rfl, fun id' time' h => ?_⟩
    cases h
    rfl
  | _ plugin resource => exact ⟨_, rfl, fun id' time' h => by cases h⟩

theorem Workspace.task_of_join {ws : Workspace σ} {handle : String} {result : Except Failure Yield}
    (h : (ws.join handle).1 = some result) :
    ∃ t ∈ ws.tasks, t.handle = some handle ∧ t.result? = some result := by
  unfold Workspace.join at h
  split at h
  · next heq =>
    obtain ⟨t, ht, hresult⟩ := Option.bind_eq_some_iff.mp heq
    refine ⟨t, List.mem_of_find?_eq_some ht, by simpa using List.find?_some ht, ?_⟩
    exact hresult.trans h
  · cases h

theorem Check.mem_collect {c : Check} {tab id : String} {result : Except Failure Yield}
    (h : id ∈ c.collect tab result) : id ∈ c.refreshed ∨ (id = tab ∧ result = .ok (.refreshed true)) := by
  unfold collect at h
  split at h
  · rcases List.mem_append.mp h with hold | hnew
    · exact .inl hold
    · exact .inr ⟨List.mem_singleton.mp hnew, rfl⟩
  · exact .inl h

namespace Shift

section
variable {s : Shift σ} {turns : List ShiftTurn} {v : ShiftTurn} {id handle : String} {time : Option Instant}

/-- A task under this handle has its turn. -/
def MovesUnder (handle : String) (s : Shift σ) (v : ShiftTurn) : Prop :=
  ∃ place t, v = .work (.move place) ∧ s.workspace.tasks[place]? = some t ∧ t.handle = some handle

/-- The tasks under this handle are refreshes of this tab. -/
def TasksTraced (tr : Transport σ) (s : Shift σ) (turns : List ShiftTurn) (handle id : String)
    (time : Option Instant) (tasks : List Task) : Prop :=
  ∀ t ∈ tasks, t.handle = some handle →
    ∃ j, t.work = .job j ∧ Traced tr (MovesUnder handle) s turns id time j

theorem TasksTraced.more {tasks : List Task} (h : TasksTraced tr s turns handle id time tasks)
    (rest : List ShiftTurn) : TasksTraced tr s (turns ++ rest) handle id time tasks := by
  intro t ht hh
  obtain ⟨j, hwork, htraced⟩ := h t ht hh
  exact ⟨j, hwork, htraced.more rest⟩

theorem tasksTraced_work {u : Turn}
    (h : TasksTraced tr s turns handle id time (s.play tr turns).workspace.tasks)
    (hbegun : ∀ e, u = .begin handle e → e = .refresh id time) :
    TasksTraced tr s (turns ++ [.work u]) handle id time
      ((s.play tr turns).timed.turn tr u).tasks := by
  intro t' ht' hh
  by_cases hbegin : ∃ handle' e, u = .begin handle' e
  · obtain ⟨handle', e, rfl⟩ := hbegin
    obtain ⟨work, htasks, hwork⟩ := Workspace.tasks_begin handle' e (s.play tr turns).timed
    rcases List.mem_append.mp (htasks ▸ ht') with hold | hnew
    · exact h.more _ t' hold hh
    · obtain rfl := List.mem_singleton.mp hnew
      obtain rfl := Option.some.inj hh
      exact ⟨_, hwork id time (hbegun e rfl), .looking⟩
  by_cases hmove : ∃ place, u = .move place
  · obtain ⟨place, rfl⟩ := hmove
    rcases Workspace.mem_moveAt ht' with hold | ⟨t, left, w, hplace, hm, hleft, hdeed⟩
    · exact h.more _ t' hold hh
    · have hth : t.handle = some handle := (Task.handle_of_step hm hleft).symm.trans hh
      obtain ⟨j, hwork, htraced⟩ := h t (List.mem_of_getElem? hplace) hth
      have hown : MovesUnder handle (s.play tr turns) (.work (.move place)) := ⟨place, t, rfl, hplace, hth⟩
      obtain ⟨handle', work⟩ := t
      obtain rfl : work = .job j := hwork
      obtain ⟨⟨j', w'⟩, hj, hj'⟩ := Option.map_eq_some_iff.mp hm
      obtain ⟨rfl, rfl⟩ := Prod.mk.inj hj'
      rw [List.mem_singleton.mp hleft]
      exact ⟨j', rfl, htraced.step hown hj hdeed⟩
  · rcases mem_change_of_handle (change_turn tr _ u) (fun handle' e he => hbegin ⟨handle', e, he⟩)
      (fun place he => hmove ⟨place, he⟩) ht' hh with hold | ⟨t, ht, hth, hawait⟩
    · exact h.more _ t' hold hh
    · obtain ⟨j, hwork, -⟩ := h t ht hth
      have hstays : t.await = [t] := by simp only [Task.await, hwork]
      rw [hstays, List.mem_singleton] at hawait
      rw [hawait]
      exact h.more _ t ht hth

theorem tasksTraced_turn (h : TasksTraced tr s turns handle id time (s.play tr turns).workspace.tasks)
    (hbegun : ∀ e, v = .work (.begin handle e) → e = .refresh id time) :
    TasksTraced tr s (turns ++ [v]) handle id time ((s.play tr turns).turn tr v).workspace.tasks := by
  have hmore := h.more [v]
  cases v with
  | work u => exact tasksTraced_work h fun e he => hbegun e (congrArg ShiftTurn.work he)
  | move place =>
    rcases turn_move_cases tr (s.play tr turns) place with ⟨hturn, -⟩ | ⟨c, -, c', w, -, hturn, -⟩
    · rw [hturn]
      exact hmore
    · rw [hturn]
      exact hmore
  | drop place =>
    rcases turn_drop_cases tr (s.play tr turns) place with hturn | ⟨c, hturn⟩
    · rw [hturn]
      exact hmore
    · rw [hturn]
      intro t ht hh
      rcases List.mem_append.mp ht with hold | hnew
      · exact hmore t hold hh
      · obtain ⟨session, -, rfl⟩ := List.mem_map.mp hnew
        cases hh
  | _ => exact hmore

theorem tasksTraced_play (hs : s.workspace.tasks = []) (turns : List ShiftTurn)
    (hbegun : ∀ e, .work (.begin handle e) ∈ turns → e = .refresh id time) :
    TasksTraced tr s turns handle id time (s.play tr turns).workspace.tasks := by
  induction turns using List.reverseRecOn with
  | nil =>
    intro t ht
    rw [play_nil, hs] at ht
    exact absurd ht List.not_mem_nil
  | append_singleton turns v ih =>
    rw [play_append]
    refine tasksTraced_turn (ih fun e he => hbegun e (List.mem_append_left _ he)) fun e he => ?_
    exact hbegun e (List.mem_append_right _ (List.mem_singleton.mpr he.symm))

end

/-! ## Checks

A check notes a tab if its refresh gives back that it has been refreshed. -/

/-- A check of this time that is at the refresh of this tab has its turn. -/
def MovesIn (time : Instant) (id : String) (s : Shift σ) (v : ShiftTurn) : Prop :=
  ∃ place c j, v = .move place ∧ s.checks[place]? = some c ∧ c.time = time ∧ c.current = some (id, j)

/-- What the turns have shown of a check: of the refresh that it is at, and of those that succeeded. -/
structure CheckTraced (tr : Transport σ) (s : Shift σ) (turns : List ShiftTurn) (c : Check) : Prop where
  current : ∀ id j, c.current = some (id, j) → Traced tr (MovesIn c.time id) s turns id (some c.time) j
  refreshed : ∀ id ∈ c.refreshed, ∃ r : s.Success tr (MovesIn c.time id) turns id, r.Began (some c.time)

section
variable {s : Shift σ} {turns : List ShiftTurn} {v : ShiftTurn} {c c' : Check} {w' : World σ}

theorem CheckTraced.more (h : CheckTraced tr s turns c) (rest : List ShiftTurn) :
    CheckTraced tr s (turns ++ rest) c where
  current id j hj := (h.current id j hj).more rest
  refreshed id hid := by
    obtain ⟨r, hr⟩ := h.refreshed id hid
    exact ⟨r.more rest, hr⟩

/-- A move of the check at this place. -/
theorem CheckTraced.step {place : Nat} (h : CheckTraced tr s turns c)
    (hplace : (s.play tr turns).checks[place]? = some c)
    (hm : c.step tr (s.play tr turns).timed.world = some (c', w')) :
    CheckTraced tr s (turns ++ [.move place]) c' := by
  have hmore := h.more [.move place]
  have hdeed : (s.play tr turns).deed? tr (.move place) = c.deed? tr (s.play tr turns).timed.world := by
    simp only [deed?, hplace, hm, Option.bind_some]
  cases checkMove_step hm with
  | looked time due current got => exact ⟨hmore.current, hmore.refreshed⟩
  | took time tab due got =>
    refine ⟨fun id j hj => ?_, hmore.refreshed⟩
    obtain ⟨rfl, rfl⟩ := Prod.mk.inj (Option.some.inj hj)
    exact .looking
  | ran time due tab j j' got w' hj =>
    refine ⟨fun id j'' hj'' => ?_, hmore.refreshed⟩
    obtain ⟨rfl, rfl⟩ := Prod.mk.inj (Option.some.inj hj'')
    exact (h.current tab j rfl).step ⟨place, _, j, rfl, hplace, rfl, rfl⟩ hj hdeed
  | collected time due tab result got =>
    refine ⟨fun id j hj => (by cases hj), fun id hid => ?_⟩
    rcases Check.mem_collect hid with hold | ⟨rfl, rfl⟩
    · exact hmore.refreshed id hold
    · cases h.current id _ rfl with
      | ended hshown =>
        obtain ⟨r, hr⟩ := hshown.success rfl
        exact ⟨r.more [.move place], hr⟩

theorem checksTraced_turn (h : ∀ c ∈ (s.play tr turns).checks, CheckTraced tr s turns c) :
    ∀ c ∈ ((s.play tr turns).turn tr v).checks, CheckTraced tr s (turns ++ [v]) c := by
  have hmore : ∀ c ∈ (s.play tr turns).checks, CheckTraced tr s (turns ++ [v]) c :=
    fun c hc => (h c hc).more [v]
  cases v with
  | check =>
    intro c hc
    rcases List.mem_append.mp hc with hold | hnew
    · exact hmore c hold
    · rw [List.mem_singleton.mp hnew]
      exact ⟨fun id j hj => (by cases hj), fun id hid => absurd hid List.not_mem_nil⟩
  | move place =>
    cases hplace : (s.play tr turns).checks[place]? with
    | none =>
      simp only [turn, hplace]
      exact hmore
    | some c =>
      cases hm : c.step tr (s.play tr turns).timed.world with
      | none =>
        simp only [turn, hplace, hm]
        exact hmore
      | some m =>
        obtain ⟨c', w⟩ := m
        simp only [turn, hplace, hm]
        intro c₀ hc₀
        rcases List.mem_or_eq_of_mem_set hc₀ with hold | rfl
        · exact hmore c₀ hold
        · exact (h c (List.mem_of_getElem? hplace)).step hplace hm
  | drop place =>
    rcases turn_drop_cases tr (s.play tr turns) place with hturn | ⟨c, hturn⟩
    · rw [hturn]
      exact hmore
    · rw [hturn]
      exact fun c' hc' => hmore c' (List.mem_of_mem_eraseIdx hc')
  | abandon place => exact fun c' hc' => hmore c' (List.mem_of_mem_eraseIdx hc')
  | _ => exact hmore

theorem checksTraced_play (hc : s.checks = []) (turns : List ShiftTurn) :
    ∀ c ∈ (s.play tr turns).checks, CheckTraced tr s turns c := by
  induction turns using List.reverseRecOn with
  | nil =>
    intro c hmem
    rw [play_nil, hc] at hmem
    exact absurd hmem List.not_mem_nil
  | append_singleton turns v ih =>
    rw [play_append]
    exact checksTraced_turn ih

end

end Shift

/-! ## Tabs that are taken away

If there is no tab with an identifier any more, one of the turns has taken it
away: it was closed, or a new one of its pair was put in its place. -/

/-- The action closes this tab, which is not pinned, or puts a new one of its pair in its place. -/
def Action.TakesAway (t : Tab) (a : Action) : Prop :=
  (t.pinned = false ∧ (a = .tabClosed t.id ∨ a = .tabsClosedAll)) ∨
    ∃ new, a = .tabCreated new ∧ t.pair = new.pair

section
variable {s : State} {id : String} {t : Tab}

theorem takesAway_of_gone {a : Action} (ht : s.tab? id = some t) (hgone : (s.apply a).tab? id = none) :
    a.TakesAway t := by
  have hmem : t ∈ s.tabs := List.mem_of_find?_eq_some ht
  have hid : t.id = id := by simpa using List.find?_some ht
  have hlost : ∀ u ∈ (s.apply a).tabs, u.id ≠ id := by simpa using List.find?_eq_none.mp hgone
  have hchange := tabChange_apply s a
  generalize (s.apply a).tabs = ts at hchange hlost
  have stays {u : Tab} (hu : u ∈ ts) (huid : u.id = t.id) : a.TakesAway t :=
    absurd (huid.trans hid) (hlost u hu)
  cases hchange with
  | kept => exact stays hmem rfl
  | updated id' f _ hcard =>
    have hkeeps (u : Tab) : (f u).id = u.id := congrArg Tab.Card.id (hcard u)
    have hids : (updateFirst (fun u => u.id == id') f s.tabs).map (·.id) = s.tabs.map (·.id) :=
      map_updateFirst hkeeps s.tabs
    have hmap : t.id ∈ s.tabs.map (·.id) := List.mem_map_of_mem hmem
    rw [← hids] at hmap
    obtain ⟨u, hu, huid⟩ := List.mem_map.mp hmap
    exact stays hu huid
  | added new => exact stays (List.mem_append_left _ hmem) rfl
  | replaced new old before after ha hsplit hpair =>
    rw [hsplit, List.mem_append, List.mem_cons] at hmem
    rcases hmem with hb | rfl | hb
    · exact stays (by simp [hb]) rfl
    · exact .inr ⟨new, ha, hpair⟩
    · exact stays (by simp [hb]) rfl
  | refused => exact stays hmem rfl
  | closed old before after ha hsplit hpinned =>
    rw [hsplit, List.mem_append, List.mem_cons] at hmem
    rcases hmem with hb | rfl | hb
    · exact stays (List.mem_append_left _ hb) rfl
    · exact .inl ⟨hpinned, .inl ha⟩
    · exact stays (List.mem_append_right _ hb) rfl
  | swept ha =>
    cases hpinned : t.pinned with
    | true => exact stays (List.mem_filter.mpr ⟨hmem, hpinned⟩) rfl
    | false => exact .inl ⟨hpinned, .inr ha⟩

theorem apply_refreshed_of_none (h : s.tab? id = none) (results : List Screen) (logs : List String)
    (time : Instant) : s.apply (.tabRefreshed id results logs time) = s := by
  simp only [State.apply, State.refreshTab, h]

theorem tab?_refreshed (id : String) (results : List Screen) (logs : List String) (time : Instant) :
    (s.apply (.tabRefreshed id results logs time)).tab? id = (s.tab? id).map fun t =>
      { t with results := results, logs := logs, refreshedAt := time, failedSession := none } := by
  cases h : s.tab? id with
  | none =>
    rw [apply_refreshed_of_none h, h]
    rfl
  | some t =>
    rw [State.tab?, State.apply, tabs_refreshTab h, State.onTab, find?_updateFirst_self, ← State.tab?, h]
    exact fun _ => rfl

end

namespace Shift

section
variable {own : Shift σ → ShiftTurn → Prop} {s : Shift σ} {turns : List ShiftTurn} {id : String}

/-- In this turn the tab with this identifier is taken away. -/
def Loses (tr : Transport σ) (id : String) (s : Shift σ) (v : ShiftTurn) : Prop :=
  ∃ t a, s.state.tab? id = some t ∧ s.told? tr v = some a ∧ a.TakesAway t ∧ (s.turn tr v).state.tab? id = none

theorem loses_of_gone {v : ShiftTurn} {t : Tab} (ht : s.state.tab? id = some t)
    (hgone : (s.turn tr v).state.tab? id = none) : s.Loses tr id v := by
  rcases state_turn tr s v with hst | ⟨a, ha, hst⟩
  · rw [hst, ht] at hgone
    cases hgone
  · exact ⟨t, a, ht, ha, takesAway_of_gone ht (hst ▸ hgone), hgone⟩

/-- A tab that is gone has been taken away in one of the turns. -/
theorem exists_loses {t : Tab} (ht : s.state.tab? id = some t) (hgone : (s.play tr turns).state.tab? id = none) :
    ∃ before v after, turns = before ++ v :: after ∧ (s.play tr before).Loses tr id v := by
  induction turns generalizing s t with
  | nil =>
    rw [play_nil, ht] at hgone
    cases hgone
  | cons v turns ih =>
    cases hnext : (s.turn tr v).state.tab? id with
    | none => exact ⟨[], v, turns, rfl, loses_of_gone ht hnext⟩
    | some t' =>
      obtain ⟨before, u, after, rfl, hloses⟩ := ih hnext hgone
      exact ⟨v :: before, u, after, rfl, hloses⟩

/-- What becomes of the results: the tab with this identifier gets them, if it is open when they are told. If it
is not, it has been taken away while the refresh went on, and nothing changes. -/
inductive Success.Arrives (r : s.Success tr own turns id) : Prop
  | renewed {t : Tab} : r.last.state.tab? id = some t →
      (r.last.turn tr r.telling).state.tab? id = some (r.renewed t) → r.Arrives
  | lost {before after : List ShiftTurn} {v : ShiftTurn} : r.last.state.tab? id = none →
      r.between = before ++ v :: after → (s.play tr (r.before ++ before)).Loses tr id v →
      (r.last.turn tr r.telling).state = r.last.state → r.Arrives

theorem Success.arrives (r : s.Success tr own turns id) : r.Arrives := by
  have hstate := state_of_deed r.told
  cases hlast : r.last.state.tab? id with
  | some t =>
    refine .renewed hlast ?_
    rw [Success.last, hstate, tab?_refreshed]
    exact congrArg _ hlast
  | none =>
    have hgone := hlast
    rw [Success.last, play_append] at hgone
    obtain ⟨before, v, after, hsplit, hloses⟩ := exists_loses r.found hgone
    rw [← play_append] at hloses
    exact .lost hlast hsplit hloses (hstate.trans (apply_refreshed_of_none hlast ..))

theorem shown_of_join (hs : s.workspace.tasks = []) {handle : String} {time : Option Instant}
    (hbegun : ∀ e, .work (.begin handle e) ∈ turns → e = .refresh id time) {result : Except Failure Yield}
    (h : ((s.play tr turns).workspace.join handle).1 = some result) :
    Shown tr (MovesUnder handle) s turns id time result := by
  obtain ⟨t, ht, hh, hresult⟩ := Workspace.task_of_join h
  obtain ⟨j, hwork, htraced⟩ := tasksTraced_play hs turns hbegun t ht hh
  have hj : j.result? = some result := by
    simpa only [Task.result?, hwork] using hresult
  cases htraced with
  | ended hshown =>
    obtain rfl := Option.some.inj hj
    exact hshown
  | _ => cases hj

end

end Shift

open Shift

/-- Refreshes of a tab and other things happen in whatever order. If a refresh gives back under its handle that
it has refreshed the tab, it found one with this identifier, its channel was answered with results, and it told
the console these; and so for every tab that a check gives back, with the time of the check. The tab has got
the results then, unless it was closed or replaced between the moment when the refresh found it and the one
when it told them: then nothing has changed. A refresh that gives back that there was none found no tab, and
one that finds none gives that back at once. -/
theorem refresh_answers (tr : Transport σ) {s : Shift σ} (hs : s.workspace.tasks = []) (hc : s.checks = [])
    (turns : List ShiftTurn) :
    let now := s.play tr turns
    (∀ handle id time, (∀ e, .work (.begin handle e) ∈ turns → e = .refresh id time) →
      ((now.workspace.join handle).1 = some (.ok (.refreshed true)) →
        ∃ r : s.Success tr (MovesUnder handle) turns id, r.Began time ∧ r.Arrives) ∧
      ((now.workspace.join handle).1 = some (.ok (.refreshed false)) →
        ∃ before after, turns = before ++ after ∧ (s.play tr before).state.tab? id = none)) ∧
    (∀ c ∈ now.checks, ∀ id ∈ c.refreshed,
      ∃ r : s.Success tr (MovesIn c.time id) turns id, r.Began (some c.time) ∧ r.Arrives) ∧
    ∀ id time (w : World σ), w.state.tab? id = none →
      Job.step tr (.ofRefresh id time) w = some (⟨.ended (.ok (.refreshed false))⟩, w) := by
  intro now
  refine ⟨fun handle id time hbegun => ⟨fun h => ?_, fun h => ?_⟩, fun c hmem id hid => ?_, fun id time w h => ?_⟩
  · obtain ⟨r, hr⟩ := (shown_of_join hs hbegun h).success rfl
    exact ⟨r, hr, r.arrives⟩
  · exact (shown_of_join hs hbegun h).missed rfl
  · obtain ⟨r, hr⟩ := (checksTraced_play hc turns c hmem).refreshed id hid
    exact ⟨r, hr, r.arrives⟩
  · simp only [Job.step, Job.ofRefresh, Job.begin, h]

/-- The tab is pinned while it is refreshed, and gets the results. -/
theorem refresh_answers_pinned :
    let tr : Transport Unit := ⟨fun _ _ => (.opened [.event (.complete [])], ())⟩
    let tab : Tab :=
      { Tab.create ⟨⟨"1"⟩, "disk", "", none⟩ ⟨"::1", "web", none, none, .synthetic 80⟩ [] ["old"] ⟨0⟩ with
        id := "a" }
    let s : Shift Unit :=
      { clock := ⟨5⟩, workspace := ⟨{ clock := ⟨0⟩, link := (), state := { tabs := [tab] } }, []⟩ }
    let turns : List ShiftTurn :=
      .work (.begin "x" (.refresh "a" none)) :: .work (.move 0) :: .work (.tell (.tabPinned "a" true)) ::
        List.replicate 9 (.work (.move 0))
    let now := s.play tr turns
    s.workspace.tasks = [] ∧ s.checks = [] ∧
      (∀ e, .work (.begin "x" e) ∈ turns → e = .refresh "a" none) ∧
      (now.workspace.join "x").1 = some (.ok (.refreshed true)) ∧
      (now.state.tab? "a").map (fun t => (t.pinned, t.refreshedAt)) = some (true, ⟨5⟩) ∧
      ∃ r : s.Success tr (MovesUnder "x") turns "a", r.Began none ∧ r.Arrives := by
  intro tr tab s turns now
  have hbegun : ∀ e, .work (.begin "x" e) ∈ turns → e = .refresh "a" none := by
    intro e he
    simpa [turns] using he
  have htrue : (now.workspace.join "x").1 = some (.ok (.refreshed true)) := by decide
  obtain ⟨hjoin, -⟩ := refresh_answers tr (s := s) rfl rfl turns
  exact ⟨rfl, rfl, hbegun, htrue, by decide, (hjoin "x" "a" none hbegun).1 htrue⟩

/-- A tab that is closed during its refresh, and one that is replaced while a check refreshes it: both refreshes
give back that they have refreshed the tab, and there was none when they told the results. -/
theorem refreshed_without_tab :
    let tr : Transport Unit := ⟨fun _ _ => (.opened [.event (.complete [])], ())⟩
    let tab (id : String) : Tab :=
      { Tab.create ⟨⟨"1"⟩, "disk", "", none⟩ ⟨"::1", "web", none, none, .synthetic 80⟩ [] ["old"] ⟨0⟩ with
        id := id, interval := .halfMinute }
    let s (t : Tab) : Shift Unit :=
      { clock := ⟨100000000000⟩
        workspace := ⟨{ clock := ⟨0⟩, link := (), state := { tabs := [t] } }, []⟩ }
    let closing : List ShiftTurn :=
      .work (.begin "x" (.refresh "a" none)) :: .work (.move 0) :: .work (.tell (.tabClosed "a")) ::
        List.replicate 7 (.work (.move 0))
    let replacing : List ShiftTurn :=
      .check :: List.replicate 4 (.move 0) ++ .work (.tell (.tabCreated (tab "b"))) ::
        List.replicate 6 (.move 0)
    let log := fullLog (tab "a").plugin (tab "a").resource (.opened [.event (.complete [])])
    let closed := (s (tab "a")).play tr closing
    let replaced := (s { tab "a" with pinned := true }).play tr replacing
    (closed.told? tr (.work (.move 0)) = some (.tabRefreshed "a" [] log ⟨100000000000⟩) ∧
      closed.state.tab? "a" = none ∧
      ((closed.play tr (List.replicate 2 (.work (.move 0)))).workspace.join "x").1 =
        some (.ok (.refreshed true))) ∧
    replaced.told? tr (.move 0) = some (.tabRefreshed "a" [] log ⟨100000000000⟩) ∧
      replaced.state.tab? "a" = none ∧
      (replaced.play tr (List.replicate 3 (.move 0))).checks.map (·.result?) = [some ["a"]] := by
  intro tr tab s closing replacing log closed replaced
  exact ⟨⟨by decide, by decide, by decide⟩, by decide, by decide, by decide⟩

end ScanConsole
