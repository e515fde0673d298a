import Mathlib.Data.List.Nodup
import ScanConsole.Proofs.Ahead
import ScanConsole.Proofs.Alone
import ScanConsole.Proofs.SessionLife
import ScanConsole.Proofs.Tabs

/-!
# A selection from end to end

A selection tells the console what its run has to tell, and then opens the tab
and clears the session, or leaves the session of the failure. Nobody else does
anything in between, so the state in the end is the one before with these
actions applied:

    completed     the state before, with the tab of the pair opened and in front
    failed        the state before, with one session more, which has failed

`select_opens_tab` says this of every answer. In both cases nothing else has
changed, and what is given back is the identifier of the tab, or the failure.

## Alone and in the background

A job that is left alone brings the console to a state and gives something back
(`Job.Leads`): what it still has to tell leads there from where it is. A move
keeps this, and a selection that gets a release for every silence of its channel
does not wait, and comes to its end. So a selection in the foreground and one in
the background, with its waiting part, give back the same and leave the same
state. In the background, turns of others are excluded but for releases; what
they could change is in the other modules.

## What is assumed

The state is one that actions have led to: then a pair has one tab, and the tab
that is opened is the only one of its pair. The identifier of the next session
is not in use, which the numbering of sessions sees to. And there is a release
for every time that the channel falls silent: without it a selection waits for
ever and gives back nothing.
-/

namespace ScanConsole

variable {σ : Type} {tr : Transport σ}

/-! ## What a run leaves of itself

The session of a run stands behind all others. On the items its log grows by the
lines of each. -/

def State.withSession (x : Session) (s : State) : State := { s with sessions := s.sessions ++ [x] }

section
variable {s : State} {x : Session} (hnew : ∀ y ∈ s.sessions, y.id ≠ x.id)
include hnew

theorem onSession_withSession (f : Session → Session) :
    (s.withSession x).onSession x.id f = s.withSession (f x) := by
  have hupdate : updateFirst (fun y => y.id == x.id) f (s.sessions ++ [x]) = s.sessions ++ [f x] :=
    updateFirst_append_singleton (fun y hy => by simpa using hnew y hy) (by simp)
  simp only [State.withSession, State.onSession, hupdate]

theorem applyAll_tellLines (lines : List String) :
    (s.withSession x).applyAll (tellLines x.id lines) = s.withSession (x.log lines) := by
  cases lines with
  | nil =>
    rw [show x.log [] = x by simp [Session.log]]
    rfl
  | cons line lines => exact onSession_withSession hnew _

theorem applyAll_ending (e : Ending) :
    (s.withSession x).applyAll (e.tale x.id) = s.withSession (e.close x) := by
  cases e with
  | completed results =>
    have hlog : (s.withSession x).apply (.executionLogged x.id [Transcript.completionLine]) =
        s.withSession (x.log [Transcript.completionLine]) := onSession_withSession hnew _
    show ((s.withSession x).apply (.executionLogged x.id [Transcript.completionLine])).apply
      (.executionCompleted x.id) = _
    rw [hlog]
    exact onSession_withSession (x := x.log [Transcript.completionLine]) hnew Session.complete
  | failed line f => exact onSession_withSession hnew (Session.fail [line])

end

theorem applyAll_tale {s : State} {x : Session} (hnew : ∀ y ∈ s.sessions, y.id ≠ x.id) (begun : Bool)
    (items : List Item) :
    (s.withSession x).applyAll (tale x.id begun items) = s.withSession ((endingOf items).close
      { x with logs := x.logs ++ story begun (plainItems items) }) := by
  induction items generalizing x begun with
  | nil =>
    rw [show plainItems [] = [] from rfl, story, List.append_nil]
    exact applyAll_ending hnew .closed
  | cons i rest ih =>
    unfold tale
    cases hi : i.ending? with
    | some e =>
      rw [endingOf_cons_of_ending hi, plainItems_cons_of_ending hi, story, List.append_nil]
      exact applyAll_ending hnew e
    | none =>
      rw [endingOf_cons_of_plain hi, plainItems_cons_of_plain hi, story, ← List.append_assoc]
      simp only [applyAll_append, applyAll_tellLines hnew]
      exact ih (x := x.log (i.lines begun)) hnew _

/-- What a run that got this answer leaves of itself is its session. -/
theorem applyAll_answer {s : State} {x : Session} (hnew : ∀ y ∈ s.sessions, y.id ≠ x.id)
    (answer : Answer) :
    (s.withSession x).applyAll (answer.tale x.id) = s.withSession (answer.ending.close
      { x with logs := x.logs ++ story false answer.plain }) := by
  cases answer with
  | refused f =>
    rw [show (Answer.refused f).plain = [] from rfl, story, List.append_nil]
    exact applyAll_ending hnew (.failed Run.connectionFailed f)
  | opened items => exact applyAll_tale hnew false items

/-! ## Channels that are released

More releases do no harm. -/

/-- There is a release for every time that the channel of the run still falls silent. -/
def Run.Provided (tr : Transport σ) (w : World σ) (r : Run) : Prop :=
  match r.stage with
  | .ready | .starting | .opening =>
    (tr.connect r.request w.link).1.silences ≤ w.releases.count w.requests
  | .listening c _ _ | .logging _ c _ _ =>
    c.items.count .silence + (if c.silent then 1 else 0) ≤ w.releases.count c.number
  | _ => True

namespace Run

theorem provided_onAsk (s : Session) {c : Channel} (t : Transcript) (logs : List String) {w : World σ}
    (h : c.items.count .silence ≤ w.releases.count c.number) (hs : c.silent = false) :
    Provided tr w ⟨s, onAsk ⟨s, .listening c t logs⟩ c t logs⟩ := by
  obtain ⟨number, asked, items, silent⟩ := c
  subst hs
  cases items with
  | nil => exact trivial
  | cons i rest =>
    cases i with
    | failure f => exact trivial
    | silence => simpa [onAsk, Provided, Channel.next] using h
    | event e =>
      have hrest : rest.count .silence ≤ w.releases.count number := by simpa using h
      simp only [onAsk, onEvent]
      split
      · simpa [Provided, Channel.next] using hrest
      · simpa [Provided, Channel.next] using hrest
      · exact trivial
      · exact trivial

section
variable {r r' : Run} {w w' : World σ}

theorem provided_step (hp : r.Provided tr w) (h : r.step tr w = some (r', w')) : r'.Provided tr w' := by
  obtain ⟨s, stage⟩ := r
  cases stage with
  | ready => cases h; exact hp
  | starting => cases h; exact hp
  | opening =>
    obtain ⟨rfl, rfl⟩ := Prod.mk.inj (Option.some.inj h)
    simp only [Provided] at hp
    simp only [World.look]
    cases ha : (tr.connect (request ⟨s, .opening⟩) w.link).1 with
    | refused f => exact trivial
    | opened items =>
      rw [ha] at hp
      simpa [Provided, onAnswer, Answer.silences] using hp
  | listening c t logs =>
    simp only [Provided] at hp
    unfold step at h
    by_cases hs : c.silent = true
    · simp only [hs, if_true, Option.map_eq_some_iff, Prod.mk.injEq] at h hp
      obtain ⟨w₁, hw, rfl, rfl⟩ := h
      rw [eq_of_useRelease? hw]
      simp only [Provided, Bool.false_eq_true, if_false, List.count_erase_self]
      omega
    · simp only [hs, Bool.false_eq_true, if_false, Option.some.injEq, Prod.mk.injEq] at h hp
      obtain ⟨rfl, rfl⟩ := h
      exact provided_onAsk s t logs hp (by simpa using hs)
  | logging lines c t logs => cases h; exact hp
  | failing lines f => cases h; exact trivial
  | completing lines o => cases h; exact trivial
  | finishing o => cases h; exact trivial
  | ended result => cases h

/-- With a release for every silence a run does not wait. -/
theorem step_of_provided (hp : r.Provided tr w) (hr : r.result? = none) : ∃ m, r.step tr w = some m := by
  obtain ⟨s, stage⟩ := r
  cases stage with
  | listening c t logs =>
    by_cases hs : c.silent = true
    · have hmem : c.number ∈ w.releases := by
        refine List.count_pos_iff.mp ?_
        simp only [Provided, hs, if_true] at hp
        omega
      have huse : w.useRelease? c.number = some { w with releases := w.releases.erase c.number } :=
        if_pos (List.contains_iff_mem.mpr hmem)
      simp only [step, hs, if_true, huse, Option.map_some]
      exact ⟨_, rfl⟩
    · simp only [step, hs]
      exact ⟨_, rfl⟩
  | ended result => cases hr
  | _ => exact ⟨_, rfl⟩

theorem provided_release (hp : r.Provided tr w) (number : Nat) : r.Provided tr (w.release number) := by
  have hmore : ∀ n, w.releases.count n ≤ (w.release number).releases.count n :=
    fun n => List.count_le_count_cons
  obtain ⟨s, stage⟩ := r
  cases stage <;> first
    | exact trivial
    | exact Nat.le_trans hp (hmore _)

end

end Run

/-! ## Jobs that are left alone

A job that has ended has done all that it leads to. -/

/-- A job that is left alone brings the console to this state and gives this back. -/
structure Job.Leads (tr : Transport σ) (final : State) (v : Except Failure Yield) (j : Job)
    (w : World σ) : Prop where
  state : w.state.applyAll (j.ahead tr w) = final
  fate : j.fate? tr w = some v
  provided : ∀ r, j.run? = some r → r.Provided tr w

namespace Job

section
variable {final : State} {v : Except Failure Yield} {j j' : Job} {w w' : World σ}

theorem Leads.step (hl : j.Leads tr final v w) (h : j.step tr w = some (j', w')) :
    j'.Leads tr final v w' := by
  obtain ⟨hfate, hahead⟩ := ahead_step hl.fate h
  refine ⟨?_, hfate, ?_⟩
  · have hstate := hl.state
    rw [hahead, applyAll_append, ← Deed.onState_eq, ← (step_deed h).state] at hstate
    exact hstate
  · intro r hr
    cases jobMove_step h with
    | missed tab time => cases hr
    | began tab time at' t clock ht => cases hl.fate
    | ran p r₀ r₁ w₁ hm =>
      obtain rfl : r₁ = r := Option.some.inj hr
      exact Run.provided_step (hl.provided r₀ rfl) hm
    | concluded p r₀ result hm =>
      rw [conclude_run?] at hr
      cases hr
    | reported session report result =>
      rw [afterReport_run?] at hr
      cases hr
    | cleared session result => cases hr

theorem Leads.of_result {result : Except Failure Yield} (hl : j.Leads tr final v w)
    (hr : j.result? = some result) : result = v ∧ w.state = final := by
  obtain ⟨stage⟩ := j
  cases stage with
  | ended result' =>
    obtain rfl := Option.some.inj hr
    exact ⟨Option.some.inj hl.fate, hl.state⟩
  | _ => cases hr

theorem Leads.moves (hl : j.Leads tr final v w) (hr : j.result? = none) : ∃ m, j.step tr w = some m := by
  obtain ⟨stage⟩ := j
  cases stage with
  | looking tab time => exact ⟨_, rfl⟩
  | running p r =>
    cases hend : r.result? with
    | some result =>
      simp only [Job.step, hend]
      exact ⟨_, rfl⟩
    | none =>
      obtain ⟨m, hm⟩ := Run.step_of_provided (hl.provided r rfl) hend
      simp only [Job.step, hend, hm, Option.map_some]
      exact ⟨_, rfl⟩
  | reporting session report result => exact ⟨_, rfl⟩
  | clearing session result => exact ⟨_, rfl⟩
  | ended result => cases hr

theorem Leads.settle (hl : j.Leads tr final v w) :
    (j.settle tr w).1.result? = some v ∧ (j.settle tr w).2.state = final := by
  fun_induction Job.settle tr j w with
  | case1 j w hn =>
    cases hr : j.result? with
    | some result =>
      obtain ⟨rfl, hstate⟩ := hl.of_result hr
      exact ⟨rfl, hstate⟩
    | none =>
      obtain ⟨m, hm⟩ := hl.moves hr
      cases hn.symm.trans hm
  | case2 j w j' w' hs ih => exact ih (hl.step hs)

theorem Leads.perform (hl : j.Leads tr final v w) :
    (Workspace.perform tr j w).1 = some v ∧ (Workspace.perform tr j w).2.state = final := by
  obtain ⟨hresult, hstate⟩ := hl.settle
  have hperform : Workspace.perform tr j w = (some v, (j.settle tr w).2) := by
    simp only [Workspace.perform, hresult]
  rw [hperform]
  exact ⟨rfl, hstate⟩

theorem Leads.release (hl : j.Leads tr final v w) (number : Nat) :
    j.Leads tr final v (w.release number) := by
  obtain ⟨stage⟩ := j
  cases stage with
  | running p r =>
    refine ⟨hl.state, hl.fate, fun r' hr' => ?_⟩
    exact Run.provided_release (hl.provided r' hr') number
  | _ => exact ⟨hl.state, hl.fate, fun r hr => by cases hr⟩

end

end Job

/-! ## In the background

The task of the selection stands behind all others, and so does what is left of
it. -/

/-- Turns by which only the task at this place goes on, and channels are released. -/
def Own (place : Nat) (turns : List Turn) : Prop :=
  ∀ u ∈ turns, u = .move place ∨ u = .await place ∨ ∃ number, u = .release number

/-- Behind these tasks there is a selection that somebody holds; left alone, it brings the console to this
state and gives this back. -/
structure Workspace.Leads (tr : Transport σ) (final : State) (v : Except Failure Yield) (handle : String)
    (others : List Task) (ws : Workspace σ) : Prop where
  last : ∃ j waiting, ws.tasks = others ++ [⟨some handle, .selection j waiting⟩] ∧ waiting ≠ .givenUp ∧
    j.Leads tr final v ws.world

namespace Workspace

section
variable {final : State} {v : Except Failure Yield} {handle : String} {others : List Task}
  {ws : Workspace σ}

theorem getElem?_last {t : Task} (h : ws.tasks = others ++ [t]) : ws.tasks[others.length]? = some t := by
  rw [h, List.getElem?_append_right (Nat.le_refl _), Nat.sub_self]
  rfl

theorem replace_last {t : Task} (left : List Task) (h : ws.tasks = others ++ [t]) :
    ws.tasks.take others.length ++ left ++ ws.tasks.drop (others.length + 1) = others ++ left := by
  rw [h, List.take_left, List.drop_of_length_le (by simp), List.append_nil]

theorem turn_move_last {t : Task} {left : List Task} {w : World σ} (h : ws.tasks = others ++ [t])
    (hm : t.step tr ws.world = some (left, w)) :
    ws.turn tr (.move others.length) = ⟨w, others ++ left⟩ := by
  simp only [Workspace.turn, moveAt, getElem?_last h, hm, replace_last left h]

theorem turn_await_last {t : Task} (h : ws.tasks = others ++ [t]) :
    ws.turn tr (.await others.length) = ⟨ws.world, others ++ t.await⟩ := by
  simp only [Workspace.turn, awaitAt, getElem?_last h, replace_last t.await h]

theorem Leads.turn (hl : ws.Leads tr final v handle others) {u : Turn}
    (hu : u = .move others.length ∨ u = .await others.length ∨ ∃ number, u = .release number) :
    (ws.turn tr u).Leads tr final v handle others := by
  obtain ⟨j, waiting, htasks, hwaiting, hj⟩ := hl.last
  rcases hu with rfl | rfl | ⟨number, rfl⟩
  · cases hm : Task.step tr ⟨some handle, .selection j waiting⟩ ws.world with
    | none =>
      have hstays : ws.turn tr (.move others.length) = ws := by
        simp only [Workspace.turn, moveAt, getElem?_last htasks, hm]
      rw [hstays]
      exact hl
    | some m =>
      obtain ⟨left, w⟩ := m
      rw [turn_move_last htasks hm]
      rcases Task.step_cases hm with ⟨s, hwork, -⟩ | ⟨j₀, j', hj₀, hstep, rfl⟩
      · cases hwork
      · obtain rfl : j = j₀ := Option.some.inj hj₀
        exact ⟨j', waiting, rfl, hwaiting, hj.step hstep⟩
  · rw [turn_await_last htasks]
    cases waiting with
    | ahead => exact ⟨j, .begun, rfl, by decide, hj⟩
    | begun => exact ⟨j, .begun, rfl, by decide, hj⟩
    | givenUp => exact absurd rfl hwaiting
  · exact ⟨j, waiting, htasks, hwaiting, hj.release number⟩

theorem Leads.play (hl : ws.Leads tr final v handle others) {turns : List Turn}
    (hturns : Own others.length turns) : (ws.play tr turns).Leads tr final v handle others := by
  induction turns generalizing ws with
  | nil => exact hl
  | cons u turns ih =>
    have hrest : Own others.length turns := fun u' hu' => hturns u' (List.mem_cons_of_mem _ hu')
    exact ih (hl.turn (hturns u List.mem_cons_self)) hrest

theorem task?_last {t : Task} (htasks : ws.tasks = others ++ [t]) (ht : t.handle = some handle)
    (hothers : ∀ u ∈ others, u.handle ≠ some handle) : ws.task? handle = some t := by
  have hnone : others.find? (fun u => u.handle == some handle) = none :=
    List.find?_eq_none.mpr fun u hu => by simpa using hothers u hu
  rw [task?, htasks, List.find?_append, hnone, Option.none_or, List.find?_cons_of_pos (by simp [ht])]

/-- Whatever is given back for the handle is this, and the console is in this state then. -/
theorem Leads.join (hl : ws.Leads tr final v handle others)
    (hothers : ∀ u ∈ others, u.handle ≠ some handle) {result : Except Failure Yield}
    (hr : (ws.join handle).1 = some result) : result = v ∧ (ws.join handle).2.world.state = final := by
  obtain ⟨j, waiting, htasks, hwaiting, hj⟩ := hl.last
  have htask := task?_last htasks rfl hothers
  cases hend : j.result? with
  | some result' =>
    have hjoin : ws.join handle = (some result',
        { ws with tasks := ws.tasks.eraseP fun t => t.handle == some handle }) := by
      simp only [Workspace.join, htask, Option.bind_some, Task.result?, hend]
    rw [hjoin] at hr ⊢
    obtain rfl := Option.some.inj hr
    exact hj.of_result hend
  | none =>
    have hjoin : ws.join handle = (none, ws) := by
      simp only [Workspace.join, htask, Option.bind_some, Task.result?, hend]
    rw [hjoin] at hr
    cases hr

theorem exists_settled (tr : Transport σ) (handle : String) (others : List Task) (j : Job) (w : World σ) :
    ∃ n, (⟨w, others ++ [⟨some handle, .selection j .begun⟩]⟩ : Workspace σ).play tr
        (List.replicate n (.move others.length)) =
      ⟨(j.settle tr w).2, others ++ [⟨some handle, .selection (j.settle tr w).1 .begun⟩]⟩ := by
  fun_induction Job.settle tr j w with
  | case1 j w hn => exact ⟨0, rfl⟩
  | case2 j w j' w' hs ih =>
    obtain ⟨n, hn⟩ := ih
    refine ⟨n + 1, ?_⟩
    have hstep : Task.step tr ⟨some handle, .selection j .begun⟩ w =
        some ([⟨some handle, .selection j' .begun⟩], w') := by
      simp only [Task.step, beq_self_eq_true, Bool.true_or, if_true, hs, Option.map_some]
    rw [List.replicate_succ, play_cons, turn_move_last rfl hstep, hn]

theorem Leads.exists_join (hl : ws.Leads tr final v handle others)
    (hothers : ∀ u ∈ others, u.handle ≠ some handle) :
    ∃ turns, Own others.length turns ∧ ((ws.play tr turns).join handle).1 = some v := by
  obtain ⟨j, waiting, htasks, hwaiting, hj⟩ := hl.last
  have hawait : ws.turn tr (.await others.length) =
      ⟨ws.world, others ++ [⟨some handle, .selection j .begun⟩]⟩ := by
    rw [turn_await_last htasks]
    cases waiting with
    | ahead => rfl
    | begun => rfl
    | givenUp => exact absurd rfl hwaiting
  obtain ⟨n, hn⟩ := exists_settled tr handle others j ws.world
  refine ⟨.await others.length :: List.replicate n (.move others.length), ?_, ?_⟩
  · intro u hu
    rcases List.mem_cons.mp hu with rfl | hu
    · exact .inr (.inl rfl)
    · exact .inl (List.eq_of_mem_replicate hu)
  · rw [play_cons, hawait, hn]
    let settled : Workspace σ := ⟨(j.settle tr ws.world).2,
      others ++ [⟨some handle, .selection (j.settle tr ws.world).1 .begun⟩]⟩
    have htask : settled.task? handle = some ⟨some handle, .selection (j.settle tr ws.world).1 .begun⟩ :=
      task?_last rfl rfl hothers
    show (settled.join handle).1 = some v
    simp only [Workspace.join, htask, Option.bind_some, Task.result?, hj.settle.1]

end

end Workspace

/-! ## The selection

The session is cleared after the tab is opened, and what is left of the state is
the tab. -/

/-- The first state with a tab opened, the only one of its pair and in front; nothing else is changed. -/
structure State.Opened (s s' : State) (tab : Tab) : Prop where
  placed : ((∀ t ∈ s.tabs, t.pair ≠ tab.pair) ∧ s'.tabs = s.tabs ++ [tab]) ∨
    ∃ old before after, s.tabs = before ++ old :: after ∧ old.pair = tab.pair ∧
      s'.tabs = before ++ tab :: after
  alone : ∀ t ∈ s'.tabs, t.pair = tab.pair → t = tab
  rest : s' = { s with tabs := s'.tabs, activeTab := some tab.id, view := .scanResults }

theorem opened_createTab {s : State} (hpairs : (s.tabs.map Tab.pair).Nodup) (tab : Tab) :
    s.Opened (s.createTab tab) tab := by
  have hpairs' : ((s.createTab tab).tabs.map Tab.pair).Nodup := pairs_nodup_apply (.tabCreated tab) hpairs
  have hplaced := tabs_createTab s tab
  refine ⟨?_, ?_, rfl⟩
  · rcases hplaced with h | ⟨old, before, after, hs, hold, -, h⟩
    · exact .inl h
    · exact .inr ⟨old, before, after, hs, hold, h⟩
  · have htab : tab ∈ (s.createTab tab).tabs := by
      rcases hplaced with ⟨-, h⟩ | ⟨old, before, after, -, -, -, h⟩
      · rw [h]; exact List.mem_append_right _ List.mem_cons_self
      · rw [h]; exact List.mem_append_right _ List.mem_cons_self
    exact fun t ht hpair => List.inj_on_of_nodup_map hpairs' ht htab hpair

/-- The state in the end of a selection that gets this answer. -/
def State.selected (session : SessionId) (plugin : Plugin) (resource : Resource) (answer : Answer)
    (now : Instant) (s : State) : State :=
  match answer.ending with
  | .completed results =>
    s.createTab (.create plugin resource results (fullLog plugin resource answer) now)
  | .failed line _ =>
    s.withSession ⟨session, plugin, resource, .error,
      Session.startingLine plugin resource :: story false answer.plain ++ [line], 0⟩

/-- What a selection gives back that gets this answer. -/
def Ending.selected (plugin : Plugin) (resource : Resource) (now : Instant) :
    Ending → Except Failure Yield
  | .completed _ => .ok (.tab (Tab.idFor resource.address plugin.name now))
  | .failed _ f => .error f

theorem dropSession_createTab {s : State} {x : Session} (hnew : ∀ y ∈ s.sessions, y.id ≠ x.id)
    (tab : Tab) : ((s.withSession x).createTab tab).dropSession x.id = s.createTab tab := by
  have hold : s.sessions.filter (fun y => y.id != x.id) = s.sessions :=
    List.filter_eq_self.mpr fun y hy => by simpa using hnew y hy
  have hdrop : (s.sessions ++ [x]).filter (fun y => y.id != x.id) = s.sessions := by
    rw [List.filter_append, hold]
    simp
  simp only [State.dropSession, State.createTab, State.withSession, hdrop]

theorem leads_selection (plugin : Plugin) (resource : Resource) (w : World σ)
    (hnew : ∀ y ∈ w.state.sessions, y.id ≠ ⟨w.nextSession⟩) {answer : Answer} {link : σ}
    (hanswer : tr.connect ⟨plugin.name, resource.address⟩ w.link = (answer, link))
    (hq : answer.silences ≤ w.releases.count w.requests) (n : Nat) :
    (Job.ofSelect (.ofPair ⟨w.nextSession⟩ plugin resource)).Leads tr
      (w.state.selected ⟨w.nextSession⟩ plugin resource answer w.clock)
      (answer.ending.selected plugin resource w.clock) { w with nextSession := n } := by
  let start := Session.start ⟨w.nextSession⟩ plugin resource
  have hconnect : (tr.connect (Run.request (.ofPair ⟨w.nextSession⟩ plugin resource)) w.link).1 = answer :=
    congrArg Prod.fst hanswer
  have hran := applyAll_answer (x := start) hnew answer
  refine ⟨?_, ?_, ?_⟩
  · have hahead : (Job.ofSelect (.ofPair ⟨w.nextSession⟩ plugin resource)).ahead tr
          { w with nextSession := n } =
        .executionStarted start :: (answer.tale start.id ++
          Purpose.select.closing start.id w.clock (answer.fate start)) := by
      simp only [Job.ahead, Job.ofSelect, Run.ahead, Run.fate, Run.foretold, Run.ofPair, Option.getD_none]
      rw [show (tr.connect (Run.request { session := start }) w.link).1 = answer from hconnect]
      rfl
    rw [hahead]
    show (w.state.withSession start).applyAll _ = _
    rw [applyAll_append, hran]
    unfold State.selected
    cases he : answer.ending with
    | completed results =>
      have hcompleted : answer.fate start = .ok ⟨start.id, plugin, resource, results,
          fullLog plugin resource answer⟩ := by
        rw [Answer.fate, he]
        rfl
      rw [hcompleted]
      exact dropSession_createTab (x := (Ending.completed results).close
        { start with logs := start.logs ++ story false answer.plain }) hnew _
    | failed line f =>
      have hfailed : answer.fate start = .error f := by
        rw [Answer.fate, he]
        rfl
      rw [hfailed]
      rfl
  · have hfate : (Job.ofSelect (.ofPair ⟨w.nextSession⟩ plugin resource)).fate? tr
          { w with nextSession := n } = some (Purpose.select.yields w.clock (answer.fate start)) := by
      simp only [Job.fate?, Job.ofSelect, Run.fate, Run.foretold, Run.ofPair, Option.getD_none]
      rw [show (tr.connect (Run.request { session := start }) w.link).1 = answer from hconnect]
    rw [hfate, Answer.fate]
    cases answer.ending <;> rfl
  · rintro r hr
    obtain rfl := Option.some.inj hr
    show (tr.connect (Run.request (.ofPair ⟨w.nextSession⟩ plugin resource)) w.link).1.silences ≤ _
    rw [hconnect]
    exact hq

/-- What a selection does whose channel is released as often as it falls silent, from any state that
actions have led to. If the run completes, the selection gives back the tab of the pair, new and in front,
with the results and the log of the run, and all else is as before. If it fails, the selection gives back
the failure, and all is as before but for the session. In the background, as long as nobody else does
anything, a selection gives back the same, if anything, and has left the same state then; and it comes to
this end. -/
theorem select_opens_tab (tr : Transport σ) (plugin : Plugin) (resource : Resource) (w : World σ)
    {actions : List Action} (hstate : w.state = State.applyAll {} actions)
    (hnew : ∀ y ∈ w.state.sessions, y.id ≠ ⟨w.nextSession⟩) {answer : Answer} {link : σ}
    (hanswer : tr.connect ⟨plugin.name, resource.address⟩ w.link = (answer, link))
    (hq : answer.silences ≤ w.releases.count w.requests) :
    let done := Workspace.select tr plugin resource w
    (∀ results, answer.ending = .completed results →
      let tab := Tab.create plugin resource results (fullLog plugin resource answer) w.clock
      done.1 = some (.ok (.tab tab.id)) ∧ w.state.Opened done.2.state tab) ∧
    (∀ line f, answer.ending = .failed line f →
      done.1 = some (.error f) ∧
        done.2.state = w.state.withSession ⟨⟨w.nextSession⟩, plugin, resource, .error,
          Session.startingLine plugin resource :: story false answer.plain ++ [line], 0⟩) ∧
    ∀ (others : List Task) (handle : String), (∀ t ∈ others, t.handle ≠ some handle) →
      ∀ turns, Own others.length turns →
        let ws := (Workspace.begin handle (.selection plugin resource) ⟨w, others⟩).play tr turns
        (∀ result, (ws.join handle).1 = some result →
          some result = done.1 ∧ (ws.join handle).2.world.state = done.2.state) ∧
        ∃ more, Own others.length more ∧ ((ws.play tr more).join handle).1 = done.1 := by
  intro done
  have hleads := leads_selection plugin resource w hnew hanswer hq (w.nextSession + 1)
  obtain ⟨hgives, hleaves⟩ := hleads.perform
  replace hgives : done.1 = some (answer.ending.selected plugin resource w.clock) := hgives
  replace hleaves : done.2.state = w.state.selected ⟨w.nextSession⟩ plugin resource answer w.clock :=
    hleaves
  refine ⟨?_, ?_, ?_⟩
  · intro results he tab
    rw [he] at hgives
    simp only [State.selected, he] at hleaves
    refine ⟨hgives, ?_⟩
    rw [hleaves]
    refine opened_createTab ?_ tab
    rw [hstate]
    exact pairs_nodup_applyAll actions
  · intro line f he
    rw [he] at hgives
    simp only [State.selected, he] at hleaves
    exact ⟨hgives, hleaves⟩
  · intro others handle hothers turns hturns ws
    have hbegun : (Workspace.begin handle (.selection plugin resource) ⟨w, others⟩).Leads tr
        (w.state.selected ⟨w.nextSession⟩ plugin resource answer w.clock)
        (answer.ending.selected plugin resource w.clock) handle others :=
      ⟨_, .ahead, rfl, by decide, hleads⟩
    have hplayed : ws.Leads tr _ _ handle others := hbegun.play hturns
    rw [hgives, hleaves]
    refine ⟨fun result hr => ?_, hplayed.exists_join hothers⟩
    obtain ⟨rfl, hend⟩ := hplayed.join hothers hr
    exact ⟨rfl, hend⟩

/-- The channel falls silent once and is released, and the run completes. -/
theorem select_opens_tab_released :
    let plugin : Plugin := ⟨⟨"1"⟩, "disk", "", none⟩
    let resource : Resource := ⟨"::1", "web", none, none, .synthetic 80⟩
    let answer : Answer := .opened [.event (.status "Connecting"), .silence, .event (.complete [])]
    let w : World (List Answer) := { clock := ⟨0⟩, link := [answer], releases := [0] }
    let tab := Tab.create plugin resource [] (fullLog plugin resource answer) ⟨0⟩
    let done := Workspace.select prepared plugin resource w
    done.1 = some (.ok (.tab tab.id)) ∧ w.state.Opened done.2.state tab ∧
      ∃ turns, Own 0 turns ∧ ∃ ws,
        (Workspace.begin "x" (.selection plugin resource) ⟨w, []⟩).play prepared turns = ws ∧
          (ws.join "x").1 = done.1 ∧ (ws.join "x").2.world.state = done.2.state := by
  intro plugin resource answer w tab done
  have hstate : w.state = State.applyAll {} [] := rfl
  obtain ⟨hcompleted, -, hbackground⟩ := select_opens_tab prepared plugin resource w hstate
    (fun y hy => by cases hy) (show _ = (answer, []) from rfl) (by decide)
  obtain ⟨hgives, hopened⟩ := hcompleted [] rfl
  have halone := hbackground [] "x" fun t ht => by cases ht
  obtain ⟨turns, hown, hjoined⟩ := (halone [] fun u hu => by cases hu).2
  have hsame := (halone turns hown).1 _ (hjoined.trans hgives)
  exact ⟨hgives, hopened, turns, hown, _, rfl, hjoined, hsame.2⟩

end ScanConsole
