import ScanConsole.Proofs.Story

/-!
# What a refresh does

A refresh starts a session, opens one channel and stamps its tab with the time
that it took when it began, whatever comes out of the channel: with new results
if the run completes, and else with the session of the failed run.
`Job.settle_refresh` says so of every answer, and of every console, the sessions
of which need not be in order.

    the tabs after it = the tabs before it, with `refreshedBy session time answer`
                        of the tab in its place

What `run_eq_story` says of a run needs a session identifier that is new. Here
only the outcome of the run matters and what it leaves alone, and both hold
without it. The outcome is settled as soon as the channel is open:
`Run.foretold` reads it off the items still to come, and no move changes it
(`Run.step_heard`).

The channel has to end at some time. One that falls silent keeps its run waiting
for ever, and no refresh of it reports anything.
-/

namespace ScanConsole

variable {σ : Type} {tr : Transport σ} {w w' : World σ}

/-! ## What a run with a channel leaves alone

Of the state only the sessions change, and no channel is opened
(`World.Heard`). -/

/-- The request of an outlook, if a channel is opened. -/
def Outlook.request? : Outlook → Option ExecutionRequest
  | .opening request => some request
  | .asking _ _ => none

/-- The requests with which channels have been opened, in their order. -/
def World.opened (w : World σ) : List ExecutionRequest :=
  w.glimpses.filterMap fun g => g.outlook.request?

/-- Since `w` only sessions have changed, and no channel has been opened. -/
def World.Heard (w w' : World σ) : Prop :=
  ∃ xs seen, (∀ g ∈ seen, g.outlook.request? = none) ∧
    w' = { w with state := { w.state with sessions := xs }, glimpses := w.glimpses ++ seen }

theorem World.Heard.refl (w : World σ) : w.Heard w :=
  ⟨w.state.sessions, [], fun _ h => absurd h List.not_mem_nil, by simp⟩

theorem World.Heard.trans {w₁ w₂ w₃ : World σ} (h : w₁.Heard w₂) (h' : w₂.Heard w₃) : w₁.Heard w₃ := by
  obtain ⟨xs, seen, hseen, rfl⟩ := h
  obtain ⟨ys, more, hmore, rfl⟩ := h'
  refine ⟨ys, seen ++ more, fun g hg => ?_, by simp [List.append_assoc]⟩
  rcases List.mem_append.mp hg with hg | hg
  · exact hseen g hg
  · exact hmore g hg

theorem heard_onSession (w : World σ) (id : SessionId) (f : Session → Session) :
    w.Heard { w with state := w.state.onSession id f } :=
  ⟨(w.state.onSession id f).sessions, [], fun _ h => absurd h List.not_mem_nil,
    by simp [State.onSession]⟩

theorem heard_ask (w : World σ) (number place : Nat) : w.Heard (w.look (.asking number place)) := by
  refine ⟨w.state.sessions, _, fun g hg => ?_, rfl⟩
  rw [List.mem_singleton.mp hg]
  rfl

theorem World.Heard.opened (h : w.Heard w') : w'.opened = w.opened := by
  obtain ⟨xs, seen, hseen, rfl⟩ := h
  have hnone : seen.filterMap (fun g => g.outlook.request?) = [] :=
    List.filterMap_eq_nil_iff.mpr hseen
  simp [World.opened, hnone]

/-! ## What comes of a run with a channel

A move of a run that has been answered changes sessions only, and not what will
come of the run. -/

namespace Run

/-- The run has been answered, and its channel will not fall silent. -/
def Listens (r : Run) : Prop :=
  match r.stage with
  | .ready | .starting | .opening => False
  | .listening c _ _ | .logging _ c _ _ => c.silent = false ∧ .silence ∉ c.items
  | _ => True

/-- What a session gives back that has these lines, if these items are still to come. -/
def verdict (s : Session) (t : Transcript) (logs : List String) (items : List Item) :
    Except Failure Outcome :=
  (endingOf items).result
    ((endingOf items).close { s with logs := logs ++ story t.screen.isSome (plainItems items) })

/-- What a run that has been answered will give back. -/
def foretold (r : Run) : Option (Except Failure Outcome) :=
  match r.stage with
  | .ready | .starting | .opening => none
  | .listening c t logs | .logging _ c t logs => some (verdict r.session t logs c.items)
  | .failing _ f => some (.error f)
  | .completing _ o | .finishing o => some (.ok o)
  | .ended result => some result

theorem foretold_onAsk (s : Session) {c : Channel} (t : Transcript) (logs : List String)
    (hsilent : c.silent = false) (hq : .silence ∉ c.items) :
    let r' : Run := ⟨s, Run.onAsk ⟨s, .listening c t logs⟩ c t logs⟩
    r'.Listens ∧ r'.foretold = some (verdict s t logs c.items) := by
  obtain ⟨number, asked, items, silent⟩ := c
  subst hsilent
  cases items with
  | nil => exact ⟨trivial, rfl⟩
  | cons i rest =>
    have hq' : .silence ∉ rest := fun hmem => hq (List.mem_cons_of_mem _ hmem)
    cases hi : i.ending? with
    | some e =>
      have hverdict : verdict s t logs (i :: rest) = e.result (e.close { s with logs := logs }) := by
        unfold verdict
        rw [endingOf_cons_of_ending hi, plainItems_cons_of_ending hi, story, List.append_nil]
      intro r'
      have hr' : r' = ⟨s, e.stage s logs⟩ := by
        simp only [r', onAsk_of_ending _ _ _ _ _ hi]
      rw [hr', hverdict]
      cases e with
      | completed results => exact ⟨trivial, rfl⟩
      | failed line f => exact ⟨trivial, rfl⟩
    | none =>
      cases i with
      | silence => exact absurd List.mem_cons_self hq
      | failure f => cases hi
      | event e =>
        have hverdict : verdict s t logs (.event e :: rest) =
            verdict s (t.after e) (logs ++ e.lines t.screen.isSome) rest := by
          unfold verdict
          rw [endingOf_cons_of_plain hi, plainItems_cons_of_plain hi, Transcript.begun_after]
          simp [story, Item.lines, List.append_assoc]
        intro r'
        simp only [r', onAsk_of_plain _ _ _ _ _ hi, hverdict]
        cases hl : e.lines t.screen.isSome with
        | nil =>
          rw [List.append_nil]
          exact ⟨⟨rfl, hq'⟩, rfl⟩
        | cons line lines => exact ⟨⟨rfl, hq'⟩, rfl⟩

theorem step_heard {r r' : Run} (hr : r.Listens) (h : r.step tr w = some (r', w')) :
    r'.Listens ∧ r'.foretold = r.foretold ∧ r'.session = r.session ∧ w.Heard w' := by
  obtain ⟨s, stage⟩ := r
  cases stage with
  | ready => exact hr.elim
  | starting => exact hr.elim
  | opening => exact hr.elim
  | listening c t logs =>
    obtain ⟨hsilent, hq⟩ := hr
    simp only [step, hsilent, Bool.false_eq_true, if_false, Option.some.injEq, Prod.mk.injEq] at h
    obtain ⟨rfl, rfl⟩ := h
    obtain ⟨hlistens, hforetold⟩ := foretold_onAsk s t logs hsilent hq
    exact ⟨hlistens, hforetold, rfl, heard_ask w c.number c.asked⟩
  | logging lines c t logs =>
    obtain ⟨rfl, rfl⟩ := Prod.mk.inj (Option.some.inj h)
    exact ⟨hr, rfl, rfl, heard_onSession w _ _⟩
  | failing lines f =>
    obtain ⟨rfl, rfl⟩ := Prod.mk.inj (Option.some.inj h)
    exact ⟨trivial, rfl, rfl, heard_onSession w _ _⟩
  | completing lines o =>
    obtain ⟨rfl, rfl⟩ := Prod.mk.inj (Option.some.inj h)
    exact ⟨trivial, rfl, rfl, heard_onSession w _ _⟩
  | finishing o =>
    obtain ⟨rfl, rfl⟩ := Prod.mk.inj (Option.some.inj h)
    exact ⟨trivial, rfl, rfl, heard_onSession w _ _⟩
  | ended result => cases h

theorem settle_heard (tr : Transport σ) {r : Run} (hr : r.Listens) (w : World σ) :
    (r.settle tr w).1.result? = r.foretold ∧ (r.settle tr w).1.session = r.session ∧
      w.Heard (r.settle tr w).2 := by
  fun_induction Run.settle tr r w with
  | case1 r w hn =>
    refine ⟨?_, rfl, .refl w⟩
    obtain ⟨s, stage⟩ := r
    cases stage with
    | ended result => rfl
    | ready => exact hr.elim
    | starting => exact hr.elim
    | opening => exact hr.elim
    | listening c t logs => simp [step, hr.1] at hn
    | _ => cases hn
  | case2 r w r' w' hs ih =>
    obtain ⟨hlistens, hforetold, hsession, hheard⟩ := step_heard hr hs
    obtain ⟨hresult, hsession', hheard'⟩ := ih hlistens
    exact ⟨hresult.trans hforetold, hsession'.trans hsession, hheard.trans hheard'⟩

theorem foretold_onAnswer (s : Session) (number : Nat) {answer : Answer}
    (hq : answer.neverSilent = true) :
    let r : Run := ⟨s, onAnswer ⟨s, .opening⟩ number answer⟩
    r.Listens ∧ r.foretold = some (answer.ending.result
      (answer.ending.close { s with logs := s.logs ++ story false answer.plain })) := by
  cases answer with
  | refused f => exact ⟨trivial, rfl⟩
  | opened items =>
    have hq' : .silence ∉ items := by simpa [Answer.neverSilent] using hq
    exact ⟨⟨rfl, hq'⟩, rfl⟩

end Run

/-! ## One refresh

The session of the last failure is taken away when the report comes, which is no
matter of the tabs. -/

/-- The request of a refresh of this tab. -/
def Tab.request (t : Tab) : ExecutionRequest := ⟨t.plugin.name, t.resource.address⟩

/-- A tab behind a refresh that took this time, ran this session and got this answer. -/
def Tab.refreshedBy (t : Tab) (session : SessionId) (time : Instant) (answer : Answer) : Tab :=
  match answer.ending with
  | .completed results =>
    { t with
      results := results
      logs := Session.startingLine t.plugin t.resource :: story false answer.plain ++
        [Transcript.completionLine]
      refreshedAt := time
      failedSession := none }
  | .failed _ _ => { t with refreshedAt := time, failedSession := some session }

def Ending.refreshed : Ending → Except Failure Yield
  | .completed _ => .ok (.refreshed true)
  | .failed _ f => .error f

theorem updateFirst_congr {α : Type} {p : α → Bool} {f g : α → α} {xs : List α} {x : α}
    (h : xs.find? p = some x) (hx : f x = g x) : updateFirst p f xs = updateFirst p g xs := by
  induction xs with
  | nil => rfl
  | cons y xs ih =>
    unfold updateFirst
    by_cases hy : p y = true
    · obtain rfl : y = x := by simpa [hy] using h
      simp [hy, hx]
    · simp [hy, ih (by simpa [hy] using h)]

theorem tabs_dropFailed (failed : Option SessionId) (s : State) : (s.dropFailed failed).tabs = s.tabs := by
  cases failed <;> rfl

theorem tabs_refreshTab {s : State} {id : String} {t : Tab} (h : s.tab? id = some t)
    (results : List Screen) (logs : List String) (time : Instant) :
    (s.refreshTab id results logs time).tabs = (s.onTab id fun u =>
      { u with results := results, logs := logs, refreshedAt := time, failedSession := none }).tabs := by
  simp only [State.refreshTab, h, tabs_dropFailed]

theorem tabs_failRefresh {s : State} {id : String} {t : Tab} (h : s.tab? id = some t)
    (session : SessionId) (time : Instant) :
    (s.failRefresh id session time).tabs =
      (s.onTab id fun u => { u with refreshedAt := time, failedSession := some session }).tabs := by
  simp only [State.failRefresh, h, tabs_dropFailed]

namespace Job

theorem settle_refresh_ok {r : Run} {o : Outcome} (h : r.result? = some (.ok o)) (id : String)
    (time : Instant) (w : World σ) :
    Job.settle tr ⟨.running (.refresh id time) r⟩ w = (⟨.ended (.ok (.refreshed true))⟩,
      (w.dispatch (.tabRefreshed id o.results o.logs time)).dispatch
        (.executionCleared r.session.id)) := by
  have hconclude : Job.step tr ⟨.running (.refresh id time) r⟩ w = some (⟨.reporting r.session.id
      (.refreshed id o.results o.logs time) (.ok (.refreshed true))⟩, w) := by
    simp only [Job.step, h, conclude]
  rw [settle_of_step hconclude, settle_of_step rfl]
  exact (settle_of_step rfl).trans (settle_of_none rfl)

theorem settle_refresh_error {r : Run} {f : Failure} (h : r.result? = some (.error f)) (id : String)
    (time : Instant) (w : World σ) :
    Job.settle tr ⟨.running (.refresh id time) r⟩ w =
      (⟨.ended (.error f)⟩, w.dispatch (.tabRefreshFailed id r.session.id time)) := by
  have hconclude : Job.step tr ⟨.running (.refresh id time) r⟩ w = some (⟨.reporting r.session.id
      (.refreshFailed id time) (.error f)⟩, w) := by
    simp only [Job.step, h, conclude]
  rw [settle_of_step hconclude, settle_of_step rfl]
  exact settle_of_none rfl

/-- A refresh of an open tab opens one channel and stamps the tab, and tells whether it succeeded. -/
theorem settle_refresh (tr : Transport σ) {id : String} {t : Tab} (ht : w.state.tab? id = some t)
    {answer : Answer} {link : σ} (hanswer : tr.connect t.request w.link = (answer, link))
    (hq : answer.neverSilent = true) (time : Instant) :
    ∃ w', Job.settle tr (.ofRefresh id (some time)) w = (⟨.ended answer.ending.refreshed⟩, w') ∧
      w'.state.tabs = (w.state.onTab id fun u => u.refreshedBy ⟨w.nextSession⟩ time answer).tabs ∧
      w'.opened = w.opened ++ [t.request] ∧ w'.link = link ∧ w'.nextSession = w.nextSession + 1 := by
  let start := Session.start ⟨w.nextSession⟩ t.plugin t.resource
  let w₁ : World σ := { w with nextSession := w.nextSession + 1 }
  let w₂ : World σ := World.showing start [⟨.opening t.request, w.state.sessions ++ [start]⟩]
    { w₁ with requests := w.requests + 1, link := link }
  let r : Run := ⟨start, Run.onAnswer ⟨start, .opening⟩ w.requests answer⟩
  have hbegin : Job.step tr (.ofRefresh id (some time)) w = some
      (⟨.running (.refresh id time) (.ofPair ⟨w.nextSession⟩ t.plugin t.resource)⟩, w₁) := by
    simp only [Job.step, Job.ofRefresh, begin, ht]
    rfl
  have hopened : Run.settle tr (.ofPair ⟨w.nextSession⟩ t.plugin t.resource) w₁ = r.settle tr w₂ :=
    Run.settle_ofPair _ hanswer
  obtain ⟨hlistens, hforetold⟩ := Run.foretold_onAnswer start w.requests hq
  obtain ⟨hresult, hsession, hheard⟩ := Run.settle_heard tr hlistens w₂
  have hopened₂ : w₂.opened = w.opened ++ [t.request] := by
    simp [w₂, w₁, World.opened, World.showing, Outlook.request?]
  rw [settle_of_step hbegin, settle_running, hopened]
  rw [hforetold] at hresult
  have hopened₃ := hheard.opened.trans hopened₂
  obtain ⟨xs, seen, -, hw₃⟩ := hheard
  have ht₃ : (r.settle tr w₂).2.state.tab? id = some t := by rw [hw₃]; exact ht
  cases he : answer.ending with
  | completed results =>
    rw [he] at hresult
    rw [settle_refresh_ok hresult]
    refine ⟨_, rfl, ?_, hopened₃, by rw [hw₃]; rfl, by rw [hw₃]; rfl⟩
    refine (tabs_refreshTab ht₃ _ _ _).trans ?_
    rw [hw₃]
    exact updateFirst_congr ht (by simp only [Tab.refreshedBy, he]; rfl)
  | failed line f =>
    rw [he] at hresult
    rw [settle_refresh_error hresult]
    refine ⟨_, rfl, ?_, hopened₃, by rw [hw₃]; rfl, by rw [hw₃]; rfl⟩
    refine (tabs_failRefresh ht₃ _ _).trans ?_
    rw [hsession, hw₃]
    exact updateFirst_congr ht (by simp only [Tab.refreshedBy, he]; rfl)

end Job

end ScanConsole
