import ScanConsole.Proofs.ActiveTab
import ScanConsole.Proofs.Failures
import ScanConsole.Proofs.RefreshCourse

/-!
# What a refresh does to its tab

Between the moment when a refresh finds its tab and the one when it reports,
others may pin the tab, close it, replace it or refresh it. Where identifiers
are used once, the tab with this identifier is still the one that was found, or
there is none (`State.Listed.keeps_applyAll`). So the report changes the results
and the log of that tab and nothing else, or nothing at all, and what a refresh
tells of its session touches no tab:

    tabs after the report = tabs.map (x.renewed answer)

`refresh_replaces_results` puts this together with the course of the refresh:
which channel it opens, what it tells in which order, and what each of its
actions does when it comes. Once the tab was gone at any time since, none of
them changes a tab.

The one assumption is about identifiers: none is used for two tabs in the course
of the turns. Tabs are found by their identifiers, so a tab that is opened under
the one of a closed tab would get the results of the refresh of that.
Identifiers are made of a time, and the clock goes on between two openings.

In the beginning the console is at rest. The turns may be any, and the refresh
may be that of a task or of a check.
-/

namespace ScanConsole

variable {σ : Type} {tr : Transport σ}

/-! ## What actions leave to a tab

A tab keeps what it was opened with: its card, plugin and resource. -/

/-- The tab has kept what it was opened with. -/
structure Tab.Keeps (t u : Tab) : Prop where
  card : u.card = t.card
  plugin : u.plugin = t.plugin
  resource : u.resource = t.resource

theorem Tab.Keeps.edit {t u : Tab} (h : t.Keeps u) (a : Action) : t.Keeps (a.edit u) := by
  have onTab {id : String} {v : Tab} (hv : u.Keeps v) : t.Keeps (if u.id == id then v else u) := by
    split
    · exact ⟨hv.card.trans h.card, hv.plugin.trans h.plugin, hv.resource.trans h.resource⟩
    · exact h
  cases a with
  | tabRefreshed id results logs time => refine onTab ?_; exact ⟨rfl, rfl, rfl⟩
  | tabRefreshFailed id session time => refine onTab ?_; exact ⟨rfl, rfl, rfl⟩
  | tabPinned id pinned => refine onTab ?_; exact ⟨rfl, rfl, rfl⟩
  | refreshIntervalSet id interval time => refine onTab ?_; exact ⟨rfl, rfl, rfl⟩
  | _ => exact h

theorem apply_of_drives {a : Action} {session : SessionId} (h : a.drives? = some session) (s : State) :
    (s.apply a).tabs = s.tabs ∧ (s.apply a).activeTab = s.activeTab ∧ (s.apply a).view = s.view := by
  cases a <;> first
    | exact ⟨rfl, rfl, rfl⟩
    | cases h

/-! ## What a refresh does

What is told of the session leaves the tabs alone. The report makes the log from
the tab as it was found; the tab that gets it has the same plugin and resource,
so it is the log of that tab too. -/

namespace Refresh

/-- What the report of the refresh makes of a tab. -/
def renewed (x : Refresh) (answer : Answer) (u : Tab) : Tab :=
  if u.id = x.tab.id then u.refreshedBy x.session x.time answer else u

/-- What the refresh has shown: its channel, and the actions that it has told. -/
structure Course (x : Refresh) (answer : Answer) (done : List Deed) (given ended : Prop) : Prop where
  channel : openedIn done <+: [(x.tab.request, answer)]
  /-- It has told the first of its actions; if it was given up, its session may have been cleared then. -/
  told : toldIn done <+: x.tale answer ∨ given ∧
    ∃ part, part <+: x.tale answer ∧ toldIn done = part ++ [.executionCleared x.session]
  /-- Unless it was given up it does not end before it has told all of them. -/
  whole : ¬ given → ended → openedIn done = [(x.tab.request, answer)] ∧ toldIn done = x.tale answer

/-- What telling this action does to the console. -/
structure Does (x : Refresh) (answer : Answer) (done : List Deed) (a : Action) (s s' : State) :
    Prop where
  front : s'.activeTab = s.activeTab ∧ s'.view = s.view
  /-- The action is about the session, or it is the report. -/
  tabs : a.drives? = some x.session ∧ s'.tabs = s.tabs ∨
    a = x.report answer ∧ openedIn done = [(x.tab.request, answer)] ∧ s'.tabs = s.tabs.map (x.renewed answer)
  /-- No identifier, label, pair, time of creation, pin or interval changes, nor their order. -/
  kept : (s'.tabs.map fun u => (u.card, u.pinned, u.interval)) =
    s.tabs.map fun u => (u.card, u.pinned, u.interval)
  session : a = .executionCleared x.session → s'.session? x.session = none

section
variable {x : Refresh} {answer : Answer}

theorem renewed_keeps (x : Refresh) (answer : Answer) (u : Tab) :
    (x.renewed answer u).card = u.card ∧ (x.renewed answer u).pinned = u.pinned ∧
      (x.renewed answer u).interval = u.interval := by
  unfold renewed Tab.refreshedBy
  split
  · cases answer.ending <;> exact ⟨rfl, rfl, rfl⟩
  · exact ⟨rfl, rfl, rfl⟩

theorem Does.of_drives {done : List Deed} {a : Action} (h : a.drives? = some x.session) (s : State) :
    x.Does answer done a s (s.apply a) := by
  obtain ⟨htabs, hactive, hview⟩ := apply_of_drives h s
  refine ⟨⟨hactive, hview⟩, .inl ⟨h, htabs⟩, by rw [htabs], ?_⟩
  rintro rfl
  exact session?_dropSession s x.session

theorem edit_report {u : Tab} (h : u.id = x.tab.id → x.tab.Keeps u) :
    (x.report answer).edit u = x.renewed answer u := by
  by_cases hid : u.id = x.tab.id
  · obtain ⟨-, hplugin, hresource⟩ := h hid
    cases he : answer.ending with
    | completed results =>
      simp [report, renewed, Action.edit, Tab.refreshedBy, fullLog, he, hid, hplugin, hresource]
    | failed line f => simp [report, renewed, Action.edit, Tab.refreshedBy, he, hid]
  · cases he : answer.ending with
    | completed results => simp [report, renewed, Action.edit, he, hid]
    | failed line f => simp [report, renewed, Action.edit, he, hid]

theorem tabs_report (answer : Answer) {s : State} (hd : (s.tabs.map (·.id)).Nodup)
    (hs : ∀ u ∈ s.tabs, u.id = x.tab.id → x.tab.Keeps u) :
    (s.apply (x.report answer)).tabs = s.tabs.map (x.renewed answer) := by
  have hstays : (x.report answer).rearranges = false := by
    unfold report
    cases answer.ending <;> rfl
  rw [tabs_apply hd hstays]
  exact List.map_congr_left fun u hu => edit_report (hs u hu)

theorem front_report (s : State) : (s.apply (x.report answer)).activeTab = s.activeTab ∧
    (s.apply (x.report answer)).view = s.view := by
  refine front_apply ?_ s
  unfold report
  cases answer.ending <;> rfl

theorem report_ne_cleared (x : Refresh) (answer : Answer) (session : SessionId) :
    x.report answer ≠ .executionCleared session := by
  unfold report
  cases answer.ending <;> exact fun h => by cases h

theorem Does.of_report {done : List Deed} (hopened : openedIn done = [(x.tab.request, answer)]) {s : State}
    (hd : (s.tabs.map (·.id)).Nodup) (hs : ∀ u ∈ s.tabs, u.id = x.tab.id → x.tab.Keeps u) :
    x.Does answer done (x.report answer) s (s.apply (x.report answer)) := by
  have htabs := tabs_report answer hd hs
  refine ⟨front_report s, .inr ⟨rfl, hopened, htabs⟩, ?_, ?_⟩
  · rw [htabs, List.map_map]
    refine List.map_congr_left fun u _ => ?_
    obtain ⟨hcard, hpinned, hinterval⟩ := x.renewed_keeps answer u
    simp only [Function.comp_apply, hcard, hpinned, hinterval]
  · intro hcleared
    exact absurd hcleared (report_ne_cleared x answer _)

theorem map_renewed {ts : List Tab} (h : ∀ u ∈ ts, u.id ≠ x.tab.id) : ts.map (x.renewed answer) = ts := by
  refine (List.map_congr_left fun u hu => ?_).trans (List.map_id _)
  exact if_neg (h u hu)

variable {done : List Deed} {given : Prop} {ws : Workspace σ}

theorem Stands.course (hx : x.Stands tr done given ws) :
    ∃ answer, x.Course answer done given (∀ t ∈ ws.tasks, t.session? ≠ some x.session) := by
  cases hx with
  | @working handle j hmem hat =>
    obtain ⟨answer, hopened, htold⟩ := hat.told_prefix ws.world
    exact ⟨answer, hopened, .inl htold, fun _ hover => absurd hat.session? (hover _ hmem)⟩
  | @finished answer hk hopened htold =>
    refine ⟨answer, hopened ▸ List.prefix_refl _, .inl (htold ▸ List.prefix_refl _), ?_⟩
    exact fun _ _ => ⟨hopened, htold⟩
  | @givenUp answer hg hk hopened htold =>
    exact ⟨answer, hopened, .inl htold, fun hn => absurd hg hn⟩
  | @cleared answer part hg hk hopened hpart htold =>
    exact ⟨answer, hopened, .inr ⟨hg, part, hpart, htold⟩, fun hn => absurd hg hn⟩

end

end Refresh

/-! ## Refreshes among other things

A tab that was found is still the one that was found, and a tab that is gone
stays gone. -/

namespace Shift

variable {s : Shift σ} {first : List String} {told : List Action} {turns : List ShiftTurn}

theorem listed_play (h : s.state.Listed first told)
    (hnew : (openedIds first (told ++ s.tolds tr turns)).Nodup) :
    (s.play tr turns).state.Listed first (told ++ s.tolds tr turns) := by
  rw [state_play]
  exact h.applyAll hnew

/-- A tab that was found is still the one that was found. -/
theorem keeps_play (h : s.state.Listed first told)
    (hnew : (openedIds first (told ++ s.tolds tr turns)).Nodup) {t : Tab} (ht : t ∈ s.state.tabs) :
    ∀ u ∈ (s.play tr turns).state.tabs, u.id = t.id → t.Keeps u := by
  rw [state_play]
  refine h.keeps_applyAll hnew (h.opened t ht) (fun a u hu => hu.edit a) ?_
  intro u hu hid
  rw [List.inj_on_of_nodup_map h.distinct hu ht hid]
  exact ⟨rfl, rfl, rfl⟩

/-- A tab that is gone stays gone. -/
theorem gone_play (h : s.state.Listed first told)
    (hnew : (openedIds first (told ++ s.tolds tr turns)).Nodup) {id : String}
    (hid : id ∈ openedIds first told) (hgone : ∀ u ∈ s.state.tabs, u.id ≠ id) :
    ∀ u ∈ (s.play tr turns).state.tabs, u.id ≠ id := by
  rw [state_play]
  exact h.keeps_applyAll hnew hid (fun _ _ hu => hu) hgone

end Shift

open Shift

/-- A refresh that has found its tab (`Refresh.job_of_found`) goes on, and other things happen in between, by
which no tab gets an identifier that was used before. It opens one channel, and unless it is given up it
tells the start of its session, what its run tells of the answer, its report, and behind a completed run
that its session is cleared. As long as there is a tab with this identifier, it is the one that was found.
Whatever the refresh tells, the tab and the view in front stay; only the report changes a tab, the one with
this identifier: a completed run replaces its results, its log, its stamp and its failed session, and a
failed one the last two. Once there is no such tab, no tab changes. -/
theorem refresh_replaces_results (tr : Transport σ) {s : Shift σ} (hi : s.workspace.Idle)
    (hc : s.checks = []) (before after : List ShiftTurn)
    (hnew : (openedIds (s.state.tabs.map (·.id)) (s.tolds tr (before ++ after))).Nodup) (x : Refresh)
    (hfound : x.tab ∈ (s.play tr before).state.tabs) {handle : Option String}
    (hbegun : ⟨handle, .job (x.job .ready)⟩ ∈ (s.play tr before).joined.tasks) :
    let start := s.play tr before
    let now := start.play tr after
    let done := deedsUnder x.session (start.deeds tr after)
    ∃ answer,
      x.Course answer done (start.GivenUp tr x.session after)
        (∀ t ∈ now.joined.tasks, t.session? ≠ some x.session) ∧
      (∀ u ∈ now.state.tabs, u.id = x.tab.id → x.tab.Keeps u) ∧
      ∀ v a, now.deed? tr v = some (x.session, .tells a) →
        x.Does answer done a now.state (now.turn tr v).state ∧
        ((∃ mid rest, after = mid ++ rest ∧ ∀ u ∈ (start.play tr mid).state.tabs, u.id ≠ x.tab.id) →
          (now.turn tr v).state.tabs = now.state.tabs) := by
  intro start now done
  let first := s.state.tabs.map (·.id)
  rw [tolds_append] at hnew
  have hfirst : s.state.Listed first [] := by
    refine ⟨(List.nodup_append.mp hnew).1, fun t ht => ?_⟩
    exact List.mem_append_left _ (List.mem_map_of_mem ht)
  have hstart : start.state.Listed first (s.tolds tr before) :=
    listed_play hfirst (nodup_openedIds_left hnew)
  have hnow : now.state.Listed first (s.tolds tr before ++ start.tolds tr after) :=
    listed_play hstart hnew
  have hsame : ∀ u ∈ now.state.tabs, u.id = x.tab.id → x.tab.Keeps u := keeps_play hstart hnew hfound
  have ho : start.joined.Owned := Shift.owned_play tr (hi.owned.alike (alike_joined hc)) before
  have hstands : x.Stands tr done (start.GivenUp tr x.session after) now.joined := by
    have hready : x.Stands tr [] (start.GivenUp tr x.session after) start.joined := .working hbegun .ready
    exact stands_play ho hready id
  obtain ⟨answer, hcourse⟩ := hstands.course
  refine ⟨answer, hcourse, hsame, ?_⟩
  intro v a hdeed
  have hstate : (now.turn tr v).state = now.state.apply a := state_of_deed hdeed
  have hdoes : x.Does answer done a now.state (now.turn tr v).state := by
    rw [hstate]
    rcases reports_turn (Shift.owned_play tr ho after) hstands hdeed with hdrives | ⟨answer', hopened, rfl⟩
    · exact .of_drives hdrives now.state
    · -- The channel has been opened, and so this is the answer of the course.
      have hchannel := hcourse.channel
      rw [hopened] at hchannel
      obtain rfl : answer' = answer := by simpa using hchannel
      exact .of_report hopened hnow.distinct hsame
  refine ⟨hdoes, ?_⟩
  rintro ⟨mid, rest, hafter, hgone⟩
  rcases hdoes.tabs with ⟨-, htabs⟩ | ⟨-, -, htabs⟩
  · exact htabs
  · rw [htabs]
    refine Refresh.map_renewed ?_
    subst hafter
    rw [tolds_append, ← List.append_assoc] at hnew
    have hmid : (start.play tr mid).state.Listed first (s.tolds tr before ++ start.tolds tr mid) :=
      listed_play hstart (nodup_openedIds_left hnew)
    have hid : x.tab.id ∈ openedIds first (s.tolds tr before ++ start.tolds tr mid) :=
      mem_openedIds_append (hstart.opened x.tab hfound)
    have hlost := gone_play hmid hnew hid hgone
    rwa [← play_append] at hlost

/-- The tab is pinned while it is refreshed, and stays pinned. -/
theorem refresh_replaces_results_pinned :
    let tr : Transport Unit := ⟨fun _ _ => (.opened [.event (.complete [])], ())⟩
    let tab : Tab :=
      { Tab.create ⟨⟨"1"⟩, "disk", "", none⟩ ⟨"::1", "web", none, none, .synthetic 80⟩ [] ["old"] ⟨0⟩ with
        id := "a" }
    let s : Shift Unit :=
      { clock := ⟨5⟩, workspace := ⟨{ clock := ⟨0⟩, link := (), state := { tabs := [tab] } }, []⟩ }
    let before : List ShiftTurn := [.work (.begin "x" (.refresh "a" none)), .work (.move 0)]
    let after : List ShiftTurn :=
      .work (.tell (.tabPinned "a" true)) :: List.replicate 7 (.work (.move 0))
    let x : Refresh := ⟨tab, ⟨1⟩, ⟨5⟩⟩
    let start := s.play tr before
    let now := start.play tr after
    let done := deedsUnder x.session (start.deeds tr after)
    let log := fullLog tab.plugin tab.resource (.opened [.event (.complete [])])
    let a : Action := .tabRefreshed "a" [] log ⟨5⟩
    s.workspace.Idle ∧ s.checks = [] ∧
      (openedIds (s.state.tabs.map (·.id)) (s.tolds tr (before ++ after))).Nodup ∧
      tab ∈ start.state.tabs ∧ ⟨some "x", .job (x.job .ready)⟩ ∈ start.joined.tasks ∧
      now.deed? tr (.work (.move 0)) = some (x.session, .tells a) ∧
      (now.turn tr (.work (.move 0))).state.tabs =
        [{ tab with pinned := true, logs := log, refreshedAt := ⟨5⟩ }] ∧
      ∃ answer, x.Does answer done a now.state (now.turn tr (.work (.move 0))).state := by
  intro tr tab s before after x start now done log a
  have hi : s.workspace.Idle := Workspace.Idle.of_empty rfl rfl
  have hnew : (openedIds (s.state.tabs.map (·.id)) (s.tolds tr (before ++ after))).Nodup := by decide
  have hfound : tab ∈ start.state.tabs := by decide
  have hbegun : ⟨some "x", .job (x.job .ready)⟩ ∈ start.joined.tasks := List.mem_cons_self
  have hdeed : now.deed? tr (.work (.move 0)) = some (x.session, .tells a) := by decide
  obtain ⟨answer, -, -, hdoes⟩ := refresh_replaces_results tr hi rfl before after hnew x hfound hbegun
  exact ⟨hi, rfl, hnew, hfound, hbegun, hdeed, by decide, answer, (hdoes _ a hdeed).1⟩

end ScanConsole
