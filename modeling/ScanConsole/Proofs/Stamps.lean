import ScanConsole.Proofs.Checks
import ScanConsole.Proofs.Shifts
import ScanConsole.Proofs.Tabs

/-!
# The stamps of tabs

A refresh takes its time when it begins, and stamps its tab with this time when
it ends. In between others may stamp the tab with a later time, and then its
stamp goes back (`stamp_goes_back`): the tab is due again before its interval
has passed.

What can be said of every interleaving is who stamps a tab with what
(`Shift.Pending`): a refresh that is under way with the time that it took, and
whoever sets the interval with the time of the clock. So the stamp never goes
back as long as nobody overtakes a refresh, that is, stamps the tab while a
refresh is under way that began earlier (`stamp_never_goes_back`).

## The invariant

`Shift.Ordered` says of the tab

    its stamp is not behind the clock
    no refresh of it is under way that took its time after the clock
    no refresh of it is under way that took its time before the stamp

A turn keeps it if it is in order (`Shift.InOrder`): whoever stamps the tab
takes the time not after a refresh that is still under way. That turns are in
order is the one assumption, and it is about the turn alone and what is under
way when it comes. A single check keeps to it, since it refreshes one tab after
the other. A check beside a task, or beside somebody who sets the interval, need
not.

## After the interval was set

When the interval is set while no refresh of the tab is under way, the stamp is
not before the setting from then on, and no check is going to refresh the tab
before the interval has passed since (`Shift.Settled`), until it is set again.
-/

namespace ScanConsole

variable {σ : Type} {tr : Transport σ}

/-! ## Who stamps a tab

An action stamps at most one tab. Where identifiers are distinct it edits
each tab by itself, and leaves a tab that it does not stamp its stamp and
interval. -/

/-- The tab that an action stamps, and the time. -/
def Action.stamps? : Action → Option (String × Instant)
  | .tabRefreshed id _ _ time => some (id, time)
  | .tabRefreshFailed id _ time => some (id, time)
  | .refreshIntervalSet id _ time => some (id, time)
  | _ => none

theorem stamps?_of_drives? {a : Action} {s : SessionId} (h : a.drives? = some s) :
    a.stamps? = none := by
  cases a <;> first
    | rfl
    | cases h

/-- What an action that neither opens nor closes tabs makes of a tab. -/
def Action.edit (a : Action) (t : Tab) : Tab :=
  match a with
  | .tabRefreshed id results logs time =>
    if t.id == id then
      { t with results := results, logs := logs, refreshedAt := time, failedSession := none }
    else t
  | .tabRefreshFailed id session time =>
    if t.id == id then { t with refreshedAt := time, failedSession := some session } else t
  | .tabPinned id pinned => if t.id == id then { t with pinned := pinned } else t
  | .refreshIntervalSet id interval time =>
    if t.id == id then { t with interval := interval, refreshedAt := time } else t
  | _ => t

theorem tab?_eq_none {s : State} {id : String} (h : s.tab? id = none) :
    ∀ t ∈ s.tabs, (t.id == id) = false := by
  intro t ht
  exact Bool.eq_false_iff.mpr (List.find?_eq_none.mp h t ht)

/-- Where identifiers are distinct, an action edits each tab by itself. -/
theorem tabs_apply {s : State} (hd : (s.tabs.map (·.id)).Nodup) {a : Action}
    (ha : a.rearranges = false) : (s.apply a).tabs = s.tabs.map a.edit := by
  have hself : s.tabs = s.tabs.map fun t => t := (List.map_id _).symm
  have hmissed : ∀ {id : String} (f : Tab → Tab), s.tab? id = none →
      s.tabs = s.tabs.map fun t => if t.id == id then f t else t := by
    intro id f hnone
    refine ((List.map_congr_left fun t ht => ?_).trans (List.map_id _)).symm
    simp [tab?_eq_none hnone t ht]
  cases a with
  | tabRefreshed id results logs time =>
    show (s.refreshTab id results logs time).tabs = _
    cases ht : s.tab? id with
    | some t =>
      rw [tabs_refreshTab ht, tabs_onTab hd]
      rfl
    | none =>
      simp only [State.refreshTab, ht]
      exact hmissed _ ht
  | tabRefreshFailed id session time =>
    show (s.failRefresh id session time).tabs = _
    cases ht : s.tab? id with
    | some t =>
      rw [tabs_failRefresh ht, tabs_onTab hd]
      rfl
    | none =>
      simp only [State.failRefresh, ht]
      exact hmissed _ ht
  | tabPinned id pinned => exact tabs_onTab hd id _
  | refreshIntervalSet id interval time => exact tabs_onTab hd id _
  | tabCreated tab => cases ha
  | tabClosed id => cases ha
  | tabsClosedAll => cases ha
  | executionDismissed id =>
    obtain ⟨xs, h⟩ := dismiss_eq s id
    show (s.dismiss id).tabs = _
    rw [h]
    exact hself
  | tabActivated id =>
    show (s.activate id).tabs = _
    rcases activate_cases s id with h | ⟨t, -, -, h⟩
    · rw [h]
      exact hself
    · rw [h]
      exact hself
  | _ => exact hself

theorem edit_cases (a : Action) (t : Tab) :
    (a.edit t).id = t.id ∧
      (((a.edit t).refreshedAt = t.refreshedAt ∧ (a.edit t).interval = t.interval) ∨
        a.stamps? = some (t.id, (a.edit t).refreshedAt)) := by
  cases a with
  | tabRefreshed id results logs time =>
    by_cases hid : t.id = id <;> simp [Action.edit, Action.stamps?, hid]
  | tabRefreshFailed id session time =>
    by_cases hid : t.id = id <;> simp [Action.edit, Action.stamps?, hid]
  | tabPinned id pinned => by_cases hid : t.id = id <;> simp [Action.edit, hid]
  | refreshIntervalSet id interval time =>
    by_cases hid : t.id = id <;> simp [Action.edit, Action.stamps?, hid]
  | _ => exact ⟨rfl, .inl ⟨rfl, rfl⟩⟩

/-! ## Refreshes under way

A job that is going to stamp a tab was going to do so before, or it has just
taken its time. A job that stamps a tab was going to do so with this time. -/

/-- The time with which a job is going to stamp this tab. -/
def Job.stampFor? (id : String) (j : Job) : Option Instant :=
  match j.stage with
  | .looking tab (some time) => if tab = id then some time else none
  | .running (.refresh tab time) _ => if tab = id then some time else none
  | .reporting _ (.refreshed tab _ _ time) _ => if tab = id then some time else none
  | .reporting _ (.refreshFailed tab time) _ => if tab = id then some time else none
  | _ => none

/-- A check may still stamp this tab with this time. -/
def Check.Stamps (id : String) (time : Instant) (c : Check) : Prop :=
  (time = c.time ∧ (c.fresh = true ∨ id ∈ c.due)) ∨
    ∃ tab j, c.current = some (tab, j) ∧ j.stampFor? id = some time

/-- A refresh of this tab is under way that took this time. -/
def Shift.Pending (id : String) (time : Instant) (s : Shift σ) : Prop :=
  (∃ t ∈ s.workspace.tasks, ∃ j, t.job? = some j ∧ j.stampFor? id = some time) ∨
    ∃ c ∈ s.checks, c.Stamps id time

section
variable {id : String} {time : Instant}

theorem Job.stampFor?_step {j j' : Job} {w w' : World σ} (h : j.step tr w = some (j', w'))
    (hj' : j'.stampFor? id = some time) : j.stampFor? id = some time ∨ time = w.clock := by
  cases jobMove_step h with
  | missed tab time' => cases hj'
  | began tab time' at' t clock ht hat =>
    subst hat
    cases time' with
    | some time' => exact .inl hj'
    | none =>
      simp only [Job.stampFor?, Option.getD_none] at hj'
      split at hj'
      · exact .inr (Option.some.inj hj').symm
      · cases hj'
  | ran p r r' w' hr => exact .inl (by cases p <;> exact hj')
  | concluded p r result hr =>
    refine .inl ?_
    cases p <;> cases result <;> exact hj'
  | reported session report result => cases report <;> cases hj'
  | cleared session result => cases hj'

def Action.KeepsIntervals (a : Action) : Prop := ∀ t, (a.edit t).interval = t.interval

theorem Job.stampFor?_of_deed {j : Job} {w : World σ} {a : Action} (h : j.deed tr w = .tells a)
    (ha : a.stamps? = some (id, time)) : j.stampFor? id = some time ∧ a.KeepsIntervals := by
  obtain ⟨stage⟩ := j
  cases stage with
  | running p r => cases (stamps?_of_drives? (Run.drives_deed h)).symm.trans ha
  | reporting session report result =>
    cases h
    cases report with
    | opened tab => cases ha
    | refreshed tab results logs time' =>
      cases ha
      refine ⟨by simp [Job.stampFor?], fun t => ?_⟩
      simp only [Report.action, Action.edit]
      split <;> rfl
    | refreshFailed tab time' =>
      cases ha
      refine ⟨by simp [Job.stampFor?], fun t => ?_⟩
      simp only [Report.action, Action.edit]
      split <;> rfl
  | clearing session result => cases h; cases ha
  | _ => cases h

theorem Check.stamps_step {c c' : Check} {w w' : World σ} (h : c.step tr w = some (c', w'))
    (hc' : c'.Stamps id time) : c.Stamps id time ∨ time = w.clock := by
  cases checkMove_step h with
  | looked at' due current got =>
    rcases hc' with ⟨htime, -⟩ | hcurrent
    · exact .inl (.inl ⟨htime, .inl rfl⟩)
    · exact .inl (.inr hcurrent)
  | took at' tab due got =>
    refine .inl (.inl ?_)
    rcases hc' with ⟨htime, hfresh | hmem⟩ | ⟨tab', j, hcurrent, hj⟩
    · cases hfresh
    · exact ⟨htime, .inr (List.mem_cons_of_mem _ hmem)⟩
    · obtain ⟨rfl, rfl⟩ := Prod.mk.inj (Option.some.inj hcurrent)
      simp only [Job.ofRefresh, Job.stampFor?] at hj
      split at hj
      · next htab =>
        exact ⟨(Option.some.inj hj).symm, .inr (htab ▸ List.mem_cons_self)⟩
      · cases hj
  | ran at' due tab j j' got w' hm =>
    rcases hc' with hdue | ⟨tab', j'', hcurrent, hj⟩
    · exact .inl (.inl hdue)
    · obtain ⟨rfl, rfl⟩ := Prod.mk.inj (Option.some.inj hcurrent)
      rcases Job.stampFor?_step hm hj with hj | htime
      · exact .inl (.inr ⟨tab, j, rfl, hj⟩)
      · exact .inr htime
  | collected at' due tab result got =>
    rcases hc' with hdue | ⟨tab', j, hcurrent, -⟩
    · exact .inl (.inl hdue)
    · cases hcurrent

theorem Check.stamps_of_deed {c : Check} {w : World σ} {a : Action} (h : c.deed tr w = .tells a)
    (ha : a.stamps? = some (id, time)) : c.Stamps id time ∧ a.KeepsIntervals := by
  obtain ⟨at', fresh, due, current, refreshed⟩ := c
  cases fresh with
  | true => cases h
  | false =>
    cases current with
    | none => cases h
    | some current =>
      obtain ⟨hs, hkeeps⟩ := Job.stampFor?_of_deed h ha
      exact ⟨.inr ⟨current.1, current.2, rfl, hs⟩, hkeeps⟩

theorem Task.stampFor?_of_deed {t : Task} {w : World σ} {a : Action} (h : t.deed tr w = .tells a)
    (ha : a.stamps? = some (id, time)) :
    (∃ j, t.job? = some j ∧ j.stampFor? id = some time) ∧ a.KeepsIntervals := by
  obtain ⟨handle, work⟩ := t
  cases work with
  | clear s => cases h; cases ha
  | _ j =>
    obtain ⟨hs, hkeeps⟩ := Job.stampFor?_of_deed h ha
    exact ⟨⟨j, rfl, hs⟩, hkeeps⟩

theorem Task.stampFor?_of_dropped {t t' : Task} (h : t' ∈ t.dropped) {j : Job}
    (hj : t'.job? = some j) (hs : j.stampFor? id = some time) :
    ∃ j', t.job? = some j' ∧ j'.stampFor? id = some time := by
  rcases Task.job?_of_dropped h hj with hsame | ⟨p, r, -, rfl⟩
  · exact ⟨j, hsame, hs⟩
  · cases hs

/-! ## What a turn does

A refresh that is under way was so before, or it has just taken its time from
the clock. Who stamps a tab is somebody else, sets the interval, or has a
refresh under way. -/

theorem Workspace.pending_begin {ws : Workspace σ} {handle : String} {errand : Errand}
    (hbegun : ∀ time, errand ≠ .refresh id (some time)) {t : Task}
    (ht : t ∈ (ws.begin handle errand).tasks) {j : Job} (hj : t.job? = some j)
    (hs : j.stampFor? id = some time) : t ∈ ws.tasks := by
  cases errand with
  | refresh tab time' =>
    rcases List.mem_append.mp ht with ht | ht
    · exact ht
    · rw [List.mem_singleton.mp ht] at hj
      cases hj
      cases time' with
      | none => cases hs
      | some time' =>
        simp only [Job.ofRefresh, Job.stampFor?] at hs
        split at hs
        · next htab => exact absurd (by rw [htab]) (hbegun time')
        · cases hs
  | _ plugin resource =>
    rcases List.mem_append.mp ht with ht | ht
    · exact ht
    · rw [List.mem_singleton.mp ht] at hj
      cases hj
      cases hs

theorem Workspace.pending_turn {ws : Workspace σ} {u : Turn}
    (hbegun : ∀ handle time, u ≠ .begin handle (.refresh id (some time))) {t' : Task}
    (ht' : t' ∈ (ws.turn tr u).tasks) {j' : Job} (hj' : t'.job? = some j')
    (hs : j'.stampFor? id = some time) :
    (∃ t ∈ ws.tasks, ∃ j, t.job? = some j ∧ j.stampFor? id = some time) ∨ time = ws.world.clock := by
  rcases mem_change (change_turn tr ws u) ht' with hold |
    ⟨t, ht, ⟨left, w, hm, hleft⟩ | hawait | hdropped | rfl⟩ | ⟨handle, errand, rfl⟩
  · exact .inl ⟨t', hold, j', hj', hs⟩
  · rcases Task.step_cases hm with ⟨x, -, rfl, -⟩ | ⟨j, j₁, hj, hjm, rfl⟩
    · exact absurd hleft List.not_mem_nil
    · rw [List.mem_singleton.mp hleft, Task.job?_withJob hj] at hj'
      obtain rfl := Option.some.inj hj'
      rcases Job.stampFor?_step hjm hs with hs | htime
      · exact .inl ⟨t, ht, j, hj, hs⟩
      · exact .inr htime
  · exact .inl ⟨t, ht, j', Task.job?_of_await hawait hj', hs⟩
  · exact .inl ⟨t, ht, Task.stampFor?_of_dropped hdropped hj' hs⟩
  · exact .inl ⟨t, ht, j', hj', hs⟩
  · have hold : t' ∈ ws.tasks := pending_begin (fun time h => hbegun handle time (by rw [h])) ht' hj' hs
    exact .inl ⟨t', hold, j', hj', hs⟩

namespace Shift

variable {s : Shift σ} {u : ShiftTurn}

/-- A refresh that is under way was so before, or it has just taken its time from the clock. -/
theorem pending_turn (hbegun : ∀ handle time, u ≠ .work (.begin handle (.refresh id (some time))))
    (h : (s.turn tr u).Pending id time) : s.Pending id time ∨ time = s.clock := by
  cases u with
  | pass nanos => exact .inl h
  | setInterval tab interval => exact .inl h
  | work u =>
    rcases h with ⟨t', ht', j', hj', hs⟩ | hchecks
    · have hbegun' : ∀ handle time, u ≠ .begin handle (.refresh id (some time)) :=
        fun handle time h => hbegun handle time (by rw [h])
      rcases Workspace.pending_turn hbegun' ht' hj' hs with htasks | htime
      · exact .inl (.inl htasks)
      · exact .inr htime
    · exact .inl (.inr hchecks)
  | check =>
    rcases h with htasks | ⟨c, hc, hs⟩
    · exact .inl (.inl htasks)
    · rcases List.mem_append.mp hc with hc | hc
      · exact .inl (.inr ⟨c, hc, hs⟩)
      · rw [List.mem_singleton.mp hc] at hs
        rcases hs with ⟨htime, -⟩ | ⟨tab, j, hcurrent, -⟩
        · exact .inr htime
        · cases hcurrent
  | move place =>
    rcases turn_move_cases tr s place with ⟨hturn, -⟩ | ⟨c, hc, c', w, hm, hturn, -⟩
    · exact .inl (hturn ▸ h)
    · rw [hturn] at h
      rcases h with htasks | ⟨x, hx, hs⟩
      · exact .inl (.inl htasks)
      · rcases List.mem_or_eq_of_mem_set hx with hx | rfl
        · exact .inl (.inr ⟨x, hx, hs⟩)
        · rcases Check.stamps_step hm hs with hs | htime
          · exact .inl (.inr ⟨c, hc, hs⟩)
          · exact .inr htime
  | drop place =>
    rcases turn_drop_cases tr s place with hturn | ⟨c, hturn⟩
    · exact .inl (hturn ▸ h)
    · rw [hturn] at h
      rcases h with ⟨t, ht, j, hj, hs⟩ | ⟨x, hx, hs⟩
      · rcases List.mem_append.mp ht with ht | ht
        · exact .inl (.inl ⟨t, ht, j, hj, hs⟩)
        · obtain ⟨session, -, rfl⟩ := List.mem_map.mp ht
          cases hj
      · exact .inl (.inr ⟨x, List.mem_of_mem_eraseIdx hx, hs⟩)
  | abandon place =>
    rcases h with htasks | ⟨x, hx, hs⟩
    · exact .inl (.inl htasks)
    · exact .inl (.inr ⟨x, List.mem_of_mem_eraseIdx hx, hs⟩)

/-- Who stamps a tab is somebody else, sets the interval, or has a refresh under way. -/
theorem stamps_told {a : Action} (h : s.told? tr u = some a) (ha : a.stamps? = some (id, time)) :
    u = .work (.tell a) ∨ (∃ interval, u = .setInterval id interval ∧ time = s.clock) ∨
      (s.Pending id time ∧ a.KeepsIntervals) := by
  cases u with
  | setInterval tab interval =>
    cases h
    cases ha
    exact .inr (.inl ⟨interval, rfl, rfl⟩)
  | work u =>
    cases u with
    | tell b => cases h; exact .inl rfl
    | move place =>
      obtain ⟨⟨session, e⟩, hd, he⟩ := Option.bind_eq_some_iff.mp h
      have hc := change_turn tr s.timed (.move place)
      rw [hd] at hc
      obtain ⟨t, ht, -, hdeed, -⟩ := moved_change hc
      have he' : e = .tells a := Deed.eq_of_told? he
      obtain ⟨hj, hkeeps⟩ := Task.stampFor?_of_deed (hdeed.trans he') ha
      exact .inr (.inr ⟨.inl ⟨t, ht, hj⟩, hkeeps⟩)
    | _ => cases h
  | move place =>
    rcases turn_move_cases tr s place with ⟨-, hquiet⟩ | ⟨c, hc, c', w, -, -, htold⟩
    · cases hquiet.symm.trans h
    · obtain ⟨hs, hkeeps⟩ := Check.stamps_of_deed (Deed.eq_of_told? (htold.symm.trans h)) ha
      exact .inr (.inr ⟨.inr ⟨c, hc, hs⟩, hkeeps⟩)
  | _ => cases h

end Shift

end

/-! ## The stamp never goes back

The stamp of the tab goes forward, not past the clock nor past a refresh that is
under way. A turn that tells nothing is in order. -/

namespace Shift

/-- The tab is left to its refreshes, the checks and the settings of its interval, and nobody overtakes
a refresh of it: whoever stamps the tab took the time not after a refresh that is still under way. -/
structure InOrder (tr : Transport σ) (id : String) (s : Shift σ) (u : ShiftTurn) : Prop where
  keeps : ∀ a, s.told? tr u = some a → a.rearranges = false
  told : ∀ a time, u = .work (.tell a) → a.stamps? ≠ some (id, time)
  begun : ∀ handle time, u ≠ .work (.begin handle (.refresh id (some time)))
  order : ∀ a time, s.told? tr u = some a → a.stamps? = some (id, time) →
    ∀ time', s.Pending id time' → time.nanos ≤ time'.nanos

/-- So it is in every turn. -/
def Orderly (tr : Transport σ) (id : String) : Shift σ → List ShiftTurn → Prop
  | _, [] => True
  | s, u :: us => s.InOrder tr id u ∧ Orderly tr id (s.turn tr u) us

/-- The stamp of the tab is not behind the clock, and no refresh is under way that took its time before
the stamp. -/
structure Ordered (id : String) (s : Shift σ) : Prop where
  distinct : (s.state.tabs.map (·.id)).Nodup
  known : ∀ t ∈ s.state.tabs, t.id = id → t.refreshedAt.nanos ≤ s.clock.nanos
  taken : ∀ time, s.Pending id time → time.nanos ≤ s.clock.nanos
  ahead : ∀ time, s.Pending id time → ∀ t ∈ s.state.tabs, t.id = id →
    t.refreshedAt.nanos ≤ time.nanos

theorem inOrder_quiet {id : String} {s : Shift σ} {u : ShiftTurn} (h : s.told? tr u = none)
    (hu : ∀ v, u ≠ .work v) : s.InOrder tr id u where
  keeps a ha := by cases h.symm.trans ha
  told a time ha := absurd ha (hu _)
  begun handle time ha := absurd ha (hu _)
  order a time ha := by cases h.symm.trans ha

theorem inOrder_pass {id : String} {s : Shift σ} (nanos : Nat) : s.InOrder tr id (.pass nanos) :=
  inOrder_quiet rfl fun _ h => (by cases h)

section
variable {id : String} {s : Shift σ} {u : ShiftTurn}

theorem tabs_turn (hd : (s.state.tabs.map (·.id)).Nodup)
    (hkeeps : ∀ a, s.told? tr u = some a → a.rearranges = false) :
    ∃ f : Tab → Tab, (s.turn tr u).state.tabs = s.state.tabs.map f ∧
      (f = (fun t => t) ∨ ∃ a, s.told? tr u = some a ∧ f = a.edit) := by
  rcases state_turn tr s u with hst | ⟨a, htold, hst⟩
  · exact ⟨fun t => t, by rw [hst]; exact (List.map_id _).symm, .inl rfl⟩
  · refine ⟨a.edit, ?_, .inr ⟨a, htold, rfl⟩⟩
    rw [hst]
    exact tabs_apply hd (hkeeps a htold)

/-- The stamp of the tab goes forward, not past the clock nor past a refresh that is under way. -/
theorem stamp_turn (hs : s.Ordered id) (hu : s.InOrder tr id u) :
    ∃ f : Tab → Tab, (s.turn tr u).state.tabs = s.state.tabs.map f ∧ (∀ t, (f t).id = t.id) ∧
      ∀ t ∈ s.state.tabs, t.id = id →
        t.refreshedAt.nanos ≤ (f t).refreshedAt.nanos ∧
        (f t).refreshedAt.nanos ≤ s.clock.nanos ∧
        (∀ time, s.Pending id time → (f t).refreshedAt.nanos ≤ time.nanos) ∧
        ((∀ interval, u ≠ .setInterval id interval) → (f t).interval = t.interval) := by
  obtain ⟨f, htabs, rfl | ⟨a, htold, rfl⟩⟩ := tabs_turn hs.distinct hu.keeps
  · exact ⟨_, htabs, fun _ => rfl, fun t ht hid => ⟨Int.le_refl _, hs.known t ht hid,
      fun time htime => hs.ahead time htime t ht hid, fun _ => rfl⟩⟩
  · refine ⟨_, htabs, fun t => (edit_cases a t).1, fun t ht hid => ?_⟩
    rcases (edit_cases a t).2 with ⟨hsame, hinterval⟩ | hstamps
    · rw [hsame]
      exact ⟨Int.le_refl _, hs.known t ht hid, fun time htime => hs.ahead time htime t ht hid,
        fun _ => hinterval⟩
    · rw [hid] at hstamps
      have horder := hu.order a _ htold hstamps
      rcases stamps_told htold hstamps with rfl | ⟨interval, rfl, hclock⟩ | ⟨hpending, hkeeps⟩
      · exact absurd hstamps (hu.told a _ rfl)
      · rw [hclock] at horder ⊢
        exact ⟨hs.known t ht hid, Int.le_refl _, horder, fun hset => absurd rfl (hset interval)⟩
      · exact ⟨hs.ahead _ hpending t ht hid, hs.taken _ hpending, horder, fun _ => hkeeps t⟩

theorem ordered_turn (hs : s.Ordered id) (hu : s.InOrder tr id u) : (s.turn tr u).Ordered id := by
  obtain ⟨f, htabs, hid, hstamp⟩ := stamp_turn hs hu
  have hclock := clock_turn tr s u
  have hpending : ∀ time, (s.turn tr u).Pending id time → s.Pending id time ∨ time = s.clock :=
    fun time => pending_turn hu.begun
  constructor
  · rw [htabs, List.map_map]
    exact (List.map_congr_left fun t _ => hid t) ▸ hs.distinct
  · intro t' ht' hid'
    rw [htabs] at ht'
    obtain ⟨t, ht, rfl⟩ := List.mem_map.mp ht'
    obtain ⟨-, hknown, -⟩ := hstamp t ht ((hid t).symm.trans hid')
    exact Int.le_trans hknown hclock
  · intro time htime
    rcases hpending time htime with hold | rfl
    · exact Int.le_trans (hs.taken time hold) hclock
    · exact hclock
  · intro time htime t' ht' hid'
    rw [htabs] at ht'
    obtain ⟨t, ht, rfl⟩ := List.mem_map.mp ht'
    obtain ⟨-, hknown, hahead, -⟩ := hstamp t ht ((hid t).symm.trans hid')
    rcases hpending time htime with hold | rfl
    · exact hahead time hold
    · exact hknown

theorem forward_turn (hs : s.Ordered id) (hu : s.InOrder tr id u) {t : Tab}
    (ht : s.state.tab? id = some t) :
    ∃ t', (s.turn tr u).state.tab? id = some t' ∧ t.refreshedAt.nanos ≤ t'.refreshedAt.nanos := by
  obtain ⟨f, htabs, hid, hstamp⟩ := stamp_turn hs hu
  have hmem : t ∈ s.state.tabs := List.mem_of_find?_eq_some ht
  have htid : t.id = id := by simpa using List.find?_some ht
  refine ⟨f t, ?_, (hstamp t hmem htid).1⟩
  have hsame : ((fun t : Tab => t.id == id) ∘ f) = fun t => t.id == id := by
    funext x
    simp [hid x]
  rw [State.tab?, htabs, List.find?_map, hsame]
  exact congrArg (Option.map f) ht

end

theorem orderly_append {id : String} {s : Shift σ} {us vs : List ShiftTurn} :
    Orderly tr id s (us ++ vs) ↔ Orderly tr id s us ∧ Orderly tr id (s.play tr us) vs := by
  induction us generalizing s with
  | nil => simp [Orderly]
  | cons u us ih => simp [Orderly, ih, and_assoc]

theorem ordered_play {id : String} {s : Shift σ} {turns : List ShiftTurn} (hs : s.Ordered id)
    (hturns : Orderly tr id s turns) : (s.play tr turns).Ordered id := by
  induction turns generalizing s with
  | nil => exact hs
  | cons u us ih => exact ih (ordered_turn hs hturns.1) hturns.2

theorem forward_play {id : String} {s : Shift σ} {turns : List ShiftTurn} (hs : s.Ordered id)
    (hturns : Orderly tr id s turns) {t : Tab} (ht : s.state.tab? id = some t) :
    ∃ t', (s.play tr turns).state.tab? id = some t' ∧
      t.refreshedAt.nanos ≤ t'.refreshedAt.nanos := by
  induction turns generalizing s t with
  | nil => exact ⟨t, ht, Int.le_refl _⟩
  | cons u us ih =>
    obtain ⟨t₁, ht₁, hle₁⟩ := forward_turn hs hturns.1 ht
    obtain ⟨t₂, ht₂, hle₂⟩ := ih (ordered_turn hs hturns.1) hturns.2 ht₁
    exact ⟨t₂, ht₂, Int.le_trans hle₁ hle₂⟩

/-! ## The interval of a tab

A check has a tab before it that it had before, or finds it due. -/

/-- The interval of a tab was set at this time: the tab has this interval, a stamp not before, and no
check is going to refresh it before the interval has passed. -/
structure Settled (id : String) (interval : RefreshInterval) (time : Instant) (s : Shift σ) : Prop where
  stamped : Stamped id interval time s.workspace.world
  due : ∀ c ∈ s.checks, id ∈ c.due → (time.after interval.seconds).nanos ≤ c.time.nanos

section
variable {id : String} {interval : RefreshInterval} {time : Instant} {s : Shift σ} {u : ShiftTurn}

theorem due_step (id : String) {c c' : Check} {w w' : World σ} (h : c.step tr w = some (c', w')) :
    c'.time = c.time ∧ (id ∈ c'.due → id ∈ c.due ∨ id ∈ w.state.dueTabs c.time) := by
  cases checkMove_step h with
  | looked time due current got => exact ⟨rfl, .inr⟩
  | took time tab due got => exact ⟨rfl, fun hid => .inl (List.mem_cons_of_mem _ hid)⟩
  | ran time due tab j j' got w' hj => exact ⟨rfl, .inl⟩
  | collected time due tab result got => exact ⟨rfl, .inl⟩

theorem due_turn {c' : Check} (hc' : c' ∈ (s.turn tr u).checks) (hid : id ∈ c'.due) :
    ∃ c ∈ s.checks, c.time = c'.time ∧ (id ∈ c.due ∨ id ∈ s.state.dueTabs c.time) := by
  cases u with
  | check =>
    rcases List.mem_append.mp hc' with hc' | hc'
    · exact ⟨c', hc', rfl, .inl hid⟩
    · rw [List.mem_singleton.mp hc'] at hid
      exact absurd hid List.not_mem_nil
  | move place =>
    rcases turn_move_cases tr s place with ⟨hturn, -⟩ | ⟨c, hc, c₁, w, hm, hturn, -⟩
    · exact ⟨c', hturn ▸ hc', rfl, .inl hid⟩
    · rw [hturn] at hc'
      rcases List.mem_or_eq_of_mem_set hc' with hc' | rfl
      · exact ⟨c', hc', rfl, .inl hid⟩
      · obtain ⟨htime, hdue⟩ := due_step id hm
        exact ⟨c, hc, htime.symm, hdue hid⟩
  | drop place =>
    rcases turn_drop_cases tr s place with hturn | ⟨c, hturn⟩
    · exact ⟨c', hturn ▸ hc', rfl, .inl hid⟩
    · rw [hturn] at hc'
      exact ⟨c', List.mem_of_mem_eraseIdx hc', rfl, .inl hid⟩
  | abandon place => exact ⟨c', List.mem_of_mem_eraseIdx hc', rfl, .inl hid⟩
  | _ => exact ⟨c', hc', rfl, .inl hid⟩

theorem settled_turn (hs : s.Ordered id) (hu : s.InOrder tr id u)
    (hset : ∀ other, u ≠ .setInterval id other) (h : s.Settled id interval time) :
    (s.turn tr u).Settled id interval time := by
  constructor
  · obtain ⟨f, htabs, hid, hstamp⟩ := stamp_turn hs hu
    intro t' ht' hid'
    change t' ∈ (s.turn tr u).state.tabs at ht'
    rw [htabs] at ht'
    obtain ⟨t, ht, rfl⟩ := List.mem_map.mp ht'
    have hidt : t.id = id := (hid t).symm.trans hid'
    obtain ⟨hinterval, hafter⟩ := h.stamped t ht hidt
    obtain ⟨hle, -, -, hkeeps⟩ := hstamp t ht hidt
    exact ⟨(hkeeps hset).trans hinterval, Int.le_trans hafter hle⟩
  · intro c' hc' hid
    obtain ⟨c, hc, htime, hdue | hdue⟩ := due_turn hc' hid
    · exact htime ▸ h.due c hc hdue
    · obtain ⟨t, ht, htid⟩ := List.mem_map.mp hdue
      obtain ⟨ht, hdue⟩ := List.mem_filter.mp ht
      obtain ⟨hinterval, hafter⟩ := h.stamped t ht htid
      obtain ⟨-, -, hpassed⟩ := (isDue_iff t c.time).mp hdue
      rw [← htime]
      simp only [Instant.after, hinterval] at hpassed ⊢
      omega

theorem settled_play {turns : List ShiftTurn} (hs : s.Ordered id) (hturns : Orderly tr id s turns)
    (hset : ∀ other, .setInterval id other ∉ turns) (h : s.Settled id interval time) :
    (s.play tr turns).Settled id interval time := by
  induction turns generalizing s with
  | nil => exact h
  | cons u us ih =>
    have hu : ∀ other, u ≠ .setInterval id other := fun other heq => hset other (by simp [heq])
    exact ih (ordered_turn hs hturns.1) hturns.2
      (fun other hmem => hset other (List.mem_cons_of_mem _ hmem)) (settled_turn hs hturns.1 hu h)

theorem settled_set (tr : Transport σ) (interval : RefreshInterval)
    (hd : (s.state.tabs.map (·.id)).Nodup) (hidle : ∀ time, ¬ s.Pending id time) :
    (s.turn tr (.setInterval id interval)).Settled id interval s.clock := by
  constructor
  · intro t' ht' hid'
    have hkeeps : (Action.refreshIntervalSet id interval s.clock).rearranges = false := rfl
    have htabs : (s.turn tr (.setInterval id interval)).state.tabs =
        s.state.tabs.map (Action.refreshIntervalSet id interval s.clock).edit :=
      tabs_apply hd hkeeps
    change t' ∈ (s.turn tr (.setInterval id interval)).state.tabs at ht'
    rw [htabs] at ht'
    obtain ⟨t, -, rfl⟩ := List.mem_map.mp ht'
    rw [(edit_cases _ t).1] at hid'
    simp [Action.edit, hid']
  · intro c hc hid
    exact absurd (.inr ⟨c, hc, .inl ⟨rfl, .inr hid⟩⟩) (hidle c.time)

end

/-- As long as nobody overtakes a refresh of an open tab, its stamp never goes back. And when the interval
of the tab is set while no refresh of it is under way, then until it is set again no check is going to
refresh the tab that began before the interval had passed since. -/
theorem stamp_never_goes_back (tr : Transport σ) (id : String) (s : Shift σ) (hs : s.Ordered id)
    (turns : List ShiftTurn) (hturns : Orderly tr id s turns) :
    (∀ before after, turns = before ++ after → ∀ t, (s.play tr before).state.tab? id = some t →
      ∃ t', (s.play tr turns).state.tab? id = some t' ∧
        t.refreshedAt.nanos ≤ t'.refreshedAt.nanos) ∧
    ∀ before interval after, turns = before ++ .setInterval id interval :: after →
      (∀ time, ¬ (s.play tr before).Pending id time) → (∀ other, .setInterval id other ∉ after) →
      ∀ c ∈ (s.play tr turns).checks, id ∈ c.due →
        ((s.play tr before).clock.after interval.seconds).nanos ≤ c.time.nanos := by
  constructor
  · rintro before after rfl t ht
    obtain ⟨hbefore, hafter⟩ := orderly_append.mp hturns
    rw [play_append]
    exact forward_play (ordered_play hs hbefore) hafter ht
  · rintro before interval after rfl hidle hset
    obtain ⟨hbefore, hset', hafter⟩ := orderly_append.mp hturns
    have hs₁ : (s.play tr before).Ordered id := ordered_play hs hbefore
    have hsettled := settled_set tr interval hs₁.distinct hidle
    have hend := settled_play (ordered_turn hs₁ hset') hafter hset hsettled
    rw [play_append, play_cons]
    exact hend.due

/-- A refresh under way fails, the interval is set, and a check begins when that has passed. -/
theorem stamp_never_goes_back_failed :
    let seconds (n : Nat) : Instant := ⟨n * 1000000000⟩
    let tr : Transport Unit := ⟨fun _ _ => (.opened [], ())⟩
    let tab : Tab :=
      { Tab.create ⟨⟨"1"⟩, "disk", "", none⟩ ⟨"::1", "web", none, none, .synthetic 80⟩ [] [] ⟨0⟩ with
        id := "a", pinned := true }
    let failed : Task :=
      ⟨some "x", .job ⟨.reporting ⟨1⟩ (.refreshFailed "a" (seconds 90)) (.error (.stream "down"))⟩⟩
    let s : Shift Unit :=
      { clock := seconds 100,
        workspace := ⟨{ clock := ⟨0⟩, link := (), state := { tabs := [tab] } }, [failed]⟩ }
    let before : List ShiftTurn := [.work (.move 0)]
    let after : List ShiftTurn := [.pass 30000000000, .check, .move 0]
    let turns := before ++ .setInterval "a" .halfMinute :: after
    s.Ordered "a" ∧ Orderly tr "a" s turns ∧
      (s.play tr turns).checks.map (fun c => (c.time, c.due)) = [(seconds 130, ["a"])] ∧
      (∃ t', (s.play tr turns).state.tab? "a" = some t' ∧ 0 ≤ t'.refreshedAt.nanos) ∧
      ∀ c ∈ (s.play tr turns).checks, "a" ∈ c.due →
        ((seconds 100).after 30).nanos ≤ c.time.nanos := by
  intro seconds tr tab failed s before after turns
  have htime : ∀ time, s.Pending "a" time → time = seconds 90 := by
    rintro time (⟨t, ht, j, hj, hs⟩ | ⟨c, hc, -⟩)
    · obtain rfl := List.mem_singleton.mp ht
      cases hj
      cases hs
      rfl
    · exact absurd hc List.not_mem_nil
  have hidle : ∀ time, ¬ (s.play tr before).Pending "a" time := by
    rintro time (⟨t, ht, j, hj, hs⟩ | ⟨c, hc, -⟩)
    · obtain rfl := List.mem_singleton.mp ht
      cases hj
      cases hs
    · exact absurd hc List.not_mem_nil
  have hs : s.Ordered "a" := by
    refine ⟨by decide, by decide, fun time h => ?_, fun time h => ?_⟩
    · obtain rfl := htime time h
      decide
    · obtain rfl := htime time h
      decide
  have hturns : Orderly tr "a" s turns := by
    have hreport : s.InOrder tr "a" (.work (.move 0)) := by
      refine ⟨fun a h => ?_, fun _ _ h => (by cases h), fun _ _ h => (by cases h),
        fun a time h ha time' hpending => ?_⟩
      · cases h
        rfl
      · cases h
        cases ha
        obtain rfl := htime time' hpending
        decide
    let s₁ := s.turn tr (.work (.move 0))
    let s₂ := s₁.turn tr (.setInterval "a" .halfMinute)
    let s₃ := (s₂.turn tr (.pass 30000000000)).turn tr .check
    have hset : s₁.InOrder tr "a" (.setInterval "a" .halfMinute) := by
      refine ⟨fun a h => ?_, fun _ _ h => (by cases h), fun _ _ h => (by cases h),
        fun a time h ha time' hpending => ?_⟩
      · cases h
        rfl
      · exact absurd hpending (hidle time')
    have hlook : s₃.told? tr (.move 0) = none := by decide
    exact ⟨hreport, hset, inOrder_pass _, inOrder_quiet rfl fun _ h => (by cases h),
      inOrder_quiet hlook fun _ h => (by cases h), trivial⟩
  obtain ⟨hforward, hdue⟩ := stamp_never_goes_back tr "a" s hs turns hturns
  exact ⟨hs, hturns, by decide, hforward [] turns rfl tab rfl,
    hdue before .halfMinute after rfl hidle (by simp [after])⟩

/-- A refresh takes its time, the interval is set, the refresh fails: the stamp is again the time at which
the refresh began, and a check refreshes the tab again before the interval has passed since it was set. -/
theorem stamp_goes_back :
    let seconds (n : Nat) : Instant := ⟨n * 1000000000⟩
    let tr : Transport Unit := ⟨fun _ _ => (.opened [.event (.error "down")], ())⟩
    let tab : Tab :=
      { Tab.create ⟨⟨"1"⟩, "disk", "", none⟩ ⟨"::1", "web", none, none, .synthetic 80⟩ [] [] ⟨0⟩ with
        id := "a", pinned := true, interval := .halfMinute }
    let s : Shift Unit :=
      { clock := seconds 100, workspace := ⟨{ clock := ⟨0⟩, link := (), state := { tabs := [tab] } }, []⟩ }
    let before : List ShiftTurn :=
      [.work (.begin "x" (.refresh "a" none)), .work (.move 0), .pass 10000000000,
        .setInterval "a" .halfMinute]
    let after : List ShiftTurn :=
      List.replicate 7 (.work (.move 0)) ++ [.pass 25000000000, .check, .move 0, .move 0]
    let s₁ := s.play tr before
    let s₂ := s₁.play tr after
    s₁.clock = seconds 110 ∧ (s₁.state.tab? "a").map (·.refreshedAt) = some (seconds 110) ∧
      (s₂.state.tab? "a").map (·.refreshedAt) = some (seconds 100) ∧
      s₂.checks.map (fun c => (c.time, c.current.map (·.1))) = [(seconds 135, some "a")] ∧
      (seconds 135).nanos < ((seconds 110).after RefreshInterval.halfMinute.seconds).nanos := by
  decide

end Shift

end ScanConsole
