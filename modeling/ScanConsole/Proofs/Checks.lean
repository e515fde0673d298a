import Mathlib.Data.List.Nodup
import ScanConsole.Proofs.Refreshing

/-!
# One refresh for each interval

A check looks once which tabs are due and then refreshes these, while every
refresh rewrites a tab. With distinct identifiers none of them disturbs another:
`Check.settle_due` goes along the tabs that are still to come, which are all
still as they were. So a check makes one run for each due tab, in their order,
and stamps it with its own time however the run ends.

A tab that a check has refreshed at some time carries a stamp not before that
time from then on, through all further checks, whatever their times are
(`Stamped.check`). It is due again only when its interval has passed since.

    due at `now`   pinned, an interval that is not off, and
                   stamp + interval ≤ now, to the nanosecond       (`isDue_iff`)

`one_refresh_per_interval` says all this of a check that comes behind any list
of checks at any times, and of every answer of the transport to each of its
refreshes.

## What is assumed

The identifiers of the tabs are distinct, since a refresh addresses the first
tab with an identifier. No channel falls silent: a check that waits for a
channel is given up where nothing else goes on, and the rest of it with it. What
happens to checks beside other things is said elsewhere.
-/

namespace ScanConsole

variable {σ : Type} {tr : Transport σ} {w : World σ}

/-! ## Being due

The age of a stamp is taken in milliseconds and compared with whole seconds, so
rounding towards zero does not matter (`seconds_le_tdiv`). -/

theorem seconds_le_tdiv {k : Nat} (hk : k ≠ 0) (d : Int) :
    (k : Int) * 1000 ≤ d.tdiv 1000000 ↔ (k : Int) * 1000000000 ≤ d := by
  rcases Int.lt_or_le d 0 with hd | hd
  · have hback : 0 ≤ (-d).tdiv 1000000 := Int.tdiv_nonneg (by omega) (by omega)
    rw [Int.neg_tdiv] at hback
    omega
  · rw [Int.tdiv_eq_ediv_of_nonneg hd]
    omega

theorem isDue_iff (t : Tab) (now : Instant) :
    t.isDue now = true ↔ t.pinned = true ∧ t.interval.seconds ≠ 0 ∧
      (t.refreshedAt.after t.interval.seconds).nanos ≤ now.nanos := by
  have hperiod : t.interval.seconds ≠ 0 →
      ((t.interval.seconds : Int) * 1000 ≤ now.millisSince t.refreshedAt ↔
        (t.refreshedAt.after t.interval.seconds).nanos ≤ now.nanos) := by
    intro hk
    simp only [Instant.millisSince, Instant.after, seconds_le_tdiv hk]
    omega
  simp only [Tab.isDue, RefreshInterval.isEnabled, Bool.and_eq_true, decide_eq_true_eq, and_assoc]
  refine and_congr_right fun _ => ?_
  constructor
  · rintro ⟨hpos, hpassed⟩
    exact ⟨by omega, (hperiod (by omega)).mp hpassed⟩
  · rintro ⟨hne, hpassed⟩
    exact ⟨by omega, (hperiod hne).mpr hpassed⟩

theorem not_isDue_of_stamp {t : Tab} {now : Instant} (h : now.nanos ≤ t.refreshedAt.nanos) :
    t.isDue now = false := by
  rw [Bool.eq_false_iff]
  intro hdue
  obtain ⟨-, hne, hpassed⟩ := (isDue_iff t now).mp hdue
  simp only [Instant.after] at hpassed
  omega

/-! ## The refreshes of a check

`attempts` says which sessions the refreshes start and which answers they get,
without reference to the console: each takes the next number of the supply and
the next state of the transport. A tab behind these refreshes is stamped if it
is among them, and stays as it is if not. -/

/-- A refresh of a tab with the session that it starts and the answer that it gets. -/
structure Attempt where
  tab : Tab
  session : SessionId
  answer : Answer

def Attempt.succeeds (a : Attempt) : Bool :=
  match a.answer.ending with
  | .completed _ => true
  | .failed _ _ => false

/-- Refreshes of tabs one after the other, from the number of the next session on and with what the
transport remembers. -/
def attempts (tr : Transport σ) : List Tab → Nat → σ → List Attempt
  | [], _, _ => []
  | t :: ts, n, link =>
    let (answer, link) := tr.connect t.request link
    ⟨t, ⟨n⟩, answer⟩ :: attempts tr ts (n + 1) link

def Tab.behind (time : Instant) (made : List Attempt) (t : Tab) : Tab :=
  match made.find? fun a => a.tab.id == t.id with
  | some a => t.refreshedBy a.session time a.answer
  | none => t

theorem map_tab_attempts (tr : Transport σ) (ts : List Tab) (n : Nat) (link : σ) :
    (attempts tr ts n link).map (·.tab) = ts := by
  induction ts generalizing n link with
  | nil => rfl
  | cons t ts ih => simp [attempts, ih]

theorem ids_attempts (tr : Transport σ) (ts : List Tab) (n : Nat) (link : σ) :
    (attempts tr ts n link).map (fun a => a.tab.id) = ts.map (·.id) := by
  have hids := congrArg (List.map Tab.id) (map_tab_attempts tr ts n link)
  rwa [List.map_map] at hids

namespace Tab

theorem refreshedBy_stamp (t : Tab) (session : SessionId) (time : Instant) (answer : Answer) :
    (t.refreshedBy session time answer).refreshedAt = time := by
  unfold refreshedBy
  split <;> rfl

theorem refreshedBy_keeps (t : Tab) (session : SessionId) (time : Instant) (answer : Answer) :
    let u := t.refreshedBy session time answer
    u.id = t.id ∧ u.pinned = t.pinned ∧ u.interval = t.interval := by
  unfold refreshedBy
  split <;> exact ⟨rfl, rfl, rfl⟩

theorem behind_of_not_mem {time : Instant} {made : List Attempt} {t : Tab}
    (h : t.id ∉ made.map fun a => a.tab.id) : t.behind time made = t := by
  have hnone : made.find? (fun a => a.tab.id == t.id) = none := by
    rw [List.find?_eq_none]
    intro a ha hid
    exact h (List.mem_map.mpr ⟨a, ha, by simpa using hid⟩)
  simp [behind, hnone]

theorem behind_of_mem (time : Instant) {made : List Attempt} {t : Tab}
    (h : t.id ∈ made.map fun a => a.tab.id) :
    ∃ session answer, t.behind time made = t.refreshedBy session time answer := by
  cases hfind : made.find? fun a => a.tab.id == t.id with
  | none =>
    obtain ⟨a, ha, hid⟩ := List.mem_map.mp h
    exact absurd (by simpa using hid) (List.find?_eq_none.mp hfind a ha)
  | some a => exact ⟨a.session, a.answer, by simp [behind, hfind]⟩

theorem behind_keeps (time : Instant) (made : List Attempt) (t : Tab) :
    (t.behind time made).id = t.id ∧ (t.behind time made).interval = t.interval := by
  by_cases h : t.id ∈ made.map fun a => a.tab.id
  · obtain ⟨session, answer, hu⟩ := behind_of_mem time h
    rw [hu]
    exact ⟨(t.refreshedBy_keeps session time answer).1, (t.refreshedBy_keeps session time answer).2.2⟩
  · rw [behind_of_not_mem h]
    exact ⟨rfl, rfl⟩

theorem behind_cons {time : Instant} {a : Attempt} {made : List Attempt}
    (h : a.tab.id ∉ made.map fun b => b.tab.id) (t : Tab) :
    t.behind time (a :: made) = (t.behind time [a]).behind time made := by
  by_cases hid : a.tab.id = t.id
  · have hfirst : ∀ rest, t.behind time (a :: rest) = t.refreshedBy a.session time a.answer := by
      intro rest
      simp [behind, hid]
    rw [hfirst made, hfirst []]
    refine (behind_of_not_mem ?_).symm
    rw [(t.refreshedBy_keeps _ _ _).1, ← hid]
    exact h
  · simp [behind, hid]

end Tab

/-! ## The moves of a check

A check makes its present refresh to the end and goes on with the tabs behind it
(`Check.settle_next`). Where identifiers are distinct, the change of the first
tab with one is the change of each (`tabs_onTab`), so the result is a map over
the tabs. -/

theorem Job.result?_of_step {j j' : Job} {w w' : World σ} (h : j.step tr w = some (j', w')) :
    j.result? = none := by
  obtain ⟨stage⟩ := j
  cases stage with
  | ended result => cases h
  | _ => rfl

namespace Check

theorem settle_of_step {c c' : Check} {w w' : World σ} (h : c.step tr w = some (c', w')) :
    c.settle tr w = c'.settle tr w' := by
  rw [Check.settle]
  split
  · next hn => cases hn.symm.trans h
  · next c₁ w₁ hs =>
    obtain ⟨rfl, rfl⟩ := Prod.mk.inj (Option.some.inj (hs.symm.trans h))
    rfl

theorem settle_of_none {c : Check} {w : World σ} (h : c.step tr w = none) : c.settle tr w = (c, w) := by
  rw [Check.settle]
  split
  · rfl
  · next hs => cases hs.symm.trans h

theorem settle_current (time : Instant) (due : List String) (got : List String) (id : String) (j : Job)
    (w : World σ) :
    Check.settle tr ⟨time, false, due, some (id, j), got⟩ w =
      Check.settle tr ⟨time, false, due, some (id, (j.settle tr w).1), got⟩ (j.settle tr w).2 := by
  fun_induction Job.settle tr j w with
  | case1 j w hn => rfl
  | case2 j w j' w' hs ih =>
    refine Eq.trans (settle_of_step ?_) ih
    simp [step, Job.result?_of_step hs, hs]

theorem collect_refreshed (c : Check) (a : Attempt) :
    c.collect a.tab.id a.answer.ending.refreshed =
      c.refreshed ++ ([a].filter Attempt.succeeds).map fun a => a.tab.id := by
  cases h : a.answer.ending <;> simp [Attempt.succeeds, h, Ending.refreshed, collect]

end Check

theorem tab?_of_mem {s : State} {t : Tab} (hd : (s.tabs.map (·.id)).Nodup) (ht : t ∈ s.tabs) :
    s.tab? t.id = some t :=
  find?_of_mem hd ht

theorem tabs_onTab {s : State} (hd : (s.tabs.map (·.id)).Nodup) (id : String) (f : Tab → Tab) :
    (s.onTab id f).tabs = s.tabs.map fun t => if t.id == id then f t else t := by
  show updateFirst _ f s.tabs = _
  generalize s.tabs = ts at hd
  induction ts with
  | nil => rfl
  | cons t ts ih =>
    obtain ⟨ht, hd⟩ := List.nodup_cons.mp hd
    unfold updateFirst
    by_cases hid : t.id = id
    · have hrest : ∀ u ∈ ts, (if u.id == id then f u else u) = u := by
        intro u hu
        have hne : u.id ≠ id := fun h => ht (List.mem_map.mpr ⟨u, hu, h.trans hid.symm⟩)
        simp [hne]
      rw [List.map_cons, (List.map_congr_left hrest).trans (List.map_id _)]
      simp [hid]
    · simp [hid, ih hd]

theorem Check.settle_next {t : Tab} (hq : (tr.connect t.request w.link).1.neverSilent = true)
    (time : Instant) (due got : List String) (hd : (w.state.tabs.map (·.id)).Nodup)
    (ht : t ∈ w.state.tabs) :
    let a : Attempt := ⟨t, ⟨w.nextSession⟩, (tr.connect t.request w.link).1⟩
    ∃ w₁, Check.settle tr ⟨time, false, t.id :: due, none, got⟩ w =
        Check.settle tr ⟨time, false, due, none,
          got ++ ([a].filter Attempt.succeeds).map fun a => a.tab.id⟩ w₁ ∧
      w₁.state.tabs = w.state.tabs.map (Tab.behind time [a]) ∧ w₁.opened = w.opened ++ [t.request] ∧
      w₁.link = (tr.connect t.request w.link).2 ∧ w₁.nextSession = w.nextSession + 1 := by
  intro a
  obtain ⟨w₁, hjob, htabs, hrest⟩ := Job.settle_refresh tr (tab?_of_mem hd ht) rfl hq time
  have htake : Check.step tr ⟨time, false, t.id :: due, none, got⟩ w =
      some (⟨time, false, due, some (t.id, .ofRefresh t.id (some time)), got⟩, w) := rfl
  have hcollect : Check.step tr ⟨time, false, due, some (t.id, ⟨.ended a.answer.ending.refreshed⟩), got⟩ w₁ =
      some (⟨time, false, due, none, got ++ ([a].filter Attempt.succeeds).map fun a => a.tab.id⟩, w₁) := by
    rw [← collect_refreshed ⟨time, false, due, none, got⟩ a]
    rfl
  refine ⟨w₁, ?_, ?_, hrest⟩
  · rw [settle_of_step htake, settle_current, hjob, settle_of_step hcollect]
  · rw [htabs, tabs_onTab hd]
    refine List.map_congr_left fun u _ => ?_
    by_cases hid : t.id = u.id
    · simp [Tab.behind, a, hid]
    · simp [Tab.behind, a, hid, Ne.symm hid]

/-- A check that has some of the tabs still to come makes one refresh for each of them. -/
theorem Check.settle_due (hq : ∀ request link, (tr.connect request link).1.neverSilent = true)
    (time : Instant) (ts : List Tab) (got : List String) (w : World σ)
    (hd : (w.state.tabs.map (·.id)).Nodup) (hts : ts.Sublist w.state.tabs) :
    let made := attempts tr ts w.nextSession w.link
    ∃ w', Check.settle tr ⟨time, false, ts.map (·.id), none, got⟩ w =
        (⟨time, false, [], none, got ++ (made.filter Attempt.succeeds).map fun a => a.tab.id⟩, w') ∧
      w'.opened = w.opened ++ ts.map Tab.request ∧
      w'.state.tabs = w.state.tabs.map (Tab.behind time made) := by
  induction ts generalizing got w with
  | nil =>
    refine ⟨w, ?_, by simp, ?_⟩
    · have hnone : Check.step tr ⟨time, false, [], none, got⟩ w = none := rfl
      simpa [attempts] using settle_of_none hnone
    · exact (List.map_id _).symm
  | cons t ts ih =>
    have hnodup : ((t :: ts).map (·.id)).Nodup := hd.sublist (hts.map _)
    have hfirst : t.id ∉ ts.map (·.id) := (List.nodup_cons.mp hnodup).1
    let a : Attempt := ⟨t, ⟨w.nextSession⟩, (tr.connect t.request w.link).1⟩
    obtain ⟨w₁, hnext, htabs, hopened, hlink, hnumber⟩ :=
      settle_next (hq t.request w.link) time (ts.map (·.id)) got hd (hts.subset List.mem_cons_self)
    have hids : w₁.state.tabs.map (·.id) = w.state.tabs.map (·.id) := by
      rw [htabs, List.map_map]
      exact List.map_congr_left fun u _ => (u.behind_keeps time [a]).1
    -- the tabs to come are other tabs, and still as they were
    have hts₁ : ts.Sublist w₁.state.tabs := by
      have hsame : ∀ u ∈ ts, u.behind time [a] = u := by
        refine fun u hu => Tab.behind_of_not_mem fun hid => hfirst ?_
        have hid' : u.id = t.id := by simpa [a] using hid
        exact List.mem_map.mpr ⟨u, hu, hid'⟩
      rw [htabs, ← (List.map_congr_left hsame).trans (List.map_id ts)]
      exact ((List.sublist_cons_self t ts).trans hts).map _
    obtain ⟨w', hsettle, hopened', htabs'⟩ :=
      ih (got ++ ([a].filter Attempt.succeeds).map fun a => a.tab.id) w₁ (hids ▸ hd) hts₁
    have hmade : attempts tr (t :: ts) w.nextSession w.link =
        a :: attempts tr ts w₁.nextSession w₁.link := by
      rw [hnumber, hlink]
      rfl
    rw [hmade]
    refine ⟨w', ?_, ?_, ?_⟩
    · rw [List.map_cons, hnext, hsettle, List.append_assoc, ← List.map_append, ← List.filter_append]
      rfl
    · rw [hopened', hopened]
      simp
    · rw [htabs', htabs, List.map_map]
      refine List.map_congr_left fun u _ => (Tab.behind_cons ?_ u).symm
      rw [ids_attempts]
      exact hfirst

/-! ## One check

A due tab is stamped with the time of the check, any other stays as it is, and
no tab is due any more at that time. -/

/-- The tabs that are due at a time. -/
def World.due (now : Instant) (w : World σ) : List Tab := w.state.tabs.filter fun t => t.isDue now

/-- The refreshes that a check at this time makes. -/
def World.refreshes (tr : Transport σ) (now : Instant) (w : World σ) : List Attempt :=
  attempts tr (w.due now) w.nextSession w.link

theorem ids_refreshes (tr : Transport σ) (now : Instant) (w : World σ) :
    (w.refreshes tr now).map (fun a => a.tab.id) = (w.due now).map (·.id) :=
  ids_attempts tr (w.due now) w.nextSession w.link

theorem behind_of_due (tr : Transport σ) {now : Instant} {t : Tab} (h : t ∈ w.due now) :
    (t.behind now (w.refreshes tr now)).refreshedAt = now := by
  have hmade : t.id ∈ (w.refreshes tr now).map fun a => a.tab.id :=
    ids_refreshes tr now w ▸ List.mem_map_of_mem h
  obtain ⟨session, answer, hbehind⟩ := Tab.behind_of_mem now hmade
  rw [hbehind]
  exact t.refreshedBy_stamp session now answer

theorem behind_of_not_due (hd : (w.state.tabs.map (·.id)).Nodup) {now : Instant} {t : Tab}
    (ht : t ∈ w.state.tabs) (h : t.isDue now = false) : t.behind now (w.refreshes tr now) = t := by
  refine Tab.behind_of_not_mem fun hid => ?_
  rw [ids_refreshes] at hid
  obtain ⟨u, hu, hid⟩ := List.mem_map.mp hid
  obtain ⟨hu, hdue⟩ := List.mem_filter.mp hu
  obtain rfl : u = t := List.inj_on_of_nodup_map hd hu ht hid
  exact absurd hdue (by simp [h])

section
variable (hq : ∀ request link, (tr.connect request link).1.neverSilent = true)
  (hd : (w.state.tabs.map (·.id)).Nodup) (now : Instant)
include hq hd

theorem check_eq :
    (Workspace.check tr now w).1 =
        ((w.refreshes tr now).filter Attempt.succeeds).map (fun a => a.tab.id) ∧
      (Workspace.check tr now w).2.opened = w.opened ++ (w.due now).map Tab.request ∧
      (Workspace.check tr now w).2.state.tabs =
        w.state.tabs.map (Tab.behind now (w.refreshes tr now)) := by
  obtain ⟨w', hsettle, hopened, htabs⟩ := Check.settle_due hq now (w.due now) [] w hd List.filter_sublist
  have hlook : Check.step tr (.ofTime now) w =
      some (⟨now, false, (w.due now).map (·.id), none, []⟩, w) := rfl
  have hcheck : Workspace.check tr now w =
      (((w.refreshes tr now).filter Attempt.succeeds).map (fun a => a.tab.id), w') := by
    simp only [Workspace.check, Check.settle_of_step hlook, hsettle]
    rfl
  rw [hcheck]
  exact ⟨rfl, hopened, htabs⟩

theorem ids_check : (Workspace.check tr now w).2.state.tabs.map (·.id) = w.state.tabs.map (·.id) := by
  rw [(check_eq hq hd now).2.2, List.map_map]
  exact List.map_congr_left fun t _ => (t.behind_keeps now _).1

theorem dueTabs_check : (Workspace.check tr now w).2.state.dueTabs now = [] := by
  rw [State.dueTabs, (check_eq hq hd now).2.2, List.map_eq_nil_iff, List.filter_eq_nil_iff]
  intro u hu
  obtain ⟨t, ht, rfl⟩ := List.mem_map.mp hu
  cases h : t.isDue now with
  | false => simp [behind_of_not_due hd ht h, h]
  | true =>
    have hstamp := behind_of_due tr (List.mem_filter.mpr ⟨ht, h⟩)
    simp [not_isDue_of_stamp (Int.le_of_eq (congrArg Instant.nanos hstamp).symm)]

/-- The tabs with this identifier have this interval, and a stamp not before this time. -/
def Stamped (id : String) (interval : RefreshInterval) (time : Instant) (w : World σ) : Prop :=
  ∀ t ∈ w.state.tabs, t.id = id → t.interval = interval ∧ time.nanos ≤ t.refreshedAt.nanos

/-- A check at any time keeps a stamp from going back: only a due tab gets a new one, which is at least
its interval later. -/
theorem Stamped.check {id : String} {interval : RefreshInterval} {time : Instant}
    (h : Stamped id interval time w) : Stamped id interval time (Workspace.check tr now w).2 := by
  intro u hu hid
  rw [(check_eq hq hd now).2.2] at hu
  obtain ⟨t, ht, rfl⟩ := List.mem_map.mp hu
  obtain ⟨hkeepId, hkeep⟩ := t.behind_keeps now (w.refreshes tr now)
  obtain ⟨hinterval, hstamp⟩ := h t ht (hkeepId ▸ hid)
  refine ⟨hkeep.trans hinterval, ?_⟩
  cases hdue : t.isDue now with
  | false =>
    rw [behind_of_not_due hd ht hdue]
    exact hstamp
  | true =>
    rw [behind_of_due tr (List.mem_filter.mpr ⟨ht, hdue⟩)]
    obtain ⟨-, -, hpassed⟩ := (isDue_iff t now).mp hdue
    simp only [Instant.after] at hpassed
    omega

end

/-! ## Checks one after the other

By induction on the times: identifiers and intervals stay, and stamps do not go
back. -/

/-- The world after checks at these times. -/
def World.checked (tr : Transport σ) (times : List Instant) (w : World σ) : World σ :=
  times.foldl (fun w time => (Workspace.check tr time w).2) w

theorem nodup_checked (hq : ∀ request link, (tr.connect request link).1.neverSilent = true)
    (hd : (w.state.tabs.map (·.id)).Nodup) (times : List Instant) :
    ((w.checked tr times).state.tabs.map (·.id)).Nodup := by
  induction times generalizing w with
  | nil => exact hd
  | cons time times ih => exact ih (ids_check hq hd time ▸ hd)

theorem Stamped.checked (hq : ∀ request link, (tr.connect request link).1.neverSilent = true)
    (hd : (w.state.tabs.map (·.id)).Nodup) {id : String} {interval : RefreshInterval}
    {time : Instant} (h : Stamped id interval time w) (times : List Instant) :
    Stamped id interval time (w.checked tr times) := by
  induction times generalizing w with
  | nil => exact h
  | cons now times ih => exact ih (ids_check hq hd now ▸ hd) (h.check hq hd now)

/-- A check, whatever checks have been made before it, opens one run for each tab that is pinned and
whose interval has passed since its stamp, in the order of the tabs and whatever comes of the others, and
for no other tab. It gives back the tabs whose run is completed, in this order. Every due tab is then
stamped with the time of the check and no other tab is changed, so that no tab is due at this time. After
any further checks such a tab is not due before its interval has passed again. -/
theorem one_refresh_per_interval (tr : Transport σ)
    (hq : ∀ request link, (tr.connect request link).1.neverSilent = true) (w : World σ)
    (hd : (w.state.tabs.map (·.id)).Nodup) (before : List Instant) (now : Instant) :
    let w₀ := w.checked tr before
    let w₁ := (Workspace.check tr now w₀).2
    let made := w₀.refreshes tr now
    (∀ t, t ∈ w₀.due now ↔ t ∈ w₀.state.tabs ∧ t.pinned = true ∧ t.interval.seconds ≠ 0 ∧
      (t.refreshedAt.after t.interval.seconds).nanos ≤ now.nanos) ∧
    (w₀.due now).Sublist w₀.state.tabs ∧
    made.map (·.tab) = w₀.due now ∧
    w₁.opened = w₀.opened ++ (w₀.due now).map Tab.request ∧
    (Workspace.check tr now w₀).1 = (made.filter Attempt.succeeds).map (fun a => a.tab.id) ∧
    w₁.state.tabs = w₀.state.tabs.map (Tab.behind now made) ∧
    (∀ t ∈ w₀.due now, (t.behind now made).refreshedAt = now) ∧
    (∀ t ∈ w₀.state.tabs, t ∉ w₀.due now → t.behind now made = t) ∧
    w₁.state.dueTabs now = [] ∧
    ∀ t ∈ w₀.due now, ∀ (between : List Instant) (later : Instant),
      t.id ∈ (w₁.checked tr between).state.dueTabs later →
        (now.after t.interval.seconds).nanos ≤ later.nanos := by
  intro w₀ w₁ made
  have hd₀ : (w₀.state.tabs.map (·.id)).Nodup := nodup_checked hq hd before
  have hd₁ : (w₁.state.tabs.map (·.id)).Nodup := ids_check hq hd₀ now ▸ hd₀
  obtain ⟨hids, hopened, htabs⟩ := check_eq hq hd₀ now
  refine ⟨fun t => ?_, List.filter_sublist, map_tab_attempts tr _ _ _, hopened, hids, htabs,
    fun t ht => behind_of_due tr ht, fun t ht hnot => ?_, dueTabs_check hq hd₀ now, ?_⟩
  · rw [World.due, List.mem_filter, isDue_iff]
  · refine behind_of_not_due hd₀ ht (Bool.eq_false_iff.mpr fun hdue => hnot ?_)
    exact List.mem_filter.mpr ⟨ht, hdue⟩
  · intro t ht between later hlater
    have hstamped : Stamped t.id t.interval now w₁ := by
      intro u hu hid
      rw [htabs] at hu
      obtain ⟨v, hv, rfl⟩ := List.mem_map.mp hu
      obtain ⟨hkeepId, hkeep⟩ := v.behind_keeps now made
      obtain rfl : v = t :=
        List.inj_on_of_nodup_map hd₀ hv (List.mem_filter.mp ht).1 (hkeepId.symm.trans hid)
      exact ⟨hkeep, Int.le_of_eq (congrArg Instant.nanos (behind_of_due tr ht)).symm⟩
    obtain ⟨u, hu, hid⟩ := List.mem_map.mp hlater
    obtain ⟨hu, hdue⟩ := List.mem_filter.mp hu
    obtain ⟨hinterval, hstamp⟩ := hstamped.checked hq hd₁ between u hu hid
    obtain ⟨-, -, hpassed⟩ := (isDue_iff u later).mp hdue
    simp only [Instant.after, hinterval] at hpassed ⊢
    omega

/-- Two of three tabs are due; the refresh of the first fails. -/
theorem one_refresh_per_interval_of_three :
    let tr : Transport Nat := ⟨fun _ n => (if n = 0 then .opened [.event (.error "down")] else
      .opened [.event (.complete [])], n + 1)⟩
    let tab (id : String) (interval : RefreshInterval) : Tab :=
      { Tab.create ⟨⟨"1"⟩, "disk", "", none⟩ ⟨id, "web", none, none, .synthetic 80⟩ [] [] ⟨7⟩ with
        id := id, pinned := true, interval := interval }
    let w : World Nat :=
      { clock := ⟨0⟩, link := 0,
        state := { tabs := [tab "a" .halfMinute, tab "b" .minute, tab "c" .halfMinute] } }
    let now : Instant := ⟨30000000007⟩
    (∀ request link, (tr.connect request link).1.neverSilent = true) ∧
      (w.state.tabs.map (·.id)).Nodup ∧ w.due now = [tab "a" .halfMinute, tab "c" .halfMinute] ∧
      w.due ⟨30000000006⟩ = [] ∧ (Workspace.check tr now w).1 = ["c"] ∧
      (Workspace.check tr now w).2.opened = [⟨"disk", "a"⟩, ⟨"disk", "c"⟩] ∧
      (Workspace.check tr now w).2.state.dueTabs now = [] := by
  intro tr tab w now
  have hq : ∀ request link, (tr.connect request link).1.neverSilent = true := by
    intro request link
    simp only [tr]
    split <;> rfl
  have hd : (w.state.tabs.map (·.id)).Nodup := by decide
  obtain ⟨-, -, -, hopened, hids, -, -, -, hnone, -⟩ := one_refresh_per_interval tr hq w hd [] now
  exact ⟨hq, hd, by decide, by decide, hids.trans (by decide), hopened.trans (by decide), hnone⟩

end ScanConsole
