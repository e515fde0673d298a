import ScanConsole.Proofs.Tabs

/-!
# The tab in front

Opening, activating and closing tabs write which tab is in front, and closing
may take that tab away. `State.HasFront` is what every action keeps: one of the
open tabs is in front, or none is open.

    s.HasFront → (s.apply a).HasFront                       (`hasFront_apply`)
    (State.applyAll {} actions).HasFront                    (`hasFront_applyAll`)

What `closing_cases` says of a closing is enough for both halves of the main
statement, `active_tab_exists`: another tab comes to the front only if some tab
is left, and the view moves to the directory just when the last one has gone.
The second half needs the first: the last tab is in front.

Identifiers need not be distinct here. The front is an identifier, and where two
tabs share it, closing one of them leaves the other in front; the invariant asks
only that some open tab has it. `active_tab_exists_twins` is such a case.
-/

namespace ScanConsole

/-! ## An open tab is in front

Only identifiers count: what changes tabs but keeps their identifiers keeps the
front (`State.HasFront.congr`). With no tab open there is nothing to fall back
to, and the directory comes into view (`fallBack_of_nil`). -/

/-- One of the open tabs is in front, or none is open. -/
def State.HasFront (s : State) : Prop :=
  (s.tabs = [] ∧ s.activeTab = none) ∨ ∃ t ∈ s.tabs, s.activeTab = some t.id

theorem hasFront_fallBack (s : State) : s.fallBack.HasFront := by
  rcases fallBack_cases s with ⟨hnil, h⟩ | ⟨t, ht, h⟩
  · rw [h]
    exact .inl ⟨hnil, rfl⟩
  · rw [h]
    exact .inr ⟨t, newestTab?_mem ht, rfl⟩

theorem fallBack_of_nil {s : State} (hnil : s.tabs = []) :
    s.fallBack.activeTab = none ∧ s.fallBack.view = .directory := by
  rcases fallBack_cases s with ⟨-, h⟩ | ⟨t, ht, -⟩
  · rw [h]
    exact ⟨rfl, rfl⟩
  · rw [hnil] at ht
    cases ht

theorem view_fallBack {s : State} (hne : s.tabs ≠ []) : s.fallBack.view = s.view := by
  rcases fallBack_cases s with ⟨hnil, -⟩ | ⟨t, -, h⟩
  · exact absurd hnil hne
  · rw [h]

theorem State.HasFront.congr {s s' : State} (h : s.HasFront)
    (hid : (s'.tabs.map fun t => t.id) = s.tabs.map fun t => t.id)
    (ha : s'.activeTab = s.activeTab) : s'.HasFront := by
  rcases h with ⟨htabs, hnone⟩ | ⟨t, ht, hsome⟩
  · left
    rw [htabs, List.map_nil, List.map_eq_nil_iff] at hid
    exact ⟨hid, ha.trans hnone⟩
  · right
    have hmem : t.id ∈ s'.tabs.map fun t => t.id := hid ▸ List.mem_map_of_mem ht
    obtain ⟨u, hu, heq⟩ := List.mem_map.mp hmem
    exact ⟨u, hu, by rw [ha, hsome, ← heq]⟩

theorem State.HasFront.active? {s : State} (h : s.HasFront) (hne : s.tabs ≠ []) :
    s.active?.isSome = true := by
  rcases h with ⟨hnil, -⟩ | ⟨t, ht, hsome⟩
  · exact absurd hnil hne
  · simp only [State.active?, hsome, Option.bind_some, State.tab?, List.find?_isSome]
    exact ⟨t, ht, beq_self_eq_true _⟩

theorem hasFront_of_active? {s : State} (h : s.active?.isSome = true) : s.HasFront := by
  cases hid : s.activeTab with
  | none => simp [State.active?, hid] at h
  | some id =>
    simp only [State.active?, hid, Option.bind_some, State.tab?, List.find?_isSome] at h
    obtain ⟨t, ht, heq⟩ := h
    exact .inr ⟨t, ht, by rw [hid, beq_iff_eq.mp heq]⟩

/-! ## What is in front after an action

An action that does not move the front leaves tab and view where they are
(`front_apply`). One that closes tabs changes nothing, or takes tabs away: of
what it leaves, one is in front as before, or the newest one comes there. -/

/-- The action may bring another tab or another view to the front. -/
def Action.movesFront : Action → Bool
  | .viewSelected _ => true
  | .tabCreated _ => true
  | .tabActivated _ => true
  | .tabClosed _ => true
  | .tabsClosedAll => true
  | _ => false

theorem front_apply {a : Action} (ha : a.movesFront = false) (s : State) :
    (s.apply a).activeTab = s.activeTab ∧ (s.apply a).view = s.view := by
  cases a with
  | viewSelected view => cases ha
  | tabCreated new => cases ha
  | tabActivated id => cases ha
  | tabClosed id => cases ha
  | tabsClosedAll => cases ha
  | executionDismissed id =>
    show (s.dismiss id).activeTab = _ ∧ (s.dismiss id).view = _
    obtain ⟨xs, h⟩ := dismiss_eq s id
    rw [h]; exact ⟨rfl, rfl⟩
  | tabRefreshed id results logs time =>
    show (s.refreshTab id results logs time).activeTab = _ ∧
      (s.refreshTab id results logs time).view = _
    rcases refreshTab_eq s id results logs time with h | ⟨f, xs, -, -, h⟩
    · rw [h]; exact ⟨rfl, rfl⟩
    · rw [h]; exact ⟨rfl, rfl⟩
  | tabRefreshFailed id session time =>
    show (s.failRefresh id session time).activeTab = _ ∧ (s.failRefresh id session time).view = _
    rcases failRefresh_eq s id session time with h | ⟨f, xs, -, -, h⟩
    · rw [h]; exact ⟨rfl, rfl⟩
    · rw [h]; exact ⟨rfl, rfl⟩
  | _ => exact ⟨rfl, rfl⟩

theorem hasFront_createTab (s : State) (new : Tab) : (s.createTab new).HasFront := by
  right
  refine ⟨new, ?_, rfl⟩
  rcases tabs_createTab s new with ⟨-, h⟩ | ⟨old, before, after, -, -, -, h⟩
  · rw [h]
    exact List.mem_append_right _ (List.mem_singleton_self new)
  · rw [h]
    exact List.mem_append_right _ List.mem_cons_self

theorem hasFront_activate {s : State} (h : s.HasFront) (id : String) : (s.activate id).HasFront := by
  rcases activate_cases s id with hs | ⟨t, ht, hid, hs⟩
  · rwa [hs]
  · rw [hs]
    exact .inr ⟨t, ht, by rw [hid]⟩

/-- An action that closes tabs changes nothing, or takes tabs away: of what it leaves one is in front as
before, or the newest one comes there. -/
theorem closing_cases {s : State} (h : s.HasFront) {a : Action}
    (ha : (∃ id, a = .tabClosed id) ∨ a = .tabsClosedAll) :
    s.apply a = s ∨ ∃ ts, (s.apply a = s.withTabs ts ∧ ts ≠ [] ∧ (s.withTabs ts).HasFront) ∨
      s.apply a = (s.withTabs ts).fallBack := by
  rcases ha with ⟨id, rfl⟩ | rfl
  · show s.closeTab id = s ∨ ∃ ts, (s.closeTab id = _ ∧ _) ∨ s.closeTab id = _
    rcases closeTab_cases s id with ⟨hs, -⟩ | ⟨old, before, after, hs, hid, -, -, hclose⟩
    · exact .inl hs
    · right
      refine ⟨before ++ after, ?_⟩
      rw [hclose]
      by_cases hfront : s.activeTab = some id
      · right
        rw [if_pos hfront]
      · left
        rw [if_neg hfront]
        -- the tab in front has another identifier, so it is not the one that goes
        obtain ⟨t, ht, hsome⟩ : ∃ t ∈ s.tabs, s.activeTab = some t.id := by
          rcases h with ⟨hnil, -⟩ | hopen
          · rw [hnil] at hs
            simp at hs
          · exact hopen
        have hne : t ≠ old := by
          rintro rfl
          exact hfront (by rw [hsome, hid])
        have hmem : t ∈ before ++ after := by
          rw [hs] at ht
          simpa [hne] using ht
        exact ⟨rfl, List.ne_nil_of_mem hmem, .inr ⟨t, hmem, hsome⟩⟩
  · show s.closeAllTabs = s ∨ ∃ ts, (s.closeAllTabs = _ ∧ _) ∨ s.closeAllTabs = _
    right
    refine ⟨s.tabs.filter fun t => t.pinned, ?_⟩
    rw [closeAllTabs_eq]
    by_cases hfront : s.swept.active?.isSome = true
    · left
      rw [if_pos hfront]
      have hswept : s.swept.HasFront := hasFront_of_active? hfront
      refine ⟨rfl, ?_, hswept⟩
      rcases hswept with ⟨-, hnone⟩ | ⟨t, ht, -⟩
      · simp [State.active?, hnone] at hfront
      · exact List.ne_nil_of_mem ht
    · right
      rw [if_neg hfront]
      rfl

theorem hasFront_closing {s : State} (h : s.HasFront) {a : Action}
    (ha : (∃ id, a = .tabClosed id) ∨ a = .tabsClosedAll) : (s.apply a).HasFront := by
  rcases closing_cases h ha with hs | ⟨ts, ⟨hs, -, hfront⟩ | hs⟩
  · rwa [hs]
  · rwa [hs]
  · rw [hs]
    exact hasFront_fallBack _

theorem hasFront_apply {s : State} (h : s.HasFront) (a : Action) : (s.apply a).HasFront := by
  cases a with
  | viewSelected view => exact h
  | tabCreated new => exact hasFront_createTab s new
  | tabActivated id => exact hasFront_activate h id
  | tabClosed id => exact hasFront_closing h (.inl ⟨id, rfl⟩)
  | tabsClosedAll => exact hasFront_closing h (.inr rfl)
  | _ => exact h.congr (map_apply_of_card rfl s Tab.Card.id) (front_apply rfl s).1

theorem hasFront_applyAll (actions : List Action) : (State.applyAll {} actions).HasFront := by
  refine List.foldlRecOn (motive := State.HasFront) actions State.apply ?_ ?_
  · exact .inl ⟨rfl, rfl⟩
  · intro s h a _
    exact hasFront_apply h a

theorem view_closing {s : State} (h : s.HasFront) {a : Action}
    (ha : (∃ id, a = .tabClosed id) ∨ a = .tabsClosedAll) (hne : (s.apply a).tabs ≠ s.tabs) :
    ((s.apply a).tabs = [] → (s.apply a).activeTab = none ∧ (s.apply a).view = .directory) ∧
      ((s.apply a).tabs ≠ [] → (s.apply a).view = s.view) := by
  rcases closing_cases h ha with hs | ⟨ts, ⟨hs, hts, -⟩ | hs⟩
  · rw [hs] at hne
    exact absurd rfl hne
  · rw [hs]
    exact ⟨fun hnil => absurd hnil hts, fun _ => rfl⟩
  · rw [hs, tabs_fallBack]
    exact ⟨fallBack_of_nil, view_fallBack⟩

/-- Whatever actions brought the console to its state, a tab is in front just when one is open, and it
is one of the open tabs. When a closing takes the last tab away, no tab is in front any more and the
directory is shown; when it takes tabs away and some are left, the view stays. -/
theorem active_tab_exists (actions : List Action) :
    let s := State.applyAll {} actions
    (s.activeTab = none ↔ s.tabs = []) ∧
    (∀ id, s.activeTab = some id → ∃ t ∈ s.tabs, t.id = id) ∧
    (s.tabs ≠ [] → s.active?.isSome = true) ∧
    ∀ a, (∃ id, a = .tabClosed id) ∨ a = .tabsClosedAll → (s.apply a).tabs ≠ s.tabs →
      ((s.apply a).tabs = [] → (s.apply a).activeTab = none ∧ (s.apply a).view = .directory) ∧
        ((s.apply a).tabs ≠ [] → (s.apply a).view = s.view) := by
  intro s
  have h : s.HasFront := hasFront_applyAll actions
  refine ⟨?_, ?_, h.active?, fun a ha hne => view_closing h ha hne⟩
  · rcases h with ⟨hnil, hnone⟩ | ⟨t, ht, hsome⟩
    · simp [hnil, hnone]
    · simp [hsome, List.ne_nil_of_mem ht]
  · intro id hid
    rcases h with ⟨-, hnone⟩ | ⟨t, ht, hsome⟩
    · rw [hnone] at hid
      cases hid
    · rw [hsome] at hid
      exact ⟨t, ht, Option.some.inj hid⟩

/-- Two tabs of one identifier: the first closing takes one away and leaves the view, the second takes
the last one. -/
theorem active_tab_exists_twins :
    let tab (address : String) : Tab :=
      { Tab.create ⟨⟨"1"⟩, "disk", "", none⟩ ⟨address, "web", none, none, .synthetic 80⟩ [] [] ⟨0⟩ with
        id := "a" }
    let s := State.applyAll {} [.tabCreated (tab "::1"), .tabCreated (tab "::2")]
    let s' := s.apply (.tabClosed "a")
    (s'.tabs ≠ s.tabs ∧ s'.tabs ≠ [] ∧ s'.view = s.view) ∧
      (s'.apply (.tabClosed "a")).tabs = [] ∧ (s'.apply (.tabClosed "a")).activeTab = none ∧
        (s'.apply (.tabClosed "a")).view = .directory := by
  intro tab s s'
  have hfirst := (active_tab_exists [.tabCreated (tab "::1"), .tabCreated (tab "::2")]).2.2.2
    (.tabClosed "a") (.inl ⟨"a", rfl⟩) (by decide)
  have hsecond := (active_tab_exists
    [.tabCreated (tab "::1"), .tabCreated (tab "::2"), .tabClosed "a"]).2.2.2
    (.tabClosed "a") (.inl ⟨"a", rfl⟩) (by decide)
  exact ⟨⟨by decide, by decide, hfirst.2 (by decide)⟩, rfl, hsecond.1 rfl⟩

end ScanConsole
