import ScanConsole.Proofs.Sessions

/-!
# What actions do to tabs

Tabs are looked up in two ways, by the pair of a new tab and by an identifier,
and identifiers need not be distinct. `TabChange` lists what an action can make
of the list of tabs, and `tabChange_apply` says that there is nothing else:

    kept        each tab at its place, with its card and perhaps another pin
    added       a new tab at the end, if there was none of its pair
    replaced    a new tab in the place of the first of its pair
    closed      the first tab with an identifier is gone, which was not pinned
    swept       all tabs are gone that were not pinned

Two things are read off it:

    an action that neither opens nor closes tabs leaves each one the tab
    it is                                               (`cards_apply`)
    no two tabs get the same pair                       (`pairs_nodup_apply`)

The main statement is `one_tab_per_pair`: however the console came to its state
there is one tab for a pair, a new tab stands at the end or in the place of the
tab of its pair, and closing only takes away. It holds of every sequence of
actions from the state at the beginning, since each of them keeps pairs
distinct; how tabs come by their identifiers is of no concern.

What can be said where identifiers are distinct, and when they are, is left to
other modules. Here everything goes along the list.
-/

namespace ScanConsole

/-! ## The first member, once more

The list is cut at the first member that satisfies the condition, and nothing
before it does. -/

section
variable {α : Type} {p : α → Bool} {xs : List α}

theorem none_or_first (p : α → Bool) (xs : List α) :
    (∀ x ∈ xs, p x = false) ∨
      ∃ before x after, xs = before ++ x :: after ∧ p x = true ∧ ∀ y ∈ before, p y = false := by
  cases h : xs.find? p with
  | none =>
    left
    intro x hx
    exact Bool.eq_false_iff.mpr (List.find?_eq_none.mp h x hx)
  | some x =>
    obtain ⟨hx, before, after, hxs, hbefore⟩ := List.find?_eq_some_iff_append.mp h
    exact .inr ⟨before, x, after, hxs, hx, fun y hy => by simpa using hbefore y hy⟩

theorem replaceFirstOrAppend_of_none {b : α} (h : ∀ x ∈ xs, p x = false) :
    replaceFirstOrAppend p b xs = xs ++ [b] := by
  induction xs with
  | nil => rfl
  | cons x xs ih =>
    have hx : p x = false := h x List.mem_cons_self
    have hxs := ih fun y hy => h y (List.mem_cons_of_mem _ hy)
    simp [replaceFirstOrAppend, hx, hxs]

theorem replaceFirstOrAppend_append_cons {b x : α} {before after : List α} (hx : p x = true)
    (h : ∀ y ∈ before, p y = false) :
    replaceFirstOrAppend p b (before ++ x :: after) = before ++ b :: after := by
  induction before with
  | nil => simp [replaceFirstOrAppend, hx]
  | cons y before ih =>
    have hy : p y = false := h y List.mem_cons_self
    have hbefore := ih fun z hz => h z (List.mem_cons_of_mem _ hz)
    simp [replaceFirstOrAppend, hy, hbefore]

end

/-! ## The ways in which tabs change

A card is what a tab is known by from its opening on, and no action changes
one. -/

/-- What a tab is known by from its opening on. -/
structure Tab.Card where
  id : String
  label : String
  pair : String × String
  createdAt : Instant
  deriving DecidableEq

def Tab.card (t : Tab) : Tab.Card := ⟨t.id, t.label, t.pair, t.createdAt⟩

theorem Tab.isFor_iff (t new : Tab) :
    t.isFor new.resource.address new.plugin.name = true ↔ t.pair = new.pair := by
  simp [Tab.isFor, Tab.pair]

theorem Tab.isFor_eq_false (t new : Tab) :
    t.isFor new.resource.address new.plugin.name = false ↔ t.pair ≠ new.pair := by
  rw [ne_eq, ← Tab.isFor_iff, Bool.not_eq_true]

/-- The action opens a tab or closes some. -/
def Action.rearranges : Action → Bool
  | .tabCreated _ => true
  | .tabClosed _ => true
  | .tabsClosedAll => true
  | _ => false

inductive TabChange (a : Action) (ts : List Tab) : List Tab → Prop
  | kept : a.rearranges = false → TabChange a ts ts
  /-- The first tab with an identifier changes, but for its card; only `tabPinned` takes a pin off. -/
  | updated (id : String) (f : Tab → Tab) : a.rearranges = false → (∀ t, (f t).card = t.card) →
      (∀ t, t.pinned = true → (f t).pinned = true ∨ a = .tabPinned id false) →
      TabChange a ts (updateFirst (fun t => t.id == id) f ts)
  | added (new : Tab) : a = .tabCreated new → (∀ t ∈ ts, t.pair ≠ new.pair) →
      TabChange a ts (ts ++ [new])
  | replaced (new old : Tab) (before after : List Tab) : a = .tabCreated new →
      ts = before ++ old :: after → old.pair = new.pair → (∀ t ∈ before, t.pair ≠ new.pair) →
      TabChange a ts (before ++ new :: after)
  /-- There is no tab with the identifier, or the first one is pinned. -/
  | refused (id : String) : a = .tabClosed id →
      (∀ t, ts.find? (fun t => t.id == id) = some t → t.pinned = true) → TabChange a ts ts
  | closed (old : Tab) (before after : List Tab) : a = .tabClosed old.id →
      ts = before ++ old :: after → old.pinned = false → (∀ t ∈ before, t.id ≠ old.id) →
      TabChange a ts (before ++ after)
  | swept : a = .tabsClosedAll → TabChange a ts (ts.filter fun t => t.pinned)

/-! ## What single effects leave alone

Refreshes, failures and dismissals change other fields, and the sessions. -/

theorem dismiss_eq (s : State) (id : SessionId) : ∃ xs, s.dismiss id = { s with sessions := xs } := by
  unfold State.dismiss
  split
  · split
    · exact ⟨_, rfl⟩
    · exact ⟨s.sessions, rfl⟩
  · exact ⟨s.sessions, rfl⟩

theorem dropFailed_eq (s : State) (failed : Option SessionId) :
    ∃ xs, s.dropFailed failed = { s with sessions := xs } := by
  cases failed with
  | none => exact ⟨s.sessions, rfl⟩
  | some id => exact ⟨_, rfl⟩

theorem refreshTab_eq (s : State) (id : String) (results : List Screen) (logs : List String)
    (time : Instant) :
    s.refreshTab id results logs time = s ∨
      ∃ f xs, (∀ t, (f t).card = t.card) ∧ (∀ t, (f t).pinned = t.pinned) ∧
        s.refreshTab id results logs time = { s.onTab id f with sessions := xs } := by
  unfold State.refreshTab
  split
  · exact .inl rfl
  · next tab _ =>
    right
    let f : Tab → Tab := fun t =>
      { t with results := results, logs := logs, refreshedAt := time, failedSession := none }
    obtain ⟨xs, h⟩ := dropFailed_eq (s.onTab id f) tab.failedSession
    exact ⟨f, xs, fun _ => rfl, fun _ => rfl, h⟩

theorem failRefresh_eq (s : State) (id : String) (session : SessionId) (time : Instant) :
    s.failRefresh id session time = s ∨
      ∃ f xs, (∀ t, (f t).card = t.card) ∧ (∀ t, (f t).pinned = t.pinned) ∧
        s.failRefresh id session time = { s.onTab id f with sessions := xs } := by
  unfold State.failRefresh
  split
  · exact .inl rfl
  · next tab _ =>
    right
    let f : Tab → Tab := fun t => { t with refreshedAt := time, failedSession := some session }
    obtain ⟨xs, h⟩ := dropFailed_eq (s.onTab id f)
      (tab.failedSession.filter fun previous => previous != session)
    exact ⟨f, xs, fun _ => rfl, fun _ => rfl, h⟩

theorem activate_cases (s : State) (id : String) :
    s.activate id = s ∨ ∃ t ∈ s.tabs, t.id = id ∧
      s.activate id = { s with activeTab := some id, view := .scanResults } := by
  unfold State.activate
  split
  · next hopen =>
    right
    obtain ⟨t, ht⟩ := Option.isSome_iff_exists.mp hopen
    have hid : t.id = id := by simpa using List.find?_some ht
    exact ⟨t, List.mem_of_find?_eq_some ht, hid, rfl⟩
  · exact .inl rfl

theorem newestTab?_mem {ts : List Tab} {t : Tab} (h : newestTab? ts = some t) : t ∈ ts := by
  induction ts generalizing t with
  | nil => cases h
  | cons u ts ih =>
    unfold newestTab? at h
    split at h
    · cases h
      exact List.mem_cons_self
    · next v hv =>
      split at h
      · cases h
        exact List.mem_cons_self
      · cases h
        exact List.mem_cons_of_mem _ (ih hv)

theorem newestTab?_eq_none {ts : List Tab} (h : newestTab? ts = none) : ts = [] := by
  cases ts with
  | nil => rfl
  | cons u ts =>
    unfold newestTab? at h
    split at h
    · cases h
    · split at h <;> cases h

theorem fallBack_cases (s : State) :
    (s.tabs = [] ∧ s.fallBack = { s with activeTab := none, view := .directory }) ∨
      ∃ t, newestTab? s.tabs = some t ∧ s.fallBack = { s with activeTab := some t.id } := by
  unfold State.fallBack
  cases h : newestTab? s.tabs with
  | none => exact .inl ⟨newestTab?_eq_none h, rfl⟩
  | some t => exact .inr ⟨t, rfl, rfl⟩

theorem tabs_fallBack (s : State) : s.fallBack.tabs = s.tabs := by
  rcases fallBack_cases s with ⟨-, h⟩ | ⟨t, -, h⟩
  · rw [h]
  · rw [h]

/-! ## Opening and closing

Closing the tab in front brings another there, which is a matter of the front
and not of the list. -/

def State.withTabs (ts : List Tab) (s : State) : State := { s with tabs := ts }

/-- A new tab stands at the end, or in the place of the first tab of its pair. -/
theorem tabs_createTab (s : State) (new : Tab) :
    ((∀ t ∈ s.tabs, t.pair ≠ new.pair) ∧ (s.createTab new).tabs = s.tabs ++ [new]) ∨
      ∃ old before after, s.tabs = before ++ old :: after ∧ old.pair = new.pair ∧
        (∀ t ∈ before, t.pair ≠ new.pair) ∧ (s.createTab new).tabs = before ++ new :: after := by
  let p : Tab → Bool := fun t => t.isFor new.resource.address new.plugin.name
  show (_ ∧ replaceFirstOrAppend p new s.tabs = _) ∨
    ∃ old before after, _ ∧ _ ∧ _ ∧ replaceFirstOrAppend p new s.tabs = _
  rcases none_or_first p s.tabs with h | ⟨before, old, after, hs, ho, hb⟩
  · left
    exact ⟨fun t ht => (t.isFor_eq_false new).mp (h t ht), replaceFirstOrAppend_of_none h⟩
  · right
    refine ⟨old, before, after, hs, (old.isFor_iff new).mp ho, fun t ht => ?_, ?_⟩
    · exact (t.isFor_eq_false new).mp (hb t ht)
    · rw [hs]
      exact replaceFirstOrAppend_append_cons ho hb

/-- Closing a tab is refused, or the first tab with the identifier goes; if the identifier is that of
the tab in front, another tab comes there. -/
theorem closeTab_cases (s : State) (id : String) :
    (s.closeTab id = s ∧ ∀ t, s.tab? id = some t → t.pinned = true) ∨
      ∃ old before after, s.tabs = before ++ old :: after ∧ old.id = id ∧ old.pinned = false ∧
        (∀ t ∈ before, t.id ≠ id) ∧
        s.closeTab id =
          if s.activeTab = some id then (s.withTabs (before ++ after)).fallBack
          else s.withTabs (before ++ after) := by
  unfold State.closeTab
  cases ht : s.tab? id with
  | none =>
    left
    exact ⟨rfl, fun t h => by cases h⟩
  | some old =>
    dsimp only
    cases hp : old.pinned with
    | true =>
      left
      refine ⟨rfl, fun t h => ?_⟩
      cases h
      exact hp
    | false =>
      right
      obtain ⟨hid, before, after, hs, hb⟩ := List.find?_eq_some_iff_append.mp ht
      have hbefore : ∀ t ∈ before, ¬(t.id == id) = true := fun t hmem => by simpa using hb t hmem
      have herase : s.tabs.eraseP (fun t => t.id == id) = before ++ after := by
        rw [hs, List.eraseP_append_right _ hbefore]
        simp [hid]
      refine ⟨old, before, after, hs, by simpa using hid, hp, fun t hmem => ?_, ?_⟩
      · simpa using hbefore t hmem
      · simp only [herase, beq_iff_eq, Bool.false_eq_true, if_false]
        rfl

def State.swept (s : State) : State := s.withTabs (s.tabs.filter fun t => t.pinned)

/-- Closing all tabs leaves the pinned ones; if none of them is in front, another tab comes there. -/
theorem closeAllTabs_eq (s : State) :
    s.closeAllTabs = if s.swept.active?.isSome then s.swept else s.swept.fallBack := by
  show (if s.swept.tabs.isEmpty then s.swept.fallBack
    else if s.swept.active?.isSome then s.swept else s.swept.fallBack) = _
  split
  · next hempty =>
    have hnone : s.swept.active? = none := by
      rw [List.isEmpty_iff] at hempty
      cases h : s.swept.activeTab <;> simp [State.active?, State.tab?, h, hempty]
    rw [hnone]
    rfl
  · rfl

theorem tabs_closeTab (s : State) (id : String) :
    ((s.closeTab id).tabs = s.tabs ∧ ∀ t, s.tab? id = some t → t.pinned = true) ∨
      ∃ old before after, s.tabs = before ++ old :: after ∧ old.id = id ∧ old.pinned = false ∧
        (∀ t ∈ before, t.id ≠ id) ∧ (s.closeTab id).tabs = before ++ after := by
  rcases closeTab_cases s id with ⟨h, hp⟩ | ⟨old, before, after, hs, hid, hp, hb, h⟩
  · left
    rw [h]
    exact ⟨rfl, hp⟩
  · right
    refine ⟨old, before, after, hs, hid, hp, hb, ?_⟩
    rw [h]
    split
    · exact tabs_fallBack _
    · rfl

theorem tabs_closeAllTabs (s : State) : s.closeAllTabs.tabs = s.tabs.filter fun t => t.pinned := by
  rw [closeAllTabs_eq]
  split
  · rfl
  · exact tabs_fallBack _

/-! ## All actions

One case for each action. -/

/-- Nothing else can become of the tabs. -/
theorem tabChange_apply (s : State) (a : Action) : TabChange a s.tabs (s.apply a).tabs := by
  cases a with
  | executionDismissed id =>
    show TabChange _ _ (s.dismiss id).tabs
    obtain ⟨xs, h⟩ := dismiss_eq s id
    rw [h]; exact .kept rfl
  | tabCreated new =>
    show TabChange _ _ (s.createTab new).tabs
    rcases tabs_createTab s new with ⟨hnew, h⟩ | ⟨old, before, after, hs, hold, hb, h⟩
    · rw [h]; exact .added new rfl hnew
    · rw [h]; exact .replaced new old before after rfl hs hold hb
  | tabRefreshed id results logs time =>
    show TabChange _ _ (s.refreshTab id results logs time).tabs
    rcases refreshTab_eq s id results logs time with h | ⟨f, xs, hcard, hpin, h⟩
    · rw [h]; exact .kept rfl
    · rw [h]; exact .updated id f rfl hcard fun t ht => .inl ((hpin t).trans ht)
  | tabRefreshFailed id session time =>
    show TabChange _ _ (s.failRefresh id session time).tabs
    rcases failRefresh_eq s id session time with h | ⟨f, xs, hcard, hpin, h⟩
    · rw [h]; exact .kept rfl
    · rw [h]; exact .updated id f rfl hcard fun t ht => .inl ((hpin t).trans ht)
  | tabPinned id pinned =>
    refine .updated id _ rfl (fun _ => rfl) fun t _ => ?_
    cases pinned with
    | true => exact .inl rfl
    | false => exact .inr rfl
  | refreshIntervalSet id interval time =>
    exact .updated id _ rfl (fun _ => rfl) fun _ h => .inl h
  | tabActivated id =>
    show TabChange _ _ (s.activate id).tabs
    rcases activate_cases s id with h | ⟨t, -, -, h⟩
    · rw [h]; exact .kept rfl
    · rw [h]; exact .kept rfl
  | tabClosed id =>
    show TabChange _ _ (s.closeTab id).tabs
    rcases tabs_closeTab s id with ⟨h, hp⟩ | ⟨old, before, after, hs, rfl, hp, hb, h⟩
    · rw [h]; exact .refused id rfl hp
    · rw [h]; exact .closed old before after rfl hs hp hb
  | tabsClosedAll =>
    show TabChange _ _ s.closeAllTabs.tabs
    rw [tabs_closeAllTabs]; exact .swept rfl
  | _ => exact .kept rfl

/-! ## Cards and pairs

A card has the pair in it, so where cards stay pairs do. -/

/-- Where no tab is opened or closed, the tabs stay, each at its place, the tabs that they are. -/
theorem cards_apply {a : Action} (ha : a.rearranges = false) (s : State) :
    (s.apply a).tabs.map Tab.card = s.tabs.map Tab.card := by
  have hc := tabChange_apply s a
  generalize (s.apply a).tabs = us at hc ⊢
  cases hc with
  | kept _ => rfl
  | updated id f _ hf _ => exact map_updateFirst hf s.tabs
  | added new h _ => rw [h] at ha; cases ha
  | replaced new old before after h _ _ _ => rw [h] at ha; cases ha
  | refused id h _ => rfl
  | closed old before after h _ _ _ => rw [h] at ha; cases ha
  | swept h => rw [h] at ha; cases ha

theorem map_apply_of_card {β : Type} {a : Action} (ha : a.rearranges = false) (s : State)
    (g : Tab.Card → β) : ((s.apply a).tabs.map fun t => g t.card) = s.tabs.map fun t => g t.card := by
  simpa only [List.map_map, Function.comp_def] using congrArg (List.map g) (cards_apply ha s)

theorem pairs_nodup_apply {s : State} (a : Action) (h : (s.tabs.map Tab.pair).Nodup) :
    ((s.apply a).tabs.map Tab.pair).Nodup := by
  have hc := tabChange_apply s a
  generalize (s.apply a).tabs = us at hc ⊢
  cases hc with
  | kept _ => exact h
  | updated id f _ hf _ =>
    have hpair : ∀ t, (f t).pair = t.pair := fun t => congrArg Tab.Card.pair (hf t)
    rwa [map_updateFirst hpair]
  | added new _ hnew =>
    rw [List.map_append, List.nodup_append]
    refine ⟨h, by simp, fun q hq r hr => ?_⟩
    obtain ⟨t, ht, rfl⟩ := List.mem_map.mp hq
    obtain rfl : r = new.pair := by simpa using hr
    exact hnew t ht
  | replaced new old before after _ hs hold _ =>
    rw [hs, List.map_append, List.map_cons, hold] at h
    rwa [List.map_append, List.map_cons]
  | refused id _ _ => exact h
  | closed old before after _ hs _ _ =>
    have hsub : (before ++ after).Sublist s.tabs := by
      rw [hs]
      exact (List.sublist_cons_self old after).append_left before
    exact h.sublist (hsub.map _)
  | swept _ => exact h.sublist (List.filter_sublist.map _)

theorem pairs_nodup_applyAll (actions : List Action) :
    ((State.applyAll {} actions).tabs.map Tab.pair).Nodup := by
  refine List.foldlRecOn (motive := fun s : State => (s.tabs.map Tab.pair).Nodup) actions _ ?_ ?_
  · exact List.nodup_nil
  · intro s hs a _
    exact pairs_nodup_apply a hs

/-- A pair has one tab at most, whatever actions brought the console to its state; and every action
leaves the pairs in their order: a new pair comes in at the end, a new tab of a pair takes the place of
the old one between the others, and closing only takes tabs away. -/
theorem one_tab_per_pair :
    (∀ actions, ((State.applyAll {} actions).tabs.map Tab.pair).Nodup) ∧
    ∀ (s : State) (a : Action),
      match a with
      | .tabCreated new =>
        ((∀ t ∈ s.tabs, t.pair ≠ new.pair) ∧ (s.apply a).tabs = s.tabs ++ [new]) ∨
          ∃ old before after, s.tabs = before ++ old :: after ∧ old.pair = new.pair ∧
            (∀ t ∈ before, t.pair ≠ new.pair) ∧ (s.apply a).tabs = before ++ new :: after
      | .tabClosed id =>
        ((s.apply a).tabs = s.tabs ∧ ∀ t, s.tab? id = some t → t.pinned = true) ∨
          ∃ old before after, s.tabs = before ++ old :: after ∧ old.id = id ∧ old.pinned = false ∧
            (∀ t ∈ before, t.id ≠ id) ∧ (s.apply a).tabs = before ++ after
      | .tabsClosedAll => (s.apply a).tabs = s.tabs.filter fun t => t.pinned
      | _ => (s.apply a).tabs.map Tab.pair = s.tabs.map Tab.pair := by
  refine ⟨pairs_nodup_applyAll, ?_⟩
  intro s a
  cases a with
  | tabCreated new => exact tabs_createTab s new
  | tabClosed id => exact tabs_closeTab s id
  | tabsClosedAll => exact tabs_closeAllTabs s
  | _ => exact map_apply_of_card rfl s Tab.Card.pair

end ScanConsole
