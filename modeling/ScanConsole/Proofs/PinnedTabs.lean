import ScanConsole.Proofs.Tabs

/-!
# Pinned tabs

A pinned tab is let go by two kinds of actions only: the pin is taken off, or a
new tab of its pair replaces it (`Action.releases`). All other actions keep it,
and keep it in its place among the other pinned tabs: the cards of the pinned
tabs that an action does not release stand in the same order among those of the
pinned tabs after it (`pinnedCards_apply`).

    (pinnedCards s.tabs).filter (!a.releases ·)
      <+ pinnedCards (s.apply a).tabs

From there it goes along the actions (`pinned_tabs_stay`). Neither of the two
asks that identifiers be distinct. The step therefore goes along the list: an
edit and a closing reach the first tab with an identifier, which need not be the
pinned one, and a tab that was closed was not pinned.
-/

namespace ScanConsole

/-- The action lets go of the pinned tab with this card. -/
def Action.releases (a : Action) (c : Tab.Card) : Bool :=
  match a with
  | .tabPinned id pinned => id == c.id && !pinned
  | .tabCreated new => new.pair == c.pair
  | _ => false

/-- The cards of the pinned tabs. -/
def pinnedCards (ts : List Tab) : List Tab.Card := (ts.filter fun t => t.pinned).map Tab.card

theorem pinnedCards_append (ts us : List Tab) :
    pinnedCards (ts ++ us) = pinnedCards ts ++ pinnedCards us := by
  simp [pinnedCards]

theorem pinnedCards_cons (t : Tab) (ts : List Tab) :
    pinnedCards (t :: ts) = pinnedCards [t] ++ pinnedCards ts :=
  pinnedCards_append [t] ts

theorem pinnedCards_of_unpinned {t : Tab} (h : t.pinned = false) : pinnedCards [t] = [] := by
  simp [pinnedCards, h]

theorem pinnedCards_of_pinned {t : Tab} (h : t.pinned = true) : pinnedCards [t] = [t.card] := by
  simp [pinnedCards, h]

/-! ## One action

A tab is edited in its place, taken out, or another is put at the end or in the
place of the one with its pair. -/

theorem pinnedCards_instead {t u : Tab} {keeps : Tab.Card → Bool}
    (h : keeps t.card = true → t.pinned = true → u.card = t.card ∧ u.pinned = true) :
    ((pinnedCards [t]).filter keeps).Sublist (pinnedCards [u]) := by
  cases ht : t.pinned with
  | false =>
    rw [pinnedCards_of_unpinned ht]
    exact List.nil_sublist _
  | true =>
    rw [pinnedCards_of_pinned ht]
    cases hk : keeps t.card with
    | false =>
      rw [List.filter_cons_of_neg (by simp [hk])]
      exact List.nil_sublist _
    | true =>
      obtain ⟨hcard, hu⟩ := h hk ht
      rw [pinnedCards_of_pinned hu, hcard]
      exact List.filter_sublist

theorem pinnedCards_updateFirst {p : Tab → Bool} {f : Tab → Tab} {keeps : Tab.Card → Bool}
    (h : ∀ t, p t = true → keeps t.card = true → t.pinned = true →
      (f t).card = t.card ∧ (f t).pinned = true) (ts : List Tab) :
    ((pinnedCards ts).filter keeps).Sublist (pinnedCards (updateFirst p f ts)) := by
  induction ts with
  | nil => exact List.Sublist.refl _
  | cons t ts ih =>
    cases hp : p t with
    | false =>
      have hup : updateFirst p f (t :: ts) = t :: updateFirst p f ts := by simp [updateFirst, hp]
      rw [hup, pinnedCards_cons t ts, pinnedCards_cons t (updateFirst p f ts), List.filter_append]
      exact List.filter_sublist.append ih
    | true =>
      have hup : updateFirst p f (t :: ts) = f t :: ts := by simp [updateFirst, hp]
      rw [hup, pinnedCards_cons t ts, pinnedCards_cons (f t) ts, List.filter_append]
      exact (pinnedCards_instead (h t hp)).append List.filter_sublist

/-- An action keeps the pinned tabs that it does not release, in their order. -/
theorem pinnedCards_apply (s : State) (a : Action) :
    ((pinnedCards s.tabs).filter fun c => !a.releases c).Sublist (pinnedCards (s.apply a).tabs) := by
  have hc := tabChange_apply s a
  generalize (s.apply a).tabs = us at hc ⊢
  cases hc with
  | kept _ => exact List.filter_sublist
  | updated id f _ hcard hpin =>
    refine pinnedCards_updateFirst (fun t ht hkeep htp => ⟨hcard t, ?_⟩) s.tabs
    rcases hpin t htp with h | rfl
    · exact h
    · -- the pin is taken off just this tab, so the action releases it
      have hid : t.id = id := by simpa using ht
      simp [Action.releases, Tab.card, hid] at hkeep
  | added new _ _ =>
    rw [pinnedCards_append]
    exact List.filter_sublist.trans (List.sublist_append_left _ _)
  | replaced new old before after ha hs hold _ =>
    subst ha
    have hinstead : ((pinnedCards [old]).filter fun c => !(Action.tabCreated new).releases c).Sublist
        (pinnedCards [new]) := by
      refine pinnedCards_instead fun hkeep _ => ?_
      simp [Action.releases, Tab.card, hold] at hkeep
    rw [hs, pinnedCards_append, pinnedCards_append, pinnedCards_cons old, pinnedCards_cons new,
      List.filter_append, List.filter_append]
    exact List.filter_sublist.append (hinstead.append List.filter_sublist)
  | refused id _ _ => exact List.filter_sublist
  | closed old before after _ hs hp _ =>
    rw [hs, pinnedCards_append, pinnedCards_cons old, pinnedCards_of_unpinned hp, List.nil_append,
      ← pinnedCards_append]
    exact List.filter_sublist
  | swept _ =>
    have hswept : pinnedCards (s.tabs.filter fun t => t.pinned) = pinnedCards s.tabs := by
      simp [pinnedCards]
    rw [hswept]
    exact List.filter_sublist

/-! ## Several actions

Cards that no action releases are kept by each. -/

theorem pinnedCards_applyAll {s : State} {actions : List Action} {cards : List Tab.Card}
    (h : cards.Sublist (pinnedCards s.tabs))
    (hfree : ∀ a ∈ actions, ∀ c ∈ cards, a.releases c = false) :
    cards.Sublist (pinnedCards (s.applyAll actions).tabs) := by
  refine List.foldlRecOn (motive := fun s : State => cards.Sublist (pinnedCards s.tabs)) actions
    State.apply h fun s hs a ha => ?_
  have hkeep : (cards.filter fun c => !a.releases c) = cards := by
    rw [List.filter_eq_self]
    intro c hc
    simp [hfree a ha c hc]
  rw [← hkeep]
  exact (hs.filter _).trans (pinnedCards_apply s a)

/-- Pinned tabs, taken in the order in which they stand, are still there after any actions that neither
take the pin off one of their identifiers nor open a new tab for one of their pairs: pinned tabs with
their identifiers, labels, pairs and times of creation, in the same order. -/
theorem pinned_tabs_stay (s : State) (actions : List Action) (ts : List Tab)
    (hts : ts.Sublist s.tabs) (hpinned : ∀ t ∈ ts, t.pinned = true)
    (hunpin : ∀ t ∈ ts, Action.tabPinned t.id false ∉ actions)
    (hreplace : ∀ t ∈ ts, ∀ new, Action.tabCreated new ∈ actions → new.pair ≠ t.pair) :
    ∃ us : List Tab, us.Sublist (s.applyAll actions).tabs ∧ (∀ u ∈ us, u.pinned = true) ∧
      us.map Tab.card = ts.map Tab.card := by
  have hcards : (ts.map Tab.card).Sublist (pinnedCards s.tabs) := by
    have hself : ts.filter (fun t => t.pinned) = ts := List.filter_eq_self.mpr hpinned
    rw [← hself]
    exact (hts.filter _).map _
  have hfree : ∀ a ∈ actions, ∀ c ∈ ts.map Tab.card, a.releases c = false := by
    intro a ha c hc
    obtain ⟨t, ht, rfl⟩ := List.mem_map.mp hc
    cases a with
    | tabPinned id pinned =>
      cases pinned with
      | true => simp [Action.releases]
      | false =>
        have hne : id ≠ t.id := by
          rintro rfl
          exact hunpin t ht ha
        simpa [Action.releases, Tab.card] using hne
    | tabCreated new => simpa [Action.releases, Tab.card] using hreplace t ht new ha
    | _ => rfl
  have hrun : (ts.map Tab.card).Sublist (pinnedCards (s.applyAll actions).tabs) :=
    pinnedCards_applyAll hcards hfree
  obtain ⟨us, hus, heq⟩ := List.sublist_map_iff.mp hrun
  exact ⟨us, hus.trans List.filter_sublist,
    fun u hu => (List.mem_filter.mp (hus.subset hu)).2, heq.symm⟩

/-- Two pinned tabs, the first one behind an unpinned tab with its identifier. -/
theorem pinned_tabs_stay_twins :
    let tab (id address : String) (pinned : Bool) : Tab :=
      { Tab.create ⟨⟨"1"⟩, "disk", "", none⟩ ⟨address, "web", none, none, .synthetic 80⟩ [] [] ⟨0⟩ with
        id := id, pinned := pinned }
    let s : State := { tabs := [tab "a" "::1" false, tab "a" "::2" true, tab "b" "::3" true] }
    let actions : List Action :=
      [.tabClosed "a", .tabClosed "a", .tabRefreshed "a" [] ["up"] ⟨5⟩, .tabCreated (tab "b" "::4" false),
        .tabRefreshFailed "b" ⟨1⟩ ⟨6⟩, .tabPinned "c" false, .tabsClosedAll]
    s.tabs.length = 3 ∧ (s.applyAll actions).tabs.length = 2 ∧
      ∃ us : List Tab, us.Sublist (s.applyAll actions).tabs ∧ (∀ u ∈ us, u.pinned = true) ∧
        us.map Tab.card = [(tab "a" "::2" true).card, (tab "b" "::3" true).card] := by
  intro tab s actions
  refine ⟨rfl, by decide, ?_⟩
  refine pinned_tabs_stay s actions [tab "a" "::2" true, tab "b" "::3" true] ?_ ?_ ?_ ?_
  · exact List.sublist_cons_self _ _
  · decide
  · decide
  · intro t ht new hnew
    obtain rfl : new = tab "b" "::4" false := by simpa [actions] using hnew
    revert t
    decide

end ScanConsole
