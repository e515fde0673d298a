import Mathlib.Data.List.Induction
import ScanConsole.Proofs.Failures

/-!
# Identifiers of tabs

A pair has one tab, but a tab is addressed by its identifier: the address, the
plugin name and the milliseconds of its opening, joined by hyphens.

    address-name-milliseconds

All three parts can hold hyphens, so two pairs can get one identifier, and what
is meant for one tab then goes to another (`one_id_for_two_tabs`).

What the identifier keeps is read back from both its ends (`idFor_inj`): no time
from 1970 on has a hyphen in it, and of what is left the pair is known once one
of its parts has none either. So `tab_of_id` has two assumptions. No tab was
opened before 1970; and the addresses of all tabs are without hyphens, or the
names of all plugins are. It is not enough that each tab has one part without.

Of tabs whose identifiers can be read back in this way no two share one: every
tab holds the card with which it was opened (`card_of_applyAll`), and pairs are
distinct. Where identifiers are distinct, what is addressed to a tab reaches
that tab and no other (`State.ReachedAlone`).

The second tab of a pair takes the place of the first, and never stands beside
it, so it does no harm if both were opened in one millisecond.
-/

namespace ScanConsole

/-! ## Reading an identifier

The milliseconds are behind the last hyphen. The rest is cut at its first one if
the address has none, and at its last one if the name has none. -/

section
variable {α : Type} {mark : α} {xs ys xs' ys' : List α}

theorem cut_at_first (hxs : mark ∉ xs) (hys : mark ∉ ys) (h : xs ++ mark :: xs' = ys ++ mark :: ys') :
    xs = ys ∧ xs' = ys' := by
  induction xs generalizing ys with
  | nil =>
    cases ys with
    | nil => exact ⟨rfl, (List.cons.inj h).2⟩
    | cons y ys => exact absurd ((List.cons.inj h).1 ▸ List.mem_cons_self) hys
  | cons x xs ih =>
    cases ys with
    | nil => exact absurd ((List.cons.inj h).1 ▸ List.mem_cons_self) hxs
    | cons y ys =>
      obtain ⟨rfl, hrest⟩ := List.cons.inj h
      have hcut := ih (fun hm => hxs (List.mem_cons_of_mem _ hm))
        (fun hm => hys (List.mem_cons_of_mem _ hm)) hrest
      exact ⟨congrArg _ hcut.1, hcut.2⟩

theorem cut_at_last (hxs' : mark ∉ xs') (hys' : mark ∉ ys')
    (h : xs ++ mark :: xs' = ys ++ mark :: ys') : xs = ys ∧ xs' = ys' := by
  have hrev := congrArg List.reverse h
  simp only [List.reverse_append, List.reverse_cons, List.append_assoc, List.singleton_append] at hrev
  obtain ⟨hback, hfront⟩ := cut_at_first (fun hm => hxs' (List.mem_reverse.mp hm))
    (fun hm => hys' (List.mem_reverse.mp hm)) hrev
  exact ⟨List.reverse_injective hfront, List.reverse_injective hback⟩

end

theorem hyphen_not_mem_millis {now : Instant} (h : 0 ≤ now.nanos) :
    '-' ∉ (toString now.millis).toList := by
  obtain ⟨n, hn⟩ := Int.eq_ofNat_of_zero_le (show 0 ≤ now.millis from Int.ediv_nonneg h (by decide))
  rw [hn]
  intro hm
  have hdigit : '-'.isDigit = true :=
    Nat.isDigit_of_mem_toDigits (by decide) (Nat.le_refl 10) (Nat.toList_repr ▸ hm)
  revert hdigit
  decide

/-- The pair is read back from an identifier when the time is written in digits, and the address or the
plugin name holds no hyphen. -/
theorem idFor_inj {a a' n n' : String} {now now' : Instant} (hnow : 0 ≤ now.nanos)
    (hnow' : 0 ≤ now'.nanos)
    (hplain : ('-' ∉ a.toList ∧ '-' ∉ a'.toList) ∨ ('-' ∉ n.toList ∧ '-' ∉ n'.toList))
    (h : Tab.idFor a n now = Tab.idFor a' n' now') : (a, n) = (a', n') := by
  have hchars := congrArg String.toList h
  simp only [Tab.idFor, String.toList_append] at hchars
  have hpair : a.toList ++ '-' :: n.toList = a'.toList ++ '-' :: n'.toList :=
    (cut_at_last (hyphen_not_mem_millis hnow) (hyphen_not_mem_millis hnow')
      (by simpa using hchars)).1
  have hparts : a.toList = a'.toList ∧ n.toList = n'.toList := by
    rcases hplain with ⟨ha, ha'⟩ | ⟨hn, hn'⟩
    · exact cut_at_first ha ha' hpair
    · exact cut_at_last hn hn' hpair
  exact Prod.ext (String.toList_injective hparts.1) (String.toList_injective hparts.2)

/-! ## Cards come from openings

A tab after an action was there before with the same card, unless the action
opens it. No action changes a card. -/

def Action.opening? : Action → Option Tab
  | .tabCreated tab => some tab
  | _ => none

/-- The tabs that were opened, in this order. -/
def openings (told : List Action) : List Tab := told.filterMap Action.opening?

theorem mem_openings {told : List Action} {tab : Tab} : tab ∈ openings told ↔ .tabCreated tab ∈ told := by
  refine ⟨fun h => ?_, fun h => List.mem_filterMap.mpr ⟨_, h, rfl⟩⟩
  obtain ⟨a, ha, hopen⟩ := List.mem_filterMap.mp h
  cases a with
  | tabCreated tab' =>
    cases hopen
    exact ha
  | _ => cases hopen

/-- A tab after an action was there before with the same card, unless the action opens it. -/
theorem card_of_apply {s : State} {a : Action} {t : Tab} (ht : t ∈ (s.apply a).tabs) :
    (∃ u ∈ s.tabs, u.card = t.card) ∨ a = .tabCreated t := by
  have hc := tabChange_apply s a
  generalize (s.apply a).tabs = us at hc ht
  cases hc with
  | kept _ => exact .inl ⟨t, ht, rfl⟩
  | updated id f _ hcard _ =>
    left
    have hmem : t.card ∈ s.tabs.map Tab.card :=
      map_updateFirst hcard s.tabs ▸ List.mem_map_of_mem ht
    obtain ⟨u, hu, hsame⟩ := List.mem_map.mp hmem
    exact ⟨u, hu, hsame⟩
  | added new ha _ =>
    rcases List.mem_append.mp ht with hold | hnew
    · exact .inl ⟨t, hold, rfl⟩
    · rw [List.mem_singleton.mp hnew]
      exact .inr ha
  | replaced new old before after ha hs _ _ =>
    rw [hs]
    rcases List.mem_append.mp ht with hold | hnew
    · exact .inl ⟨t, List.mem_append_left _ hold, rfl⟩
    · rcases List.mem_cons.mp hnew with rfl | hold
      · exact .inr ha
      · exact .inl ⟨t, List.mem_append_right _ (List.mem_cons_of_mem _ hold), rfl⟩
  | refused id _ _ => exact .inl ⟨t, ht, rfl⟩
  | closed old before after _ hs _ _ =>
    rw [hs]
    rcases List.mem_append.mp ht with hold | hold
    · exact .inl ⟨t, List.mem_append_left _ hold, rfl⟩
    · exact .inl ⟨t, List.mem_append_right _ (List.mem_cons_of_mem _ hold), rfl⟩
  | swept _ => exact .inl ⟨t, (List.mem_filter.mp ht).1, rfl⟩

/-- Every tab holds the card with which it was opened. -/
theorem card_of_applyAll {actions : List Action} {t : Tab}
    (ht : t ∈ (State.applyAll {} actions).tabs) : ∃ u ∈ openings actions, u.card = t.card := by
  induction actions using List.reverseRecOn generalizing t with
  | nil => cases ht
  | append_singleton actions a ih =>
    rw [State.applyAll, List.foldl_concat] at ht
    rw [openings, List.filterMap_append]
    rcases card_of_apply ht with ⟨u, hu, hcard⟩ | rfl
    · obtain ⟨v, hv, hsame⟩ := ih hu
      exact ⟨v, List.mem_append_left _ hv, hsame.trans hcard⟩
    · exact ⟨t, List.mem_append_right _ List.mem_cons_self, rfl⟩

/-- Identifiers are distinct when tabs of different pairs were opened with different ones. -/
theorem nodup_ids_applyAll {actions : List Action}
    (h : ∀ u ∈ openings actions, ∀ u' ∈ openings actions, u.id = u'.id → u.pair = u'.pair) :
    ((State.applyAll {} actions).tabs.map (·.id)).Nodup := by
  have hpairs := pairs_nodup_applyAll actions
  refine List.Nodup.map_on ?_ (List.Nodup.of_map _ hpairs)
  intro t ht t' ht' hid
  obtain ⟨u, hu, hcard⟩ := card_of_applyAll ht
  obtain ⟨u', hu', hcard'⟩ := card_of_applyAll ht'
  have hsame : u.id = u'.id :=
    (congrArg Tab.Card.id hcard).trans (hid.trans (congrArg Tab.Card.id hcard').symm)
  refine List.inj_on_of_nodup_map hpairs ht ht' ?_
  calc t.pair = u.pair := (congrArg Tab.Card.pair hcard).symm
    _ = u'.pair := h u hu u' hu' hsame
    _ = t'.pair := congrArg Tab.Card.pair hcard'

/-! ## One tab for an identifier

An action leaves a tab alone when it addresses another one. -/

/-- The tab is as a run opens it. -/
def Tab.IsNew (t : Tab) : Prop := t = .create t.plugin t.resource t.results t.logs t.createdAt

theorem Tab.IsNew.id_eq {t : Tab} (h : t.IsNew) :
    t.id = Tab.idFor t.resource.address t.plugin.name t.createdAt := by
  unfold Tab.IsNew at h
  rw [h]
  rfl

/-- The action changes the tab with this identifier, and opens or closes none. -/
def Action.edits? : Action → Option String
  | .tabRefreshed id _ _ _ => some id
  | .tabRefreshFailed id _ _ => some id
  | .tabPinned id _ => some id
  | .refreshIntervalSet id _ _ => some id
  | _ => none

theorem edit_of_edits {a : Action} {t : Tab} (h : a.edits? ≠ some t.id) : a.edit t = t := by
  cases a <;> first
    | rfl
    | exact if_neg fun hid => h (congrArg some (eq_of_beq hid).symm)

theorem rearranges_of_edits {a : Action} {id : String} (h : a.edits? = some id) :
    a.rearranges = false := by
  cases a <;> first
    | rfl
    | cases h

/-- What is addressed to a tab between these others reaches this tab, and no other. -/
structure State.ReachedAlone (s : State) (before : List Tab) (t : Tab) (after : List Tab) : Prop where
  found : s.tab? t.id = some t
  edited : ∀ a, a.edits? = some t.id → (s.apply a).tabs = before ++ a.edit t :: after
  closed : (s.apply (.tabClosed t.id)).tabs = if t.pinned then s.tabs else before ++ after
  activated : (s.apply (.tabActivated t.id)).active? = some t ∧
    (s.apply (.tabActivated t.id)).tabs = s.tabs

/-- Identifiers that are distinct reach one tab each. -/
theorem State.reachedAlone {s : State} (hd : (s.tabs.map (·.id)).Nodup) {before after : List Tab}
    {t : Tab} (hs : s.tabs = before ++ t :: after) : s.ReachedAlone before t after := by
  have ht : t ∈ s.tabs := hs ▸ List.mem_append_right _ List.mem_cons_self
  have hfound : s.tab? t.id = some t := tab?_of_mem hd ht
  have hothers : ∀ u ∈ before ++ after, u.id ≠ t.id := by
    rw [hs, List.map_append, List.map_cons] at hd
    intro u hu hid
    refine (List.nodup_cons.mp (List.perm_middle.nodup_iff.mp hd)).1 ?_
    rw [← List.map_append, ← hid]
    exact List.mem_map_of_mem hu
  refine ⟨hfound, ?_, ?_, ?_⟩
  · intro a ha
    have hsame : ∀ us : List Tab, (∀ u ∈ us, u ∈ before ++ after) → us.map a.edit = us := by
      intro us hus
      refine (List.map_congr_left fun u hu => ?_).trans (List.map_id us)
      refine edit_of_edits fun hedits => hothers u (hus u hu) ?_
      exact Option.some.inj (hedits.symm.trans ha)
    rw [tabs_apply hd (rearranges_of_edits ha), hs, List.map_append, List.map_cons,
      hsame before fun u hu => List.mem_append_left _ hu,
      hsame after fun u hu => List.mem_append_right _ hu]
  · show (s.closeTab t.id).tabs = _
    rcases tabs_closeTab s t.id with ⟨h, hp⟩ | ⟨old, l, r, hs', hid, hp, -, h⟩
    · rw [h, if_pos (hp t hfound)]
    · have hold : old ∈ s.tabs := hs' ▸ List.mem_append_right _ List.mem_cons_self
      obtain rfl : old = t := List.inj_on_of_nodup_map hd hold ht hid
      have hcut : l = before ∧ r = after := by
        have hnot : ∀ us vs : List Tab, s.tabs = us ++ old :: vs → old ∉ us := by
          intro us vs hus hmem
          have hnodup := List.Nodup.of_map _ hd
          rw [hus] at hnodup
          exact (List.nodup_append.mp hnodup).2.2 old hmem old List.mem_cons_self rfl
        exact cut_at_first (hnot l r hs') (hnot before after hs) (hs'.symm.trans hs)
      rw [h, if_neg (by simp [hp]), hcut.1, hcut.2]
  · have hact : s.apply (.tabActivated t.id) = { s with activeTab := some t.id, view := .scanResults } :=
      if_pos (by rw [hfound]; rfl)
    rw [hact]
    exact ⟨hfound, rfl⟩

/-- However the console came to its state, as long as no tab was opened before 1970 and either all
addresses or all plugin names of opened tabs are without hyphens: no two tabs have one identifier, and
what is addressed to a tab reaches this tab alone. -/
theorem tab_of_id {actions : List Action}
    (hnew : ∀ t, .tabCreated t ∈ actions → t.IsNew ∧ 0 ≤ t.createdAt.nanos)
    (hplain : (∀ t, .tabCreated t ∈ actions → '-' ∉ t.resource.address.toList) ∨
      ∀ t, .tabCreated t ∈ actions → '-' ∉ t.plugin.name.toList) :
    ((State.applyAll {} actions).tabs.map (·.id)).Nodup ∧
      ∀ before t after, (State.applyAll {} actions).tabs = before ++ t :: after →
        (State.applyAll {} actions).ReachedAlone before t after := by
  have hd : ((State.applyAll {} actions).tabs.map (·.id)).Nodup := by
    refine nodup_ids_applyAll fun u hu u' hu' hid => ?_
    have hu := mem_openings.mp hu
    have hu' := mem_openings.mp hu'
    rw [(hnew u hu).1.id_eq, (hnew u' hu').1.id_eq] at hid
    refine idFor_inj (hnew u hu).2 (hnew u' hu').2 ?_ hid
    exact hplain.imp (fun h => ⟨h u hu, h u' hu'⟩) fun h => ⟨h u hu, h u' hu'⟩
  exact ⟨hd, fun before t after hs => State.reachedAlone hd hs⟩

/-- Two tabs of plugins with hyphens in their names, opened at one time. -/
theorem tab_of_id_two_tabs :
    let resource : Resource := ⟨"::1", "web", none, none, .synthetic 80⟩
    let first := Tab.create ⟨⟨"1"⟩, "disk-use", "", none⟩ resource [] [] ⟨1000000⟩
    let second := Tab.create ⟨⟨"2"⟩, "disk", "", none⟩ resource [] [] ⟨1000000⟩
    let actions : List Action := [.tabCreated first, .tabCreated second]
    (∀ t, .tabCreated t ∈ actions → t.IsNew ∧ 0 ≤ t.createdAt.nanos) ∧
      (∀ t, .tabCreated t ∈ actions → '-' ∉ t.resource.address.toList) ∧
      (State.applyAll {} actions).tabs = [first, second] ∧
      ((State.applyAll {} actions).apply (.tabPinned second.id true)).tabs =
        [first, { second with pinned := true }] := by
  intro resource first second actions
  have hnew : ∀ t, Action.tabCreated t ∈ actions → t.IsNew ∧ 0 ≤ t.createdAt.nanos := by
    intro t ht
    obtain rfl | rfl : t = first ∨ t = second := by simpa [actions] using ht
    · exact ⟨rfl, by decide⟩
    · exact ⟨rfl, by decide⟩
  have hplain : ∀ t, Action.tabCreated t ∈ actions → '-' ∉ t.resource.address.toList := by
    intro t ht
    obtain rfl | rfl : t = first ∨ t = second := by simpa [actions] using ht
    · decide
    · decide
  have htabs : (State.applyAll {} actions).tabs = [first, second] := by decide
  have hreached := (tab_of_id hnew (.inl hplain)).2 [first] second [] htabs
  refine ⟨hnew, hplain, htabs, (hreached.edited (.tabPinned second.id true) rfl).trans ?_⟩
  simp [Action.edit]

/-- A hyphen may belong to the address or to the plugin name: two tabs have one identifier, and the pin
meant for the second one goes to the first. -/
theorem one_id_for_two_tabs :
    let first := Tab.create ⟨⟨"1"⟩, "disk", "", none⟩ ⟨"web-a", "a", none, none, .synthetic 80⟩ [] []
      ⟨1000000⟩
    let second := Tab.create ⟨⟨"2"⟩, "a-disk", "", none⟩ ⟨"web", "b", none, none, .synthetic 80⟩ [] []
      ⟨1000000⟩
    let s := State.applyAll {} [.tabCreated first, .tabCreated second]
    s.tabs = [first, second] ∧ ¬ (s.tabs.map (·.id)).Nodup ∧
      (s.apply (.tabPinned second.id true)).tabs = [{ first with pinned := true }, second] := by
  decide

/-- Before 1970 the sign of the time may belong to the plugin name. -/
example : Tab.idFor "web" "disk" ⟨-5000000⟩ = Tab.idFor "web" "disk-" ⟨5000000⟩ := by decide

end ScanConsole
