import ScanConsole.Proofs.ActiveTab
import ScanConsole.Proofs.TabIds

/-!
# The tab that comes to the front

When the tab in front is closed and others are left, the one that was opened
last comes to the front. The state does not keep the order in which tabs were
opened: a tab that takes the place of another stands where that one stood. It
keeps the times of opening, which nothing changes (`card_of_applyAll`), and
takes the tab with the latest.

`newest_comes_to_front` says this of the order of opening. It has two
assumptions about the history, both of which are facts about the clock: tabs
were opened at times one after the other, and each under an identifier of its
own. With two tabs of one time the state could not tell which came last, and
takes the one that stands later in the list.

Then the tab with the latest time is the one opened last: of two tabs in the
list of openings one stands before the other, and the times say which
(`sublist_openings`).
-/

namespace ScanConsole

/-! ## The latest of some tabs

Of two members of a list one stands before the other. -/

theorem createdAt_le_newestTab? {ts : List Tab} {t u : Tab} (h : newestTab? ts = some t) (hu : u ∈ ts) :
    u.createdAt.nanos ≤ t.createdAt.nanos := by
  induction ts generalizing t u with
  | nil => cases h
  | cons v ts ih =>
    unfold newestTab? at h
    cases hnewest : newestTab? ts with
    | none =>
      rw [hnewest] at h
      cases h
      rw [newestTab?_eq_none hnewest] at hu
      exact Int.le_of_eq (by rw [List.mem_singleton.mp hu])
    | some w =>
      simp only [hnewest] at h
      split at h
      · next hlt =>
        cases h
        rcases List.mem_cons.mp hu with rfl | hu
        · exact Int.le_refl _
        · exact Int.le_of_lt (Int.lt_of_le_of_lt (ih hnewest hu) hlt)
      · next hle =>
        cases h
        rcases List.mem_cons.mp hu with rfl | hu
        · exact Int.not_lt.mp hle
        · exact ih hnewest hu

theorem sublist_or_sublist {α : Type} {x y : α} {l : List α} (hx : x ∈ l) (hy : y ∈ l) (hne : x ≠ y) :
    [x, y].Sublist l ∨ [y, x].Sublist l := by
  induction l with
  | nil => cases hx
  | cons z l ih =>
    rcases List.mem_cons.mp hx with rfl | hx'
    · have hy' := (List.mem_cons.mp hy).resolve_left fun h => hne h.symm
      exact .inl ((List.singleton_sublist.mpr hy').cons_cons x)
    · rcases List.mem_cons.mp hy with rfl | hy'
      · exact .inr ((List.singleton_sublist.mpr hx').cons_cons y)
      · exact (ih hx' hy').imp (fun h => h.cons z) fun h => h.cons z

theorem sublist_openings {told : List Action}
    (htimes : (openings told).Pairwise fun t u => t.createdAt.nanos < u.createdAt.nanos) {x y : Tab}
    (hx : x ∈ openings told) (hy : y ∈ openings told) (hne : x ≠ y)
    (hle : x.createdAt.nanos ≤ y.createdAt.nanos) : [x, y].Sublist (openings told) := by
  rcases sublist_or_sublist hx hy hne with hxy | hyx
  · exact hxy
  · have hlt := List.pairwise_iff_forall_sublist.mp htimes hyx
    exact absurd hle (Int.not_le.mpr hlt)

/-! ## Closing

A closing takes away one tab or all that are not pinned. In both cases the tab
in front stays there as long as it is left (`front_closing`). -/

section
variable {s : State} {a : Action} {t : Tab}

theorem mem_of_active? (h : s.active? = some t) : t ∈ s.tabs ∧ s.activeTab = some t.id := by
  obtain ⟨id, hid, htab⟩ := Option.bind_eq_some_iff.mp h
  have hsame : t.id = id := by simpa using List.find?_some htab
  exact ⟨List.mem_of_find?_eq_some htab, hsame ▸ hid⟩

theorem active?_of_mem (hd : (s.tabs.map (·.id)).Nodup) (ht : t ∈ s.tabs)
    (h : s.activeTab = some t.id) : s.active? = some t := by
  show s.activeTab.bind s.tab? = some t
  rw [h, Option.bind_some, tab?_of_mem hd ht]

/-- A closing that leaves the tab in front leaves it there; otherwise the newest of the rest comes
there. -/
theorem front_closing (hd : (s.tabs.map (·.id)).Nodup) (hfront : s.active? = some t)
    (ha : (∃ id, a = .tabClosed id) ∨ a = .tabsClosedAll) :
    (t ∈ (s.apply a).tabs ∧ (s.apply a).activeTab = s.activeTab) ∨
      (t ∉ (s.apply a).tabs ∧ ∃ ts, s.apply a = (s.withTabs ts).fallBack) := by
  obtain ⟨ht, hid⟩ := mem_of_active? hfront
  rcases ha with ⟨id, rfl⟩ | rfl
  · show (t ∈ (s.closeTab id).tabs ∧ (s.closeTab id).activeTab = _) ∨
      (t ∉ (s.closeTab id).tabs ∧ ∃ ts, s.closeTab id = _)
    rcases closeTab_cases s id with ⟨h, -⟩ | ⟨old, before, after, hs, rfl, -, -, h⟩
    · rw [h]
      exact .inl ⟨ht, rfl⟩
    · have hold : old ∉ before ++ after := by
        have hnodup := List.Nodup.of_map _ hd
        rw [hs] at hnodup
        exact (List.nodup_cons.mp (List.perm_middle.nodup_iff.mp hnodup)).1
      by_cases hsame : t = old
      · subst hsame
        rw [if_pos hid] at h
        rw [h, tabs_fallBack]
        exact .inr ⟨hold, before ++ after, rfl⟩
      · have hother : s.activeTab ≠ some old.id := by
          intro heq
          have hold : old ∈ s.tabs := hs ▸ List.mem_append_right _ List.mem_cons_self
          exact hsame (List.inj_on_of_nodup_map hd ht hold (Option.some.inj (hid.symm.trans heq)))
        rw [if_neg hother] at h
        rw [h]
        rw [hs] at ht
        have hleft : t ∈ before ++ after := by simpa [hsame] using ht
        exact .inl ⟨hleft, rfl⟩
  · show (t ∈ s.closeAllTabs.tabs ∧ s.closeAllTabs.activeTab = _) ∨
      (t ∉ s.closeAllTabs.tabs ∧ ∃ ts, s.closeAllTabs = _)
    rw [closeAllTabs_eq]
    by_cases hleft : t ∈ s.swept.tabs
    · have hsome : s.swept.active?.isSome = true := by
        have hswept : (s.swept.tabs.map (·.id)).Nodup := hd.sublist (List.filter_sublist.map _)
        rw [active?_of_mem hswept hleft hid]
        rfl
      rw [if_pos hsome]
      exact .inl ⟨hleft, rfl⟩
    · have hnone : ¬ s.swept.active?.isSome = true := by
        intro hsome
        obtain ⟨u, hu⟩ := Option.isSome_iff_exists.mp hsome
        obtain ⟨hmem, hid'⟩ := mem_of_active? hu
        obtain rfl : u = t := List.inj_on_of_nodup_map hd (List.mem_filter.mp hmem).1 ht
          (Option.some.inj (hid'.symm.trans hid))
        exact hleft hmem
      rw [if_neg hnone, tabs_fallBack]
      exact .inr ⟨hleft, _, rfl⟩

end

/-- Whatever actions brought the console to its state, where tabs were opened one after the other and each
under an identifier of its own: a closing leaves the tab in front there unless it takes it away, and then,
if some tab is left, the one comes to the front that was opened last of those left. -/
theorem newest_comes_to_front {actions : List Action}
    (hids : ((openings actions).map (·.id)).Nodup)
    (htimes : (openings actions).Pairwise fun t u => t.createdAt.nanos < u.createdAt.nanos)
    {a : Action} (ha : (∃ id, a = .tabClosed id) ∨ a = .tabsClosedAll) {t : Tab}
    (hfront : (State.applyAll {} actions).active? = some t) :
    let s' := (State.applyAll {} actions).apply a
    (t ∈ s'.tabs → s'.active? = some t) ∧
      (t ∉ s'.tabs → s'.tabs ≠ [] → ∃ v ∈ s'.tabs, s'.active? = some v ∧
        ∀ u ∈ s'.tabs, u ≠ v → [u.id, v.id].Sublist ((openings actions).map (·.id))) := by
  intro s'
  have hopened : openings (actions ++ [a]) = openings actions := by
    rw [openings, List.filterMap_append]
    rcases ha with ⟨id, rfl⟩ | rfl
    · exact List.append_nil _
    · exact List.append_nil _
  have hs' : s' = State.applyAll {} (actions ++ [a]) := by rw [State.applyAll, List.foldl_concat]; rfl
  have hsame : ∀ u ∈ openings actions, ∀ u' ∈ openings actions, u.id = u'.id → u = u' :=
    fun u hu u' hu' hid => List.inj_on_of_nodup_map hids hu hu' hid
  have hd : ((State.applyAll {} actions).tabs.map (·.id)).Nodup :=
    nodup_ids_applyAll fun u hu u' hu' hid => congrArg Tab.pair (hsame u hu u' hu' hid)
  have hd' : (s'.tabs.map (·.id)).Nodup := by
    rw [hs']
    refine nodup_ids_applyAll ?_
    rw [hopened]
    exact fun u hu u' hu' hid => congrArg Tab.pair (hsame u hu u' hu' hid)
  have hcards : ∀ u ∈ s'.tabs, ∃ x ∈ openings actions, x.card = u.card := by
    intro u hu
    rw [hs'] at hu
    exact hopened ▸ card_of_applyAll hu
  rcases front_closing hd hfront ha with ⟨hleft, hstays⟩ | ⟨hgone, ts, hback⟩
  · have hid := hstays.trans (mem_of_active? hfront).2
    exact ⟨fun _ => active?_of_mem hd' hleft hid, fun hgone => absurd hleft hgone⟩
  · refine ⟨fun hleft => absurd hleft hgone, fun _ hsome => ?_⟩
    have hts : s'.tabs = ts := by rw [show s' = _ from hback, tabs_fallBack]; rfl
    rcases fallBack_cases ((State.applyAll {} actions).withTabs ts) with ⟨hnil, -⟩ | ⟨v, hv, hnew⟩
    · exact absurd (hts.trans hnil) hsome
    · have hmem : v ∈ s'.tabs := hts ▸ newestTab?_mem hv
      have hid : s'.activeTab = some v.id := by rw [show s' = _ from hback, hnew]
      refine ⟨v, hmem, active?_of_mem hd' hmem hid, fun u hu hne => ?_⟩
      obtain ⟨x, hx, hxu⟩ := hcards u hu
      obtain ⟨y, hy, hyv⟩ := hcards v hmem
      have hxy : x ≠ y := by
        rintro rfl
        exact hne (List.inj_on_of_nodup_map hd' hu hmem (congrArg Tab.Card.id (hxu.symm.trans hyv)))
      have hle : x.createdAt.nanos ≤ y.createdAt.nanos := by
        rw [show x.createdAt = u.createdAt from congrArg Tab.Card.createdAt hxu,
          show y.createdAt = v.createdAt from congrArg Tab.Card.createdAt hyv]
        exact createdAt_le_newestTab? hv (hts ▸ hu)
      rw [← show x.id = u.id from congrArg Tab.Card.id hxu,
        ← show y.id = v.id from congrArg Tab.Card.id hyv]
      exact (sublist_openings htimes hx hy hxy hle).map Tab.id

/-- The first tab is replaced after the second was opened: it stands first, and comes to the front when
the third is closed. -/
theorem newest_comes_to_front_replaced :
    let tab (address : String) (time : Int) : Tab :=
      .create ⟨⟨"1"⟩, "disk", "", none⟩ ⟨address, "web", none, none, .synthetic 80⟩ [] [] ⟨time * 1000000⟩
    let actions : List Action := [.tabCreated (tab "::1" 1), .tabCreated (tab "::2" 2),
      .tabCreated (tab "::1" 3), .tabCreated (tab "::3" 4)]
    let s' := (State.applyAll {} actions).apply (.tabClosed "::3-disk-4")
    (State.applyAll {} actions).active? = some (tab "::3" 4) ∧
      s'.tabs = [tab "::1" 3, tab "::2" 2] ∧
      ∃ v ∈ s'.tabs, s'.active? = some v ∧
        ∀ u ∈ s'.tabs, u ≠ v →
          [u.id, v.id].Sublist ["::1-disk-1", "::2-disk-2", "::1-disk-3", "::3-disk-4"] := by
  intro tab actions s'
  have hfront : (State.applyAll {} actions).active? = some (tab "::3" 4) := by decide
  have htabs : s'.tabs = [tab "::1" 3, tab "::2" 2] := by decide
  have hids : ((openings actions).map (·.id)).Nodup := by decide
  have htimes : (openings actions).Pairwise fun t u => t.createdAt.nanos < u.createdAt.nanos := by decide
  have hnewest := (newest_comes_to_front hids htimes (.inl ⟨"::3-disk-4", rfl⟩) hfront).2
    (by decide) (by decide)
  exact ⟨hfront, htabs, hnewest⟩

end ScanConsole
