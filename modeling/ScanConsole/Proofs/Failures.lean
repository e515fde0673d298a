import ScanConsole.Proofs.Stamps

/-!
# Failed refreshes on screen

The session of a failed refresh stays on screen, and the tab names it, until
another refresh of the tab ends: then the state takes it away. The link between
the two is kept in the list of sessions and in the list of tabs, and everybody
may change these lists.

What has been told so far settles what they hold: `State.Traced` compares them
with the actions told, and every action keeps this as long as it is due
(`Action.Due`):

    a tab that is opened has an identifier that none has had
    nothing is told of a session after the report that its refresh has failed
    the report of a failure comes when the session, if there, has failed

    s.Traced first told → a.Due first told s →
      (s.apply a).Traced first (told ++ [a])               (`State.Traced.apply`)

The list `told` is a ghost beside the state: the console does not keep it. It is
what makes it possible to say that a session on screen is that of the last
report, which no single state shows.

That the actions of tasks are due is not proved here. It needs to be known who
works for which session, and comes with the interleavings.
-/

namespace ScanConsole

/-! ## What is told

An action tells of at most one session how it goes on (`Action.writes?`), and of
at most one tab that a refresh of it has ended (`Action.refreshes?`); none does
both. -/

namespace Action

/-- The session of which an action tells how it goes on. -/
def writes? : Action → Option SessionId
  | .executionStarted x => some x.id
  | .executionLogged session _ => some session
  | .executionFailed session _ => some session
  | .executionCompleted session => some session
  | _ => none

/-- The tab of which an action tells that a refresh has ended, well or not. -/
def refreshes? : Action → Option String
  | .tabRefreshed id _ _ _ => some id
  | .tabRefreshFailed id _ _ => some id
  | _ => none

/-- The session of the failed refresh of this tab that an action tells. -/
def failureOf? (id : String) : Action → Option SessionId
  | .tabRefreshFailed tab session _ => if tab = id then some session else none
  | _ => none

/-- The identifier of the tab that an action opens. -/
def opens? : Action → Option String
  | .tabCreated tab => some tab.id
  | _ => none

end Action

/-- The sessions of the failed refreshes of this tab that were told. -/
def failures (id : String) (told : List Action) : List SessionId :=
  told.filterMap (Action.failureOf? id)

/-- The identifiers that tabs have had: those that were there first, and those of tabs opened since. -/
def openedIds (first : List String) (told : List Action) : List String :=
  first ++ told.filterMap Action.opens?

/-- What was told last of the refreshes of this tab is that the one with this session has failed. -/
def LastReport (id : String) (session : SessionId) (told : List Action) : Prop :=
  ∃ before time after, told = before ++ .tabRefreshFailed id session time :: after ∧
    ∀ a ∈ after, a.refreshes? ≠ some id

namespace State

/-- The sessions of failed refreshes of this tab that are still there. -/
def failuresLeft (id : String) (told : List Action) (s : State) : List Session :=
  s.sessions.filter fun x => x.id ∈ failures id told

/-- No session has this identifier. -/
def Absent (session : SessionId) (s : State) : Prop := ∀ x ∈ s.sessions, x.id ≠ session

/-- A session with this identifier, if there is one, has failed. -/
def HasFailed (session : SessionId) (s : State) : Prop :=
  ∀ x ∈ s.sessions, x.id = session → x.status = .error

end State

section
variable {first : List String} {told : List Action} {s : State} {a : Action} {id : String}
  {session : SessionId}

theorem refreshes?_of_failure (h : a.failureOf? id = some session) : a.refreshes? = some id := by
  cases a with
  | tabRefreshFailed tab session' time =>
    obtain ⟨htab, -⟩ := Option.ite_none_right_eq_some.mp h
    exact congrArg some htab
  | _ => cases h

theorem writes?_of_refreshes (h : a.refreshes? = some id) : a.writes? = none := by
  cases a <;> first
    | rfl
    | cases h

theorem mem_failures_concat :
    session ∈ failures id (told ++ [a]) ↔ session ∈ failures id told ∨ a.failureOf? id = some session := by
  simp only [failures, List.filterMap_append, List.mem_append, List.mem_filterMap, List.mem_singleton,
    exists_eq_left]

theorem mem_openedIds_append {more : List Action} (h : id ∈ openedIds first told) :
    id ∈ openedIds first (told ++ more) := by
  rw [openedIds, List.filterMap_append, ← List.append_assoc]
  exact List.mem_append_left _ h

theorem nodup_openedIds_left {more : List Action} (h : (openedIds first (told ++ more)).Nodup) :
    (openedIds first told).Nodup := by
  rw [openedIds, List.filterMap_append, ← List.append_assoc] at h
  exact (List.nodup_append.mp h).1

theorem LastReport.concat (h : LastReport id session told) (ha : a.refreshes? ≠ some id) :
    LastReport id session (told ++ [a]) := by
  obtain ⟨before, time, after, rfl, hafter⟩ := h
  refine ⟨before, time, after ++ [a], by simp, ?_⟩
  intro b hb
  rcases List.mem_append.mp hb with hb | hb
  · exact hafter b hb
  · rw [List.mem_singleton.mp hb]
    exact ha

theorem LastReport.mem (h : LastReport id session told) : session ∈ failures id told := by
  obtain ⟨before, time, after, rfl, -⟩ := h
  exact List.mem_filterMap.mpr ⟨_, List.mem_append_right _ List.mem_cons_self, if_pos rfl⟩

/-! ## What an action does to sessions and tabs

A session that is there after an action was there before, unless the action
tells how it goes on (`mem_sessions_apply`). The tabs after an action are those
before, each edited, or some of them, or some of them with a new one; for this,
identifiers have to be distinct, and they stay so where a new tab has a new one.
A tab names another failed session only when a refresh of it has ended. -/

theorem mem_sessions_apply {x : Session} (hx : x ∈ (s.apply a).sessions) :
    x ∈ s.sessions ∨ a.writes? = some x.id := by
  rcases origin_apply hx with rfl | hold | ⟨y, hy, hdrives, f, hf, rfl⟩
  · exact .inr rfl
  · exact .inl hold
  · cases a with
    | executionCleared session => exact .inl (List.mem_filter.mp hx).1
    | executionStarted x => exact .inr (hdrives.trans (congrArg some (hf.id y).symm))
    | executionLogged session lines => exact .inr (hdrives.trans (congrArg some (hf.id y).symm))
    | executionFailed session lines => exact .inr (hdrives.trans (congrArg some (hf.id y).symm))
    | executionCompleted session => exact .inr (hdrives.trans (congrArg some (hf.id y).symm))
    | _ => cases hdrives

theorem State.Absent.congr {s s' : State} (h : s.Absent session)
    (hold : ∀ x ∈ s'.sessions, x.id = session → x ∈ s.sessions) : s'.Absent session :=
  fun x hx hid => h x (hold x hx hid) hid

theorem State.HasFailed.congr {s s' : State} (h : s.HasFailed session)
    (hold : ∀ x ∈ s'.sessions, x.id = session → x ∈ s.sessions) : s'.HasFailed session :=
  fun x hx hid => h x (hold x hx hid) hid

theorem State.HasFailed.apply (h : s.HasFailed session) (ha : a.writes? ≠ some session) :
    (s.apply a).HasFailed session := by
  refine h.congr ?_
  intro x hx hid
  rcases mem_sessions_apply hx with hold | hwrites
  · exact hold
  · exact absurd (hid ▸ hwrites) ha

theorem status_of_dropFailed {failed : Option SessionId} {x : Session}
    (hx : x ∈ (s.dropFailed failed).sessions) (hid : failed = some x.id) : x.status ≠ .error := by
  subst hid
  obtain ⟨-, hkeep⟩ := List.mem_filter.mp hx
  simpa using hkeep

theorem tabs_cases (hd : (s.tabs.map (·.id)).Nodup) (a : Action) :
    (s.apply a).tabs = s.tabs.map a.edit ∨
      ((s.apply a).tabs.Sublist s.tabs ∧ ∀ t, a.edit t = t) ∨
      ∃ new l r, a = .tabCreated new ∧ (l ++ r).Sublist s.tabs ∧ (s.apply a).tabs = l ++ new :: r := by
  cases a with
  | tabCreated new =>
    refine .inr (.inr ?_)
    rcases tabs_createTab s new with ⟨-, h⟩ | ⟨old, before, after, hs, -, -, h⟩
    · exact ⟨new, s.tabs, [], rfl, by rw [List.append_nil], h⟩
    · refine ⟨new, before, after, rfl, ?_, h⟩
      rw [hs]
      exact (List.sublist_cons_self old after).append_left before
  | tabClosed id =>
    refine .inr (.inl ⟨?_, fun t => rfl⟩)
    rcases tabs_closeTab s id with ⟨h, -⟩ | ⟨old, before, after, hs, -, -, -, h⟩
    · show (s.closeTab id).tabs.Sublist s.tabs
      rw [h]
    · show (s.closeTab id).tabs.Sublist s.tabs
      rw [h, hs]
      exact (List.sublist_cons_self old after).append_left before
  | tabsClosedAll =>
    refine .inr (.inl ⟨?_, fun t => rfl⟩)
    show s.closeAllTabs.tabs.Sublist s.tabs
    rw [tabs_closeAllTabs]
    exact List.filter_sublist
  | _ => exact .inl (tabs_apply hd rfl)

theorem mem_tabs_apply (hd : (s.tabs.map (·.id)).Nodup) {t' : Tab} (ht' : t' ∈ (s.apply a).tabs) :
    (∃ t ∈ s.tabs, t' = a.edit t) ∨ a = .tabCreated t' := by
  rcases tabs_cases hd a with h | ⟨hsub, hedit⟩ | ⟨new, l, r, rfl, hsub, h⟩
  · rw [h] at ht'
    obtain ⟨t, ht, rfl⟩ := List.mem_map.mp ht'
    exact .inl ⟨t, ht, rfl⟩
  · exact .inl ⟨t', hsub.subset ht', (hedit t').symm⟩
  · rw [h] at ht'
    rcases List.mem_append.mp ht' with hl | hr
    · exact .inl ⟨t', hsub.subset (List.mem_append_left _ hl), rfl⟩
    · rcases List.mem_cons.mp hr with rfl | hr
      · exact .inr rfl
      · exact .inl ⟨t', hsub.subset (List.mem_append_right _ hr), rfl⟩

theorem nodup_tabs_apply (hd : (s.tabs.map (·.id)).Nodup)
    (hnew : ∀ tab, a = .tabCreated tab → tab.id ∉ s.tabs.map (·.id)) :
    ((s.apply a).tabs.map (·.id)).Nodup := by
  rcases tabs_cases hd a with htabs | ⟨hsub, -⟩ | ⟨new, l, r, ha, hsub, htabs⟩
  · have hids : (s.apply a).tabs.map (·.id) = s.tabs.map (·.id) := by
      rw [htabs, List.map_map]
      exact List.map_congr_left fun t _ => (edit_cases a t).1
    rw [hids]
    exact hd
  · exact hd.sublist (hsub.map _)
  · have hsub' : ((l ++ r).map (·.id)).Sublist (s.tabs.map (·.id)) := hsub.map _
    rw [htabs, List.map_append, List.map_cons]
    rw [List.map_append] at hsub'
    refine List.perm_middle.nodup_iff.mpr (List.nodup_cons.mpr ⟨?_, hd.sublist hsub'⟩)
    intro hmem
    exact hnew new ha (hsub'.subset hmem)

theorem failedSession_edit {t : Tab} (ha : a.refreshes? ≠ some t.id) :
    (a.edit t).failedSession = t.failedSession := by
  cases a with
  | tabRefreshed id results logs time =>
    have hid : ¬ (t.id == id) = true := fun h => ha (by rw [eq_of_beq h]; rfl)
    simp only [Action.edit, hid, Bool.false_eq_true, if_false]
  | tabRefreshFailed id session time =>
    have hid : ¬ (t.id == id) = true := fun h => ha (by rw [eq_of_beq h]; rfl)
    simp only [Action.edit, hid, Bool.false_eq_true, if_false]
  | tabPinned id pinned => simp only [Action.edit]; split <;> rfl
  | refreshIntervalSet id interval time => simp only [Action.edit]; split <;> rfl
  | _ => rfl

end

/-! ## Identifiers that are used once

Whatever edits leave to a tab, a tab keeps as long as one has its identifier,
since no other gets it (`State.Listed.keeps_applyAll`). Once there is no such
tab there is none for ever. -/

/-- The tabs have distinct identifiers, and these are among those that tabs have had. -/
structure State.Listed (first : List String) (told : List Action) (s : State) : Prop where
  distinct : (s.tabs.map (·.id)).Nodup
  opened : ∀ t ∈ s.tabs, t.id ∈ openedIds first told

section
variable {first : List String} {told : List Action} {s : State} {a : Action}

theorem not_mem_openedIds {tab : Tab} (h : (openedIds first (told ++ [.tabCreated tab])).Nodup) :
    tab.id ∉ openedIds first told := by
  intro hmem
  rw [openedIds, List.filterMap_append, ← List.append_assoc] at h
  exact List.disjoint_of_nodup_append h hmem List.mem_cons_self

theorem State.Listed.apply (h : s.Listed first told)
    (hnew : ∀ tab, a = .tabCreated tab → tab.id ∉ openedIds first told) :
    (s.apply a).Listed first (told ++ [a]) where
  distinct := nodup_tabs_apply h.distinct fun tab ha hmem => by
    obtain ⟨t, ht, hid⟩ := List.mem_map.mp hmem
    exact hnew tab ha (hid ▸ h.opened t ht)
  opened t' ht' := by
    rcases mem_tabs_apply h.distinct ht' with ⟨t, ht, rfl⟩ | rfl
    · rw [(edit_cases a t).1]
      exact mem_openedIds_append (h.opened t ht)
    · rw [openedIds, List.filterMap_append]
      exact List.mem_append_right _ (List.mem_append_right _ List.mem_cons_self)

theorem State.Listed.applyAll (h : s.Listed first told) {more : List Action}
    (hnew : (openedIds first (told ++ more)).Nodup) :
    (s.applyAll more).Listed first (told ++ more) := by
  induction more generalizing s told with
  | nil =>
    rw [List.append_nil]
    exact h
  | cons a more ih =>
    rw [List.append_cons] at hnew ⊢
    refine ih (h.apply ?_) hnew
    rintro tab rfl
    exact not_mem_openedIds (nodup_openedIds_left hnew)

theorem State.Listed.keeps_applyAll (h : s.Listed first told) {more : List Action}
    (hnew : (openedIds first (told ++ more)).Nodup) {id : String} (hid : id ∈ openedIds first told)
    {P : Tab → Prop} (hP : ∀ (a : Action) t, P t → P (a.edit t)) (hs : ∀ t ∈ s.tabs, t.id = id → P t) :
    ∀ t ∈ (s.applyAll more).tabs, t.id = id → P t := by
  induction more generalizing s told with
  | nil => exact hs
  | cons a more ih =>
    rw [List.append_cons] at hnew
    have hfresh : ∀ tab, a = .tabCreated tab → tab.id ∉ openedIds first told := by
      rintro tab rfl
      exact not_mem_openedIds (nodup_openedIds_left hnew)
    have hs' : ∀ t ∈ (s.apply a).tabs, t.id = id → P t := by
      intro t' ht' hid'
      rcases mem_tabs_apply h.distinct ht' with ⟨t, ht, rfl⟩ | ha
      · exact hP a t (hs t ht ((edit_cases a t).1.symm.trans hid'))
      · exact absurd (hid' ▸ hid) (hfresh t' ha)
    exact ih (h.apply hfresh) hnew (mem_openedIds_append hid) hs'

end

/-! ## What the state holds of failed refreshes

The end of a refresh takes away the failed session that the tab names, unless it
is the one reported, which stays and is named from then on. -/

/-- The tabs and sessions are what the actions told so far have made of them. -/
structure State.Traced (first : List String) (told : List Action) (s : State) : Prop where
  distinct : (s.tabs.map (·.id)).Nodup
  opened : ∀ t ∈ s.tabs, t.id ∈ openedIds first told
  known : ∀ id, ∀ x ∈ failures id told, id ∈ openedIds first told
  failed : ∀ id, ∀ x ∈ failures id told, s.HasFailed x
  /-- The session of a failed refresh of a tab is there only as long as the tab names it. -/
  named : ∀ t ∈ s.tabs, ∀ x ∈ s.sessions, x.id ∈ failures t.id told → t.failedSession = some x.id
  last : ∀ t ∈ s.tabs, ∀ x, t.failedSession = some x → LastReport t.id x told

/-- The action may be told next. -/
structure Action.Due (first : List String) (told : List Action) (s : State) (a : Action) : Prop where
  opens : ∀ tab, a = .tabCreated tab → tab.id ∉ openedIds first told ∧ tab.failedSession = none
  writes : ∀ x, a.writes? = some x → ∀ id, x ∉ failures id told
  fails : ∀ id x, a.failureOf? id = some x → id ∈ openedIds first told ∧ s.HasFailed x

section
variable {first : List String} {told : List Action} {s : State} {a : Action}

theorem State.traced_start (hd : (s.tabs.map (·.id)).Nodup)
    (hnone : ∀ t ∈ s.tabs, t.failedSession = none) : s.Traced (s.tabs.map (·.id)) [] where
  distinct := hd
  opened t ht := List.mem_append_left _ (List.mem_map_of_mem ht)
  known _ x hx := absurd hx List.not_mem_nil
  failed _ x hx := absurd hx List.not_mem_nil
  named _ _ x _ hx := absurd hx List.not_mem_nil
  last t ht x hx := by cases (hnone t ht).symm.trans hx

theorem State.Traced.listed (h : s.Traced first told) : s.Listed first told := ⟨h.distinct, h.opened⟩

theorem State.Traced.not_left (h : s.Traced first told) {t : Tab} (ht : t ∈ s.tabs)
    (ha : a.refreshes? = some t.id) {x : Session} (hx : x ∈ (s.apply a).sessions)
    (hnamed : t.failedSession = some x.id) (hfailed : s.HasFailed x.id) :
    a.failureOf? t.id = some x.id := by
  have htab : s.tab? t.id = some t := tab?_of_mem h.distinct ht
  have herr : x.status = .error := by
    rcases mem_sessions_apply hx with hold | hwrites
    · exact hfailed x hold rfl
    · cases (writes?_of_refreshes ha).symm.trans hwrites
  cases a with
  | tabRefreshed id results logs time =>
    obtain rfl := Option.some.inj ha
    replace hx : x ∈ (s.refreshTab t.id results logs time).sessions := hx
    simp only [State.refreshTab, htab] at hx
    exact absurd herr (status_of_dropFailed hx hnamed)
  | tabRefreshFailed id session time =>
    obtain rfl := Option.some.inj ha
    by_cases hsame : x.id = session
    · exact (if_pos rfl).trans (congrArg some hsame.symm)
    · replace hx : x ∈ (s.failRefresh t.id session time).sessions := hx
      simp only [State.failRefresh, htab] at hx
      refine absurd herr (status_of_dropFailed hx ?_)
      simp [hnamed, hsame]
  | _ => cases ha

/-- A due action keeps the state what was told. -/
theorem State.Traced.apply (h : s.Traced first told) (hdue : a.Due first told s) :
    (s.apply a).Traced first (told ++ [a]) where
  distinct := (h.listed.apply fun tab ha => (hdue.opens tab ha).1).distinct
  opened := (h.listed.apply fun tab ha => (hdue.opens tab ha).1).opened
  known id x hx := by
    rcases mem_failures_concat.mp hx with hx | ha
    · exact mem_openedIds_append (h.known id x hx)
    · exact mem_openedIds_append (hdue.fails id x ha).1
  failed id x hx := by
    rcases mem_failures_concat.mp hx with hx | ha
    · exact (h.failed id x hx).apply fun hwrites => hdue.writes x hwrites id hx
    · refine (hdue.fails id x ha).2.apply ?_
      intro hwrites
      cases (writes?_of_refreshes (refreshes?_of_failure ha)).symm.trans hwrites
  named t' ht' x hx hfailure := by
    rcases mem_tabs_apply h.distinct ht' with ⟨t, ht, rfl⟩ | rfl
    · rw [(edit_cases a t).1] at hfailure
      by_cases ha : a.refreshes? = some t.id
      -- A refresh of the tab has ended, and of its failed sessions only the one reported is left.
      · have hreported : a.failureOf? t.id = some x.id := by
          rcases mem_failures_concat.mp hfailure with hold | hnew
          · rcases mem_sessions_apply hx with hx₀ | hwrites
            · exact h.not_left ht ha hx (h.named t ht x hx₀ hold) (h.failed t.id x.id hold)
            · cases (writes?_of_refreshes ha).symm.trans hwrites
          · exact hnew
        cases a with
        | tabRefreshFailed id session time =>
          obtain ⟨rfl, hsame⟩ := Option.ite_none_right_eq_some.mp hreported
          simp only [Action.edit, beq_self_eq_true, if_true]
          exact hsame
        | _ => cases hreported
      · rw [failedSession_edit ha]
        rcases mem_failures_concat.mp hfailure with hold | hnew
        · rcases mem_sessions_apply hx with hx | hwrites
          · exact h.named t ht x hx hold
          · exact absurd hold (hdue.writes x.id hwrites t.id)
        · exact absurd (refreshes?_of_failure hnew) ha
    · rcases mem_failures_concat.mp hfailure with hold | hnew
      · exact absurd (h.known t'.id x.id hold) (hdue.opens t' rfl).1
      · cases hnew
  last t' ht' x hx := by
    rcases mem_tabs_apply h.distinct ht' with ⟨t, ht, rfl⟩ | rfl
    · rw [(edit_cases a t).1]
      by_cases ha : a.refreshes? = some t.id
      · cases a with
        | tabRefreshed id results logs time =>
          obtain rfl := Option.some.inj ha
          simp [Action.edit] at hx
        | tabRefreshFailed id session time =>
          obtain rfl := Option.some.inj ha
          simp only [Action.edit, beq_self_eq_true, if_true, Option.some.injEq] at hx
          exact ⟨told, time, [], by rw [hx], fun b hb => absurd hb List.not_mem_nil⟩
        | _ => cases ha
      · rw [failedSession_edit ha] at hx
        exact (h.last t ht x hx).concat ha
    · cases (hdue.opens t' rfl).2.symm.trans hx

end

end ScanConsole
