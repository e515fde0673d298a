import ScanConsole.State.Apply

/-!
# What actions do to sessions

An action starts a session, changes one session, or removes some.
`SessionChange` lists the ways, and `sessionChange_apply` says that there are no
others:

    kept       the sessions as they were
    started    one more at the end
    updated    the first with an identifier, which goes on or ends
    removed    those that are not kept, for one of four reasons each

What follows is read off these four cases and no longer off all the actions:

    a session that an action does not drive is left as it is while it runs
                                                  (`session?_apply_of_ne`)
    what becomes of one that it drives depends on that session only
                                                  (`session?_apply_congr`)
    a session was started, or it is what an earlier one has become
                                                  (`origin_apply`)
    a session that runs was started, or ran before    (`running_apply`)
    no session comes in but by its start              (`ids_apply`)

The reasons for which a session is removed are those of `Removal`: it is
cleared, it is dismissed after it has ended, or it is that of a failed refresh
of a tab that has been refreshed since, well or not. Where identifiers are
distinct, all but the first concern sessions that do not run; but most of what
is said here does not ask for that.
-/

namespace ScanConsole

/-! ## The first member that satisfies a condition

A search for another member does not see the change, and a search for this
member finds it changed. -/

section
variable {α β : Type} {p q : α → Bool} {f : α → α}

theorem mem_updateFirst {xs : List α} {y : α} (h : y ∈ updateFirst p f xs) :
    y ∈ xs ∨ ∃ x ∈ xs, p x = true ∧ y = f x := by
  induction xs with
  | nil => exact absurd h List.not_mem_nil
  | cons x xs ih =>
    unfold updateFirst at h
    split at h
    · next hp =>
      rcases List.mem_cons.mp h with rfl | h
      · exact .inr ⟨x, List.mem_cons_self, hp, rfl⟩
      · exact .inl (List.mem_cons_of_mem _ h)
    · rcases List.mem_cons.mp h with rfl | h
      · exact .inl List.mem_cons_self
      · rcases ih h with h | ⟨z, hz, hp, rfl⟩
        · exact .inl (List.mem_cons_of_mem _ h)
        · exact .inr ⟨z, List.mem_cons_of_mem _ hz, hp, rfl⟩

theorem map_updateFirst {g : α → β} (hg : ∀ x, g (f x) = g x) (xs : List α) :
    (updateFirst p f xs).map g = xs.map g := by
  induction xs with
  | nil => rfl
  | cons x xs ih =>
    unfold updateFirst
    split
    · simp only [List.map_cons, hg]
    · simp only [List.map_cons, ih]

theorem find?_updateFirst_self (hf : ∀ x, p (f x) = p x) (xs : List α) :
    (updateFirst p f xs).find? p = (xs.find? p).map f := by
  induction xs with
  | nil => rfl
  | cons x xs ih =>
    unfold updateFirst
    by_cases hp : p x = true
    · simp [hp, hf]
    · simp [hp, ih]

theorem find?_updateFirst_of_ne (hq : ∀ x, p x = true → q x = false ∧ q (f x) = false)
    (xs : List α) : (updateFirst p f xs).find? q = xs.find? q := by
  induction xs with
  | nil => rfl
  | cons x xs ih =>
    unfold updateFirst
    by_cases hp : p x = true
    · simp [hp, hq x hp]
    · simp [hp, List.find?_cons, ih]

theorem find?_of_mem [BEq β] [LawfulBEq β] {key : α → β} {xs : List α} {x : α}
    (hd : (xs.map key).Nodup) (hx : x ∈ xs) : xs.find? (fun y => key y == key x) = some x := by
  induction xs with
  | nil => exact absurd hx List.not_mem_nil
  | cons y xs ih =>
    obtain ⟨hy, hd⟩ := List.nodup_cons.mp hd
    rcases List.mem_cons.mp hx with rfl | hx
    · simp
    · have hne : (key y == key x) = false := by
        rw [beq_eq_false_iff_ne]
        exact fun h => hy (List.mem_map.mpr ⟨x, hx, h.symm⟩)
      rw [List.find?_cons, hne]
      exact ih hd hx

theorem find?_filter_of_keeps {xs : List α} (h : ∀ x, xs.find? q = some x → p x = true) :
    (xs.filter p).find? q = xs.find? q := by
  induction xs with
  | nil => rfl
  | cons x xs ih =>
    by_cases hq : q x = true
    · have hp : p x = true := h x (by simp [hq])
      simp [hp, hq]
    · have ih' := ih fun y hy => h y (by simpa [List.find?_cons, hq] using hy)
      by_cases hp : p x = true
      · simp [hp, hq, ih']
      · simp [hp, hq, ih']

end

/-! ## The ways in which sessions change

Actions on tabs leave the sessions alone but for the one of the last failure. -/

/-- Why an action removes a session. -/
inductive Removal (s : State) (a : Action) (x : Session) : Prop
  | cleared : a = .executionCleared x.id → Removal s a x
  | dismissed (y : Session) : a = .executionDismissed x.id →
      s.session? x.id = some y → y.status ≠ .running → Removal s a x
  /-- It is that of a failed refresh of a tab, and now a refresh of the tab succeeds. -/
  | refreshed (id : String) (results : List Screen) (logs : List String) (time : Instant) (tab : Tab) :
      a = .tabRefreshed id results logs time → s.tab? id = some tab →
      tab.failedSession = some x.id → x.status = .error → Removal s a x
  /-- It is that of a failed refresh of a tab, and now another one fails. -/
  | failedAgain (id : String) (session : SessionId) (time : Instant) (tab : Tab) :
      a = .tabRefreshFailed id session time → session ≠ x.id → s.tab? id = some tab →
      tab.failedSession = some x.id → x.status = .error → Removal s a x

/-- A change of a session that lets it go on or ends it. -/
structure Advances (f : Session → Session) : Prop where
  id : ∀ x, (f x).id = x.id
  subject : ∀ x, (f x).plugin = x.plugin ∧ (f x).resource = x.resource
  logs : ∀ x, x.logs <+: (f x).logs
  stands : ∀ x, ((f x).status = x.status ∧ (f x).progress = x.progress) ∨
    ((f x).status = .error ∧ (f x).progress = x.progress) ∨
    ((f x).status = .done ∧ (f x).progress = 100)

/-- The sessions after an action. -/
inductive SessionChange (s : State) (a : Action) : List Session → Prop
  | kept : SessionChange s a s.sessions
  | started (x : Session) : a = .executionStarted x → SessionChange s a (s.sessions ++ [x])
  | updated (id : SessionId) (f : Session → Session) : a.drives? = some id → Advances f →
      SessionChange s a (updateFirst (fun x => x.id == id) f s.sessions)
  | removed (p : Session → Bool) : (∀ x ∈ s.sessions, p x = false → Removal s a x) →
      SessionChange s a (s.sessions.filter p)

theorem Advances.running {f : Session → Session} (hf : Advances f) (x : Session)
    (h : (f x).status = .running) : x.status = .running := by
  rcases hf.stands x with ⟨hs, -⟩ | ⟨hs, -⟩ | ⟨hs, -⟩
  · exact hs.symm.trans h
  · cases hs.symm.trans h
  · cases hs.symm.trans h

theorem advances_log (lines : List String) : Advances (Session.log lines) where
  id _ := rfl
  subject _ := ⟨rfl, rfl⟩
  logs _ := List.prefix_append _ _
  stands _ := .inl ⟨rfl, rfl⟩

theorem advances_fail (lines : List String) : Advances (Session.fail lines) where
  id _ := rfl
  subject _ := ⟨rfl, rfl⟩
  logs _ := List.prefix_append _ _
  stands _ := .inr (.inl ⟨rfl, rfl⟩)

theorem advances_complete : Advances Session.complete where
  id _ := rfl
  subject _ := ⟨rfl, rfl⟩
  logs _ := List.prefix_refl _
  stands _ := .inr (.inr ⟨rfl, rfl⟩)

theorem sessionChange_dismiss (s : State) (id : SessionId) :
    SessionChange s (.executionDismissed id) (s.dismiss id).sessions := by
  unfold State.dismiss
  cases hy : s.session? id with
  | none => exact .kept
  | some y =>
    by_cases hd : y.canBeDismissed = true
    · simp only [hd, if_true]
      refine .removed _ fun x _ hx => ?_
      have hid : x.id = id := by simpa using hx
      subst hid
      exact .dismissed y rfl hy (by simpa [Session.canBeDismissed] using hd)
    · simp only [hd]
      exact .kept

theorem sessionChange_dropFailed {s s' : State} {a : Action} {failed : Option SessionId}
    (hs : s'.sessions = s.sessions)
    (h : ∀ x : Session, failed = some x.id → x.status = .error → Removal s a x) :
    SessionChange s a (s'.dropFailed failed).sessions := by
  cases failed with
  | none =>
    show SessionChange s a s'.sessions
    rw [hs]
    exact .kept
  | some id =>
    show SessionChange s a (s'.sessions.filter _)
    rw [hs]
    refine .removed _ fun x _ hx => ?_
    simp only [Bool.or_eq_false_iff, bne_eq_false_iff_eq] at hx
    exact h x (by rw [hx.1]) hx.2

theorem sessionChange_refreshTab (s : State) (id : String) (results : List Screen)
    (logs : List String) (time : Instant) :
    SessionChange s (.tabRefreshed id results logs time)
      (s.refreshTab id results logs time).sessions := by
  unfold State.refreshTab
  split
  · exact .kept
  · next tab htab =>
    refine sessionChange_dropFailed rfl fun x hx herr => ?_
    exact .refreshed id results logs time tab rfl htab hx herr

theorem sessionChange_failRefresh (s : State) (id : String) (session : SessionId)
    (time : Instant) :
    SessionChange s (.tabRefreshFailed id session time) (s.failRefresh id session time).sessions := by
  unfold State.failRefresh
  split
  · exact .kept
  · next tab htab =>
    refine sessionChange_dropFailed rfl fun x hx herr => ?_
    obtain ⟨hfailed, hne⟩ := Option.filter_eq_some_iff.mp hx
    have hne' : session ≠ x.id := by
      rintro rfl
      simp at hne
    exact .failedAgain id session time tab rfl hne' htab hfailed herr

theorem sessions_fallBack (s : State) : s.fallBack.sessions = s.sessions := by
  unfold State.fallBack
  split <;> rfl

theorem sessions_closeTab (id : String) (s : State) : (s.closeTab id).sessions = s.sessions := by
  unfold State.closeTab
  repeat' split
  all_goals first
    | rfl
    | exact sessions_fallBack _

theorem sessions_closeAllTabs (s : State) : s.closeAllTabs.sessions = s.sessions := by
  unfold State.closeAllTabs
  dsimp only
  repeat' split
  all_goals first
    | rfl
    | exact sessions_fallBack _

theorem sessions_activate (id : String) (s : State) : (s.activate id).sessions = s.sessions := by
  unfold State.activate
  split <;> rfl

/-- There are no other ways. -/
theorem sessionChange_apply (s : State) (a : Action) :
    SessionChange s a (s.apply a).sessions := by
  cases a with
  | executionStarted x => exact .started x rfl
  | executionLogged id lines => exact .updated id _ rfl (advances_log lines)
  | executionFailed id lines => exact .updated id _ rfl (advances_fail lines)
  | executionCompleted id => exact .updated id _ rfl advances_complete
  | executionDismissed id => exact sessionChange_dismiss s id
  | executionCleared id =>
    refine .removed _ fun x _ hx => ?_
    have hid : x.id = id := by simpa using hx
    exact .cleared (by rw [hid])
  | tabRefreshed id results logs time => exact sessionChange_refreshTab s id results logs time
  | tabRefreshFailed id session time => exact sessionChange_failRefresh s id session time
  | tabActivated id =>
    show SessionChange _ _ (s.activate id).sessions
    rw [sessions_activate]; exact .kept
  | tabClosed id =>
    show SessionChange _ _ (s.closeTab id).sessions
    rw [sessions_closeTab]; exact .kept
  | tabsClosedAll =>
    show SessionChange _ _ s.closeAllTabs.sessions
    rw [sessions_closeAllTabs]; exact .kept
  | _ => exact .kept

/-! ## One session

A session is looked for by its identifier. -/

/-- An action that does not drive a session leaves it as it is while it runs, or is not there. -/
theorem session?_apply_of_ne {s : State} {a : Action} {id : SessionId} (ha : a.drives? ≠ some id)
    (hr : ∀ x, s.session? id = some x → x.status = .running) :
    (s.apply a).session? id = s.session? id := by
  show (s.apply a).sessions.find? _ = s.sessions.find? _
  have hc := sessionChange_apply s a
  generalize (s.apply a).sessions = ys at hc ⊢
  cases hc with
  | kept => rfl
  | started x hx =>
    subst hx
    have hne : (x.id == id) = false := by
      simpa [Action.drives?] using ha
    simp [List.find?_append, hne]
  | updated id' f hid hf =>
    have hne : id' ≠ id := fun h => ha (h ▸ hid)
    refine find?_updateFirst_of_ne (fun x hx => ?_) _
    have hx' : x.id = id' := by simpa using hx
    simp [hf.id, hx', hne]
  | removed p hp =>
    refine find?_filter_of_keeps fun x hx => ?_
    have hid : x.id = id := by simpa using List.find?_some hx
    refine Bool.not_eq_false _ ▸ fun hpx => ?_
    cases hp x (List.mem_of_find?_eq_some hx) hpx with
    | cleared h => exact ha (by rw [h, ← hid]; rfl)
    | dismissed y h hy hstop =>
      rw [hid] at hy
      exact hstop (hr y hy)
    | refreshed tab results logs time t h ht hfailed herr => cases (hr x hx).symm.trans herr
    | failedAgain tab session time t h hne ht hfailed herr => cases (hr x hx).symm.trans herr

theorem session?_onSession {s : State} {id : SessionId} {f : Session → Session}
    (hf : Advances f) : (s.onSession id f).session? id = (s.session? id).map f :=
  find?_updateFirst_self (fun x => by rw [hf.id]) _

theorem session?_dropSession (s : State) (id : SessionId) : (s.dropSession id).session? id = none := by
  simp [State.session?, State.dropSession]

/-- What an action makes of a session that it drives depends on nothing else in the state. -/
theorem session?_apply_congr {s s' : State} {a : Action} {id : SessionId} (ha : a.drives? = some id)
    (h : s.session? id = s'.session? id) : (s.apply a).session? id = (s'.apply a).session? id := by
  cases a with
  | executionStarted x =>
    show (s.sessions ++ [x]).find? _ = (s'.sessions ++ [x]).find? _
    rw [List.find?_append, List.find?_append]
    exact congrArg (fun o : Option Session => o.or _) h
  | executionLogged i lines =>
    cases ha
    show (s.onSession _ _).session? _ = (s'.onSession _ _).session? _
    rw [session?_onSession (advances_log lines), session?_onSession (advances_log lines), h]
  | executionFailed i lines =>
    cases ha
    show (s.onSession _ _).session? _ = (s'.onSession _ _).session? _
    rw [session?_onSession (advances_fail lines), session?_onSession (advances_fail lines), h]
  | executionCompleted i =>
    cases ha
    show (s.onSession _ _).session? _ = (s'.onSession _ _).session? _
    rw [session?_onSession advances_complete, session?_onSession advances_complete, h]
  | executionCleared i =>
    cases ha
    exact (session?_dropSession s _).trans (session?_dropSession s' _).symm
  | _ => cases ha

theorem id_of_session? {s : State} {id : SessionId} {x : Session} (h : s.session? id = some x) :
    x.id = id := by
  simpa using List.find?_some h

theorem session?_of_mem {s : State} {x : Session} (hd : (s.sessions.map (·.id)).Nodup)
    (hx : x ∈ s.sessions) : s.session? x.id = some x :=
  find?_of_mem hd hx

/-! ## All sessions

Of each session after an action it is said where it comes from, and of each
before it what becomes of it. -/

/-- A session was started by the action, or it was there before, or it is what the action made of one
that it drives. -/
theorem origin_apply {s : State} {a : Action} {x : Session} (hx : x ∈ (s.apply a).sessions) :
    a = .executionStarted x ∨ x ∈ s.sessions ∨
      ∃ y ∈ s.sessions, a.drives? = some y.id ∧ ∃ f, Advances f ∧ x = f y := by
  have hc := sessionChange_apply s a
  generalize (s.apply a).sessions = ys at hc hx
  cases hc with
  | kept => exact .inr (.inl hx)
  | started y hy =>
    rcases List.mem_append.mp hx with hx | hx
    · exact .inr (.inl hx)
    · rw [List.mem_singleton.mp hx]; exact .inl hy
  | updated id f hid hf =>
    rcases mem_updateFirst hx with hx | ⟨y, hy, hp, rfl⟩
    · exact .inr (.inl hx)
    · have hyid : y.id = id := by simpa using hp
      exact .inr (.inr ⟨y, hy, by rw [hyid, hid], f, hf, rfl⟩)
  | removed p hp => exact .inr (.inl (List.mem_filter.mp hx).1)

/-- A session that runs was started by the action, or it ran before. -/
theorem running_apply {s : State} {a : Action} {x : Session} (hx : x ∈ (s.apply a).sessions)
    (hr : x.status = .running) :
    a = .executionStarted x ∨ ∃ y ∈ s.sessions, y.id = x.id ∧ y.status = .running := by
  rcases origin_apply hx with hstart | hold | ⟨y, hy, -, f, hf, rfl⟩
  · exact .inl hstart
  · exact .inr ⟨x, hold, rfl, hr⟩
  · exact .inr ⟨y, hy, (hf.id y).symm, hf.running y hr⟩

/-- A session is still there after an action, as itself or as what it has become, or there is a reason
why it is not. -/
theorem stays_apply {s : State} {x : Session} (hx : x ∈ s.sessions) (a : Action) :
    (∃ y ∈ (s.apply a).sessions, y.id = x.id) ∨ Removal s a x := by
  have hc := sessionChange_apply s a
  generalize (s.apply a).sessions = ys at hc ⊢
  cases hc with
  | kept => exact .inl ⟨x, hx, rfl⟩
  | started y hy => exact .inl ⟨x, List.mem_append_left _ hx, rfl⟩
  | updated id f hid hf =>
    left
    have hids : (updateFirst (fun x => x.id == id) f s.sessions).map (·.id) = s.sessions.map (·.id) :=
      map_updateFirst hf.id s.sessions
    have hmem : x.id ∈ s.sessions.map (·.id) := List.mem_map_of_mem hx
    exact List.mem_map.mp (hids ▸ hmem)
  | removed p hp =>
    cases hpx : p x with
    | true => exact .inl ⟨x, List.mem_filter.mpr ⟨hx, hpx⟩, rfl⟩
    | false => exact .inr (hp x hx hpx)

/-- No session comes in but by its start, and none changes its place. -/
theorem ids_apply (s : State) (a : Action) :
    ((s.apply a).sessions.map (·.id)).Sublist (s.sessions.map (·.id)) ∨
      ∃ x, a = .executionStarted x ∧
        (s.apply a).sessions.map (·.id) = s.sessions.map (·.id) ++ [x.id] := by
  have hc := sessionChange_apply s a
  generalize (s.apply a).sessions = ys at hc ⊢
  cases hc with
  | kept => exact .inl (List.Sublist.refl _)
  | started x hx => exact .inr ⟨x, hx, by simp⟩
  | updated id f hid hf =>
    have hids : (updateFirst (fun x => x.id == id) f s.sessions).map (·.id) = s.sessions.map (·.id) :=
      map_updateFirst hf.id s.sessions
    exact .inl (hids ▸ List.Sublist.refl _)
  | removed p hp => exact .inl (List.filter_sublist.map _)

end ScanConsole
