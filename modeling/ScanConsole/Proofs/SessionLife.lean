import Mathlib.Data.List.Induction
import Mathlib.Data.List.Nodup
import ScanConsole.Proofs.Sessions

/-!
# The life of a session

Where every session starts as a new one, under an identifier that no session
before it had, a session has one life: it grows from its start to its removal,
and once it is gone it does not come back (`session_life`).

    identifiers stay distinct                            (`distinct_applyAll`)
    status and progress agree in every state             (`consistent_applyAll`)
    between any two moments a session only grows         (`growsInto_applyAll`)
    it is gone exactly if one action has removed it      (`gone_applyAll`)

The last two go along the later actions from their end: what a session is after
one more action is said by `origin_apply` from what it was before, so nothing
has to be known about the actions in between.

The first two are invariants, and they are what the others stand on. Sessions
are found by their identifiers, so with two of one identifier what is meant for
the second would go to the first; and the progress of a session can only grow
because it is nothing or all.

Which actions there are and in which order is left open. They need not be those
of runs: that a session is told of after it has ended is not excluded, and does
nothing to it but what `Session.GrowsInto` allows.
-/

namespace ScanConsole

/-- The identifier of the session that an action starts. -/
def Action.started? : Action → Option SessionId
  | .executionStarted x => some x.id
  | _ => none

/-- The identifiers of the sessions that are started, in order. -/
def startedIds (actions : List Action) : List SessionId := actions.filterMap Action.started?

/-- Every session starts as a new one, under an identifier never used before. -/
structure StartsFresh (actions : List Action) : Prop where
  begun : ∀ x, .executionStarted x ∈ actions → x = .start x.id x.plugin x.resource
  distinct : (startedIds actions).Nodup

/-- Status and progress of a session agree. -/
structure Session.Consistent (x : Session) : Prop where
  progress : x.progress = 0 ∨ x.progress = 100
  done : x.status = .done → x.progress = 100
  running : x.status = .running → x.progress = 0

/-- What a session may become as long as it is there. -/
structure Session.GrowsInto (x y : Session) : Prop where
  subject : y.plugin = x.plugin ∧ y.resource = x.resource
  logs : x.logs <+: y.logs
  running : y.status = .running → x.status = .running
  progress : x.progress ≤ y.progress

/-! ## One session

Growing is reflexive and transitive, and what an action makes of a session that
it drives has grown. -/

theorem Session.consistent_start (id : SessionId) (plugin : Plugin) (resource : Resource) :
    (Session.start id plugin resource).Consistent where
  progress := .inl rfl
  done h := nomatch h
  running _ := rfl

theorem Session.GrowsInto.refl (x : Session) : x.GrowsInto x where
  subject := ⟨rfl, rfl⟩
  logs := List.prefix_refl _
  running h := h
  progress := Nat.le_refl _

theorem Session.GrowsInto.trans {x y z : Session} (hxy : x.GrowsInto y) (hyz : y.GrowsInto z) :
    x.GrowsInto z where
  subject := ⟨hyz.subject.1.trans hxy.subject.1, hyz.subject.2.trans hxy.subject.2⟩
  logs := hxy.logs.trans hyz.logs
  running h := hxy.running (hyz.running h)
  progress := Nat.le_trans hxy.progress hyz.progress

theorem Advances.consistent {f : Session → Session} (hf : Advances f) {x : Session}
    (hx : x.Consistent) : (f x).Consistent := by
  obtain ⟨hprogress, hdone, hrunning⟩ := hx
  rcases hf.stands x with ⟨hs, hp⟩ | ⟨hs, hp⟩ | ⟨hs, hp⟩
  · exact { progress := by rwa [hp], done := by rwa [hs, hp], running := by rwa [hs, hp] }
  · exact { progress := by rwa [hp], done := by simp [hs], running := by simp [hs] }
  · exact { progress := .inr hp, done := fun _ => hp, running := by simp [hs] }

theorem Advances.growsInto {f : Session → Session} (hf : Advances f) {x : Session}
    (hx : x.Consistent) : x.GrowsInto (f x) where
  subject := hf.subject x
  logs := hf.logs x
  running := hf.running x
  progress := by
    have hle := hx.progress
    rcases hf.stands x with ⟨-, hp⟩ | ⟨-, hp⟩ | ⟨-, hp⟩ <;> omega

/-! ## One action

The action that removes a session leaves all others as they are. A running
session is removed by one kind of action only, the one that clears it. -/

/-- Where identifiers are distinct, the action that removes a session leaves all others as they are. -/
theorem sessions_of_removal {s : State} (hd : (s.sessions.map (·.id)).Nodup) {a : Action}
    {x : Session} (hx : x ∈ s.sessions) (h : Removal s a x) :
    (s.apply a).sessions = s.sessions.filter fun y => y.id != x.id := by
  -- the session of a failed refresh goes only as a failed one, and this one is failed
  have hdropped : x.status = .error →
      (s.sessions.filter fun y => y.id != x.id || y.status != .error) =
        s.sessions.filter fun y => y.id != x.id := by
    intro herr
    refine List.filter_congr fun y hy => ?_
    by_cases hid : y.id = x.id
    · simp [List.inj_on_of_nodup_map hd hy hx hid, herr]
    · simp [hid]
  cases h with
  | cleared ha => subst ha; rfl
  | dismissed y ha hy hstop =>
    subst ha
    have hgoes : y.canBeDismissed = true := by simpa [Session.canBeDismissed] using hstop
    simp only [State.apply, State.dismiss, hy, hgoes, if_true]
    rfl
  | refreshed id results logs time tab ha ht hfailed herr =>
    subst ha
    simp only [State.apply, State.refreshTab, ht, hfailed]
    exact hdropped herr
  | failedAgain id session time tab ha hne ht hfailed herr =>
    subst ha
    have hother : (some x.id).filter (fun previous => previous != session) = some x.id := by
      simpa using fun h : x.id = session => hne h.symm
    simp only [State.apply, State.failRefresh, ht, hfailed, hother]
    exact hdropped herr

theorem gone_apply {s : State} (hd : (s.sessions.map (·.id)).Nodup) (a : Action) {x : Session}
    (hx : x ∈ s.sessions) : (∀ y ∈ (s.apply a).sessions, y.id ≠ x.id) ↔ Removal s a x := by
  constructor
  · intro hgone
    rcases stays_apply hx a with ⟨y, hy, hid⟩ | hremoved
    · exact absurd hid (hgone y hy)
    · exact hremoved
  · intro hremoved y hy
    rw [sessions_of_removal hd hx hremoved] at hy
    simpa using (List.mem_filter.mp hy).2

theorem cleared_of_running {s : State} (hd : (s.sessions.map (·.id)).Nodup) {a : Action}
    {x : Session} (hx : x ∈ s.sessions) (h : Removal s a x) (hr : x.status = .running) :
    a = .executionCleared x.id := by
  cases h with
  | cleared ha => exact ha
  | dismissed y _ hy hstop =>
    obtain rfl : x = y := Option.some.inj ((session?_of_mem hd hx).symm.trans hy)
    exact absurd hr hstop
  | refreshed _ _ _ _ _ _ _ _ herr => cases hr.symm.trans herr
  | failedAgain _ _ _ _ _ _ _ _ herr => cases hr.symm.trans herr

theorem eq_of_not_driven {s : State} (hd : (s.sessions.map (·.id)).Nodup) {a : Action}
    {x y : Session} (ha : a.drives? ≠ some x.id) (hx : x ∈ s.sessions)
    (hy : y ∈ (s.apply a).sessions) (hid : y.id = x.id) : y = x := by
  rcases origin_apply hy with rfl | hold | ⟨z, -, hdrives, f, hf, rfl⟩
  · exact absurd (congrArg some hid) ha
  · exact List.inj_on_of_nodup_map hd hold hx hid
  · rw [hf.id] at hid
    exact absurd (hid ▸ hdrives) ha

/-! ## Several actions

All sessions are from the start or have been started since, in the order of
their starts. -/

theorem applyAll_append (s : State) (before after : List Action) :
    s.applyAll (before ++ after) = (s.applyAll before).applyAll after :=
  List.foldl_append

theorem applyAll_concat (s : State) (actions : List Action) (a : Action) :
    s.applyAll (actions ++ [a]) = (s.applyAll actions).apply a :=
  applyAll_append s actions [a]

theorem started_mem {actions : List Action} {x : Session} (h : .executionStarted x ∈ actions) :
    x.id ∈ startedIds actions :=
  List.mem_filterMap.mpr ⟨_, h, rfl⟩

theorem startedIds_append (before after : List Action) :
    startedIds (before ++ after) = startedIds before ++ startedIds after :=
  List.filterMap_append

theorem ids_applyAll (s : State) (actions : List Action) :
    ((s.applyAll actions).sessions.map (·.id)).Sublist
      (s.sessions.map (·.id) ++ startedIds actions) := by
  induction actions using List.reverseRecOn with
  | nil => exact List.sublist_append_left _ _
  | append_singleton actions a ih =>
    rw [applyAll_concat, startedIds_append, ← List.append_assoc]
    rcases ids_apply (s.applyAll actions) a with h | ⟨x, rfl, h⟩
    · exact (h.trans ih).trans (List.sublist_append_left _ _)
    · rw [h]
      exact ih.append (List.Sublist.refl _)

theorem distinct_applyAll {actions : List Action} (h : StartsFresh actions) :
    ((({} : State).applyAll actions).sessions.map (·.id)).Nodup :=
  h.distinct.sublist (ids_applyAll {} actions)

theorem consistent_applyAll {s : State} (hs : ∀ x ∈ s.sessions, x.Consistent) {actions : List Action}
    (hbegun : ∀ x, .executionStarted x ∈ actions → x = .start x.id x.plugin x.resource) :
    ∀ x ∈ (s.applyAll actions).sessions, x.Consistent := by
  refine List.foldlRecOn (motive := fun s : State => ∀ x ∈ s.sessions, x.Consistent) actions
    State.apply hs fun s hs a ha x hx => ?_
  rcases origin_apply hx with rfl | hold | ⟨y, hy, -, f, hf, rfl⟩
  · rw [hbegun x ha]
    exact Session.consistent_start _ _ _
  · exact hs x hold
  · exact hf.consistent (hs y hy)

/-- Between two moments a session only grows, if it has not been started anew. -/
theorem growsInto_applyAll {s : State} (hd : (s.sessions.map (·.id)).Nodup)
    (hs : ∀ x ∈ s.sessions, x.Consistent) {after : List Action}
    (hbegun : ∀ x, .executionStarted x ∈ after → x = .start x.id x.plugin x.resource)
    {x y : Session} (hx : x ∈ s.sessions) (hnew : x.id ∉ startedIds after)
    (hy : y ∈ (s.applyAll after).sessions) (hid : y.id = x.id) : x.GrowsInto y := by
  induction after using List.reverseRecOn generalizing y with
  | nil => exact List.inj_on_of_nodup_map hd hy hx hid ▸ .refl x
  | append_singleton after a ih =>
    rw [applyAll_concat] at hy
    rw [startedIds_append, List.mem_append, not_or] at hnew
    have hbegun' : ∀ x, .executionStarted x ∈ after → x = .start x.id x.plugin x.resource :=
      fun z hz => hbegun z (List.mem_append_left _ hz)
    rcases origin_apply hy with rfl | hold | ⟨z, hz, -, f, hf, rfl⟩
    · exact absurd (hid ▸ started_mem List.mem_cons_self) hnew.2
    · exact ih hbegun' hnew.1 hold hid
    · have hgrown : x.GrowsInto z := ih hbegun' hnew.1 hz (by rw [← hf.id z, hid])
      exact hgrown.trans (hf.growsInto (consistent_applyAll hs hbegun' z hz))

theorem absent_applyAll {s : State} {id : SessionId} {actions : List Action}
    (hs : ∀ x ∈ s.sessions, x.id ≠ id) (hnew : id ∉ startedIds actions) :
    ∀ x ∈ (s.applyAll actions).sessions, x.id ≠ id := by
  intro x hx hid
  have hmem := (ids_applyAll s actions).subset (List.mem_map_of_mem hx)
  rcases List.mem_append.mp hmem with hold | hstarted
  · obtain ⟨y, hy, hyid⟩ := List.mem_map.mp hold
    exact hs y hy (hyid.trans hid)
  · exact hnew (hid ▸ hstarted)

/-- A session that is gone was removed by one of the actions. -/
theorem gone_applyAll {s : State} {x : Session} (hx : x ∈ s.sessions) {after : List Action}
    (hgone : ∀ y ∈ (s.applyAll after).sessions, y.id ≠ x.id) :
    ∃ front a back, after = front ++ a :: back ∧
      ∃ y ∈ (s.applyAll front).sessions, y.id = x.id ∧ Removal (s.applyAll front) a y := by
  induction after using List.reverseRecOn with
  | nil => exact absurd rfl (hgone x hx)
  | append_singleton after a ih =>
    by_cases hbefore : ∀ y ∈ (s.applyAll after).sessions, y.id ≠ x.id
    · obtain ⟨front, b, back, rfl, hremoved⟩ := ih hbefore
      exact ⟨front, b, back ++ [a], by simp, hremoved⟩
    · obtain ⟨y, hy, hid⟩ : ∃ y ∈ (s.applyAll after).sessions, y.id = x.id := by
        simpa using hbefore
      rcases stays_apply hy a with ⟨z, hz, hzid⟩ | hremoved
      · rw [applyAll_concat] at hgone
        exact absurd (hzid.trans hid) (hgone z hz)
      · exact ⟨after, a, [], rfl, y, hy, hid, hremoved⟩

/-- A session that has been removed stays away. -/
theorem gone_of_removal {s : State} {front back : List Action} {a : Action} {x y : Session}
    (hd : ((s.applyAll front).sessions.map (·.id)).Nodup) (hy : y ∈ (s.applyAll front).sessions)
    (hid : y.id = x.id) (hnew : x.id ∉ startedIds back) (h : Removal (s.applyAll front) a y) :
    ∀ z ∈ (s.applyAll (front ++ a :: back)).sessions, z.id ≠ x.id := by
  have hstep : s.applyAll (front ++ a :: back) = ((s.applyAll front).apply a).applyAll back :=
    applyAll_append s front (a :: back)
  rw [hstep]
  refine absent_applyAll ?_ hnew
  rw [← hid]
  exact (gone_apply hd a hy).mpr h

/-! ## The whole life

An identifier that is in use is not used again. -/

theorem StartsFresh.left {before after : List Action} (h : StartsFresh (before ++ after)) :
    StartsFresh before where
  begun x hx := h.begun x (List.mem_append_left _ hx)
  distinct := by
    have hdistinct := h.distinct
    rw [startedIds_append] at hdistinct
    exact (List.nodup_append.mp hdistinct).1

theorem StartsFresh.not_started {before after : List Action} (h : StartsFresh (before ++ after))
    {x : Session} (hx : x ∈ (({} : State).applyAll before).sessions) : x.id ∉ startedIds after := by
  have hstarted : x.id ∈ startedIds before :=
    (ids_applyAll {} before).subset (List.mem_map_of_mem hx)
  have hdistinct := h.distinct
  rw [startedIds_append] at hdistinct
  exact fun hagain => (List.nodup_append.mp hdistinct).2.2 _ hstarted _ hagain rfl

/-- A session that is there after some actions has a consistent status and progress, only grows as long
as it is there, and is gone after further actions exactly if one of these has removed it. A single
action takes it away exactly if it removes it; of a running session, only the clearing does. It then
takes no other session away, and an action that does not drive a session changes nothing in it. -/
theorem session_life (before after : List Action) (h : StartsFresh (before ++ after)) :
    let s := ({} : State).applyAll before
    ∀ x ∈ s.sessions,
      x.Consistent ∧
      (∀ y ∈ (s.applyAll after).sessions, y.id = x.id → x.GrowsInto y) ∧
      ((∀ y ∈ (s.applyAll after).sessions, y.id ≠ x.id) ↔
        ∃ front a back, after = front ++ a :: back ∧
          ∃ y ∈ (s.applyAll front).sessions, y.id = x.id ∧ Removal (s.applyAll front) a y) ∧
      ∀ a : Action,
        ((∀ y ∈ (s.apply a).sessions, y.id ≠ x.id) ↔ Removal s a x) ∧
        (Removal s a x → x.status = .running → a = .executionCleared x.id) ∧
        (Removal s a x → (s.apply a).sessions = s.sessions.filter fun y => y.id != x.id) ∧
        (a.drives? ≠ some x.id → ∀ y ∈ (s.apply a).sessions, y.id = x.id → y = x) := by
  intro s x hx
  have hd : (s.sessions.map (·.id)).Nodup := distinct_applyAll h.left
  have hs : ∀ x ∈ s.sessions, x.Consistent :=
    consistent_applyAll (fun x hx => absurd hx List.not_mem_nil) h.left.begun
  have hbegun : ∀ x, .executionStarted x ∈ after → x = .start x.id x.plugin x.resource :=
    fun x hx => h.begun x (List.mem_append_right _ hx)
  have hnew : x.id ∉ startedIds after := h.not_started hx
  refine ⟨hs x hx, fun y hy hid => growsInto_applyAll hd hs hbegun hx hnew hy hid, ⟨gone_applyAll hx, ?_⟩,
    fun a => ⟨gone_apply hd a hx, cleared_of_running hd hx, sessions_of_removal hd hx,
      fun ha y hy hid => eq_of_not_driven hd ha hx hy hid⟩⟩
  rintro ⟨front, a, back, rfl, y, hy, hid, hremoved⟩
  have hfront : StartsFresh (before ++ front) := by
    rw [← List.append_assoc] at h
    exact h.left
  have hdfront : ((s.applyAll front).sessions.map (·.id)).Nodup := by
    have hdistinct := distinct_applyAll hfront
    rwa [applyAll_append] at hdistinct
  have hback : x.id ∉ startedIds back := by
    intro hmem
    refine hnew ?_
    rw [startedIds_append]
    exact List.mem_append_right _ (((List.sublist_cons_self a back).filterMap _).subset hmem)
  exact gone_of_removal hdfront hy hid hback hremoved

/-- A failed session that a tab refers to, beside one that runs; then the refresh succeeds. -/
theorem session_life_of_two :
    let x : Session := .start ⟨1⟩ ⟨⟨"1"⟩, "disk", "", none⟩ ⟨"::1", "web", none, none, .synthetic 80⟩
    let tab : Tab := .create x.plugin x.resource [] [] ⟨0⟩
    let before : List Action :=
      [.executionStarted x, .tabCreated tab, .executionStarted { x with id := ⟨2⟩ },
        .executionFailed ⟨1⟩ ["ERROR: full"], .tabRefreshFailed tab.id ⟨1⟩ ⟨0⟩]
    let after : List Action :=
      [.executionDismissed ⟨2⟩, .tabRefreshed tab.id [] ["up"] ⟨5⟩, .executionLogged ⟨2⟩ ["up"]]
    let s := ({} : State).applyAll before
    StartsFresh (before ++ after) ∧ s.sessions = [x.fail ["ERROR: full"], { x with id := ⟨2⟩ }] ∧
      (s.applyAll after).sessions = [({ x with id := ⟨2⟩ } : Session).log ["up"]] ∧
      (x.fail ["ERROR: full"]).Consistent ∧
      (∃ front a back, after = front ++ a :: back ∧ ∃ y ∈ (s.applyAll front).sessions,
        y.id = x.id ∧ Removal (s.applyAll front) a y) := by
  intro x tab before after s
  have hfresh : StartsFresh (before ++ after) := by
    refine ⟨fun y hy => ?_, by decide⟩
    have hy' : y = x ∨ y = { x with id := ⟨2⟩ } := by simpa [before, after] using hy
    rcases hy' with rfl | rfl <;> rfl
  have hlife := session_life before after hfresh (x.fail ["ERROR: full"]) (by decide)
  exact ⟨hfresh, by decide, by decide, hlife.1, hlife.2.2.1.mp (by decide)⟩

end ScanConsole
