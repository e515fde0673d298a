import ScanConsole.Proofs.Drops

/-!
# Dropping a selection

The handle of a selection in the background belongs to its waiting part.
`drop_selection` says what a drop does while the run goes on:

    no tab is opened for the session any more
    the run goes on, and may come to its end and leave its session
    if the waiting part had begun, nobody ever clears the session
    if not, the run stops when the waiting part has its turn

So the drop stops the run only if the waiting part has not begun, and only if it
has its turn before the run has come to its end.

The reason is in who holds the run. Until the waiting part begins it holds the
handle of the run, and dropping it drops that handle, which gives the run up.
When it begins it goes into a join, which takes the handle away from it; what is
dropped from then on is the join, and the run is left to itself.

`drop_selection` is about every transport, every interleaving before the drop in
which nobody else drives the session, and every stage at which the run may stand
before its end. That the run may come to its end is shown by turns with no more
than releases and moves, so by nothing that the console could refuse.
-/

namespace ScanConsole

variable {σ : Type} {tr : Transport σ} {s : SessionId}

/-! ## Tasks that nobody holds

Three kinds of tasks may be left of a selection (`Task.Loose`). Each keeps to
its kind under moves and turns of waiting parts, and nobody has a handle by
which to let it go, so the kinds are closed (`closed_loose`, `closed_detached`).
What such tasks tell drives their session, and opening a tab does not. -/

/-- A selection that was given up, of which the run goes on. -/
def Task.givenUp (r : Run) : Task := ⟨none, .selection ⟨.running .select r⟩ .givenUp⟩

/-- A run that goes on by itself. -/
def Task.detached (r : Run) : Task := ⟨none, .job (.ofRun r)⟩

/-- What may be left of a selection. -/
inductive Task.Loose : Task → Prop
  | clearing (s : SessionId) : Loose ⟨none, .clear s⟩
  | running (r : Run) : Loose (.detached r)
  | givenUp (r : Run) : Loose (.givenUp r)

theorem Task.step_detached {r : Run} {w w' : World σ} {t' : Task}
    (h : (Task.detached r).step tr w = some ([t'], w')) (hs : t'.session? = some s) :
    ∃ r', t' = .detached r' := by
  simp only [Task.step, Task.detached, Option.map_eq_some_iff, Prod.mk.injEq] at h
  obtain ⟨⟨j', w₁⟩, hm, ht, -⟩ := h
  obtain rfl := (List.cons.inj ht).1
  cases jobMove_step hm with
  | ran p r r' w' hr => exact ⟨r', rfl⟩
  | concluded p r result hr => cases result <;> cases hs

theorem Task.step_detached_of_none {r : Run} (hr : r.result? = none) (w : World σ) :
    (Task.detached r).step tr w = (r.step tr w).map fun m => ([.detached m.1], m.2) :=
  step_job_of_none none .run hr w

theorem Task.step_givenUp_of_none {r : Run} (hr : r.result? = none) (w : World σ) :
    (Task.givenUp r).step tr w = (r.step tr w).map fun m => ([.givenUp m.1], m.2) :=
  step_selection_of_none .givenUp hr w

theorem Task.step_givenUp {r : Run} {w w' : World σ} {t' : Task}
    (h : (Task.givenUp r).step tr w = some ([t'], w')) : ∃ r', t' = .givenUp r' := by
  cases hr : r.result? with
  | none =>
    rw [step_givenUp_of_none hr] at h
    simp only [Option.map_eq_some_iff, Prod.mk.injEq] at h
    obtain ⟨⟨r', w₁⟩, -, ht, -⟩ := h
    exact ⟨r', (List.cons.inj ht).1.symm⟩
  | some result =>
    -- The waiting part never begins, so nothing follows the end of the run.
    have hstep : (Task.givenUp r).step tr w = none := by
      simp only [Task.step, Task.givenUp, Job.isRunning, Job.run?, hr]
      rfl
    cases hstep.symm.trans h

theorem closed_loose (tr : Transport σ) (s : SessionId) : Closed tr s Task.Loose := by
  constructor
  · intro t w t' w' h hstep hs
    cases h with
    | clearing s' => cases hstep
    | running r =>
      obtain ⟨r', rfl⟩ := Task.step_detached hstep hs
      exact .running r'
    | givenUp r =>
      obtain ⟨r', rfl⟩ := Task.step_givenUp hstep
      exact .givenUp r'
  · intro t t' h hmem hs
    cases h with
    | clearing s' => obtain rfl := List.mem_singleton.mp hmem; exact .clearing s'
    | running r => obtain rfl := List.mem_singleton.mp hmem; exact .running r
    | givenUp r =>
      obtain ⟨s', -, rfl⟩ := List.mem_map.mp hmem
      exact .clearing s'
  · intro t t' handle h hh
    cases h <;> cases hh
  · intro t handle h hh
    cases h <;> cases hh

theorem Task.Loose.drives {t : Task} (h : t.Loose) {w : World σ} {a : Action}
    (hd : t.deed tr w = .tells a) : a.drives? ≠ none := by
  cases h with
  | clearing s => cases hd; exact fun hnone => by cases hnone
  | running r => rw [Run.drives_deed hd]; exact fun hnone => by cases hnone
  | givenUp r => rw [Run.drives_deed hd]; exact fun hnone => by cases hnone

theorem closed_detached (tr : Transport σ) (s : SessionId) :
    Closed tr s fun t => ∃ r, t = Task.detached r := by
  constructor
  · rintro t w t' w' ⟨r, rfl⟩ hstep hs
    exact Task.step_detached hstep hs
  · rintro t t' ⟨r, rfl⟩ hmem -
    exact ⟨r, List.mem_singleton.mp hmem⟩
  -- Nobody has a handle of it any more.
  · rintro t t' handle ⟨r, rfl⟩ hh
    cases hh
  · rintro t handle ⟨r, rfl⟩ hh
    cases hh

theorem Run.deed_ne_cleared (r : Run) (w : World σ) (s : SessionId) :
    r.deed tr w ≠ .tells (.executionCleared s) := by
  intro h
  obtain ⟨session, stage⟩ := r
  cases stage with
  | listening c t logs =>
    simp only [Run.deed] at h
    split at h <;> cases h
  | _ => cases h

/-! ## A run goes on to its end

With a release in time a run has a move (`Run.step_released`), and every
move brings it nearer to its end (`Run.step_decreases`). So a task that
moves as its run does comes to the end of the run if it is let, and leaves
the session there. -/

theorem Run.step_released (tr : Transport σ) {r : Run} (hr : r.result? = none) (w : World σ) :
    ∃ n m, r.step tr (w.release n) = some m := by
  obtain ⟨session, stage⟩ := r
  cases stage with
  | listening c t logs =>
    refine ⟨c.number, ?_⟩
    by_cases hs : c.silent = true
    · have huse : (w.release c.number).useRelease? c.number = some w := by
        simp [World.release, World.useRelease?]
      simp only [Run.step, hs, if_true, huse, Option.map_some]
      exact ⟨_, rfl⟩
    · simp only [Run.step, hs]
      exact ⟨_, rfl⟩
  | ended result => cases hr
  | _ => exact ⟨0, _, rfl⟩

theorem exists_end {wrap : Run → Task} {ws : Workspace σ} {place : Nat} {r : Run}
    (hwrap : ∀ (r : Run) (w : World σ), r.result? = none →
      (wrap r).step tr w = (r.step tr w).map fun m => ([wrap m.1], m.2))
    (ht : ws.tasks[place]? = some (wrap r)) (hf : r.Fits ws.world.state) (hr : r.result? = none) :
    ∃ after, (∀ a, Turn.tell a ∉ after) ∧
      ∃ x, (ws.play tr after).world.state.session? r.session.id = some x ∧ x.status ≠ .running := by
  -- A release that nobody needs does no harm, so every round is a release and a move.
  obtain ⟨n, ⟨r', w'⟩, hm⟩ := Run.step_released tr hr ws.world
  have hstep : (wrap r).step tr (ws.world.release n) = some ([wrap r'], w') := by
    rw [hwrap r _ hr, hm]
    rfl
  let ws₁ : Workspace σ := ⟨w', ws.tasks.take place ++ [wrap r'] ++ ws.tasks.drop (place + 1)⟩
  have hplay (after : List Turn) :
      ws.play tr (.release n :: .move place :: after) = ws₁.play tr after := by
    have hmove : (ws.turn tr (.release n)).moveAt tr place = ws₁ := by
      simp only [Workspace.moveAt, Workspace.turn, Workspace.onWorld, ht, hstep]
      rfl
    rw [Workspace.play_cons, Workspace.play_cons]
    exact congrArg (Workspace.play tr · after) hmove
  have hf₁ : r'.Fits w'.state := Run.fits_step hm hf
  have hid : r'.session = r.session := (Run.step_session hm).1
  cases hr' : r'.result? with
  | some result =>
    refine ⟨[.release n, .move place], fun a ha => by simp at ha, ?_⟩
    rw [hplay]
    exact Run.session?_of_ended hm hf (by simp [hr'])
  | none =>
    have ht₁ : ws₁.tasks[place]? = some (wrap r') := by
      have hlt : place < ws.tasks.length := (List.getElem?_eq_some_iff.mp ht).1
      have hlen : (ws.tasks.take place).length = place := List.length_take_of_le (Nat.le_of_lt hlt)
      show (ws.tasks.take place ++ [wrap r'] ++ _)[place]? = _
      rw [List.append_assoc, List.getElem?_append_right (Nat.le_of_eq hlen), hlen, Nat.sub_self]
      rfl
    obtain ⟨after, hno, hend⟩ := exists_end hwrap ht₁ hf₁ hr'
    rw [hid] at hend
    refine ⟨.release n :: .move place :: after, fun a ha => hno a (by simpa using ha), ?_⟩
    rw [hplay]
    exact hend
  termination_by (r.stage.rank, r.stage.work)
  decreasing_by
    rcases Run.step_decreases hm with h | ⟨h, h'⟩
    · exact Prod.Lex.left _ _ h
    · rw [← h]; exact Prod.Lex.right _ h'

/-! ## The drop

A selection that was given up stops when its waiting part has its turn
(`stops_of_await`). Until then its run is found behind the other tasks, under
the same place as long as nothing before it goes. -/

theorem stops_of_await {ws : Workspace σ} (ho : ws.Owned) {place : Nat} {r : Run}
    (ht : ws.tasks[place]? = some (Task.givenUp r)) (hf : r.Fits ws.world.state)
    (hr : r.result? = none) : (ws.turn tr (.await place)).Stops tr r.session.id := by
  have htasks := split_of_getElem? ht
  have ho' := owned_change ho (change_turn tr ws (.await place))
  have hturn : ws.turn tr (.await place) =
      ⟨ws.world, ws.tasks.take place ++ Task.remains ⟨.running .select r⟩ ++
        ws.tasks.drop (place + 1)⟩ := by
    simp only [Workspace.turn, Workspace.awaitAt, ht]
    rfl
  have hknown := ho.known r.session.id (Workspace.mem_owners (List.mem_of_getElem? ht) rfl)
  rw [hturn] at ho' ⊢
  refine stops_of_clears ho' ⟨hknown, fun t' ht' hs' => ?_⟩
    (fades_of_remains .select hf hr fun t' ht' => by simp [ht'])
  have hmem : t' ∈ Task.remains ⟨.running .select r⟩ := by
    refine mem_left_of_replaced ho htasks rfl ?_ hs'
    simpa [or_comm, or_left_comm, or_assoc] using ht'
  exact Task.clears_of_remains hmem hs'

/-- A selection that somebody holds, of which the run goes on. -/
def Task.selecting (handle : String) (r : Run) (waiting : Waiting) : Task :=
  ⟨some handle, .selection ⟨.running .select r⟩ waiting⟩

theorem dropped_selecting (handle : String) (r : Run) (waiting : Waiting) :
    (Task.selecting handle r waiting).dropped =
      [if waiting = .begun then .detached r else .givenUp r] := by
  cases waiting <;> rfl

section
variable {ws : Workspace σ} {handle : String} {r : Run} {waiting : Waiting}

theorem loose_of_dropped (ho : ws.Owned)
    (ht : ws.task? handle = some (.selecting handle r waiting)) :
    (ws.drop handle).Kept Task.Loose r.session.id := by
  refine kept_letGo ho ht rfl fun t' ht' _ => ?_
  rw [dropped_selecting, List.mem_singleton] at ht'
  rw [ht']
  split
  · exact .running r
  · exact .givenUp r

theorem detached_of_dropped (ho : ws.Owned)
    (ht : ws.task? handle = some (.selecting handle r .begun)) :
    (ws.drop handle).Kept (fun t => ∃ r, t = Task.detached r) r.session.id := by
  refine kept_letGo ho ht rfl fun t' ht' _ => ?_
  rw [dropped_selecting, if_pos rfl, List.mem_singleton] at ht'
  exact ⟨r, ht'⟩

theorem getElem?_of_dropped (ht : ws.task? handle = some (.selecting handle r waiting)) :
    ∃ place : Nat, (ws.drop handle).tasks[place]? =
      some (if waiting = .begun then .detached r else .givenUp r) := by
  obtain ⟨l, r₀, -, hdrop⟩ := drop_of_task? ht
  refine ⟨(l ++ r₀).length, ?_⟩
  rw [hdrop, dropped_selecting]
  exact List.getElem?_concat_length

theorem exists_end_of_dropped (ht : ws.task? handle = some (.selecting handle r waiting))
    (hf : r.Fits ws.world.state) (hr : r.result? = none) :
    ∃ after, (∀ a, Turn.tell a ∉ after) ∧
      ∃ x, ((ws.drop handle).play tr after).world.state.session? r.session.id = some x ∧
        x.status ≠ .running := by
  have hfit : r.Fits (ws.drop handle).world.state := by
    obtain ⟨l, r₀, -, hdrop⟩ := drop_of_task? ht
    rw [hdrop]
    exact hf
  obtain ⟨place, hplace⟩ := getElem?_of_dropped ht
  by_cases hw : waiting = .begun
  · rw [if_pos hw] at hplace
    exact exists_end (fun r w hr => Task.step_detached_of_none hr w) hplace hfit hr
  · rw [if_neg hw] at hplace
    exact exists_end (fun r w hr => Task.step_givenUp_of_none hr w) hplace hfit hr

end

/-- What dropping a selection does while its run goes on. -/
theorem drop_selection (tr : Transport σ) {ws₀ : Workspace σ} (hi : ws₀.Idle) (before : List Turn)
    {handle : String} {r : Run} {waiting : Waiting} (hlaw : Lawful r.session.id before)
    (ht : (ws₀.play tr before).task? handle = some (.selecting handle r waiting))
    (hr : r.result? = none) :
    let s := r.session.id
    let ws := (ws₀.play tr before).drop handle
    (∀ after e, (s, e) ∈ ws.deeds tr after → ∀ tab, e ≠ .tells (.tabCreated tab)) ∧
      (∃ after, (∀ a, Turn.tell a ∉ after) ∧
        ∃ x, (ws.play tr after).world.state.session? s = some x ∧ x.status ≠ .running) ∧
      (waiting = .begun →
        ∀ after e, (s, e) ∈ ws.deeds tr after → e ≠ .tells (.executionCleared s)) ∧
      (waiting = .ahead →
        (∃ place : Nat, ws.tasks[place]? = some (Task.givenUp r)) ∧
          ∀ mid, Lawful s mid → ∀ (place : Nat) (r' : Run),
            (ws.play tr mid).tasks[place]? = some (Task.givenUp r') →
              r'.session.id = s → r'.result? = none →
                ((ws.play tr mid).turn tr (.await place)).Stops tr s) := by
  intro s ws
  have ho₀ := owned_play tr hi.owned before
  have hf₀ := fits_play tr hi.owned (hi.fits s) hlaw
  have hc : Change tr (ws₀.play tr before) (.drop handle) none ws :=
    change_turn tr (ws₀.play tr before) (.drop handle)
  have ho : ws.Owned := owned_change ho₀ hc
  have hf : ws.Fits s := fits_change ho₀ hf₀ hc fun a ha => by cases ha
  refine ⟨fun after e he tab htab => ?_, ?_, fun hw after e he => ?_, fun hw => ⟨?_, ?_⟩⟩
  · obtain ⟨t, w, hloose, -, hd⟩ :=
      deed_of_kept (closed_loose tr s) ho (loose_of_dropped ho₀ ht) he
    exact hloose.drives (hd.trans htab) rfl
  · have hmem := List.mem_of_find?_eq_some ht
    exact exists_end_of_dropped ht (hf₀.runs _ hmem r rfl rfl) hr
  · subst hw
    obtain ⟨t, w, ⟨r', rfl⟩, -, hd⟩ :=
      deed_of_kept (closed_detached tr s) ho (detached_of_dropped ho₀ ht) he
    rw [← hd]
    exact r'.deed_ne_cleared w s
  · subst hw
    exact getElem?_of_dropped ht
  · intro mid hmid place r' ht' hid hr'
    have hf' := (fits_play tr ho hf hmid).runs _ (List.mem_of_getElem? ht') r' rfl hid
    rw [← hid]
    exact stops_of_await (owned_play tr ho mid) ht' hf' hr'

/-! ## A channel that falls silent

The channel delivers one event and then waits. The selection is dropped there
with its waiting part begun; a release lets the run take the next item. -/

/-- Nothing goes on yet; the first channel falls silent behind one event. -/
def quietStart : Workspace (List Answer) where
  world := {
    clock := ⟨0⟩
    link := [.opened [.event (.status "Connecting"), .silence, .event (.complete [])]] }

/-- A selection begins, with its waiting part, and takes items until its channel is silent. -/
def untilQuiet : List Turn :=
  .begin "h" (.selection ⟨⟨"1"⟩, "disk", "", none⟩ ⟨"10.0.0.1", "web", none, none, .synthetic 80⟩) ::
    .await 0 :: List.replicate 6 (.move 0)

theorem quietStart_idle : quietStart.Idle := .of_empty rfl rfl

theorem task?_untilQuiet :
    ∃ r : Run, (quietStart.play prepared untilQuiet).task? "h" = some (.selecting "h" r .begun) ∧
      r.session.id = ⟨1⟩ ∧ r.result? = none :=
  ⟨_, rfl, rfl, rfl⟩

/-- When the handle is dropped there, the run may come to its end and leave its session. -/
theorem drop_selection_untilQuiet :
    ∃ after, (∀ a, Turn.tell a ∉ after) ∧
      ∃ x, (((quietStart.play prepared untilQuiet).drop "h").play prepared after).world.state.session?
        ⟨1⟩ = some x ∧ x.status ≠ .running := by
  obtain ⟨r, ht, hid, hr⟩ := task?_untilQuiet
  have hlaw : Lawful r.session.id untilQuiet := fun a ha => by simp [untilQuiet] at ha
  obtain ⟨-, hend, -, -⟩ := drop_selection prepared quietStart_idle untilQuiet hlaw ht hr
  rw [hid] at hend
  exact hend

/-- When the handle is dropped there, the run does not stop: it takes the next item. -/
theorem not_stops_untilQuiet :
    (∃ r : Run, (quietStart.play prepared untilQuiet).task? "h" = some (.selecting "h" r .begun) ∧
      r.session.id = ⟨1⟩ ∧ r.result? = none) ∧
      ¬ ((quietStart.play prepared untilQuiet).drop "h").Stops prepared ⟨1⟩ := by
  refine ⟨task?_untilQuiet, fun hstops => ?_⟩
  let after : List Turn := [.release 0, .move 0, .move 0]
  have hasks : (⟨1⟩, Deed.asks 0 2) ∈
      ((quietStart.play prepared untilQuiet).drop "h").deeds prepared after := by
    decide +kernel
  have hlaw : Lawful ⟨1⟩ after := fun a ha => by simp [after] at ha
  cases (hstops after hlaw).1 _ hasks

end ScanConsole
