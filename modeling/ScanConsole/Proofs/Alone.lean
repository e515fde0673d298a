import Mathlib.Data.List.Induction
import ScanConsole.Proofs.Ownership

/-!
# Runs do not mix

Whatever goes on beside it, a run is a run by itself. `run_as_alone` compares a
run somewhere in an interleaving with the same run in a workspace of its own,
where the transport gives the answer that the run got: it has come to the same
result there, and the console has shown of its session the same things.

    ws.course tr s turns = alone.course (always answer) s (List.replicate n (.move 0))

The run by itself makes a move whenever the run makes one (`Run.numbered_step`),
and the console agrees on the session before the run ends, since others leave it
as it is (`session?_change`). The two runs differ in the number of their channel
only, because the transport counts the channels of all runs.

## What is assumed of the others

Of the result nothing is assumed: where the run stands, and what it gives back,
does not depend on what the console holds. Of what the console shows it is
assumed that nobody else drives the session (`Lawful`); they may do anything to
other sessions and to the tabs. Runs, refreshes and checks of all kinds may go
on beside it, be let go, and answer in any order.

The answer is a hypothesis because two runs may ask the transport for the same
and get different answers. It is the one that this run got, and if it has not
asked yet, any.
-/

namespace ScanConsole

/-! ## A run by itself

`Workspace.alone` has as many releases as the channel has silences, so that the
run can move whenever the one in the interleaving does. `Stage.Supplied` is the
invariant by which there are always enough. -/

/-- The transport that gives one answer all the time. -/
def always (answer : Answer) : Transport Unit where
  connect _ _ := (answer, ())

/-- How often the channel falls silent. -/
def Answer.silences : Answer → Nat
  | .refused _ => 0
  | .opened items => items.count .silence

/-- A run by itself. Its channel is released as often as it falls silent. -/
def Workspace.alone (answer : Answer) (session : Session) : Workspace Unit where
  world := { clock := ⟨0⟩, releases := List.replicate answer.silences 0, link := () }
  tasks := [⟨none, .job (.ofRun { session := session })⟩]

/-- The stage with another number for the channel. -/
def Stage.numbered (number : Nat) : Stage → Stage
  | .listening c t logs => .listening { c with number := number } t logs
  | .logging lines c t logs => .logging lines { c with number := number } t logs
  | stage => stage

/-- The run with another number for its channel. -/
def Run.numbered (number : Nat) (r : Run) : Run := { r with stage := r.stage.numbered number }

/-- The channel is still to be opened. -/
def Stage.isUnopened : Stage → Bool
  | .ready | .starting | .opening => true
  | _ => false

/-- How many releases the run may still need, if its channel is to be this answer. -/
def Stage.silences (answer : Answer) : Stage → Nat
  | .ready | .starting | .opening => answer.silences
  | .listening c _ _ | .logging _ c _ _ => c.items.count .silence + if c.silent then 1 else 0
  | _ => 0

/-- The world has what the run by itself needs. -/
structure Stage.Supplied (answer : Answer) (stage : Stage) (w : World Unit) : Prop where
  number : stage.isUnopened = true → w.requests = 0
  releases : ∃ k, w.releases = List.replicate k 0 ∧ stage.silences answer ≤ k

variable {σ : Type} {tr : Transport σ} {answer : Answer}

/-! ## Move by move

A run asks its channel by number, so the same move under another number is a
move of a run that is renumbered. The run by itself makes the same move, and
does the same to the console. -/

theorem Run.result?_numbered (r : Run) (number : Nat) : (r.numbered number).result? = r.result? := by
  obtain ⟨session, stage⟩ := r
  cases stage <;> rfl

theorem Run.onAsk_numbered (session : Session) (stage stage' : Stage) (number : Nat) (c : Channel)
    (t : Transcript) (logs : List String) :
    (Run.onAsk ⟨session, stage⟩ c t logs).numbered number =
      Run.onAsk ⟨session, stage'⟩ { c with number := number } t logs := by
  unfold onAsk onEvent losing
  cases c.items with
  | nil => rfl
  | cons i rest =>
    cases i with
    | event e =>
      cases he : t.effect e with
      | log lines => cases lines <;> simp [he, Stage.numbered, Channel.next]
      | _ => simp [he, Stage.numbered, outcome]
    | _ => rfl

theorem Run.isUnopened_onAsk (r : Run) (c : Channel) (t : Transcript) (logs : List String) :
    (r.onAsk c t logs).isUnopened = false := by
  unfold onAsk onEvent losing
  repeat' split
  all_goals rfl

theorem Run.silences_onAsk (r : Run) (c : Channel) (t : Transcript) (logs : List String)
    (hs : c.silent = false) : (r.onAsk c t logs).silences answer ≤ c.items.count .silence := by
  unfold onAsk onEvent losing
  repeat' split
  all_goals simp_all [Stage.silences, Channel.next]

/-- The run by itself makes the same move, and what it needs is still there. -/
def Run.MovesAlone (answer : Answer) (r r' : Run) (d : Deed) (w : World Unit) : Prop :=
  ∃ w', (r.numbered 0).step (always answer) w = some (r'.numbered 0, w') ∧
    r'.stage.Supplied answer w' ∧ w'.state = d.onState w.state

section
variable {session : Session} {c : Channel} {t : Transcript} {logs : List String} {w₀ : World Unit}

theorem Run.movesAlone_opening {request : ExecutionRequest} (number : Nat)
    (hw : Stage.opening.Supplied answer w₀) :
    MovesAlone answer ⟨session, .opening⟩ ⟨session, onAnswer ⟨session, .opening⟩ number answer⟩
      (.opens request answer) w₀ := by
  obtain ⟨k, hk, hle⟩ := hw.releases
  have hnum : w₀.requests = 0 := hw.number rfl
  refine ⟨_, congrArg some (Prod.ext ?_ rfl), ⟨fun hu => ?_, k, hk, ?_⟩, rfl⟩
  · show (⟨session, onAnswer _ w₀.requests answer⟩ : Run) = numbered 0 ⟨session, onAnswer _ _ answer⟩
    rw [hnum]
    cases answer <;> rfl
  · cases answer <;> cases hu
  · cases answer with
    | refused f => exact Nat.zero_le _
    | opened items => exact hle

/-- In a silent channel the run waits for a release, of which the run by itself has enough from the start. -/
theorem Run.movesAlone_silent (hs : c.silent = true)
    (hw : (Stage.listening c t logs).Supplied answer w₀) :
    MovesAlone answer ⟨session, .listening c t logs⟩
      ⟨session, .listening { c with silent := false } t logs⟩ .nothing w₀ := by
  obtain ⟨k, hk, hle⟩ := hw.releases
  obtain ⟨k, rfl⟩ : ∃ k', k = k' + 1 := Nat.exists_eq_add_one.mpr (by
    simp only [Stage.silences, hs, if_true] at hle; omega)
  have huse : w₀.useRelease? 0 = some { w₀ with releases := List.replicate k 0 } := by
    simp [World.useRelease?, hk, List.replicate_succ]
  refine ⟨{ w₀ with releases := List.replicate k 0 }, ?_, ⟨fun hu => (by cases hu), k, rfl, ?_⟩, rfl⟩
  · simp only [step, numbered, Stage.numbered, hs, if_true, huse, Option.map_some]
  · simp only [Stage.silences, hs, if_true] at hle ⊢
    simpa using hle

theorem Run.movesAlone_asking (hs : c.silent = false)
    (hw : (Stage.listening c t logs).Supplied answer w₀) :
    MovesAlone answer ⟨session, .listening c t logs⟩
      ⟨session, onAsk ⟨session, .listening c t logs⟩ c t logs⟩ (.asks c.number c.asked) w₀ := by
  obtain ⟨k, hk, hle⟩ := hw.releases
  refine ⟨w₀.look (.asking 0 c.asked), ?_, ⟨fun hu => ?_, k, hk, ?_⟩, rfl⟩
  · let c₀ : Channel := { c with number := 0 }
    show step _ ⟨session, .listening c₀ t logs⟩ w₀ =
      some (⟨session, (onAsk ⟨session, .listening c t logs⟩ c t logs).numbered 0⟩, _)
    rw [onAsk_numbered session _ (.listening c₀ t logs)]
    simp only [step, c₀, hs, Bool.false_eq_true, if_false]
  · cases hu.symm.trans (isUnopened_onAsk _ c t logs)
  · refine Nat.le_trans (silences_onAsk _ c t logs hs) ?_
    exact Nat.le_trans (Nat.le_add_right _ _) hle

end

theorem Run.numbered_step {r r' : Run} {w w' : World σ} {w₀ : World Unit}
    (h : r.step tr w = some (r', w')) (hopen : ∀ q a, r.deed tr w = .opens q a → a = answer)
    (hw : r.stage.Supplied answer w₀) : r.MovesAlone answer r' (r.deed tr w) w₀ := by
  obtain ⟨session, stage⟩ := r
  obtain ⟨k, hk, hle⟩ := hw.releases
  cases stage with
  | ready => cases h; exact ⟨_, rfl, ⟨hw.number, hw.releases⟩, rfl⟩
  | starting => cases h; exact ⟨_, rfl, ⟨hw.number, hw.releases⟩, rfl⟩
  | opening =>
    cases h
    obtain rfl : (tr.connect (request ⟨session, .opening⟩) w.link).1 = answer := hopen _ _ rfl
    exact movesAlone_opening _ hw
  | listening c t logs =>
    simp only [step] at h
    cases hs : c.silent with
    | true =>
      simp only [hs, if_true, Option.map_eq_some_iff, Prod.mk.injEq] at h
      obtain ⟨w₁, -, rfl, rfl⟩ := h
      simp only [deed, hs, if_true]
      exact movesAlone_silent hs hw
    | false =>
      simp only [hs, Bool.false_eq_true, if_false, Option.some.injEq, Prod.mk.injEq] at h
      obtain ⟨rfl, rfl⟩ := h
      simp only [deed, hs, Bool.false_eq_true, if_false]
      exact movesAlone_asking hs hw
  | logging lines c t logs => cases h; exact ⟨_, rfl, ⟨fun hu => (by cases hu), k, hk, hle⟩, rfl⟩
  | failing lines f => cases h; exact ⟨_, rfl, ⟨fun hu => (by cases hu), k, hk, hle⟩, rfl⟩
  | completing lines o => cases h; exact ⟨_, rfl, ⟨fun hu => (by cases hu), k, hk, hle⟩, rfl⟩
  | finishing o => cases h; exact ⟨_, rfl, ⟨fun hu => (by cases hu), k, hk, hle⟩, rfl⟩
  | ended result => cases h

/-! ## The course of a session

One more turn adds to the course what it changes of the session while that is
live, and nothing is shown of a session that the supply still has. -/

variable {ws ws' : Workspace σ} {u : Turn} {s : SessionId}

theorem course_of_same
    (h : ws.isLive s = true ∨ (ws.turn tr u).isLive s = true →
      (ws.turn tr u).world.state.session? s = ws.world.state.session? s) :
    ws.course tr s [u] = [] := by
  simp only [Workspace.course]
  split
  · next hc =>
    simp only [Bool.and_eq_true, Bool.or_eq_true, bne_iff_ne] at hc
    exact absurd (h hc.1) hc.2
  · rfl

theorem course_of_live (h : ws.isLive s = true) :
    ws.course tr s [u] =
      if (ws.turn tr u).world.state.session? s != ws.world.state.session? s then
        [(ws.turn tr u).world.state.session? s]
      else [] := by
  simp [Workspace.course, h]

theorem course_of_unborn (ho : ws.Owned) (hf : ws.Fits s) {turns : List Turn}
    (hlaw : Lawful s turns) (hn : (ws.play tr turns).world.nextSession ≤ s.number) :
    ws.course tr s turns = [] := by
  induction turns generalizing ws with
  | nil => rfl
  | cons u turns ih =>
    have hc := change_turn tr ws u
    have ho' := owned_change ho hc
    have hf' := fits_change ho hf hc fun a ha => hlaw a (ha ▸ List.mem_cons_self)
    have hle := Nat.le_trans (nextSession_le_play tr (ws.turn tr u) turns) hn
    have hsame : (ws.turn tr u).world.state.session? s = ws.world.state.session? s :=
      (hf'.unborn hle).trans (hf.unborn (Nat.le_trans (nextSession_le_change hc) hle)).symm
    rw [← List.singleton_append, Workspace.course_append, course_of_same fun _ => hsame]
    exact ih ho' hf' (fun a ha => hlaw a (List.mem_cons_of_mem _ ha)) hn

/-! ## Turn by turn

By induction on the turns, from the last one: it begins the run
(`mirrored_ofPair`), or it is somebody else's (`Mirrored.stay`), or it is the
run's own (`Mirrored.move`), and then the run by itself makes one more move. -/

theorem session?_onState_congr {d : Deed} {st st' : State}
    (hd : ∀ a, d = .tells a → a.drives? = some s) (h : st.session? s = st'.session? s) :
    (d.onState st).session? s = (d.onState st').session? s := by
  cases d with
  | tells a => exact session?_apply_congr (hd a rfl) h
  | _ => exact h

theorem Lawful.of_concat {turns : List Turn} (h : Lawful s (turns ++ [u])) :
    Lawful s turns ∧ ∀ a, u = .tell a → a.drives? ≠ some s :=
  ⟨fun a ha => h a (List.mem_append_left _ ha), fun a ha => h a (by simp [ha])⟩

/-- The run by itself stands, after `n` moves, where the run stands after the turns. -/
structure Mirrored (tr : Transport σ) (ws : Workspace σ) (turns : List Turn) (answer : Answer)
    (r : Run) (n : Nat) (w₀ : World Unit) : Prop where
  stands : (Workspace.alone answer r.session).play (always answer) (List.replicate n (.move 0)) =
    ⟨w₀, [⟨none, .job (.ofRun (r.numbered 0))⟩]⟩
  supplied : r.stage.Supplied answer w₀
  shown : Lawful r.session.id turns → r.result? = none →
    w₀.state.session? r.session.id = (ws.play tr turns).world.state.session? r.session.id
  course : Lawful r.session.id turns → ws.course tr r.session.id turns =
    (Workspace.alone answer r.session).course (always answer) r.session.id
      (List.replicate n (.move 0))

variable {turns : List Turn} {r : Run} {n : Nat} {w₀ : World Unit}

theorem mirrored_ofPair (hi : ws.Idle) {plugin : Plugin} {resource : Resource}
    (hs : s = ⟨(ws.play tr turns).world.nextSession⟩)
    (hst : (ws.play tr (turns ++ [u])).world.state = (ws.play tr turns).world.state) :
    Mirrored tr ws (turns ++ [u]) answer (.ofPair s plugin resource) 0
      (Workspace.alone answer (.start s plugin resource)).world := by
  have hle : (ws.play tr turns).world.nextSession ≤ s.number :=
    Nat.le_of_eq (congrArg SessionId.number hs).symm
  have hplay : ws.play tr (turns ++ [u]) = (ws.play tr turns).turn tr u := ws.play_append tr turns [u]
  refine ⟨rfl, ⟨fun _ => rfl, _, rfl, Nat.le_refl _⟩, fun hlaw _ => ?_, fun hlaw => ?_⟩
  · have hf := fits_play tr hi.owned (hi.fits s) hlaw.of_concat.1
    rw [hst]
    exact (hf.unborn hle).symm
  · rw [Workspace.course_append]
    have hpast : ws.course tr s turns = [] :=
      course_of_unborn hi.owned (hi.fits s) hlaw.of_concat.1 hle
    have hnow : (ws.play tr turns).course tr s [u] = [] :=
      course_of_same fun _ => by rw [← hplay, hst]
    show ws.course tr s turns ++ (ws.play tr turns).course tr s [u] = []
    rw [hpast, hnow]
    rfl

theorem Mirrored.stay (hi : ws.Idle) (h : Mirrored tr ws turns answer r n w₀) {t t' : Task}
    (ht : t ∈ (ws.play tr turns).tasks) (hr : t.run? = some r)
    (ht' : t' ∈ ((ws.play tr turns).turn tr u).tasks) (hr' : t'.run? = some r)
    (hd : ∀ e, (ws.play tr turns).deed? tr u ≠ some (r.session.id, e)) :
    Mirrored tr ws (turns ++ [u]) answer r n w₀ := by
  have hc := change_turn tr (ws.play tr turns) u
  have ho := owned_play tr hi.owned turns
  have hsame (hlaw : Lawful r.session.id (turns ++ [u])) (hres : r.result? = none) :
      ((ws.play tr turns).turn tr u).world.state.session? r.session.id =
        (ws.play tr turns).world.state.session? r.session.id := by
    have hf := fits_play tr hi.owned (hi.fits _) hlaw.of_concat.1
    exact session?_change hc hlaw.of_concat.2 hd ((hf.runs t ht r hr rfl).running hres)
  refine ⟨h.stands, h.supplied, fun hlaw hres => ?_, fun hlaw => ?_⟩
  · rw [h.shown hlaw.of_concat.1 hres, ws.play_append]
    exact (hsame hlaw hres).symm
  · have hnow : (ws.play tr turns).course tr r.session.id [u] = [] := by
      refine course_of_same fun hl => hsame hlaw ?_
      rw [isLive_of_run? ho ht hr, isLive_of_run? (owned_change ho hc) ht' hr', or_self] at hl
      exact Option.isNone_iff_eq_none.mp hl
    rw [Workspace.course_append, hnow, List.append_nil]
    exact h.course hlaw.of_concat.1

theorem turn_alone {r₀ r₁ : Run} {w₁ : World Unit} (h : r₀.step (always answer) w₀ = some (r₁, w₁)) :
    (⟨w₀, [⟨none, .job (.ofRun r₀)⟩]⟩ : Workspace Unit).turn (always answer) (.move 0) =
      ⟨w₁, [⟨none, .job (.ofRun r₁)⟩]⟩ := by
  have hj : (Job.ofRun r₀).step (always answer) w₀ = some (.ofRun r₁, w₁) := by
    simp only [Job.ofRun, Job.step, Run.result?_of_step h, h, Option.map_some]
  simp [Workspace.turn, Workspace.moveAt, Task.step, hj]

theorem isLive_alone {r₀ : Run} (h : r₀.result? = none) :
    (⟨w₀, [⟨none, .job (.ofRun r₀)⟩]⟩ : Workspace Unit).isLive r₀.session.id = true := by
  simp [Workspace.isLive, Task.isLive, Task.run?, Task.job?, Job.ofRun, Job.run?, h]

theorem Mirrored.move (hi : ws.Idle) (h : Mirrored tr ws turns answer r n w₀) {t : Task} {r' : Run}
    (ht : t ∈ (ws.play tr turns).tasks) (hr : t.run? = some r)
    (hm : r.step tr (ws.play tr turns).world = some (r', ((ws.play tr turns).turn tr u).world))
    (hopen : ∀ q a, r.deed tr (ws.play tr turns).world = .opens q a → a = answer) :
    ∃ w₁, Mirrored tr ws (turns ++ [u]) answer r' (n + 1) w₁ := by
  obtain ⟨w₁, hm₀, hsup, hst₀⟩ := Run.numbered_step hm hopen h.supplied
  have hsession := (Run.step_session hm).1
  have hst := (Run.step_deed hm).state
  have hres := Run.result?_of_step hm
  have ho := owned_play tr hi.owned turns
  have hplay : ws.play tr (turns ++ [u]) = (ws.play tr turns).turn tr u := ws.play_append tr turns [u]
  have hstands : (Workspace.alone answer r.session).play (always answer)
      (List.replicate (n + 1) (.move 0)) = ⟨w₁, [⟨none, .job (.ofRun (r'.numbered 0))⟩]⟩ := by
    rw [List.replicate_succ', Workspace.play_append, h.stands]
    exact turn_alone hm₀
  have hshown (hlaw : Lawful r.session.id (turns ++ [u])) :
      w₁.state.session? r.session.id =
        ((ws.play tr turns).turn tr u).world.state.session? r.session.id := by
    rw [hst, hst₀]
    exact session?_onState_congr (fun a ha => Run.drives_deed ha) (h.shown hlaw.of_concat.1 hres)
  have hlive : (ws.play tr turns).isLive r.session.id = true := by
    rw [isLive_of_run? ho ht hr, hres]
    rfl
  have hlive₀ : (⟨w₀, [⟨none, .job (.ofRun (r.numbered 0))⟩]⟩ : Workspace Unit).isLive
      r.session.id = true := isLive_alone ((r.result?_numbered 0).trans hres)
  refine ⟨w₁, by rwa [hsession], hsup, fun hlaw _ => ?_, fun hlaw => ?_⟩
  · rw [hsession] at hlaw ⊢
    rw [hplay]
    exact hshown hlaw
  · rw [hsession] at hlaw ⊢
    rw [List.replicate_succ', Workspace.course_append, Workspace.course_append, h.stands,
      h.course hlaw.of_concat.1, course_of_live hlive,
      course_of_live hlive₀, turn_alone hm₀, hshown hlaw, h.shown hlaw.of_concat.1 hres]

/-- Every run of an interleaving is mirrored by the run by itself. -/
theorem mirrored_play (hi : ws.Idle) (turns : List Turn) {t : Task} {r : Run}
    (ht : t ∈ (ws.play tr turns).tasks) (hr : t.run? = some r)
    (hanswer : ∀ q a, (r.session.id, .opens q a) ∈ ws.deeds tr turns → a = answer) :
    ∃ n w₀, Mirrored tr ws turns answer r n w₀ := by
  -- On the last turn: it is the task's own, or it leaves the run where it stands, or it begins the run.
  induction turns using List.reverseRecOn generalizing t r with
  | nil =>
    rw [Workspace.play_nil, hi.tasks] at ht
    exact absurd ht List.not_mem_nil
  | append_singleton turns u ih =>
    rw [Workspace.play_append] at ht
    rw [Workspace.deeds_append] at hanswer
    have ho := owned_play tr hi.owned turns
    have hpast {t₀ : Task} {r₀ : Run} (ht₀ : t₀ ∈ (ws.play tr turns).tasks)
        (hr₀ : t₀.run? = some r₀) (hid : r₀.session.id = r.session.id) :
        ∃ n w₀, Mirrored tr ws turns answer r₀ n w₀ :=
      ih ht₀ hr₀ fun q a hmem => hanswer q a (List.mem_append_left _ (hid ▸ hmem))
    have hc := change_turn tr (ws.play tr turns) u
    cases origin_change ho hc ht (Task.session?_of_run? hr) with
    | same ht₀ hd =>
      obtain ⟨n, w₀, hm⟩ := hpast ht₀ hr rfl
      exact ⟨n, w₀, hm.stay hi ht₀ hr ht hr hd⟩
    | awaited t₀ ht₀ hs hmem hd =>
      have hr₀ := Task.run?_of_await hmem hr
      obtain ⟨n, w₀, hm⟩ := hpast ht₀ hr₀ rfl
      exact ⟨n, w₀, hm.stay hi ht₀ hr₀ ht hr (by simp [hd])⟩
    | dropped t₀ handle ht₀ hs hh hmem hd =>
      have hr₀ := Task.run?_of_dropped hmem hr
      obtain ⟨n, w₀, hm⟩ := hpast ht₀ hr₀ rfl
      exact ⟨n, w₀, hm.stay hi ht₀ hr₀ ht hr (by simp [hd])⟩
    | unheld t₀ handle ht₀ hs hh heq hd =>
      have hr₀ : t₀.run? = some r := by rwa [heq] at hr
      obtain ⟨n, w₀, hm⟩ := hpast ht₀ hr₀ rfl
      exact ⟨n, w₀, hm.stay hi ht₀ hr₀ ht hr (by simp [hd])⟩
    | moved t₀ ht₀ hs hstep hd =>
      obtain ⟨r₀, hr₀, hm₀, hdeed⟩ := Task.run_of_step hstep (by simp [hs]) hr
      obtain ⟨n, w₀, hm⟩ := hpast ht₀ hr₀ (by rw [(Run.step_session hm₀).1])
      refine ⟨n + 1, hm.move hi ht₀ hr₀ hm₀ fun q a ha => hanswer q a ?_⟩
      refine List.mem_append_right _ ?_
      simp [Workspace.deeds, hd, hdeed, ha]
    | fresh p plugin resource hs hj hopen hd hst =>
      rw [Option.some.inj (hr.symm.trans (Task.run?_of_job? hj))]
      refine ⟨0, _, mirrored_ofPair hi hs ?_⟩
      rw [Workspace.play_append]
      exact hst

/-- Runs do not mix: after any turns of all the tasks, a run stands where it stands by itself after some
moves, with the answer that it got. If nobody else drives its session, the console has shown of that
session what it shows of it then. -/
theorem run_as_alone (tr : Transport σ) {ws : Workspace σ} (hi : ws.Idle) (turns : List Turn)
    {t : Task} {r : Run} (ht : t ∈ (ws.play tr turns).tasks) (hr : t.run? = some r)
    {answer : Answer}
    (hanswer : ∀ q a, (r.session.id, .opens q a) ∈ ws.deeds tr turns → a = answer) :
    let s := r.session.id
    let alone := Workspace.alone answer r.session
    ∃ (n : Nat) (r₀ : Run) (w₀ : World Unit),
      alone.play (always answer) (List.replicate n (.move 0)) =
          ⟨w₀, [⟨none, .job (.ofRun r₀)⟩]⟩ ∧
        r₀ = r.numbered 0 ∧ r₀.result? = r.result? ∧
        (Lawful s turns → ws.course tr s turns =
          alone.course (always answer) s (List.replicate n (.move 0))) := by
  obtain ⟨n, w₀, hm⟩ := mirrored_play hi turns ht hr hanswer
  exact ⟨n, r.numbered 0, w₀, hm.stands, rfl, r.result?_numbered 0, hm.course⟩

/-- Two runs, one of which is dismissed in vain while it goes on. -/
theorem run_as_alone_of_two :
    let plugin : Plugin := ⟨⟨"1"⟩, "disk", "", none⟩
    let resource : Resource := ⟨"10.0.0.1", "web", none, none, .synthetic 80⟩
    let answer : Answer := .opened [.event (.complete [])]
    let ws : Workspace (List Answer) := ⟨{ clock := ⟨0⟩, link := [answer, .opened []] }, []⟩
    let turns : List Turn :=
      [.begin "a" (.run plugin resource), .begin "b" (.run plugin resource), .move 0, .move 1,
        .move 0, .move 1, .move 0, .tell (.executionDismissed ⟨1⟩), .move 1, .move 0, .move 0,
        .move 1, .move 0]
    ∃ (r : Run) (n : Nat), r.session.id = ⟨1⟩ ∧ r.result?.isSome = true ∧
      ws.course prepared ⟨1⟩ turns =
        (Workspace.alone answer r.session).course (always answer) ⟨1⟩
          (List.replicate n (.move 0)) := by
  intro plugin resource answer ws turns
  have hi : ws.Idle := .of_empty rfl rfl
  have hany : (ws.play prepared turns).tasks.any (fun t =>
      t.run?.any fun r => r.session.id == ⟨1⟩ && r.result?.isSome) = true := by decide +kernel
  have hall : (ws.deeds prepared turns).all (fun d => match d with
      | (s, .opens _ a) => s != ⟨1⟩ || a == answer
      | _ => true) = true := by decide +kernel
  obtain ⟨t, ht, hr⟩ := List.any_eq_true.mp hany
  obtain ⟨r, hr, hr'⟩ := (Option.any_eq_true _ _).mp hr
  rw [Bool.and_eq_true, beq_iff_eq] at hr'
  obtain ⟨hid, hres⟩ := hr'
  have hanswer : ∀ q a, (r.session.id, .opens q a) ∈ ws.deeds prepared turns → a = answer := by
    intro q a hmem
    simpa [hid] using List.all_eq_true.mp hall _ hmem
  obtain ⟨n, r₀, w₀, -, -, -, hc⟩ := run_as_alone prepared hi turns ht hr hanswer
  rw [hid] at hc
  refine ⟨r, n, hid, hres, hc fun a ha => ?_⟩
  obtain rfl : a = .executionDismissed ⟨1⟩ := by simpa [turns] using ha
  intro hdrives
  cases hdrives

end ScanConsole
