import ScanConsole.Jobs.Turn
import ScanConsole.Proofs.Checks

/-!
# What executions do to the link

The link is what a transport remembers from one request to the next. A run
touches it once, when it asks for its channel, and nothing else that is done for
an execution touches it at all. One move of a run, a job, a task or a check
therefore leaves the link alone or is one request (`Transport.Reaches`).

A relation `P` on what transports remember holds between the beginning and the
end of every execution as soon as it is kept by one request (`Transport.Keeps`):

    P s s          P s s' → P s' s'' → P s s''
    P s (tr.connect request s).2

What `P` is, is left to the theorems about the transports: there it says that
the client has the same configuration and token, and has made more requests. No
theorem here looks into a transport, and none asks in which order the moves
come: the same relation is kept by every turn of a workspace.
-/

namespace ScanConsole

variable {σ : Type}

/-- At most one channel was asked for. -/
def Transport.Reaches (tr : Transport σ) (s s' : σ) : Prop :=
  s' = s ∨ ∃ request, s' = (tr.connect request s).2

/-- A relation that a request keeps to, and that goes on from step to step. -/
structure Transport.Keeps (tr : Transport σ) (P : σ → σ → Prop) : Prop where
  refl : ∀ s, P s s
  trans : ∀ {s s' s''}, P s s' → P s' s'' → P s s''
  connect : ∀ request s, P s (tr.connect request s).2

variable {tr : Transport σ} {P : σ → σ → Prop} {w w' : World σ}

theorem Transport.Keeps.of_reaches (hk : tr.Keeps P) {s s' : σ} (h : tr.Reaches s s') : P s s' := by
  obtain rfl | ⟨request, rfl⟩ := h
  · exact hk.refl s'
  · exact hk.connect request s

/-! ## One move

Only a run that opens asks. All others either do not use the link or hand on
what a run did to it. -/

theorem World.link_useRelease? {number : Nat} (h : w.useRelease? number = some w') : w'.link = w.link := by
  unfold useRelease? at h
  split at h
  · rw [← Option.some.inj h]
  · cases h

theorem World.link_clearOrphan (orphan : Option SessionId) (w : World σ) :
    (w.clearOrphan orphan).link = w.link := by
  cases orphan <;> rfl

theorem Run.reaches_step {r r' : Run} (h : r.step tr w = some (r', w')) : tr.Reaches w.link w'.link := by
  obtain ⟨session, stage⟩ := r
  unfold step at h
  cases stage with
  | opening =>
    obtain ⟨-, rfl⟩ := Prod.mk.inj (Option.some.inj h)
    exact .inr ⟨_, rfl⟩
  | listening c t logs =>
    simp only at h
    split at h
    · obtain ⟨w₁, hw₁, heq⟩ := Option.map_eq_some_iff.mp h
      obtain ⟨-, rfl⟩ := Prod.mk.inj heq
      exact .inl (World.link_useRelease? hw₁)
    · obtain ⟨-, rfl⟩ := Prod.mk.inj (Option.some.inj h)
      exact .inl rfl
  | ended => cases h
  | _ =>
    obtain ⟨-, rfl⟩ := Prod.mk.inj (Option.some.inj h)
    exact .inl rfl

theorem Job.link_begin (tab : String) (time : Option Instant) (w : World σ) :
    (begin tab time w).2.link = w.link := by
  unfold begin
  cases w.state.tab? tab with
  | none => rfl
  | some t => cases time <;> rfl

theorem Job.link_conclude (purpose : Purpose) (r : Run) (result : Except Failure Outcome) (w : World σ) :
    (conclude purpose r result w).2.link = w.link := by
  cases purpose <;> cases result <;> rfl

theorem Job.reaches_step {j j' : Job} (h : j.step tr w = some (j', w')) : tr.Reaches w.link w'.link := by
  obtain ⟨stage⟩ := j
  unfold step at h
  cases stage with
  | looking tab time =>
    obtain ⟨-, rfl⟩ := Prod.mk.inj (Option.some.inj h)
    exact .inl (link_begin tab time w)
  | running purpose r =>
    simp only at h
    split at h
    · obtain ⟨-, rfl⟩ := Prod.mk.inj (Option.some.inj h)
      exact .inl (link_conclude purpose r _ w)
    · obtain ⟨⟨r', w₁⟩, hmove, heq⟩ := Option.map_eq_some_iff.mp h
      obtain ⟨-, rfl⟩ := Prod.mk.inj heq
      exact Run.reaches_step hmove
  | ended => cases h
  | _ =>
    obtain ⟨-, rfl⟩ := Prod.mk.inj (Option.some.inj h)
    exact .inl rfl

theorem Task.reaches_step {t : Task} {left : List Task} (h : t.step tr w = some (left, w')) :
    tr.Reaches w.link w'.link := by
  obtain ⟨handle, work⟩ := t
  unfold step at h
  cases work with
  | job j =>
    obtain ⟨⟨j', w₁⟩, hmove, heq⟩ := Option.map_eq_some_iff.mp h
    obtain ⟨-, rfl⟩ := Prod.mk.inj heq
    exact Job.reaches_step hmove
  | selection j waiting =>
    simp only at h
    split at h
    · obtain ⟨⟨j', w₁⟩, hmove, heq⟩ := Option.map_eq_some_iff.mp h
      obtain ⟨-, rfl⟩ := Prod.mk.inj heq
      exact Job.reaches_step hmove
    · cases h
  | clear session =>
    obtain ⟨-, rfl⟩ := Prod.mk.inj (Option.some.inj h)
    exact .inl rfl

theorem Check.reaches_step {c c' : Check} (h : c.step tr w = some (c', w')) : tr.Reaches w.link w'.link := by
  unfold step at h
  split at h
  · obtain ⟨-, rfl⟩ := Prod.mk.inj (Option.some.inj h)
    exact .inl rfl
  · split at h
    · split at h
      · obtain ⟨-, rfl⟩ := Prod.mk.inj (Option.some.inj h)
        exact .inl rfl
      · obtain ⟨⟨j', w₁⟩, hmove, heq⟩ := Option.map_eq_some_iff.mp h
        obtain ⟨-, rfl⟩ := Prod.mk.inj heq
        exact Job.reaches_step hmove
    · split at h
      · cases h
      · obtain ⟨-, rfl⟩ := Prod.mk.inj (Option.some.inj h)
        exact .inl rfl

theorem Workspace.reaches_turn (tr : Transport σ) (ws : Workspace σ) (u : Turn) :
    tr.Reaches ws.world.link (ws.turn tr u).world.link := by
  cases u with
  | move place =>
    show tr.Reaches ws.world.link (ws.moveAt tr place).world.link
    unfold moveAt
    split
    · exact .inl rfl
    · split
      · exact .inl rfl
      · next hstep => exact Task.reaches_step hstep
  | await place =>
    show tr.Reaches ws.world.link (ws.awaitAt place).world.link
    unfold awaitAt
    split <;> exact .inl rfl
  | drop handle => exact .inl (congrArg World.link (world_letGo _ _ ws))
  | abandon handle => exact .inl (congrArg World.link (world_letGo _ _ ws))
  | detach handle => exact .inl (congrArg World.link (world_letGo _ _ ws))
  | join handle =>
    show tr.Reaches ws.world.link (ws.join handle).2.world.link
    unfold join
    split <;> exact .inl rfl
  | begin handle errand => cases errand <;> exact .inl rfl
  | tidy => exact .inl rfl
  | tell a => exact .inl rfl
  | release number => exact .inl rfl

/-! ## Whole executions

An execution is the moves of its job until this has ended, so the relation is
carried by induction on the moves. -/

section
variable (hk : tr.Keeps P)
include hk

theorem Job.keeps_settle (j : Job) (w : World σ) : P w.link (j.settle tr w).2.link := by
  induction j, w using Job.settle.induct tr with
  | case1 j w hnone =>
    rw [settle_of_none hnone]
    exact hk.refl _
  | case2 j w j' w' hstep ih =>
    rw [settle_of_step hstep]
    exact hk.trans (hk.of_reaches (reaches_step hstep)) ih

theorem Check.keeps_settle (c : Check) (w : World σ) : P w.link (c.settle tr w).2.link := by
  induction c, w using Check.settle.induct tr with
  | case1 c w hnone =>
    rw [settle_of_none hnone]
    exact hk.refl _
  | case2 c w c' w' hstep ih =>
    rw [settle_of_step hstep]
    exact hk.trans (hk.of_reaches (reaches_step hstep)) ih

namespace Workspace

theorem keeps_perform (j : Job) (w : World σ) : P w.link (perform tr j w).2.link := by
  have hsettle := Job.keeps_settle hk j w
  unfold perform
  dsimp only
  split
  · exact hsettle
  · rw [World.link_clearOrphan]
    exact hsettle

theorem keeps_run (plugin : Plugin) (resource : Resource) (w : World σ) :
    P w.link (run tr plugin resource w).2.link :=
  keeps_perform hk (.ofRun (.ofPair w.freshSession.1 plugin resource)) w.freshSession.2

theorem keeps_select (plugin : Plugin) (resource : Resource) (w : World σ) :
    P w.link (select tr plugin resource w).2.link :=
  keeps_perform hk (.ofSelect (.ofPair w.freshSession.1 plugin resource)) w.freshSession.2

theorem keeps_refresh (tab : String) (w : World σ) : P w.link (refresh tr tab w).2.link :=
  keeps_perform hk _ _

theorem keeps_check (time : Instant) (w : World σ) : P w.link (check tr time w).2.link := by
  have hsettle := Check.keeps_settle hk (.ofTime time) w
  unfold check
  dsimp only
  split
  · exact hsettle
  · rw [World.link_clearOrphan]
    exact hsettle

theorem keeps_turn (ws : Workspace σ) (u : Turn) : P ws.world.link (ws.turn tr u).world.link :=
  hk.of_reaches (reaches_turn tr ws u)

end Workspace

end

end ScanConsole
