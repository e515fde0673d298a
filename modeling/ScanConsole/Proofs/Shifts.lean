import ScanConsole.Jobs.Shift
import ScanConsole.Proofs.Ownership

/-!
# What happens in a shift

A check has four kinds of moves (`checkMove_step`), and the turn of a check in a
shift is such a move or nothing (`Shift.turn_move_cases`). Whatever happens in a
shift, the clock does not go back, and the console changes by the action that
the turn tells it, if it tells one:

    (s.turn tr v).state = s.state.applyAll (s.told? tr v).toList     (`Shift.state_told`)
    (s.play tr turns).state = s.state.applyAll (s.tolds tr turns)    (`Shift.state_play`)

So the console at the end of any interleaving is the console at its beginning
with a list of actions applied, and what is known of all lists of actions is
known of all interleavings. What the interleaving decides is only the list.
-/

namespace ScanConsole

variable {σ : Type} {tr : Transport σ}

/-! ## Moves of a check

It looks which tabs are due, takes the next of them, lets its refresh move, or
takes down how the refresh has ended. A move of a check does to the console what
its deed shows, as a move of a task does. -/

/-- One move of a check, by what it is. -/
inductive CheckMove (tr : Transport σ) (w : World σ) : Check → Check → World σ → Prop
  | looked (time : Instant) (due : List String) (current : Option (String × Job)) (got : List String) :
      CheckMove tr w ⟨time, true, due, current, got⟩ ⟨time, false, w.state.dueTabs time, current, got⟩ w
  | took (time : Instant) (tab : String) (due got : List String) :
      CheckMove tr w ⟨time, false, tab :: due, none, got⟩
        ⟨time, false, due, some (tab, .ofRefresh tab (some time)), got⟩ w
  | ran (time : Instant) (due : List String) (tab : String) (j j' : Job) (got : List String)
      (w' : World σ) : j.step tr w = some (j', w') →
      CheckMove tr w ⟨time, false, due, some (tab, j), got⟩ ⟨time, false, due, some (tab, j'), got⟩ w'
  | collected (time : Instant) (due : List String) (tab : String) (result : Except Failure Yield)
      (got : List String) :
      CheckMove tr w ⟨time, false, due, some (tab, ⟨.ended result⟩), got⟩
        ⟨time, false, due, none, Check.collect ⟨time, false, due, none, got⟩ tab result⟩ w

theorem checkMove_step {c c' : Check} {w w' : World σ} (h : c.step tr w = some (c', w')) :
    CheckMove tr w c c' w' := by
  obtain ⟨time, fresh, due, current, got⟩ := c
  cases fresh with
  | true => cases h; exact .looked time due current got
  | false =>
    cases current with
    | none =>
      cases due with
      | nil => cases h
      | cons tab due => cases h; exact .took time tab due got
    | some current =>
      obtain ⟨tab, j⟩ := current
      simp only [Check.step, Bool.false_eq_true, if_false] at h
      cases hr : j.result? with
      | some result =>
        simp only [hr, Option.some.injEq, Prod.mk.injEq] at h
        obtain ⟨rfl, rfl⟩ := h
        obtain ⟨stage⟩ := j
        cases stage <;> cases hr
        exact .collected time due tab result got
      | none =>
        simp only [hr, Option.map_eq_some_iff, Prod.mk.injEq] at h
        obtain ⟨⟨j', w₁⟩, hm, rfl, rfl⟩ := h
        exact .ran time due tab j j' got w₁ hm

theorem Check.step_deed {c c' : Check} {w w' : World σ} (h : c.step tr w = some (c', w')) :
    w'.state = (c.deed tr w).onState w.state := by
  cases checkMove_step h with
  | ran time due tab j j' got w' hj => exact (Job.step_deed hj).state
  | _ => rfl

/-! ## Turns

What a task tells, it tells under the session that it works for. A check that is
given up leaves its session to be cleared, and if that happens without a runtime
it leaves nothing. -/

theorem Deed.eq_of_told? {d : Deed} {a : Action} (h : d.told? = some a) : d = .tells a := by
  cases d <;> cases h
  rfl

/-- The action that is told in a turn with this deed. -/
def Turn.told? (u : Turn) (d : Option (SessionId × Deed)) : Option Action :=
  match u with
  | .tell a => some a
  | _ => d.bind fun e => e.2.told?

theorem Turn.told?_cases {u : Turn} {d : Option (SessionId × Deed)} {a : Action}
    (h : u.told? d = some a) : u = .tell a ∨ ∃ s, d = some (s, .tells a) := by
  have ofDeed (hd : (d.bind fun e => e.2.told?) = some a) : ∃ s, d = some (s, .tells a) := by
    obtain ⟨⟨s, e⟩, rfl, he⟩ := Option.bind_eq_some_iff.mp hd
    obtain rfl := Deed.eq_of_told? he
    exact ⟨s, rfl⟩
  cases u with
  | tell b => exact .inl (congrArg Turn.tell (Option.some.inj h))
  | _ => exact .inr (ofDeed h)

theorem Deed.onState_eq (d : Deed) (st : State) : d.onState st = st.applyAll d.told?.toList := by
  cases d <;> rfl

theorem Task.told?_of_deed (t : Task) (w : World σ) :
    ((t.session?.map (·, t.deed tr w)).bind fun e => e.2.told?) = (t.deed tr w).told? := by
  cases hs : t.session? with
  | none => rw [Task.deed_of_session? hs]; rfl
  | some session => rfl

theorem Workspace.state_turn (tr : Transport σ) (ws : Workspace σ) (u : Turn) :
    (ws.turn tr u).world.state = ws.world.state.applyAll (u.told? (ws.deed? tr u)).toList := by
  have quiet (hd : ws.deed? tr u = none) (hu : ∀ a, u ≠ .tell a) :
      (ws.turn tr u).world.state = ws.world.state := by
    rcases state_change (change_turn tr ws u) with hst | ⟨a, -, ⟨x, hd'⟩ | ⟨-, hu'⟩⟩
    · exact hst
    · cases hd.symm.trans hd'
    · exact absurd hu' (hu a)
  cases u with
  | tell a => rfl
  | move place =>
    cases ht : ws.tasks[place]? with
    | none => simp only [turn, moveAt, deed?, ht]; rfl
    | some t =>
      cases hm : t.step tr ws.world with
      | none => simp only [turn, moveAt, deed?, ht, hm]; rfl
      | some m =>
        have hst := (Task.step_deed hm).state
        rw [Deed.onState_eq, ← Task.told?_of_deed] at hst
        simp only [turn, moveAt, deed?, ht, hm]
        exact hst
  | _ => exact quiet rfl fun a h => by cases h

namespace Shift

theorem turn_move_cases (tr : Transport σ) (s : Shift σ) (place : Nat) :
    (s.turn tr (.move place) = s ∧ s.told? tr (.move place) = none) ∨
      ∃ c ∈ s.checks, ∃ c' w, c.step tr s.timed.world = some (c', w) ∧
        s.turn tr (.move place) =
          { s with workspace := { s.workspace with world := w }, checks := s.checks.set place c' } ∧
        s.told? tr (.move place) = (c.deed tr s.timed.world).told? := by
  cases hc : s.checks[place]? with
  | none => exact .inl (by simp only [turn, told?, hc, and_self])
  | some c =>
    cases hm : c.step tr s.timed.world with
    | none => exact .inl (by simp only [turn, told?, hc, hm, Option.bind_none, and_self])
    | some m =>
      refine .inr ⟨c, List.mem_of_getElem? hc, m.1, m.2, hm, ?_⟩
      simp only [turn, told?, hc, hm, Option.bind_some, and_self]

theorem turn_drop_cases (tr : Transport σ) (s : Shift σ) (place : Nat) :
    s.turn tr (.drop place) = s ∨ ∃ c : Check,
      s.turn tr (.drop place) = { s with
        workspace := { s.workspace with
          tasks := s.workspace.tasks ++ c.orphan?.toList.map fun session => ⟨none, .clear session⟩ }
        checks := s.checks.eraseIdx place } := by
  cases hc : s.checks[place]? with
  | none => exact .inl (by simp only [turn, hc])
  | some c => exact .inr ⟨c, by simp only [turn, hc]⟩

theorem clock_turn (tr : Transport σ) (s : Shift σ) (u : ShiftTurn) :
    s.clock.nanos ≤ (s.turn tr u).clock.nanos := by
  cases u with
  | pass nanos => exact Int.le_add_of_nonneg_right (Int.natCast_nonneg nanos)
  | move place =>
    rcases turn_move_cases tr s place with ⟨hturn, -⟩ | ⟨c, -, c', w, -, hturn, -⟩
    · exact Int.le_of_eq (congrArg (fun s => s.clock.nanos) hturn).symm
    · exact Int.le_of_eq (congrArg (fun s => s.clock.nanos) hturn).symm
  | drop place =>
    rcases turn_drop_cases tr s place with hturn | ⟨c, hturn⟩
    · exact Int.le_of_eq (congrArg (fun s => s.clock.nanos) hturn).symm
    · exact Int.le_of_eq (congrArg (fun s => s.clock.nanos) hturn).symm
  | _ => exact Int.le_refl _

/-- The state changes by the action that is told. -/
theorem state_told (tr : Transport σ) (s : Shift σ) (v : ShiftTurn) :
    (s.turn tr v).state = s.state.applyAll (s.told? tr v).toList := by
  cases v with
  | work u =>
    have hst := Workspace.state_turn tr s.timed u
    cases u <;> exact hst
  | move place =>
    rcases turn_move_cases tr s place with ⟨hturn, htold⟩ | ⟨c, -, c', w, hm, hturn, htold⟩
    · rw [hturn, htold]; rfl
    · rw [hturn, htold]
      exact (Check.step_deed hm).trans (Deed.onState_eq _ _)
  | drop place =>
    rcases turn_drop_cases tr s place with hturn | ⟨c, hturn⟩
    · rw [hturn]; rfl
    · rw [hturn]; rfl
  | _ => rfl

theorem state_play (tr : Transport σ) (s : Shift σ) (turns : List ShiftTurn) :
    (s.play tr turns).state = s.state.applyAll (s.tolds tr turns) := by
  induction turns generalizing s with
  | nil => rfl
  | cons v turns ih =>
    rw [play_cons, ih, state_told, tolds]
    exact List.foldl_append.symm

/-- The state stays, or changes by the action that a turn tells. -/
theorem state_turn (tr : Transport σ) (s : Shift σ) (u : ShiftTurn) :
    (s.turn tr u).state = s.state ∨
      ∃ a, s.told? tr u = some a ∧ (s.turn tr u).state = s.state.apply a := by
  have hst := state_told tr s u
  cases ha : s.told? tr u with
  | none =>
    rw [ha] at hst
    exact .inl hst
  | some a =>
    rw [ha] at hst
    exact .inr ⟨a, rfl, hst⟩

end Shift

end ScanConsole
