import ScanConsole.Proofs.Drops
import ScanConsole.Proofs.Shifts

/-!
# Checks as tasks

A check refreshes one tab at a time, and a refresh in progress is a job like
those that the tasks of the workspace do. `Shift.joined` puts these jobs beside
the tasks. Whatever happens in a shift is then one of the things that can happen
in a workspace, and shows the same deed (`Shift.jointWith_turn`), so what is
known of every `Change` also holds where checks go on:

    a move of a check         its refresh moves, or a refresh begins, or one
                              that has ended goes
    a check that is given up  its refresh is given up
    a turn in the workspace   the same turn, with the refreshes in front
    an interval that is set   somebody who is no task tells an action

The order of the tasks gets lost on the way: a check that takes its next tab
puts a task in the middle, where a workspace would put it at the end.
`Workspace.Alike` leaves the order open, and so do all properties that are
carried over.
-/

namespace ScanConsole

variable {σ : Type} {tr : Transport σ}

/-! ## Workspaces that hold the same

Ownership and what is kept of the tasks of a session depend on the tasks as a
set. Other tasks in front of them do not keep the tasks from what they do
(`change_prepend`). -/

/-- The workspaces hold the same sessions, tabs and tasks, these in whatever order. -/
structure Workspace.Alike (ws ws' : Workspace σ) : Prop where
  state : ws'.world.state = ws.world.state
  next : ws'.world.nextSession = ws.world.nextSession
  tasks : ws'.tasks.Perm ws.tasks

theorem Workspace.Alike.refl (ws : Workspace σ) : ws.Alike ws := ⟨rfl, rfl, List.Perm.refl _⟩

section
variable {ws ws' : Workspace σ}

theorem Workspace.Owned.alike (ho : ws.Owned) (h : ws.Alike ws') : ws'.Owned := by
  have hperm : ws'.owners.Perm ws.owners := h.tasks.filterMap _
  refine ⟨hperm.nodup_iff.mpr ho.nodup, ?_⟩
  intro s hmem
  rw [h.next]
  exact ho.known s (hperm.mem_iff.mp hmem)

theorem Workspace.Kept.alike {P : Task → Prop} {s : SessionId} (hk : ws.Kept P s) (h : ws.Alike ws') :
    ws'.Kept P s where
  known := by rw [h.next]; exact hk.known
  tasks t ht hs := hk.tasks t (h.tasks.mem_iff.mp ht) hs

end

theorem change_prepend {ws ws' : Workspace σ} {u : Turn} {d : Option (SessionId × Deed)}
    (others : List Task) (h : Change tr ws u d ws') :
    Change tr ⟨ws.world, others ++ ws.tasks⟩ u d ⟨ws'.world, others ++ ws'.tasks⟩ := by
  have split {l r : List Task} {t : Task} (htasks : ws.tasks = l ++ t :: r) :
      others ++ ws.tasks = others ++ l ++ t :: r := by
    rw [htasks, List.append_assoc]
  cases h with
  | @moved place l r left t w htasks hm =>
    have hc : Change tr ⟨ws.world, others ++ ws.tasks⟩ (.move place)
        (t.session?.map (·, t.deed tr ws.world)) ⟨w, others ++ l ++ left ++ r⟩ :=
      .moved (split htasks) hm
    simpa only [List.append_assoc] using hc
  | @awaited place l r t htasks =>
    have hc : Change tr ⟨ws.world, others ++ ws.tasks⟩ (.await place) none
        ⟨ws.world, others ++ l ++ t.await ++ r⟩ := .awaited (split htasks)
    simpa only [List.append_assoc] using hc
  | @letGo u l r left t htasks hgo =>
    have hc : Change tr ⟨ws.world, others ++ ws.tasks⟩ u none
        ⟨ws.world, others ++ l ++ r ++ left⟩ := .letGo (split htasks) hgo
    simpa only [List.append_assoc] using hc
  | thinned hsub hkeep =>
    refine .thinned (hsub.append_left others) ?_
    intro t ht hn
    rcases List.mem_append.mp ht with ht | ht
    · exact List.mem_append_left _ ht
    · exact List.mem_append_right _ (hkeep t ht hn)
  | @begun handle errand t n hn hpair hjob =>
    have hc : Change tr ⟨ws.world, others ++ ws.tasks⟩ (.begin handle errand) none
        ⟨{ ws.world with nextSession := n }, others ++ ws.tasks ++ [t]⟩ := .begun hn hpair hjob
    simpa only [List.append_assoc] using hc
  | told => exact .told
  | released => exact .released

/-! ## Checks and tasks together

`Shift.GivesUp` names the turns that give up the task or the refresh of a
session. A join that is dropped is not one of them, since the task goes on.
`Shift.JointWith` carries this along: a change that gives a task up gives up one
of which the shift says so.

A check that is given up between two refreshes takes no task with it
(`refreshes_eraseIdx`); one that is given up at a refresh is that refresh given
up, with a runtime or without (`jointWith_of_given`). -/

/-- The refresh that a check has in progress, as a task. -/
def Check.task? (c : Check) : Option Task :=
  c.current.map fun current => ⟨some current.1, .job current.2⟩

/-- The deed of a check, under the session that its refresh works for. -/
def Check.deed? (tr : Transport σ) (c : Check) (w : World σ) : Option (SessionId × Deed) :=
  if c.fresh then none else c.task?.bind fun t => t.session?.map (·, t.deed tr w)

/-- The handle whose task a turn gives up. -/
def Turn.givesUp? : Turn → Option String
  | .drop handle => some handle
  | .abandon handle => some handle
  | _ => none

namespace Shift

/-- The deed of a turn, under the session that the task or the refresh works for. -/
def deed? (tr : Transport σ) (s : Shift σ) : ShiftTurn → Option (SessionId × Deed)
  | .work u => s.timed.deed? tr u
  | .move place =>
    match s.checks[place]? with
    | none => none
    | some c => (c.step tr s.timed.world).bind fun _ => c.deed? tr s.timed.world
  | _ => none

/-- The deeds of several turns, in their order. -/
def deeds (tr : Transport σ) : Shift σ → List ShiftTurn → List (SessionId × Deed)
  | _, [] => []
  | s, v :: rest => (s.deed? tr v).toList ++ deeds tr (s.turn tr v) rest

theorem deeds_append (tr : Transport σ) (s : Shift σ) (us vs : List ShiftTurn) :
    s.deeds tr (us ++ vs) = s.deeds tr us ++ (s.play tr us).deeds tr vs := by
  induction us generalizing s with
  | nil => rfl
  | cons u us ih => simp only [List.cons_append, deeds, ih, play_cons, List.append_assoc]

/-- The task or the refresh that works for this session is given up in the turn. -/
def GivesUp (session : SessionId) (s : Shift σ) : ShiftTurn → Prop
  | .work u => ∃ handle t, u.givesUp? = some handle ∧ s.workspace.task? handle = some t ∧
      t.session? = some session
  | .drop place | .abandon place =>
    ∃ c t, s.checks[place]? = some c ∧ c.task? = some t ∧ t.session? = some session
  | _ => False

/-- It is given up in one of the turns. -/
def GivenUp (tr : Transport σ) (session : SessionId) : Shift σ → List ShiftTurn → Prop
  | _, [] => False
  | s, v :: rest => s.GivesUp session v ∨ GivenUp tr session (s.turn tr v) rest

def refreshes (checks : List Check) : List Task := checks.filterMap Check.task?

/-- The workspace with the refreshes of the checks among its tasks. -/
def joined (s : Shift σ) : Workspace σ := ⟨s.workspace.world, refreshes s.checks ++ s.workspace.tasks⟩

theorem alike_joined {s : Shift σ} (hc : s.checks = []) : s.workspace.Alike s.joined := by
  refine ⟨rfl, rfl, .of_eq ?_⟩
  rw [joined, hc]
  rfl

/-- The actions that others than tasks and checks tell in a turn. -/
inductive Says (s : Shift σ) : ShiftTurn → Action → Prop
  | tell (a : Action) : Says s (.work (.tell a)) a
  | setInterval (tab : String) (interval : RefreshInterval) :
      Says s (.setInterval tab interval) (.refreshIntervalSet tab interval s.clock)

/-- If a task is given up between these workspaces, it is one with this property. -/
def Dropping (P : Task → Prop) (u : Turn) (ws ws' : Workspace σ) : Prop :=
  ∀ handle, u.givesUp? = some handle →
    ∃ l r t left, ws.tasks = l ++ t :: r ∧ ws'.tasks = l ++ r ++ left ∧ P t

/-- A turn with this deed, as a change of the tasks and the refreshes of the checks together. -/
inductive JointWith (tr : Transport σ) (s : Shift σ) (v : ShiftTurn) (d : Option (SessionId × Deed)) : Prop
  | intro (ws ws' : Workspace σ) (u : Turn) :
      s.joined.Alike ws → Change tr ws u d ws' → ws'.Alike (s.turn tr v).joined →
      s.told? tr v = u.told? d → (∀ a, u = .tell a → s.Says v a) →
      Dropping (fun t => ∀ x, t.session? = some x → s.GivesUp x v) u ws ws' → JointWith tr s v d

theorem JointWith.stay {s : Shift σ} {v : ShiftTurn} {d : Option (SessionId × Deed)}
    (h : s.joined.Alike (s.turn tr v).joined) (htold : s.told? tr v = none) (hd : d = none) :
    JointWith tr s v d := by
  subst hd
  refine .intro _ _ .tidy (.refl _) (change_stay _ _) h htold ?_ ?_
  · intro a ha
    cases ha
  · intro handle ha
    cases ha

theorem refreshes_around {checks : List Check} {place : Nat} {c : Check} (h : checks[place]? = some c) :
    ∃ l r, refreshes checks = l ++ c.task?.toList ++ r ∧
      (∀ c' : Check, refreshes (checks.set place c') = l ++ c'.task?.toList ++ r) ∧
      refreshes (checks.eraseIdx place) = l ++ r := by
  have hsplit := split_of_getElem? h
  have hlt : place < checks.length := (List.getElem?_eq_some_iff.mp h).1
  have around (c' : Check) : refreshes (checks.take place ++ c' :: checks.drop (place + 1)) =
      refreshes (checks.take place) ++ c'.task?.toList ++ refreshes (checks.drop (place + 1)) := by
    simp only [refreshes, List.filterMap_append, List.filterMap_cons, List.append_assoc]
    cases c'.task? <;> rfl
  refine ⟨refreshes (checks.take place), refreshes (checks.drop (place + 1)), ?_, fun c' => ?_, ?_⟩
  · rw [← around c, ← hsplit]
  · rw [← around c', List.set_eq_take_append_cons_drop, if_pos hlt]
  · rw [List.eraseIdx_eq_take_drop_succ]
    exact List.filterMap_append

theorem jointWith_of_check {s : Shift σ} {v : ShiftTurn} {c c' : Check} {w : World σ} {l r : List Task}
    (hm : c.step tr s.timed.world = some (c', w))
    (hbefore : s.joined.tasks = l ++ c.task?.toList ++ r)
    (hafter : (⟨w, l ++ c'.task?.toList ++ r⟩ : Workspace σ).Alike (s.turn tr v).joined)
    (htold : s.told? tr v = (c.deed tr s.timed.world).told?) :
    JointWith tr s v (c.deed? tr s.timed.world) := by
  have hstart : s.joined.Alike ⟨s.timed.world, l ++ c.task?.toList ++ r⟩ :=
    ⟨rfl, rfl, by rw [hbefore]⟩
  cases checkMove_step hm with
  | looked time due current got =>
    exact .intro _ _ .tidy hstart (change_stay _ _) hafter htold (fun a ha => by cases ha)
      fun handle ha => by cases ha
  | took time tab due got =>
    let t : Task := ⟨some tab, .job (.ofRefresh tab (some time))⟩
    have hc : Change tr ⟨s.timed.world, l ++ [] ++ r⟩ (.begin tab (.refresh tab (some time))) none
        ⟨s.timed.world, l ++ [] ++ r ++ [t]⟩ :=
      .begun (.inl ⟨rfl, rfl⟩) (fun r hr => by cases hr) fun s hs => by cases hs
    refine .intro _ _ _ hstart hc ⟨hafter.state, hafter.next, hafter.tasks.trans ?_⟩ htold
      (fun a ha => by cases ha) fun handle ha => by cases ha
    have hperm : (l ++ [t] ++ r).Perm (l ++ (r ++ [t])) := by
      rw [List.append_assoc]
      exact List.perm_append_comm.append_left l
    simpa [Check.task?, t] using hperm
  | ran time due tab j j' got w' hj =>
    let t : Task := ⟨some tab, .job j⟩
    have hstep : t.step tr s.timed.world = some ([⟨some tab, .job j'⟩], w) := by
      simp only [t, Task.step, hj, Option.map_some]
    have hc : Change tr ⟨s.timed.world, l ++ [t] ++ r⟩ (.move 0)
        (t.session?.map (·, t.deed tr s.timed.world)) ⟨w, l ++ [⟨some tab, .job j'⟩] ++ r⟩ :=
      .moved (by simp) hstep
    refine .intro _ _ _ hstart hc hafter (htold.trans ?_) (fun a ha => by cases ha)
      fun handle ha => by cases ha
    exact (Task.told?_of_deed t s.timed.world).symm
  | collected time due tab result got =>
    let t : Task := ⟨some tab, .job ⟨.ended result⟩⟩
    have hc : Change tr ⟨s.timed.world, l ++ [t] ++ r⟩ .tidy none ⟨s.timed.world, l ++ [] ++ r⟩ := by
      refine .thinned ?_ ?_
      · exact ((List.nil_sublist _).append_left l).append_right r
      · intro t' ht' hn
        have hmem : t' = t ∨ t' ∈ l ++ [] ++ r := by
          simpa [or_left_comm] using ht'
        rcases hmem with rfl | hmem
        · cases hn
        · exact hmem
    exact .intro _ _ .tidy hstart hc hafter htold (fun a ha => by cases ha) fun handle ha => by cases ha

theorem jointWith_move (tr : Transport σ) (s : Shift σ) (place : Nat) :
    JointWith tr s (.move place) (s.deed? tr (.move place)) := by
  cases hc : s.checks[place]? with
  | none =>
    have hturn : s.turn tr (.move place) = s := by simp only [turn, hc]
    exact .stay (by rw [hturn]; exact .refl _) (by simp only [told?, hc]) (by simp only [deed?, hc])
  | some c =>
    cases hm : c.step tr s.timed.world with
    | none =>
      have hturn : s.turn tr (.move place) = s := by simp only [turn, hc, hm]
      exact .stay (by rw [hturn]; exact .refl _) (by simp only [told?, hc, hm, Option.bind_none])
        (by simp only [deed?, hc, hm, Option.bind_none])
    | some m =>
      obtain ⟨c', w⟩ := m
      obtain ⟨l, r, hbefore, hafter, -⟩ := refreshes_around hc
      have hdeed : s.deed? tr (.move place) = c.deed? tr s.timed.world := by
        simp only [deed?, hc, hm, Option.bind_some]
      rw [hdeed]
      refine jointWith_of_check hm (l := l) (r := r ++ s.workspace.tasks) ?_ ?_ ?_
      · simp only [joined, hbefore, List.append_assoc]
      · have hturn : (s.turn tr (.move place)).joined =
            ⟨w, l ++ c'.task?.toList ++ r ++ s.workspace.tasks⟩ := by
          simp only [turn, hc, hm, joined, hafter]
        rw [hturn, List.append_assoc _ r]
        exact .refl _
      · simp only [told?, hc, hm, Option.bind_some]

theorem refreshes_eraseIdx {checks : List Check} {place : Nat} {c : Check} (h : checks[place]? = some c)
    (hcurrent : c.current = none) : refreshes (checks.eraseIdx place) = refreshes checks := by
  obtain ⟨l, r, hbefore, -, hafter⟩ := refreshes_around h
  rw [hbefore, hafter, Check.task?, hcurrent, Option.map_none, Option.toList_none, List.append_nil]

theorem jointWith_of_given {s : Shift σ} {v : ShiftTurn} {place : Nat} {c : Check} {tab : String} {j : Job}
    {u : Turn} {left : List Task} (hcheck : s.checks[place]? = some c)
    (hcurrent : c.current = some (tab, j)) (hgo : Task.LetGo ⟨some tab, .job j⟩ u left)
    (hturn : (s.turn tr v).joined =
      ⟨s.workspace.world, refreshes (s.checks.eraseIdx place) ++ (s.workspace.tasks ++ left)⟩)
    (htold : s.told? tr v = none) (hgives : ∀ x, j.session? = some x → s.GivesUp x v) :
    JointWith tr s v none := by
  obtain ⟨l, r, hbefore, -, hafter⟩ := refreshes_around hcheck
  let t : Task := ⟨some tab, .job j⟩
  have hsplit : s.joined.tasks = l ++ t :: (r ++ s.workspace.tasks) := by
    simp [joined, hbefore, Check.task?, hcurrent, t]
  have hc : Change tr s.joined u none ⟨s.joined.world, l ++ (r ++ s.workspace.tasks) ++ left⟩ :=
    .letGo hsplit hgo
  have htold' : s.told? tr v = u.told? none := by
    rw [htold]
    cases hgo <;> rfl
  refine .intro _ _ u (.refl _) hc ?_ htold' (fun a ha => by cases hgo <;> cases ha) ?_
  · rw [hturn, hafter]
    refine ⟨rfl, rfl, .of_eq ?_⟩
    simp only [List.append_assoc]
  · intro handle hhandle
    exact ⟨l, r ++ s.workspace.tasks, t, left, hsplit, rfl, hgives⟩

theorem jointWith_drop (tr : Transport σ) (s : Shift σ) (place : Nat) :
    JointWith tr s (.drop place) none := by
  cases hcheck : s.checks[place]? with
  | none =>
    have hturn : s.turn tr (.drop place) = s := by simp only [turn, hcheck]
    exact .stay (by rw [hturn]; exact .refl _) rfl rfl
  | some c =>
    have hturn : (s.turn tr (.drop place)).joined =
        ⟨s.workspace.world, refreshes (s.checks.eraseIdx place) ++ (s.workspace.tasks ++
          c.orphan?.toList.map fun session => ⟨none, .clear session⟩)⟩ := by
      simp only [turn, hcheck, joined]
    cases hcurrent : c.current with
    | none =>
      refine .stay ⟨by rw [hturn]; rfl, by rw [hturn]; rfl, .of_eq ?_⟩ rfl rfl
      rw [hturn, refreshes_eraseIdx hcheck hcurrent]
      simp [joined, Check.orphan?, hcurrent]
    | some current =>
      refine jointWith_of_given hcheck hcurrent (.dropped rfl) ?_ rfl fun x hx => ?_
      · rw [hturn, Check.orphan?, hcurrent]
        rfl
      · exact ⟨c, _, hcheck, congrArg (Option.map _) hcurrent, hx⟩

theorem jointWith_abandon (tr : Transport σ) (s : Shift σ) (place : Nat) :
    JointWith tr s (.abandon place) none := by
  cases hcheck : s.checks[place]? with
  | none =>
    have hturn : s.turn tr (.abandon place) = s := by
      simp only [turn, List.eraseIdx_of_length_le (List.getElem?_eq_none_iff.mp hcheck)]
    exact .stay (by rw [hturn]; exact .refl _) rfl rfl
  | some c =>
    cases hcurrent : c.current with
    | none =>
      refine .stay ⟨rfl, rfl, .of_eq ?_⟩ rfl rfl
      exact congrArg (· ++ s.workspace.tasks) (refreshes_eraseIdx hcheck hcurrent)
    | some current =>
      refine jointWith_of_given hcheck hcurrent (.abandoned rfl) ?_ rfl fun x hx => ?_
      · simp only [turn, joined, Task.abandoned, List.append_nil]
      · exact ⟨c, _, hcheck, congrArg (Option.map _) hcurrent, hx⟩

theorem jointWith_work (tr : Transport σ) (s : Shift σ) (u : Turn) :
    JointWith tr s (.work u) (s.deed? tr (.work u)) := by
  have halike : s.joined.Alike ⟨s.timed.world, refreshes s.checks ++ s.timed.tasks⟩ :=
    ⟨rfl, rfl, .refl _⟩
  have hc := change_prepend (refreshes s.checks) (change_turn tr s.timed u)
  have hsays : ∀ a, u = .tell a → s.Says (.work u) a := by
    rintro a rfl
    exact .tell a
  have giving {handle : String} (left : Task → List Task) (hu : u.givesUp? = some handle)
      (hturn : s.timed.turn tr u = s.timed.letGo left handle) (hdeed : s.timed.deed? tr u = none)
      (htold : s.told? tr (.work u) = none) : JointWith tr s (.work u) (s.deed? tr (.work u)) := by
    cases htask : s.workspace.task? handle with
    | none =>
      have htimed : s.timed.task? handle = none := htask
      have hstay : s.turn tr (.work u) = { s with workspace := s.timed } := by
        simp only [turn, hturn, Workspace.letGo, htimed]
      exact .stay (by rw [hstay]; exact halike) htold hdeed
    | some t =>
      have htimed : s.timed.task? handle = some t := htask
      obtain ⟨l, r, htasks, hgo⟩ := letGo_of_task? left htimed
      refine .intro _ _ _ halike hc (.refl _) ?_ hsays ?_
      · rw [htold]
        cases u with
        | drop handle => rfl
        | abandon handle => rfl
        | _ => cases hu
      · intro handle' hhandle
        obtain rfl := Option.some.inj (hu.symm.trans hhandle)
        refine ⟨refreshes s.checks ++ l, r, t, left t, ?_, ?_, fun x hx => ⟨handle, t, hu, htask, hx⟩⟩
        · simp only [htasks, List.append_assoc]
        · rw [hturn, hgo]
          simp only [List.append_assoc]
  cases u with
  | drop handle => exact giving Task.dropped rfl rfl rfl rfl
  | abandon handle => exact giving Task.abandoned rfl rfl rfl rfl
  | _ => exact .intro _ _ _ halike hc (.refl _) rfl hsays fun handle ha => by cases ha

/-- Every turn is such a change, with its deed. -/
theorem jointWith_turn (tr : Transport σ) (s : Shift σ) (v : ShiftTurn) :
    JointWith tr s v (s.deed? tr v) := by
  cases v with
  | pass nanos => exact .stay (.refl _) rfl rfl
  | work u => exact jointWith_work tr s u
  | setInterval tab interval =>
    let a : Action := .refreshIntervalSet tab interval s.clock
    have hc : Change tr s.joined (.tell a) none ⟨s.joined.world.dispatch a, s.joined.tasks⟩ := .told
    refine .intro _ _ _ (.refl _) hc ⟨rfl, rfl, .refl _⟩ rfl ?_ fun handle ha => by cases ha
    intro a' ha'
    cases ha'
    exact .setInterval tab interval
  | check =>
    have hnone : refreshes (s.checks ++ [.ofTime s.clock]) = refreshes s.checks :=
      List.filterMap_append.trans (List.append_nil _)
    have htasks : (s.turn tr .check).joined.tasks = s.joined.tasks :=
      congrArg (· ++ s.workspace.tasks) hnone
    exact .stay ⟨rfl, rfl, .of_eq htasks⟩ rfl rfl
  | move place => exact jointWith_move tr s place
  | drop place => exact jointWith_drop tr s place
  | abandon place => exact jointWith_abandon tr s place

/-- A turn, as a change of the tasks and the refreshes of the checks together. -/
inductive Joint (tr : Transport σ) (s : Shift σ) (v : ShiftTurn) : Prop
  | intro (ws ws' : Workspace σ) (u : Turn) (d : Option (SessionId × Deed)) :
      s.joined.Alike ws → Change tr ws u d ws' → ws'.Alike (s.turn tr v).joined →
      s.told? tr v = u.told? d → (∀ a, u = .tell a → s.Says v a) → Joint tr s v

theorem joint_turn (tr : Transport σ) (s : Shift σ) (v : ShiftTurn) : Joint tr s v := by
  obtain ⟨ws, ws', u, hbefore, hc, hafter, htold, hsays, -⟩ := jointWith_turn tr s v
  exact .intro ws ws' u _ hbefore hc hafter htold hsays

end Shift

end ScanConsole
