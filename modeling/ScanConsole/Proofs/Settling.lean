import ScanConsole.Proofs.Turns

/-!
# Settling is a way to take turns

A workspace settles task by task, each moving until it waits or has ended. This
is one of the orders in which turns can happen:

    ∃ turns, Inner turns ∧ ws.play tr turns = ws.settle tr           (`settle_eq_play`)

and `perform_eq_play` gives the turns for a job that is carried through in the
foreground. So what holds after all turns holds of a workspace that settles, and
the theorems about interleavings are theorems about the settling that runs.

The turns are those of the tasks alone: moves, turns of waiting parts and
tidying (`Inner`). They are found by following the recursion of `Job.settle`:
each move of a job is one turn of the task that has it, at the place where the
task stands among the others.
-/

namespace ScanConsole

variable {σ : Type} {tr : Transport σ}

/-- Turns by which nobody but the tasks does anything. -/
def Inner (turns : List Turn) : Prop :=
  ∀ u ∈ turns, match u with
    | .move _ | .await _ | .tidy => True
    | _ => False

theorem inner_nil : Inner [] := fun _ h => by cases h

theorem Inner.append {us vs : List Turn} (hu : Inner us) (hv : Inner vs) : Inner (us ++ vs) :=
  fun u h => (List.mem_append.mp h).elim (hu u) (hv u)

theorem inner_move (place : Nat) : Inner [.move place] := fun u h => by
  rw [List.mem_singleton.mp h]; trivial

theorem inner_await (place : Nat) : Inner [.await place] := fun u h => by
  rw [List.mem_singleton.mp h]; trivial

theorem inner_tidy : Inner [.tidy] := fun u h => by
  rw [List.mem_singleton.mp h]; trivial

/-- By such turns the one workspace becomes the other. -/
def Reaches (tr : Transport σ) (ws ws' : Workspace σ) : Prop :=
  ∃ turns, Inner turns ∧ ws.play tr turns = ws'

theorem Reaches.refl (ws : Workspace σ) : Reaches tr ws ws := ⟨[], inner_nil, rfl⟩

theorem Reaches.trans {a b c : Workspace σ} (hab : Reaches tr a b) (hbc : Reaches tr b c) :
    Reaches tr a c := by
  obtain ⟨us, hu, rfl⟩ := hab
  obtain ⟨vs, hv, rfl⟩ := hbc
  exact ⟨us ++ vs, hu.append hv, a.play_append tr us vs⟩

/-! ## One task

The lemmas are about a task between others, `l ++ t :: r`, which stay where they
are. A task that moves as a job moves, or as a run moves, settles as that does
(`reaches_job`, `reaches_run`); `wrap` is what the task is around the job. -/

section
variable {l r : List Task} {t : Task} {w : World σ}

theorem reaches_move {left : List Task} {w' : World σ} (h : t.step tr w = some (left, w')) :
    Reaches tr ⟨w, l ++ t :: r⟩ ⟨w', l ++ left ++ r⟩ := by
  refine ⟨[.move l.length], inner_move _, ?_⟩
  simp [Workspace.turn, Workspace.moveAt, h]

theorem reaches_await : Reaches tr ⟨w, l ++ t :: r⟩ ⟨w, l ++ t.await ++ r⟩ := by
  refine ⟨[.await l.length], inner_await _, ?_⟩
  simp [Workspace.turn, Workspace.awaitAt]

theorem reaches_job (l r : List Task) (wrap : Job → Task) (j : Job) (w : World σ)
    (hwrap : ∀ (j : Job) (w : World σ),
      (wrap j).step tr w = (j.step tr w).map fun m => ([wrap m.1], m.2)) :
    Reaches tr ⟨w, l ++ wrap j :: r⟩ ⟨(j.settle tr w).2, l ++ wrap (j.settle tr w).1 :: r⟩ := by
  fun_induction Job.settle tr j w with
  | case1 j w hn => exact .refl _
  | case2 j w j' w' hs ih =>
    have hstep : (wrap j).step tr w = some ([wrap j'], w') := by rw [hwrap, hs]; rfl
    have hmove := reaches_move (l := l) (r := r) hstep
    rw [List.append_assoc] at hmove
    exact hmove.trans ih

theorem reaches_run (tr : Transport σ) (l r : List Task) (wrap : Run → Task) (x : Run) (w : World σ)
    (hwrap : ∀ (x : Run) (w : World σ), x.result? = none →
      (wrap x).step tr w = (x.step tr w).map fun m => ([wrap m.1], m.2)) :
    Reaches tr ⟨w, l ++ wrap x :: r⟩ ⟨(x.settle tr w).2, l ++ wrap (x.settle tr w).1 :: r⟩ := by
  fun_induction Run.settle tr x w with
  | case1 x w hn => exact .refl _
  | case2 x w x' w' hs ih =>
    have hstep : (wrap x).step tr w = some ([wrap x'], w') := by
      rw [hwrap x w (Run.result?_of_step hs), hs]; rfl
    have hmove := reaches_move (l := l) (r := r) hstep
    rw [List.append_assoc] at hmove
    exact hmove.trans ih

theorem reaches_remains (tr : Transport σ) (j : Job) :
    Reaches tr ⟨w, l ++ Task.remains j ++ r⟩ ⟨w.clearOrphan j.orphan?, l ++ r⟩ := by
  cases h : j.orphan? with
  | none =>
    simp only [Task.remains, h, Option.toList_none, List.map_nil, List.append_nil]
    exact .refl _
  | some s =>
    have hstep : Task.step tr ⟨none, .clear s⟩ w = some ([], w.dispatch (.executionCleared s)) := rfl
    have hmove := reaches_move (l := l) (r := r) hstep
    simpa [Task.remains, h, World.clearOrphan] using hmove

theorem reaches_settled (wrap : Job → Task) (j : Job) (w : World σ)
    (hwrap : ∀ (j : Job) (w : World σ),
      (wrap j).step tr w = (j.step tr w).map fun m => ([wrap m.1], m.2)) :
    Reaches tr ⟨w, l ++ wrap j :: r⟩ ⟨(j.settle tr w).2, l ++ [wrap (j.settle tr w).1] ++ r⟩ := by
  rw [List.append_assoc]
  exact reaches_job l r wrap j w hwrap

theorem reaches_task (t : Task) (w : World σ) :
    Reaches tr ⟨w, l ++ t :: r⟩ ⟨(t.settle tr w).2, l ++ (t.settle tr w).1 ++ r⟩ := by
  obtain ⟨handle, work⟩ := t
  cases work with
  | job j => exact reaches_settled (fun j => ⟨handle, .job j⟩) j w fun _ _ => rfl
  | clear s => exact reaches_move rfl
  | selection j waiting =>
    have hbegun : Reaches tr ⟨w, l ++ ⟨handle, .selection j .begun⟩ :: r⟩
        ⟨(j.settle tr w).2, l ++ [⟨handle, .selection (j.settle tr w).1 .begun⟩] ++ r⟩ :=
      reaches_settled (fun j => ⟨handle, .selection j .begun⟩) j w fun _ _ => rfl
    obtain ⟨stage⟩ := j
    cases waiting with
    | begun => cases stage <;> exact hbegun
    | ahead =>
      have hawait : Reaches tr ⟨w, l ++ ⟨handle, .selection ⟨stage⟩ .ahead⟩ :: r⟩
          ⟨w, l ++ ⟨handle, .selection ⟨stage⟩ .begun⟩ :: r⟩ := by
        simpa [Task.await] using
          reaches_await (l := l) (r := r) (t := ⟨handle, .selection ⟨stage⟩ .ahead⟩) (w := w)
      cases stage <;> exact hawait.trans hbegun
    | givenUp =>
      cases stage with
      | running p x =>
        have hrun := reaches_run tr l r (fun x => ⟨handle, .selection ⟨.running p x⟩ .givenUp⟩) x
          w fun x w hx => Task.step_selection_of_none .givenUp hx w
        have hend := hrun.trans (reaches_await.trans (reaches_remains tr _))
        simpa [Task.settle, Job.orphan?] using hend
      | _ => exact reaches_await

end

/-! ## All tasks

Those that have settled stand before the task whose turn it is. In the
foreground a job has a handle under which nobody else is known; it is given back
for the result, or dropped if the job comes to wait. -/

theorem reaches_settleTasks (tr : Transport σ) (ts : List Task) (l : List Task) (w : World σ) :
    Reaches tr ⟨w, l ++ ts⟩
      ⟨(Workspace.settleTasks tr w ts).2, l ++ (Workspace.settleTasks tr w ts).1⟩ := by
  induction ts generalizing l w with
  | nil => exact .refl _
  | cons t ts ih =>
    have hrest := ih (l ++ (t.settle tr w).1) (t.settle tr w).2
    rw [List.append_assoc l _ (Workspace.settleTasks tr _ ts).1] at hrest
    exact (reaches_task t w).trans hrest

/-- A workspace settles by turns of its tasks. -/
theorem settle_eq_play (tr : Transport σ) (ws : Workspace σ) :
    ∃ turns, Inner turns ∧ ws.play tr turns = ws.settle tr := by
  obtain ⟨turns, hinner, hplay⟩ := reaches_settleTasks tr ws.tasks [] ws.world
  refine ⟨turns ++ [.tidy], hinner.append inner_tidy, ?_⟩
  rw [Workspace.play_append]
  show (Workspace.play tr ⟨ws.world, [] ++ ws.tasks⟩ turns).turn tr .tidy = ws.settle tr
  rw [hplay]
  rfl

/-- A job is carried through in the foreground by turns of its own, after which its handle is given back
for the result or dropped. -/
theorem perform_eq_play (tr : Transport σ) (handle : String) (j : Job) (w : World σ) :
    ∃ turns, (∀ a, Turn.tell a ∉ turns) ∧
      (⟨w, [⟨some handle, .job j⟩]⟩ : Workspace σ).play tr turns =
        ⟨(Workspace.perform tr j w).2, []⟩ := by
  obtain ⟨turns, hinner, hplay⟩ : Reaches tr ⟨w, [⟨some handle, .job j⟩]⟩
      ⟨(j.settle tr w).2, [⟨some handle, .job (j.settle tr w).1⟩]⟩ :=
    reaches_job [] [] (fun j => ⟨some handle, .job j⟩) j w fun _ _ => rfl
  have hquiet : ∀ a, Turn.tell a ∉ turns := fun a ha => hinner _ ha
  cases hr : (j.settle tr w).1.result? with
  | some result =>
    refine ⟨turns ++ [.join handle], fun a ha => ?_, ?_⟩
    · simp [hquiet a] at ha
    · rw [Workspace.play_append, hplay]
      simp [Workspace.turn, Workspace.join, Workspace.task?, Task.result?, Workspace.perform, hr]
  | none =>
    obtain ⟨clears, hinner', hplay'⟩ := reaches_remains tr (l := []) (r := [])
      (w := (j.settle tr w).2) (j.settle tr w).1
    refine ⟨turns ++ .drop handle :: clears, fun a ha => ?_, ?_⟩
    · have hclears : Turn.tell a ∉ clears := fun ha => hinner' _ ha
      simp [hquiet a, hclears] at ha
    · rw [Workspace.play_append, hplay, Workspace.play_cons]
      have hdrop : (⟨(j.settle tr w).2, [⟨some handle, .job (j.settle tr w).1⟩]⟩ : Workspace σ).turn tr
          (.drop handle) = ⟨(j.settle tr w).2, [] ++ Task.remains (j.settle tr w).1 ++ []⟩ := by
        simp [Workspace.turn, Workspace.drop, Workspace.letGo, Workspace.task?, Task.dropped]
      rw [hdrop, hplay']
      simp only [Workspace.perform, hr, List.append_nil]

end ScanConsole
