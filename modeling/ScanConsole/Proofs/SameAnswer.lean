import ScanConsole.Proofs.Alone
import ScanConsole.Proofs.Refreshing

/-!
# Runs with the same answer

A run sees nothing of its transport but the answer to its request, and of an
answer nothing behind the item that ends the run. So over any transport it does,
move by move, what it does over the transport that always gives this answer cut
off behind that item (`play_always`, `run_always`). Two transports that answer
alike up to there give the same run.

What has to be shown of a move is that cutting off what is not read and
forgetting the memory of the transport commute with it (`Run.step_always`):

    (r.step tr w).map asAlways = r.cut.step (always answer) w.unlinked

The answer matters in one move only, the one in which the channel is opened, and
until then nobody else uses the transport. This is the invariant: a run that has
still to open its channel will get the answer (`Run.Gets`). In a workspace with
other tasks it would not be one, since a transport may answer a request by those
that it got before. So the theorems are about a job that is alone.

Nothing is said of sessions, which may be any. What is compared is all that a
run changes, its session among it.
-/

namespace ScanConsole

/-- The items up to the first that ends a run, with that item. -/
def cutItems : List Item → List Item
  | [] => []
  | i :: rest => if i.ending?.isSome then [i] else i :: cutItems rest

/-- The answer without what stands behind the item that ends the run. -/
def Answer.cut : Answer → Answer
  | .refused f => .refused f
  | .opened items => .opened (cutItems items)

/-- The channel without what stands behind the item that ends the run. -/
def Channel.cut (c : Channel) : Channel := { c with items := cutItems c.items }

/-- The stage without what stands behind the item that ends the run. -/
def Stage.cut : Stage → Stage
  | .listening c t logs => .listening c.cut t logs
  | .logging lines c t logs => .logging lines c.cut t logs
  | stage => stage

/-- The run without what stands in its channel behind the item that ends it. -/
def Run.cut (r : Run) : Run := { r with stage := r.stage.cut }

/-- The job without what stands in its channel behind the item that ends its run. -/
def Job.cut (j : Job) : Job :=
  match j.stage with
  | .running p r => ⟨.running p r.cut⟩
  | stage => ⟨stage⟩

variable {σ : Type} {tr : Transport σ} {answer : Answer}

def World.unlinked (w : World σ) : World Unit := { w with link := () }

/-! ## One move

The item that ends a run is the last that is read, so what the run does on an
item does not depend on those cut off. -/

theorem Run.result?_cut (r : Run) : r.cut.result? = r.result? := by
  obtain ⟨session, stage⟩ := r
  cases stage <;> rfl

theorem Run.orphan?_cut (r : Run) : r.cut.orphan? = r.orphan? := by
  obtain ⟨session, stage⟩ := r
  cases stage <;> rfl

theorem Run.cut_onAsk (session : Session) (stage stage' : Stage) (c : Channel) (t : Transcript)
    (logs : List String) :
    (Run.onAsk ⟨session, stage⟩ c t logs).cut = Run.onAsk ⟨session, stage'⟩ c.cut t logs := by
  obtain ⟨number, asked, items, silent⟩ := c
  cases items with
  | nil => rfl
  | cons i rest =>
    cases i with
    | failure f => rfl
    | silence => rfl
    | event e =>
      cases e with
      | error m => rfl
      | complete results => rfl
      | status m => rfl
      | commandStart screen commands => rfl
      | output data => obtain ⟨_ | screen⟩ := t <;> rfl
      | errorOutput data => obtain ⟨_ | screen⟩ := t <;> rfl

theorem Run.cut_onAnswer (session : Session) (number : Nat) (a : Answer) :
    (Run.onAnswer ⟨session, .opening⟩ number a).cut = Run.onAnswer ⟨session, .opening⟩ number a.cut := by
  cases a <;> rfl

theorem World.unlinked_useRelease? (w : World σ) (number : Nat) :
    (w.useRelease? number).map unlinked = w.unlinked.useRelease? number := by
  show (if w.releases.contains number then _ else _ : Option (World σ)).map unlinked =
    if w.releases.contains number then _ else _
  split <;> rfl

/-- If the run has still to open its channel, it will get this answer. -/
def Run.Gets (tr : Transport σ) (answer : Answer) (r : Run) (w : World σ) : Prop :=
  r.stage.isUnopened = true → (tr.connect r.request w.link).1.cut = answer

/-- A run and its world as they are over the transport that always gives the answer. -/
def Run.asAlways (m : Run × World σ) : Run × World Unit := (m.1.cut, m.2.unlinked)

theorem Run.step_always {r : Run} {w : World σ} (h : r.Gets tr answer w) :
    (r.step tr w).map Run.asAlways = r.cut.step (always answer) w.unlinked := by
  obtain ⟨session, stage⟩ := r
  cases stage with
  | opening =>
    have hcut : (tr.connect (request ⟨session, .opening⟩) w.link).1.cut = answer := h rfl
    show some ((⟨session, (Run.onAnswer _ w.requests (tr.connect _ w.link).1).cut⟩ : Run), _) =
      some (⟨session, Run.onAnswer _ w.requests answer⟩, _)
    rw [cut_onAnswer, hcut]
    rfl
  | listening c t logs =>
    show _ = step (always answer) ⟨session, .listening c.cut t logs⟩ w.unlinked
    by_cases hs : c.silent = true
    · have hs' : c.cut.silent = true := hs
      simp only [step, hs, hs', if_true]
      show _ = (w.unlinked.useRelease? c.number).map _
      rw [← World.unlinked_useRelease?, Option.map_map, Option.map_map]
      rfl
    · rw [Bool.not_eq_true] at hs
      have hs' : c.cut.silent = false := hs
      simp only [step, hs, hs', Bool.false_eq_true, if_false, Option.map_some]
      rw [← cut_onAsk]
      rfl
  | _ => rfl

theorem Run.isUnopened_onAnswer (r : Run) (number : Nat) (a : Answer) :
    (r.onAnswer number a).isUnopened = false := by
  cases a <;> rfl

theorem Run.gets_step {r r' : Run} {w w' : World σ} (h : r.Gets tr answer w)
    (hs : r.step tr w = some (r', w')) : r'.Gets tr answer w' := by
  obtain ⟨session, stage⟩ := r
  have hopened {stage : Stage} (hu : stage.isUnopened = false) {w : World σ} :
      Gets tr answer ⟨session, stage⟩ w := fun h => Bool.noConfusion (hu.symm.trans h)
  cases stage with
  | ready => cases hs; exact fun _ => h rfl
  | starting => cases hs; exact fun _ => h rfl
  | opening =>
    cases hs
    exact hopened (isUnopened_onAnswer _ _ _)
  | listening c t logs =>
    by_cases hsilent : c.silent = true
    · simp only [step, hsilent, if_true, Option.map_eq_some_iff, Prod.mk.injEq] at hs
      obtain ⟨w₁, -, rfl, rfl⟩ := hs
      exact hopened rfl
    · simp only [step, hsilent, Bool.false_eq_true, if_false, Option.some.injEq, Prod.mk.injEq] at hs
      obtain ⟨rfl, rfl⟩ := hs
      exact hopened (isUnopened_onAsk _ c t logs)
  | ended result => cases hs
  | _ => cases hs; exact hopened rfl

/-! ## Jobs

Behind its run a job does not look at the transport. -/

/-- If the job has a run that has still to open its channel, it will get this answer. -/
def Job.Gets (tr : Transport σ) (answer : Answer) (j : Job) (w : World σ) : Prop :=
  match j.stage with
  | .looking _ _ => False
  | .running _ r => r.Gets tr answer w
  | _ => True

/-- A job and its world as they are over the transport that always gives the answer. -/
def Job.asAlways (m : Job × World σ) : Job × World Unit := (m.1.cut, m.2.unlinked)

theorem Job.result?_cut (j : Job) : j.cut.result? = j.result? := by
  obtain ⟨stage⟩ := j
  cases stage <;> rfl

theorem Job.orphan?_cut (j : Job) : j.cut.orphan? = j.orphan? := by
  obtain ⟨stage⟩ := j
  cases stage with
  | running p r => exact r.orphan?_cut
  | _ => rfl

theorem Job.asAlways_conclude (p : Purpose) (r : Run) (result : Except Failure Outcome)
    (w : World σ) :
    asAlways (⟨(conclude p r result w).1⟩, (conclude p r result w).2) =
      (⟨(conclude p r.cut result w.unlinked).1⟩, (conclude p r.cut result w.unlinked).2) := by
  cases p <;> cases result <;> rfl

theorem Job.step_always {j : Job} {w : World σ} (h : j.Gets tr answer w) :
    (j.step tr w).map Job.asAlways = j.cut.step (always answer) w.unlinked := by
  obtain ⟨stage⟩ := j
  cases stage with
  | looking tab time => exact h.elim
  | running p r =>
    show _ = Job.step (always answer) ⟨.running p r.cut⟩ w.unlinked
    cases hr : r.result? with
    | some result =>
      have hr' : r.cut.result? = some result := r.result?_cut.trans hr
      simp only [step, hr, hr', Option.map_some]
      exact congrArg some (asAlways_conclude p r result w)
    | none =>
      have hr' : r.cut.result? = none := r.result?_cut.trans hr
      simp only [step, hr, hr']
      rw [← Run.step_always h, Option.map_map, Option.map_map]
      rfl
  | reporting session report result => cases report <;> rfl
  | clearing session result => rfl
  | ended result => rfl

theorem Job.gets_step {j j' : Job} {w w' : World σ} (h : j.Gets tr answer w)
    (hs : j.step tr w = some (j', w')) : j'.Gets tr answer w' := by
  obtain ⟨stage⟩ := j
  cases stage with
  | looking tab time => exact h.elim
  | running p r =>
    cases hr : r.result? with
    | some result =>
      simp only [step, hr] at hs
      cases hs
      cases p <;> cases result <;> trivial
    | none =>
      simp only [step, hr, Option.map_eq_some_iff] at hs
      obtain ⟨m, hm, hs⟩ := hs
      cases hs
      exact Run.gets_step h hm
  | reporting session report result => cases hs; cases report <;> trivial
  | clearing session result => cases hs; trivial
  | ended result => cases hs

theorem Job.settle_always {j : Job} {w : World σ} (h : j.Gets tr answer w) :
    asAlways (j.settle tr w) = j.cut.settle (always answer) w.unlinked := by
  fun_induction Job.settle tr j w with
  | case1 j w hn =>
    have hstep := step_always h
    rw [hn] at hstep
    exact (settle_of_none hstep.symm).symm
  | case2 j w j' w' hs ih =>
    have hstep := step_always h
    rw [hs] at hstep
    exact (ih (gets_step h hs)).trans (settle_of_step hstep.symm).symm

theorem perform_always {j : Job} {w : World σ} (h : j.Gets tr answer w) :
    (Workspace.perform tr j w).1 = (Workspace.perform (always answer) j.cut w.unlinked).1 ∧
      (Workspace.perform tr j w).2.unlinked =
        (Workspace.perform (always answer) j.cut w.unlinked).2 := by
  simp only [Workspace.perform, ← Job.settle_always h, Job.asAlways, Job.result?_cut, Job.orphan?_cut]
  cases (j.settle tr w).1.result? with
  | some result => exact ⟨rfl, rfl⟩
  | none =>
    refine ⟨rfl, ?_⟩
    cases (j.settle tr w).1.orphan? <;> rfl

/-- A workspace with one job that somebody holds. -/
def Workspace.single (handle : String) (m : Job × World σ) : Workspace σ :=
  ⟨m.2, [⟨some handle, .job m.1⟩]⟩

theorem turn_single (tr : Transport σ) (handle : String) (m : Job × World σ) :
    (Workspace.single handle m).turn tr (.move 0) =
      Workspace.single handle ((m.1.step tr m.2).getD m) := by
  obtain ⟨j, w⟩ := m
  simp only [Workspace.turn, Workspace.moveAt, Workspace.single, List.getElem?_cons_zero, Task.step]
  cases j.step tr w <;> rfl

theorem single_always (handle : String) (n : Nat) {m : Job × World σ} (h : m.1.Gets tr answer m.2) :
    ∃ m', (Workspace.single handle m).play tr (List.replicate n (.move 0)) =
        Workspace.single handle m' ∧
      (Workspace.single handle (Job.asAlways m)).play (always answer) (List.replicate n (.move 0)) =
        Workspace.single handle (Job.asAlways m') := by
  induction n generalizing m with
  | zero => exact ⟨m, rfl, rfl⟩
  | succ n ih =>
    have hstep : (m.1.step tr m.2).map Job.asAlways =
        (Job.asAlways m).1.step (always answer) (Job.asAlways m).2 := Job.step_always h
    rw [List.replicate_succ, Workspace.play_cons, Workspace.play_cons, turn_single, turn_single, ← hstep]
    cases hm : m.1.step tr m.2 with
    | none => exact ih h
    | some m₁ => exact ih (Job.gets_step h hm)

/-! ## Runs

Two forms of the same: all at once, and after every move. -/

section
variable {w : World σ} {plugin : Plugin} {resource : Resource}
  (h : (tr.connect ⟨plugin.name, resource.address⟩ w.link).1.cut = answer)
include h

/-- A run, from its beginning to its end, is the run over the transport that always gives its answer. -/
theorem run_always :
    (Workspace.run tr plugin resource w).1 =
        (Workspace.run (always answer) plugin resource w.unlinked).1 ∧
      (Workspace.run tr plugin resource w).2.unlinked =
        (Workspace.run (always answer) plugin resource w.unlinked).2 := by
  let j : Job := .ofRun (.ofPair ⟨w.nextSession⟩ plugin resource)
  let w₁ : World σ := { w with nextSession := w.nextSession + 1 }
  have hgets : j.Gets tr answer w₁ := fun _ => h
  exact perform_always hgets

/-- After every move it is where that run is. -/
theorem play_always (handle : String) (n : Nat) :
    let turns : List Turn := .begin handle (.run plugin resource) :: List.replicate n (.move 0)
    let ws := Workspace.play tr ⟨w, []⟩ turns
    let ws₀ := Workspace.play (always answer) ⟨w.unlinked, []⟩ turns
    ws.world.unlinked = ws₀.world ∧ ws.tasks.map Task.result? = ws₀.tasks.map Task.result? := by
  let j : Job := .ofRun (.ofPair ⟨w.nextSession⟩ plugin resource)
  let w₁ : World σ := { w with nextSession := w.nextSession + 1 }
  have hgets : j.Gets tr answer w₁ := fun _ => h
  obtain ⟨m, hm, hm₀⟩ := single_always (m := (j, w₁)) handle n hgets
  intro turns ws ws₀
  have hws : ws = Workspace.single handle m := hm
  have hws₀ : ws₀ = Workspace.single handle (Job.asAlways m) := hm₀
  rw [hws, hws₀]
  exact ⟨rfl, congrArg (fun r => [r]) m.1.result?_cut.symm⟩

end

/-- What a run gives back is settled by its answer, whatever sessions there are. -/
theorem run_result (tr : Transport σ) (plugin : Plugin) (resource : Resource) (w : World σ)
    (hq : (tr.connect ⟨plugin.name, resource.address⟩ w.link).1.neverSilent = true) :
    let start := Session.start ⟨w.nextSession⟩ plugin resource
    let answer := (tr.connect ⟨plugin.name, resource.address⟩ w.link).1
    (Workspace.run tr plugin resource w).1 = some ((answer.ending.result
      (answer.ending.close { start with logs := start.logs ++ story false answer.plain })).map .outcome) := by
  intro start answer
  let w₁ : World σ := { w with nextSession := w.nextSession + 1 }
  have hopened := Run.settle_ofPair (w := w₁) ⟨w.nextSession⟩
    (show tr.connect ⟨plugin.name, resource.address⟩ w.link = (answer, _) from rfl)
  obtain ⟨hlistens, hforetold⟩ := Run.foretold_onAnswer start w.requests hq
  obtain ⟨hresult, -, -⟩ := Run.settle_heard tr hlistens _
  rw [← hopened, hforetold] at hresult
  have hsettled : Run.settle tr (.ofPair ⟨w.nextSession⟩ plugin resource) w₁ = (_, _) := rfl
  have hperformed := perform_ofRun hsettled (Run.stage_of_result? hresult)
  exact congrArg Prod.fst hperformed

end ScanConsole
