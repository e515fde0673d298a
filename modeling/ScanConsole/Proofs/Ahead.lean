import ScanConsole.Proofs.Refreshing
import ScanConsole.Proofs.Shifts

/-!
# What is still to be told

What a run and its job have still to tell the console is settled by where they
stand, and by the answer of the transport as long as the channel is not open.
`Run.ahead` and `Job.ahead` list these actions, and `Run.fate` and `Job.fate?`
say what will be given back. A move tells the first of these actions or none,
and does not change what is given back:

    r.ahead tr w = (r.deed tr w).told?.toList ++ r'.ahead tr w'     (`Run.ahead_step`)
    r'.fate tr w' = r.fate tr w

and the same of jobs. So what has been told and what is ahead together never
change while the job goes on by itself, and when it has ended nothing is ahead:
the job has told the whole of it. This is how later proofs know the state in the
end without following the run there.

It makes no difference to what is ahead what others do once the channel is open
(`Run.ahead_of_foretold`). Before that it does, since the answer of the
transport depends on how often it has been asked.
-/

namespace ScanConsole

variable {σ : Type} {tr : Transport σ}

/-! ## What items make a run tell

These lists are read off the items and the answer alone. Empty lists of lines
are not told. -/

/-- The lines are told if there are any. -/
def tellLines (session : SessionId) : List String → List Action
  | [] => []
  | line :: lines => [.executionLogged session (line :: lines)]

def Ending.tale (session : SessionId) : Ending → List Action
  | .completed _ => [.executionLogged session [Transcript.completionLine], .executionCompleted session]
  | .failed line _ => [.executionFailed session [line]]

/-- What a run tells of items; `begun` says whether commands have begun before them. -/
def tale (session : SessionId) (begun : Bool) : List Item → List Action
  | [] => Ending.closed.tale session
  | i :: rest =>
    match i.ending? with
    | some e => e.tale session
    | none => tellLines session (i.lines begun) ++ tale session (begun || i.beginsCommands) rest

namespace Answer

/-- What a run tells of an answer. -/
def tale (session : SessionId) : Answer → List Action
  | .refused f => (Ending.failed Run.connectionFailed f).tale session
  | .opened items => ScanConsole.tale session false items

/-- What the run of this session gives back for an answer. -/
def fate (s : Session) (answer : Answer) : Except Failure Outcome :=
  answer.ending.result (answer.ending.close { s with logs := s.logs ++ story false answer.plain })

end Answer

/-- The log of a run that has completed. -/
def fullLog (plugin : Plugin) (resource : Resource) (answer : Answer) : List String :=
  Session.startingLine plugin resource :: story false answer.plain ++ [Transcript.completionLine]

/-! ## Runs

Asking for an item, a run has its ending ahead, or its lines and what follows
them, or only what follows. Once the channel is open, what will be given back
stays (`Run.foretold_step`). -/

namespace Run

/-- What the run tells from now on. -/
def ahead (tr : Transport σ) (w : World σ) (r : Run) : List Action :=
  match r.stage with
  | .ready | .starting =>
    .executionStarted r.session :: (tr.connect r.request w.link).1.tale r.session.id
  | .opening => (tr.connect r.request w.link).1.tale r.session.id
  | .listening c t _ => tale r.session.id t.screen.isSome c.items
  | .logging lines c t _ =>
    .executionLogged r.session.id lines :: tale r.session.id t.screen.isSome c.items
  | .failing lines _ => [.executionFailed r.session.id lines]
  | .completing lines _ => [.executionLogged r.session.id lines, .executionCompleted r.session.id]
  | .finishing _ => [.executionCompleted r.session.id]
  | .ended _ => []

/-- What the run will give back. -/
def fate (tr : Transport σ) (w : World σ) (r : Run) : Except Failure Outcome :=
  r.foretold.getD ((tr.connect r.request w.link).1.fate r.session)

section
variable {r r' : Run} {w w' : World σ}

theorem clock_step (h : r.step tr w = some (r', w')) : w'.clock = w.clock := by
  obtain ⟨s, stage⟩ := r
  cases stage with
  | listening c t logs =>
    unfold step at h
    by_cases hs : c.silent = true
    · simp only [hs, if_true, Option.map_eq_some_iff, Prod.mk.injEq] at h
      obtain ⟨w₁, hw, -, rfl⟩ := h
      rw [eq_of_useRelease? hw]
    · simp only [hs, Bool.false_eq_true, if_false, Option.some.injEq, Prod.mk.injEq] at h
      obtain ⟨-, rfl⟩ := h
      rfl
  | ended result => cases h
  | _ => cases h; rfl

theorem ahead_onAsk (tr : Transport σ) (s : Session) {c : Channel} (t : Transcript) (logs : List String)
    (hsilent : c.silent = false) (w : World σ) :
    let r' : Run := ⟨s, onAsk ⟨s, .listening c t logs⟩ c t logs⟩
    r'.foretold = some (verdict s t logs c.items) ∧
      r'.ahead tr w = tale s.id t.screen.isSome c.items := by
  obtain ⟨number, asked, items, silent⟩ := c
  subst hsilent
  cases items with
  | nil => exact ⟨rfl, rfl⟩
  | cons i rest =>
    cases hi : i.ending? with
    | some e =>
      have hverdict : verdict s t logs (i :: rest) = e.result (e.close { s with logs := logs }) := by
        unfold verdict
        rw [endingOf_cons_of_ending hi, plainItems_cons_of_ending hi, story, List.append_nil]
      intro r'
      have hr' : r' = ⟨s, e.stage s logs⟩ := by
        simp only [r', onAsk_of_ending _ _ _ _ _ hi]
      rw [hr', hverdict]
      simp only [tale, hi]
      cases e with
      | completed results => exact ⟨rfl, rfl⟩
      | failed line f => exact ⟨rfl, rfl⟩
    | none =>
      have hverdict : verdict s t logs (i :: rest) = (endingOf rest).result ((endingOf rest).close
          { s with logs := logs ++ i.lines t.screen.isSome ++
              story (t.screen.isSome || i.beginsCommands) (plainItems rest) }) := by
        unfold verdict
        rw [endingOf_cons_of_plain hi, plainItems_cons_of_plain hi, story, ← List.append_assoc]
      rw [hverdict]
      simp only [tale, hi]
      cases i with
      | failure f => cases hi
      | silence =>
        rw [show Item.lines t.screen.isSome .silence = [] from rfl, List.append_nil,
          show Item.beginsCommands .silence = false from rfl, Bool.or_false]
        exact ⟨rfl, rfl⟩
      | event e =>
        simp only [onAsk_of_plain _ _ _ _ _ hi, ← Transcript.begun_after, Item.lines]
        cases e.lines t.screen.isSome with
        | nil =>
          rw [List.append_nil]
          exact ⟨rfl, rfl⟩
        | cons line lines => exact ⟨rfl, rfl⟩

theorem ahead_step (h : r.step tr w = some (r', w')) :
    r'.fate tr w' = r.fate tr w ∧
      r.ahead tr w = (r.deed tr w).told?.toList ++ r'.ahead tr w' := by
  obtain ⟨s, stage⟩ := r
  cases stage with
  | ready => cases h; exact ⟨rfl, rfl⟩
  | starting => cases h; exact ⟨rfl, rfl⟩
  | opening =>
    obtain ⟨rfl, rfl⟩ := Prod.mk.inj (Option.some.inj h)
    simp only [fate, ahead, foretold, deed, World.look]
    cases (tr.connect (request ⟨s, .opening⟩) w.link).1 with
    | refused f => exact ⟨rfl, rfl⟩
    | opened items => exact ⟨rfl, rfl⟩
  | listening c t logs =>
    unfold step at h
    by_cases hs : c.silent = true
    · simp only [hs, if_true, Option.map_eq_some_iff, Prod.mk.injEq] at h
      obtain ⟨w₁, hw, rfl, rfl⟩ := h
      simp only [deed, hs, if_true]
      exact ⟨rfl, rfl⟩
    · simp only [hs, Bool.false_eq_true, if_false, Option.some.injEq, Prod.mk.injEq] at h
      obtain ⟨rfl, rfl⟩ := h
      obtain ⟨hforetold, hahead⟩ := ahead_onAsk tr s t logs (by simpa using hs)
        (w.look (.asking c.number c.asked))
      simp only [deed, hs, Bool.false_eq_true, if_false, fate]
      rw [hforetold, hahead]
      exact ⟨rfl, rfl⟩
  | logging lines c t logs => cases h; exact ⟨rfl, rfl⟩
  | failing lines f => cases h; exact ⟨rfl, rfl⟩
  | completing lines o => cases h; exact ⟨rfl, rfl⟩
  | finishing o => cases h; exact ⟨rfl, rfl⟩
  | ended result => cases h

theorem foretold_step {v : Except Failure Outcome} (hr : r.foretold = some v)
    (h : r.step tr w = some (r', w')) : r'.foretold = some v := by
  have hanswered : r'.foretold.isSome = true := by
    obtain ⟨s, stage⟩ := r
    cases stage with
    | ready => cases hr
    | starting => cases hr
    | opening => cases hr
    | listening c t logs =>
      unfold step at h
      by_cases hs : c.silent = true
      · simp only [hs, if_true, Option.map_eq_some_iff, Prod.mk.injEq] at h
        obtain ⟨w₁, hw, rfl, -⟩ := h
        rfl
      · simp only [hs, Bool.false_eq_true, if_false, Option.some.injEq, Prod.mk.injEq] at h
        obtain ⟨rfl, -⟩ := h
        rw [(ahead_onAsk tr s t logs (by simpa using hs) w).1]
        rfl
    | ended result => cases h
    | _ => cases h; rfl
  obtain ⟨v', hv'⟩ := Option.isSome_iff_exists.mp hanswered
  have hfate := (ahead_step h).1
  simp only [fate, hr, hv', Option.getD_some] at hfate
  rw [hv', hfate]

/-- Once the channel is open, what is ahead depends on the run alone. -/
theorem ahead_of_foretold (tr : Transport σ) {v : Except Failure Outcome} (hr : r.foretold = some v)
    (w w' : World σ) :
    r.ahead tr w' = r.ahead tr w ∧ r.fate tr w' = r.fate tr w := by
  refine ⟨?_, by simp only [fate, hr, Option.getD_some]⟩
  obtain ⟨s, stage⟩ := r
  cases stage with
  | ready => cases hr
  | starting => cases hr
  | opening => cases hr
  | _ => rfl

theorem ahead_onAnswer (tr : Transport σ) (s : Session) (number : Nat) (answer : Answer) (w : World σ) :
    ahead tr w ⟨s, onAnswer ⟨s, .opening⟩ number answer⟩ = answer.tale s.id := by
  cases answer with
  | refused f => rfl
  | opened items => rfl

theorem foretold_onAnswer_eq (s : Session) (number : Nat) (answer : Answer) :
    foretold ⟨s, onAnswer ⟨s, .opening⟩ number answer⟩ = some (answer.fate s) := by
  cases answer with
  | refused f => rfl
  | opened items => rfl

end

end Run

/-! ## Jobs

What a job tells behind its run depends on what it is for: nothing, that a tab
is opened, or that one was refreshed or not. A refresh that has not looked for
its tab has nothing to tell yet, and it is not known what it will give back, so
`Job.fate?` is none there. -/

namespace Purpose

/-- What a job tells when the run of this session has come out so. -/
def closing (session : SessionId) (now : Instant) : Purpose → Except Failure Outcome → List Action
  | .select, .ok o =>
    [.tabCreated (.create o.plugin o.resource o.results o.logs now), .executionCleared session]
  | .refresh tab time, .ok o =>
    [.tabRefreshed tab o.results o.logs time, .executionCleared session]
  | .refresh tab time, .error _ => [.tabRefreshFailed tab session time]
  | _, _ => []

def yields (now : Instant) : Purpose → Except Failure Outcome → Except Failure Yield
  | .run, .ok o => .ok (.outcome o)
  | .select, .ok o => .ok (.tab (Tab.create o.plugin o.resource o.results o.logs now).id)
  | .refresh _ _, .ok _ => .ok (.refreshed true)
  | _, .error f => .error f

end Purpose

namespace Job

/-- What the job tells from now on; a refresh that has not looked for its tab has nothing to tell yet. -/
def ahead (tr : Transport σ) (w : World σ) (j : Job) : List Action :=
  match j.stage with
  | .looking _ _ => []
  | .running p r => r.ahead tr w ++ p.closing r.session.id w.clock (r.fate tr w)
  | .reporting session report _ =>
    report.action session :: if report.clears then [.executionCleared session] else []
  | .clearing session _ => [.executionCleared session]
  | .ended _ => []

def fate? (tr : Transport σ) (w : World σ) (j : Job) : Option (Except Failure Yield) :=
  match j.stage with
  | .looking _ _ => none
  | .running p r => some (p.yields w.clock (r.fate tr w))
  | .reporting _ _ result => some result
  | .clearing _ result => some result
  | .ended result => some result

section
variable {j j' : Job} {w w' : World σ} {v : Except Failure Yield}

theorem ahead_conclude (tr : Transport σ) (p : Purpose) (r : Run) (result : Except Failure Outcome)
    (w w' : World σ) :
    let j' : Job := ⟨(conclude p r result w).1⟩
    j'.fate? tr w' = some (p.yields w.clock result) ∧
      j'.ahead tr w' = p.closing r.session.id w.clock result := by
  cases p <;> cases result <;> exact ⟨rfl, rfl⟩

theorem ahead_step (hv : j.fate? tr w = some v) (h : j.step tr w = some (j', w')) :
    j'.fate? tr w' = some v ∧
      j.ahead tr w = (j.deed tr w).told?.toList ++ j'.ahead tr w' := by
  cases jobMove_step h with
  | missed tab time => cases hv
  | began tab time at' t clock ht => cases hv
  | ran p r r' w' hr =>
    obtain ⟨hfate, hahead⟩ := Run.ahead_step hr
    have hclock := Run.clock_step hr
    have hsession := (Run.step_session hr).1
    refine ⟨?_, ?_⟩
    · rw [← hv]
      simp only [fate?, hfate, hclock]
    · simp only [ahead, deed, hahead, hfate, hclock, hsession, List.append_assoc]
  | concluded p r result hr =>
    have hresult : r.fate tr w = result := by simp only [Run.fate, Run.foretold, hr, Option.getD_some]
    obtain ⟨hfate, hahead⟩ := ahead_conclude tr p r result w (conclude p r result w).2
    rw [hfate, hahead, ← hv]
    refine ⟨by simp only [fate?, hresult], ?_⟩
    simp only [ahead, deed, Run.ahead, Run.deed, hr, hresult]
    rfl
  | reported session report result =>
    rw [← hv]
    cases hc : report.clears with
    | true =>
      rw [show afterReport session report result = .clearing session result from if_pos hc]
      exact ⟨rfl, congrArg _ (if_pos hc)⟩
    | false =>
      have hkeeps : ¬ report.clears = true := by rw [hc]; exact Bool.false_ne_true
      rw [show afterReport session report result = .ended result from if_neg hkeeps]
      exact ⟨rfl, congrArg _ (if_neg hkeeps)⟩
  | cleared session result => exact ⟨hv, rfl⟩

end

end Job

end ScanConsole
