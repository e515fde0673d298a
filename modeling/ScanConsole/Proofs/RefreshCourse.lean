import ScanConsole.Proofs.Ahead
import ScanConsole.Proofs.Joined
import ScanConsole.Proofs.Watch

/-!
# What a refresh tells

A refresh that has found its tab opens one channel. It tells what its run has to
tell of the answer, then its report, and if the run has completed it clears its
session:

    x.tale answer = started, logs …, completed or failed,
                    report, cleared or nothing

Others may do anything in between. As long as nobody gives the refresh up, what
it has told and what is ahead of its job make up this list (`Refresh.At`), and
once it is given up it only clears its session.

## How far it has come

`Refresh.Stands` says this of a workspace, for the deeds that were done under
the session of the refresh:

    working     its job is there, and stands where it should
    finished    nobody works for the session, and all has been told
    given up    whoever works for the session clears it
    cleared     nobody works for it, and the last that was told is that it is
                cleared

Every turn keeps it (`stands_change`, `Shift.stands_play`), by the two cases
that there are: the refresh itself has its turn (`stands_move`), or somebody
else has (`stands_other`). In the second the job stays as it is, unless its task
is dropped or aborted, or a run is detached from it; then it was given up.

`given` is a proposition that the turns may make true, and not a stage: a
refresh may have ended before somebody gives it up, and the first two cases do
not exclude it. When a task is dropped outside of the runtime nobody is left to
clear its session. The third case holds of that too, since it says of nobody
that there is somebody.
-/

namespace ScanConsole

variable {σ : Type} {tr : Transport σ}

/-! ## Deeds under one session

Of the deeds of all sessions those of the refresh are looked at, and of these
what they tell and which channels they open. -/

/-- The request and the answer of the channel that a deed opens. -/
def Deed.opened? : Deed → Option (ExecutionRequest × Answer)
  | .opens request answer => some (request, answer)
  | _ => none

def deedsUnder (session : SessionId) (deeds : List (SessionId × Deed)) : List Deed :=
  deeds.filterMap fun d => if d.1 = session then some d.2 else none

def toldIn (deeds : List Deed) : List Action := deeds.filterMap Deed.told?

def openedIn (deeds : List Deed) : List (ExecutionRequest × Answer) := deeds.filterMap Deed.opened?

section
variable {s : SessionId}

theorem deedsUnder_append (s : SessionId) (ds es : List (SessionId × Deed)) :
    deedsUnder s (ds ++ es) = deedsUnder s ds ++ deedsUnder s es := List.filterMap_append

theorem deedsUnder_same (e : Deed) : deedsUnder s (some (s, e)).toList = [e] :=
  List.filterMap_cons_some (if_pos rfl)

theorem deedsUnder_other {d : Option (SessionId × Deed)} (h : ∀ e, d ≠ some (s, e)) :
    deedsUnder s d.toList = [] := by
  cases d with
  | none => rfl
  | some d =>
    have hne : ¬ d.1 = s := by
      rintro rfl
      exact h d.2 rfl
    exact List.filterMap_cons_none (if_neg hne)

theorem toldIn_concat (ds : List Deed) (e : Deed) : toldIn (ds ++ [e]) = toldIn ds ++ e.told?.toList :=
  List.filterMap_append

theorem openedIn_concat (ds : List Deed) (e : Deed) :
    openedIn (ds ++ [e]) = openedIn ds ++ e.opened?.toList := List.filterMap_append

end

/-! ## A refresh

A refresh that finds its tab takes a session and a time, and its run is about to
begin. -/

/-- A refresh that has found its tab, and has taken a session and a time. -/
structure Refresh where
  /-- The tab as it was found. -/
  tab : Tab
  session : SessionId
  time : Instant

namespace Refresh

def start (x : Refresh) : Session := .start x.session x.tab.plugin x.tab.resource

/-- The job of the refresh while its run stands at this stage. -/
def job (x : Refresh) (stage : Stage) : Job := ⟨.running (.refresh x.tab.id x.time) ⟨x.start, stage⟩⟩

/-- A refresh that finds its tab takes a session and a time, and its run is about to begin. -/
theorem job_of_found (tr : Transport σ) {w : World σ} {id : String} {t : Tab}
    (h : w.state.tab? id = some t) (time : Option Instant) :
    let x : Refresh := ⟨t, ⟨w.nextSession⟩, time.getD w.clock⟩
    ∃ w', Job.step tr (.ofRefresh id time) w = some (x.job .ready, w') ∧ w'.state = w.state := by
  intro x
  obtain rfl : t.id = id := by simpa using List.find?_some h
  simp only [Job.step, Job.ofRefresh, Job.begin, h]
  cases time with
  | none => exact ⟨_, rfl, rfl⟩
  | some time => exact ⟨_, rfl, rfl⟩

/-- The report of the refresh: the results and the log, or that it has failed. -/
def report (x : Refresh) (answer : Answer) : Action :=
  match answer.ending with
  | .completed results =>
    .tabRefreshed x.tab.id results (fullLog x.tab.plugin x.tab.resource answer) x.time
  | .failed _ _ => .tabRefreshFailed x.tab.id x.session x.time

/-- What the refresh tells behind its run. The session of a failed run stays. -/
def closing (x : Refresh) (answer : Answer) : List Action :=
  match answer.ending with
  | .completed _ => [x.report answer, .executionCleared x.session]
  | .failed _ _ => [x.report answer]

/-- All that the refresh tells if it gets this answer. -/
def tale (x : Refresh) (answer : Answer) : List Action :=
  .executionStarted x.start :: (answer.tale x.session ++ x.closing answer)

theorem closing_eq (x : Refresh) (answer : Answer) (now : Instant) :
    (Purpose.refresh x.tab.id x.time).closing x.session now (answer.fate x.start) = x.closing answer := by
  unfold closing report Answer.fate
  cases answer.ending <;> rfl

end Refresh

/-! ## What is told of the session and what of the tab

Of the actions that a refresh tells only its report is not about its session. -/

section
variable {session : SessionId} {a : Action}

theorem Ending.drives?_of_mem {e : Ending} (h : a ∈ e.tale session) : a.drives? = some session := by
  cases e with
  | completed results =>
    rcases List.mem_cons.mp h with rfl | h
    · rfl
    · rw [List.mem_singleton.mp h]
      rfl
  | failed line f =>
    rw [List.mem_singleton.mp h]
    rfl

theorem drives?_of_mem_tale {begun : Bool} {items : List Item} (h : a ∈ tale session begun items) :
    a.drives? = some session := by
  induction items generalizing begun with
  | nil => exact Ending.drives?_of_mem h
  | cons i rest ih =>
    unfold tale at h
    cases hi : i.ending? with
    | some e =>
      rw [hi] at h
      exact Ending.drives?_of_mem h
    | none =>
      rw [hi] at h
      rcases List.mem_append.mp h with hlines | hrest
      · cases hl : i.lines begun with
        | nil => rw [hl] at hlines; cases hlines
        | cons line lines =>
          rw [hl] at hlines
          rw [List.mem_singleton.mp hlines]
          rfl
      · exact ih hrest

theorem Answer.drives?_of_mem {answer : Answer} (h : a ∈ answer.tale session) :
    a.drives? = some session := by
  cases answer with
  | refused f => exact Ending.drives?_of_mem (e := .failed Run.connectionFailed f) h
  | opened items => exact drives?_of_mem_tale h

theorem Refresh.eq_report_of_mem {x : Refresh} {answer : Answer} (h : a ∈ x.tale answer) :
    a.drives? = some x.session ∨ a = x.report answer := by
  rcases List.mem_cons.mp h with rfl | h
  · exact .inl rfl
  rcases List.mem_append.mp h with hrun | hclosing
  · exact .inl (Answer.drives?_of_mem hrun)
  · unfold closing at hclosing
    cases he : answer.ending with
    | completed results =>
      rw [he] at hclosing
      rcases List.mem_cons.mp hclosing with rfl | hcleared
      · exact .inr rfl
      · rw [List.mem_singleton.mp hcleared]
        exact .inl rfl
    | failed line f =>
      rw [he] at hclosing
      exact .inr (List.mem_singleton.mp hclosing)

end

/-! ## Jobs that have been answered

Once the channel is open, what is ahead of a job depends on the job alone. -/

/-- The channel of the refresh is open, or was. -/
def Job.Answered (j : Job) : Prop :=
  match j.stage with
  | .looking _ _ => False
  | .running (.refresh _ _) r => r.foretold.isSome = true
  | .running _ _ => False
  | _ => True

namespace Job

section
variable {j j' : Job} {w w' : World σ}

theorem answered_step (hj : j.Answered) (h : j.step tr w = some (j', w')) : j'.Answered := by
  cases jobMove_step h with
  | missed tab time => exact hj.elim
  | began tab time at' t clock ht => exact hj.elim
  | ran p r r' w' hr =>
    cases p with
    | refresh tab time =>
      obtain ⟨v, hv⟩ := Option.isSome_iff_exists.mp hj
      exact Option.isSome_iff_exists.mpr ⟨v, Run.foretold_step hv hr⟩
    | _ => exact hj.elim
  | concluded p r result hr =>
    cases p with
    | refresh tab time => cases result <;> exact trivial
    | _ => exact hj.elim
  | reported session report result => cases report <;> exact trivial
  | cleared session result => exact trivial

/-- What is ahead of such a job depends on the job alone. -/
theorem ahead_of_answered (tr : Transport σ) (hj : j.Answered) (w w' : World σ) :
    j.ahead tr w' = j.ahead tr w := by
  obtain ⟨stage⟩ := j
  cases stage with
  | looking tab time => exact hj.elim
  | running p r =>
    cases p with
    | refresh tab time =>
      obtain ⟨v, hv⟩ := Option.isSome_iff_exists.mp hj
      obtain ⟨hahead, hfate⟩ := Run.ahead_of_foretold tr hv w w'
      simp only [ahead, hahead, hfate]
      cases r.fate tr w <;> rfl
    | _ => exact hj.elim
  | _ => rfl

theorem opened?_of_answered (hj : j.Answered) (w : World σ) : (j.deed tr w).opened? = none := by
  obtain ⟨stage⟩ := j
  cases stage with
  | running p r =>
    cases p with
    | refresh tab time =>
      obtain ⟨session, stage⟩ := r
      cases stage with
      | opening => cases hj
      | listening c t logs =>
        simp only [deed, Run.deed]
        split <;> rfl
      | _ => rfl
    | _ => exact hj.elim
  | _ => rfl

theorem fate?_of_answered (tr : Transport σ) (hj : j.Answered) (w : World σ) :
    ∃ v, j.fate? tr w = some v := by
  obtain ⟨stage⟩ := j
  cases stage with
  | looking tab time => exact hj.elim
  | _ => exact ⟨_, rfl⟩

theorem ahead_of_session? (hj : j.Answered) (hs : j.session? = none) (w : World σ) : j.ahead tr w = [] := by
  obtain ⟨stage⟩ := j
  cases stage with
  | looking tab time => exact hj.elim
  | ended result => rfl
  | _ => cases hs

end

end Job

/-! ## How far the job has come

Before the channel is open there is an answer to come, which is not known yet;
from then on the actions told and those ahead are the tale of the answer. -/

namespace Refresh

/-- Where the job of a refresh stands that has told these actions and has opened these channels. -/
inductive At (x : Refresh) (tr : Transport σ) :
    List Action → List (ExecutionRequest × Answer) → Job → Prop
  | ready : At x tr [] [] (x.job .ready)
  | starting : At x tr [] [] (x.job .starting)
  | opening : At x tr [.executionStarted x.start] [] (x.job .opening)
  | answered {told : List Action} {answer : Answer} {j : Job} :
      j.Answered → j.session? = some x.session →
      (∀ w : World σ, told ++ j.ahead tr w = x.tale answer) →
      At x tr told [(x.tab.request, answer)] j

section
variable {x : Refresh} {told : List Action} {channels : List (ExecutionRequest × Answer)} {j j' : Job}
  {w w' : World σ}

theorem At.session? (h : x.At tr told channels j) : j.session? = some x.session := by
  cases h with
  | answered hj hs htale => exact hs
  | _ => rfl

theorem At.told_prefix (h : x.At tr told channels j) (w : World σ) :
    ∃ answer, channels <+: [(x.tab.request, answer)] ∧ told <+: x.tale answer := by
  cases h with
  | ready => exact ⟨.opened [], List.nil_prefix, List.nil_prefix⟩
  | starting => exact ⟨.opened [], List.nil_prefix, List.nil_prefix⟩
  | opening => exact ⟨.opened [], List.nil_prefix, _, rfl⟩
  | @answered _ answer _ hj hs htale => exact ⟨answer, List.prefix_refl _, _, htale w⟩

theorem answered_job (x : Refresh) (tr : Transport σ) (number : Nat) (answer : Answer) :
    x.At tr [.executionStarted x.start] [(x.tab.request, answer)]
      (x.job (Run.onAnswer ⟨x.start, .opening⟩ number answer)) := by
  have hforetold := Run.foretold_onAnswer_eq x.start number answer
  refine .answered ?_ rfl fun w => ?_
  · exact Option.isSome_iff_exists.mpr ⟨_, hforetold⟩
  · have hfate : Run.fate tr w ⟨x.start, Run.onAnswer ⟨x.start, .opening⟩ number answer⟩ =
        answer.fate x.start := by
      simp only [Run.fate, hforetold, Option.getD_some]
    simp only [Job.ahead, job, Run.ahead_onAnswer, hfate]
    exact congrArg (fun rest => .executionStarted x.start :: (answer.tale x.session ++ rest))
      (x.closing_eq answer w.clock)

/-- A move of an answered job tells what comes next. -/
theorem tale_step {answer : Answer} (hj : j.Answered)
    (htale : ∀ w : World σ, told ++ j.ahead tr w = x.tale answer) (hm : j.step tr w = some (j', w')) :
    told ++ (j.deed tr w).told?.toList ++ j'.ahead tr w' = x.tale answer := by
  obtain ⟨v, hv⟩ := Job.fate?_of_answered tr hj w
  rw [List.append_assoc, ← (Job.ahead_step hv hm).2]
  exact htale w

/-- A move of the job: the refresh goes on, or it has told everything. -/
theorem At.step (h : x.At tr told channels j) (hm : j.step tr w = some (j', w')) :
    x.At tr (told ++ (j.deed tr w).told?.toList) (channels ++ (j.deed tr w).opened?.toList) j' ∨
      (j'.session? = none ∧ ∃ answer,
        channels ++ (j.deed tr w).opened?.toList = [(x.tab.request, answer)] ∧
        told ++ (j.deed tr w).told?.toList = x.tale answer) := by
  cases h with
  | ready => cases hm; exact .inl .starting
  | starting => cases hm; exact .inl .opening
  | opening => cases hm; exact .inl (answered_job x tr _ _)
  | @answered _ answer _ hj hs htale =>
    have hj' := Job.answered_step hj hm
    rw [Job.opened?_of_answered hj, Option.toList_none, List.append_nil]
    have hahead := tale_step hj htale hm
    cases hs' : j'.session? with
    | none =>
      rw [Job.ahead_of_session? hj' hs', List.append_nil] at hahead
      exact .inr ⟨rfl, answer, rfl, hahead⟩
    | some s =>
      refine .inl (.answered hj' ?_ fun w'' => ?_)
      · rcases Job.step_session hm with ⟨-, hsame⟩ | ⟨-, hnone, -⟩
        · exact hs'.trans ((hsame s hs').symm.trans hs)
        · cases hnone.symm.trans hs
      · rw [Job.ahead_of_answered tr hj' w' w'']
        exact hahead

theorem At.reports (h : x.At tr told channels j) (hm : j.step tr w = some (j', w')) {a : Action}
    (hdeed : j.deed tr w = .tells a) : a.drives? = some x.session ∨
      ∃ answer, channels = [(x.tab.request, answer)] ∧ a = x.report answer := by
  cases h with
  | ready => cases hdeed
  | starting => cases hdeed; exact .inl rfl
  | opening => cases hdeed
  | @answered _ answer _ hj hs htale =>
    have hmem : a ∈ x.tale answer := by
      rw [← tale_step hj htale hm, hdeed]
      exact List.mem_append_left _ (List.mem_append_right _ List.mem_cons_self)
    rcases eq_report_of_mem hmem with hdrives | hreport
    · exact .inl hdrives
    · exact .inr ⟨answer, rfl, hreport⟩

end

/-! ## How far the refresh has come

A task without a waiting part stays in the turns of others, held or not, unless
it is given up. If it is lost it leaves a task that clears its session, or
nothing. -/

/-- How far the refresh has come with these deeds; `given` says that it may have been given up. -/
inductive Stands (x : Refresh) (tr : Transport σ) (done : List Deed) (given : Prop) (ws : Workspace σ) :
    Prop
  | working {handle : Option String} {j : Job} : ⟨handle, .job j⟩ ∈ ws.tasks →
      x.At tr (toldIn done) (openedIn done) j → Stands x tr done given ws
  | finished {answer : Answer} : ws.Kept (fun _ => False) x.session →
      openedIn done = [(x.tab.request, answer)] → toldIn done = x.tale answer → Stands x tr done given ws
  /-- Its session is still to be cleared, if it has started and somebody can clear it. -/
  | givenUp {answer : Answer} : given → ws.Kept (Task.Clears x.session) x.session →
      openedIn done <+: [(x.tab.request, answer)] → toldIn done <+: x.tale answer →
      Stands x tr done given ws
  | cleared {answer : Answer} {part : List Action} : given → ws.Kept (fun _ => False) x.session →
      openedIn done <+: [(x.tab.request, answer)] → part <+: x.tale answer →
      toldIn done = part ++ [.executionCleared x.session] → Stands x tr done given ws

end Refresh

section
variable {ws ws' : Workspace σ} {u : Turn} {d : Option (SessionId × Deed)} {x : Refresh}
  {done : List Deed} {given : Prop}

theorem Job.result?_of_session? {j : Job} {s : SessionId} (h : j.session? = some s) : j.result? = none := by
  obtain ⟨stage⟩ := j
  cases stage with
  | ended result => cases h
  | _ => rfl

theorem stays_change {P : Task → Prop} (h : Change tr ws u d ws') (hdrop : Shift.Dropping P u ws ws')
    {t : Task} (ht : t ∈ ws.tasks) (hn : t.result? = none) (hawait : t.await = [t]) {s : SessionId}
    (hs : t.session? = some s) (hd : ∀ e, d ≠ some (s, e)) :
    t ∈ ws'.tasks ∨ t.unheld ∈ ws'.tasks ∨ P t := by
  have place {l r : List Task} {t₀ : Task} (htasks : ws.tasks = l ++ t₀ :: r) : t = t₀ ∨ t ∈ l ++ r := by
    rw [htasks] at ht
    simpa [or_left_comm] using ht
  have giving {handle : String} (hu : u.givesUp? = some handle) : t ∈ ws'.tasks ∨ P t := by
    obtain ⟨l, r, t₀, left, htasks, hleft, hP⟩ := hdrop handle hu
    rcases place htasks with rfl | hother
    · exact .inr hP
    · rw [hleft]
      exact .inl (List.mem_append_left _ hother)
  cases h with
  | @moved _ l r left t₀ w htasks hm =>
    rcases place htasks with rfl | hother
    · exact absurd (by rw [hs]; rfl) (hd (t.deed tr ws.world))
    · exact .inl (by rcases List.mem_append.mp hother with h | h <;> simp [h])
  | @awaited _ l r t₀ htasks =>
    rcases place htasks with rfl | hother
    · exact .inl (by simp [hawait])
    · exact .inl (by rcases List.mem_append.mp hother with h | h <;> simp [h])
  | @letGo _ l r left t₀ htasks hgo =>
    cases hgo with
    | dropped hh => exact (giving rfl).imp_right .inr
    | abandoned hh => exact (giving rfl).imp_right .inr
    | detached hh =>
      rcases place htasks with rfl | hother
      · exact .inr (.inl (List.mem_append_right _ (List.mem_singleton_self _)))
      · exact .inl (List.mem_append_left _ hother)
  | thinned hsub hkeep => exact .inl (hkeep t ht hn)
  | begun hs hr => exact .inl (List.mem_append_left _ ht)
  | told => exact .inl ht
  | released => exact .inl ht

theorem kept_clears_of_lost (ho : ws.Owned) (h : Change tr ws u d ws') {handle : Option String} {j : Job}
    (ht : ⟨handle, .job j⟩ ∈ ws.tasks) {s : SessionId} (hs : j.session? = some s)
    (hd : ∀ e, d ≠ some (s, e)) (hlost : ⟨handle, .job j⟩ ∉ ws'.tasks)
    (hunheld : ⟨none, .job j⟩ ∉ ws'.tasks) : ws'.Kept (Task.Clears s) s := by
  have hknown := ho.known s (Workspace.mem_owners ht hs)
  refine ⟨Nat.lt_of_lt_of_le hknown (nextSession_le_change h), fun t' ht' hs' => ?_⟩
  cases origin_change ho h ht' hs' with
  | same hsame hd =>
    rw [eq_of_owned ho ht hsame hs hs'] at ht'
    exact absurd ht' hlost
  | awaited t ht₀ hts hmem hd =>
    rw [eq_of_owned ho ht ht₀ hs hts] at hmem
    rw [List.mem_singleton.mp hmem] at ht'
    exact absurd ht' hlost
  | dropped t handle' ht₀ hts hh hmem hd =>
    rw [eq_of_owned ho ht ht₀ hs hts] at hmem
    exact Task.clears_of_remains hmem hs'
  | unheld t handle' ht₀ hts hh heq hd =>
    rw [heq, eq_of_owned ho ht ht₀ hs hts] at ht'
    exact absurd ht' hunheld
  | moved t ht₀ hts hstep hd' => exact absurd hd' (hd _)
  | fresh p plugin resource hfresh hj hopen hd hst =>
    rw [hfresh] at hknown
    exact absurd hknown (Nat.lt_irrefl _)

/-- The refresh itself has its turn. -/
theorem stands_move {e : Deed} (ho : ws.Owned) (hx : x.Stands tr done given ws)
    (h : Change tr ws u (some (x.session, e)) ws') : x.Stands tr (done ++ [e]) given ws' := by
  obtain ⟨t, ht, hts, hdeed, left, hstep, hleft⟩ := moved_change h
  cases hx with
  | @working handle j hmem hat =>
    obtain rfl := eq_of_owned ho hmem ht hat.session? hts
    obtain ⟨⟨j', w⟩, hm, hm'⟩ := Option.map_eq_some_iff.mp hstep
    obtain ⟨rfl, rfl⟩ := Prod.mk.inj hm'
    replace hdeed : j.deed tr ws.world = e := hdeed
    have hnext := hat.step hm
    rw [hdeed, ← toldIn_concat, ← openedIn_concat] at hnext
    rcases hnext with hat' | ⟨hnone, answer, hopened, htold⟩
    · exact .working (hleft _ (List.mem_singleton_self _)) hat'
    · refine .finished (kept_none_of_move ho h fun t₀ ht₀ hts₀ t' hstep' hs' => ?_) hopened htold
      obtain rfl := eq_of_owned ho hmem ht₀ hat.session? hts₀
      obtain rfl := List.singleton_inj.mp (congrArg Prod.fst (Option.some.inj (hstep.symm.trans hstep')))
      cases hnone.symm.trans hs'
  | finished hk hopened htold => exact (hk.tasks t ht hts).elim
  | @givenUp answer hgiven hk hopened htold =>
    have hclears : t.Clears x.session := hk.tasks t ht hts
    obtain rfl := (hclears.deed ws.world).symm.trans hdeed
    refine .cleared hgiven (kept_none_of_move ho h fun t₀ ht₀ hts₀ t' hstep' hs' => ?_) ?_ htold ?_
    · have hclears₀ : t₀.Clears x.session := hk.tasks t₀ ht₀ hts₀
      rw [hclears₀.step] at hstep'
      cases hstep'
    · rw [openedIn_concat]
      exact (List.append_nil _).symm ▸ hopened
    · exact toldIn_concat _ _
  | cleared hgiven hk hopened hpart htold => exact (hk.tasks t ht hts).elim

/-- Somebody else has a turn. -/
theorem stands_other (ho : ws.Owned) (hx : x.Stands tr done given ws) (h : Change tr ws u d ws')
    (hd : ∀ e, d ≠ some (x.session, e))
    (hdrop : Shift.Dropping (fun t => t.session? = some x.session → given) u ws ws') :
    x.Stands tr done given ws' := by
  cases hx with
  | @working handle j hmem hat =>
    by_cases hstays : ∃ handle, ⟨handle, .job j⟩ ∈ ws'.tasks
    · obtain ⟨handle', hmem'⟩ := hstays
      exact .working hmem' hat
    · have hlost : ∀ handle, ⟨handle, .job j⟩ ∉ ws'.tasks := fun handle h => hstays ⟨handle, h⟩
      have hs := hat.session?
      have hn : j.result? = none := Job.result?_of_session? hs
      rcases stays_change h hdrop hmem hn rfl hs hd with hmem' | hmem' | hgiven
      · exact absurd hmem' (hlost _)
      · exact absurd hmem' (hlost _)
      · obtain ⟨answer, hopened, htold⟩ := hat.told_prefix ws.world
        exact .givenUp (hgiven hs) (kept_clears_of_lost ho h hmem hs hd (hlost _) (hlost _)) hopened htold
  | finished hk hopened htold => exact .finished (kept_change (closed_none tr _) ho hk h) hopened htold
  | givenUp hg hk hopened htold =>
    exact .givenUp hg (kept_change (closed_clears tr _) ho hk h) hopened htold
  | cleared hg hk hopened hpart htold =>
    exact .cleared hg (kept_change (closed_none tr _) ho hk h) hopened hpart htold

theorem stands_change (ho : ws.Owned) (hx : x.Stands tr done given ws) (h : Change tr ws u d ws')
    (hdrop : Shift.Dropping (fun t => t.session? = some x.session → given) u ws ws') :
    x.Stands tr (done ++ deedsUnder x.session d.toList) given ws' := by
  by_cases hd : ∃ e, d = some (x.session, e)
  · obtain ⟨e, rfl⟩ := hd
    rw [deedsUnder_same]
    exact stands_move ho hx h
  · have hother : ∀ e, d ≠ some (x.session, e) := fun e he => hd ⟨e, he⟩
    rw [deedsUnder_other hother, List.append_nil]
    exact stands_other ho hx h hother hdrop

theorem Refresh.Stands.alike (hx : x.Stands tr done given ws) (h : ws.Alike ws') :
    x.Stands tr done given ws' := by
  cases hx with
  | working hmem hat => exact .working (h.tasks.mem_iff.mpr hmem) hat
  | finished hk hopened htold => exact .finished (hk.alike h) hopened htold
  | givenUp hg hk hopened htold => exact .givenUp hg (hk.alike h) hopened htold
  | cleared hg hk hopened hpart htold => exact .cleared hg (hk.alike h) hopened hpart htold

theorem Refresh.Stands.reports (ho : ws.Owned) (hx : x.Stands tr done given ws) {a : Action}
    (h : Change tr ws u (some (x.session, .tells a)) ws') : a.drives? = some x.session ∨
      ∃ answer, openedIn done = [(x.tab.request, answer)] ∧ a = x.report answer := by
  obtain ⟨t, ht, hts, hdeed, left, hstep, -⟩ := moved_change h
  cases hx with
  | @working handle j hmem hat =>
    obtain rfl := eq_of_owned ho hmem ht hat.session? hts
    obtain ⟨⟨j', w⟩, hm, -⟩ := Option.map_eq_some_iff.mp hstep
    exact hat.reports hm hdeed
  | finished hk hopened htold => exact (hk.tasks t ht hts).elim
  | givenUp hg hk hopened htold =>
    have hclears : t.Clears x.session := hk.tasks t ht hts
    cases (hclears.deed ws.world).symm.trans hdeed
    exact .inl rfl
  | cleared hg hk hopened hpart htold => exact (hk.tasks t ht hts).elim

end

/-! ## Shifts

Carried over to shifts by `Shift.Joint`. What is told in a turn changes the
state in that turn, so a deed of the refresh is what happens to the console. -/

namespace Shift

variable {s : Shift σ} {x : Refresh} {done : List Deed} {given : Prop}

theorem owned_turn (tr : Transport σ) (ho : s.joined.Owned) (v : ShiftTurn) :
    (s.turn tr v).joined.Owned := by
  obtain ⟨ws, ws', u, d, hbefore, hc, hafter, -, -⟩ := joint_turn tr s v
  exact (owned_change (ho.alike hbefore) hc).alike hafter

theorem owned_play (tr : Transport σ) (ho : s.joined.Owned) (turns : List ShiftTurn) :
    (s.play tr turns).joined.Owned := by
  induction turns generalizing s with
  | nil => exact ho
  | cons v turns ih => exact ih (owned_turn tr ho v)

theorem stands_turn (ho : s.joined.Owned) (hx : x.Stands tr done given s.joined) {v : ShiftTurn}
    (hgiven : s.GivesUp x.session v → given) :
    x.Stands tr (done ++ deedsUnder x.session (s.deed? tr v).toList) given (s.turn tr v).joined := by
  obtain ⟨ws, ws', u, hbefore, hc, hafter, -, -, hdrop⟩ := jointWith_turn tr s v
  refine (stands_change (ho.alike hbefore) (hx.alike hbefore) hc ?_).alike hafter
  intro handle hu
  obtain ⟨l, r, t, left, htasks, hleft, hgives⟩ := hdrop handle hu
  exact ⟨l, r, t, left, htasks, hleft, fun hs => hgiven (hgives x.session hs)⟩

theorem stands_play {turns : List ShiftTurn} (ho : s.joined.Owned)
    (hx : x.Stands tr done given s.joined) (hgiven : GivenUp tr x.session s turns → given) :
    x.Stands tr (done ++ deedsUnder x.session (s.deeds tr turns)) given (s.play tr turns).joined := by
  induction turns generalizing s done with
  | nil =>
    rw [deeds, show deedsUnder x.session [] = [] from rfl, List.append_nil]
    exact hx
  | cons v turns ih =>
    have hstep := stands_turn ho hx fun hv => hgiven (.inl hv)
    have hend := ih (owned_turn tr ho v) hstep fun hrest => hgiven (.inr hrest)
    rw [deeds, deedsUnder_append, ← List.append_assoc]
    exact hend

theorem change_of_deed {v : ShiftTurn} {e : SessionId × Deed} (h : s.deed? tr v = some e) :
    ∃ ws ws' u, s.joined.Alike ws ∧ Change tr ws u (some e) ws' ∧ ws'.Alike (s.turn tr v).joined := by
  have hjoint := jointWith_turn tr s v
  rw [h] at hjoint
  obtain ⟨ws, ws', u, hbefore, hc, hafter, -, -, -⟩ := hjoint
  exact ⟨ws, ws', u, hbefore, hc, hafter⟩

theorem state_of_deed {v : ShiftTurn} {session : SessionId} {a : Action}
    (h : s.deed? tr v = some (session, .tells a)) : (s.turn tr v).state = s.state.apply a := by
  obtain ⟨ws, ws', u, hbefore, hc, hafter⟩ := change_of_deed h
  obtain ⟨t, -, -, hdeed, left, hstep, -⟩ := moved_change hc
  have hst := (Task.step_deed hstep).state
  rw [hdeed] at hst
  calc (s.turn tr v).state = ws'.world.state := hafter.state
    _ = ws.world.state.apply a := hst
    _ = s.state.apply a := congrArg (fun st => st.apply a) hbefore.state

theorem reports_turn (ho : s.joined.Owned) (hx : x.Stands tr done given s.joined) {v : ShiftTurn}
    {a : Action} (h : s.deed? tr v = some (x.session, .tells a)) : a.drives? = some x.session ∨
      ∃ answer, openedIn done = [(x.tab.request, answer)] ∧ a = x.report answer := by
  obtain ⟨ws, ws', u, hbefore, hc, -⟩ := change_of_deed h
  exact (hx.alike hbefore).reports (ho.alike hbefore) hc

end Shift

end ScanConsole
