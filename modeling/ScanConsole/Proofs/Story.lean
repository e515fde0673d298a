import ScanConsole.Jobs.Workspace
import ScanConsole.Proofs.Sessions

/-!
# What a run makes of its channel

A run keeps its log twice, for itself and in its session, and takes a channel
item by item. What comes of this can be said of the items all at once: the lines
that they add to the log (`story`) and the way in which the first of them that
ends a run does so (`Answer.ending`). `run_eq_story` says that a run makes just
this of every answer of the transport:

    what it gives back          the outcome with the whole log, or the failure
    the session that it leaves  done, or failed with the last line
    what was held meanwhile     when the channel was opened, and whenever an item
                                was asked for: the session with the lines so far
    what was asked for          the plain items and the one behind them, no more

The induction is over the items. It carries that the two logs are equal, and
that the transcript of the run remembers whether commands have begun; without
the second the lines of an output could not be said of the items.

A channel that falls silent is left out, since a run that is carried through is
given up there. Every other answer is covered: a refusal, a channel that ends
without an end of the run, one that fails, and one that goes on behind the item
that ends the run.
-/

namespace ScanConsole

/-! ## Items all at once

These definitions know nothing of runs. `story` goes through the items with one
bit, whether commands have begun, and `Answer.ending` looks for the first item
that ends a run. -/

/-- The lines of an event; output counts only if commands have begun. -/
def Event.lines (begun : Bool) : Event → List String
  | .status m => [m]
  | .error m => [Transcript.errorLine m]
  | .commandStart screen commands =>
    Transcript.blockLine screen :: commands.map Transcript.commandLine
  | .output data => if begun then [data] else []
  | .errorOutput data => if begun then [Transcript.errorLine data] else []
  | .complete _ => [Transcript.completionLine]

namespace Item

def beginsCommands : Item → Bool
  | .event (.commandStart _ _) => true
  | _ => false

def lines (begun : Bool) : Item → List String
  | .event e => e.lines begun
  | _ => []

end Item

/-- The lines of items, one after the other; `begun` says whether commands have begun before them. -/
def story (begun : Bool) : List Item → List String
  | [] => []
  | i :: rest => i.lines begun ++ story (begun || i.beginsCommands) rest

/-- How a run ends. -/
inductive Ending where
  | completed (results : List Screen)
  /-- The last line of the log, and the failure that the run gives back. -/
  | failed (line : String) (f : Failure)

/-- How an item ends a run, if it does. -/
def Item.ending? : Item → Option Ending
  | .event (.error m) => some (.failed (Transcript.errorLine m) (.stream (Transcript.errorLine m)))
  | .event (.complete results) => some (.completed results)
  | .failure f => some (.failed Run.connectionFailed f)
  | _ => none

/-- How the end of a channel ends a run. -/
def Ending.closed : Ending := .failed Run.connectionFailed (.stream Run.connectionFailed)

/-- The items before the first that ends a run. -/
def plainItems (items : List Item) : List Item := items.takeWhile fun i => i.ending?.isNone

/-- How the first item that ends a run does so, or else the end of the channel. -/
def endingOf (items : List Item) : Ending := (items.findSome? Item.ending?).getD .closed

namespace Answer

/-- The items of the channel before the first that ends a run. -/
def plain : Answer → List Item
  | .refused _ => []
  | .opened items => plainItems items

def items : Answer → List Item
  | .refused _ => []
  | .opened items => items

def ending : Answer → Ending
  | .refused f => .failed Run.connectionFailed f
  | .opened items => endingOf items

/-- The places of the items that are asked for: the plain ones and the one behind them. -/
def places : Answer → List Nat
  | .refused _ => []
  | .opened items => List.range ((plainItems items).length + 1)

/-- The channel never falls silent. -/
def neverSilent : Answer → Bool
  | .refused _ => true
  | .opened items => !items.contains .silence

end Answer

namespace Session

/-- The session of a run that has taken some items. -/
def during (id : SessionId) (plugin : Plugin) (resource : Resource) (items : List Item) : Session :=
  ⟨id, plugin, resource, .running, startingLine plugin resource :: story false items, 0⟩

/-- The session of a run behind its end. -/
def behind (id : SessionId) (plugin : Plugin) (resource : Resource) (items : List Item) :
    Ending → Session
  | .completed _ =>
    ⟨id, plugin, resource, .done,
      startingLine plugin resource :: story false items ++ [Transcript.completionLine], 100⟩
  | .failed line _ =>
    ⟨id, plugin, resource, .error, startingLine plugin resource :: story false items ++ [line], 0⟩

end Session

/-- What a run gives back that left this session. -/
def Ending.result (x : Session) : Ending → Except Failure Outcome
  | .completed results => .ok ⟨x.id, x.plugin, x.resource, results, x.logs⟩
  | .failed _ f => .error f

/-! ## One item

The effect of an event on a transcript is what the item says: an end, or
lines. -/

theorem Transcript.effect_of_plain {t : Transcript} {e : Event} (h : (Item.event e).ending? = none) :
    t.effect e = .log (e.lines t.screen.isSome) := by
  obtain ⟨screen⟩ := t
  cases e <;> cases screen <;> first
    | rfl
    | cases h

theorem Transcript.begun_after (t : Transcript) (e : Event) :
    (t.after e).screen.isSome = (t.screen.isSome || (Item.event e).beginsCommands) := by
  cases e <;> simp [after, Item.beginsCommands]

theorem plainItems_cons_of_plain {i : Item} {rest : List Item} (h : i.ending? = none) :
    plainItems (i :: rest) = i :: plainItems rest := by
  simp [plainItems, h]

theorem plainItems_cons_of_ending {i : Item} {rest : List Item} {e : Ending} (h : i.ending? = some e) :
    plainItems (i :: rest) = [] := by
  simp [plainItems, h]

theorem endingOf_cons_of_plain {i : Item} {rest : List Item} (h : i.ending? = none) :
    endingOf (i :: rest) = endingOf rest := by
  simp [endingOf, h]

theorem endingOf_cons_of_ending {i : Item} {rest : List Item} {e : Ending} (h : i.ending? = some e) :
    endingOf (i :: rest) = e := by
  simp [endingOf, h]

/-! ## The world with the session of a run

The session of the run stands behind the others, and no other session has its
identifier (`World.Lacks`). So what is done to it is done to the last one. -/

variable {σ : Type} {tr : Transport σ} {w : World σ}

/-- The world with one more session, and with more that has been seen. -/
def World.showing (x : Session) (seen : List Glimpse) (w : World σ) : World σ :=
  { w with
    state := { w.state with sessions := w.state.sessions ++ [x] }
    glimpses := w.glimpses ++ seen }

theorem updateFirst_append_singleton {α : Type} {p : α → Bool} {f : α → α} {xs : List α} {x : α}
    (hxs : ∀ y ∈ xs, p y = false) (hx : p x = true) :
    updateFirst p f (xs ++ [x]) = xs ++ [f x] := by
  induction xs with
  | nil => simp [updateFirst, hx]
  | cons y xs ih =>
    have hy : p y = false := hxs y List.mem_cons_self
    have ih' := ih fun z hz => hxs z (List.mem_cons_of_mem _ hz)
    simp [updateFirst, hy, ih']

/-- No session has the identifier of `x` yet. -/
def World.Lacks (w : World σ) (x : Session) : Prop := ∀ y ∈ w.state.sessions, y.id ≠ x.id

theorem onSession_showing {x : Session} {seen : List Glimpse} (h : w.Lacks x)
    (f : Session → Session) :
    { w.showing x seen with state := (w.showing x seen).state.onSession x.id f } =
      w.showing (f x) seen := by
  have hu : updateFirst (fun y => y.id == x.id) f (w.state.sessions ++ [x]) =
      w.state.sessions ++ [f x] :=
    updateFirst_append_singleton (fun y hy => by simpa using h y hy) (by simp)
  simp only [World.showing, State.onSession, hu]

theorem look_showing (x : Session) (seen : List Glimpse) (outlook : Outlook) :
    (w.showing x seen).look outlook =
      w.showing x (seen ++ [⟨outlook, w.state.sessions ++ [x]⟩]) := by
  simp only [World.showing, World.look, List.append_assoc]

theorem connect_showing {request : ExecutionRequest} {answer : Answer} {link : σ} (x : Session)
    (seen : List Glimpse) (h : tr.connect request w.link = (answer, link)) :
    (w.showing x seen).connect tr request =
      (w.requests, answer,
        World.showing x (seen ++ [⟨.opening request, w.state.sessions ++ [x]⟩])
          { w with requests := w.requests + 1, link := link }) := by
  simp only [World.connect, look_showing]
  simp only [World.showing, h]

/-! ## A run to its end

From a stage in which the run listens it makes of the items what they say
(`Run.settle_listening`). It tells lines and takes items again
(`Run.settle_logging`), or it tells how it ends (`Run.settle_ending`). -/

theorem Run.settle_of_step {r r' : Run} {w w' : World σ} (h : r.step tr w = some (r', w')) :
    r.settle tr w = r'.settle tr w' := by
  rw [Run.settle]
  split
  · next hn => cases hn.symm.trans h
  · next r₁ w₁ hs =>
    obtain ⟨rfl, rfl⟩ := Prod.mk.inj (Option.some.inj (hs.symm.trans h))
    rfl

theorem Run.settle_of_none {r : Run} {w : World σ} (h : r.step tr w = none) :
    r.settle tr w = (r, w) := by
  rw [Run.settle]
  split
  · rfl
  · next hs => cases hs.symm.trans h

def Ending.close (x : Session) : Ending → Session
  | .completed _ => (x.log [Transcript.completionLine]).complete
  | .failed line _ => x.fail [line]

/-- The stage in which the ending is still to be told. -/
def Ending.stage (s : Session) (logs : List String) : Ending → Stage
  | .completed results =>
    .completing [Transcript.completionLine]
      ⟨s.id, s.plugin, s.resource, results, logs ++ [Transcript.completionLine]⟩
  | .failed line f => .failing [line] f

theorem Run.onAsk_of_ending (r : Run) (number asked : Nat) (t : Transcript) (logs : List String)
    {i : Item} {rest : List Item} {e : Ending} (h : i.ending? = some e) :
    r.onAsk ⟨number, asked, i :: rest, false⟩ t logs = e.stage r.session logs := by
  cases i with
  | failure f => cases h; rfl
  | silence => cases h
  | event ev =>
    cases ev with
    | error m => cases h; rfl
    | complete results => cases h; rfl
    | _ => cases h

theorem Run.onAsk_of_plain (r : Run) (number asked : Nat) (t : Transcript) (logs : List String)
    {rest : List Item} {e : Event} (h : (Item.event e).ending? = none) :
    r.onAsk ⟨number, asked, .event e :: rest, false⟩ t logs =
      match e.lines t.screen.isSome with
      | [] => .listening ⟨number, asked + 1, rest, false⟩ (t.after e) logs
      | lines => .logging lines ⟨number, asked + 1, rest, false⟩ (t.after e) (logs ++ lines) := by
  show r.onEvent _ t logs e = _
  unfold Run.onEvent
  rw [Transcript.effect_of_plain h]
  cases e.lines t.screen.isSome <;> rfl

section
variable (s : Session) (w : World σ) (lines : List String) (o : Outcome) (f : Failure)

theorem Run.step_starting :
    Run.step tr ⟨s, .starting⟩ w = some (⟨s, .opening⟩, w.dispatch (.executionStarted s)) := rfl

theorem Run.step_logging (c : Channel) (t : Transcript) (logs : List String) :
    Run.step tr ⟨s, .logging lines c t logs⟩ w =
      some (⟨s, .listening c t logs⟩, w.dispatch (.executionLogged s.id lines)) := rfl

theorem Run.step_failing :
    Run.step tr ⟨s, .failing lines f⟩ w =
      some (⟨s, .ended (.error f)⟩, w.dispatch (.executionFailed s.id lines)) := rfl

theorem Run.step_completing :
    Run.step tr ⟨s, .completing lines o⟩ w =
      some (⟨s, .finishing o⟩, w.dispatch (.executionLogged s.id lines)) := rfl

theorem Run.step_finishing :
    Run.step tr ⟨s, .finishing o⟩ w =
      some (⟨s, .ended (.ok o)⟩, w.dispatch (.executionCompleted s.id)) := rfl

end

section
variable {s : Session} {seen : List Glimpse} {logs : List String}

theorem Run.settle_ending (h : w.Lacks s) (e : Ending) :
    Run.settle tr ⟨s, e.stage s logs⟩ (w.showing { s with logs := logs } seen) =
      (⟨s, .ended (e.result (e.close { s with logs := logs }))⟩,
        w.showing (e.close { s with logs := logs }) seen) := by
  cases e with
  | completed results =>
    let x : Session := { s with logs := logs }
    let o : Outcome := ⟨s.id, s.plugin, s.resource, results, logs ++ [Transcript.completionLine]⟩
    have hlog : (w.showing x seen).dispatch (.executionLogged s.id [Transcript.completionLine]) =
        w.showing (x.log [Transcript.completionLine]) seen := onSession_showing (x := x) h _
    have hdone : (w.showing (x.log [Transcript.completionLine]) seen).dispatch
          (.executionCompleted s.id) =
        w.showing (x.log [Transcript.completionLine]).complete seen :=
      onSession_showing (x := x.log [Transcript.completionLine]) h Session.complete
    show Run.settle tr ⟨s, .completing [Transcript.completionLine] o⟩ (w.showing x seen) =
      (⟨s, .ended (.ok o)⟩, w.showing (x.log [Transcript.completionLine]).complete seen)
    rw [settle_of_step (step_completing s _ _ o), hlog, settle_of_step (step_finishing s _ o),
      hdone, settle_of_none rfl]
  | failed line f =>
    let x : Session := { s with logs := logs }
    have hfail : (w.showing x seen).dispatch (.executionFailed s.id [line]) =
        w.showing (x.fail [line]) seen := onSession_showing (x := x) h (Session.fail [line])
    show Run.settle tr ⟨s, .failing [line] f⟩ (w.showing x seen) =
      (⟨s, .ended (.error f)⟩, w.showing (x.fail [line]) seen)
    rw [settle_of_step (step_failing s _ _ f), hfail, settle_of_none rfl]

theorem Run.settle_logging (h : w.Lacks s) (lines : List String) (c : Channel) (t : Transcript) :
    Run.settle tr ⟨s, .logging lines c t (logs ++ lines)⟩ (w.showing { s with logs := logs } seen) =
      Run.settle tr ⟨s, .listening c t (logs ++ lines)⟩
        (w.showing { s with logs := logs ++ lines } seen) := by
  have hlog : (w.showing { s with logs := logs } seen).dispatch (.executionLogged s.id lines) =
      w.showing { s with logs := logs ++ lines } seen :=
    onSession_showing (x := { s with logs := logs }) h (Session.log lines)
  rw [settle_of_step (step_logging s _ lines c t _), hlog]

end

/-- What is seen when items are asked for from place `asked` on, with the log that there is then. -/
def World.asks (w : World σ) (s : Session) (logs : List String) (begun : Bool) (number asked : Nat)
    (items : List Item) : List Glimpse :=
  (List.range ((plainItems items).length + 1)).map fun i =>
    ⟨.asking number (asked + i),
      w.state.sessions ++ [{ s with logs := logs ++ story begun (items.take i) }]⟩

theorem asks_of_plain_nil (s : Session) (logs : List String) (begun : Bool) (number asked : Nat)
    {items : List Item} (h : plainItems items = []) :
    w.asks s logs begun number asked items =
      [⟨.asking number asked, w.state.sessions ++ [{ s with logs := logs }]⟩] := by
  simp [World.asks, h, story]

theorem asks_cons_of_plain (s : Session) (logs : List String) (begun : Bool) (number asked : Nat)
    {i : Item} {rest : List Item} (h : i.ending? = none) :
    w.asks s logs begun number asked (i :: rest) =
      ⟨.asking number asked, w.state.sessions ++ [{ s with logs := logs }]⟩ ::
        w.asks s (logs ++ i.lines begun) (begun || i.beginsCommands) number (asked + 1) rest := by
  simp only [World.asks, plainItems_cons_of_plain h, List.length_cons,
    List.range_succ_eq_map (n := (plainItems rest).length + 1), List.map_cons, List.map_map]
  refine List.cons_eq_cons.mpr ⟨by simp [story], List.map_congr_left fun k _ => ?_⟩
  simp [story, Nat.add_assoc, Nat.add_comm 1 k]

theorem Run.settle_listening (tr : Transport σ) {s : Session} (h : w.Lacks s) {items : List Item}
    (hq : .silence ∉ items) (t : Transcript) (logs : List String) (number asked : Nat)
    (seen : List Glimpse) :
    let x := (endingOf items).close
      { s with logs := logs ++ story t.screen.isSome (plainItems items) }
    Run.settle tr ⟨s, .listening ⟨number, asked, items, false⟩ t logs⟩
        (w.showing { s with logs := logs } seen) =
      (⟨s, .ended ((endingOf items).result x)⟩,
        w.showing x (seen ++ w.asks s logs t.screen.isSome number asked items)) := by
  -- On the items: what has been seen, the transcript and both logs grow with every item.
  induction items generalizing t logs asked seen with
  | nil =>
    rw [settle_of_step rfl, look_showing, asks_of_plain_nil s logs _ _ _ rfl]
    rw [show plainItems [] = [] from rfl, story, List.append_nil]
    exact settle_ending h Ending.closed
  | cons i rest ih =>
    have hq' : .silence ∉ rest := fun hmem => hq (List.mem_cons_of_mem _ hmem)
    rw [settle_of_step rfl, look_showing]
    cases hi : i.ending? with
    | some e =>
      rw [onAsk_of_ending _ _ _ _ _ hi, endingOf_cons_of_ending hi, plainItems_cons_of_ending hi,
        asks_of_plain_nil s logs _ _ _ (plainItems_cons_of_ending hi), story, List.append_nil]
      exact settle_ending h e
    | none =>
      cases i with
      | silence => exact absurd List.mem_cons_self hq
      | failure f => cases hi
      | event e =>
        have ih' := ih hq' (t.after e) (logs ++ e.lines t.screen.isSome) (asked + 1)
          (seen ++ [⟨.asking number asked, w.state.sessions ++ [{ s with logs := logs }]⟩])
        rw [onAsk_of_plain _ _ _ _ _ hi, endingOf_cons_of_plain hi, plainItems_cons_of_plain hi,
          asks_cons_of_plain s logs _ _ _ hi]
        rw [Transcript.begun_after, List.append_assoc logs, List.append_assoc seen] at ih'
        -- Without lines there is nothing to tell, and the run asks at once for the next item.
        cases hl : e.lines t.screen.isSome with
        | nil =>
          rw [hl, List.append_nil] at ih'
          simpa [story, Item.lines, hl] using ih'
        | cons line lines =>
          rw [hl] at ih'
          show Run.settle tr ⟨s, .logging (line :: lines) _ _ _⟩ _ = _
          rw [settle_logging h]
          simpa [story, Item.lines, hl] using ih'

/-! ## From the beginning

A run made from its beginning tells its start and opens its channel; a job makes
its run to the end and then concludes. A run for its own sake gives back what it
delivered. -/

theorem Job.settle_of_step {j j' : Job} {w w' : World σ} (h : j.step tr w = some (j', w')) :
    j.settle tr w = j'.settle tr w' := by
  rw [Job.settle]
  split
  · next hn => cases hn.symm.trans h
  · next j₁ w₁ hs =>
    obtain ⟨rfl, rfl⟩ := Prod.mk.inj (Option.some.inj (hs.symm.trans h))
    rfl

theorem Job.settle_of_none {j : Job} {w : World σ} (h : j.step tr w = none) :
    j.settle tr w = (j, w) := by
  rw [Job.settle]
  split
  · rfl
  · next hs => cases hs.symm.trans h

theorem Job.settle_running (p : Purpose) (r : Run) (w : World σ) :
    Job.settle tr ⟨.running p r⟩ w =
      Job.settle tr ⟨.running p (r.settle tr w).1⟩ (r.settle tr w).2 := by
  fun_induction Run.settle tr r w with
  | case1 r w hn => rfl
  | case2 r w r' w' hs ih =>
    refine Eq.trans (settle_of_step ?_) ih
    simp only [Job.step, Run.result?_of_step hs, hs, Option.map_some]

theorem Run.settle_ofPair (s : SessionId) {plugin : Plugin} {resource : Resource} {answer : Answer}
    {link : σ} (h : tr.connect ⟨plugin.name, resource.address⟩ w.link = (answer, link)) :
    let start := Session.start s plugin resource
    Run.settle tr (.ofPair s plugin resource) w =
      Run.settle tr ⟨start, Run.onAnswer ⟨start, .opening⟩ w.requests answer⟩
        (World.showing start
          [⟨.opening ⟨plugin.name, resource.address⟩, w.state.sessions ++ [start]⟩]
          { w with requests := w.requests + 1, link := link }) := by
  intro start
  have hstart : w.dispatch (.executionStarted start) = w.showing start [] := by
    simp only [World.showing, List.append_nil]
    rfl
  have hready : Run.step tr (.ofPair s plugin resource) w = some (⟨start, .starting⟩, w) := rfl
  rw [settle_of_step hready, settle_of_step (step_starting start w), hstart]
  refine settle_of_step ?_
  have hopen := connect_showing start [] (show tr.connect (Run.request ⟨start, .opening⟩) w.link = _ from h)
  simp only [Run.step, hopen]
  rfl

theorem Run.settle_answer (tr : Transport σ) {s : Session} (h : w.Lacks s)
    (number : Nat) {answer : Answer} (hq : answer.neverSilent = true) (seen : List Glimpse) :
    let x := answer.ending.close { s with logs := s.logs ++ story false answer.plain }
    Run.settle tr ⟨s, Run.onAnswer ⟨s, .opening⟩ number answer⟩ (w.showing s seen) =
      (⟨s, .ended (answer.ending.result x)⟩,
        w.showing x (seen ++ answer.places.map fun i =>
          ⟨.asking number i,
            w.state.sessions ++ [{ s with logs := s.logs ++ story false (answer.items.take i) }]⟩)) := by
  cases answer with
  | refused f =>
    simp only [Answer.plain, Answer.places, story, List.map_nil, List.append_nil]
    exact settle_ending h (Answer.refused f).ending
  | opened items =>
    have hq' : .silence ∉ items := by simpa [Answer.neverSilent] using hq
    have hl := settle_listening tr h hq' {} s.logs number 0 seen
    simp only [World.asks, Nat.zero_add] at hl
    exact hl

theorem perform_ofRun {r r' : Run} {w' : World σ} {result : Except Failure Outcome}
    (h : r.settle tr w = (r', w')) (hr : r'.stage = .ended result) :
    Workspace.perform tr (.ofRun r) w = (some (result.map .outcome), w') := by
  have hj : (Job.ofRun r).settle tr w = (⟨.ended (result.map .outcome)⟩, w') := by
    rw [Job.ofRun, Job.settle_running, h]
    have hr' : r'.result? = some result := by simp only [Run.result?, hr]
    have hstep : Job.step tr ⟨.running .run r'⟩ w' =
        some (⟨.ended (result.map .outcome)⟩, w') := by
      simp only [Job.step, hr']
      cases result <;> rfl
    exact (Job.settle_of_step hstep).trans (Job.settle_of_none rfl)
  simp only [Workspace.perform, hj]
  rfl

/-- What comes of a run, whatever the transport answers: the channel is opened once and no item is asked
for behind the one that ends the run; whenever an item is asked for, the session shows the items before;
and the run gives back what that item says, with the log that the session has in the end. -/
theorem run_eq_story (tr : Transport σ) (plugin : Plugin) (resource : Resource) (w : World σ)
    (hnew : ∀ y ∈ w.state.sessions, y.id ≠ ⟨w.nextSession⟩) {answer : Answer} {link : σ}
    (hanswer : tr.connect ⟨plugin.name, resource.address⟩ w.link = (answer, link))
    (hq : answer.neverSilent = true) :
    let id : SessionId := ⟨w.nextSession⟩
    let x := Session.behind id plugin resource answer.plain answer.ending
    Workspace.run tr plugin resource w =
      (some ((answer.ending.result x).map .outcome),
        { w with
          state := { w.state with sessions := w.state.sessions ++ [x] }
          nextSession := w.nextSession + 1
          requests := w.requests + 1
          link := link
          glimpses := w.glimpses ++
            ⟨.opening ⟨plugin.name, resource.address⟩,
              w.state.sessions ++ [.during id plugin resource []]⟩ ::
            answer.places.map fun i =>
              ⟨.asking w.requests i,
                w.state.sessions ++ [.during id plugin resource (answer.items.take i)]⟩ }) := by
  intro id x
  let start := Session.start id plugin resource
  let w₁ : World σ := { w with nextSession := w.nextSession + 1 }
  have hx : answer.ending.close
      { start with logs := start.logs ++ story false answer.plain } = x := by
    show _ = Session.behind id plugin resource answer.plain answer.ending
    cases answer.ending <;> rfl
  have hopened := Run.settle_ofPair (w := w₁) id hanswer
  have hanswered := Run.settle_answer tr (s := start)
    (w := { w₁ with requests := w.requests + 1, link := link }) hnew w.requests hq
    [⟨.opening ⟨plugin.name, resource.address⟩, w.state.sessions ++ [start]⟩]
  have hsettled := hopened.trans hanswered
  rw [hx] at hsettled
  show Workspace.perform tr (.ofRun (.ofPair id plugin resource)) w₁ = _
  rw [perform_ofRun hsettled rfl]
  simp only [World.showing, List.singleton_append]
  rfl

/-- Output before the first block of commands is not kept, and nothing is taken behind the completion. -/
theorem run_eq_story_prepared :
    let plugin : Plugin := ⟨⟨"1"⟩, "disk", "", none⟩
    let resource : Resource := ⟨"10.0.0.1", "web", none, none, .synthetic 80⟩
    let answer : Answer := .opened
      [.event (.output "early"), .event (.commandStart 0 ["df"]), .event (.output "40%"),
        .event (.complete []), .event (.status "late")]
    let w : World (List Answer) := { clock := ⟨0⟩, link := [answer] }
    (Workspace.run prepared plugin resource w).2.state.sessions =
        [⟨⟨1⟩, plugin, resource, .done,
          ["Starting execution of disk on web...", "\n=== Executing commands for screen 1 ===",
            "$ df", "40%", "\nExecution completed successfully!"], 100⟩] ∧
      (Workspace.run prepared plugin resource w).2.glimpses.map (·.outlook) =
        [.opening ⟨"disk", "10.0.0.1"⟩, .asking 0 0, .asking 0 1, .asking 0 2, .asking 0 3] := by
  intro plugin resource answer w
  have h := run_eq_story prepared plugin resource w (fun _ h => by cases h)
    (show _ = (answer, []) from rfl) rfl
  rw [h]
  exact ⟨rfl, rfl⟩

end ScanConsole
