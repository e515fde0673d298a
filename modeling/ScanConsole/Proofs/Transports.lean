import ScanConsole.Proofs.Frames
import ScanConsole.Proofs.SameAnswer

/-!
# One run, two transports

What the backend has to say of a run is an `Account`: its lines and results, or
a failure. A reply with everything may tell it (`Http.Reply.Tells`), and an
event stream may carry it (`Http.Reply.Carries`). Either transport answers with
the events of the account, the streaming one perhaps with more behind them:

    synchronous    events
    streaming      events ++ later

and behind the last event of an account nothing is read, since it ends the run.
So a run is the same over both (`SameRun`): move by move, in what it tells, in
the session and in the result. This is `play_always` used twice, once for each
transport. The two worlds may differ in what the transports remember, and in
nothing else.

Neither is a matter of how the console reads: a reply tells the account that it
is written for (`Http.Reply.Writes`), and a stream carries the account whose
events it is framed from (`Http.Reply.Frames`), in any chunks and with anything
else between the events.

A failure is an account too. A whole reply says it in a field of its own or as a
rejection with a message, and a stream as an event; a run fails over both with
the same words.

The statement is about replies that come. When none comes, or one breaks off,
the two are not alike: the synchronous transport has nothing to show then, and
the streaming one may have shown a part.
-/

namespace ScanConsole

/-! ## Accounts

The lines first, and then one event that ends the run. -/

/-- What the backend has to say of a run. -/
inductive Account where
  | completed (logs : List String) (results : List Screen)
  | failed (message : String)
  deriving DecidableEq, Repr

namespace Account

def events : Account → List Event
  | .completed logs results => logs.map Event.status ++ [.complete results]
  | .failed m => [.error m]

def result (session : SessionId) (plugin : Plugin) (resource : Resource) :
    Account → Except Failure Outcome
  | .completed logs results =>
    .ok ⟨session, plugin, resource, results,
      Session.startingLine plugin resource :: logs ++ [Transcript.completionLine]⟩
  | .failed m => .error (.stream (Transcript.errorLine m))

/-- The answer that has just these events. -/
def answer (a : Account) : Answer := .opened (a.events.map Item.event)

end Account

/-! ## Replies

A reply with everything tells its error alone, if it has one. -/

/-- What a reply with everything says: its error alone, if it has one. -/
def WholeReply.account (w : WholeReply) : Account :=
  match w.error with
  | some m => .failed m
  | none => .completed w.logs (w.results.getD [])

theorem WholeReply.events_eq (w : WholeReply) : w.events = w.account.events := by
  unfold events account
  cases w.error <;> rfl

namespace Http.Reply

/-- A reply tells an account: as a success that says everything, or as a rejection with a message. -/
inductive Tells (r : Http.Reply) : Account → Prop
  | accepted {body : String} {w : WholeReply} : r.isSuccess = true → r.text = .ok body →
      Json.decode? WholeReply.decoder body = some w → Tells r w.account
  | rejected {body m : String} : r.isSuccess = false → r.text = .ok body →
      messageInBody? body = some m → Tells r (.failed m)

/-- An event stream carries an account: its events come first among the payloads that are events. -/
def Carries (r : Http.Reply) (a : Account) : Prop :=
  r.isSuccess = true ∧
    ∃ later, (EventStream.payloads r.chunks.flatten).filterMap Event.decode? = a.events ++ later

end Http.Reply

/-- The reply that comes to a request to run a plugin. -/
def Client.replyTo (headers : List (String × String)) (r : ExecutionRequest) (c : Client) :
    Except Failure Http.Reply :=
  (c.send "POST" c.config.executionPath headers (some r.toJson)).1

theorem Client.execute_fst (headers : List (String × String)) (r : ExecutionRequest) (c : Client) :
    (c.execute headers r).1 = accepted (c.replyTo headers r) := by
  simp only [execute, replyTo]

variable {c : Client} {headers : List (String × String)} {request : ExecutionRequest}
  {reply : Http.Reply} {a : Account}

theorem replyTo_of_network {rest : List (Option Http.Reply)}
    (hsend : (c.request "POST" c.config.executionPath headers (some request.toJson)).toOption.any
      Http.Request.isSendable = true)
    (hreach : c.network.reachable = true) (hreplies : c.network.replies = some reply :: rest) :
    c.replyTo headers request = .ok reply := by
  unfold Client.replyTo Client.send
  cases hr : c.request "POST" c.config.executionPath headers (some request.toJson) with
  | error f =>
    rw [hr] at hsend
    cases hsend
  | ok r =>
    rw [hr] at hsend
    have hs : r.isSendable = true := hsend
    simp only [hs, if_true, Http.Network.exchange, hreach, hreplies]
    rfl

/-! ## Answers

Cut off behind the item that ends the run, both answers are that of the
account. -/

theorem wholeAnswer_of_tells (h : reply.Tells a) : wholeAnswer (Client.accepted (.ok reply)) = a.answer := by
  cases h with
  | accepted hsuccess htext hdecode =>
    simp only [Client.accepted, hsuccess, if_true, wholeAnswer, Client.readAs, htext, hdecode,
      WholeReply.events_eq, Account.answer]
  | rejected hsuccess htext hmessage =>
    simp only [Client.accepted, hsuccess, Bool.false_eq_true, if_false, htext, Failure.ofAnswer, hmessage,
      wholeAnswer]
    rfl

theorem synchronous_answer (hreply : c.replyTo [] request = .ok reply) (h : reply.Tells a) :
    (synchronous.connect request c).1 = a.answer := by
  have hexecute : (c.execute [] request).1 = Client.accepted (.ok reply) := by
    rw [Client.execute_fst, hreply]
  simp only [synchronous, hexecute, wholeAnswer_of_tells h]

theorem streaming_answer (hreply : c.replyTo [("accept", "text/event-stream")] request = .ok reply)
    (h : reply.Carries a) :
    ∃ later, (streaming.connect request c).1 = .opened (a.events.map Item.event ++ later) := by
  obtain ⟨hsuccess, later, hevents⟩ := h
  have haccepted : Client.accepted (.ok reply) = .ok reply := by
    simp only [Client.accepted, hsuccess, if_true]
  have hconnect : (streaming.connect request c).1 = .opened (streamItems reply) := by
    have hexecute : (c.execute [("accept", "text/event-stream")] request).1 = .ok reply := by
      rw [Client.execute_fst, hreply, haccepted]
    simp only [streaming, hexecute]
  refine ⟨later.map Item.event ++ if reply.complete then [] else [.failure .http], ?_⟩
  rw [hconnect, streamItems_eq, hevents, List.map_append, List.append_assoc]

theorem cutItems_events (a : Account) (later : List Item) :
    cutItems (a.events.map Item.event ++ later) = a.events.map Item.event := by
  cases a with
  | failed m => rfl
  | completed logs results =>
    induction logs with
    | nil => rfl
    | cons line logs ih => exact congrArg (Item.event (.status line) :: ·) ih

theorem cut_answer (a : Account) : a.answer.cut = a.answer := by
  have h := cutItems_events a []
  rw [List.append_nil] at h
  exact congrArg Answer.opened h

/-! ## What the run gives back

The account says it without the run. -/

namespace Account

theorem story_completed (logs : List String) (results : List Screen) :
    (completed logs results).answer.ending = .completed results ∧
      story false (completed logs results).answer.plain = logs := by
  induction logs with
  | nil => exact ⟨rfl, rfl⟩
  | cons line logs ih => exact ⟨ih.1, congrArg (line :: ·) ih.2⟩

theorem neverSilent_answer (a : Account) : a.answer.neverSilent = true := by
  simp [answer, Answer.neverSilent]

theorem result_answer (a : Account) (session : SessionId) (plugin : Plugin) (resource : Resource) :
    let start := Session.start session plugin resource
    a.answer.ending.result
        (a.answer.ending.close { start with logs := start.logs ++ story false a.answer.plain }) =
      a.result session plugin resource := by
  cases a with
  | failed m => rfl
  | completed logs results =>
    obtain ⟨hending, hstory⟩ := story_completed logs results
    dsimp only
    rw [hending, hstory]
    rfl

end Account

/-! ## Replies as they are written

A stream may hold anything behind the event that ends the run, and it may break
off there. -/

namespace Http.Reply

/-- A reply is written for an account: as a success with everything, or as a rejection with a message. -/
inductive Writes (r : Http.Reply) : Account → Prop
  | accepted (w : WholeReply) : r.isSuccess = true → r.complete = true →
      r.chunks.flatten = Text.Utf8.bytesOf w.toJson.compact → Writes r w.account
  | rejected {name : String} (m : String) : name ∈ ["message", "error"] → r.isSuccess = false →
      r.complete = true →
      r.chunks.flatten = Text.Utf8.bytesOf (Json.Value.object [(name, .string m)]).compact →
      Writes r (.failed m)

/-- A stream is framed for an account: it has the events of the account, in order, and anything else that is no
event. Behind the last event anything may come. -/
def Frames (r : Http.Reply) (a : Account) : Prop :=
  r.isSuccess = true ∧ ∃ (frames : List EventStream.Frame) (rest : List UInt8),
    (∀ f ∈ frames, f.Sound) ∧ frames.filterMap EventStream.Frame.event? = a.events ∧
      r.chunks.flatten = EventStream.blockBytes (frames.map EventStream.Frame.lines) ++ rest

end Http.Reply

theorem text_written {fields : List (String × Json.Value)} (hcomplete : reply.complete = true)
    (hbody : reply.chunks.flatten = Text.Utf8.bytesOf (Json.Value.object fields).compact) :
    reply.text = .ok (Json.Value.object fields).compact := by
  simp only [Http.Reply.text, hcomplete, if_true, hbody, Text.Utf8.bytesOf,
    Text.Utf8.decodeLossy_encode, Json.Value.compact, String.toList_ofList]
  rfl

theorem messageInBody?_compact {name : String} (h : name ∈ ["message", "error"]) (m : String) :
    messageInBody? (Json.Value.object [(name, .string m)]).compact = some m := by
  have hread : Json.Value.read? (Json.Value.object [(name, .string m)]).compact =
      some (.object [(name, .string m)]) := by
    rw [Json.Value.read?, Json.Document.read?_compact _ rfl]
    rfl
  simp only [messageInBody?, hread]
  rcases List.mem_pair.mp h with rfl | rfl <;> rfl

theorem Http.Reply.Writes.tells (h : reply.Writes a) : reply.Tells a := by
  cases h with
  | accepted w hsuccess hcomplete hbody =>
    exact .accepted hsuccess (text_written hcomplete hbody) w.decode?_compact
  | rejected m hname hsuccess hcomplete hbody =>
    exact .rejected hsuccess (text_written hcomplete hbody) (messageInBody?_compact hname m)

theorem Http.Reply.Frames.carries (h : reply.Frames a) : reply.Carries a := by
  obtain ⟨hsuccess, frames, rest, hsound, hevents, hbody⟩ := h
  refine ⟨hsuccess, (EventStream.payloads rest).filterMap Event.decode?, ?_⟩
  rw [hbody, EventStream.events_frames hsound, hevents]

/-! ## The same run

Put together from the two answers. -/

/-- A run is the same in two worlds, one with each transport: move by move they agree in all but the memory of
the transports, and so they do in the end, when both runs give back the same result. -/
structure SameRun (plugin : Plugin) (resource : Resource) (w₁ w₂ : World Client)
    (result : Except Failure Outcome) : Prop where
  moves : ∀ (handle : String) (n : Nat),
    let turns : List Turn := .begin handle (.run plugin resource) :: List.replicate n (.move 0)
    let ws₁ := Workspace.play synchronous ⟨w₁, []⟩ turns
    let ws₂ := Workspace.play streaming ⟨w₂, []⟩ turns
    ws₁.world.unlinked = ws₂.world.unlinked ∧ ws₁.tasks.map Task.result? = ws₂.tasks.map Task.result?
  worlds : (Workspace.run synchronous plugin resource w₁).2.unlinked =
    (Workspace.run streaming plugin resource w₂).2.unlinked
  synchronous : (Workspace.run synchronous plugin resource w₁).1 = some (result.map .outcome)
  streaming : (Workspace.run streaming plugin resource w₂).1 = some (result.map .outcome)

/-- A run is the same over both transports, if the synchronous one gets a reply that tells an account and the
streaming one a stream that carries it: both runs give back what the account says. Replies that are written for
an account tell it, and streams that are framed for it carry it. -/
theorem same_over_both (plugin : Plugin) (resource : Resource) (a : Account) :
    (∀ r : Http.Reply, r.Writes a → r.Tells a) ∧ (∀ r : Http.Reply, r.Frames a → r.Carries a) ∧
      ∀ (w₁ w₂ : World Client) (whole streamed : Http.Reply), w₁.unlinked = w₂.unlinked →
        w₁.link.replyTo [] ⟨plugin.name, resource.address⟩ = .ok whole → whole.Tells a →
        w₂.link.replyTo [("accept", "text/event-stream")] ⟨plugin.name, resource.address⟩ = .ok streamed →
        streamed.Carries a →
        SameRun plugin resource w₁ w₂ (a.result ⟨w₁.nextSession⟩ plugin resource) := by
  refine ⟨fun _ h => h.tells, fun _ h => h.carries, ?_⟩
  intro w₁ w₂ whole streamed hw hwhole htells hstreamed hcarries
  have hanswer₁ := synchronous_answer hwhole htells
  have hcut₁ : (synchronous.connect ⟨plugin.name, resource.address⟩ w₁.link).1.cut = a.answer := by
    rw [hanswer₁, cut_answer]
  have hcut₂ : (streaming.connect ⟨plugin.name, resource.address⟩ w₂.link).1.cut = a.answer := by
    obtain ⟨later, hanswer₂⟩ := streaming_answer hstreamed hcarries
    rw [hanswer₂]
    exact congrArg Answer.opened (cutItems_events a later)
  have hrun₁ := run_always hcut₁
  have hrun₂ := run_always hcut₂
  rw [← hw] at hrun₂
  have hresult := run_result synchronous plugin resource w₁ (by
    rw [hanswer₁]
    exact a.neverSilent_answer)
  dsimp only at hresult
  rw [hanswer₁, a.result_answer] at hresult
  exact
    { moves := fun handle n => by
        have hplay₁ := play_always hcut₁ handle n
        have hplay₂ := play_always hcut₂ handle n
        rw [← hw] at hplay₂
        exact ⟨hplay₁.1.trans hplay₂.1.symm, hplay₁.2.trans hplay₂.2.symm⟩
      worlds := hrun₁.2.trans hrun₂.2.symm
      synchronous := hresult
      streaming := hrun₂.1.trans (hrun₁.1.symm.trans hresult) }

/-- A reply with everything against a stream with a comment, other fields, a payload that is no event and an
event left unfinished; and a rejection against a stream with an error. All bodies come a byte a chunk. -/
theorem same_over_both_of_disk :
    let plugin : Plugin := ⟨⟨"1"⟩, "disk", "", none⟩
    let resource : Resource := ⟨"10.0.0.1", "web", none, none, .synthetic 80⟩
    let screen : Screen := ⟨"disk", .table [["/", "40%"]]⟩
    let reply (status : Nat) (body : List UInt8) : Http.Reply :=
      { status := status, chunks := body.map fun b => [b] }
    let world (r : Http.Reply) : World Client :=
      { clock := ⟨0⟩
        link := { config := { baseUrl := "http://[::1]" }, network := { replies := [some r] } } }
    let whole := reply 200 (Text.Utf8.bytesOf (WholeReply.toJson ⟨some [screen], ["ran df"], none⟩).compact)
    let frames : List EventStream.Frame :=
      [.other [": ping".toList], .event ["id: 4".toList] (.status "ran df") ["retry: 9\r".toList],
        .other ["data: soon".toList], .event [] (.complete [screen]) []]
    let streamed := reply 200
      (EventStream.blockBytes (frames.map EventStream.Frame.lines) ++ Text.Utf8.bytesOf "data: left\n")
    let rejected := reply 404 (Text.Utf8.bytesOf (Json.Value.object [("error", .string "no host")]).compact)
    let failed := reply 200
      (EventStream.blockBytes [EventStream.Frame.lines (.event [] (.error "no host") [])] ++ [])
    SameRun plugin resource (world whole) (world streamed)
        (.ok ⟨⟨1⟩, plugin, resource, [screen],
          ["Starting execution of disk on web...", "ran df", "\nExecution completed successfully!"]⟩) ∧
      SameRun plugin resource (world rejected) (world failed) (.error (.stream "ERROR: no host")) := by
  intro plugin resource screen reply world whole frames streamed rejected failed
  have hflatten (status : Nat) (body : List UInt8) : (reply status body).chunks.flatten = body :=
    (List.flatMap_def ..).symm.trans (List.flatMap_singleton' body)
  have hreply (r : Http.Reply) (headers : List (String × String))
      (h : headers ∈ [[], [("accept", "text/event-stream")]]) :
      (world r).link.replyTo headers ⟨plugin.name, resource.address⟩ = .ok r := by
    refine replyTo_of_network ?_ rfl rfl
    have hrequest : (world r).link.request = Client.request { config := { baseUrl := "http://[::1]" } } := rfl
    have hpath : (world r).link.config.executionPath = "/api/plugin_result/" := rfl
    rw [hrequest, hpath]
    rcases List.mem_pair.mp h with rfl | rfl <;> decide +kernel
  have hwhole : whole.Writes (.completed ["ran df"] [screen]) :=
    .accepted ⟨some [screen], ["ran df"], none⟩ rfl rfl (hflatten 200 _)
  have hrejected : rejected.Writes (.failed "no host") :=
    .rejected "no host" (by decide) rfl rfl (hflatten 404 _)
  have hstreamed : streamed.Frames (.completed ["ran df"] [screen]) := by
    refine ⟨rfl, frames, _, ?_, rfl, hflatten 200 _⟩
    intro f hf
    simp only [frames, List.mem_cons, List.not_mem_nil, or_false] at hf
    have hnone : ∀ line ∈ ([] : List (List Char)), EventStream.IsLine line ∧ EventStream.IsIdle line :=
      fun _ h => absurd h List.not_mem_nil
    rcases hf with rfl | rfl | rfl | rfl
    · exact .other (List.forall_mem_singleton.mpr ⟨by decide, by decide⟩) rfl
    · have hid : EventStream.IsIdle ("id".toList ++ ':' :: " 4".toList) :=
        .field _ (by decide) (by decide)
      have hretry : EventStream.IsIdle ("retry".toList ++ ':' :: " 9\r".toList) :=
        .field _ (by decide) (by decide)
      exact .event (fun _ _ h => by cases h) (List.forall_mem_singleton.mpr ⟨⟨by decide, by decide⟩, hid⟩)
        (List.forall_mem_singleton.mpr ⟨⟨by decide, by decide⟩, hretry⟩)
    · exact .other (List.forall_mem_singleton.mpr ⟨by decide, by decide⟩) (by decide +kernel)
    · exact .event (fun _ _ h => by cases h) hnone hnone
  have hfailed : failed.Frames (.failed "no host") := by
    refine ⟨rfl, [.event [] (.error "no host") []], [], ?_, rfl, hflatten 200 _⟩
    intro f hf
    rw [List.mem_singleton.mp hf]
    exact .event (fun _ _ h => by cases h) (fun _ h => absurd h List.not_mem_nil) fun _ h =>
      absurd h List.not_mem_nil
  clear_value whole streamed rejected failed
  have hcompleted := same_over_both plugin resource (.completed ["ran df"] [screen])
  have hlost := same_over_both plugin resource (.failed "no host")
  exact ⟨hcompleted.2.2 _ _ whole streamed rfl (hreply whole [] (by decide)) (hcompleted.1 whole hwhole)
      (hreply streamed _ (by decide)) (hcompleted.2.1 streamed hstreamed),
    hlost.2.2 _ _ rejected failed rfl (hreply rejected [] (by decide)) (hlost.1 rejected hrejected)
      (hreply failed _ (by decide)) (hlost.2.1 failed hfailed)⟩

end ScanConsole
