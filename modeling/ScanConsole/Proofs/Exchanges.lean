import Mathlib.Data.List.Basic
import ScanConsole.Console.Resources

/-!
# What a client and its backend exchange

An `Http.Exchange` is a request that has arrived together with the answer to it,
if one came. The exchanges between two states of a network
(`Http.Network.exchanges`) are read off the requests in the one and the answers
that were still to come in the other; they say everything that has happened in
between (`Http.Network.Follows`).

A request of the client makes one exchange if it arrives and none otherwise
(`Client.exchange?`), and what the client takes for its reply is the answer in
it (`Client.Takes`). Both are in one lemma, which all later proofs about the
sections of the console cite in place of the client:

    send_spec     the network follows by the exchange that there is to make, the
                  rest of the client is as before, and the reply is the answer

So what an operation does is said by cases of an answer: a reply with its status
and body, or none.

An answer stands for what the HTTP client hands back. Why an answer failed to
come (no connection, a reply broken off, a timeout) is not told apart, since the
console does not tell it apart either.
-/

namespace ScanConsole

open Json (Decoder)

/-! ## Requests and what comes of them

What is told apart of an answer is its status and what can be read of its body:
the value that is asked for, or the words of the backend in a rejection. -/

/-- The words of the backend, or a text of the console's own where they are absent or empty. -/
def wordsOr (fallback : String) : Option String → String
  | some m => if m == "" then fallback else m
  | none => fallback

theorem Failure.userMessage_eq (f : Failure) (fallback : String) :
    f.userMessage fallback = wordsOr fallback f.serverMessage? := rfl

namespace Http

/-- A request that has arrived, and the answer to it. -/
structure Exchange where
  request : Request
  answer : Option Reply
  deriving DecidableEq, Repr

/-- A reply with a text as its body. -/
def Reply.ofText (status : Nat) (body : String) : Reply :=
  { status := status, chunks := [Text.Utf8.bytesOf body] }

/-- What is decoded of a reply that is a success. -/
def Reply.read? {α : Type} (decode : Decoder α) (r : Reply) : Option α :=
  if r.isSuccess then r.text.toOption.bind (Json.decode? decode) else none

/-- The words of the backend in a reply that is no success: the text under `message` in its body, or else that
under `error`. -/
def Reply.words? (r : Reply) : Option String :=
  if r.isSuccess then none
  else
    (r.text.toOption.bind Json.Value.read?).bind fun v =>
      match (v.field? "message").bind Json.Value.text? with
      | some m => some m
      | none => (v.field? "error").bind Json.Value.text?

theorem Reply.words?_of_text {r : Reply} (h : r.isSuccess = false) :
    r.words? = messageInBody? (r.text.toOption.getD "") := by
  have hempty : Json.Value.read? "" = none := rfl
  unfold words? messageInBody?
  rw [h]
  cases r.text with
  | error f => simp [Except.toOption, hempty]
  | ok body =>
    simp only [Bool.false_eq_true, if_false, Except.toOption, Option.bind_some, Option.getD_some]
    cases Json.Value.read? body with
    | none => rfl
    | some v =>
      simp only [Option.bind_some, Option.bind_eq_bind, List.findSome?_cons, List.findSome?_nil]
      cases (v.field? "message").bind Json.Value.text? with
      | some m => rfl
      | none => cases (v.field? "error").bind Json.Value.text? <;> rfl

def Exchange.read? {α : Type} (decode : Decoder α) (e : Exchange) : Option α :=
  e.answer.bind (Reply.read? decode)

/-- The request is one with this method, for this path of the backend. -/
def Request.isFor (config : Config) (method path : String) (r : Request) : Bool :=
  r.method == method && (config.endpoint path).toOption == some r.url

theorem Request.method_of_isFor {config : Config} {method path : String} {r : Request}
    (h : r.isFor config method path = true) : r.method = method := by
  rw [isFor, Bool.and_eq_true] at h
  exact eq_of_beq h.1

namespace Network

/-- The requests that have arrived since, each with its answer. -/
def exchanges (n n' : Network) : List Exchange :=
  (n'.sent.drop n.sent.length).mapIdx fun i r => ⟨r, (n.replies[i]?).join⟩

/-- By these exchanges the one network becomes the other. -/
structure Follows (n : Network) (es : List Exchange) (n' : Network) : Prop where
  reachable : n'.reachable = n.reachable
  sent : n'.sent = n.sent ++ es.map Exchange.request
  replies : n'.replies = n.replies.drop es.length
  answers : (es.map Exchange.request).mapIdx (fun i r => ⟨r, (n.replies[i]?).join⟩) = es

variable {n n' n'' : Network} {es es' : List Exchange}

theorem Follows.exchanges_eq (h : n.Follows es n') : n.exchanges n' = es := by
  rw [exchanges, h.sent, List.drop_left, h.answers]

theorem Follows.refl (n : Network) : n.Follows [] n :=
  ⟨rfl, (List.append_nil _).symm, rfl, rfl⟩

theorem Follows.trans (h : n.Follows es n') (h' : n'.Follows es' n'') : n.Follows (es ++ es') n'' where
  reachable := h'.reachable.trans h.reachable
  sent := by rw [h'.sent, h.sent, List.map_append, List.append_assoc]
  replies := by rw [h'.replies, h.replies, List.drop_drop, List.length_append]
  answers := by
    have hlater := h'.answers
    simp only [h.replies, List.getElem?_drop] at hlater
    simp only [List.map_append, List.mapIdx_append, h.answers, List.length_map, Nat.add_comm _ es.length,
      hlater]

theorem follows_exchange (r : Request) (h : n.reachable = true) :
    n.Follows [⟨r, n.replies.head?.join⟩] (n.exchange r).2 := by
  unfold exchange
  rw [h]
  cases hreplies : n.replies with
  | nil => constructor <;> simp [hreplies, h]
  | cons answer rest => cases answer <;> constructor <;> simp [hreplies, h]

end Network

end Http

namespace Client

variable {c : Client} {method path : String} {headers : List (String × String)}
  {body : Option Json.Value} {r : Http.Request} {answer : Option Http.Reply}
  {reply : Except Failure Http.Reply}

/-- The request as it arrives, unless it cannot be sent or nothing arrives at all. -/
def delivered? (c : Client) (method path : String) (headers : List (String × String))
    (body : Option Json.Value) : Option Http.Request :=
  (c.request method path headers body).toOption.filter fun r => r.isSendable && c.network.reachable

/-- The exchange that a request comes to, if it arrives. -/
def exchange? (c : Client) (method path : String) (headers : List (String × String))
    (body : Option Json.Value) : Option Http.Exchange :=
  (c.delivered? method path headers body).map fun r => ⟨r, c.network.replies.head?.join⟩

/-- The answer to a request, if one comes. -/
def answer? (c : Client) (method path : String) (headers : List (String × String))
    (body : Option Json.Value) : Option Http.Reply :=
  (c.exchange? method path headers body).bind Http.Exchange.answer

/-- What the client takes for the reply: the answer, and without one a failure of which the backend has said
nothing. -/
def Takes (answer : Option Http.Reply) (reply : Except Failure Http.Reply) : Prop :=
  match answer with
  | some r => reply = .ok r
  | none => ∃ f : Failure, f.serverMessage? = none ∧ reply = .error f

theorem delivered?_eq_some : c.delivered? method path headers body = some r ↔
    c.request method path headers body = .ok r ∧ r.isSendable = true ∧ c.network.reachable = true := by
  rw [delivered?, Option.filter_eq_some_iff, Bool.and_eq_true]
  cases c.request method path headers body <;> simp [Except.toOption]

theorem isFor_of_delivered (h : c.delivered? method path headers body = some r) :
    r.isFor c.config method path = true := by
  have hr := (delivered?_eq_some.mp h).1
  unfold request at hr
  split at hr
  · cases hr
  · next url hurl =>
    obtain rfl := Except.ok.inj hr
    simp [Http.Request.isFor, hurl, Except.toOption]

theorem isFor_of_exchange {e : Http.Exchange} (h : e ∈ c.exchange? method path headers body) :
    e.request.isFor c.config method path = true := by
  obtain ⟨r, hr, rfl⟩ := Option.map_eq_some_iff.mp h
  exact isFor_of_delivered hr

theorem request_of_exchange {e : Http.Exchange} (h : e ∈ c.exchange? method path headers body) :
    c.request method path headers body = .ok e.request := by
  obtain ⟨r, hr, rfl⟩ := Option.map_eq_some_iff.mp h
  exact (delivered?_eq_some.mp hr).1

theorem delivered?_withNetwork {n : Http.Network} (h : n.reachable = c.network.reachable) :
    Client.delivered? { c with network := n } method path headers body =
      c.delivered? method path headers body := by
  rw [delivered?, delivered?, h]
  rfl

theorem takes_exchange {n : Http.Network} (r : Http.Request) (h : n.reachable = true) :
    Takes n.replies.head?.join (n.exchange r).1 := by
  unfold Http.Network.exchange
  rw [h]
  cases hreplies : n.replies with
  | nil => exact ⟨.http, rfl, rfl⟩
  | cons answer rest =>
    cases answer with
    | none => exact ⟨.http, rfl, rfl⟩
    | some reply => rfl

/-- Sending makes the exchange that there is to make, and gives the answer in it. -/
theorem send_spec (c : Client) (method path : String) (headers : List (String × String))
    (body : Option Json.Value) :
    ∃ reply n, Takes (c.answer? method path headers body) reply ∧
      c.network.Follows (c.exchange? method path headers body).toList n ∧
      c.send method path headers body = (reply, { c with network := n }) := by
  unfold answer? exchange? send
  cases hd : c.delivered? method path headers body with
  | some r =>
    obtain ⟨hr, hsend, hreach⟩ := delivered?_eq_some.mp hd
    refine ⟨_, _, takes_exchange r hreach, Http.Network.follows_exchange r hreach, ?_⟩
    rw [hr]
    simp only [hsend, if_true]
  | none =>
    have hlost : Takes none (.error .http) := ⟨.http, rfl, rfl⟩
    cases hr : c.request method path headers body with
    | error f =>
      refine ⟨.error f, c.network, ⟨f, ?_, rfl⟩, .refl _, rfl⟩
      unfold request at hr
      split at hr <;> cases hr
      rfl
    | ok r =>
      refine ⟨.error .http, c.network, hlost, .refl _, ?_⟩
      cases hsend : r.isSendable with
      | false => simp [hsend]
      | true =>
        have hreach : c.network.reachable = false := by
          rw [Bool.eq_false_iff]
          intro hreach
          rw [delivered?_eq_some.mpr ⟨hr, hsend, hreach⟩] at hd
          cases hd
        simp [hsend, Http.Network.exchange, hreach]

theorem accepted_of_takes (h : Takes answer reply) :
    (∃ r, answer = some r ∧ r.isSuccess = true ∧ accepted reply = .ok r) ∨
      (answer.any Http.Reply.isSuccess = false ∧ ∃ f, accepted reply = .error f ∧
        f.serverMessage? = answer.bind Http.Reply.words?) := by
  cases answer with
  | none =>
    obtain ⟨f, hf, rfl⟩ := h
    exact .inr ⟨rfl, f, rfl, hf⟩
  | some r =>
    obtain rfl := h
    cases hsuccess : r.isSuccess with
    | true => exact .inl ⟨r, rfl, hsuccess, by simp [accepted, hsuccess]⟩
    | false =>
      refine .inr ⟨hsuccess, ?_⟩
      simp only [accepted, hsuccess, Bool.false_eq_true, if_false, Option.bind_some,
        Http.Reply.words?_of_text hsuccess]
      cases r.text <;> exact ⟨_, rfl, rfl⟩

theorem readAs_of_takes {α : Type} (decode : Decoder α) (h : Takes answer reply) :
    (∃ a, answer.bind (Http.Reply.read? decode) = some a ∧ readAs decode (accepted reply) = .ok a) ∨
      (answer.bind (Http.Reply.read? decode) = none ∧ ∃ f, readAs decode (accepted reply) = .error f ∧
        f.serverMessage? = answer.bind Http.Reply.words?) := by
  rcases accepted_of_takes h with ⟨r, rfl, hsuccess, haccepted⟩ | ⟨hno, f, haccepted, hwords⟩
  · simp only [haccepted, readAs, Option.bind_some, Http.Reply.read?, Http.Reply.words?, hsuccess, if_true]
    cases htext : r.text with
    | error f =>
      refine .inr ⟨rfl, f, rfl, ?_⟩
      unfold Http.Reply.text at htext
      split at htext <;> cases htext
      rfl
    | ok body =>
      simp only [Except.toOption, Option.bind_some]
      cases Json.decode? decode body with
      | none => exact .inr ⟨rfl, _, rfl, rfl⟩
      | some a => exact .inl ⟨a, rfl, rfl⟩
  · refine .inr ⟨?_, f, by rw [haccepted, readAs], hwords⟩
    cases answer with
    | none => rfl
    | some r =>
      have hsuccess : r.isSuccess = false := hno
      simp [Http.Reply.read?, hsuccess]

end Client

namespace World

/-- What was exchanged with the backend on the way from the one world to the other. -/
def exchanges (w w' : World Client) : List Http.Exchange := w.link.network.exchanges w'.link.network

def withNetwork (n : Http.Network) (w : World Client) : World Client :=
  { w with link := { w.link with network := n } }

theorem exchanges_of_link {w w' : World Client} (h : w'.link = w.link) : w.exchanges w' = [] := by
  rw [exchanges, h]
  exact (Http.Network.Follows.refl _).exchanges_eq

theorem link_viaClient {α : Type} (f : Client → α × Client) (w : World Client) :
    (w.viaClient f).2.link = (f w.link).2 := rfl

theorem viaClient_call {α : Type} (decode : Decoder α) (method path : String)
    (body : Option Json.Value) (w : World Client) :
    ∃ reply n, Client.Takes (w.link.answer? method path [] body) reply ∧
      w.link.network.Follows (w.link.exchange? method path [] body).toList n ∧
      w.viaClient (Client.call decode method path body) =
        (Client.readAs decode (Client.accepted reply), w.withNetwork n) := by
  obtain ⟨reply, n, htakes, hn, h⟩ := w.link.send_spec method path [] body
  refine ⟨reply, n, htakes, hn, ?_⟩
  simp only [viaClient, Client.call, h, withNetwork]

end World

end ScanConsole
