import ScanConsole.Proofs.Links
import ScanConsole.Proofs.PluginRequests
import ScanConsole.Proofs.ResourceList

/-!
# The token in the requests

Whatever the console does, a request that it sends carries the token that the
client holds, in the header of the configuration, if and only if the request
changes something (`Client.Signs`):

    headers of the request = c.signature method ++ plain

where the signature is the header with the token for the three methods that
change something, and empty for the others or without a token. What else stands
in a request is plain: it wants a stream, or it has a body (`isPlainHeader`). So
nothing else is ever put into the header of the token, unless the configuration
gives it the name of one of these two. The last part of
`token_goes_with_requests`, which reads the header back by its name, leaves out
such names; the equation above does not.

## One operation and several

The token is held from one operation to the next, and only two things give
another: it is set, or a page is read to its end (`Operation.given?`). An
operation makes its requests under the token from before it (`Client.Signed`).
Where a page is read and then other things are asked for, the token may change
in between, but requests that only ask are signed by every client, since no
token goes with them (`Client.Asks`).

Work that leaves the token alone is `Client.Kept`, which is reflexive and
transitive. It is enough to know it of one request, and for executions of the
request for the channel: what else goes on there does not reach the client
(`Transport.Keeps`).

Nothing is assumed of the backend or of the configuration. A reply that breaks
off gives no token, whatever was read of it; a page with the status of an error
gives one.
-/

namespace ScanConsole

/-- A header that a request has for its own sake: it wants a stream, or it has a body. -/
def isPlainHeader (h : String × String) : Prop :=
  h = ("accept", "text/event-stream") ∨ h = ("content-type", "application/json")

/-- The values of a header in a request; names are compared without case. -/
def Http.Request.values (r : Http.Request) (name : String) : List String :=
  (r.headers.filter fun h => h.1.toLower == name.toLower).map (·.2)

namespace Client

variable {c c' c'' : Client} {method path : String} {headers : List (String × String)}
  {body : Option Json.Value} {r : Http.Request}

/-- The header of the token in a request with this method. -/
def signature (c : Client) (method : String) : List (String × String) :=
  match c.token with
  | some t => if method ∈ ["POST", "PUT", "DELETE"] then [(c.config.csrfHeader, t.text)] else []
  | none => []

/-- The request carries the token that the client holds, if it changes something, and none otherwise. -/
def Signs (c : Client) (r : Http.Request) : Prop :=
  ∃ plain, r.headers = c.signature r.method ++ plain ∧ ∀ h ∈ plain, isPlainHeader h

theorem tokenHeaders_eq (c : Client) (method : String) : c.tokenHeaders method = c.signature method := by
  unfold tokenHeaders signature Http.isMutating
  cases c.token with
  | none => rfl
  | some t => simp only [List.contains_iff_mem]

theorem Signs.congr (h : c.Signs r) (hconfig : c'.config = c.config) (htoken : c'.token = c.token) :
    c'.Signs r := by
  obtain ⟨plain, hheaders, hplain⟩ := h
  refine ⟨plain, ?_, hplain⟩
  rw [hheaders, signature, signature, hconfig, htoken]

theorem isPlainHeader_of_bodyHeaders {given : List (String × String)} :
    ∀ h ∈ bodyHeaders given body, isPlainHeader h := by
  intro h hh
  cases body with
  | none => cases hh
  | some v =>
    unfold bodyHeaders at hh
    dsimp only at hh
    split at hh
    · cases hh
    · exact .inr (List.mem_singleton.mp hh)

theorem signs_of_exchange (hheaders : ∀ h ∈ headers, isPlainHeader h) {e : Http.Exchange}
    (h : e ∈ c.exchange? method path headers body) : c.Signs e.request := by
  have hr := request_of_exchange h
  unfold request at hr
  split at hr
  · cases hr
  · rw [← Except.ok.inj hr]
    refine ⟨headers ++ bodyHeaders (c.tokenHeaders method ++ headers) body, ?_, ?_⟩
    · rw [← tokenHeaders_eq, ← List.append_assoc]
    · intro h hh
      rcases List.mem_append.mp hh with hh | hh
      · exact hheaders h hh
      · exact isPlainHeader_of_bodyHeaders h hh

theorem signs_of_get {e : Http.Exchange} (h : e ∈ c.exchange? "GET" path [] none) (c' : Client) :
    c'.Signs e.request := by
  have hr := request_of_exchange h
  unfold request at hr
  split at hr
  · cases hr
  · rw [← Except.ok.inj hr]
    refine ⟨[], ?_, List.forall_mem_nil _⟩
    rw [tokenHeaders_eq]
    unfold signature bodyHeaders
    cases c.token <;> cases c'.token <;> rfl

theorem Signs.values (h : c.Signs r) (hname : c.config.csrfHeader.toLower ∉ ["accept", "content-type"]) :
    r.values c.config.csrfHeader = (c.signature r.method).map Prod.snd := by
  obtain ⟨plain, hheaders, hplain⟩ := h
  have hother : plain.filter (fun h => h.1.toLower == c.config.csrfHeader.toLower) = [] := by
    rw [List.filter_eq_nil_iff]
    intro h hh heq
    have hlower := eq_of_beq heq
    refine hname ?_
    rcases hplain h hh with rfl | rfl
    · rw [← hlower]
      decide +kernel
    · rw [← hlower]
      decide +kernel
  have hown : (c.signature r.method).filter (fun h => h.1.toLower == c.config.csrfHeader.toLower) =
      c.signature r.method := by
    rw [List.filter_eq_self]
    intro h hh
    unfold signature at hh
    split at hh
    · split at hh
      · rw [List.mem_singleton.mp hh]
        exact beq_self_eq_true _
      · cases hh
    · cases hh
  rw [Http.Request.values, hheaders, List.filter_append, hother, hown, List.append_nil]

/-! ## Work under one token

A request, if it arrives, is signed. -/

/-- Work in which every request was signed with the token from before. -/
structure Signed (c c' : Client) : Prop where
  config : c'.config = c.config
  network : ∃ es, c.network.Follows es c'.network ∧ ∀ e ∈ es, c.Signs e.request

/-- Work that leaves the token alone. -/
structure Kept (c c' : Client) : Prop where
  signed : c.Signed c'
  token : c'.token = c.token

theorem Kept.refl (c : Client) : c.Kept c := ⟨⟨rfl, [], .refl _, List.forall_mem_nil _⟩, rfl⟩

theorem Kept.trans (h : c.Kept c') (h' : c'.Kept c'') : c.Kept c'' := by
  obtain ⟨⟨hconfig, es, hes, hsigns⟩, htoken⟩ := h
  obtain ⟨⟨hconfig', es', hes', hsigns'⟩, htoken'⟩ := h'
  refine ⟨⟨hconfig'.trans hconfig, es ++ es', hes.trans hes', ?_⟩, htoken'.trans htoken⟩
  intro e he
  rcases List.mem_append.mp he with he | he
  · exact hsigns e he
  · exact (hsigns' e he).congr hconfig.symm htoken.symm

theorem kept_withNetwork {n : Http.Network} (hheaders : ∀ h ∈ headers, isPlainHeader h)
    (hn : c.network.Follows (c.exchange? method path headers body).toList n) :
    c.Kept { c with network := n } :=
  ⟨⟨rfl, _, hn, fun _ he => signs_of_exchange hheaders (Option.mem_toList.mp he)⟩, rfl⟩

theorem kept_plain {n : Http.Network} (hn : c.network.Follows (c.exchange? method path [] body).toList n) :
    c.Kept { c with network := n } := kept_withNetwork (List.forall_mem_nil _) hn

theorem kept_execute (request : ExecutionRequest) (hheaders : ∀ h ∈ headers, isPlainHeader h) :
    c.Kept (c.execute headers request).2 := by
  obtain ⟨reply, n, -, hn, h⟩ := c.send_spec "POST" c.config.executionPath headers (some request.toJson)
  rw [execute, h]
  exact kept_withNetwork hheaders hn

end Client

/-! ## Executions

Both transports make one request, for the channel. Only the streaming one says
that it wants a stream. -/

theorem streaming_keeps : streaming.Keeps Client.Kept where
  refl := Client.Kept.refl
  trans := Client.Kept.trans
  connect := by
    intro request c
    have haccept : ∀ h ∈ [("accept", "text/event-stream")], isPlainHeader h :=
      List.forall_mem_singleton.mpr (.inl rfl)
    have hexecute := c.kept_execute request haccept
    unfold streaming
    dsimp only
    generalize c.execute [("accept", "text/event-stream")] request = executed at hexecute ⊢
    obtain ⟨reply, c'⟩ := executed
    cases reply <;> exact hexecute

theorem synchronous_keeps : synchronous.Keeps Client.Kept where
  refl := Client.Kept.refl
  trans := Client.Kept.trans
  connect request c := c.kept_execute request (List.forall_mem_nil _)

theorem TransportKind.keeps (kind : TransportKind) : kind.transport.Keeps Client.Kept := by
  cases kind with
  | streaming => exact streaming_keeps
  | synchronous => exact synchronous_keeps

/-! ## The sections

One lemma for each operation, from the request that it attempts. -/

namespace World

variable (w : World Client)

theorem kept_call {n : Http.Network} (a : BackendCall)
    (hn : w.link.network.Follows (a.exchange? w.link).toList n) : w.link.Kept (w.withNetwork n).link :=
  Client.kept_plain hn

theorem kept_listResources : w.link.Kept w.listResources.2.link := by
  obtain ⟨n, hn, hspec⟩ := w.listResources_spec
  split at hspec
  · rw [hspec]
    exact Client.kept_plain hn
  · obtain ⟨f, hspec⟩ := hspec
    rw [hspec]
    exact Client.kept_plain hn

theorem kept_changeResources (path : String) (body : Json.Value) (success unexpected failed : String) :
    w.link.Kept (w.changeResources path body success unexpected failed).2.link := by
  obtain ⟨n, hn, hspec⟩ := w.changeResources_spec path body success unexpected failed
  have hchange : w.link.Kept { w.link with network := n } := Client.kept_plain hn
  split at hspec
  · have hlist := kept_listResources ((w.withNetwork n).dispatch (.resourceNotice (.success success)))
    rw [hspec]
    exact hchange.trans hlist
  · rw [hspec]
    exact hchange

theorem kept_enroll (e : Enrollment) : w.link.Kept (w.enroll e).2.link := by
  have hchange := w.kept_changeResources "/api/resources/" e.toJson ResourceSection.saved
    ResourceSection.unexpected ResourceSection.saveFailed
  rw [enroll_eq]
  split <;> next hchanged =>
    rw [hchanged] at hchange
    exact hchange

theorem kept_listPlugins : w.link.Kept w.listPlugins.2.link := by
  obtain ⟨n, hn, hspec⟩ := w.listPlugins_spec
  have hkept := w.kept_call .plugins hn
  split at hspec
  · rw [hspec]
    exact hkept
  · obtain ⟨f, hspec⟩ := hspec
    rw [hspec]
    exact hkept

theorem kept_updatePlugin (id : PluginId) (d : Plugin.Draft) : w.link.Kept (w.updatePlugin id d).2.link := by
  obtain ⟨n, hn, hspec⟩ := w.updatePlugin_spec id d
  have hkept := w.kept_call (.update id d) hn
  rw [hspec]
  split
  · cases w.state.plugins.plugin? id <;> exact hkept
  · exact hkept

theorem kept_createPlugin (d : Plugin.Draft) : w.link.Kept (w.createPlugin d).2.link := by
  obtain ⟨n, hn, hspec⟩ := w.createPlugin_spec d
  have hkept := w.kept_call (.create d) hn
  rw [hspec]
  split <;> exact hkept

theorem kept_sendForm (form : PluginForm) : w.link.Kept (w.sendForm form).2.link := by
  unfold sendForm
  cases form.editing with
  | some id => exact w.kept_updatePlugin id form.draft
  | none => exact w.kept_createPlugin form.draft

theorem kept_savePlugin : w.link.Kept w.savePlugin.2.link := by
  rcases w.savePlugin_cases with ⟨-, -, hsave⟩ | ⟨form, -, -, -, hsave⟩ | ⟨form, -, -, -, hsave⟩
  · rw [hsave]
    exact .refl _
  · rw [hsave]
    exact .refl _
  · have hsend := (w.dispatch (.pluginSaving true)).kept_sendForm form
    rw [hsave]
    exact hsend

theorem kept_deletePlugin (id : PluginId) (agrees : Plugin → Bool) :
    w.link.Kept (w.deletePlugin id agrees).2.2.link := by
  rcases w.deletePlugin_cases id agrees with ⟨-, hdelete⟩ | ⟨-, n, hn, hdelete⟩
  · rw [hdelete]
    exact .refl _
  · have hkept := w.kept_call (.delete id) hn
    rw [hdelete]
    split <;> exact hkept

end World

theorem ResourceOperation.kept_perform (w : World Client) (op : ResourceOperation) :
    w.link.Kept (op.perform w).link := by
  unfold perform
  cases op with
  | list => exact w.kept_listResources
  | enroll e => exact w.kept_enroll e
  | delete address =>
    exact w.kept_changeResources "/api/resources/delete/" (deletionJson address) ResourceSection.deleted
      ResourceSection.deleteRefused ResourceSection.deleteFailed
  | _ => exact .refl _

theorem PluginOperation.kept_perform (w : World Client) (op : PluginOperation) :
    w.link.Kept (op.perform w).link := by
  unfold perform
  cases op with
  | list => exact w.kept_listPlugins
  | save => exact w.kept_savePlugin
  | delete id agrees => exact w.kept_deletePlugin id agrees
  | _ => exact .refl _

/-! ## Pages

Loading a page makes one request at most, and the page replaces the token if it
comes to its end: also by none, if it has none. -/

/-- What a page says of the token, if it has come to its end: the token in its text, or else in the first
cookie that has one, or none. -/
def Http.Reply.pageToken? (config : Config) (r : Http.Reply) : Option (Option CsrfToken) :=
  r.text.toOption.map fun page =>
    (CsrfToken.ofPage? page).or
      ((r.values "set-cookie").findSome? fun cookies => CsrfToken.ofCookies? cookies config.csrfCookieName)

namespace Client

variable {c : Client}

/-- What a page at a path says of the token, if it comes to its end. -/
def pageToken? (c : Client) (path : String) : Option (Option CsrfToken) :=
  (c.answer? "GET" path [] none).bind (Http.Reply.pageToken? c.config)

theorem tokenOf?_eq (config : Config) (page : String) (cookies : List String) :
    tokenOf? config page cookies =
      (CsrfToken.ofPage? page).or
        (cookies.findSome? fun c => CsrfToken.ofCookies? c config.csrfCookieName) := by
  unfold tokenOf?
  cases CsrfToken.ofPage? page <;> rfl

/-- Loading a page makes one request at most, and the page replaces the token if it comes to its end. -/
theorem loadToken_spec (c : Client) (path : String) :
    ∃ n, c.network.Follows (c.exchange? "GET" path [] none).toList n ∧
      (c.loadToken path).2 = { c with network := n, token := (c.pageToken? path).getD c.token } := by
  obtain ⟨reply, n, htakes, hn, h⟩ := c.send_spec "GET" path [] none
  refine ⟨n, hn, ?_⟩
  unfold loadToken pageToken?
  rw [h]
  cases hanswer : c.answer? "GET" path [] none with
  | none =>
    rw [hanswer] at htakes
    obtain ⟨f, -, rfl⟩ := htakes
    rfl
  | some r =>
    rw [hanswer] at htakes
    obtain rfl := htakes
    simp only [Option.bind_some, Http.Reply.pageToken?]
    cases htext : r.text with
    | error f => rfl
    | ok page => simp only [Except.toOption, Option.map_some, Option.getD_some, tokenOf?_eq]

/-- Work in which no request takes a token, whatever the client holds. -/
structure Asks (c c' : Client) : Prop where
  config : c'.config = c.config
  network : ∃ es, c.network.Follows es c'.network ∧ ∀ e ∈ es, ∀ c : Client, c.Signs e.request

theorem Asks.trans {c' c'' : Client} (h : c.Asks c') (h' : c'.Asks c'') : c.Asks c'' := by
  obtain ⟨hconfig, es, hes, hsigns⟩ := h
  obtain ⟨hconfig', es', hes', hsigns'⟩ := h'
  refine ⟨hconfig'.trans hconfig, es ++ es', hes.trans hes', ?_⟩
  intro e he
  rcases List.mem_append.mp he with he | he
  · exact hsigns e he
  · exact hsigns' e he

theorem Asks.signed {c' : Client} (h : c.Asks c') : c.Signed c' := by
  obtain ⟨hconfig, es, hes, hsigns⟩ := h
  exact ⟨hconfig, es, hes, fun e he => hsigns e he c⟩

theorem asks_get {c' : Client} {path : String} (hconfig : c'.config = c.config)
    (hn : c.network.Follows (c.exchange? "GET" path [] none).toList c'.network) : c.Asks c' :=
  ⟨hconfig, _, hn, fun _ he => signs_of_get (Option.mem_toList.mp he)⟩

end Client

/-! ## Operations

The first load asks for three things, and takes the token from the first of
them. -/

namespace Operation

/-- The token that an operation gives the client, if it gives one. -/
def given? (c : Client) : Operation → Option (Option CsrfToken)
  | setToken token => some token
  | loadToken path => c.pageToken? path
  | mount => c.pageToken? "/"
  | _ => none

theorem mount_eq (w : World Client) :
    onWorld w mount = (onWorld w (loadToken "/")).listResources.2.listPlugins.2 := by
  simp only [onWorld, Console.mount, Console.loadToken, Console.perform]

theorem asks_listResources (w : World Client) : w.link.Asks w.listResources.2.link :=
  Client.asks_get w.kept_listResources.signed.config w.listing_listResources.1.network

theorem asks_listPlugins (w : World Client) : w.link.Asks w.listPlugins.2.link :=
  Client.asks_get w.kept_listPlugins.signed.config w.follows_listPlugins

theorem asks_page (w : World Client) (path : String) :
    w.link.Asks (onWorld w (loadToken path)).link ∧
      (onWorld w (loadToken path)).link.token = (w.link.pageToken? path).getD w.link.token := by
  obtain ⟨n, hn, hpage⟩ := w.link.loadToken_spec path
  rw [onWorld, World.link_viaClient, hpage]
  exact ⟨Client.asks_get rfl hn, rfl⟩

/-- The first load asks for three things, and takes the token from the first of them. -/
theorem asks_mount (w : World Client) :
    w.link.Asks (onWorld w mount).link ∧
      (onWorld w mount).link.token = (w.link.pageToken? "/").getD w.link.token := by
  obtain ⟨hpage, htoken⟩ := asks_page w "/"
  rw [mount_eq]
  generalize onWorld w (loadToken "/") = w₁ at hpage htoken ⊢
  constructor
  · exact hpage.trans ((asks_listResources w₁).trans (asks_listPlugins _))
  · rw [(w₁.listResources.2.kept_listPlugins).token, w₁.kept_listResources.token, htoken]

/-- One operation: its requests are signed with the token from before it, and the client then holds the token
that the operation gives, or else the one from before. -/
theorem signed_perform (ws : Workspace Client) (op : Operation) :
    ws.world.link.Signed (op.perform ws).world.link ∧
      (op.perform ws).world.link.token = (op.given? ws.world.link).getD ws.world.link.token := by
  cases op with
  | mount =>
    have hworld : (mount.perform ws).world = onWorld ws.world mount := by
      simp only [perform, Workspace.onWorld]
    obtain ⟨hasks, htoken⟩ := asks_mount ws.world
    rw [hworld]
    exact ⟨hasks.signed, htoken⟩
  | loadToken path =>
    have hworld : ((loadToken path).perform ws).world = onWorld ws.world (loadToken path) := by
      simp only [perform, Workspace.onWorld]
    obtain ⟨hasks, htoken⟩ := asks_page ws.world path
    rw [hworld]
    exact ⟨hasks.signed, htoken⟩
  | setToken token => exact ⟨⟨rfl, [], .refl _, List.forall_mem_nil _⟩, rfl⟩
  | resources op =>
    have hkept := op.kept_perform ws.world
    exact ⟨hkept.signed, hkept.token⟩
  | plugins op =>
    have hkept := op.kept_perform ws.world
    exact ⟨hkept.signed, hkept.token⟩
  | run kind plugin resource =>
    have hkept := Workspace.keeps_run kind.keeps plugin resource ws.world
    exact ⟨hkept.signed, hkept.token⟩
  | select kind plugin resource =>
    have hkept := Workspace.keeps_select kind.keeps plugin resource ws.world
    exact ⟨hkept.signed, hkept.token⟩
  | refresh kind tab =>
    have hkept := Workspace.keeps_refresh kind.keeps tab ws.world
    exact ⟨hkept.signed, hkept.token⟩
  | check kind time =>
    have hkept := Workspace.keeps_check kind.keeps time ws.world
    exact ⟨hkept.signed, hkept.token⟩
  | turn kind u =>
    have hkept := Workspace.keeps_turn kind.keeps ws u
    exact ⟨hkept.signed, hkept.token⟩

/-- The tokens that several operations give, in their order. -/
def givens : Workspace Client → List Operation → List (Option CsrfToken)
  | _, [] => []
  | ws, op :: ops => (op.given? ws.world.link).toList ++ givens (op.perform ws) ops

/-- Several operations: the client then holds the last token that they have given. -/
theorem token_performAll (ws : Workspace Client) (ops : List Operation) :
    (performAll ws ops).world.link.token = (givens ws ops).getLast?.getD ws.world.link.token := by
  induction ops generalizing ws with
  | nil => rfl
  | cons op ops ih =>
    have hstep := (signed_perform ws op).2
    have hlater : (performAll ws (op :: ops)).world.link.token = _ := ih (op.perform ws)
    rw [hlater, hstep, givens, List.getLast?_append]
    cases (givens (op.perform ws) ops).getLast? with
    | some token => rfl
    | none => cases op.given? ws.world.link <;> rfl

theorem follows_performAll (ws : Workspace Client) (ops : List Operation) :
    (performAll ws ops).world.link.config = ws.world.link.config ∧
      ∃ es, ws.world.link.network.Follows es (performAll ws ops).world.link.network := by
  induction ops generalizing ws with
  | nil => exact ⟨rfl, [], .refl _⟩
  | cons op ops ih =>
    obtain ⟨⟨hconfig, es, hes, -⟩, -⟩ := signed_perform ws op
    obtain ⟨hconfig', es', hes'⟩ := ih (op.perform ws)
    exact ⟨hconfig'.trans hconfig, es ++ es', hes.trans hes'⟩

end Operation

/-- After any operations the client holds the token that was given last: set, or found on a page that was read
to its end, whatever its status. A request of whatever comes next carries this token in the header of the
configuration if it is a POST, PUT or DELETE, and none otherwise or if there is no token; whatever else it has
for headers goes with a stream or a body. Those two are named accept and content-type. If the configuration
has the token go under one of these names, in whatever case, a request may hold a second value under it that
is no token, so the values under the name are those of the token only for other names. -/
theorem token_goes_with_requests (ws : Workspace Client) (ops : List Operation) :
    let ws' := Operation.performAll ws ops
    let c := ws'.world.link
    c.config = ws.world.link.config ∧
      c.token = (Operation.givens ws ops).getLast?.getD ws.world.link.token ∧
      ∀ op : Operation,
        ws.world.exchanges (op.perform ws').world =
          ws.world.exchanges ws'.world ++ ws'.world.exchanges (op.perform ws').world ∧
        ∀ e ∈ ws'.world.exchanges (op.perform ws').world,
          (∃ plain, e.request.headers = c.signature e.request.method ++ plain ∧
            ∀ h ∈ plain, h = ("accept", "text/event-stream") ∨ h = ("content-type", "application/json")) ∧
          (c.config.csrfHeader.toLower ∉ ["accept", "content-type"] →
            e.request.values c.config.csrfHeader = (c.signature e.request.method).map Prod.snd) := by
  intro ws' c
  obtain ⟨hconfig, es, hes⟩ := Operation.follows_performAll ws ops
  refine ⟨hconfig, Operation.token_performAll ws ops, fun op => ?_⟩
  obtain ⟨⟨-, es', hes', hsigns⟩, -⟩ := Operation.signed_perform ws' op
  have hlater : ws'.world.exchanges (op.perform ws').world = es' := hes'.exchanges_eq
  have hearlier : ws.world.exchanges ws'.world = es := hes.exchanges_eq
  rw [hlater, hearlier]
  exact ⟨(hes.trans hes').exchanges_eq, fun e he => ⟨hsigns e he, (hsigns e he).values⟩⟩

/-- A backend that serves a page with a token, and then one that breaks off. -/
def Workspace.loading : Workspace Client where
  world := { clock := ⟨0⟩, link := { Client.loopback with network := { replies :=
    [some (.ofText 500 "<html><meta name=\"csrf-token\" content=\"tok42\"></html>"),
      some { status := 200, chunks := [Text.Utf8.bytesOf "<html>"], complete := false }] } } }

def Operation.loads : List Operation := [.loadToken "/", .loadToken "/"]

def Operation.deletion : Operation := .resources (.delete "10.0.0.1")

open Operation in
/-- The token is from the page that came to its end, although its status is an error. -/
theorem token_goes_with_requests_loaded :
    (performAll .loading loads).world.link.token = some ⟨"tok42"⟩ ∧
      ∃ e ∈ (performAll .loading loads).world.exchanges (deletion.perform (performAll .loading loads)).world,
        (performAll .loading loads).world.link.config.csrfHeader.toLower ∉ ["accept", "content-type"] ∧
          e.request.values "X-CSRFToken" = ["tok42"] := by
  have hgivens : givens .loading loads = [some ⟨"tok42"⟩] := by decide +kernel
  have hsent : "POST" ∈ ((performAll .loading loads).world.exchanges
      (deletion.perform (performAll .loading loads)).world).map (·.request.method) := by
    decide +kernel
  have hname : (performAll .loading loads).world.link.config.csrfHeader.toLower ∉
      ["accept", "content-type"] := by
    decide +kernel
  obtain ⟨hconfig, htoken, hrequests⟩ := token_goes_with_requests .loading loads
  rw [hgivens] at htoken
  obtain ⟨e, he, hpost⟩ := List.mem_map.mp hsent
  have hvalues := ((hrequests deletion).2 e he).2 hname
  rw [Client.signature, htoken, hconfig, hpost] at hvalues
  exact ⟨htoken, e, he, hname, hvalues⟩

end ScanConsole
