import ScanConsole.Console.Operation
import ScanConsole.Proofs.Exchanges
import ScanConsole.Proofs.PluginAddress

/-!
# The list of resources

The console never patches its list of resources. `Listing` says what that comes
to for any stretch of work: the list is the last one that the backend has sent
in it, if it has sent one, and else the list from before.

    items = (the last of the lists in the exchanges).getD (items before)

Put one behind the other, two stretches of work are one (`Listing.trans`), so it
is enough to know it of one operation. `listing_perform` gives this, with what
the operation exchanges (`ResourceOperation.Exchanges`): a change of the
resources is followed by one request for the list if the backend has confirmed
it in the expected words, and by nothing otherwise. From an empty section on,
what is shown is the last list that has come (`resources_are_last_list`).

Nothing is assumed of the backend. It may leave any request without an answer,
and may answer with anything: a list that cannot be read is none, and what it
confirms need not be true.

That the request for the list is made after a change was confirmed does not mean
that it arrives. It does, since it goes the way of the request before it: to the
same base, by a path of the interface too, with nothing in it that cannot be
sent (`Client.exists_delivered`).
-/

namespace ScanConsole

open Json (Decoder)

/-! ## Paths from the root

A base to which one path of the interface can be joined is one to which all of
them can. -/

namespace Url

variable {b url : Url} {rest : List Char} {text : String}

theorem of_join?_api (h : b.join? text = some url) (hurl : url.scheme ≠ "file".toList)
    (hclean : clean text.toList = "/api/".toList ++ rest) :
    ∃ ss, b.path = .segments ss ∧ b.scheme ≠ "file".toList := by
  have hnone : scheme? ("/api/".toList ++ rest) = none := scheme?_slash _
  unfold join? resolve? at h
  simp only [hclean, hnone] at h
  cases hpath : b.path with
  | plain s =>
    rw [hpath] at h
    cases h
  | segments ss =>
    refine ⟨ss, rfl, fun hfile => hurl ?_⟩
    simp only [hpath, beq_iff_eq.mpr hfile] at h
    have hroot : some (fileAtRoot (some b) ("/api/".toList ++ rest)) = some url := h
    rw [← Option.some.inj hroot, scheme_fileAtRoot]

end Url

namespace Client

variable {c : Client} {method path : String} {headers : List (String × String)}
  {body : Option Json.Value} {r : Http.Request} {rest rest' : List Char}

/-- Where one request to a path of the interface arrives, one without a body that changes nothing arrives at
any other. -/
theorem exists_delivered (h : c.delivered? method path headers body = some r)
    (hclean : Url.clean path.toList = "/api/".toList ++ rest) (path' : String)
    (hclean' : Url.clean path'.toList = "/api/".toList ++ rest') :
    ∃ r', c.delivered? "GET" path' [] none = some r' := by
  obtain ⟨hr, hsend, hreach⟩ := delivered?_eq_some.mp h
  unfold request Config.endpoint at hr
  cases hbase : c.config.base with
  | error e =>
    rw [hbase] at hr
    cases hr
  | ok b =>
    rw [hbase] at hr
    cases hjoin : b.join? path with
    | none => simp [hjoin] at hr
    | some url =>
      simp only [hjoin, Except.ok.injEq] at hr
      have hscheme : ["http", "https"].contains (String.ofList url.scheme) = true := by
        rw [← hr, Http.Request.isSendable, Bool.and_eq_true] at hsend
        exact hsend.1
      have hfile : url.scheme ≠ "file".toList := by
        intro heq
        rw [heq] at hscheme
        exact absurd hscheme (by decide)
      obtain ⟨ss, hpath, hb⟩ := Url.of_join?_api hjoin hfile hclean
      have hsame : url.scheme = b.scheme := by
        rw [Url.join?_api hpath hb hclean] at hjoin
        rw [← Option.some.inj hjoin]
        rfl
      have hendpoint : c.config.endpoint path' =
          .ok (Url.withPath b.scheme b.authority Url.root ("api/".toList ++ rest')) := by
        simp only [Config.endpoint, hbase, Url.join?_api hpath hb hclean']
      have hheaders : c.tokenHeaders "GET" = [] := by
        unfold tokenHeaders
        cases c.token <;> rfl
      refine ⟨_, delivered?_eq_some.mpr ⟨by simp only [request, hendpoint]; rfl, ?_, hreach⟩⟩
      rw [hsame] at hscheme
      simp only [Http.Request.isSendable, hheaders, bodyHeaders, List.append_nil, List.all_nil, Bool.and_true]
      exact hscheme

end Client

/-! ## Exchanges of the section

A list is what a request for it has brought, as a success that can be read. Only
the expected message makes a change a success. -/

namespace Http

/-- The message in a reply that is a success. -/
def Reply.message? (r : Reply) : Option String := (r.read? MessageReply.decoder).bind MessageReply.message

/-- The list of resources that was asked for and has come, as a success that can be read. -/
def Exchange.resources? (config : Config) (e : Exchange) : Option (List Resource.Entry) :=
  if e.request.isFor config "GET" "/api/resources/list/" then
    e.answer.bind (Reply.read? (Decoder.list Resource.Entry.decoder))
  else none

theorem Exchange.resources?_of_post {config : Config} {path : String} {e : Exchange}
    (h : e.request.isFor config "POST" path = true) : e.resources? config = none := by
  rw [resources?, Request.isFor, Request.method_of_isFor h]
  rfl

end Http

namespace Client

/-- The exchange that a request for the list comes to. -/
def listExchange? (c : Client) : Option Http.Exchange := c.exchange? "GET" "/api/resources/list/" [] none

theorem resources?_listExchange (c : Client) :
    c.listExchange?.toList.filterMap (Http.Exchange.resources? c.config) =
      ((c.answer? "GET" "/api/resources/list/" [] none).bind
        (Http.Reply.read? (Decoder.list Resource.Entry.decoder))).toList := by
  unfold answer? listExchange?
  cases he : c.exchange? "GET" "/api/resources/list/" [] none with
  | none => rfl
  | some e =>
    have hfor : e.request.isFor c.config "GET" "/api/resources/list/" = true := isFor_of_exchange he
    simp only [Option.toList_some, List.filterMap_cons, List.filterMap_nil, Http.Exchange.resources?, hfor,
      if_true, Option.bind_some]
    cases e.answer.bind (Http.Reply.read? (Decoder.list Resource.Entry.decoder)) <;> rfl

/-- What a request to change the resources comes to, and whether it has succeeded: only the expected message
makes it a success, and only a success is followed by a request for the list. -/
inductive Changes (c : Client) (path : String) (body : Json.Value) (message : String) :
    Bool → List Http.Exchange → Prop
  | refused : (c.answer? "POST" path [] (some body)).bind Http.Reply.message? ≠ some message →
      Changes c path body message false (c.exchange? "POST" path [] (some body)).toList
  | confirmed (list : Http.Exchange) :
      (c.answer? "POST" path [] (some body)).bind Http.Reply.message? = some message →
      c.delivered? "GET" "/api/resources/list/" [] none = some list.request →
      Changes c path body message true ((c.exchange? "POST" path [] (some body)).toList ++ [list])

end Client

namespace ResourceOperation

/-- What an operation exchanges, and whether it has succeeded in changing the resources. -/
def Exchanges (c : Client) (succeeded : Bool) (es : List Http.Exchange) : ResourceOperation → Prop
  | list => succeeded = false ∧ es = c.listExchange?.toList
  | enroll e => c.Changes "/api/resources/" e.toJson ResourceSection.saved succeeded es
  | delete address =>
    c.Changes "/api/resources/delete/" (deletionJson address) ResourceSection.deleted succeeded es
  | _ => succeeded = false ∧ es = []

/-- Whether the form for enrollments is open after an operation. -/
def formAfter (isOpen succeeded : Bool) : ResourceOperation → Bool
  | enroll _ => isOpen && !succeeded
  | openForm => true
  | closeForm => false
  | _ => isOpen

end ResourceOperation

/-! ## A stretch of work

The section is not loading at the end of a stretch if it was not at the
beginning. -/

/-- Work in the section of resources, with the exchanges in it: the list is the last one that has come. -/
structure Listing (w : World Client) (es : List Http.Exchange) (w' : World Client) : Prop where
  config : w'.link.config = w.link.config
  network : w.link.network.Follows es w'.link.network
  items : w'.state.resources.items =
    ((es.filterMap (Http.Exchange.resources? w.link.config)).getLast?.map Resource.ofEntries).getD
      w.state.resources.items
  loading : w.state.resources.loading = false → w'.state.resources.loading = false

namespace Listing

variable {w w' w'' : World Client} {es es' : List Http.Exchange}

theorem of_eq (hlink : w'.link = w.link)
    (hitems : w'.state.resources.items = w.state.resources.items)
    (hloading : w'.state.resources.loading = w.state.resources.loading) : Listing w [] w' where
  config := by rw [hlink]
  network := by rw [hlink]; exact .refl _
  items := hitems
  loading := hloading.trans

theorem trans (h : Listing w es w') (h' : Listing w' es' w'') : Listing w (es ++ es') w'' where
  config := h'.config.trans h.config
  network := h.network.trans h'.network
  items := by
    rw [h'.items, h.items, h.config, List.filterMap_append, List.getLast?_append]
    cases (es'.filterMap (Http.Exchange.resources? w.link.config)).getLast? <;> rfl
  loading := fun hloading => h'.loading (h.loading hloading)

end Listing

/-! ## Operations

An enrollment is a change after which a success closes the form; a deletion is a
change. -/

namespace World

theorem listResources_spec (w : World Client) :
    ∃ n, w.link.network.Follows w.link.listExchange?.toList n ∧
      match (w.link.answer? "GET" "/api/resources/list/" [] none).bind
        (Http.Reply.read? (Decoder.list Resource.Entry.decoder)) with
      | some entries => w.listResources = (.ok (Resource.ofEntries entries), (w.withNetwork n).dispatchAll
          [.resourcesLoading, .resourcesLoaded (Resource.ofEntries entries)])
      | none => ∃ f, w.listResources = (.error f, (w.withNetwork n).dispatchAll
          [.resourcesLoading, .resourcesFailed ResourceSection.fetchFailed]) := by
  have hcall : Client.listResources = Client.call (Decoder.list Resource.Entry.decoder) "GET"
      "/api/resources/list/" none := rfl
  obtain ⟨reply, n, htakes, hn, h⟩ := (w.dispatch .resourcesLoading).viaClient_call
    (Decoder.list Resource.Entry.decoder) "GET" "/api/resources/list/" none
  rw [← hcall] at h
  have hlink : (w.dispatch .resourcesLoading).link = w.link := rfl
  rw [hlink] at htakes hn
  refine ⟨n, hn, ?_⟩
  rcases Client.readAs_of_takes (Decoder.list Resource.Entry.decoder) htakes with
    ⟨entries, hread, heq⟩ | ⟨hread, f, heq, -⟩
  · rw [hread]
    simp only [listResources, h, heq]
    rfl
  · rw [hread]
    refine ⟨f, ?_⟩
    simp only [listResources, h, heq]
    rfl

theorem listing_listResources (w : World Client) :
    Listing w w.link.listExchange?.toList w.listResources.2 ∧
      w.listResources.2.state.resources.enrollmentOpen = w.state.resources.enrollmentOpen := by
  obtain ⟨n, hn, hspec⟩ := w.listResources_spec
  split at hspec
  · next entries hread =>
    rw [hspec]
    refine ⟨⟨rfl, hn, ?_, fun _ => rfl⟩, rfl⟩
    rw [Client.resources?_listExchange, hread]
    rfl
  · next hread =>
    obtain ⟨f, hspec⟩ := hspec
    rw [hspec]
    refine ⟨⟨rfl, hn, ?_, fun _ => rfl⟩, rfl⟩
    rw [Client.resources?_listExchange, hread]
    rfl

/-- A request to change the resources, and what becomes of its reply. -/
def changeResources (path : String) (body : Json.Value) (success unexpected failed : String)
    (w : World Client) : Notice × World Client :=
  let (reply, w) := w.viaClient (Client.call MessageReply.decoder "POST" path (some body))
  let notice := ResourceSection.judge reply success unexpected failed
  (notice, w.settleResources notice)

theorem deleteResource_eq (address : String) (w : World Client) :
    w.deleteResource address =
      w.changeResources "/api/resources/delete/" (deletionJson address) ResourceSection.deleted
        ResourceSection.deleteRefused ResourceSection.deleteFailed := rfl

theorem enroll_eq (e : Enrollment) (w : World Client) :
    w.enroll e =
      match w.changeResources "/api/resources/" e.toJson ResourceSection.saved ResourceSection.unexpected
        ResourceSection.saveFailed with
      | (.success m, w) => (.success m, w.dispatch .enrollmentClosed)
      | (.error m, w) => (.error m, w) := by
  have hclient : Client.saveResource e = Client.call MessageReply.decoder "POST" "/api/resources/"
      (some e.toJson) := rfl
  unfold enroll changeResources
  rw [hclient]
  generalize w.viaClient (Client.call MessageReply.decoder "POST" "/api/resources/" (some e.toJson)) = called
  obtain ⟨reply, w'⟩ := called
  dsimp only
  cases ResourceSection.judge reply ResourceSection.saved ResourceSection.unexpected
    ResourceSection.saveFailed <;> rfl

/-- What the operator reads of an answer without the expected message: the words of the backend, or else a
text for an answer that is a success and one for all others. -/
def refusal (unexpected failed : String) (answer : Option Http.Reply) : String :=
  match answer.bind (Http.Reply.read? MessageReply.decoder) with
  | some reply => wordsOr unexpected reply.message
  | none => wordsOr failed (answer.bind Http.Reply.words?)

theorem judge_of_takes {answer : Option Http.Reply} {reply : Except Failure Http.Reply}
    (h : Client.Takes answer reply) (success unexpected failed : String) :
    ResourceSection.judge (Client.readAs MessageReply.decoder (Client.accepted reply)) success unexpected
        failed =
      if answer.bind Http.Reply.message? = some success then .success success
      else .error (refusal unexpected failed answer) := by
  have hmessage : answer.bind Http.Reply.message? =
      (answer.bind (Http.Reply.read? MessageReply.decoder)).bind MessageReply.message :=
    (Option.bind_assoc _ _ _).symm
  rw [hmessage, refusal]
  rcases Client.readAs_of_takes MessageReply.decoder h with ⟨reply, hread, heq⟩ | ⟨hread, f, heq, hwords⟩
  · rw [hread, heq, Option.bind_some, ResourceSection.judge]
    by_cases hsuccess : reply.message = some success
    · simp only [hsuccess, beq_self_eq_true, if_true]
    · rw [if_neg (by simpa using hsuccess), if_neg hsuccess]
      dsimp only
      cases reply.message <;> rfl
  · rw [hread, heq, Option.bind_none, if_neg nofun]
    simp only [ResourceSection.judge, Failure.userMessage_eq, hwords]

/-- A request to change the resources: the notice, shown, and the list anew after a success. -/
theorem changeResources_spec (w : World Client) (path : String) (body : Json.Value)
    (success unexpected failed : String) :
    ∃ n, w.link.network.Follows (w.link.exchange? "POST" path [] (some body)).toList n ∧
      if (w.link.answer? "POST" path [] (some body)).bind Http.Reply.message? = some success then
        w.changeResources path body success unexpected failed = (.success success,
          ((w.withNetwork n).dispatch (.resourceNotice (.success success))).listResources.2)
      else
        w.changeResources path body success unexpected failed =
          (.error (refusal unexpected failed (w.link.answer? "POST" path [] (some body))),
            (w.withNetwork n).dispatch (.resourceNotice
              (.error (refusal unexpected failed (w.link.answer? "POST" path [] (some body)))))) := by
  obtain ⟨reply, n, htakes, hn, h⟩ := w.viaClient_call MessageReply.decoder "POST" path (some body)
  refine ⟨n, hn, ?_⟩
  split
  · next hmessage =>
    simp only [changeResources, h, judge_of_takes htakes, hmessage, if_true, settleResources]
  · next hmessage =>
    simp only [changeResources, h, judge_of_takes htakes, hmessage, if_false, settleResources]

/-- A request to change the resources fetches the list anew if and only if it has succeeded. -/
theorem listing_changeResources (w : World Client) (path : String) {rest : List Char} (body : Json.Value)
    (success unexpected failed : String) (hclean : Url.clean path.toList = "/api/".toList ++ rest) :
    ∃ succeeded es, Listing w es (w.changeResources path body success unexpected failed).2 ∧
      w.link.Changes path body success succeeded es ∧
      (w.changeResources path body success unexpected failed).2.state.resources.enrollmentOpen =
        w.state.resources.enrollmentOpen ∧
      match succeeded with
      | true => (w.changeResources path body success unexpected failed).1 = .success success
      | false => ∃ text, (w.changeResources path body success unexpected failed).1 = .error text := by
  obtain ⟨n, hn, h⟩ := w.changeResources_spec path body success unexpected failed
  have hpost : (w.link.exchange? "POST" path [] (some body)).toList.filterMap
      (Http.Exchange.resources? w.link.config) = [] := by
    rw [List.filterMap_eq_nil_iff]
    intro e he
    exact Http.Exchange.resources?_of_post (Client.isFor_of_exchange (Option.mem_toList.mp he))
  have hbefore : ∀ notice, Listing w (w.link.exchange? "POST" path [] (some body)).toList
      ((w.withNetwork n).dispatch (.resourceNotice notice)) := by
    intro notice
    refine ⟨rfl, hn, ?_, id⟩
    rw [hpost]
    rfl
  split at h
  · next hmessage =>
    obtain ⟨hlist, hform⟩ :=
      listing_listResources ((w.withNetwork n).dispatch (.resourceNotice (.success success)))
    -- The confirmed request has arrived, and the one for the list goes the same way.
    obtain ⟨r, hr⟩ : ∃ r, w.link.delivered? "POST" path [] (some body) = some r := by
      rw [← Option.isSome_iff_exists, Option.isSome_iff_ne_none]
      intro hlost
      simp [Client.answer?, Client.exchange?, hlost] at hmessage
    obtain ⟨r', hr'⟩ := Client.exists_delivered hr hclean "/api/resources/list/" rfl
    have hagain : ((w.withNetwork n).dispatch (.resourceNotice (.success success))).link.listExchange? =
        some ⟨r', n.replies.head?.join⟩ := by
      have hsame : Client.delivered? { w.link with network := n } "GET" "/api/resources/list/" [] none =
          some r' := (Client.delivered?_withNetwork hn.reachable).trans hr'
      exact congrArg (Option.map _) hsame
    rw [hagain, Option.toList_some] at hlist
    rw [h]
    refine ⟨true, _, (hbefore _).trans hlist, .confirmed _ hmessage hr', ?_, rfl⟩
    rw [hform]
    rfl
  · next hmessage =>
    rw [h]
    exact ⟨false, _, hbefore _, .refused hmessage, rfl, _, rfl⟩

end World

/-- One operation: what it exchanges, the list that it leaves, and the form. -/
theorem listing_perform (w : World Client) (op : ResourceOperation) :
    ∃ succeeded es, Listing w es (op.perform w) ∧ op.Exchanges w.link succeeded es ∧
      (op.perform w).state.resources.enrollmentOpen =
        op.formAfter w.state.resources.enrollmentOpen succeeded := by
  cases op with
  | list =>
    obtain ⟨hlist, hform⟩ := w.listing_listResources
    rw [show ResourceOperation.perform w .list = w.listResources.2 from rfl]
    exact ⟨false, _, hlist, ⟨rfl, rfl⟩, hform⟩
  | enroll e =>
    obtain ⟨succeeded, es, hes, hchanges, hform, hnotice⟩ :=
      w.listing_changeResources "/api/resources/" e.toJson ResourceSection.saved ResourceSection.unexpected
        ResourceSection.saveFailed rfl
    generalize hchanged : w.changeResources "/api/resources/" e.toJson ResourceSection.saved
      ResourceSection.unexpected ResourceSection.saveFailed = changed at hes hform hnotice
    obtain ⟨notice, w'⟩ := changed
    refine ⟨succeeded, es, ?_⟩
    cases succeeded with
    | true =>
      obtain rfl : notice = .success ResourceSection.saved := hnotice
      have hafter : ResourceOperation.perform w (.enroll e) = w'.dispatch .enrollmentClosed := by
        simp only [ResourceOperation.perform, World.enroll_eq, hchanged]
      rw [hafter]
      refine ⟨?_, hchanges, (Bool.and_false _).symm⟩
      have hclosed : Listing w' [] (w'.dispatch .enrollmentClosed) := .of_eq rfl rfl rfl
      simpa using hes.trans hclosed
    | false =>
      obtain ⟨text, rfl⟩ : ∃ text, notice = .error text := hnotice
      have hafter : ResourceOperation.perform w (.enroll e) = w' := by
        simp only [ResourceOperation.perform, World.enroll_eq, hchanged]
      rw [hafter]
      exact ⟨hes, hchanges, hform.trans (Bool.and_true _).symm⟩
  | delete address =>
    obtain ⟨succeeded, es, hes, hchanges, hform, -⟩ :=
      w.listing_changeResources "/api/resources/delete/" (deletionJson address) ResourceSection.deleted
        ResourceSection.deleteRefused ResourceSection.deleteFailed rfl
    rw [show ResourceOperation.perform w (.delete address) = (w.deleteResource address).2 from rfl,
      World.deleteResource_eq]
    exact ⟨succeeded, es, hes, hchanges, hform⟩
  | filter query => exact ⟨false, [], .of_eq rfl rfl rfl, ⟨rfl, rfl⟩, rfl⟩
  | openForm => exact ⟨false, [], .of_eq rfl rfl rfl, ⟨rfl, rfl⟩, rfl⟩
  | closeForm => exact ⟨false, [], .of_eq rfl rfl rfl, ⟨rfl, rfl⟩, rfl⟩

/-- Any operations: the list is the last that has come in all of them. -/
theorem listing_performAll (w : World Client) (ops : List ResourceOperation) :
    ∃ es, Listing w es (ResourceOperation.performAll w ops) := by
  induction ops generalizing w with
  | nil => exact ⟨[], .of_eq rfl rfl rfl⟩
  | cons op ops ih =>
    obtain ⟨-, es, hes, -⟩ := listing_perform w op
    obtain ⟨es', hes'⟩ := ih (op.perform w)
    exact ⟨es ++ es', hes.trans hes'⟩

/-- From an empty section on, the resources shown are those of the last list that the backend has sent and
that could be read, and none if there was no such list. What comes next is one request for a list; one request
to change the resources, with exactly one for the list after it if it has succeeded; or nothing. A success
closes the form for enrollments, whether the list comes or not. -/
theorem resources_are_last_list (w : World Client) (hitems : w.state.resources.items = [])
    (hloading : w.state.resources.loading = false) (ops : List ResourceOperation) :
    let w' := ResourceOperation.performAll w ops
    let lists := (w.exchanges w').filterMap (Http.Exchange.resources? w.link.config)
    w'.state.resources.items = Resource.ofEntries (lists.getLast?.getD []) ∧
      w'.state.resources.loading = false ∧
      ∀ op : ResourceOperation, ∃ succeeded,
        w.exchanges (op.perform w') = w.exchanges w' ++ w'.exchanges (op.perform w') ∧
        op.Exchanges w'.link succeeded (w'.exchanges (op.perform w')) ∧
        (op.perform w').state.resources.enrollmentOpen =
          op.formAfter w'.state.resources.enrollmentOpen succeeded := by
  intro w' lists
  obtain ⟨es, hes⟩ := listing_performAll w ops
  have hexchanges : w.exchanges w' = es := hes.network.exchanges_eq
  refine ⟨?_, hes.loading hloading, fun op => ?_⟩
  · have h := hes.items
    rw [← hexchanges, hitems] at h
    rw [h]
    cases lists.getLast? <;> rfl
  · obtain ⟨succeeded, es', hes', hsends, hform⟩ := listing_perform w' op
    refine ⟨succeeded, ?_, ?_, hform⟩
    · rw [hexchanges, World.exchanges, World.exchanges, (hes.network.trans hes'.network).exchanges_eq,
        hes'.network.exchanges_eq]
    · rw [World.exchanges, hes'.network.exchanges_eq]
      exact hsends

/-- A backend that lists one resource, confirms an enrollment, and then says no more. -/
def World.enrolling : World Client where
  clock := ⟨0⟩
  link := { Client.loopback with
    network := { replies :=
      [some (.ofText 200 (Json.Value.array [.object [("ip_address", .string "10.0.0.1")]]).compact),
        some (.ofText 200 (MessageReply.mk (some "Resource saved successfully")).toJson.compact)] } }

/-- A list, and an enrollment in the form. -/
def ResourceOperation.enrollment : List ResourceOperation :=
  [.list, .openForm, .enroll ⟨"10.0.0.2", "root", "secret"⟩]

open ResourceOperation in
/-- The enrollment is confirmed and closes the form; the list after it does not come. -/
theorem resources_are_last_list_lost :
    (World.enrolling.state.resources.items = [] ∧ World.enrolling.state.resources.loading = false) ∧
      (performAll .enrolling enrollment).state.resources.items =
        [⟨"10.0.0.1", "Unknown", none, none, .synthetic 80⟩] ∧
      (performAll .enrolling enrollment).state.resources.loading = false ∧
      (performAll .enrolling enrollment).state.resources.enrollmentOpen = false := by
  have hlist : Resource.ofEntries (((World.enrolling.exchanges (performAll .enrolling enrollment)).filterMap
      (Http.Exchange.resources? World.enrolling.link.config)).getLast?.getD []) =
      [⟨"10.0.0.1", "Unknown", none, none, .synthetic 80⟩] := by decide +kernel
  have h := resources_are_last_list World.enrolling rfl rfl enrollment
  exact ⟨⟨rfl, rfl⟩, h.1.trans hlist, h.2.1, by decide +kernel⟩

end ScanConsole
