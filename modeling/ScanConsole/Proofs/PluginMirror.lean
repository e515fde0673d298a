import ScanConsole.Proofs.NormalForms
import ScanConsole.Proofs.PluginAddress
import ScanConsole.Proofs.PluginRequests

/-!
# The list of plugins and the backend's

The console repeats on its own list of plugins what the backend has confirmed,
and does not ask for the list again. `Plugin.Serves` is a backend that keeps a
list of plugins, by what it answers to each request:

    GET      the list
    POST     a new plugin at its end, with an identifier that is not in use
    PUT      the plugin of this identifier changed in its place
    DELETE   the plugin of this identifier taken out

It may refuse anything at any time, and may leave anything without an answer.
Whatever it refuses it leaves alone, and what it has not answered it has not
done. Beside such a backend the two lists stay the same (`Mirrors.perform`),
from the first list that has come on and after any operations
(`plugin_list_mirrors_backend`).

The invariant is `Mirrors`: the list shown is the list kept, in its order, the
identifiers in it differ, and the backend can read the identifier under edit. A
step of the console makes one request at most, and the answer decides what both
sides do. So there is one theorem for each request, and one for the operation
that makes it.

## What is assumed

The identifiers of the backend differ, and it reads from an address the
identifier that the console has put into it (`Plugin.ReadAs`). The latter is
asked of the identifiers in play only: those that an operation names, and the
one under edit at the beginning. An identifier that is not a segment of a path
may be misread; which ones are is said in `plugin_addressed`.

Nobody else changes the backend's list meanwhile. With `ServesAll` the exchanges
of the operations are all that it serves.

## What is saved

A form is opened, typed into and saved. What a save sends is the draft of the
name and the text that were typed last, or else of those of the plugin that the
form was opened on (`PluginForm.draftOf`); the backend reads the same draft from
the body of the request. Anything may happen between the opening and the save,
except that another form is opened.
-/

namespace ScanConsole

open Json (Decoder)

/-! ## What a backend keeps

Success is a status and a body that can be read; what is no success has no
effect. -/

/-- A plugin as a backend keeps it. -/
structure Plugin.Kept where
  id : PluginId
  draft : Plugin.Draft
  deriving DecidableEq, Repr

def Plugin.kept (p : Plugin) : Plugin.Kept := ⟨p.id, p.name, p.body⟩

namespace Plugin.Draft

def decoder : Decoder Draft := fun room d =>
  match Decoder.fields [["name"], ["roleConfig"]] room d with
  | some (room, [name, body]) => do
    some ⟨← Decoder.required Decoder.string room name, ← Decoder.required Decoder.string room body⟩
  | _ => none

theorem decode?_toJson (d : Draft) : Json.decode? decoder d.toJson.compact = some d := by
  rw [Json.decode?_compact decoder rfl]
  rfl

end Plugin.Draft

/-- The draft in the body of a request. -/
def Http.Request.draft? (r : Http.Request) : Option Plugin.Draft :=
  r.body.bind (Json.decode? Plugin.Draft.decoder)

/-- A backend reads this identifier from the address that a client gives it. -/
def Plugin.ReadAs (config : Config) (addressed : Url → Option PluginId) (id : PluginId) : Prop :=
  ∀ url, config.endpoint (Client.pluginPath id) = .ok url → addressed url = some id

/-- A backend that keeps a list of plugins: an exchange with it, between what it keeps before and after. -/
inductive Plugin.Serves (config : Config) (addressed : Url → Option PluginId) :
    List Plugin.Kept → Http.Exchange → List Plugin.Kept → Prop
  | lists {kept r reply} {plugins : List Plugin} : r.isFor config "GET" "/api/plugins/" = true →
      Http.Reply.read? (Decoder.list Plugin.decoder) reply = some plugins → plugins.map Plugin.kept = kept →
      Serves config addressed kept ⟨r, some reply⟩ kept
  | creates {kept r reply} {d : Plugin.Draft} {id : PluginId} {message : Option String} :
      r.isFor config "POST" "/api/plugins/" = true → r.draft? = some d →
      Http.Reply.read? CreatedReply.decoder reply = some ⟨some id, message⟩ → id ∉ kept.map Plugin.Kept.id →
      Serves config addressed kept ⟨r, some reply⟩ (kept ++ [⟨id, d⟩])
  | updates {kept r reply} {d : Plugin.Draft} {id : PluginId} {m : MessageReply} :
      r.method = "PUT" → addressed r.url = some id → r.draft? = some d → id ∈ kept.map Plugin.Kept.id →
      Http.Reply.read? MessageReply.decoder reply = some m →
      Serves config addressed kept ⟨r, some reply⟩ (kept.map fun k => if k.id = id then ⟨id, d⟩ else k)
  | deletes {kept r reply} {id : PluginId} :
      r.method = "DELETE" → addressed r.url = some id → id ∈ kept.map Plugin.Kept.id → reply.isSuccess = true →
      Serves config addressed kept ⟨r, some reply⟩ (kept.filter fun k => k.id ≠ id)
  | refuses {kept r reply} : reply.isSuccess = false → Serves config addressed kept ⟨r, some reply⟩ kept
  | drops {kept r} : Serves config addressed kept ⟨r, none⟩ kept

/-- Several exchanges with the backend. -/
inductive Plugin.ServesAll (config : Config) (addressed : Url → Option PluginId) :
    List Plugin.Kept → List Http.Exchange → List Plugin.Kept → Prop
  | nil {kept} : ServesAll config addressed kept [] kept
  | cons {kept kept' kept'' e es} : Plugin.Serves config addressed kept e kept' →
      ServesAll config addressed kept' es kept'' → ServesAll config addressed kept (e :: es) kept''

namespace Plugin

variable {config : Config} {addressed : Url → Option PluginId} {kept kept' : List Kept} {c : Client}

theorem ServesAll.of_append {es es' : List Http.Exchange}
    (h : ServesAll config addressed kept (es ++ es') kept') :
    ∃ between, ServesAll config addressed kept es between ∧ ServesAll config addressed between es' kept' := by
  induction es generalizing kept with
  | nil => exact ⟨kept, .nil, h⟩
  | cons e es ih =>
    cases h with
    | cons he hes =>
      obtain ⟨between, hbefore, hafter⟩ := ih hes
      exact ⟨between, .cons he hbefore, hafter⟩

theorem isSuccess_of_read? {α : Type} {decode : Decoder α} {reply : Http.Reply} {a : α}
    (h : reply.read? decode = some a) : reply.isSuccess = true := by
  by_contra hno
  rw [Http.Reply.read?, if_neg hno] at h
  cases h

theorem bind_read?_of_no_success {α : Type} {decode : Decoder α} {answer : Option Http.Reply}
    (h : answer.any Http.Reply.isSuccess = false) : answer.bind (Http.Reply.read? decode) = none := by
  cases answer with
  | none => rfl
  | some reply => exact if_neg (Bool.eq_false_iff.mp h)

theorem Serves.eq_of_no_success {r : Http.Request} {answer : Option Http.Reply}
    (hno : answer.any Http.Reply.isSuccess = false) (h : Serves config addressed kept ⟨r, answer⟩ kept') :
    kept' = kept := by
  cases h with
  | lists => rfl
  | creates _ _ hread => exact absurd (isSuccess_of_read? hread) (Bool.eq_false_iff.mp hno)
  | updates _ _ _ _ hread => exact absurd (isSuccess_of_read? hread) (Bool.eq_false_iff.mp hno)
  | deletes _ _ _ hsuccess => exact absurd hsuccess (Bool.eq_false_iff.mp hno)
  | refuses => rfl
  | drops => rfl

theorem draft?_of_body {r : Http.Request} {d : Draft} (h : r.body = some d.toJson.compact) :
    r.draft? = some d := by
  rw [Http.Request.draft?, h, Option.bind_some, Draft.decode?_toJson]

theorem of_exchange (hconfig : c.config = config) {a : BackendCall} {e : Http.Exchange}
    (h : a.exchange? c = some e) :
    e.request.method = a.method ∧ config.endpoint a.path = .ok e.request.url ∧
      e.request.body = a.body.map Json.Value.compact := by
  have hr := Client.request_of_exchange (show e ∈ a.exchange? c from h)
  unfold Client.request at hr
  rw [hconfig] at hr
  split at hr
  · cases hr
  · next url hurl =>
    rw [← Except.ok.inj hr]
    exact ⟨rfl, hurl, rfl⟩

/-! ## What an attempt does at the backend

An attempt is no success, and the backend leaves alone what it keeps; or the
backend has served it, as it was made. By the method and the address it can only
have been served by the case that is meant for it. -/

section
variable (hconfig : c.config = config)
include hconfig

/-- An attempt is no success, and the backend leaves alone what it keeps; or the backend has served it, as it
was made. -/
theorem ServesAll.of_attempt {a : BackendCall}
    (h : ServesAll config addressed kept (a.exchange? c).toList kept') :
    ((a.answer? c).any Http.Reply.isSuccess = false ∧ kept' = kept) ∨
      ∃ r reply, a.answer? c = some reply ∧ r.method = a.method ∧ config.endpoint a.path = .ok r.url ∧
        r.body = a.body.map Json.Value.compact ∧ reply.isSuccess = true ∧
        Serves config addressed kept ⟨r, some reply⟩ kept' := by
  have hanswer : a.answer? c = (a.exchange? c).bind Http.Exchange.answer := rfl
  rw [hanswer]
  cases he : a.exchange? c with
  | none =>
    rw [he] at h
    cases h
    exact .inl ⟨rfl, rfl⟩
  | some e =>
    rw [he] at h
    cases h with
    | cons hserves hrest =>
      cases hrest
      obtain ⟨hmethod, hurl, hbody⟩ := of_exchange hconfig he
      obtain ⟨r, answer⟩ := e
      rw [Option.bind_some]
      cases hsuccess : answer.any Http.Reply.isSuccess with
      | false => exact .inl ⟨rfl, hserves.eq_of_no_success hsuccess⟩
      | true =>
        obtain ⟨reply, rfl, hreply⟩ := Option.any_eq_true _ _ |>.mp hsuccess
        exact .inr ⟨r, reply, rfl, hmethod, hurl, hbody, hreply, hserves⟩

theorem serves_plugins (h : ServesAll config addressed kept (BackendCall.plugins.exchange? c).toList kept') :
    kept' = kept ∧ ∀ plugins,
      (BackendCall.plugins.answer? c).bind (Http.Reply.read? (Decoder.list Plugin.decoder)) = some plugins →
      plugins.map Plugin.kept = kept := by
  rcases h.of_attempt hconfig with ⟨hno, rfl⟩ | ⟨r, reply, hanswer, hmethod, -, -, hsuccess, hserves⟩
  · rw [bind_read?_of_no_success hno]
    exact ⟨rfl, nofun⟩
  · rw [hanswer]
    cases hserves with
    | lists _ hread hkept =>
      refine ⟨rfl, fun plugins hplugins => ?_⟩
      rw [← Option.some.inj (hread.symm.trans hplugins), hkept]
    | creates hfor =>
      exact absurd ((Http.Request.method_of_isFor hfor).symm.trans hmethod) (show "POST" ≠ "GET" by decide)
    | updates hput => exact absurd (hput.symm.trans hmethod) (show "PUT" ≠ "GET" by decide)
    | deletes hdelete => exact absurd (hdelete.symm.trans hmethod) (show "DELETE" ≠ "GET" by decide)
    | refuses hno => exact absurd hsuccess (Bool.eq_false_iff.mp hno)

theorem serves_create {d : Draft}
    (h : ServesAll config addressed kept ((BackendCall.create d).exchange? c).toList kept') :
    match ((BackendCall.create d).answer? c).bind (Http.Reply.read? CreatedReply.decoder) with
    | some reply => ∃ id, reply.id = some id ∧ id ∉ kept.map Kept.id ∧ kept' = kept ++ [⟨id, d⟩]
    | none => kept' = kept := by
  rcases h.of_attempt hconfig with ⟨hno, rfl⟩ | ⟨r, reply, hanswer, hmethod, -, hbody, hsuccess, hserves⟩
  · rw [bind_read?_of_no_success hno]
  · rw [hanswer]
    cases hserves with
    | lists hfor =>
      exact absurd ((Http.Request.method_of_isFor hfor).symm.trans hmethod) (show "GET" ≠ "POST" by decide)
    | creates _ hd hread hfresh =>
      obtain rfl := Option.some.inj (hd.symm.trans (draft?_of_body hbody))
      simp only [Option.bind_some, hread]
      exact ⟨_, rfl, hfresh, rfl⟩
    | updates hput => exact absurd (hput.symm.trans hmethod) (show "PUT" ≠ "POST" by decide)
    | deletes hdelete => exact absurd (hdelete.symm.trans hmethod) (show "DELETE" ≠ "POST" by decide)
    | refuses hno => exact absurd hsuccess (Bool.eq_false_iff.mp hno)

theorem serves_update {id : PluginId} {d : Draft} (hread : ReadAs config addressed id)
    (h : ServesAll config addressed kept ((BackendCall.update id d).exchange? c).toList kept') :
    match ((BackendCall.update id d).answer? c).bind (Http.Reply.read? MessageReply.decoder) with
    | some _ => id ∈ kept.map Kept.id ∧ kept' = kept.map fun k => if k.id = id then ⟨id, d⟩ else k
    | none => kept' = kept := by
  rcases h.of_attempt hconfig with ⟨hno, rfl⟩ | ⟨r, reply, hanswer, hmethod, hurl, hbody, hsuccess, hserves⟩
  · rw [bind_read?_of_no_success hno]
  · rw [hanswer]
    cases hserves with
    | lists hfor =>
      exact absurd ((Http.Request.method_of_isFor hfor).symm.trans hmethod) (show "GET" ≠ "PUT" by decide)
    | creates hfor =>
      exact absurd ((Http.Request.method_of_isFor hfor).symm.trans hmethod) (show "POST" ≠ "PUT" by decide)
    | updates _ haddressed hd hknown hm =>
      obtain rfl := Option.some.inj (haddressed.symm.trans (hread _ hurl))
      obtain rfl := Option.some.inj (hd.symm.trans (draft?_of_body hbody))
      rw [Option.bind_some, hm]
      exact ⟨hknown, rfl⟩
    | deletes hdelete => exact absurd (hdelete.symm.trans hmethod) (show "DELETE" ≠ "PUT" by decide)
    | refuses hno => exact absurd hsuccess (Bool.eq_false_iff.mp hno)

theorem serves_delete {id : PluginId} (hread : ReadAs config addressed id)
    (h : ServesAll config addressed kept ((BackendCall.delete id).exchange? c).toList kept') :
    kept' = if ((BackendCall.delete id).answer? c).any Http.Reply.isSuccess then kept.filter fun k => k.id ≠ id
      else kept := by
  rcases h.of_attempt hconfig with ⟨hno, rfl⟩ | ⟨r, reply, hanswer, hmethod, hurl, -, hsuccess, hserves⟩
  · rw [hno, if_neg Bool.false_ne_true]
  · rw [hanswer, Option.any_some, hsuccess, if_pos rfl]
    cases hserves with
    | lists hfor =>
      exact absurd ((Http.Request.method_of_isFor hfor).symm.trans hmethod) (show "GET" ≠ "DELETE" by decide)
    | creates hfor =>
      exact absurd ((Http.Request.method_of_isFor hfor).symm.trans hmethod) (show "POST" ≠ "DELETE" by decide)
    | updates hput => exact absurd (hput.symm.trans hmethod) (show "PUT" ≠ "DELETE" by decide)
    | deletes _ haddressed =>
      obtain rfl := Option.some.inj (haddressed.symm.trans (hread _ hurl))
      rfl
    | refuses hno => exact absurd hsuccess (Bool.eq_false_iff.mp hno)

end

end Plugin

/-! ## Changes of both lists

The console changes the first plugin of an identifier, and the backend all that
have it. If identifiers differ this is the same. -/

namespace Plugin

theorem ids_kept (items : List Plugin) : (items.map kept).map Kept.id = items.map Plugin.id :=
  List.map_map

theorem map_kept_updateFirst {items : List Plugin} (q : Plugin) (h : (items.map Plugin.id).Nodup) :
    (updateFirst (fun p => p.id == q.id) (fun _ => q) items).map kept =
      (items.map kept).map fun k => if k.id = q.id then q.kept else k := by
  induction items with
  | nil => rfl
  | cons p items ih =>
    rw [List.map_cons, List.nodup_cons] at h
    simp only [updateFirst, List.map_cons, beq_iff_eq]
    by_cases hid : p.id = q.id
    · rw [if_pos hid, List.map_cons, if_pos (show p.kept.id = q.id from hid), List.cons.injEq]
      refine ⟨rfl, ?_⟩
      rw [List.map_map]
      refine List.map_congr_left fun p' hp' => ?_
      have hother : p'.id ≠ q.id := by
        intro heq
        exact h.1 (hid ▸ heq ▸ List.mem_map_of_mem hp')
      exact (if_neg hother).symm
    · rw [if_neg hid, List.map_cons, if_neg (show ¬p.kept.id = q.id from hid), ih h.2]

theorem map_kept_filter (items : List Plugin) (id : PluginId) :
    (items.filter fun p => p.id != id).map kept = (items.map kept).filter fun k => k.id ≠ id := by
  rw [List.filter_map]
  refine congrArg _ (List.filter_congr fun p _ => ?_)
  by_cases hid : p.id = id <;> simp [kept, hid]

theorem ids_update (kept : List Kept) (id : PluginId) (d : Draft) :
    (kept.map fun k => if k.id = id then (⟨id, d⟩ : Kept) else k).map Kept.id = kept.map Kept.id := by
  rw [List.map_map]
  refine List.map_congr_left fun k _ => ?_
  by_cases hid : k.id = id <;> simp [hid]

end Plugin

theorem PluginSection.plugin?_eq_some_of_mem {s : PluginSection} {id : PluginId}
    (h : id ∈ s.items.map Plugin.id) : ∃ p, s.plugin? id = some p ∧ p.id = id := by
  obtain ⟨p, hp, rfl⟩ := List.mem_map.mp h
  have hfound : (s.plugin? p.id).isSome := List.find?_isSome.mpr ⟨p, hp, beq_self_eq_true _⟩
  obtain ⟨q, hq⟩ := Option.isSome_iff_exists.mp hfound
  have hsame := List.find?_some (show s.items.find? (fun q => q.id == p.id) = some q from hq)
  exact ⟨q, hq, eq_of_beq hsame⟩

/-! ## The two lists side by side

The console shows the list as it comes, and then does what was confirmed. -/

/-- The console shows what the backend keeps, in its order, and the backend can read what is under edit. -/
structure Mirrors (config : Config) (addressed : Url → Option PluginId) (w : World Client)
    (kept : List Plugin.Kept) : Prop where
  items : w.state.plugins.items.map Plugin.kept = kept
  distinct : (kept.map Plugin.Kept.id).Nodup
  form : ∀ f, w.state.plugins.form = some f → ∀ id, f.editing = some id → Plugin.ReadAs config addressed id
  config : w.link.config = config

def PluginOperation.names? : PluginOperation → Option PluginId
  | openForm plugin => plugin.map Plugin.id
  | delete id _ => some id
  | _ => none

namespace Mirrors

open Plugin (Serves ServesAll ReadAs)

variable {config : Config} {addressed : Url → Option PluginId} {w w' : World Client}
  {kept kept' : List Plugin.Kept}

theorem congr (h : Mirrors config addressed w kept) (hconfig : w'.link.config = w.link.config)
    (hitems : w'.state.plugins.items = w.state.plugins.items)
    (hform : ∀ f', w'.state.plugins.form = some f' →
      ∃ f, w.state.plugins.form = some f ∧ f'.editing = f.editing) :
    Mirrors config addressed w' kept where
  config := hconfig.trans h.config
  items := by rw [hitems, h.items]
  distinct := h.distinct
  form := by
    intro f' hf' id hid
    obtain ⟨f, hf, hsame⟩ := hform f' hf'
    exact h.form f hf id (hsame ▸ hid)

theorem dispatch_form (h : Mirrors config addressed w kept) (f : PluginForm → PluginForm)
    (hediting : ∀ form, (f form).editing = form.editing) :
    Mirrors config addressed { w with state := w.state.onForm f } kept := by
  refine h.congr rfl rfl fun f' hf' => ?_
  obtain ⟨form, hform, rfl⟩ := Option.map_eq_some_iff.mp hf'
  exact ⟨form, hform, hediting form⟩

theorem listPlugins (h : Mirrors config addressed w kept)
    (hserves : ServesAll config addressed kept (w.exchanges w.listPlugins.2) kept') :
    Mirrors config addressed w.listPlugins.2 kept' := by
  rw [World.exchanges, w.follows_listPlugins.exchanges_eq] at hserves
  obtain ⟨rfl, hitems⟩ := Plugin.serves_plugins h.config hserves
  obtain ⟨n, -, hspec⟩ := w.listPlugins_spec
  split at hspec
  · next items hread =>
    rw [hspec]
    exact ⟨hitems items hread, h.distinct, h.form, h.config⟩
  · obtain ⟨f, hspec⟩ := hspec
    rw [hspec]
    exact ⟨h.items, h.distinct, h.form, h.config⟩

/-- The first list that comes makes both lists the same. -/
theorem of_listed (hlisted : ∃ items, w.listPlugins.1 = .ok items)
    (hdistinct : (kept.map Plugin.Kept.id).Nodup)
    (hform : ∀ f, w.state.plugins.form = some f →
      ∀ id, f.editing = some id → ReadAs w.link.config addressed id)
    (hserves : ServesAll w.link.config addressed kept (w.exchanges w.listPlugins.2) kept') :
    Mirrors w.link.config addressed w.listPlugins.2 kept' := by
  rw [World.exchanges, w.follows_listPlugins.exchanges_eq] at hserves
  obtain ⟨rfl, hitems⟩ := Plugin.serves_plugins rfl hserves
  obtain ⟨n, -, hspec⟩ := w.listPlugins_spec
  split at hspec
  · next items hread =>
    rw [hspec]
    exact ⟨hitems items hread, hdistinct, hform, rfl⟩
  · obtain ⟨f, hspec⟩ := hspec
    obtain ⟨items, hok⟩ := hlisted
    rw [hspec] at hok
    cases hok

theorem createPlugin (h : Mirrors config addressed w kept) (d : Plugin.Draft)
    (hserves : ServesAll config addressed kept (w.exchanges (w.createPlugin d).2) kept') :
    Mirrors config addressed (w.createPlugin d).2 kept' := by
  rw [World.exchanges, (w.follows_createPlugin d).exchanges_eq] at hserves
  have hcreate := Plugin.serves_create h.config hserves
  obtain ⟨n, -, hspec⟩ := w.createPlugin_spec d
  rw [hspec]
  cases hread : ((BackendCall.create d).answer? w.link).bind (Http.Reply.read? CreatedReply.decoder) with
  | some reply =>
    rw [hread] at hcreate
    obtain ⟨id, hid, hfresh, rfl⟩ := hcreate
    refine ⟨?_, ?_, h.form, h.config⟩
    · show (w.state.plugins.items ++ [_]).map Plugin.kept = _
      rw [List.map_append, h.items, hid]
      rfl
    · rw [List.map_append, List.nodup_append]
      refine ⟨h.distinct, List.pairwise_singleton _ _, ?_⟩
      intro a ha b hb heq
      obtain rfl := List.mem_singleton.mp hb
      exact hfresh (heq ▸ ha)
  | none =>
    rw [hread] at hcreate
    obtain rfl : kept' = kept := hcreate
    exact ⟨h.items, h.distinct, h.form, h.config⟩

theorem updatePlugin (h : Mirrors config addressed w kept) {id : PluginId} (d : Plugin.Draft)
    (hread : ReadAs config addressed id)
    (hserves : ServesAll config addressed kept (w.exchanges (w.updatePlugin id d).2) kept') :
    Mirrors config addressed (w.updatePlugin id d).2 kept' := by
  rw [World.exchanges, (w.follows_updatePlugin id d).exchanges_eq] at hserves
  have hupdate := Plugin.serves_update h.config hread hserves
  obtain ⟨n, -, hspec⟩ := w.updatePlugin_spec id d
  rw [hspec]
  cases hanswer : ((BackendCall.update id d).answer? w.link).bind (Http.Reply.read? MessageReply.decoder) with
  | some reply =>
    rw [hanswer] at hupdate
    obtain ⟨hknown, rfl⟩ := hupdate
    have hids := h.distinct
    rw [← h.items, Plugin.ids_kept] at hknown hids
    obtain ⟨p, hp, rfl⟩ := PluginSection.plugin?_eq_some_of_mem hknown
    simp only [hp]
    refine ⟨?_, ?_, h.form, h.config⟩
    · rw [← h.items]
      exact Plugin.map_kept_updateFirst { p with name := d.name, body := d.body, snippet := none } hids
    · rw [Plugin.ids_update]
      exact h.distinct
  | none =>
    rw [hanswer] at hupdate
    obtain rfl : kept' = kept := hupdate
    exact ⟨h.items, h.distinct, h.form, h.config⟩

theorem deletePlugin (h : Mirrors config addressed w kept) {id : PluginId} (agrees : Plugin → Bool)
    (hread : ReadAs config addressed id)
    (hserves : ServesAll config addressed kept (w.exchanges (w.deletePlugin id agrees).2.2) kept') :
    Mirrors config addressed (w.deletePlugin id agrees).2.2 kept' := by
  rw [World.exchanges, (w.follows_deletePlugin id agrees).exchanges_eq] at hserves
  rcases w.deletePlugin_cases id agrees with ⟨hnone, hdeleted⟩ | ⟨hsome, n, -, hdeleted⟩
  · rw [hnone] at hserves
    cases hserves
    rw [hdeleted]
    exact h
  · rw [hsome, Option.bind_some] at hserves
    have hdelete := Plugin.serves_delete h.config hread hserves
    rw [hdeleted]
    split at hdelete
    · next hsuccess =>
      subst hdelete
      rw [if_pos hsuccess]
      refine ⟨?_, ?_, h.form, h.config⟩
      · rw [← h.items]
        exact Plugin.map_kept_filter _ id
      · exact h.distinct.sublist (List.filter_sublist.map _)
    · next hsuccess =>
      subst hdelete
      rw [if_neg hsuccess]
      exact ⟨h.items, h.distinct, h.form, h.config⟩

theorem sendForm (h : Mirrors config addressed w kept) {form : PluginForm}
    (hread : ∀ id, form.editing = some id → ReadAs config addressed id)
    (hserves : ServesAll config addressed kept (w.exchanges (w.sendForm form).2) kept') :
    Mirrors config addressed (w.sendForm form).2 kept' := by
  unfold World.sendForm at hserves ⊢
  cases hediting : form.editing with
  | some id =>
    rw [hediting] at hserves
    exact h.updatePlugin form.draft (hread id hediting) hserves
  | none =>
    rw [hediting] at hserves
    exact h.createPlugin form.draft hserves

theorem savePlugin (h : Mirrors config addressed w kept)
    (hserves : ServesAll config addressed kept (w.exchanges w.savePlugin.2) kept') :
    Mirrors config addressed w.savePlugin.2 kept' := by
  rcases w.savePlugin_cases with ⟨-, -, hsave⟩ | ⟨form, -, -, -, hsave⟩ | ⟨form, hform, -, -, hsave⟩
  · have hlink : w.savePlugin.2.link = w.link := by rw [hsave]
    rw [World.exchanges_of_link hlink] at hserves
    cases hserves
    rw [hsave]
    exact h
  · have hlink : w.savePlugin.2.link = w.link := by rw [hsave]; rfl
    rw [World.exchanges_of_link hlink] at hserves
    cases hserves
    rw [hsave]
    exact ⟨h.items, h.distinct, h.form, h.config⟩
  · have hsaving : Mirrors config addressed (w.dispatch (.pluginSaving true)) kept :=
      h.dispatch_form (fun f => { f with saving := true }) fun _ => rfl
    have hexchanges : w.exchanges w.savePlugin.2 =
        (w.dispatch (.pluginSaving true)).exchanges ((w.dispatch (.pluginSaving true)).sendForm form).2 := by
      rw [hsave]
      rfl
    rw [hexchanges] at hserves
    have hsent := hsaving.sendForm (h.form form hform) hserves
    rw [hsave]
    exact ⟨hsent.items, hsent.distinct, nofun, hsent.config⟩

/-- One operation: at a backend that has served what was exchanged, both lists stay the same. -/
theorem perform (h : Mirrors config addressed w kept) (op : PluginOperation)
    (hread : ∀ id, op.names? = some id → ReadAs config addressed id)
    (hserves : ServesAll config addressed kept (w.exchanges (op.perform w)) kept') :
    Mirrors config addressed (op.perform w) kept' := by
  have hnothing : (op.perform w).link = w.link → kept' = kept := by
    intro hlink
    rw [World.exchanges_of_link hlink] at hserves
    cases hserves
    rfl
  cases op with
  | list => exact h.listPlugins hserves
  | save => exact h.savePlugin hserves
  | delete id agrees => exact h.deletePlugin agrees (hread id rfl) hserves
  | openForm plugin =>
    obtain rfl := hnothing rfl
    refine ⟨h.items, h.distinct, ?_, h.config⟩
    intro f hf id hid
    obtain rfl := Option.some.inj hf
    refine hread id ?_
    cases plugin <;> exact hid
  | rename name =>
    obtain rfl := hnothing rfl
    exact h.dispatch_form (fun f => { f with name := name }) fun _ => rfl
  | input text caret =>
    obtain rfl := hnothing rfl
    exact h.dispatch_form (fun f => { f with code := .input text caret }) fun _ => rfl
  | closeForm =>
    obtain rfl := hnothing rfl
    exact ⟨h.items, h.distinct, nofun, h.config⟩

theorem performAll (h : Mirrors config addressed w kept) (ops : List PluginOperation)
    (hread : ∀ id ∈ ops.filterMap PluginOperation.names?, ReadAs config addressed id)
    (hserves : ServesAll config addressed kept (w.exchanges (PluginOperation.performAll w ops)) kept') :
    Mirrors config addressed (PluginOperation.performAll w ops) kept' := by
  induction ops generalizing w kept with
  | nil =>
    have hlink : (PluginOperation.performAll w []).link = w.link := rfl
    rw [World.exchanges_of_link hlink] at hserves
    cases hserves
    exact h
  | cons op ops ih =>
    rw [World.exchanges_performAll_cons] at hserves
    obtain ⟨between, hbefore, hafter⟩ := hserves.of_append
    refine ih (h.perform op ?_ hbefore) ?_ hafter
    · intro id hid
      exact hread id (List.mem_filterMap.mpr ⟨op, List.mem_cons_self, hid⟩)
    · intro id hid
      obtain ⟨op', hop', hid'⟩ := List.mem_filterMap.mp hid
      exact hread id (List.mem_filterMap.mpr ⟨op', List.mem_cons_of_mem _ hop', hid'⟩)

end Mirrors

/-! ## What was typed

An open form is the one from before, with the name and the text that were typed
last. The list and a deletion do not touch it, and neither does a save that is
not sent. -/

namespace PluginOperation

def opens : PluginOperation → Bool
  | openForm _ => true
  | _ => false

def name? : PluginOperation → Option String
  | rename name => some name
  | _ => none

def text? : PluginOperation → Option String
  | input text _ => some text
  | _ => none

end PluginOperation

/-- The form is the one from before, with the name and the text that were typed last. -/
structure PluginForm.Typed (f : PluginForm) (ops : List PluginOperation) (f' : PluginForm) : Prop where
  editing : f'.editing = f.editing
  name : f'.name = (ops.filterMap PluginOperation.name?).getLast?.getD f.name
  text : f'.code.text = (ops.filterMap PluginOperation.text?).getLast?.getD f.code.text

namespace PluginForm

variable {f f' f'' : PluginForm} {ops ops' : List PluginOperation}

theorem Typed.trans (h : f.Typed ops f') (h' : f'.Typed ops' f'') : f.Typed (ops ++ ops') f'' where
  editing := h'.editing.trans h.editing
  name := by
    rw [h'.name, h.name, List.filterMap_append, List.getLast?_append]
    cases (ops'.filterMap PluginOperation.name?).getLast? <;> rfl
  text := by
    rw [h'.text, h.text, List.filterMap_append, List.getLast?_append]
    cases (ops'.filterMap PluginOperation.text?).getLast? <;> rfl

end PluginForm

namespace World

variable {w : World Client}

theorem form_listPlugins (w : World Client) : w.listPlugins.2.state.plugins.form = w.state.plugins.form := by
  obtain ⟨n, -, hspec⟩ := w.listPlugins_spec
  split at hspec
  · rw [hspec]
    rfl
  · obtain ⟨f, hspec⟩ := hspec
    rw [hspec]
    rfl

theorem form_deletePlugin (w : World Client) (id : PluginId) (agrees : Plugin → Bool) :
    (w.deletePlugin id agrees).2.2.state.plugins.form = w.state.plugins.form := by
  rcases w.deletePlugin_cases id agrees with ⟨-, hdelete⟩ | ⟨-, n, -, hdelete⟩
  · rw [hdelete]
  · rw [hdelete]
    split <;> rfl

theorem form_of_savePlugin {f' : PluginForm} (h : w.savePlugin.2.state.plugins.form = some f') :
    w.state.plugins.form = some f' := by
  rcases w.savePlugin_cases with ⟨-, -, hsave⟩ | ⟨form, -, -, -, hsave⟩ | ⟨form, -, -, -, hsave⟩
  · rw [hsave] at h
    exact h
  · rw [hsave] at h
    exact h
  · rw [hsave] at h
    cases h

/-- A form that is open after an operation that does not open it was open before. -/
theorem typed_perform {op : PluginOperation} (hop : op.opens = false) {f' : PluginForm}
    (h : (op.perform w).state.plugins.form = some f') :
    ∃ f, w.state.plugins.form = some f ∧ f.Typed [op] f' := by
  cases op with
  | list =>
    rw [PluginOperation.perform, form_listPlugins] at h
    exact ⟨f', h, rfl, rfl, rfl⟩
  | save => exact ⟨f', form_of_savePlugin h, rfl, rfl, rfl⟩
  | delete id agrees =>
    rw [PluginOperation.perform, form_deletePlugin] at h
    exact ⟨f', h, rfl, rfl, rfl⟩
  | openForm => cases hop
  | rename name =>
    obtain ⟨f, hf, rfl⟩ := Option.map_eq_some_iff.mp h
    exact ⟨f, hf, rfl, rfl, rfl⟩
  | input text caret =>
    obtain ⟨f, hf, rfl⟩ := Option.map_eq_some_iff.mp h
    exact ⟨f, hf, rfl, rfl, rfl⟩
  | closeForm => cases h

theorem typed_performAll {ops : List PluginOperation} (hops : ∀ op ∈ ops, op.opens = false) {f' : PluginForm}
    (h : (PluginOperation.performAll w ops).state.plugins.form = some f') :
    ∃ f, w.state.plugins.form = some f ∧ f.Typed ops f' := by
  induction ops generalizing w with
  | nil => exact ⟨f', h, rfl, rfl, rfl⟩
  | cons op ops ih =>
    obtain ⟨f, hf, htyped⟩ := ih (fun op hop => hops op (List.mem_cons_of_mem _ hop)) h
    obtain ⟨f₀, hf₀, hstep⟩ := typed_perform (hops op List.mem_cons_self) hf
    exact ⟨f₀, hf₀, hstep.trans htyped⟩

end World

/-- What a save sends of a form after some operations: the name and the text that were typed last, or else
those of the plugin that the form was opened on. The name is trimmed. -/
def PluginForm.draftOf (opened : Option Plugin) (typed : List PluginOperation) : Plugin.Draft where
  name := Text.trimmed
    ((typed.filterMap PluginOperation.name?).getLast?.getD ((opened.map Plugin.name).getD ""))
  body := (typed.filterMap PluginOperation.text?).getLast?.getD ((opened.map Plugin.body).getD "")

/-- The attempt to save a draft of a plugin, or of a new one. -/
def BackendCall.saving (opened : Option Plugin) (d : Plugin.Draft) : BackendCall :=
  match opened with
  | some p => .update p.id d
  | none => .create d

theorem PluginForm.Typed.draft {opened : Option Plugin} {typed : List PluginOperation} {f : PluginForm}
    (h : (PluginForm.ofPlugin opened).Typed typed f) : f.draft = PluginForm.draftOf opened typed := by
  unfold PluginForm.draft PluginForm.draftOf
  rw [h.name, h.text]
  cases opened <;> rfl

theorem PluginForm.Typed.attempt {opened : Option Plugin} {typed : List PluginOperation} {f : PluginForm}
    (h : (PluginForm.ofPlugin opened).Typed typed f) :
    f.attempt = BackendCall.saving opened (PluginForm.draftOf opened typed) := by
  unfold PluginForm.attempt
  rw [h.editing, h.draft]
  cases opened <;> rfl

/-- What a save sends after a form was opened and typed into. -/
theorem exchanges_save {w : World Client} {opened : Option Plugin} {typed : List PluginOperation}
    (htyped : ∀ op ∈ typed, op.opens = false)
    {w' : World Client} (hw' : w' = PluginOperation.performAll w (.openForm opened :: typed)) :
    w'.exchanges w'.savePlugin.2 =
      if w'.state.plugins.form.isSome ∧ (PluginForm.draftOf opened typed).name ≠ "" ∧
          Text.isBlankText (PluginForm.draftOf opened typed).body = false then
        ((BackendCall.saving opened (PluginForm.draftOf opened typed)).exchange? w'.link).toList
      else [] := by
  rw [World.exchanges, w'.follows_savePlugin.exchanges_eq]
  cases hform : w'.state.plugins.form with
  | none =>
    rw [PluginOperation.attempt?_save_of_closed hform, if_neg (fun h => Bool.false_ne_true h.1)]
    rfl
  | some f =>
    have hopen : (PluginOperation.performAll
        (w.dispatch (.pluginEditorOpened opened)) typed).state.plugins.form = some f := by
      rw [← hform, hw']
      rfl
    obtain ⟨f₀, hf₀, h⟩ := World.typed_performAll htyped hopen
    obtain rfl : PluginForm.ofPlugin opened = f₀ := Option.some.inj hf₀
    have hcomplete : f.isComplete = true ↔ (PluginForm.draftOf opened typed).name ≠ "" ∧
        Text.isBlankText (PluginForm.draftOf opened typed).body = false := by
      rw [← h.draft, PluginForm.isComplete, Editor.isBlank, Bool.and_eq_true, bne_iff_ne, Bool.not_eq_true']
      rfl
    cases hc : f.isComplete with
    | true =>
      rw [PluginOperation.attempt?_save_of_complete hform hc, if_pos ⟨rfl, hcomplete.mp hc⟩, h.attempt]
      rfl
    | false =>
      rw [PluginOperation.attempt?_save_of_incomplete hform hc, if_neg]
      · rfl
      · rintro ⟨-, hboth⟩
        rw [hcomplete.mpr hboth] at hc
        cases hc

theorem draft_of_saving {c : Client} {opened : Option Plugin} {d : Plugin.Draft} {e : Http.Exchange}
    (h : (BackendCall.saving opened d).exchange? c = some e) : e.request.draft? = some d := by
  obtain ⟨-, -, hbody⟩ := Plugin.of_exchange rfl h
  refine Plugin.draft?_of_body (hbody.trans ?_)
  cases opened <;> rfl

/-- Beside a backend that keeps a list of plugins with different identifiers, and reads those that it is given,
the list shown is the one kept, from the first list that has come on and after any operations: in order,
identifiers, names and bodies. A save sends what was typed last, the text as it is and the name trimmed, or
else what the plugin was opened with; nothing if the form is closed or one of the two is blank. -/
theorem plugin_list_mirrors_backend (w : World Client) (addressed : Url → Option PluginId)
    {kept kept' : List Plugin.Kept} (ops : List PluginOperation)
    (hlisted : ∃ items, w.listPlugins.1 = .ok items) (hdistinct : (kept.map Plugin.Kept.id).Nodup)
    (hread : ∀ id, id ∈ ops.filterMap PluginOperation.names? ∨
      w.state.plugins.form.bind PluginForm.editing = some id → Plugin.ReadAs w.link.config addressed id)
    (hserves : Plugin.ServesAll w.link.config addressed kept
      (w.exchanges (PluginOperation.performAll w (.list :: ops))) kept') :
    let w' := PluginOperation.performAll w (.list :: ops)
    w'.state.plugins.items.map Plugin.kept = kept' ∧
      ∀ before opened typed, ops = before ++ .openForm opened :: typed → (∀ op ∈ typed, op.opens = false) →
        let draft := PluginForm.draftOf opened typed
        w'.exchanges (PluginOperation.save.perform w') =
          (if w'.state.plugins.form.isSome ∧ draft.name ≠ "" ∧ Text.isBlankText draft.body = false then
            ((BackendCall.saving opened draft).exchange? w'.link).toList else []) ∧
        ∀ e, (BackendCall.saving opened draft).exchange? w'.link = some e → e.request.draft? = some draft := by
  intro w'
  constructor
  · rw [World.exchanges_performAll_cons] at hserves
    obtain ⟨between, hbefore, hafter⟩ := hserves.of_append
    have hmirrors : Mirrors w.link.config addressed w.listPlugins.2 between := by
      refine .of_listed hlisted hdistinct (fun f hf id hid => hread id (.inr ?_)) hbefore
      rw [hf]
      exact hid
    exact (hmirrors.performAll ops (fun id hid => hread id (.inl hid)) hafter).items
  · intro before opened typed hops htyped draft
    refine ⟨?_, fun e he => draft_of_saving he⟩
    refine exchanges_save (w := PluginOperation.performAll w (.list :: before)) htyped ?_
    show PluginOperation.performAll w (.list :: ops) = _
    rw [hops, PluginOperation.performAll, PluginOperation.performAll, PluginOperation.performAll,
      ← List.cons_append, List.foldl_append]

def Plugin.disk : Plugin := ⟨⟨"disk"⟩, "disk", "df", none⟩

/-- A backend with one plugin, which is asked for and then changed. -/
def World.editing : World Client where
  clock := ⟨0⟩
  link := { Client.loopback with
    network := { replies :=
      [some (.ofText 200 (Json.Value.array [Plugin.disk.toJson]).compact), some (.ofText 200 "{}")] } }

/-- The plugin opened, typed into and saved. -/
def PluginOperation.edits : List PluginOperation :=
  [.openForm (some .disk), .rename " usage ", .input "df -h" 5, .save]

/-- The identifier in the last segment of an address. -/
def Plugin.addressed (u : Url) : Option PluginId :=
  match u.path with
  | .segments ss => ss.getLast?.map fun s => ⟨String.ofList (Text.Utf8.decodeLossy (Url.percentDecode s))⟩
  | .plain _ => none

/-- The exchange in which the list is asked for. -/
def Http.Exchange.listing : Http.Exchange where
  request := ⟨"GET", Client.pluginUrl Client.loopbackUrl [], [], none⟩
  answer := some (.ofText 200 (Json.Value.array [Plugin.disk.toJson]).compact)

/-- The exchange in which the plugin is changed. -/
def Http.Exchange.changing : Http.Exchange where
  request := ⟨"PUT", Client.pluginUrl Client.loopbackUrl "disk".toList, [("content-type", "application/json")],
    some (Plugin.Draft.mk "usage" "df -h").toJson.compact⟩
  answer := some (.ofText 200 "{}")

open PluginOperation in
theorem plugin_list_mirrors_backend_edited :
    (∃ items, World.editing.listPlugins.1 = .ok items) ∧ ([Plugin.disk.kept].map Plugin.Kept.id).Nodup ∧
      Plugin.ReadAs World.editing.link.config Plugin.addressed ⟨"disk"⟩ ∧
      Plugin.ServesAll World.editing.link.config Plugin.addressed [Plugin.disk.kept]
        (World.editing.exchanges (performAll .editing (.list :: edits))) [⟨⟨"disk"⟩, "usage", "df -h"⟩] ∧
      (performAll .editing (.list :: edits)).state.plugins.items.map Plugin.kept =
        [⟨⟨"disk"⟩, "usage", "df -h"⟩] := by
  have hlisted : World.editing.listPlugins.1 = .ok [.disk] := by decide +kernel
  have hread : Plugin.ReadAs World.editing.link.config Plugin.addressed ⟨"disk"⟩ := by
    intro url hurl
    have hendpoint : World.editing.link.config.endpoint (Client.pluginPath ⟨"disk"⟩) =
        .ok (Client.pluginUrl Client.loopbackUrl "disk".toList) := rfl
    obtain rfl := Except.ok.inj (hendpoint.symm.trans hurl)
    decide +kernel
  have hexchanges : World.editing.exchanges (performAll .editing (.list :: edits)) =
      [.listing, .changing] := by
    decide +kernel
  have hlists : Plugin.Serves World.editing.link.config Plugin.addressed [Plugin.disk.kept] .listing
      [Plugin.disk.kept] := by
    have hitems : Http.Reply.read? (Decoder.list Plugin.decoder)
        (.ofText 200 (Json.Value.array [Plugin.disk.toJson]).compact) = some [.disk] := by
      decide +kernel
    exact .lists (by decide +kernel) hitems rfl
  have hupdates : Plugin.Serves World.editing.link.config Plugin.addressed [Plugin.disk.kept] .changing
      [⟨⟨"disk"⟩, "usage", "df -h"⟩] := by
    have hdraft : Http.Exchange.changing.request.draft? = some ⟨"usage", "df -h"⟩ := by decide +kernel
    have hm : Http.Reply.read? MessageReply.decoder (.ofText 200 "{}") = some ⟨none⟩ := by decide +kernel
    have haddressed : Plugin.addressed Http.Exchange.changing.request.url = some ⟨"disk"⟩ := by decide +kernel
    exact .updates rfl haddressed hdraft (List.mem_singleton.mpr rfl) hm
  have hserves : Plugin.ServesAll World.editing.link.config Plugin.addressed [Plugin.disk.kept]
      (World.editing.exchanges (performAll .editing (.list :: edits))) [⟨⟨"disk"⟩, "usage", "df -h"⟩] := by
    rw [hexchanges]
    exact .cons hlists (.cons hupdates .nil)
  have hdistinct : ([Plugin.disk.kept].map Plugin.Kept.id).Nodup := List.pairwise_singleton _ _
  refine ⟨⟨_, hlisted⟩, hdistinct, hread, hserves, ?_⟩
  refine (plugin_list_mirrors_backend .editing Plugin.addressed edits ⟨_, hlisted⟩ hdistinct ?_ hserves).1
  rintro id (hid | hid)
  · obtain rfl : id = ⟨"disk"⟩ := List.mem_singleton.mp hid
    exact hread
  · cases hid

end ScanConsole
