import ScanConsole.Console.Operation
import ScanConsole.Proofs.Exchanges

/-!
# What the operations on plugins come to

For each operation of the section: the request that it attempts
(`PluginOperation.attempt?`), and the world that it leaves, by the answer to
that request. Nothing here looks into the list of plugins.

    listPlugins     GET      the list is shown, or a failure is told
    savePlugin      PUT      the plugin under edit is changed, or a failure
                    POST     a new plugin is added, or a failure
    deletePlugin    DELETE   the plugin is taken out, or a failure

A save attempts something only if the form is open and complete, and a deletion
only of a known plugin on which the operator agrees. These are the cases of
`savePlugin_cases` and `deletePlugin_cases`, by which other modules open the two
operations.

An answer that the client does not get and one that it cannot read have the same
effect as a refusal: a text on the banner of the section. So the theorems are
about `answer?`, which is `none` for the first, and never about the failures of
the client themselves.

The network goes on by the exchange of the attempt, and by none if nothing is
attempted (`follows_perform`). This is all that the theorems about the token and
about the backend's list need to know of the operations.
-/

namespace ScanConsole

open Json (Decoder)

structure BackendCall where
  method : String
  path : String
  body : Option Json.Value

namespace BackendCall

/-- The exchange that a client makes of it. -/
def exchange? (a : BackendCall) (c : Client) : Option Http.Exchange := c.exchange? a.method a.path [] a.body

/-- The answer that the client gets, if one comes. -/
def answer? (a : BackendCall) (c : Client) : Option Http.Reply := c.answer? a.method a.path [] a.body

def update (id : PluginId) (d : Plugin.Draft) : BackendCall := ⟨"PUT", Client.pluginPath id, some d.toJson⟩

def create (d : Plugin.Draft) : BackendCall := ⟨"POST", "/api/plugins/", some d.toJson⟩

def delete (id : PluginId) : BackendCall := ⟨"DELETE", Client.pluginPath id, none⟩

def plugins : BackendCall := ⟨"GET", "/api/plugins/", none⟩

end BackendCall

def PluginForm.attempt (f : PluginForm) : BackendCall :=
  match f.editing with
  | some id => .update id f.draft
  | none => .create f.draft

/-- What an operation attempts, if it attempts anything. -/
def PluginOperation.attempt? (s : State) : PluginOperation → Option BackendCall
  | list => some .plugins
  | save => (s.plugins.form.filter PluginForm.isComplete).map PluginForm.attempt
  | delete id agrees => ((s.plugins.plugin? id).filter agrees).map fun _ => .delete id
  | _ => none

namespace PluginOperation

variable {s : State} {form : PluginForm}

theorem attempt?_save_of_closed (hform : s.plugins.form = none) : save.attempt? s = none := by
  rw [attempt?, hform]
  rfl

theorem attempt?_save_of_incomplete (hform : s.plugins.form = some form)
    (hcomplete : form.isComplete = false) : save.attempt? s = none := by
  rw [attempt?, hform, Option.filter_some, hcomplete]
  rfl

theorem attempt?_save_of_complete (hform : s.plugins.form = some form)
    (hcomplete : form.isComplete = true) : save.attempt? s = some form.attempt := by
  rw [attempt?, hform, Option.filter_some, hcomplete]
  rfl

end PluginOperation

namespace World

theorem listPlugins_spec (w : World Client) :
    ∃ n, w.link.network.Follows (BackendCall.plugins.exchange? w.link).toList n ∧
      match (BackendCall.plugins.answer? w.link).bind (Http.Reply.read? (Decoder.list Plugin.decoder)) with
      | some items => w.listPlugins = (.ok items, (w.withNetwork n).dispatch (.pluginsLoaded items))
      | none => ∃ f, w.listPlugins =
          (.error f, (w.withNetwork n).dispatch (.pluginNotice (.error PluginSection.loadFailed))) := by
  have hcall : Client.listPlugins =
      Client.call (Decoder.list Plugin.decoder) "GET" "/api/plugins/" none := rfl
  obtain ⟨reply, n, htakes, hn, h⟩ :=
    w.viaClient_call (Decoder.list Plugin.decoder) "GET" "/api/plugins/" none
  refine ⟨n, hn, ?_⟩
  unfold listPlugins BackendCall.answer? BackendCall.plugins
  rw [hcall, h]
  rcases Client.readAs_of_takes (Decoder.list Plugin.decoder) htakes with
    ⟨items, hread, heq⟩ | ⟨hread, f, heq, -⟩
  · simp only [hread, heq]
  · simp only [hread, heq]
    exact ⟨f, rfl⟩

theorem updatePlugin_spec (w : World Client) (id : PluginId) (d : Plugin.Draft) :
    ∃ n, w.link.network.Follows ((BackendCall.update id d).exchange? w.link).toList n ∧
      w.updatePlugin id d =
        match ((BackendCall.update id d).answer? w.link).bind (Http.Reply.read? MessageReply.decoder) with
        | some reply => (.success (reply.message.getD ""),
            match w.state.plugins.plugin? id with
            | some p => (w.withNetwork n).dispatch
                (.pluginUpdated { p with name := d.name, body := d.body, snippet := none })
            | none => w.withNetwork n)
        | none => (.error (wordsOr PluginSection.saveFailed
            (((BackendCall.update id d).answer? w.link).bind Http.Reply.words?)), w.withNetwork n) := by
  have hcall : Client.updatePlugin id d = Client.call MessageReply.decoder "PUT" (Client.pluginPath id)
      (some d.toJson) := rfl
  obtain ⟨reply, n, htakes, hn, h⟩ :=
    w.viaClient_call MessageReply.decoder "PUT" (Client.pluginPath id) (some d.toJson)
  refine ⟨n, hn, ?_⟩
  have hplugin : (w.withNetwork n).state.plugins.plugin? id = w.state.plugins.plugin? id := rfl
  unfold updatePlugin BackendCall.answer? BackendCall.update
  rw [hcall, h]
  rcases Client.readAs_of_takes MessageReply.decoder htakes with ⟨m, hread, heq⟩ | ⟨hread, f, heq, hwords⟩
  · simp only [hread, heq, hplugin]
    cases w.state.plugins.plugin? id <;> rfl
  · simp only [hread, heq, Failure.userMessage_eq, hwords]

theorem createPlugin_spec (w : World Client) (d : Plugin.Draft) :
    ∃ n, w.link.network.Follows ((BackendCall.create d).exchange? w.link).toList n ∧
      w.createPlugin d =
        match ((BackendCall.create d).answer? w.link).bind (Http.Reply.read? CreatedReply.decoder) with
        | some reply => (.success (reply.message.getD ""), (w.withNetwork n).dispatch
            (.pluginCreated ⟨reply.id.getD ⟨d.name⟩, d.name, d.body, none⟩))
        | none => (.error (wordsOr PluginSection.saveFailed
            (((BackendCall.create d).answer? w.link).bind Http.Reply.words?)), w.withNetwork n) := by
  have hcall : Client.createPlugin d = Client.call CreatedReply.decoder "POST" "/api/plugins/"
      (some d.toJson) := rfl
  obtain ⟨reply, n, htakes, hn, h⟩ :=
    w.viaClient_call CreatedReply.decoder "POST" "/api/plugins/" (some d.toJson)
  refine ⟨n, hn, ?_⟩
  unfold createPlugin BackendCall.answer? BackendCall.create
  rw [hcall, h]
  rcases Client.readAs_of_takes CreatedReply.decoder htakes with ⟨m, hread, heq⟩ | ⟨hread, f, heq, hwords⟩
  · simp only [hread, heq]
  · simp only [hread, heq, Failure.userMessage_eq, hwords]

/-- A deletion of no known plugin, or on which the operator does not agree, attempts nothing and changes
nothing. Any other attempts one request, of which only the status of the answer counts. -/
theorem deletePlugin_cases (w : World Client) (id : PluginId) (agrees : Plugin → Bool) :
    ((PluginOperation.delete id agrees).attempt? w.state = none ∧ (w.deletePlugin id agrees).2 = (none, w)) ∨
      ((PluginOperation.delete id agrees).attempt? w.state = some (.delete id) ∧
        ∃ n, w.link.network.Follows ((BackendCall.delete id).exchange? w.link).toList n ∧
          (w.deletePlugin id agrees).2 =
            if ((BackendCall.delete id).answer? w.link).any Http.Reply.isSuccess then
              (some (.success PluginSection.deleted), (w.withNetwork n).dispatchAll
                [.pluginDeleted id, .pluginNotice (.success PluginSection.deleted)])
            else
              let notice := Notice.error (wordsOr PluginSection.deleteFailed
                (((BackendCall.delete id).answer? w.link).bind Http.Reply.words?))
              (some notice, (w.withNetwork n).dispatch (.pluginNotice notice))) := by
  unfold deletePlugin
  cases hplugin : w.state.plugins.plugin? id with
  | none =>
    refine .inl ⟨?_, rfl⟩
    simp only [PluginOperation.attempt?, hplugin, Option.filter_none, Option.map_none]
  | some p =>
    cases hagrees : agrees p with
    | false =>
      refine .inl ⟨?_, by simp only [hagrees, Bool.false_eq_true, if_false]⟩
      simp [PluginOperation.attempt?, hplugin, hagrees]
    | true =>
      obtain ⟨reply, n, htakes, hn, h⟩ := w.link.send_spec "DELETE" (Client.pluginPath id) [] none
      refine .inr ⟨by simp [PluginOperation.attempt?, hplugin, hagrees], n, hn, ?_⟩
      have hcall : w.viaClient (Client.deletePlugin id) =
          ((Client.accepted reply).map fun _ => (), w.withNetwork n) := by
        simp only [viaClient, Client.deletePlugin, h, withNetwork]
      unfold BackendCall.answer? BackendCall.delete
      simp only [hagrees, if_true, hcall]
      rcases Client.accepted_of_takes htakes with ⟨r, hanswer, hsuccess, heq⟩ | ⟨hno, f, heq, hwords⟩
      · simp only [hanswer, heq, Option.any_some, hsuccess, if_true, Except.map]
        rfl
      · simp only [hno, heq, Except.map, Failure.userMessage_eq, hwords, Bool.false_eq_true, if_false]

def sendForm (form : PluginForm) (w : World Client) : Notice × World Client :=
  match form.editing with
  | some id => w.updatePlugin id form.draft
  | none => w.createPlugin form.draft

/-- A form that is complete is closed, whatever becomes of what it attempts. -/
theorem savePlugin_of_complete {w : World Client} {form : PluginForm}
    (hform : w.state.plugins.form = some form) (hcomplete : form.isComplete = true) :
    w.savePlugin = (some ((w.dispatch (.pluginSaving true)).sendForm form).1,
      ((w.dispatch (.pluginSaving true)).sendForm form).2.dispatchAll
        [.pluginNotice ((w.dispatch (.pluginSaving true)).sendForm form).1, .pluginSaving false,
          .pluginEditorClosed]) := by
  cases hediting : form.editing <;>
    simp only [savePlugin, hform, hcomplete, if_true, sendForm, hediting]

/-- A form that is not complete stays open, and attempts nothing. -/
theorem savePlugin_of_incomplete {w : World Client} {form : PluginForm}
    (hform : w.state.plugins.form = some form) (hcomplete : form.isComplete = false) :
    w.savePlugin = (some (.error PluginSection.missingFields),
      w.dispatch (.pluginNotice (.error PluginSection.missingFields))) := by
  simp only [savePlugin, hform, hcomplete, Bool.false_eq_true, if_false]

theorem savePlugin_of_closed {w : World Client} (hform : w.state.plugins.form = none) :
    w.savePlugin = (none, w) := by
  simp only [savePlugin, hform]

/-- All that a save can do. -/
theorem savePlugin_cases (w : World Client) :
    (w.state.plugins.form = none ∧ PluginOperation.save.attempt? w.state = none ∧ w.savePlugin = (none, w)) ∨
      (∃ form, w.state.plugins.form = some form ∧ form.isComplete = false ∧
        PluginOperation.save.attempt? w.state = none ∧
        w.savePlugin = (some (.error PluginSection.missingFields),
          w.dispatch (.pluginNotice (.error PluginSection.missingFields)))) ∨
      ∃ form, w.state.plugins.form = some form ∧ form.isComplete = true ∧
        PluginOperation.save.attempt? w.state = some form.attempt ∧
        w.savePlugin = (some ((w.dispatch (.pluginSaving true)).sendForm form).1,
          ((w.dispatch (.pluginSaving true)).sendForm form).2.dispatchAll
            [.pluginNotice ((w.dispatch (.pluginSaving true)).sendForm form).1, .pluginSaving false,
              .pluginEditorClosed]) := by
  cases hform : w.state.plugins.form with
  | none => exact .inl ⟨rfl, PluginOperation.attempt?_save_of_closed hform, savePlugin_of_closed hform⟩
  | some form =>
    cases hcomplete : form.isComplete with
    | false => exact .inr (.inl ⟨form, rfl, hcomplete,
        PluginOperation.attempt?_save_of_incomplete hform hcomplete, savePlugin_of_incomplete hform hcomplete⟩)
    | true => exact .inr (.inr ⟨form, rfl, hcomplete,
        PluginOperation.attempt?_save_of_complete hform hcomplete, savePlugin_of_complete hform hcomplete⟩)

/-! ### The network -/

theorem follows_listPlugins (w : World Client) :
    w.link.network.Follows (BackendCall.plugins.exchange? w.link).toList w.listPlugins.2.link.network := by
  obtain ⟨n, hn, hspec⟩ := w.listPlugins_spec
  split at hspec
  · rw [hspec]
    exact hn
  · obtain ⟨f, hspec⟩ := hspec
    rw [hspec]
    exact hn

theorem follows_updatePlugin (w : World Client) (id : PluginId) (d : Plugin.Draft) :
    w.link.network.Follows ((BackendCall.update id d).exchange? w.link).toList
      (w.updatePlugin id d).2.link.network := by
  obtain ⟨n, hn, hspec⟩ := w.updatePlugin_spec id d
  rw [hspec]
  split
  · cases w.state.plugins.plugin? id <;> exact hn
  · exact hn

theorem follows_createPlugin (w : World Client) (d : Plugin.Draft) :
    w.link.network.Follows ((BackendCall.create d).exchange? w.link).toList
      (w.createPlugin d).2.link.network := by
  obtain ⟨n, hn, hspec⟩ := w.createPlugin_spec d
  rw [hspec]
  split <;> exact hn

theorem follows_sendForm (w : World Client) (form : PluginForm) :
    w.link.network.Follows (form.attempt.exchange? w.link).toList (w.sendForm form).2.link.network := by
  unfold PluginForm.attempt sendForm
  cases form.editing with
  | some id => exact w.follows_updatePlugin id form.draft
  | none => exact w.follows_createPlugin form.draft

theorem follows_savePlugin (w : World Client) :
    w.link.network.Follows ((PluginOperation.save.attempt? w.state).bind (·.exchange? w.link)).toList
      w.savePlugin.2.link.network := by
  rcases w.savePlugin_cases with ⟨-, hnone, hsave⟩ | ⟨form, -, -, hnone, hsave⟩ | ⟨form, -, -, hsome, hsave⟩
  · rw [hnone, hsave]
    exact .refl _
  · rw [hnone, hsave]
    exact .refl _
  · rw [hsome, hsave]
    exact follows_sendForm (w.dispatch (.pluginSaving true)) form

theorem follows_deletePlugin (w : World Client) (id : PluginId) (agrees : Plugin → Bool) :
    w.link.network.Follows
      (((PluginOperation.delete id agrees).attempt? w.state).bind (·.exchange? w.link)).toList
      (w.deletePlugin id agrees).2.2.link.network := by
  rcases w.deletePlugin_cases id agrees with ⟨hnone, hdelete⟩ | ⟨hsome, n, hn, hdelete⟩
  · rw [hnone, hdelete]
    exact .refl _
  · rw [hsome, hdelete]
    split <;> exact hn

/-- An operation exchanges what it attempts, and nothing else. -/
theorem follows_perform (w : World Client) (op : PluginOperation) :
    w.link.network.Follows ((op.attempt? w.state).bind (·.exchange? w.link)).toList
      (op.perform w).link.network := by
  cases op with
  | list => exact w.follows_listPlugins
  | save => exact w.follows_savePlugin
  | delete id agrees => exact w.follows_deletePlugin id agrees
  | openForm => exact .refl _
  | rename => exact .refl _
  | input => exact .refl _
  | closeForm => exact .refl _

theorem exists_follows_performAll (w : World Client) (ops : List PluginOperation) :
    ∃ es, w.link.network.Follows es (PluginOperation.performAll w ops).link.network := by
  induction ops generalizing w with
  | nil => exact ⟨[], .refl _⟩
  | cons op ops ih =>
    obtain ⟨es, hes⟩ := ih (op.perform w)
    exact ⟨_, (w.follows_perform op).trans hes⟩

/-- What is exchanged in several operations is what is exchanged in the first, and then in the others. -/
theorem exchanges_performAll_cons (w : World Client) (op : PluginOperation) (ops : List PluginOperation) :
    w.exchanges (PluginOperation.performAll w (op :: ops)) =
      w.exchanges (op.perform w) ++
        (op.perform w).exchanges (PluginOperation.performAll (op.perform w) ops) := by
  have hstep := w.follows_perform op
  obtain ⟨es, hes⟩ := (op.perform w).exists_follows_performAll ops
  rw [exchanges, exchanges, exchanges, hstep.exchanges_eq, hes.exchanges_eq]
  exact (hstep.trans hes).exchanges_eq

end World

end ScanConsole
