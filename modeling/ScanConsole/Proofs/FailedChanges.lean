import ScanConsole.Proofs.PluginRequests
import ScanConsole.Proofs.ResourceList

/-!
# Changes that fail

Four operations of the sections change something at the backend
(`SectionChange`): enrolling a resource, deleting one, saving a plugin and
deleting one. Each attempts one request, unless it is a save of a form that is
closed or not complete, or a deletion that is of no known plugin or not agreed
on.

An answer may be no success in many ways (`SectionChange.isConfirmedBy`), and
all of them have one effect: the operator reads what `SectionChange.refusal`
says, on the banner of the section, and nothing else in the console has changed,
except that a form that was sent is closed.

    no answer, or one that cannot   the text of the console for this change
    be read, or without words
    a status that is no success     the words of the backend in it
    a success of the resources      the words of it, or the console's text for
    with another message            an answer that it does not expect

`failed_change_shows_banner` states this as an equation between the state after
the operation and the state before (`SectionChange.afterRefusal`), so every
field that is not mentioned in the latter is left alone: the lists, the query,
the other sections, the sessions and the tabs. It assumes nothing of the state
in which the change is asked for.
-/

namespace ScanConsole

/-- What changes something at the backend, as it is asked for in a section. -/
inductive SectionChange where
  | enroll (e : Enrollment)
  | deleteResource (address : String)
  | savePlugin
  | deletePlugin (id : PluginId) (agrees : Plugin → Bool)

namespace SectionChange

/-- What the operator is told, and the world after it. -/
def perform (w : World Client) : SectionChange → Option Notice × World Client
  | enroll e => (some (w.enroll e).1, (w.enroll e).2)
  | deleteResource address => (some (w.deleteResource address).1, (w.deleteResource address).2)
  | savePlugin => w.savePlugin
  | deletePlugin id agrees => (w.deletePlugin id agrees).2

/-- What a change attempts, if it attempts anything. -/
def attempt? (s : State) : SectionChange → Option BackendCall
  | enroll e => some ⟨"POST", "/api/resources/", some e.toJson⟩
  | deleteResource address => some ⟨"POST", "/api/resources/delete/", some (deletionJson address)⟩
  | savePlugin => PluginOperation.save.attempt? s
  | deletePlugin id agrees => (PluginOperation.delete id agrees).attempt? s

/-- The answer is the success that the change waits for: the expected message, a body that can be read, or for
the deletion of a plugin the status alone. -/
def isConfirmedBy (s : State) (answer : Option Http.Reply) : SectionChange → Bool
  | enroll _ => answer.bind Http.Reply.message? == some ResourceSection.saved
  | deleteResource _ => answer.bind Http.Reply.message? == some ResourceSection.deleted
  | savePlugin =>
    if (s.plugins.form.bind PluginForm.editing).isSome then
      (answer.bind (Http.Reply.read? MessageReply.decoder)).isSome
    else (answer.bind (Http.Reply.read? CreatedReply.decoder)).isSome
  | deletePlugin _ _ => answer.any Http.Reply.isSuccess

/-- What the operator reads of an answer that is no success. -/
def refusal (answer : Option Http.Reply) : SectionChange → String
  | enroll _ => World.refusal ResourceSection.unexpected ResourceSection.saveFailed answer
  | deleteResource _ => World.refusal ResourceSection.deleteRefused ResourceSection.deleteFailed answer
  | savePlugin => wordsOr PluginSection.saveFailed (answer.bind Http.Reply.words?)
  | deletePlugin _ _ => wordsOr PluginSection.deleteFailed (answer.bind Http.Reply.words?)

/-- The state after a change that failed: the text is on the banner of the section, and a form that was sent
is closed. -/
def afterRefusal (text : String) (s : State) : SectionChange → State
  | enroll _ => s.onResources fun r => { r with banner := { error := some text } }
  | deleteResource _ => s.onResources fun r => { r with banner := { error := some text } }
  | savePlugin => s.onPlugins fun p => { p with banner := { error := some text }, form := none }
  | deletePlugin _ _ => s.onPlugins fun p => { p with banner := { error := some text } }

end SectionChange

namespace World

variable {w : World Client}

theorem changeResources_refused {path : String} {body : Json.Value} {success : String}
    (unexpected failed : String)
    (h : (w.link.answer? "POST" path [] (some body)).bind Http.Reply.message? ≠ some success) :
    ∃ n, w.link.network.Follows (w.link.exchange? "POST" path [] (some body)).toList n ∧
      w.changeResources path body success unexpected failed =
        (.error (refusal unexpected failed (w.link.answer? "POST" path [] (some body))),
          (w.withNetwork n).dispatch (.resourceNotice
            (.error (refusal unexpected failed (w.link.answer? "POST" path [] (some body)))))) := by
  obtain ⟨n, hn, hchange⟩ := w.changeResources_spec path body success unexpected failed
  rw [if_neg h] at hchange
  exact ⟨n, hn, hchange⟩

theorem sendForm_refused {form : PluginForm}
    (h : (if form.editing.isSome then
        ((form.attempt.answer? w.link).bind (Http.Reply.read? MessageReply.decoder)).isSome
      else ((form.attempt.answer? w.link).bind (Http.Reply.read? CreatedReply.decoder)).isSome) = false) :
    ∃ n, w.link.network.Follows (form.attempt.exchange? w.link).toList n ∧
      w.sendForm form = (.error (wordsOr PluginSection.saveFailed
        ((form.attempt.answer? w.link).bind Http.Reply.words?)), w.withNetwork n) := by
  unfold PluginForm.attempt at h ⊢
  unfold sendForm
  cases hediting : form.editing with
  | some id =>
    simp only [hediting, Option.isSome_some, if_true, Option.isSome_eq_false_iff,
      Option.isNone_iff_eq_none] at h
    obtain ⟨n, hn, hupdate⟩ := w.updatePlugin_spec id form.draft
    rw [h] at hupdate
    exact ⟨n, hn, hupdate⟩
  | none =>
    simp only [hediting, Option.isSome_none, Bool.false_eq_true, if_false, Option.isSome_eq_false_iff,
      Option.isNone_iff_eq_none] at h
    obtain ⟨n, hn, hcreate⟩ := w.createPlugin_spec form.draft
    rw [h] at hcreate
    exact ⟨n, hn, hcreate⟩

theorem form_savePlugin {form : PluginForm} (hform : w.state.plugins.form = some form) :
    w.savePlugin.2.state.plugins.form = none ↔ form.isComplete = true := by
  cases hcomplete : form.isComplete with
  | true =>
    rw [savePlugin_of_complete hform hcomplete]
    exact iff_of_true rfl rfl
  | false =>
    rw [savePlugin_of_incomplete hform hcomplete]
    refine iff_of_false (fun hclosed => ?_) Bool.false_ne_true
    rw [show (w.dispatch _).state.plugins.form = w.state.plugins.form from rfl, hform] at hclosed
    cases hclosed

end World

namespace SectionChange

variable {w : World Client} {a : BackendCall}

theorem perform_of_refused (change : SectionChange) (ha : change.attempt? w.state = some a)
    (hrefused : change.isConfirmedBy w.state (a.answer? w.link) = false) :
    ∃ n, w.link.network.Follows (a.exchange? w.link).toList n ∧
      change.perform w = (some (.error (change.refusal (a.answer? w.link))),
        { w.withNetwork n with
            state := change.afterRefusal (change.refusal (a.answer? w.link)) w.state }) := by
  cases change with
  | enroll e =>
    obtain rfl := Option.some.inj ha
    obtain ⟨n, hn, h⟩ := World.changeResources_refused ResourceSection.unexpected ResourceSection.saveFailed
      (beq_eq_false_iff_ne.mp hrefused)
    refine ⟨n, hn, ?_⟩
    simp only [perform, World.enroll_eq, h]
    rfl
  | deleteResource address =>
    obtain rfl := Option.some.inj ha
    obtain ⟨n, hn, h⟩ := World.changeResources_refused ResourceSection.deleteRefused
      ResourceSection.deleteFailed (beq_eq_false_iff_ne.mp hrefused)
    refine ⟨n, hn, ?_⟩
    simp only [perform, World.deleteResource_eq, h]
    rfl
  | savePlugin =>
    obtain ⟨form, hfilter, rfl⟩ := Option.map_eq_some_iff.mp ha
    obtain ⟨hform, hcomplete⟩ := Option.filter_eq_some_iff.mp hfilter
    rw [isConfirmedBy, hform, Option.bind_some] at hrefused
    obtain ⟨n, hn, h⟩ := World.sendForm_refused (w := w.dispatch (.pluginSaving true)) hrefused
    refine ⟨n, hn, ?_⟩
    rw [perform, World.savePlugin_of_complete hform hcomplete, h]
    rfl
  | deletePlugin id agrees =>
    rcases w.deletePlugin_cases id agrees with ⟨hnone, -⟩ | ⟨hsome, n, hn, h⟩
    · cases hnone.symm.trans ha
    · obtain rfl := Option.some.inj (hsome.symm.trans ha)
      rw [isConfirmedBy] at hrefused
      simp only [hrefused, Bool.false_eq_true, if_false] at h
      refine ⟨n, hn, ?_⟩
      rw [perform, h]
      rfl

end SectionChange

/-- A change that a section attempts, and that is not answered by the success it waits for, changes the banner
of the section and nothing else in the console, except that it closes the form that was sent. The request was
the only one, the operator is told an error, and the banner has its text. A form is closed by a save exactly
if it is complete; else nothing is attempted, and the banner asks for what is missing. -/
theorem failed_change_shows_banner (w : World Client) :
    (∀ (change : SectionChange) (a : BackendCall), change.attempt? w.state = some a →
      change.isConfirmedBy w.state (a.answer? w.link) = false →
      let text := change.refusal (a.answer? w.link)
      ∃ n, change.perform w =
          (some (.error text), { w.withNetwork n with state := change.afterRefusal text w.state }) ∧
        w.link.network.exchanges n = (a.exchange? w.link).toList) ∧
    ∀ form, w.state.plugins.form = some form →
      (w.savePlugin.2.state.plugins.form = none ↔ form.isComplete = true) ∧
      (form.isComplete = false → w.savePlugin = (some (.error PluginSection.missingFields),
        { w with state := w.state.onPlugins fun p =>
            { p with banner := { error := some PluginSection.missingFields } } })) := by
  constructor
  · intro change a ha hrefused text
    obtain ⟨n, hn, h⟩ := change.perform_of_refused ha hrefused
    exact ⟨n, h, hn.exchanges_eq⟩
  · intro form hform
    exact ⟨World.form_savePlugin hform, World.savePlugin_of_incomplete hform⟩

/-- A form with a name that the backend refuses. -/
def World.saving : World Client where
  clock := ⟨0⟩
  state := { plugins := { form := some { name := "disk ", code := ⟨"df -h", 5⟩ } } }
  link := { Client.loopback with
    network := { replies :=
      [some (.ofText 409 (Json.Value.object [("error", .string "name taken")]).compact)] } }

theorem failed_change_shows_banner_taken :
    SectionChange.savePlugin.attempt? World.saving.state = some (.create ⟨"disk", "df -h"⟩) ∧
      SectionChange.savePlugin.isConfirmedBy World.saving.state
        ((BackendCall.create ⟨"disk", "df -h"⟩).answer? World.saving.link) = false ∧
      SectionChange.savePlugin.refusal ((BackendCall.create ⟨"disk", "df -h"⟩).answer? World.saving.link) =
        "name taken" ∧
      (SectionChange.savePlugin.perform World.saving).1 = some (.error "name taken") ∧
      World.saving.savePlugin.2.state.plugins.form = none := by
  have hrefused : SectionChange.savePlugin.isConfirmedBy World.saving.state
      ((BackendCall.create ⟨"disk", "df -h"⟩).answer? World.saving.link) = false := by decide +kernel
  have htext : SectionChange.savePlugin.refusal
      ((BackendCall.create ⟨"disk", "df -h"⟩).answer? World.saving.link) = "name taken" := by decide +kernel
  have h := failed_change_shows_banner World.saving
  obtain ⟨n, hperform, -⟩ := h.1 .savePlugin (.create ⟨"disk", "df -h"⟩) rfl hrefused
  refine ⟨rfl, hrefused, htext, ?_, (h.2 _ rfl).1.mpr rfl⟩
  rw [hperform, htext]

end ScanConsole
