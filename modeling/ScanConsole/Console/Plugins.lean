import ScanConsole.Console.Resources
import ScanConsole.Script.Highlight

/-!
# The section of plugins

The operations of the section. What changes the plugins at the backend is
repeated on the list shown, which is not fetched again. A plugin needs a name
and a script, neither of them blank; the form stays open until both are there,
and is closed after any attempt to save.
-/

namespace ScanConsole

namespace PluginSection

def loadFailed : String := "Failed to load scripts."

def missingFields : String := "Both name and script content are required."

def saveFailed : String := "An error occurred while saving the script."

def deleted : String := "Plugin script deleted successfully."

def deleteFailed : String := "Failed to delete the script."

def plugin? (s : PluginSection) (id : PluginId) : Option Plugin := s.items.find? fun p => p.id == id

end PluginSection

namespace PluginForm

/-- What the form saves: the trimmed name and the text as it is. -/
def draft (f : PluginForm) : Plugin.Draft := ⟨Text.trimmed f.name, f.code.text⟩

/-- The form has a name and a script. -/
def isComplete (f : PluginForm) : Bool := f.draft.name != "" && !f.code.isBlank

end PluginForm

namespace World

def listPlugins (w : World Client) : Except Failure (List Plugin) × World Client :=
  let (reply, w) := w.viaClient Client.listPlugins
  match reply with
  | .ok items => (.ok items, w.dispatch (.pluginsLoaded items))
  | .error f => (.error f, w.dispatch (.pluginNotice (.error PluginSection.loadFailed)))

/-- A keystroke in the form, and the markup of its text. -/
def inputPlugin (text : String) (caret : Nat) (w : World Client) : String × World Client :=
  let w := w.dispatch (.pluginCodeInput text caret)
  (((w.state.plugins.form).map fun f => f.code.markup).getD "", w)

/-- A plugin changed at the backend, and then in the list. Its snippet is gone: it was of the script
before. -/
def updatePlugin (id : PluginId) (d : Plugin.Draft) (w : World Client) : Notice × World Client :=
  let (reply, w) := w.viaClient (Client.updatePlugin id d)
  match reply with
  | .ok r =>
    let notice := Notice.success (r.message.getD "")
    match w.state.plugins.plugin? id with
    | some p =>
      (notice, w.dispatch (.pluginUpdated { p with name := d.name, body := d.body, snippet := none }))
    | none => (notice, w)
  | .error f => (.error (f.userMessage PluginSection.saveFailed), w)

/-- A plugin created at the backend, and then in the list. Without an identifier it is known by its
name. -/
def createPlugin (d : Plugin.Draft) (w : World Client) : Notice × World Client :=
  let (reply, w) := w.viaClient (Client.createPlugin d)
  match reply with
  | .ok r =>
    let p : Plugin := ⟨r.id.getD ⟨d.name⟩, d.name, d.body, none⟩
    (.success (r.message.getD ""), w.dispatch (.pluginCreated p))
  | .error f => (.error (f.userMessage PluginSection.saveFailed), w)

/-- The form saved; nothing without a form. -/
def savePlugin (w : World Client) : Option Notice × World Client :=
  match w.state.plugins.form with
  | none => (none, w)
  | some form =>
    if form.isComplete then
      let w := w.dispatch (.pluginSaving true)
      let (notice, w) :=
        match form.editing with
        | some id => w.updatePlugin id form.draft
        | none => w.createPlugin form.draft
      (some notice,
        w.dispatchAll [.pluginNotice notice, .pluginSaving false, .pluginEditorClosed])
    else
      let notice := Notice.error PluginSection.missingFields
      (some notice, w.dispatch (.pluginNotice notice))

/-- A plugin deleted, if the operator agrees when asked about it. The first answer is the plugin that
was asked about; nothing happens for an unknown one. -/
def deletePlugin (id : PluginId) (agrees : Plugin → Bool) (w : World Client) :
    Option Plugin × Option Notice × World Client :=
  match w.state.plugins.plugin? id with
  | none => (none, none, w)
  | some p =>
    if agrees p then
      let (reply, w) := w.viaClient (Client.deletePlugin id)
      let (notice, w) :=
        match reply with
        | .ok _ => (Notice.success PluginSection.deleted, w.dispatch (.pluginDeleted id))
        | .error f => (Notice.error (f.userMessage PluginSection.deleteFailed), w)
      (some p, some notice, w.dispatch (.pluginNotice notice))
    else (some p, none, w)

end World

end ScanConsole
