import ScanConsole.Plugin.Json
import ScanConsole.Resource.Json
import ScanConsole.Screen.Json
import ScanConsole.State.Basic

/-!
# The state in JSON

The state as it is shown to an observer. The session of a failed refresh is
internal to its tab and is not written.
-/

namespace ScanConsole

open Json (Value)

def Session.toJson (s : Session) : Value :=
  .object [("id", .string s.id.text), ("plugin", s.plugin.toJson), ("resource", s.resource.toJson),
    ("status", .string s.status.name), ("logs", Value.ofStrings s.logs),
    ("progress", .ofNat s.progress)]

def Tab.toJson (t : Tab) : Value :=
  .object [("id", .string t.id), ("label", .string t.label), ("plugin", t.plugin.toJson),
    ("resource", t.resource.toJson), ("results", .array (t.results.map Screen.toJson)),
    ("logs", Value.ofStrings t.logs), ("pinned", .boolean t.pinned),
    ("refresh_interval", t.interval.toJson), ("last_refreshed", .string t.refreshedAt.text),
    ("created_at", .string t.createdAt.text)]

/-- A notice under the name of its kind. -/
def Notice.toJson : Notice → Value
  | .success message => .object [("Success", .string message)]
  | .error message => .object [("Error", .string message)]

def Banner.toJson (b : Banner) : Value :=
  .object [("success", Value.ofOption .string b.success), ("error", Value.ofOption .string b.error)]

/-- The text and the caret of an editor. -/
def Editor.toJson (e : Editor) : Value :=
  .object [("text", .string e.text), ("caret", .ofNat e.caret)]

def ResourceSection.toJson (s : ResourceSection) : Value :=
  .object [("items", .array (s.items.map Resource.toJson)), ("query", .string s.query),
    ("loading", .boolean s.loading), ("enrollment_open", .boolean s.enrollmentOpen),
    ("banner", s.banner.toJson)]

def PluginForm.toJson (f : PluginForm) : Value :=
  .object [("editing", Value.ofOption PluginId.toJson f.editing), ("name", .string f.name),
    ("code", f.code.toJson), ("saving", .boolean f.saving)]

def PluginSection.toJson (s : PluginSection) : Value :=
  .object [("items", .array (s.items.map Plugin.toJson)),
    ("editor", Value.ofOption PluginForm.toJson s.form), ("banner", s.banner.toJson)]

def UserDraft.toJson (d : UserDraft) : Value :=
  .object [("open", .boolean d.isOpen), ("username", .string d.username), ("role", d.role.toJson)]

def State.toJson (s : State) : Value :=
  .object [("view", s.view.toJson), ("resources", s.resources.toJson),
    ("plugins", s.plugins.toJson), ("users", s.users.toJson),
    ("executions", .array (s.sessions.map Session.toJson)), ("tabs", .array (s.tabs.map Tab.toJson)),
    ("active_tab", Value.ofOption .string s.activeTab)]

end ScanConsole
