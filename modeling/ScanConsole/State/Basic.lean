import ScanConsole.Script.Editor
import ScanConsole.State.Notice
import ScanConsole.State.View
import ScanConsole.Tab.Basic

/-!
# The state of the console

Everything that the console shows is in one `State`: the view, the sections of
resources, plugins and users, the sessions of running and finished executions,
and the result tabs with the active one.
-/

namespace ScanConsole

structure ResourceSection where
  items : List Resource := []
  query : String := ""
  loading : Bool := false
  enrollmentOpen : Bool := false
  banner : Banner := {}
  deriving DecidableEq, Repr

/-- The resources that the search finds, in their order. -/
def ResourceSection.visible (s : ResourceSection) : List Resource :=
  s.items.filter fun r => r.isFoundBy s.query

/-- The form in which a plugin is edited. -/
structure PluginForm where
  /-- The plugin under edit, none for a new one. -/
  editing : Option PluginId := none
  name : String := ""
  code : Editor := {}
  saving : Bool := false
  deriving DecidableEq, Repr

/-- The form for a plugin, or for a new one. -/
def PluginForm.ofPlugin : Option Plugin → PluginForm
  | none => {}
  | some p => { editing := some p.id, name := p.name, code := .ofText p.body }

structure PluginSection where
  items : List Plugin := []
  form : Option PluginForm := none
  banner : Banner := {}
  deriving DecidableEq, Repr

/-- Everything that the console shows. -/
structure State where
  view : View := .directory
  resources : ResourceSection := {}
  plugins : PluginSection := {}
  users : UserDraft := {}
  sessions : List Session := []
  tabs : List Tab := []
  activeTab : Option String := none
  deriving DecidableEq, Repr

namespace State

def tab? (s : State) (id : String) : Option Tab := s.tabs.find? fun t => t.id == id

def session? (s : State) (id : SessionId) : Option Session := s.sessions.find? fun x => x.id == id

/-- The tab in front. -/
def active? (s : State) : Option Tab := s.activeTab.bind s.tab?

/-- The tabs that are due at this time, in their order. -/
def dueTabs (s : State) (now : Instant) : List String :=
  (s.tabs.filter fun t => t.isDue now).map (·.id)

end State

/-- The tab created last; of those created at one time, the last in order. -/
def newestTab? : List Tab → Option Tab
  | [] => none
  | t :: rest =>
    match newestTab? rest with
    | none => some t
    | some u => if u.createdAt.nanos < t.createdAt.nanos then some t else some u

end ScanConsole
