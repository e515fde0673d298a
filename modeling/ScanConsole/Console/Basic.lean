import ScanConsole.Backend.Transports
import ScanConsole.Console.Plugins
import ScanConsole.Jobs.Workspace

/-!
# The console

A console is one state and one client of the backend: sections, executions and
tabs all work on them. It is opened from a configuration that can be used. A
scheduler may check for due refreshes.
-/

namespace ScanConsole

/-- Everything that a front end binds to. -/
structure Console where
  world : World Client
  /-- The scheduler checks for due refreshes. -/
  autoRefreshing : Bool := false

namespace Console

/-- A console with this configuration, at this time. -/
def ofConfig (config : Config) (network : Http.Network) (time : Instant) : Except Failure Console :=
  match config.validate with
  | .error e => .error (.config e.message)
  | .ok _ => .ok { world := { clock := time, link := { config := config, network := network } } }

/-- An operation on the world of the console. -/
def perform {α : Type} (f : World Client → α × World Client) (c : Console) : α × Console :=
  let (a, w) := f c.world
  (a, { c with world := w })

def dispatch (a : Action) (c : Console) : Console := { c with world := c.world.dispatch a }

def loadToken (path : String) (c : Console) : Except Failure (Option CsrfToken) × Console :=
  c.perform fun w => w.viaClient (Client.loadToken path)

def setToken (token : Option CsrfToken) (c : Console) : Console :=
  { c with world := { c.world with link := { c.world.link with token := token } } }

/-- The first load: the token and both lists. What fails shows on the banners. -/
def mount (c : Console) : Console :=
  let (_, c) := c.loadToken "/"
  let (_, c) := c.perform World.listResources
  let (_, c) := c.perform World.listPlugins
  c

def select (plugin : Plugin) (resource : Resource) (c : Console) :
    Option (Except Failure Yield) × Console :=
  c.perform (Workspace.select configured plugin resource)

def refresh (tab : String) (c : Console) : Option (Except Failure Yield) × Console :=
  c.perform (Workspace.refresh configured tab)

def check (time : Instant) (c : Console) : List String × Console :=
  c.perform (Workspace.check configured time)

def setInterval (tab : String) (interval : RefreshInterval) (c : Console) : Console :=
  { c with world := Workspace.setInterval tab interval c.world }

/-- The scheduler started, unless it is there. -/
def startAutoRefresh (c : Console) : Console := { c with autoRefreshing := true }

def stopAutoRefresh (c : Console) : Console := { c with autoRefreshing := false }

end Console

end ScanConsole
