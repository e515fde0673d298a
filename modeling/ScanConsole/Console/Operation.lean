import ScanConsole.Console.Basic
import ScanConsole.Jobs.Turn

/-!
# Operations

What can be asked of the console, as values, so that a statement about every
list of operations is one about every course of work. The two sections have
operations of their own (`ResourceOperation`, `PluginOperation`), which need no
more than a world with a client. An `Operation` is any of them, one that
concerns the token, or an execution: in the foreground, or as a turn of the
tasks in the background, over either transport.
-/

namespace ScanConsole

def TransportKind.transport : TransportKind → Transport Client
  | .streaming => ScanConsole.streaming
  | .synchronous => ScanConsole.synchronous

/-- What can be asked of the section of resources. -/
inductive ResourceOperation where
  | list
  | enroll (e : Enrollment)
  | delete (address : String)
  | filter (query : String)
  | openForm
  | closeForm
  deriving DecidableEq, Repr

namespace ResourceOperation

def perform (w : World Client) : ResourceOperation → World Client
  | list => w.listResources.2
  | enroll e => (w.enroll e).2
  | delete address => (w.deleteResource address).2
  | filter query => (w.filterResources query).2
  | openForm => w.dispatch .enrollmentOpened
  | closeForm => w.dispatch .enrollmentClosed

def performAll (w : World Client) (ops : List ResourceOperation) : World Client := ops.foldl perform w

end ResourceOperation

/-- What can be asked of the section of plugins. -/
inductive PluginOperation where
  | list
  /-- The form opened on a plugin, or for a new one. -/
  | openForm (plugin : Option Plugin)
  | rename (name : String)
  | input (text : String) (caret : Nat)
  | save
  | closeForm
  /-- A deletion, which the operator is asked about. -/
  | delete (id : PluginId) (agrees : Plugin → Bool)

namespace PluginOperation

def perform (w : World Client) : PluginOperation → World Client
  | list => w.listPlugins.2
  | openForm plugin => w.dispatch (.pluginEditorOpened plugin)
  | rename name => w.dispatch (.pluginNameChanged name)
  | input text caret => (w.inputPlugin text caret).2
  | save => w.savePlugin.2
  | closeForm => w.dispatch .pluginEditorClosed
  | delete id agrees => (w.deletePlugin id agrees).2.2

def performAll (w : World Client) (ops : List PluginOperation) : World Client := ops.foldl perform w

end PluginOperation

/-- What can be asked of the console. -/
inductive Operation where
  | mount
  | loadToken (path : String)
  | setToken (token : Option CsrfToken)
  | resources (op : ResourceOperation)
  | plugins (op : PluginOperation)
  | run (kind : TransportKind) (plugin : Plugin) (resource : Resource)
  | select (kind : TransportKind) (plugin : Plugin) (resource : Resource)
  | refresh (kind : TransportKind) (tab : String)
  | check (kind : TransportKind) (time : Instant)
  /-- Something that happens to the tasks in the background. -/
  | turn (kind : TransportKind) (u : Turn)

namespace Operation

/-- What an operation does to the world, if it is not for the tasks in the background. -/
def onWorld (w : World Client) : Operation → World Client
  | mount => (Console.mount ⟨w, false⟩).world
  | loadToken path => (w.viaClient (Client.loadToken path)).2
  | setToken token => { w with link := { w.link with token := token } }
  | resources op => op.perform w
  | plugins op => op.perform w
  | run kind plugin resource => (Workspace.run kind.transport plugin resource w).2
  | select kind plugin resource => (Workspace.select kind.transport plugin resource w).2
  | refresh kind tab => (Workspace.refresh kind.transport tab w).2
  | check kind time => (Workspace.check kind.transport time w).2
  | turn _ _ => w

def perform (ws : Workspace Client) : Operation → Workspace Client
  | turn kind u => ws.turn kind.transport u
  | op => ws.onWorld op.onWorld

def performAll (ws : Workspace Client) (ops : List Operation) : Workspace Client := ops.foldl perform ws

end Operation

end ScanConsole
