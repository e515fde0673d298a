import ScanConsole.Screen.Basic
import ScanConsole.Session.Basic
import ScanConsole.Tab.RefreshInterval
import ScanConsole.Time.Instant

/-!
# Result tabs

A tab keeps the results of running a plugin on a resource. It may be pinned, and
a pinned tab with a refresh interval is due again when that interval has passed
since its last refresh.
-/

namespace ScanConsole

/-- The results of running a plugin on a resource. -/
structure Tab where
  id : String
  label : String
  plugin : Plugin
  resource : Resource
  results : List Screen
  logs : List String
  pinned : Bool
  interval : RefreshInterval
  refreshedAt : Instant
  createdAt : Instant
  /-- The session of the last refresh, if that failed and nothing has replaced it since. -/
  failedSession : Option SessionId
  deriving DecidableEq, Repr

namespace Tab

/-- The identifier of a tab opened for this pair at this time: address, plugin name, milliseconds. -/
def idFor (address pluginName : String) (now : Instant) : String :=
  address ++ "-" ++ pluginName ++ "-" ++ toString now.millis

/-- A tab opened now. -/
def create (plugin : Plugin) (resource : Resource) (results : List Screen) (logs : List String)
    (now : Instant) : Tab where
  id := idFor resource.address plugin.name now
  label := plugin.name ++ " (" ++ resource.hostname ++ ")"
  plugin := plugin
  resource := resource
  results := results
  logs := logs
  pinned := false
  interval := .off
  refreshedAt := now
  createdAt := now
  failedSession := none

/-- The tab belongs to this pair of address and plugin name; a pair has at most one tab. -/
def isFor (t : Tab) (address pluginName : String) : Bool :=
  t.resource.address == address && t.plugin.name == pluginName

def pair (t : Tab) : String × String := (t.resource.address, t.plugin.name)

/-- The tab is pinned, has an interval, and that has passed. -/
def isDue (t : Tab) (now : Instant) : Bool :=
  t.pinned && t.interval.isEnabled &&
    decide ((t.interval.seconds : Int) * 1000 ≤ now.millisSince t.refreshedAt)

end Tab

end ScanConsole
