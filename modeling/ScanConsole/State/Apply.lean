import ScanConsole.Log.Record
import ScanConsole.State.Action

/-!
# Applying actions

`State.apply` is the effect of an action. A pair of address and plugin name has
one tab, a pinned tab is not closed, and of the failed refreshes of a tab only
the last stays on screen. `State.reports` is what applying an action reports.
-/

namespace ScanConsole

/-- The list with its first member that satisfies `p` changed by `f`. -/
def updateFirst {α : Type} (p : α → Bool) (f : α → α) : List α → List α
  | [] => []
  | a :: rest => if p a then f a :: rest else a :: updateFirst p f rest

/-- The list with its first member that satisfies `p` replaced by `b`, or with `b` at its end. -/
def replaceFirstOrAppend {α : Type} (p : α → Bool) (b : α) : List α → List α
  | [] => [b]
  | a :: rest => if p a then b :: rest else a :: replaceFirstOrAppend p b rest

namespace State

/-! ## Sections -/

def onResources (f : ResourceSection → ResourceSection) (s : State) : State :=
  { s with resources := f s.resources }

def onPlugins (f : PluginSection → PluginSection) (s : State) : State :=
  { s with plugins := f s.plugins }

def onForm (f : PluginForm → PluginForm) (s : State) : State :=
  s.onPlugins fun p => { p with form := p.form.map f }

/-! ## Sessions -/

/-- The session with this identifier changed. -/
def onSession (id : SessionId) (f : Session → Session) (s : State) : State :=
  { s with sessions := updateFirst (fun x => x.id == id) f s.sessions }

/-- No session has this identifier any more. -/
def dropSession (id : SessionId) (s : State) : State :=
  { s with sessions := s.sessions.filter fun x => x.id != id }

/-- A session that does not run is taken off screen. -/
def dismiss (id : SessionId) (s : State) : State :=
  match s.session? id with
  | some x => if x.canBeDismissed then s.dropSession id else s
  | none => s

/-- The session of a failed refresh is taken off screen, unless its status is no longer that of a
failure. -/
def dropFailed (session : Option SessionId) (s : State) : State :=
  match session with
  | none => s
  | some id => { s with sessions := s.sessions.filter fun x => x.id != id || x.status != .error }

/-! ## Tabs -/

/-- The tab with this identifier changed. -/
def onTab (id : String) (f : Tab → Tab) (s : State) : State :=
  { s with tabs := updateFirst (fun t => t.id == id) f s.tabs }

/-- A new tab in front, in the place of the tab of its pair if there is one. -/
def createTab (tab : Tab) (s : State) : State :=
  { s with
    tabs := replaceFirstOrAppend (fun t => t.isFor tab.resource.address tab.plugin.name) tab s.tabs
    activeTab := some tab.id
    view := .scanResults }

/-- New results for a tab; the session of its last failed refresh goes. -/
def refreshTab (id : String) (results : List Screen) (logs : List String) (time : Instant)
    (s : State) : State :=
  match s.tab? id with
  | none => s
  | some tab =>
    (s.onTab id fun t =>
      { t with results := results, logs := logs, refreshedAt := time, failedSession := none }).dropFailed
        tab.failedSession

/-- A failed refresh of a tab: the next one waits a full interval, and the session of the one before
goes. -/
def failRefresh (id : String) (session : SessionId) (time : Instant) (s : State) : State :=
  match s.tab? id with
  | none => s
  | some tab =>
    (s.onTab id fun t => { t with refreshedAt := time, failedSession := some session }).dropFailed
      (tab.failedSession.filter fun previous => previous != session)

/-- An open tab comes to the front. -/
def activate (id : String) (s : State) : State :=
  if (s.tab? id).isSome then { s with activeTab := some id, view := .scanResults } else s

/-- The newest tab comes to the front; without tabs the directory is shown. -/
def fallBack (s : State) : State :=
  match newestTab? s.tabs with
  | some t => { s with activeTab := some t.id }
  | none => { s with activeTab := none, view := .directory }

/-- A tab is closed unless it is pinned. -/
def closeTab (id : String) (s : State) : State :=
  match s.tab? id with
  | none => s
  | some tab =>
    if tab.pinned then s
    else
      let s' := { s with tabs := s.tabs.eraseP fun t => t.id == id }
      if s.activeTab == some id then s'.fallBack else s'

/-- All tabs are closed but the pinned ones. -/
def closeAllTabs (s : State) : State :=
  let s' := { s with tabs := s.tabs.filter fun t => t.pinned }
  if s'.tabs.isEmpty then s'.fallBack
  else if s'.active?.isSome then s'
  else s'.fallBack

/-! ## All actions -/

/-- The effect of an action. -/
def apply (s : State) : Action → State
  | .viewSelected view => { s with view := view }
  | .resourcesLoading => s.onResources fun r => { r with loading := true }
  | .resourcesLoaded items => s.onResources fun r => { r with items := items, loading := false }
  | .resourcesFailed message =>
    s.onResources fun r => { r with loading := false, banner := .ofNotice (.error message) }
  | .resourceQueryChanged query => s.onResources fun r => { r with query := query }
  | .enrollmentOpened => s.onResources fun r => { r with enrollmentOpen := true, banner := .empty }
  | .enrollmentClosed => s.onResources fun r => { r with enrollmentOpen := false }
  | .resourceNotice notice => s.onResources fun r => { r with banner := .ofNotice notice }
  | .pluginsLoaded items => s.onPlugins fun p => { p with items := items }
  | .pluginNotice notice => s.onPlugins fun p => { p with banner := .ofNotice notice }
  | .pluginEditorOpened plugin =>
    s.onPlugins fun p => { p with form := some (.ofPlugin plugin), banner := .empty }
  | .pluginNameChanged name => s.onForm fun f => { f with name := name }
  | .pluginCodeInput text caret => s.onForm fun f => { f with code := .input text caret }
  | .pluginSaving saving => s.onForm fun f => { f with saving := saving }
  | .pluginEditorClosed => s.onPlugins fun p => { p with form := none }
  | .pluginCreated plugin => s.onPlugins fun p => { p with items := p.items ++ [plugin] }
  | .pluginUpdated plugin =>
    s.onPlugins fun p =>
      { p with items := updateFirst (fun q => q.id == plugin.id) (fun _ => plugin) p.items }
  | .pluginDeleted id => s.onPlugins fun p => { p with items := p.items.filter fun q => q.id != id }
  | .userFormOpened => { s with users := .opened }
  | .userFormChanged username role =>
    { s with users := { s.users with username := username, role := role } }
  | .userFormSubmitted => { s with users := s.users.closed }
  | .userFormClosed => { s with users := s.users.closed }
  | .executionStarted session => { s with sessions := s.sessions ++ [session] }
  | .executionLogged session lines => s.onSession session (Session.log lines)
  | .executionFailed session lines => s.onSession session (Session.fail lines)
  | .executionCompleted session => s.onSession session Session.complete
  | .executionDismissed session => s.dismiss session
  | .executionCleared session => s.dropSession session
  | .tabCreated tab => s.createTab tab
  | .tabRefreshed id results logs time => s.refreshTab id results logs time
  | .tabRefreshFailed id session time => s.failRefresh id session time
  | .tabPinned id pinned => s.onTab id fun t => { t with pinned := pinned }
  | .refreshIntervalSet id interval time =>
    s.onTab id fun t => { t with interval := interval, refreshedAt := time }
  | .tabActivated id => s.activate id
  | .tabClosed id => s.closeTab id
  | .tabsClosedAll => s.closeAllTabs

/-- The effect of several actions, one after the other. -/
def applyAll (s : State) (actions : List Action) : State := actions.foldl apply s

/-! ## Reports -/

/-- What the effect of an action on this state reports. -/
def effectReports (s : State) : Action → List Log.Record
  | .userFormSubmitted =>
    [⟨.info, .view, "New user draft: " ++ s.users.username ++ " (" ++ s.users.role.name ++ ")"⟩]
  | .executionDismissed id =>
    match s.session? id with
    | some x =>
      if x.canBeDismissed then []
      else [⟨.warn, .store, "Refusing to dismiss running execution " ++ id.text⟩]
    | none => []
  | .tabRefreshed id _ _ _ =>
    match s.tab? id with
    | some _ => []
    | none => [⟨.debug, .store, "Refreshed tab " ++ id ++ " is gone, dropping results"⟩]
  | .tabRefreshFailed id _ _ =>
    match s.tab? id with
    | some _ => []
    | none => [⟨.debug, .store, "Failed refresh of tab " ++ id ++ " which is gone"⟩]
  | .tabClosed id =>
    match s.tab? id with
    | some t =>
      if t.pinned then [⟨.debug, .store, "Ignoring close request for pinned tab " ++ id⟩] else []
    | none => []
  | _ => []

/-- What applying an action to this state reports: the action itself, then its effect. -/
def reports (s : State) (action : Action) : List Log.Record :=
  ⟨.trace, .store, "Dispatching " ++ action.name⟩ :: s.effectReports action

end State

end ScanConsole
