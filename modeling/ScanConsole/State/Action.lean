import ScanConsole.State.Basic

/-!
# Actions

The state changes by actions only. `Action.name` is the name under which an
action is reported.
-/

namespace ScanConsole

inductive Action where
  | viewSelected (view : View)
  | resourcesLoading
  | resourcesLoaded (items : List Resource)
  | resourcesFailed (message : String)
  | resourceQueryChanged (query : String)
  | enrollmentOpened
  | enrollmentClosed
  | resourceNotice (notice : Notice)
  | pluginsLoaded (items : List Plugin)
  | pluginNotice (notice : Notice)
  | pluginEditorOpened (plugin : Option Plugin)
  | pluginNameChanged (name : String)
  | pluginCodeInput (text : String) (caret : Nat)
  | pluginSaving (saving : Bool)
  | pluginEditorClosed
  | pluginCreated (plugin : Plugin)
  | pluginUpdated (plugin : Plugin)
  | pluginDeleted (id : PluginId)
  | userFormOpened
  | userFormChanged (username : String) (role : Role)
  | userFormSubmitted
  | userFormClosed
  | executionStarted (session : Session)
  | executionLogged (session : SessionId) (lines : List String)
  | executionFailed (session : SessionId) (lines : List String)
  | executionCompleted (session : SessionId)
  | executionDismissed (session : SessionId)
  /-- A tab took the result over, or the run was given up. -/
  | executionCleared (session : SessionId)
  | tabCreated (tab : Tab)
  | tabRefreshed (id : String) (results : List Screen) (logs : List String) (time : Instant)
  | tabRefreshFailed (id : String) (session : SessionId) (time : Instant)
  | tabPinned (id : String) (pinned : Bool)
  | refreshIntervalSet (id : String) (interval : RefreshInterval) (time : Instant)
  | tabActivated (id : String)
  | tabClosed (id : String)
  | tabsClosedAll
  deriving DecidableEq, Repr

/-- The session whose course an action drives: what only the run of that session has to tell. -/
def Action.drives? : Action → Option SessionId
  | .executionStarted session => some session.id
  | .executionLogged session _ => some session
  | .executionFailed session _ => some session
  | .executionCompleted session => some session
  | .executionCleared session => some session
  | _ => none

/-- The name under which an action is reported. -/
def Action.name : Action → String
  | .viewSelected _ => "ViewSelected"
  | .resourcesLoading => "ResourcesLoading"
  | .resourcesLoaded _ => "ResourcesLoaded"
  | .resourcesFailed _ => "ResourcesFailed"
  | .resourceQueryChanged _ => "ResourceQueryChanged"
  | .enrollmentOpened => "EnrollmentOpened"
  | .enrollmentClosed => "EnrollmentClosed"
  | .resourceNotice _ => "ResourceNotice"
  | .pluginsLoaded _ => "PluginsLoaded"
  | .pluginNotice _ => "PluginNotice"
  | .pluginEditorOpened _ => "PluginEditorOpened"
  | .pluginNameChanged _ => "PluginNameChanged"
  | .pluginCodeInput _ _ => "PluginCodeInput"
  | .pluginSaving _ => "PluginSaving"
  | .pluginEditorClosed => "PluginEditorClosed"
  | .pluginCreated _ => "PluginCreated"
  | .pluginUpdated _ => "PluginUpdated"
  | .pluginDeleted _ => "PluginDeleted"
  | .userFormOpened => "UserFormOpened"
  | .userFormChanged _ _ => "UserFormChanged"
  | .userFormSubmitted => "UserFormSubmitted"
  | .userFormClosed => "UserFormClosed"
  | .executionStarted _ => "ExecutionStarted"
  | .executionLogged _ _ => "ExecutionLogged"
  | .executionFailed _ _ => "ExecutionFailed"
  | .executionCompleted _ => "ExecutionCompleted"
  | .executionDismissed _ => "ExecutionDismissed"
  | .executionCleared _ => "ExecutionCleared"
  | .tabCreated _ => "TabCreated"
  | .tabRefreshed _ _ _ _ => "TabRefreshed"
  | .tabRefreshFailed _ _ _ => "TabRefreshFailed"
  | .tabPinned _ _ => "TabPinned"
  | .refreshIntervalSet _ _ _ => "RefreshIntervalSet"
  | .tabActivated _ => "TabActivated"
  | .tabClosed _ => "TabClosed"
  | .tabsClosedAll => "TabsClosedAll"

end ScanConsole
