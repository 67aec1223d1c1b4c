import PureCloak.API.Responses
import PureCloak.Browser.Dashboard
import PureCloak.Launcher.Watching
import PureCloak.WebUI.Batch

/-!
# Every message of the page

The handlers of `PureCloakHandler` that are not in `Handler` and `Messages`, what the handler tells the page as an
observer of the manager, and `handle`, which finds the handler of a message by the name under which `RegisterMessages`
has registered it. A launch that goes on in the thread pool is answered later.
-/

namespace PureCloak.WebUI
open PureCloak.Base PureCloak.Profiles PureCloak.Launcher PureCloak.API

/-! ## The other handlers -/

/-- What the callback of `Start` is run with. -/
def startResult [ValueLib] (now : Time) : StartAnswer → DictValue
  | .running r => r.toDict now
  | .error text => DictValue.ofFields [("success", some (.boolean false)), ("error", some (.string text))]

/-- `HandleGetWorkspaceStatus`. -/
def handleGetWorkspaceStatus [ValueLib] (w : World) (args : ListValue) (now : Time) : Option (Value × Value) := do
  let wsId ← (← args[1]?).getIfString
  return (← args[0]?, .dict (w.getStatusDict wsId now))

/-- `HandleSearchWorkspaces`. -/
def handleSearchWorkspaces [TimeLib] (store : WorkspaceStore) (args : ListValue) : Option (Value × Value) := do
  let query ← (← args[1]?).getIfString
  let all := store.getAllWorkspaces
  let found :=
    if query = "" then all
    else
      let qLower := toLowerASCII query
      all.filter fun ws => decide (qLower.toList <:+: (toLowerASCII ws.name).toList)
  return (← args[0]?, .list (found.map fun ws => .dict ws.toDict))

/-- `HandleGetAllTags`. -/
def handleGetAllTags (store : WorkspaceStore) (args : ListValue) : Option (Value × Value) := do
  let all := store.getAllWorkspaces
  let uniqueTags := all.foldl
    (fun (tags : Std.ExtTreeSet String) ws => ws.tags.foldl (fun tags tag => tags.insert tag.tag) tags) ∅
  return (← args[0]?, .list (uniqueTags.toList.map .string))

/-- `HandleProxyTest`; it tests nothing. -/
def handleProxyTest (args : ListValue) : Option (Value × Value) := do
  let proxyUrl ← (← args[1]?).getIfString
  return (← args[0]?, .dict (DictValue.ofFields [
    ("proxy", some (.string proxyUrl)),
    ("success", some (.boolean true)),
    ("latency_ms", some (.integer 0))]))

/-- `HandleGetTemplates`. -/
def handleGetTemplates (args : ListValue) : Option (Value × Value) := do
  return (← args[0]?, .list [])

/-- `HandleSaveTemplate`. -/
def handleSaveTemplate (args : ListValue) : Option (Value × Value) := do
  return (← args[0]?, .dict (DictValue.ofFields [
    ("success", some (.boolean true)),
    ("template_id", some (.string "template_1"))]))

/-- `HandleDeleteTemplate`. -/
def handleDeleteTemplate (args : ListValue) : Option (Value × Value) := do
  let templateId ← (← args[1]?).getIfString
  return (← args[0]?, .dict (DictValue.ofFields [
    ("template_id", some (.string templateId)),
    ("success", some (.boolean true))]))

/-! ## What an observer is told -/

/-- The arguments of a call of `onWorkspaceStatusChange`. -/
structure Notification where
  workspaceId : String
  status : Status
  details : DictValue

section
variable [ValueLib] (env : Env) (now : Time)

/-- `OnWorkspaceLaunched`. -/
def onWorkspaceLaunched (r : RunningWorkspace) : Notification :=
  ⟨r.workspaceId, r.status, r.toDict now⟩

/-- `OnWorkspaceStopped`. -/
def onWorkspaceStopped (id : String) : Notification :=
  ⟨id, .kStopped, DictValue.ofFields [("status", some (.string "stopped"))]⟩

/-- `OnWorkspaceStatusChanged`, with the details that `NotifyStatusChanged` makes. -/
def onWorkspaceStatusChanged (c : StatusChange) : Notification :=
  let details : DictValue := (c.entry.map (·.toDict now)).getD []
  ⟨c.workspaceId, c.status,
    DictValue.set (details.set "workspace_id" (.string c.workspaceId)) "status" (.string c.status.toString)⟩

/-- What `ContinueStart` tells its observers. -/
def launchNotifications (w : World) (l : Launch) (launches : Bool) : List Notification :=
  if launches then [onWorkspaceLaunched now (World.newEntry l.ws l.userDataDir l.cdpPort w.processes.length now)] else []

/-- What `Stop` tells its observers. -/
def stopNotifications (w : World) (id : String) : List Notification :=
  if id ∈ w.workspaces then [onWorkspaceStopped id] else []

/-- What the loop of `HandleBatchStopWorkspaces` tells the observers. -/
def batchStopNotifications : World → List String → List Notification
  | _, [] => []
  | w, id :: ids => stopNotifications w id ++ batchStopNotifications (w.stop id) ids

/-- What a step of the manager tells its observers; `StopAll` tells them nothing. -/
def notifications (w : World) : World.Event → List Notification
  | .stop id => stopNotifications w id
  | .watchdogPoll => (Observed.onPoll ⟨w, []⟩).changes.map (onWorkspaceStatusChanged now)
  | .arrive i launches now =>
    match w.replies[i]? with
    | some (.continueStart ws dir port) => launchNotifications now w ⟨ws, dir, port⟩ launches
    | _ => []
  | _ => []

end

/-! ## A message -/

/-- What a handler leads to: it resolves the callback, or `Start` does so later. -/
inductive Reaction where
  | resolve (callbackId value : Value)
  | launch (callbackId : String) (l : Launch)

/-- What a handler leaves: the store and the manager, what the observers of the manager were told before the reply, and
how the callback is resolved. -/
structure Handled where
  state : State
  told : List Notification := []
  reaction : Reaction

/-- A handler that only reads. -/
def Handled.read (s : State) (r : Value × Value) : Handled :=
  ⟨s, [], .resolve r.1 r.2⟩

/-- A handler that changes the store. -/
def Handled.write (s : State) (r : WorkspaceStore × Value × Value) : Handled :=
  ⟨{ s with store := r.1 }, [], .resolve r.2.1 r.2.2⟩

/-- A handler that stops workspaces. -/
def Handled.stop (s : State) (told : List Notification) (r : World × Value × Value) : Handled :=
  ⟨{ s with world := r.1 }, told, .resolve r.2.1 r.2.2⟩

/-- What a handler draws and reads. -/
structure Draws where
  drawn : Drawn
  stored : Drawn
  now : Time

/-- `HandleLaunchWorkspace`, with what `Start` answers at once. -/
def launchReaction [ValueLib] (env : Env) (s : State) (args : ListValue) (now : Time) : Option (State × Reaction) := do
  let wsId ← (← args[1]?).getIfString
  match s.store.getWorkspace wsId with
  | none =>
    let error := DictValue.ofFields [("success", some (.boolean false)),
      ("error", some (.string "Workspace not found"))]
    return (s, .resolve (← args[0]?) (.dict error))
  | some ws =>
    let callbackId ← (← args[0]?).getIfString
    match s.world.startAnswer ws.id with
    | some answer =>
      return ({ s with world := World.start env s.world ws }, .resolve (.string callbackId) (.dict (startResult now answer)))
    | none => return (s, .launch callbackId ⟨ws, World.userDataDir env ws.id, findAvailablePort s.world⟩)

section
variable [TimeLib] [ValueLib]

/-- The handler that is registered for a message; a `CHECK` of it may fail, and a message for which nothing is
registered is not handled. -/
def handle (env : Env) (s : State) (d : Draws) (args : ListValue) : String → Option Handled
  | "getAllWorkspaces" => (handleGetAllWorkspaces s.store args).map (.read s)
  | "createWorkspace" => (handleCreateWorkspace s.store args d.drawn d.stored).map (.write s)
  | "updateWorkspace" => (handleUpdateWorkspace s.store args d.now d.stored.now).map (.write s)
  | "deleteWorkspace" => (handleDeleteWorkspace s.store args).map (.write s)
  | "launchWorkspace" => (launchReaction env s args d.now).map fun r => ⟨r.1, [], r.2⟩
  | "stopWorkspace" =>
    let told := ((args[1]?.bind Value.getIfString).map (stopNotifications s.world)).getD []
    (handleStopWorkspace s.world args).map (.stop s told)
  | "getWorkspaceStatus" => (handleGetWorkspaceStatus s.world args d.now).map (.read s)
  | "searchWorkspaces" => (handleSearchWorkspaces s.store args).map (.read s)
  | "batchDeleteWorkspaces" => (handleBatchDeleteWorkspaces s.store args).map (.write s)
  | "batchLaunchWorkspaces" => (handleBatchLaunchWorkspaces s.store args).map (.read s)
  | "batchStopWorkspaces" =>
    let ids := ((args[1]?.bind Value.getIfList).getD []).filterMap Value.getIfString
    (handleBatchStopWorkspaces s.world args).map (.stop s (batchStopNotifications s.world ids))
  | "getAllTags" => (handleGetAllTags s.store args).map (.read s)
  | "proxyTest" => (handleProxyTest args).map (.read s)
  | "getTemplates" => (handleGetTemplates args).map (.read s)
  | "saveTemplate" => (handleSaveTemplate args).map (.read s)
  | "deleteTemplate" => (handleDeleteTemplate args).map (.read s)
  | "getDashboardStats" => (handleGetDashboardStats s.store args).map (.read s)
  | _ => none

end

end PureCloak.WebUI
