import PureCloak.Launcher.World
import PureCloak.Profiles.Store

/-!
# REST requests about workspaces

The handlers of `WorkspaceApiHandler` that change the store or start and stop workspaces. A handler runs on the API
sequence, where it checks the request, and posts a task to the UI sequence; `UiTask` is such a task and `run` what it
does there, together with the response that it posts back. The response to a launch comes from `Start`.
-/

namespace PureCloak.API
open PureCloak.Base PureCloak.Profiles PureCloak.Launcher

/-- `ApplyBodyToWorkspace`. -/
def applyBodyToWorkspace (ws : Workspace) (body : DictValue) : Workspace :=
  let findString := DictValue.findString body
  let findInt := DictValue.findInt body
  let findBool := DictValue.findBool body
  { ws with
    name := (findString "name").getD ws.name
    userAgent := (findString "user_agent").getD ws.userAgent
    screenWidth := (findInt "screen_width").getD ws.screenWidth
    screenHeight := (findInt "screen_height").getD ws.screenHeight
    gpuVendor := (findString "gpu_vendor").getD ws.gpuVendor
    gpuRenderer := (findString "gpu_renderer").getD ws.gpuRenderer
    hardwareConcurrency := (findInt "hardware_concurrency").getD ws.hardwareConcurrency
    platform := (findString "platform").getD ws.platform
    colorScheme := (findString "color_scheme").getD ws.colorScheme
    proxy := (findString "proxy").getD ws.proxy
    timezone := (findString "timezone").getD ws.timezone
    locale := (findString "locale").getD ws.locale
    geoip := (findBool "geoip").getD ws.geoip
    defaultTabTitle := (findString "default_tab_title").getD ws.defaultTabTitle
    notes := (findString "notes").getD ws.notes
    humanize := (findBool "humanize").getD ws.humanize
    humanPreset := (findString "human_preset").getD ws.humanPreset
    headless := (findBool "headless").getD ws.headless
    clipboardSync := (findBool "clipboard_sync").getD ws.clipboardSync
    autoLaunch := (findBool "auto_launch").getD ws.autoLaunch
    color := ((findInt "color").map Int32.toUInt32).getD ws.color }

/-- A task that a handler posts to the UI sequence. -/
inductive UiTask where
  | createWorkspace (name : String) (type : WorkspaceType) (body : DictValue)
  | updateWorkspace (wsId : String) (body : DictValue)
  | deleteWorkspace (wsId : String)
  | launchWorkspace (wsId : String)
  | stopWorkspace (wsId : String)

/-- What is sent back: `RespondWithWorkspace` and `RespondWithStatus`. -/
inductive Response where
  | workspace (ws : Option DictValue)
  | status (success : Bool) (data : DictValue)

/-- The text of an error response. -/
structure RequestError where
  code : String
  message : String

/-- `HandleCreateWorkspace` up to the task that it posts. -/
def handleCreateWorkspace (body : DictValue) : Except RequestError UiTask :=
  match DictValue.findString body "name" with
  | none => .error ⟨"INVALID_REQUEST", "Missing required field: name"⟩
  | some name =>
    if name = "" then .error ⟨"INVALID_REQUEST", "Missing required field: name"⟩
    else
      let typeStr := (DictValue.findString body "type").getD "normal"
      .ok (.createWorkspace name (WorkspaceType.ofString typeStr) body)

/-- A task on the UI sequence; `basic` is drawn by `CreateBasic` and `stored` by the store. -/
def UiTask.run [TimeLib] (env : Env) (store : WorkspaceStore) (w : World) (basic stored : Drawn) :
    UiTask → WorkspaceStore × World × Option Response
  | .createWorkspace name type body =>
    let ws := Workspace.createBasic name type basic.id basic.seed basic.now
    let ws := applyBodyToWorkspace ws body
    let (store, ws) := store.createWorkspace ws stored.id stored.seed stored.now
    (store, w, some (.workspace (some ws.toDict)))
  | .updateWorkspace wsId body =>
    match store.getWorkspace wsId with
    | none => (store, w, some (.workspace none))
    | some existing =>
      let ws := applyBodyToWorkspace existing body
      let (store, success) := store.updateWorkspace ws stored.now
      (store, w, some (.workspace (if success then some ws.toDict else none)))
  | .deleteWorkspace wsId =>
    let (store, success) := store.deleteWorkspace wsId
    (store, w, some (.status success []))
  | .launchWorkspace wsId =>
    match store.getWorkspace wsId with
    | none => (store, w, some (.status false []))
    -- the callback of `Start` responds
    | some ws => (store, World.start env w ws, none)
  | .stopWorkspace wsId =>
    (store, w.stop wsId, some (.status true
      (DictValue.ofFields [("workspace_id", some (.string wsId)), ("status", some (.string "stopped"))])))

end PureCloak.API
