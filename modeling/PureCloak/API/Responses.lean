import PureCloak.API.ImportExport

/-!
# Responses

`WorkspaceApiHandler` with what it sends. A request is answered at once, or a task is posted to the UI sequence, which
posts a task back that sends the response. A launch that goes on in the thread pool comes back through the callback of
`Start`, also when the manager is gone by then, and a CDP request for a workspace that does not run is tried again after
a second. `ApiServer.step` is one step of the two sequences and of what they wait for, between which other callers use
the store and the manager and the manager may be destroyed.
-/

namespace PureCloak.Launcher
open PureCloak.Base PureCloak.Profiles

/-- What the values of the base library make of numbers and of bytes. -/
class ValueLib where
  /-- The bits of a number as a `double`. -/
  doubleBits : Int → UInt64
  /-- The text that a `std::string` has in JSON. -/
  text : Bytes → String

/-- `RunningWorkspace::StatusToString`. -/
def Status.toString : Status → String
  | .kStarting => "starting"
  | .kRunning => "running"
  | .kStopped => "stopped"
  | .kCrashed => "crashed"

namespace RunningWorkspace

/-- `Uptime`, in seconds. -/
def uptime (r : RunningWorkspace) (now : Time) : Int :=
  if r.launchedAt.isNull then 0 else (now.us - r.launchedAt.us).tdiv 1000000

/-- `RunningWorkspace::ToDict`. -/
def toDict [ValueLib] (r : RunningWorkspace) (now : Time) : DictValue :=
  DictValue.ofFields [
    ("workspace_id", some (.string r.workspaceId)),
    ("status", some (.string r.status.toString)),
    ("cdp_port", some (.integer (Int32.ofInt r.cdpPort))),
    ("cdp_url", some (.string r.cdpUrl)),
    ("pid", r.process.map fun pid => .integer (Int32.ofNat pid)),
    ("uptime_seconds", some (.integer (Int32.ofInt (r.uptime now)))),
    ("launched_at", some (.double (ValueLib.doubleBits r.launchedAt.us)))]

end RunningWorkspace

namespace World

/-- `GetStatusDict`. -/
def getStatusDict [ValueLib] (w : World) (wsId : String) (now : Time) : DictValue :=
  match w.workspaces[wsId]? with
  | none => DictValue.ofFields [("workspace_id", some (.string wsId)), ("status", some (.string "stopped"))]
  | some r => r.toDict now

/-- The port of a workspace that runs. -/
def runningPort (w : World) (wsId : String) : Option Int :=
  (w.workspaces[wsId]?.filter fun r => r.status = .kRunning).map (·.cdpPort)

/-- What `Start` answers at once. -/
def startAnswer (w : World) (id : String) : Option StartAnswer :=
  match w.activeEntry id with
  | some r => some (.running r)
  | none =>
    if w.workspaces.size ≥ kMaxConcurrentWorkspaces then some (.error "Maximum concurrent workspaces reached")
    else if findAvailablePort w = 0 then some (.error "No available CDP port")
    else none

/-- What `ContinueStart` answers. -/
def continueAnswer (w : World) (ws : Workspace) (userDataDir : String) (cdpPort : Int) (launches : Bool)
    (now : Time) : StartAnswer :=
  if !launches then .error "Failed to launch subprocess"
  else .running (newEntry ws userDataDir cdpPort w.processes.length now)

variable {env : Env} {w : World} {ws : Workspace}

/-- `Start` answers at once, or posts the launch to the thread pool. -/
theorem start_eq : start env w ws =
    (w.startAnswer ws.id).elim
      { w with pool := w.pool ++ [.prepareUserDataDir ws (userDataDir env ws.id) (findAvailablePort w)] } w.answer := by
  unfold startAnswer start
  cases w.activeEntry ws.id with
  | some r => rfl
  | none =>
    dsimp only
    split_ifs <;> rfl

end World

end PureCloak.Launcher

namespace PureCloak.API
open PureCloak.Base PureCloak.Content PureCloak.Profiles PureCloak.Launcher Machine

/-! ## What is sent -/

/-- What `SendJson` sends on a connection. -/
structure JsonResponse where
  status : Int
  body : DictValue

/-- `SendError`. -/
def sendError (status : Int) (code message : String) : JsonResponse where
  status := status
  body := DictValue.ofFields [
    ("success", some (.boolean false)),
    ("error", some (.dict (DictValue.ofFields [
      ("code", some (.string code)), ("message", some (.string message))])))]

/-- A success with its data. -/
def sendData (status : Int) (data : Value) : JsonResponse where
  status := status
  body := DictValue.ofFields [("success", some (.boolean true)), ("data", some data)]

/-- `RespondWithWorkspaceList`. -/
def respondWithWorkspaceList (workspaces : List DictValue) : JsonResponse :=
  sendData 200 (.list (workspaces.map .dict))

/-- `RespondWithWorkspace`. -/
def respondWithWorkspace : Option DictValue → JsonResponse
  | none => sendError 404 "NOT_FOUND" "Workspace not found"
  | some ws => sendData 200 (.dict ws)

/-- `RespondWithStatus`. -/
def respondWithStatus (success : Bool) (data : DictValue) : JsonResponse where
  status := if success then 200 else 400
  body := data.set "success" (.boolean success)

/-- What a task of `UiTask` sends back. -/
def Response.send : Response → JsonResponse
  | .workspace ws => respondWithWorkspace ws
  | .status success data => respondWithStatus success data

/-- What the callback of `Start` sends. -/
def startResponse [ValueLib] (now : Time) : StartAnswer → JsonResponse
  | .running ws => respondWithStatus true (ws.toDict now)
  | .error text =>
    respondWithStatus false
      (DictValue.ofFields [("success", some (.boolean false)), ("error", some (.string text))])

/-! ## Forwarding to a workspace -/

/-- The request that is forwarded. -/
def forwardRequest (method subpath : String) (cdpPort : Int) : Bytes :=
  utf8 (method ++ " " ++ subpath ++ " HTTP/1.1\r\nHost: 127.0.0.1:" ++ numberToString cdpPort ++
    "\r\nConnection: close\r\n\r\n")

/-- What comes of it: everything that was read until the end. -/
inductive ForwardResult where
  | noSocket
  | noConnection
  | response (data : Bytes)

/-- The status in the first line of a response. -/
def httpStatus (response : Bytes) : Int :=
  match findBytes [32] response with
  | none => 200
  | some space1 =>
    let rest := response.drop (space1 + 1)
    match findBytes [32] rest with
    | none => 200
    | some space2 =>
      let (code, valid) := stringToInt (String.ofList ((rest.take space2).map fun b => Char.ofNat b.toNat))
      if valid then code.toInt else 200

/-- A response without its headers. -/
def httpBody (response : Bytes) : Bytes :=
  match findBytes headEnd response with
  | none => response
  | some i => response.drop (i + 4)

/-- The task that forwards a request, the first time or again. -/
def forwarded [JSONReader] [ValueLib] (again : Bool) : ForwardResult → JsonResponse
  | .noSocket => sendError 500 "PROXY_ERROR" "Failed to create socket"
  | .noConnection =>
    sendError 502 "PROXY_ERROR" ("Failed to connect to child CDP" ++ if again then " (retry)" else "")
  | .response response =>
    if response.isEmpty then
      sendError 502 "PROXY_ERROR" ("Empty response from child CDP" ++ if again then " (retry)" else "")
    else
      let body := httpBody response
      match JSONReader.read body with
      | some (.dict dict) => sendData (httpStatus response) (.dict dict)
      | some (.list items) => sendData (httpStatus response) (.list items)
      | _ => ⟨httpStatus response,
          DictValue.ofFields [("success", some (.boolean true)), ("raw", some (.string (ValueLib.text body)))]⟩

/-! ## Tasks -/

/-- The arguments of `HandleCDPRequest`. -/
structure CDPRequest where
  wsId : String
  subpath : String
  info : HttpServerRequestInfo

/-- A task that a request posts to the UI sequence. -/
inductive RequestTask where
  | getAllWorkspaces
  | getWorkspace (wsId : String)
  | handle (task : UiTask)
  | getWorkspaceStatus (wsId : String)
  | systemStatus
  | cdpRequest (r : CDPRequest)
  | exportWorkspaces
  | importWorkspaces (items : ListValue)

/-- A task that is posted back to the API sequence. -/
inductive ResponseTask where
  | respond (response : JsonResponse)
  | forward (cdpPort : Int) (request : Bytes) (again : Bool)
  | retryCDPRequest (r : CDPRequest)

/-- A launch while its directory is prepared. -/
structure Launch where
  ws : Workspace
  userDataDir : String
  cdpPort : Int

/-- What a task on the UI sequence leads to. -/
inductive Outcome where
  | post (task : ResponseTask)
  | launch (l : Launch)

/-- A handler of a route: the response that it sends at once, or the task that it posts. -/
def Route.handle [JSONReader] : Route → Except JsonResponse RequestTask
  | .systemStatus => .ok .systemStatus
  | .getAllWorkspaces => .ok .getAllWorkspaces
  | .createWorkspace body =>
    match handleCreateWorkspace body with
    | .error e => .error (sendError 400 e.code e.message)
    | .ok task => .ok (.handle task)
  | .getWorkspace wsId => .ok (.getWorkspace wsId)
  | .updateWorkspace wsId body => .ok (.handle (.updateWorkspace wsId body))
  | .deleteWorkspace wsId => .ok (.handle (.deleteWorkspace wsId))
  | .launchWorkspace wsId => .ok (.handle (.launchWorkspace wsId))
  | .stopWorkspace wsId => .ok (.handle (.stopWorkspace wsId))
  | .getWorkspaceStatus wsId => .ok (.getWorkspaceStatus wsId)
  | .exportWorkspaces => .ok .exportWorkspaces
  | .importWorkspaces body =>
    match JSONReader.read body with
    | some (.list items) => .ok (.importWorkspaces items)
    | _ => .error (sendError 400 "INVALID_REQUEST" "Request body must be a JSON array of workspaces")
  -- the proxy is there from the constructor on
  | .cdpRequest wsId subpath info => .ok (.cdpRequest ⟨wsId, subpath, info⟩)
  | .error status code message => .error (sendError status code message)

/-- The check of a CDP request on the UI sequence. -/
def checkTarget (w : World) (r : CDPRequest) (again : Bool) : ResponseTask :=
  match w.runningPort r.wsId with
  | some cdpPort => .forward cdpPort (forwardRequest r.info.method r.subpath cdpPort) again
  | none =>
    if again then .respond (sendError 400 "NOT_RUNNING" "Workspace is not running after retry")
    else .retryCDPRequest r

/-- The store, and the manager as long as it is there. -/
structure Backend where
  store : WorkspaceStore
  manager : Option World

section
variable [TimeLib] [ValueLib]

/-- A task on the UI sequence; there is none that uses a manager which was destroyed. -/
def RequestTask.run (env : Env) (b : Backend) (basic stored : Drawn) (imported : Nat → Drawn) (now : Time) :
    RequestTask → Option (Backend × Outcome)
  | .getAllWorkspaces =>
    some (b, .post (.respond (respondWithWorkspaceList (b.store.getAllWorkspaces.map Workspace.toDict))))
  | .getWorkspace wsId =>
    some (b, .post (.respond (respondWithWorkspace ((b.store.getWorkspace wsId).map Workspace.toDict))))
  | .handle (.launchWorkspace wsId) =>
    match b.store.getWorkspace wsId with
    | none => some (b, .post (.respond (respondWithStatus false [])))
    | some ws => do
      let w ← b.manager
      match w.startAnswer ws.id with
      | some answer =>
        some ({ b with manager := some (World.start env w ws) }, .post (.respond (startResponse now answer)))
      | none => some (b, .launch ⟨ws, World.userDataDir env ws.id, findAvailablePort w⟩)
  | .handle (.stopWorkspace wsId) => do
    let w ← b.manager
    let r := UiTask.run env b.store w basic stored (.stopWorkspace wsId)
    r.2.2.map fun response => (⟨r.1, some r.2.1⟩, .post (.respond response.send))
  -- the other tasks leave the manager alone
  | .handle task =>
    let r := UiTask.run env b.store (b.manager.getD {}) basic stored task
    r.2.2.map fun response => ({ b with store := r.1 }, .post (.respond response.send))
  | .getWorkspaceStatus wsId => do
    let w ← b.manager
    some (b, .post (.respond (respondWithStatus true (w.getStatusDict wsId now))))
  | .systemStatus => do
    let w ← b.manager
    let data := DictValue.ofFields [
      ("status", some (.string "running")),
      ("version", some (.string "1.0.0")),
      ("running_workspaces", some (.integer (Int32.ofNat w.runningCount))),
      ("total_workspaces", some (.integer (Int32.ofNat w.workspaces.size)))]
    some (b, .post (.respond (respondWithStatus true data)))
  | .cdpRequest r => do
    let w ← b.manager
    some (b, .post (checkTarget w r false))
  | .exportWorkspaces => some (b, .post (.respond (sendData 200 (.list (PureCloak.API.exportWorkspaces b.store)))))
  | .importWorkspaces items =>
    let r := PureCloak.API.importWorkspaces imported items b.store
    some ({ b with store := r.store }, .post (.respond (sendData 200 (.dict r.data))))

/-- The reply to a launch; the callback is run, whether the manager is there or not. -/
def Launch.reply (env : Env) (manager : Option World) (launches : Bool) (now : Time) (l : Launch) :
    Option World × JsonResponse :=
  match manager with
  | none => (none, respondWithStatus false [])
  | some w =>
    (some (World.continueStart env w l.ws l.userDataDir l.cdpPort launches now),
      startResponse now (w.continueAnswer l.ws l.userDataDir l.cdpPort launches now))

end

/-! ## The handler -/

/-- A call of `OnHttpRequest`; the number tells it from the other calls. -/
structure Request where
  number : Nat
  connectionId : Int
  info : HttpServerRequestInfo

/-- The handler, and everything that waits. The requests and those of them that were delayed or went on in the thread
pool are written down for the statements. -/
structure ApiServer where
  apiToken : String
  backend : Backend
  server : Bool := true
  uiTasks : List (Request × RequestTask) := []
  delayed : List (Request × CDPRequest) := []
  launches : List (Request × Launch) := []
  apiTasks : List (Request × ResponseTask) := []
  /-- The calls of `SendJson` that reached the server. -/
  sent : List (Request × JsonResponse) := []
  requests : List Request := []
  detours : List Request := []

/-- What the server, the sequences and the thread pool do, and other callers of the store and the manager. -/
inductive ServerEvent where
  | onHttpRequest (connectionId : Int) (info : HttpServerRequestInfo)
  | runUiTask (basic stored : Drawn) (imported : Nat → Drawn) (now : Time)
  | runDelayedTask (i : Nat)
  | continueStart (i : Nat) (launches : Bool) (now : Time)
  | runApiTask (result : ForwardResult)
  | store (op : StoreOp)
  | manager (e : World.Event)
  | destroyManager

namespace ApiServer

/-- `SendJson`. -/
def sendJson (s : ApiServer) (request : Request) (response : JsonResponse) : ApiServer :=
  if s.server then { s with sent := s.sent ++ [(request, response)] } else s

/-- A task is posted back to the API sequence. -/
def postBack (s : ApiServer) (request : Request) (task : ResponseTask) : ApiServer :=
  { s with apiTasks := s.apiTasks ++ [(request, task)] }

/-- `OnHttpRequest`. -/
def onHttpRequest [JSONReader] (s : ApiServer) (connectionId : Int) (info : HttpServerRequestInfo) : ApiServer :=
  let request := ⟨s.requests.length, connectionId, info⟩
  let s := { s with requests := s.requests ++ [request] }
  match (dispatchRequest s.apiToken info).handle with
  | .error response => s.sendJson request response
  | .ok task => { s with uiTasks := s.uiTasks ++ [(request, task)] }

/-- A task on the UI sequence has led to something. -/
def after (s : ApiServer) (request : Request) : Outcome → ApiServer
  | .post task => s.postBack request task
  | .launch l => { s with launches := s.launches ++ [(request, l)], detours := s.detours ++ [request] }

/-- A task on the API sequence. -/
def runApiTask [JSONReader] [ValueLib] (s : ApiServer) (result : ForwardResult) (request : Request) :
    ResponseTask → ApiServer
  | .respond response => s.sendJson request response
  | .forward _ _ again => s.sendJson request (forwarded again result)
  -- `RetryCDPRequest`
  | .retryCDPRequest r =>
    { s with delayed := s.delayed ++ [(request, r)], detours := s.detours ++ [request] }

/-- One step. The tasks of a sequence run in their order, the delayed ones and the replies of the thread pool in any. -/
def step [TimeLib] [ValueLib] [JSONReader] (env : Env) (s : ApiServer) : ServerEvent → Option ApiServer
  | .onHttpRequest connectionId info => some (s.onHttpRequest connectionId info)
  | .runUiTask basic stored imported now =>
    match s.uiTasks with
    | [] => none
    | (request, task) :: tasks => do
      let (backend, outcome) ← task.run env s.backend basic stored imported now
      some ({ s with uiTasks := tasks, backend := backend }.after request outcome)
  | .runDelayedTask i => do
    let (request, r) ← s.delayed[i]?
    let w ← s.backend.manager
    some ({ s with delayed := s.delayed.eraseIdx i }.postBack request (checkTarget w r true))
  | .continueStart i launches now => do
    let (request, l) ← s.launches[i]?
    let (manager, response) := l.reply env s.backend.manager launches now
    some ({ s with
      launches := s.launches.eraseIdx i
      backend := { s.backend with manager := manager } }.postBack request (.respond response))
  | .runApiTask result =>
    match s.apiTasks with
    | [] => none
    | (request, task) :: tasks => some ({ s with apiTasks := tasks }.runApiTask result request task)
  | .store op => some { s with backend := { s.backend with store := s.backend.store.apply op } }
  | .manager e => do
    let w ← World.step env (← s.backend.manager) e
    some { s with backend := { s.backend with manager := some w } }
  | .destroyManager => some { s with backend := { s.backend with manager := none } }

/-- A handler to which no request has been made. -/
def start (apiToken : String) (store : WorkspaceStore) (manager : World) : ApiServer where
  apiToken := apiToken
  backend := ⟨store, some manager⟩

/-- No task is pending. -/
def Idle (s : ApiServer) : Prop :=
  s.uiTasks = [] ∧ s.delayed = [] ∧ s.launches = [] ∧ s.apiTasks = []

end ApiServer

end PureCloak.API
