import PureCloak.API.CDPProxyHandler
import PureCloak.API.Routes
import PureCloak.API.WorkspaceApiHandler
import PureCloak.Library.Machine

/-!
# Authentication

The entry points of `WorkspaceApiHandler` that a client reaches, and the tasks that they post to the UI sequence and
that come back from there. With a token, a request is refused before it reaches the store or the manager. The upgrade
to a WebSocket is not checked: `unchanged_iff` says that a client without the token leaves everything as it was
exactly as long as it asks for no upgrade below `/api/workspaces/{id}/cdp`, where it gets a session, and no message
of a session that is there fails to be written.

What is sent back is left out, and so are the requests that only read and the HTTP requests to the CDP endpoint of a
workspace, which open and close a socket of their own in one task.
-/

namespace PureCloak.API
open PureCloak.Base PureCloak.Profiles PureCloak.Launcher Machine

/-- A task on the UI sequence. -/
inductive UiThreadTask where
  | handle (task : UiTask)
  | importWorkspaces (items : ListValue)
  /-- The lookup of `HandleWebSocketUpgrade`. -/
  | findTarget (conn : Int) (wsId : String)

/-- A task that comes back to the API sequence. -/
inductive ApiThreadTask where
  | connectToTarget (conn port : Int)
  | onClientDisconnect (conn : Int)

/-- `WorkspaceApiHandler`, with the store and the manager that it works on and the tasks that wait. -/
structure WorkspaceApiHandler where
  apiToken : String
  store : WorkspaceStore
  manager : World
  proxy : CDPProxyHandler := {}
  server : Bool := true
  /-- The connections given to `AcceptWebSocket`. -/
  accepted : List Int := []
  uiTasks : List UiThreadTask := []
  apiTasks : List ApiThreadTask := []

/-- What a client does, and the turns of the two sequences. -/
inductive ApiEvent where
  | httpRequest (conn : Int) (info : HttpServerRequestInfo)
  | webSocketRequest (conn : Int) (info : HttpServerRequestInfo)
  | webSocketMessage (conn : Int) (data : Bytes) (result : IOResult Nat)
  /-- The ids, the seeds and the times that the task draws are chosen outside. -/
  | runUiTask (basic stored : Drawn) (imported : Nat → Drawn)
  | runApiTask (results : SocketResults)

/-- The task that a handler posts, if it may change something. -/
def Route.task [JSONReader] : Route → Option UiThreadTask
  | .createWorkspace body =>
    match handleCreateWorkspace body with
    | .error _ => none
    | .ok task => some (.handle task)
  | .updateWorkspace wsId body => some (.handle (.updateWorkspace wsId body))
  | .deleteWorkspace wsId => some (.handle (.deleteWorkspace wsId))
  | .launchWorkspace wsId => some (.handle (.launchWorkspace wsId))
  | .stopWorkspace wsId => some (.handle (.stopWorkspace wsId))
  | .importWorkspaces body =>
    match JSONReader.read body with
    | some (.list items) => some (.importWorkspaces items)
    | _ => none
  | _ => none

/-- The loop of `HandleImportWorkspaces`. -/
def importItems [TimeLib] (imported : Nat → Drawn) : Nat → ListValue → WorkspaceStore → WorkspaceStore
  | _, [], store => store
  | i, .dict dict :: items, store =>
    if (DictValue.findString dict "name").getD "" = "" then importItems imported (i + 1) items store
    else
      let drawn := imported i
      let ws := { Workspace.fromDict dict with id := drawn.id }
      importItems imported (i + 1) items (store.createWorkspace ws drawn.id drawn.seed drawn.now).1
  | i, _ :: items, store => importItems imported (i + 1) items store

/-- The workspace and the subpath that an upgrade is for. -/
def cdpEndpoint : List String → Option (String × String)
  | first :: second :: wsId :: fourth :: others =>
    if first = "api" ∧ second = "workspaces" ∧ fourth = "cdp" then some (wsId, subpath others) else none
  | _ => none

namespace WorkspaceApiHandler

/-- `OnHttpRequest`. -/
def onHttpRequest [JSONReader] (h : WorkspaceApiHandler) (info : HttpServerRequestInfo) : WorkspaceApiHandler :=
  { h with uiTasks := h.uiTasks ++ (dispatchRequest h.apiToken info).task.toList }

/-- `OnWebSocketRequest`. -/
def onWebSocketRequest (h : WorkspaceApiHandler) (conn : Int) (info : HttpServerRequestInfo) :
    WorkspaceApiHandler :=
  match cdpEndpoint (parsePath info.path) with
  | none => h
  | some (wsId, subpath) =>
    { h with
      accepted := if h.server then h.accepted ++ [conn] else h.accepted
      proxy := h.proxy.createSession conn subpath
      uiTasks := h.uiTasks ++ [.findTarget conn wsId] }

/-- `OnWebSocketMessage`. -/
def onWebSocketMessage (h : WorkspaceApiHandler) (conn : Int) (data : Bytes) (result : IOResult Nat) :
    WorkspaceApiHandler :=
  { h with proxy := h.proxy.onWebSocketMessage conn data result }

/-- A task on the UI sequence. -/
def runUiTask [TimeLib] (env : Env) (h : WorkspaceApiHandler) (basic stored : Drawn) (imported : Nat → Drawn) :
    UiThreadTask → WorkspaceApiHandler
  | .handle task =>
    let (store, manager, _) := task.run env h.store h.manager basic stored
    { h with store := store, manager := manager }
  | .importWorkspaces items => { h with store := importItems imported 0 items h.store }
  | .findTarget conn wsId =>
    match h.manager.workspaces[wsId]? with
    | none => { h with apiTasks := h.apiTasks ++ [.onClientDisconnect conn] }
    | some running =>
      if running.status ≠ .kRunning then { h with apiTasks := h.apiTasks ++ [.onClientDisconnect conn] }
      else { h with apiTasks := h.apiTasks ++ [.connectToTarget conn running.cdpPort] }

/-- A task on the API sequence. -/
def runApiTask (h : WorkspaceApiHandler) (results : SocketResults) : ApiThreadTask → Option WorkspaceApiHandler
  | .connectToTarget conn port => (h.proxy.connectToTarget conn port results).map fun p => { h with proxy := p }
  | .onClientDisconnect conn => some { h with proxy := h.proxy.onClientDisconnect conn }

/-- One step; the tasks of a sequence run in their order. -/
def step [TimeLib] [JSONReader] (env : Env) (h : WorkspaceApiHandler) : ApiEvent → Option WorkspaceApiHandler
  | .httpRequest _ info => some (h.onHttpRequest info)
  | .webSocketRequest conn info => some (h.onWebSocketRequest conn info)
  | .webSocketMessage conn data result => some (h.onWebSocketMessage conn data result)
  | .runUiTask basic stored imported =>
    match h.uiTasks with
    | [] => none
    | task :: tasks => some (runUiTask env { h with uiTasks := tasks } basic stored imported task)
  | .runApiTask results =>
    match h.apiTasks with
    | [] => none
    | task :: tasks =>
      if results.reads.all fitsBuffer then runApiTask { h with apiTasks := tasks } results task else none

end WorkspaceApiHandler

/-! ## What a client without the token must not change -/

/-- The sessions and the connections to their targets. -/
def CDPProxyHandler.relays (p : CDPProxyHandler) (conn : Int) : Option (Nat × Option Int) :=
  p.sessions[conn]?.map fun session => (session.number, session.target.map (·.port))

/-- A message from the client of a connection goes to a target. -/
def CDPProxyHandler.Forwards (p : CDPProxyHandler) (conn : Int) : Prop :=
  ∃ session, p.sessions[conn]? = some session ∧ session.handshakeComplete ∧ session.target.isSome

/-- The path is that of the CDP endpoint of a workspace, or below it. -/
def UnderCdp (path : String) : Prop :=
  ∃ id suffix, Segment id ∧ Names path ("api/workspaces/" ++ id ++ "/cdp" ++ suffix) ∧
    (suffix = "" ∨ suffix.toList.head? = some '/')

namespace WorkspaceApiHandler

/-- No task waits. -/
def Idle (h : WorkspaceApiHandler) : Prop :=
  h.uiTasks = [] ∧ h.apiTasks = []

/-- The store, the manager, the sessions and the connections to targets are as they were. -/
structure Unchanged (before h : WorkspaceApiHandler) : Prop where
  store : h.store = before.store
  manager : h.manager = before.manager
  relays : h.proxy.relays = before.proxy.relays

/-- The step asks for no session, and no message fails to be written. -/
def Harmless (h : WorkspaceApiHandler) : ApiEvent → Prop
  | .webSocketRequest _ info => ¬ UnderCdp info.path
  | .webSocketMessage conn _ result => ¬ (h.proxy.Forwards conn ∧ result = .failed)
  | _ => True

end WorkspaceApiHandler

/-! ## What the steps of the proxy do to its sessions -/

namespace CDPProxyHandler

/-- A new session is told from those that were there by its number. -/
lemma relays_createSession_ne (p : CDPProxyHandler) (conn : Int) (subpath : String) :
    (p.createSession conn subpath).relays ≠ p.relays := by
  intro same
  have here := congrFun same conn
  rw [relays, relays, get_createSession, if_pos rfl] at here
  obtain ⟨session, there, e⟩ := Option.map_eq_some_iff.mp here.symm
  have older := p.numbered conn session there
  have number : session.number = p.nextSession := congrArg Prod.fst e
  omega

/-- The end of a session changes what is relayed. -/
lemma relays_destroySession_ne {p : CDPProxyHandler} {conn : Int} {session : ProxySession}
    (h : p.sessions[conn]? = some session) : (p.destroySession conn).relays ≠ p.relays := by
  intro same
  have here := congrFun same conn
  rw [relays, relays, get_destroySession, if_pos rfl, h] at here
  cases here

/-- A write changes nothing about who is relayed. -/
lemma relays_wrote (p : CDPProxyHandler) (conn : Int) (data : Bytes) (result : IOResult Nat) :
    (p.wrote conn data result).relays = p.relays := by
  funext other
  rw [relays, relays, get_wrote]
  split_ifs
  · cases p.sessions[other]? with
    | none => rfl
    | some session =>
      rw [Option.map_some, Option.map_some, Option.map_some, ProxySession.wrote, Option.map_map]
      rfl
  · rfl

/-- A message leaves the sessions as they are, unless it goes to a target and is not written. -/
lemma relays_onWebSocketMessage_iff (p : CDPProxyHandler) (conn : Int) (data : Bytes) (result : IOResult Nat) :
    (p.onWebSocketMessage conn data result).relays = p.relays ↔ ¬ (p.Forwards conn ∧ result = .failed) := by
  unfold onWebSocketMessage Forwards
  cases here : p.sessions[conn]? with
  | none => simp
  | some session =>
    cases complete : session.handshakeComplete with
    | false => simp [complete]
    | true =>
      cases socket : session.target with
      | none => simp [complete, forwardToTarget, here, socket]
      | some t =>
        have forward : p.forwardToTarget conn data result =
            if result = .failed then (p.wrote conn data result).destroySession conn else p.wrote conn data result := by
          simp [forwardToTarget, here, socket]
        simp only [complete, Bool.not_true, Bool.false_eq_true, if_false, forward]
        split_ifs with failed
        · have there : (p.wrote conn data result).sessions[conn]? = some (session.wrote data result) := by
            rw [get_wrote, if_pos rfl, here, Option.map_some]
          have gone := relays_destroySession_ne there
          rw [relays_wrote] at gone
          exact iff_of_false gone (by simp [complete, socket, failed])
        · exact iff_of_true (relays_wrote p conn data result) fun h => failed h.2

end CDPProxyHandler

/-- The path has a CDP endpoint exactly when it is under one. -/
lemma cdpEndpoint_isSome_iff {path : String} :
    (∃ target, cdpEndpoint (parsePath path) = some target) ↔ UnderCdp path := by
  constructor
  · intro h
    obtain ⟨target, h⟩ := h
    unfold cdpEndpoint at h
    split at h
    · rename_i first second id fourth others parsed
      split_ifs at h with cdp
      obtain ⟨rfl, rfl, rfl⟩ := cdp
      obtain ⟨names, segment, _⟩ := parsePath_cdp.mp parsed
      exact ⟨id, subpath others, segment, names, subpath_head? others⟩
    · cases h
  · intro h
    obtain ⟨id, suffix, segment, names, tail⟩ := h
    obtain ⟨others, rfl, slashless⟩ := exists_subpath tail
    rw [parsePath_cdp.mpr ⟨names, segment, slashless⟩]
    exact ⟨(id, subpath others), by simp [cdpEndpoint]⟩

namespace WorkspaceApiHandler
variable {env : Env} {before h t : WorkspaceApiHandler}

/-- What holds as long as the steps are harmless. -/
structure Kept (before h : WorkspaceApiHandler) : Prop extends Unchanged before h where
  apiToken : h.apiToken = before.apiToken
  idle : h.Idle

section
variable [JSONReader]

/-- With a token no request posts a task. -/
lemma onHttpRequest_of_token (token : h.apiToken ≠ "") (info : HttpServerRequestInfo) :
    h.onHttpRequest info = h := by
  rw [onHttpRequest, dispatchRequest_of_token token]
  show { h with uiTasks := h.uiTasks ++ [] } = h
  rw [List.append_nil]

variable [TimeLib]

/-- With a token a harmless step changes nothing. -/
lemma Kept.after {e : ApiEvent} (token : before.apiToken ≠ "") (k : Kept before h) (harmless : h.Harmless e)
    (st : step env h e = some t) : Kept before t := by
  cases e with
  | httpRequest conn info =>
    cases st
    rw [onHttpRequest_of_token (k.apiToken ▸ token)]
    exact k
  | webSocketRequest conn info =>
    have refused : cdpEndpoint (parsePath info.path) = none := by
      rw [Option.eq_none_iff_forall_ne_some]
      intro target h
      exact harmless (cdpEndpoint_isSome_iff.mp ⟨target, h⟩)
    have same : h.onWebSocketRequest conn info = h := by rw [onWebSocketRequest, refused]
    cases st
    rw [same]
    exact k
  | webSocketMessage conn data result =>
    have relays := (CDPProxyHandler.relays_onWebSocketMessage_iff h.proxy conn data result).mpr harmless
    cases st
    exact ⟨⟨k.store, k.manager, relays.trans k.relays⟩, k.apiToken, k.idle⟩
  | runUiTask basic stored imported =>
    have none : (none : Option WorkspaceApiHandler) = some t := by
      rwa [WorkspaceApiHandler.step, k.idle.1] at st
    cases none
  | runApiTask results =>
    have none : (none : Option WorkspaceApiHandler) = some t := by
      rwa [WorkspaceApiHandler.step, k.idle.2] at st
    cases none

/-- A step that leaves everything as it was is harmless. -/
lemma Kept.harmless {e : ApiEvent} (k : Kept before h) (same : Unchanged before t)
    (st : step env h e = some t) : h.Harmless e := by
  cases e with
  | webSocketRequest conn info =>
    intro under
    obtain ⟨⟨wsId, subpath⟩, endpoint⟩ := cdpEndpoint_isSome_iff.mpr under
    have created : t.proxy = h.proxy.createSession conn subpath := by
      cases st
      rw [onWebSocketRequest, endpoint]
    apply CDPProxyHandler.relays_createSession_ne h.proxy conn subpath
    rw [← created, same.relays, k.relays]
  | webSocketMessage conn data result =>
    cases st
    rw [Harmless, ← CDPProxyHandler.relays_onWebSocketMessage_iff]
    exact same.relays.trans k.relays.symm
  | httpRequest _ _ | runUiTask _ _ _ | runApiTask _ => exact trivial

/-- Without an upgrade to the CDP endpoint of a workspace nothing changes, whatever a client sends. -/
theorem unchanged_iff {tr : List (WorkspaceApiHandler × ApiEvent)} (token : before.apiToken ≠ "")
    (idle : before.Idle) (r : Run (WorkspaceApiHandler.step env) before tr t) :
    Always (Unchanged before) tr t ↔ Guarded Harmless tr := by
  apply Run.always_iff_of_kept (J := Kept before) _ _ _ r
  · exact ⟨⟨rfl, rfl, rfl⟩, rfl, idle⟩
  · exact Kept.after token
  · exact fun _ k => k.toUnchanged
  · exact Kept.harmless

end

/-- A handler with a token, while a workspace runs. -/
def guardedHandler : WorkspaceApiHandler where
  apiToken := "t"
  store := {}
  manager :=
    { workspaces := (∅ : Std.ExtTreeMap String RunningWorkspace).insert "a"
        { workspaceId := "a", type := .kNormal, process := none, userDataDir := "", cdpPort := 9333, cdpUrl := "",
          status := .kRunning, launchedAt := .null } }

/-- A step where no body can be parsed. -/
abbrev guardedStep : WorkspaceApiHandler → ApiEvent → Option WorkspaceApiHandler :=
  @WorkspaceApiHandler.step utcCalendar (tableReader []) bareEnv

/-- A request, an upgrade that is not for the CDP endpoint and a message. -/
def refusedEvents : List ApiEvent :=
  [.httpRequest 1 (.bare "DELETE" "/api/workspaces/a"),
    .webSocketRequest 2 (.bare "GET" "/api/workspaces/a"),
    .webSocketMessage 2 (utf8 "x") (.done 1)]

/-- They change nothing. -/
theorem unchanged_iff_refused :
    ∃ t, Run guardedStep guardedHandler (trace guardedStep guardedHandler refusedEvents) t ∧
      Always (Unchanged guardedHandler) (trace guardedStep guardedHandler refusedEvents) t := by
  obtain ⟨t, ex⟩ : ∃ t, exec guardedStep guardedHandler refusedEvents = some t := ⟨_, rfl⟩
  have harmless : ∀ e ∈ refusedEvents, ∀ h : WorkspaceApiHandler, h.Harmless e := by
    intro e he h
    simp only [refusedEvents, List.mem_cons, List.not_mem_nil, or_false] at he
    rcases he with rfl | rfl | rfl
    · exact trivial
    · rw [Harmless, ← cdpEndpoint_isSome_iff]
      intro under
      obtain ⟨target, endpoint⟩ := under
      cases endpoint
    · intro failed
      cases failed.2
  have r := Run.of_exec ex
  have always := @unchanged_iff bareEnv _ _ (tableReader []) utcCalendar _ (by decide) ⟨rfl, rfl⟩ r
  exact ⟨t, r, always.mpr fun p hp => Guarded.trace harmless guardedHandler p hp p.1⟩

/-- What the tasks draw where it does not matter. -/
def anyDrawn : Drawn :=
  ⟨"", ⟨45678, by decide, by decide⟩, .null⟩

/-- An upgrade to the CDP endpoint, and the tasks that follow. -/
def upgradeEvents : List ApiEvent :=
  [.webSocketRequest 1 (.bare "GET" "/api/workspaces/a/cdp"),
    .runUiTask anyDrawn anyDrawn fun _ => anyDrawn,
    .runApiTask {}]

/-- A client without the token gets a connection to the CDP endpoint of the workspace. -/
theorem unchanged_fails :
    ∃ tr t, Run guardedStep guardedHandler tr t ∧
      (∀ p ∈ tr, ∀ conn info, p.2 = .httpRequest conn info ∨ p.2 = .webSocketRequest conn info →
        info.authorization ≠ some ("Bearer " ++ guardedHandler.apiToken)) ∧
      guardedHandler.proxy.relays 1 = none ∧ t.proxy.relays 1 = some (0, some 9333) ∧
      ¬ Unchanged guardedHandler t := by
  have ran : (exec guardedStep guardedHandler upgradeEvents).map (·.proxy.relays 1) =
      some (some (0, some 9333)) := rfl
  obtain ⟨t, ex, target⟩ := Option.map_eq_some_iff.mp ran
  have silent : ∀ e ∈ upgradeEvents, ∀ conn info, e = .httpRequest conn info ∨ e = .webSocketRequest conn info →
      info.authorization ≠ some ("Bearer " ++ guardedHandler.apiToken) := by
    intro e he conn info request
    simp only [upgradeEvents, List.mem_cons, List.not_mem_nil, or_false] at he
    rcases he with rfl | rfl | rfl
    · rcases request with request | request
      · cases request
      · cases request
        exact nofun
    · rcases request with request | request <;> cases request
    · rcases request with request | request <;> cases request
  refine ⟨_, t, Run.of_exec ex, Guarded.trace silent guardedHandler, rfl, target, ?_⟩
  intro same
  have here := congrFun same.relays 1
  rw [target] at here
  cases here

end WorkspaceApiHandler

end PureCloak.API
