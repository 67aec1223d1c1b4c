import PureCloak.API.Responses
import PureCloak.Library.Desk

/-!
# Steps of the handler

The handler is a desk: the tasks on the UI sequence are its first queue, those that are posted back are the second one,
and the delayed CDP requests and the launches in the thread pool are on a detour. `ApiServer.desk_step` says that a
step moves one request there or none, and `ApiServer.Served` what a run keeps by that.
-/

namespace PureCloak.API
open PureCloak.Base PureCloak.Profiles PureCloak.Launcher Machine

instance : Preorder Request :=
  Preorder.lift Request.number

/-- The routes that may wait elsewhere than in the two sequences. -/
def Route.wanders : Route → Bool
  | .launchWorkspace _ | .cdpRequest _ _ _ => true
  | _ => false

namespace Request
variable [JSONReader] (apiToken : String) (r : Request)

/-- The response is sent from `DispatchRequest`. -/
def AtOnce : Prop :=
  ∃ response, (dispatchRequest apiToken r.info).handle = .error response

/-- A launch or a CDP request. -/
def Wanders : Prop :=
  (dispatchRequest apiToken r.info).wanders = true

end Request

/-! ## Tasks and the routes they are from -/

/-- The tasks of these routes. -/
def RequestTask.wanders : RequestTask → Bool
  | .handle (.launchWorkspace _) | .cdpRequest _ => true
  | _ => false

/-- A task sends its request on a detour only if its route says so. -/
lemma handle_wanders [JSONReader] {route : Route} {task : RequestTask} (h : route.handle = .ok task) :
    task.wanders = route.wanders := by
  cases route with
  | createWorkspace body =>
    rw [Route.handle] at h
    cases created : handleCreateWorkspace body with
    | error e =>
      rw [created] at h
      cases h
    | ok posted =>
      rw [created] at h
      cases h
      unfold handleCreateWorkspace at created
      split at created
      · cases created
      · split_ifs at created
        cases created
        rfl
  | importWorkspaces body =>
    rw [Route.handle] at h
    split at h
    · cases h
      rfl
    · cases h
  | error => cases h
  | systemStatus | getAllWorkspaces | getWorkspace | updateWorkspace | deleteWorkspace | launchWorkspace
  | stopWorkspace | getWorkspaceStatus | exportWorkspaces | cdpRequest =>
    cases h
    rfl

/-- What is on its way to a detour. -/
def Outcome.wanders : Outcome → Bool
  | .launch _ | .post (.retryCDPRequest _) => true
  | .post _ => false

/-- The second check of a CDP request is answered without another detour. -/
lemma checkTarget_again (w : World) (r : CDPRequest) : (Outcome.post (checkTarget w r true)).wanders = false := by
  unfold checkTarget
  cases w.runningPort r.wsId <;> rfl

/-- A task that runs takes a detour only if it is one of those that may. -/
lemma run_wanders [TimeLib] [ValueLib] {env : Env} {b b' : Backend} {basic stored : Drawn}
    {imported : Nat → Drawn} {now : Time} {task : RequestTask} {outcome : Outcome}
    (ran : task.run env b basic stored imported now = some (b', outcome))
    (h : outcome.wanders = true) : task.wanders = true := by
  cases task with
  | cdpRequest => rfl
  | handle task =>
    cases task with
    | launchWorkspace => rfl
    | createWorkspace | deleteWorkspace =>
      cases ran
      cases h
    | updateWorkspace =>
      obtain ⟨response, _, eq⟩ := Option.map_eq_some_iff.mp ran
      cases eq
      cases h
    | stopWorkspace =>
      obtain ⟨w, _, ran⟩ := Option.bind_eq_some_iff.mp ran
      cases ran
      cases h
  | getAllWorkspaces | getWorkspace | exportWorkspaces | importWorkspaces =>
    cases ran
    cases h
  | getWorkspaceStatus | systemStatus =>
    obtain ⟨w, _, ran⟩ := Option.bind_eq_some_iff.mp ran
    cases ran
    cases h

/-! ## The handler as a desk -/

namespace ApiServer
variable {s t : ApiServer} {request : Request}

/-- Where the requests are. -/
def desk (s : ApiServer) : Desk Request where
  taken := s.requests
  first := s.uiTasks.map Prod.fst
  second := s.apiTasks.map Prod.fst
  away := s.delayed.map Prod.fst ++ s.launches.map Prod.fst
  answered := s.sent.map Prod.fst
  detours := s.detours

/-- A response answers the request at the desk. -/
lemma desk_sendJson (server : s.server = true) (response : JsonResponse) :
    (s.sendJson request response).desk = { s.desk with answered := s.desk.answered ++ [request] } := by
  rw [sendJson, if_pos server, desk, List.map_append]
  rfl

/-- A task that is posted back waits at the second counter. -/
lemma desk_postBack (task : ResponseTask) :
    (s.postBack request task).desk = { s.desk with second := s.desk.second ++ [request] } := by
  rw [postBack, desk, List.map_append]
  rfl

/-- A request that comes in queues at the first counter. -/
lemma desk_take (task : RequestTask) :
    { s with requests := s.requests ++ [request], uiTasks := s.uiTasks ++ [(request, task)] : ApiServer }.desk =
      { s.desk with taken := s.desk.taken ++ [request], first := s.desk.first ++ [request] } := by
  simp [desk]

/-- A launch takes its request away on a detour. -/
lemma desk_launch (l : Launch) :
    (s.after request (.launch l)).desk =
      { s.desk with away := s.desk.away ++ [request], detours := s.desk.detours ++ [request] } := by
  simp [after, desk]

/-- So does the delay before a CDP request is tried again. -/
lemma desk_retry [JSONReader] [ValueLib] (result : ForwardResult) (r : CDPRequest) :
    (s.runApiTask result request (.retryCDPRequest r)).desk =
      { s.desk with
        away := s.delayed.map Prod.fst ++ request :: s.launches.map Prod.fst
        detours := s.desk.detours ++ [request] } := by
  simp [runApiTask, desk]

/-- An entry that is taken out of a list is one of its requests. -/
lemma perm_eraseIdx {α : Type*} {l : List (Request × α)} {i : Nat} {a : α} (h : l[i]? = some (request, a)) :
    (l.map Prod.fst).Perm (request :: (l.eraseIdx i).map Prod.fst) := by
  obtain ⟨lt, here⟩ := List.getElem?_eq_some_iff.mp h
  have perm := (List.getElem_cons_eraseIdx_perm lt).map Prod.fst
  rw [here] at perm
  exact perm.symm

/-! ## What a step does -/

/-- The request that an event makes. -/
def requestOf : ServerEvent → Option (Int × HttpServerRequestInfo)
  | .onHttpRequest connectionId info => some (connectionId, info)
  | _ => none

/-- The steps by their kinds. -/
inductive Does [JSONReader] [TimeLib] [ValueLib] (env : Env) (s : ApiServer) : ServerEvent → ApiServer → Prop where
  | answers {connectionId info response} :
    (dispatchRequest s.apiToken info).handle = .error response →
    Does env s (.onHttpRequest connectionId info)
      ({ s with requests := s.requests ++ [Request.mk s.requests.length connectionId info] }.sendJson
        ⟨s.requests.length, connectionId, info⟩ response)
  | takes {connectionId info task} :
    (dispatchRequest s.apiToken info).handle = .ok task →
    Does env s (.onHttpRequest connectionId info)
      { s with
        requests := s.requests ++ [Request.mk s.requests.length connectionId info]
        uiTasks := s.uiTasks ++ [(Request.mk s.requests.length connectionId info, task)] }
  | runs {basic stored imported now request task tasks backend outcome} :
    s.uiTasks = (request, task) :: tasks →
    task.run env s.backend basic stored imported now = some (backend, outcome) →
    Does env s (.runUiTask basic stored imported now)
      ({ s with uiTasks := tasks, backend := backend }.after request outcome)
  | retries {i request r} (w : World) :
    s.delayed[i]? = some (request, r) →
    Does env s (.runDelayedTask i)
      ({ s with delayed := s.delayed.eraseIdx i }.postBack request (checkTarget w r true))
  | replies {i launches now request l} (b : Backend) (response : JsonResponse) :
    s.launches[i]? = some (request, l) →
    Does env s (.continueStart i launches now)
      ({ s with launches := s.launches.eraseIdx i, backend := b }.postBack request (.respond response))
  | sends {result request task tasks} (response : JsonResponse) :
    s.apiTasks = (request, task) :: tasks →
    Does env s (.runApiTask result) ({ s with apiTasks := tasks }.sendJson request response)
  | delays {result request r tasks} :
    s.apiTasks = (request, .retryCDPRequest r) :: tasks →
    Does env s (.runApiTask result) ({ s with apiTasks := tasks }.runApiTask result request (.retryCDPRequest r))
  | others {e} (b : Backend) :
    requestOf e = none →
    Does env s e { s with backend := b }

section
variable [JSONReader] [TimeLib] [ValueLib] {env : Env} {e : ServerEvent}

/-- Every step of the server is one of the steps that `Does` lists. -/
lemma does_of_step (st : step env s e = some t) : Does env s e t := by
  cases e with
  | onHttpRequest connectionId info =>
    cases st
    unfold onHttpRequest
    dsimp only
    cases handled : (dispatchRequest s.apiToken info).handle with
    | error response => exact .answers handled
    | ok task => exact .takes handled
  | runUiTask basic stored imported now =>
    cases waits : s.uiTasks with
    | nil =>
      rw [step, waits] at st
      cases st
    | cons first tasks =>
      rw [step, waits] at st
      obtain ⟨⟨backend, outcome⟩, ran, st⟩ := Option.bind_eq_some_iff.mp st
      cases st
      exact .runs waits ran
  | runDelayedTask i =>
    obtain ⟨_, there, st⟩ := Option.bind_eq_some_iff.mp st
    obtain ⟨w, _, st⟩ := Option.bind_eq_some_iff.mp st
    cases st
    exact .retries w there
  | continueStart i launches now =>
    obtain ⟨_, there, st⟩ := Option.bind_eq_some_iff.mp st
    cases st
    exact .replies _ _ there
  | runApiTask result =>
    cases waits : s.apiTasks with
    | nil =>
      rw [step, waits] at st
      cases st
    | cons first tasks =>
      obtain ⟨request, task⟩ := first
      rw [step, waits] at st
      cases st
      cases task with
      | respond | forward => exact .sends _ waits
      | retryCDPRequest r => exact .delays waits
  | store op | destroyManager =>
    cases st
    exact .others _ rfl
  | manager e =>
    obtain ⟨_, _, st⟩ := Option.bind_eq_some_iff.mp st
    obtain ⟨_, _, st⟩ := Option.bind_eq_some_iff.mp st
    cases st
    exact .others _ rfl

/-- A step of the handler moves one request, or none. -/
lemma desk_step (server : s.server = true) (numbered : ∀ a ∈ s.requests, a.number < s.requests.length)
    (does : Does env s e t) : t.desk = s.desk ∨ Desk.Moves (Request.AtOnce s.apiToken) s.desk t.desk := by
  cases does with
  | answers handled =>
    rw [desk_sendJson]
    · exact .inr (.answer ⟨_, handled⟩ numbered)
    · exact server
  | takes handled =>
    rw [desk_take]
    refine .inr (.take ?_ numbered)
    intro atOnce
    obtain ⟨response, answered⟩ := atOnce
    cases handled.symm.trans answered
  | @runs _ _ _ _ request _ tasks _ outcome waits _ =>
    have front : s.desk.first = request :: tasks.map Prod.fst := by rw [desk, waits, List.map_cons]
    cases outcome with
    | post task =>
      rw [after, desk_postBack]
      exact .inr (.pass front)
    | launch l =>
      rw [desk_launch]
      exact .inr (.leaveFirst front List.perm_append_comm)
  | retries w there =>
    rw [desk_postBack]
    exact .inr (.comeBack ((perm_eraseIdx there).append_right _))
  | replies b response there =>
    rw [desk_postBack]
    refine .inr (.comeBack ?_)
    exact ((perm_eraseIdx there).append_left _).trans List.perm_middle
  | @sends _ request _ tasks response waits =>
    have front : s.desk.second = request :: tasks.map Prod.fst := by rw [desk, waits, List.map_cons]
    rw [desk_sendJson]
    · exact .inr (.reply front)
    · exact server
  | @delays _ request _ tasks waits =>
    have front : s.desk.second = request :: tasks.map Prod.fst := by rw [desk, waits, List.map_cons]
    rw [desk_retry]
    exact .inr (.leaveSecond front List.perm_middle)
  | others => exact .inl rfl

end

/-! ## What a run keeps -/

/-- The token and the server are as they were, and these requests have come in. -/
structure Takes (s t : ApiServer) (calls : List Request) : Prop where
  apiToken : t.apiToken = s.apiToken
  server : t.server = s.server
  requests : t.requests = s.requests ++ calls

/-- A state with the same requests has taken none. -/
lemma takes_of_eq (apiToken : t.apiToken = s.apiToken) (server : t.server = s.server)
    (requests : t.requests = s.requests) : Takes s t [] :=
  ⟨apiToken, server, requests.trans (List.append_nil _).symm⟩

/-- Sending a response takes no request. -/
lemma sendJson_takes {calls : List Request} (h : Takes s t calls) (response : JsonResponse) :
    Takes s (t.sendJson request response) calls := by
  unfold sendJson
  split_ifs
  · exact ⟨h.apiToken, h.server, h.requests⟩
  · exact h

section
variable [JSONReader]

/-- Only launches and CDP requests are on their way to a detour, or have been there. -/
structure Routed (s : ApiServer) : Prop where
  posted : ∀ p ∈ s.uiTasks, p.2.wanders = true → p.1.Wanders s.apiToken
  back : ∀ p ∈ s.apiTasks, (Outcome.post p.2).wanders = true → p.1.Wanders s.apiToken
  detours : ∀ a ∈ s.detours, a.Wanders s.apiToken

/-- A response leaves the routes of the waiting tasks as they were. -/
lemma Routed.sendJson (h : Routed s) (response : JsonResponse) : Routed (s.sendJson request response) := by
  unfold ApiServer.sendJson
  split_ifs
  · exact ⟨h.posted, h.back, h.detours⟩
  · exact h

/-- A task is posted back for the request that it was routed for. -/
lemma Routed.postBack {task : ResponseTask} (h : Routed s)
    (routed : (Outcome.post task).wanders = true → request.Wanders s.apiToken) : Routed (s.postBack request task) := by
  refine ⟨h.posted, ?_, h.detours⟩
  exact List.forall_mem_append.mpr ⟨h.back, List.forall_mem_singleton.mpr routed⟩

/-- The requests of a list of calls. -/
def numbered (calls : List (Int × HttpServerRequestInfo)) : List Request :=
  calls.zipIdx.map fun call => ⟨call.2, call.1.1, call.1.2⟩

/-- What every run keeps. -/
structure Served (s : ApiServer) : Prop where
  server : s.server = true
  number : ∀ a ∈ s.requests, a.number < s.requests.length
  orderly : Desk.Orderly (Request.AtOnce s.apiToken) s.desk
  routed : Routed s

/-- A server begins with nothing to serve. -/
lemma served_start (apiToken : String) (store : WorkspaceStore) (manager : World) :
    Served (start apiToken store manager) where
  server := rfl
  number _ ha := absurd ha List.not_mem_nil
  orderly := Desk.orderly_nil
  routed := ⟨fun _ hp => absurd hp List.not_mem_nil, fun _ hp => absurd hp List.not_mem_nil,
    fun _ ha => absurd ha List.not_mem_nil⟩

variable [TimeLib] [ValueLib] {env : Env} {e : ServerEvent}

/-- A step takes the request that its event brings, and no other. -/
lemma Does.takes_requests (does : Does env s e t) :
    Takes s t ((requestOf e).map fun call => Request.mk s.requests.length call.1 call.2).toList := by
  cases does with
  | answers =>
    apply sendJson_takes
    exact ⟨rfl, rfl, rfl⟩
  | takes => exact ⟨rfl, rfl, rfl⟩
  | @runs _ _ _ _ _ _ _ _ outcome => cases outcome <;> exact takes_of_eq rfl rfl rfl
  | retries | replies | delays => exact takes_of_eq rfl rfl rfl
  | sends =>
    apply sendJson_takes
    exact takes_of_eq rfl rfl rfl
  | others b none =>
    rw [none]
    exact takes_of_eq rfl rfl rfl

/-- After every step the waiting tasks belong to the routes of their requests. -/
lemma Routed.after_step (h : Routed s) (does : Does env s e t) : Routed t := by
  cases does with
  | answers =>
    apply Routed.sendJson
    exact ⟨h.posted, h.back, h.detours⟩
  | takes handled =>
    refine ⟨List.forall_mem_append.mpr ⟨h.posted, List.forall_mem_singleton.mpr ?_⟩, h.back, h.detours⟩
    intro wanders
    exact (handle_wanders handled).symm.trans wanders
  | @runs _ _ _ _ request _ _ _ outcome waits ran =>
    have posted := h.posted
    rw [waits, List.forall_mem_cons] at posted
    have routed (wanders : outcome.wanders = true) : request.Wanders s.apiToken :=
      posted.1 (run_wanders ran wanders)
    cases outcome with
    | post task =>
      apply Routed.postBack
      · exact ⟨posted.2, h.back, h.detours⟩
      · exact routed
    | launch l =>
      refine ⟨posted.2, h.back, List.forall_mem_append.mpr ⟨h.detours, ?_⟩⟩
      exact List.forall_mem_singleton.mpr (routed rfl)
  | retries w =>
    apply Routed.postBack
    · exact ⟨h.posted, h.back, h.detours⟩
    · intro wanders
      rw [checkTarget_again] at wanders
      cases wanders
  | replies =>
    apply Routed.postBack
    · exact ⟨h.posted, h.back, h.detours⟩
    · intro wanders
      cases wanders
  | sends response waits =>
    have back := h.back
    rw [waits, List.forall_mem_cons] at back
    apply Routed.sendJson
    exact ⟨h.posted, back.2, h.detours⟩
  | delays waits =>
    have back := h.back
    rw [waits, List.forall_mem_cons] at back
    refine ⟨h.posted, back.2, List.forall_mem_append.mpr ⟨h.detours, ?_⟩⟩
    exact List.forall_mem_singleton.mpr (back.1 rfl)
  | others => exact ⟨h.posted, h.back, h.detours⟩

/-- Every step keeps the bookkeeping of the requests. -/
lemma Served.step (h : Served s) (st : step env s e = some t) : Served t := by
  have does := does_of_step st
  have takes := does.takes_requests
  refine ⟨takes.server.trans h.server, ?_, ?_, h.routed.after_step does⟩
  · rw [takes.requests, List.length_append]
    intro a ha
    rcases List.mem_append.mp ha with ha | ha
    · exact Nat.lt_add_right _ (h.number a ha)
    · obtain ⟨call, made, rfl⟩ := Option.map_eq_some_iff.mp (Option.mem_toList.mp ha)
      rw [made]
      exact Nat.lt_succ_self _
  · rw [takes.apiToken]
    rcases desk_step h.server h.number does with same | moves
    · rw [same]
      exact h.orderly
    · exact h.orderly.moves moves

/-- The requests of a run. -/
def dispatched (tr : List (ApiServer × ServerEvent)) : List (Int × HttpServerRequestInfo) :=
  tr.filterMap fun p => requestOf p.2

/-- The requests are those that were dispatched, numbered in their order. -/
lemma requests_of_run {apiToken : String} {store : WorkspaceStore} {manager : World}
    {tr : List (ApiServer × ServerEvent)} (r : Run (ApiServer.step env) (start apiToken store manager) tr s) :
    s.requests = numbered (dispatched tr) := by
  induction r with
  | nil => rfl
  | @snoc tr u e t r st ih =>
    have count : u.requests.length = (dispatched tr).length := by simp [ih, numbered]
    rw [(does_of_step st).takes_requests.requests, count, ih, dispatched, dispatched, List.filterMap_append]
    cases called : requestOf e with
    | none => simp [called]
    | some call => simp [called, numbered, List.zipIdx_append]

end

end ApiServer

end PureCloak.API
