import PureCloak.API.ResponseSteps

/-!
# One response to each request, and their order

No request is left without a response and none gets two: `answered_once`, with `drains`, by which no task is stuck as
long as the manager is there. Nothing keeps the responses of a connection in the order of its requests. A request that
is answered at once overtakes those that wait, and launches and CDP requests are overtaken by all others while they are
in the thread pool or delayed; `responses_in_order` says that these are the only cases.
-/

namespace PureCloak.API
open PureCloak.Base PureCloak.Profiles PureCloak.Launcher Machine

/-! ## No task is stuck -/

/-- While the manager is there, every task on the UI sequence runs, and leaves it there. -/
lemma exists_run [TimeLib] [ValueLib] (env : Env) {b : Backend} {w : World} (manager : b.manager = some w)
    (basic stored : Drawn) (imported : Nat → Drawn) (now : Time) (task : RequestTask) :
    ∃ b' outcome, task.run env b basic stored imported now = some (b', outcome) ∧ b'.manager.isSome := by
  have there : b.manager.isSome := by simp [manager]
  cases task with
  | getAllWorkspaces | getWorkspace | exportWorkspaces | importWorkspaces => exact ⟨_, _, rfl, there⟩
  | getWorkspaceStatus | systemStatus | cdpRequest =>
    rw [RequestTask.run, manager]
    exact ⟨_, _, rfl, there⟩
  | handle task =>
    cases task with
    | createWorkspace | deleteWorkspace => exact ⟨_, _, rfl, there⟩
    | updateWorkspace wsId body =>
      rw [RequestTask.run, UiTask.run]
      · cases b.store.getWorkspace wsId <;> exact ⟨_, _, rfl, there⟩
      all_goals
        intro _ other
        cases other
    | launchWorkspace wsId =>
      rw [RequestTask.run]
      cases b.store.getWorkspace wsId with
      | none => exact ⟨_, _, rfl, there⟩
      | some ws =>
        dsimp only
        rw [manager, Option.bind_eq_bind, Option.bind_some]
        cases w.startAnswer ws.id with
        | none => exact ⟨_, _, rfl, there⟩
        | some answer => exact ⟨_, _, rfl, rfl⟩
    | stopWorkspace wsId =>
      rw [RequestTask.run, manager]
      exact ⟨_, _, rfl, rfl⟩

namespace ApiServer
variable {s t : ApiServer}

/-- How many turns the tasks on the API sequence still need. -/
def turnsLeft (tasks : List (Request × ResponseTask)) : Nat :=
  (tasks.map fun p => if (Outcome.post p.2).wanders then 3 else 1).sum

/-- A bound on the turns until no task is pending. -/
def pending (s : ApiServer) : Nat :=
  4 * s.uiTasks.length + 2 * s.delayed.length + 2 * s.launches.length + turnsLeft s.apiTasks

/-- The turns that the first task still needs, and those of the rest. -/
lemma turnsLeft_cons (p : Request × ResponseTask) (tasks : List (Request × ResponseTask)) :
    turnsLeft (p :: tasks) = (if (Outcome.post p.2).wanders then 3 else 1) + turnsLeft tasks := by
  rw [turnsLeft, List.map_cons, List.sum_cons]
  rfl

/-- A task that is posted back needs its turns. -/
lemma pending_postBack (request : Request) (task : ResponseTask) :
    (s.postBack request task).pending = s.pending + if (Outcome.post task).wanders then 3 else 1 := by
  simp [pending, postBack, turnsLeft]
  omega

/-- A response that is sent needs none. -/
lemma pending_sendJson (request : Request) (response : JsonResponse) :
    (s.sendJson request response).pending = s.pending := by
  unfold sendJson
  split_ifs <;> rfl

section
variable [JSONReader] [TimeLib] [ValueLib] {env : Env}

/-- A task takes its turn: fewer turns are left, and the manager is still there. -/
def Progresses (env : Env) (s : ApiServer) : Prop :=
  ∃ e t, step env s e = some t ∧ requestOf e = none ∧ t.backend.manager.isSome ∧ t.pending < s.pending

/-- A task on the UI sequence can run. -/
lemma progresses_ui {request : Request} {task : RequestTask} {tasks : List (Request × RequestTask)} (drawn : Drawn)
    (manager : s.backend.manager.isSome) (waits : s.uiTasks = (request, task) :: tasks) : Progresses env s := by
  obtain ⟨w, there⟩ := Option.isSome_iff_exists.mp manager
  obtain ⟨b', outcome, ran, kept⟩ := exists_run env there drawn drawn (fun _ => drawn) drawn.now task
  have st : step env s (.runUiTask drawn drawn (fun _ => drawn) drawn.now) =
      some ({ s with uiTasks := tasks, backend := b' }.after request outcome) := by
    rw [step, waits]
    exact Option.bind_eq_some_iff.mpr ⟨_, ran, rfl⟩
  refine ⟨_, _, st, rfl, ?_, ?_⟩
  · cases outcome <;> exact kept
  · cases outcome with
    | post task =>
      rw [after, pending_postBack]
      simp only [pending, waits, List.length_cons]
      split_ifs <;> omega
    | launch l =>
      simp only [after, pending, waits, List.length_cons, List.length_append, List.length_nil]
      omega

/-- A delayed request can be tried again. -/
lemma progresses_delayed {request : Request} {r : CDPRequest} {others : List (Request × CDPRequest)}
    (manager : s.backend.manager.isSome) (waits : s.delayed = (request, r) :: others) : Progresses env s := by
  obtain ⟨w, there⟩ := Option.isSome_iff_exists.mp manager
  have st : step env s (.runDelayedTask 0) =
      some ({ s with delayed := others }.postBack request (checkTarget w r true)) := by
    simp [step, waits, there]
  refine ⟨_, _, st, rfl, manager, ?_⟩
  rw [pending_postBack, checkTarget_again, if_neg Bool.false_ne_true]
  simp only [pending, waits, List.length_cons]
  omega

/-- A launch can be answered. -/
lemma progresses_launch {request : Request} {l : Launch} {others : List (Request × Launch)} (now : Time)
    (manager : s.backend.manager.isSome) (waits : s.launches = (request, l) :: others) : Progresses env s := by
  obtain ⟨w, there⟩ := Option.isSome_iff_exists.mp manager
  have st : step env s (.continueStart 0 true now) =
      some ({ s with
        launches := others
        backend := { s.backend with manager := (l.reply env s.backend.manager true now).1 } }.postBack request
          (.respond (l.reply env s.backend.manager true now).2)) := by
    simp [step, waits]
  refine ⟨_, _, st, rfl, ?_, ?_⟩
  · simp [postBack, Launch.reply, there]
  · rw [pending_postBack, if_neg (by exact Bool.false_ne_true)]
    simp only [pending, waits, List.length_cons]
    omega

/-- A task on the API sequence can run. -/
lemma progresses_api {request : Request} {task : ResponseTask} {tasks : List (Request × ResponseTask)}
    (manager : s.backend.manager.isSome) (waits : s.apiTasks = (request, task) :: tasks) : Progresses env s := by
  have st : step env s (.runApiTask .noSocket) =
      some ({ s with apiTasks := tasks }.runApiTask .noSocket request task) := by
    rw [step, waits]
  refine ⟨_, _, st, rfl, ?_, ?_⟩
  · cases task with
    | respond | forward =>
      unfold runApiTask sendJson
      split_ifs <;> exact manager
    | retryCDPRequest => exact manager
  · cases task with
    | respond | forward =>
      rw [runApiTask, pending_sendJson]
      simp only [pending, waits, turnsLeft_cons]
      split_ifs <;> omega
    | retryCDPRequest =>
      simp only [runApiTask, pending, waits, turnsLeft_cons, Outcome.wanders, List.length_append, List.length_cons,
        List.length_nil]
      split_ifs <;> omega

/-- As long as the manager is there, no task is stuck: without further requests, all of them are done at some time. -/
theorem drains (drawn : Drawn) (manager : s.backend.manager.isSome) :
    ∃ tr t, Run (step env) s tr t ∧ t.Idle ∧ dispatched tr = [] := by
  induction left : s.pending using Nat.strong_induction_on generalizing s with
  | _ n ih =>
    by_cases idle : s.Idle
    · exact ⟨[], s, .nil, idle, rfl⟩
    · have turn : Progresses env s := by
        rcases ui : s.uiTasks with _ | ⟨⟨request, task⟩, tasks⟩
        · rcases delayed : s.delayed with _ | ⟨⟨request, r⟩, others⟩
          · rcases launches : s.launches with _ | ⟨⟨request, l⟩, others⟩
            · rcases api : s.apiTasks with _ | ⟨⟨request, task⟩, tasks⟩
              · exact absurd ⟨ui, delayed, launches, api⟩ idle
              · exact progresses_api manager api
            · exact progresses_launch drawn.now manager launches
          · exact progresses_delayed manager delayed
        · exact progresses_ui drawn manager ui
      obtain ⟨e, t, st, quiet, kept, fewer⟩ := turn
      obtain ⟨tr, u, r, idle, none⟩ := ih t.pending (left ▸ fewer) kept rfl
      refine ⟨(s, e) :: tr, u, Run.append (Run.single st) r, idle, ?_⟩
      rw [dispatched, List.filterMap_cons, quiet]
      exact none

end

/-! ## Runs with one workspace -/

/-- Values without doubles. -/
@[reducible]
def plainValues : ValueLib where
  doubleBits _ := 0
  text bytes := String.ofList (bytes.map fun b => Char.ofNat b.toNat)

/-- The steps without a command generator and without JSON in the requests. -/
def plainStep : ApiServer → ServerEvent → Option ApiServer :=
  @step utcCalendar plainValues (tableReader []) bareEnv

/-- What a task draws. -/
def newDrawn : Drawn :=
  ⟨"b", ⟨89012, by decide, by decide⟩, ⟨1⟩⟩

/-- A handler without a token for a store with one workspace. -/
def oneWorkspace : ApiServer :=
  start "" (WorkspaceStore.createWorkspace {} { id := "a", name := "w" } newDrawn.id newDrawn.seed newDrawn.now).1 {}

/-- A turn of the UI sequence. -/
def uiTurn : ServerEvent :=
  .runUiTask newDrawn newDrawn (fun _ => newDrawn) ⟨2⟩

/-- A turn of the API sequence. -/
def apiTurn : ServerEvent :=
  .runApiTask .noConnection

/-- A path that leads nowhere behind a list of the workspaces. -/
def overtakesList : List ServerEvent := [
  .onHttpRequest 1 (.bare "GET" "/api/workspaces"), .onHttpRequest 1 (.bare "GET" "/"), uiTurn, apiTurn]

/-- A list of the workspaces behind a launch. -/
def overtakesLaunch : List ServerEvent := [
  .onHttpRequest 1 (.bare "POST" "/api/workspaces/a/launch"), .onHttpRequest 1 (.bare "GET" "/api/workspaces"),
  uiTurn, uiTurn, apiTurn, .continueStart 0 true ⟨3⟩, apiTurn]

/-- A list of the workspaces behind a CDP request for a workspace that does not run. -/
def overtakesRetry : List ServerEvent := [
  .onHttpRequest 1 (.bare "GET" "/api/workspaces/a/cdp/json"), .onHttpRequest 1 (.bare "GET" "/api/workspaces"),
  uiTurn, uiTurn, apiTurn, apiTurn, .runDelayedTask 0, apiTurn]

/-! ## One response to each request -/

/-- A request of a list has its number. -/
lemma mem_numbered {calls : List (Int × HttpServerRequestInfo)} {a : Request} :
    a ∈ numbered calls ↔ calls[a.number]? = some (a.connectionId, a.info) := by
  unfold numbered
  rw [List.mem_map]
  constructor
  · intro h
    obtain ⟨call, hc, rfl⟩ := h
    exact List.mem_zipIdx_iff_getElem?.mp hc
  · intro h
    exact ⟨((a.connectionId, a.info), a.number), List.mem_zipIdx_iff_getElem?.mpr h, rfl⟩

section
variable [JSONReader] [TimeLib] [ValueLib] {env : Env} {apiToken : String} {store : WorkspaceStore} {manager : World}
  {tr : List (ApiServer × ServerEvent)}

/-- Once no task is pending, every request that was dispatched has had one response, on its connection. -/
theorem answered_once (r : Run (ApiServer.step env) (start apiToken store manager) tr s) (idle : s.Idle) :
    ∀ i connectionId info, (dispatched tr)[i]? = some (connectionId, info) →
      ∃ response, s.sent.filter (fun sent => sent.1.number = i) = [(⟨i, connectionId, info⟩, response)] := by
  intro i connectionId info call
  have served : Served s := r.invariant Served.step (served_start apiToken store manager)
  obtain ⟨uiTasks, delayed, launches, apiTasks⟩ := idle
  have answered : (s.sent.map Prod.fst).Perm s.requests := by
    apply served.orderly.answered_of_idle <;> simp [desk, uiTasks, delayed, launches, apiTasks]
  have nodup : (s.sent.map Prod.fst).Nodup := served.orderly.nodup_answered
  have once : (s.sent.map Prod.fst).filter (fun a => a.number = i) = [⟨i, connectionId, info⟩] := by
    apply List.perm_singleton.mp
    rw [List.perm_ext_iff_of_nodup (nodup.filter _) (List.nodup_singleton _)]
    intro a
    rw [List.mem_filter, answered.mem_iff, requests_of_run r, mem_numbered, List.mem_singleton, decide_eq_true_iff]
    constructor
    · intro h
      obtain ⟨made, rfl⟩ := h
      rw [call] at made
      cases a
      cases made
      rfl
    · intro h
      rw [h]
      exact ⟨call, rfl⟩
  rw [List.filter_map] at once
  obtain ⟨⟨request, response⟩, found, eq⟩ := List.map_eq_singleton_iff.mp once
  exact ⟨response, eq ▸ found⟩

end

/-- A launch that is overtaken has one response, too. -/
theorem answered_once_launch :
    ∃ s, Run plainStep oneWorkspace (trace plainStep oneWorkspace overtakesLaunch) s ∧
      ∀ i connectionId info,
        (dispatched (trace plainStep oneWorkspace overtakesLaunch))[i]? = some (connectionId, info) →
        ∃ response, s.sent.filter (fun sent => sent.1.number = i) = [(⟨i, connectionId, info⟩, response)] := by
  obtain ⟨s, ex, idle⟩ : ∃ s, exec plainStep oneWorkspace overtakesLaunch = some s ∧ s.Idle :=
    ⟨_, rfl, rfl, rfl, rfl, rfl⟩
  have run := Run.of_exec ex
  exact ⟨s, run, @answered_once _ (tableReader []) utcCalendar plainValues _ _ _ _ _ run idle⟩

/-! ## The order of the responses -/

section
variable [JSONReader] [TimeLib] [ValueLib] {env : Env} {apiToken : String} {store : WorkspaceStore} {manager : World}
  {tr : List (ApiServer × ServerEvent)}

/-- A response may be sent before that of an earlier request: it is sent at once and the other is not, or the
other request was delayed or went on in the thread pool. -/
def Overtakes (s : ApiServer) (b a : Request) : Prop :=
  b.AtOnce s.apiToken ∧ ¬ a.AtOnce s.apiToken ∨ a ∈ s.detours ∧ a.Wanders s.apiToken

/-- The k-th response that was sent on a connection is the response to its k-th request. -/
def InOrder (s : ApiServer) (connectionId : Int) : Prop :=
  ((s.sent.map Prod.fst).filter (·.connectionId = connectionId)).map Request.number <+:
    (s.requests.filter (·.connectionId = connectionId)).map Request.number

instance (s : ApiServer) (connectionId : Int) : Decidable (s.InOrder connectionId) :=
  inferInstanceAs (Decidable (_ <+: _))

/-- A response is sent before that of an earlier request only in these cases; where there are none among the requests
of a connection, its responses are in the order of its requests. -/
theorem responses_in_order (r : Run (ApiServer.step env) (start apiToken store manager) tr s) :
    s.requests = numbered (dispatched tr) ∧
      (∀ before b response after a, s.sent = before ++ (b, response) :: after → a ∈ s.requests →
        a.number < b.number → a ∉ before.map Prod.fst → s.Overtakes b a) ∧
      ∀ connectionId, (∀ a ∈ s.requests, ∀ b ∈ s.requests, a.connectionId = connectionId →
        b.connectionId = connectionId → a.number < b.number → ¬ s.Overtakes b a) → s.InOrder connectionId := by
  have served : Served s := r.invariant Served.step (served_start apiToken store manager)
  have routed {a b : Request} (h : Desk.Overtakes (Request.AtOnce s.apiToken) s.desk b a) : s.Overtakes b a :=
    h.imp_right fun detour => ⟨detour, served.routed.detours a detour⟩
  refine ⟨requests_of_run r, ?_, ?_⟩
  · intro before b response after a sent ha lt later
    have here : s.desk.answered = before.map Prod.fst ++ b :: after.map Prod.fst := by
      rw [desk, sent, List.map_append, List.map_cons]
    exact routed (served.orderly.overtakes here ha lt later)
  · intro connectionId fair
    apply List.IsPrefix.map
    apply served.orderly.isPrefix
    intro a ha b hb pa pb lt overtakes
    exact fair a ha b hb (of_decide_eq_true pa) (of_decide_eq_true pb) lt (routed overtakes)

end

/-- The response to a path that leads nowhere is sent before that of the list in front of it. -/
theorem responses_in_order_list :
    ∃ s, Run plainStep oneWorkspace (trace plainStep oneWorkspace overtakesList) s ∧
      s.requests = numbered (dispatched (trace plainStep oneWorkspace overtakesList)) ∧
      (∀ before b response after a, s.sent = before ++ (b, response) :: after → a ∈ s.requests →
        a.number < b.number → a ∉ before.map Prod.fst → @Overtakes (tableReader []) s b a) ∧
      ∀ connectionId, (∀ a ∈ s.requests, ∀ b ∈ s.requests, a.connectionId = connectionId →
        b.connectionId = connectionId → a.number < b.number → ¬ @Overtakes (tableReader []) s b a) →
        s.InOrder connectionId := by
  obtain ⟨s, ex⟩ : ∃ s, exec plainStep oneWorkspace overtakesList = some s := ⟨_, rfl⟩
  have run := Run.of_exec ex
  exact ⟨s, run, @responses_in_order _ (tableReader []) utcCalendar plainValues _ _ _ _ _ run⟩

/-- These events lead to a state without pending tasks in which the responses are out of order. -/
def Reorders (events : List ServerEvent) : Prop :=
  ∃ s, Run plainStep oneWorkspace (trace plainStep oneWorkspace events) s ∧ s.Idle ∧ ¬ s.InOrder 1

/-- A run whose responses are not in order shows that the server reorders. -/
lemma reorders_of_exec {events : List ServerEvent}
    (ex : ∃ s, exec plainStep oneWorkspace events = some s ∧ s.Idle ∧ ¬ s.InOrder 1) : Reorders events := by
  obtain ⟨s, ex, idle, order⟩ := ex
  exact ⟨s, Run.of_exec ex, idle, order⟩

/-- Each kind of request that may be overtaken is, on one connection. -/
theorem responses_in_order_fails : Reorders overtakesList ∧ Reorders overtakesLaunch ∧ Reorders overtakesRetry := by
  refine ⟨?_, ?_, ?_⟩
  · exact reorders_of_exec ⟨_, rfl, ⟨rfl, rfl, rfl, rfl⟩, by decide +kernel⟩
  · exact reorders_of_exec ⟨_, rfl, ⟨rfl, rfl, rfl, rfl⟩, by decide +kernel⟩
  · exact reorders_of_exec ⟨_, rfl, ⟨rfl, rfl, rfl, rfl⟩, by decide +kernel⟩

end ApiServer

end PureCloak.API
