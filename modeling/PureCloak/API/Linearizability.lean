import PureCloak.API.ResponseSteps
import PureCloak.API.ResponseOrder
import PureCloak.Library.AtomicObject
import PureCloak.Profiles.Restoring

/-!
# The store behind the REST interface is one map

Between a request and its response lie two hops from sequence to sequence, other requests, and the calls of other
callers of the store. `Serves` says what the requests about the store do to a map of workspaces, each of them at once,
and `Others` the same of the direct calls. The task on the UI sequence is the point at which a request takes effect:
`requests_linearizable` says that in every run the responses are those of the map, the requests taken one at a time in
an order in which each comes behind those that were answered before it came in.
-/

namespace PureCloak.API
open PureCloak.Base PureCloak.Profiles PureCloak.Launcher Machine AtomicObject

/-! ## The map -/

/-- The tasks that use the store only. -/
def RequestTask.onStore : RequestTask → Bool
  | .getAllWorkspaces | .getWorkspace _ | .exportWorkspaces | .importWorkspaces _ => true
  | .handle (.createWorkspace ..) | .handle (.updateWorkspace ..) | .handle (.deleteWorkspace _) => true
  | .handle _ | .getWorkspaceStatus _ | .systemStatus | .cdpRequest _ => false

/-- The records of a list that an import makes workspaces of. -/
def importable (items : ListValue) : List DictValue :=
  items.filterMap fun item =>
    item.getIfDict.filter fun dict => (DictValue.findString dict "name").getD "" ≠ ""

/-- A map with these workspaces under their ids, a later one in the place of an earlier one. -/
def insertAll (m : WorkspaceMap) (new : List Workspace) : WorkspaceMap :=
  new.foldl (fun m ws => m.insert ws.id ws) m

section
variable [TimeLib]

/-- The store makes this workspace of another one: with an id, a seed and times. -/
def Made (like ws : Workspace) : Prop :=
  ∃ newId newSeed now, ws = WorkspaceStore.created like newId newSeed now

/-- A workspace for the body of a request. -/
def MadeFor (name : String) (type : WorkspaceType) (body : DictValue) (ws : Workspace) : Prop :=
  ∃ basic : Drawn, Made (applyBodyToWorkspace (Workspace.createBasic name type basic.id basic.seed basic.now) body) ws

/-- A workspace for a record that is imported. -/
def MadeOf (dict : DictValue) (ws : Workspace) : Prop :=
  ∃ id, Made { Workspace.fromDict dict with id := id } ws

/-- What a request does to the map, and its response. -/
inductive Serves : WorkspaceMap → RequestTask → JsonResponse → WorkspaceMap → Prop where
  | getAllWorkspaces {m} :
    Serves m .getAllWorkspaces (respondWithWorkspaceList (m.toList.map fun p => p.2.toDict)) m
  | getWorkspace {m wsId} :
    Serves m (.getWorkspace wsId) (respondWithWorkspace (m[wsId]?.map Workspace.toDict)) m
  | createWorkspace {m name type body ws} :
    MadeFor name type body ws →
    Serves m (.handle (.createWorkspace name type body)) (respondWithWorkspace (some ws.toDict)) (m.insert ws.id ws)
  | updateWorkspace {m wsId old} (body : DictValue) (now : Time) :
    m[wsId]? = some old →
    Serves m (.handle (.updateWorkspace wsId body)) (respondWithWorkspace (some (applyBodyToWorkspace old body).toDict))
      (m.insert wsId { applyBodyToWorkspace old body with updatedAt := now })
  | updateMissing {m wsId body} :
    wsId ∉ m →
    Serves m (.handle (.updateWorkspace wsId body)) (respondWithWorkspace none) m
  | deleteWorkspace {m wsId} :
    wsId ∈ m →
    Serves m (.handle (.deleteWorkspace wsId)) (respondWithStatus true []) (m.erase wsId)
  | deleteMissing {m wsId} :
    wsId ∉ m →
    Serves m (.handle (.deleteWorkspace wsId)) (respondWithStatus false []) m
  | exportWorkspaces {m} :
    Serves m .exportWorkspaces (sendData 200 (.list (m.toList.map fun p => .dict p.2.toDict))) m
  | importWorkspaces {m items new} :
    List.Forall₂ MadeOf (importable items) new →
    Serves m (.importWorkspaces items)
      (sendData 200 (.dict (DictValue.ofFields [
        ("imported", some (.integer (Int32.ofNat new.length))),
        ("skipped", some (.integer (Int32.ofNat (items.length - new.length))))])))
      (insertAll m new)

/-- A direct call on the store. -/
def Others (m : WorkspaceMap) (op : StoreOp) (m' : WorkspaceMap) : Prop :=
  m' = (WorkspaceStore.apply { workspaces := m } op).workspaces

/-- Nothing but the map matters to what a call makes of it. -/
lemma others_apply (store : WorkspaceStore) (op : StoreOp) :
    Others store.workspaces op (store.apply op).workspaces := by
  unfold Others
  apply Std.ExtTreeMap.ext_getElem?
  intro k
  cases op with
  | create ws newId newSeed now =>
    simp only [WorkspaceStore.apply, WorkspaceStore.createWorkspace_get]
  | rename id newName now => simp only [WorkspaceStore.apply, WorkspaceStore.updateWorkspaceName_get]
  | update ws now => simp only [WorkspaceStore.apply, WorkspaceStore.updateWorkspace_get]
  | delete id => simp only [WorkspaceStore.apply, WorkspaceStore.deleteWorkspace_get]
  | flush | init => rfl
  | onInitData dict => simp only [WorkspaceStore.apply, WorkspaceStore.onInitData_get]

/-! ## What a task does -/

/-- A creation puts the workspace into the map. -/
lemma createWorkspace_workspaces (store : WorkspaceStore) (ws : Workspace) (newId : String) (newSeed : GeneratedSeed)
    (now : Time) :
    (store.createWorkspace ws newId newSeed now).1.workspaces =
      store.workspaces.insert (WorkspaceStore.created ws newId newSeed now).id
        (WorkspaceStore.created ws newId newSeed now) :=
  rfl

/-- These items lead an import from one result to another one. -/
def Imports (items : ListValue) (r r' : ImportResult) : Prop :=
  ∃ new, List.Forall₂ MadeOf (importable items) new ∧ r'.store.workspaces = insertAll r.store.workspaces new ∧
    r'.imported = r.imported + new.length ∧ r'.skipped + new.length = r.skipped + items.length

omit [TimeLib] in
/-- What can be imported of two lists. -/
lemma importable_append (items items' : ListValue) :
    importable (items ++ items') = importable items ++ importable items' :=
  List.filterMap_append

/-- Two imports, one after the other, are one. -/
lemma Imports.append {items items' : ListValue} {r r' r'' : ImportResult} (h : Imports items r r')
    (h' : Imports items' r' r'') : Imports (items ++ items') r r'' := by
  obtain ⟨new, made, map, imported, skipped⟩ := h
  obtain ⟨new', made', map', imported', skipped'⟩ := h'
  refine ⟨new ++ new', ?_, ?_, ?_, ?_⟩
  · rw [importable_append]
    exact List.rel_append made made'
  · rw [map', map, insertAll, insertAll, insertAll, List.foldl_append]
  · rw [imported', imported, List.length_append, Nat.add_assoc]
  · simp only [List.length_append]
    omega

/-- One round of the loop imports its item. -/
lemma add_imports (r : ImportResult) (drawn : Drawn) (item : Value) : Imports [item] r (r.add drawn item) := by
  cases item with
  | dict dict =>
    by_cases name : (DictValue.findString dict "name").getD "" = ""
    · rw [ImportResult.add, if_pos name]
      refine ⟨[], ?_, rfl, rfl, rfl⟩
      have passed : importable [.dict dict] = [] := by simp [importable, Value.getIfDict, name]
      rw [passed]
      exact .nil
    · rw [ImportResult.add, if_neg name]
      refine ⟨[_], ?_, createWorkspace_workspaces .., rfl, rfl⟩
      have named : importable [.dict dict] = [dict] := by
        rw [importable, List.filterMap_cons, Value.getIfDict, Option.filter_some, if_pos (decide_eq_true name)]
        rfl
      rw [named]
      exact .cons ⟨drawn.id, drawn.id, drawn.seed, drawn.now, rfl⟩ .nil
  | none | boolean | integer | double | string | list => exact ⟨[], .nil, rfl, rfl, rfl⟩

/-- The loop of an import. -/
lemma addAll_imports (drawn : Nat → Drawn) (i : Nat) (items : ListValue) (r : ImportResult) :
    Imports items r (ImportResult.addAll drawn i items r) := by
  induction items generalizing i r with
  | nil => exact ⟨[], .nil, rfl, rfl, rfl⟩
  | cons item items ih => exact (add_imports r (drawn i) item).append (ih (i + 1) (r.add (drawn i) item))

variable [ValueLib] {env : Env} {b b' : Backend} {basic stored : Drawn} {imported : Nat → Drawn} {now : Time}
  {task : RequestTask} {outcome : Outcome}

/-- A task that uses the store only does to the map what it should, and posts the response. -/
lemma run_serves (keys : KeyId b.store.workspaces) (onStore : task.onStore = true)
    (ran : task.run env b basic stored imported now = some (b', outcome)) :
    ∃ response, outcome = .post (.respond response) ∧
      Serves b.store.workspaces task response b'.store.workspaces := by
  cases task with
  | getAllWorkspaces =>
    cases ran
    refine ⟨_, rfl, ?_⟩
    rw [WorkspaceStore.getAllWorkspaces, List.map_map]
    exact .getAllWorkspaces
  | getWorkspace wsId =>
    cases ran
    exact ⟨_, rfl, .getWorkspace⟩
  | exportWorkspaces =>
    cases ran
    refine ⟨_, rfl, ?_⟩
    rw [exportWorkspaces, WorkspaceStore.getAllWorkspaces, List.map_map]
    exact .exportWorkspaces
  | importWorkspaces items =>
    cases ran
    refine ⟨_, rfl, ?_⟩
    obtain ⟨new, made, map, counted, skipped⟩ := addAll_imports imported 0 items { store := b.store }
    rw [Nat.zero_add] at counted skipped
    rw [ImportResult.data, importWorkspaces, counted, Nat.eq_sub_of_add_eq skipped, map]
    exact .importWorkspaces made
  | handle task =>
    cases task with
    | createWorkspace name type body =>
      cases ran
      refine ⟨_, rfl, ?_⟩
      exact .createWorkspace ⟨basic, stored.id, stored.seed, stored.now, rfl⟩
    | updateWorkspace wsId body =>
      cases there : b.store.getWorkspace wsId with
      | none =>
        rw [RequestTask.run, UiTask.run, there] at ran
        · cases ran
          exact ⟨_, rfl, .updateMissing (KeyedMap.get_eq_none_iff.mp there)⟩
        all_goals
          intro _ other
          cases other
      | some old =>
        have id : (applyBodyToWorkspace old body).id = wsId := keys wsId old there
        have found : b.store.workspaces[(applyBodyToWorkspace old body).id]? = some old := id.symm ▸ there
        rw [RequestTask.run, UiTask.run, there] at ran
        · dsimp only at ran
          rw [WorkspaceStore.updateWorkspace, found] at ran
          cases ran
          refine ⟨_, rfl, ?_⟩
          have served := Serves.updateWorkspace body stored.now there
          rw [← id] at served ⊢
          exact served
        all_goals
          intro _ other
          cases other
    | deleteWorkspace wsId =>
      cases ran
      show ∃ response, Outcome.post (.respond (respondWithStatus (b.store.deleteWorkspace wsId).2 [])) =
        .post (.respond response) ∧ Serves _ _ response (b.store.deleteWorkspace wsId).1.workspaces
      rw [WorkspaceStore.deleteWorkspace]
      cases there : b.store.workspaces[wsId]? with
      | none => exact ⟨_, rfl, .deleteMissing (KeyedMap.get_eq_none_iff.mp there)⟩
      | some ws => exact ⟨_, rfl, .deleteWorkspace (KeyedMap.mem_iff_exists_get.mpr ⟨ws, there⟩)⟩
    | launchWorkspace | stopWorkspace => cases onStore
  | getWorkspaceStatus | systemStatus | cdpRequest => cases onStore

/-- The other tasks leave the store alone. -/
lemma run_store (other : task.onStore = false)
    (ran : task.run env b basic stored imported now = some (b', outcome)) : b'.store = b.store := by
  cases task with
  | getAllWorkspaces | getWorkspace | exportWorkspaces | importWorkspaces => cases other
  | getWorkspaceStatus | systemStatus | cdpRequest =>
    obtain ⟨w, _, ran⟩ := Option.bind_eq_some_iff.mp ran
    cases ran
    rfl
  | handle task =>
    cases task with
    | createWorkspace | updateWorkspace | deleteWorkspace => cases other
    | stopWorkspace =>
      obtain ⟨w, _, ran⟩ := Option.bind_eq_some_iff.mp ran
      cases ran
      rfl
    | launchWorkspace wsId =>
      rw [RequestTask.run] at ran
      cases there : b.store.getWorkspace wsId with
      | none =>
        rw [there] at ran
        cases ran
        rfl
      | some ws =>
        rw [there] at ran
        obtain ⟨w, _, ran⟩ := Option.bind_eq_some_iff.mp ran
        cases answer : w.startAnswer ws.id with
        | none =>
          rw [answer] at ran
          cases ran
          rfl
        | some answer' =>
          rw [answer] at ran
          cases ran
          rfl

omit [TimeLib] [ValueLib] in
/-- A workspace that is put in under its id. -/
lemma keyId_insert {m : WorkspaceMap} (keys : KeyId m) {id : String} {ws : Workspace} (same : ws.id = id) :
    KeyId (m.insert id ws) := by
  intro k w found
  rw [KeyedMap.get_insert] at found
  split_ifs at found with here
  · cases found
    exact same.trans here
  · exact keys k w found

omit [TimeLib] [ValueLib] in
/-- Several workspaces, each under its id. -/
lemma keyId_insertAll {m : WorkspaceMap} (keys : KeyId m) (new : List Workspace) : KeyId (insertAll m new) := by
  induction new generalizing m with
  | nil => exact keys
  | cons ws new ih => exact ih (keyId_insert keys rfl)

omit [ValueLib] in
/-- No request files a workspace under another id. -/
lemma Serves.keys {m m' : WorkspaceMap} {response : JsonResponse} (serves : Serves m task response m')
    (keys : KeyId m) : KeyId m' := by
  cases serves with
  | getAllWorkspaces | getWorkspace | exportWorkspaces | updateMissing | deleteMissing => exact keys
  | createWorkspace => exact keyId_insert keys rfl
  | updateWorkspace _ _ there =>
    have id := keys _ _ there
    exact keyId_insert keys id
  | deleteWorkspace =>
    intro k w found
    rw [KeyedMap.get_erase] at found
    split_ifs at found
    exact keys k w found
  | importWorkspaces => exact keyId_insertAll keys _

end

/-! ## Calls, points and responses -/

namespace Request
variable [JSONReader]

/-- The task that a request posts. -/
def task (apiToken : String) (r : Request) : Option RequestTask :=
  (dispatchRequest apiToken r.info).handle.toOption

/-- The task that a request about the store posts. -/
def storeTask (apiToken : String) (r : Request) : Option RequestTask :=
  (r.task apiToken).filter RequestTask.onStore

end Request

/-- What happens at the store: the requests are known by their numbers. -/
abbrev StorePoint :=
  Seen Nat RequestTask JsonResponse ⊕ Entry Nat RequestTask StoreOp JsonResponse

/-- The number of a request with the task that it posts. -/
def asked : Seen Nat RequestTask JsonResponse → Option (Nat × RequestTask)
  | .call i task => some (i, task)
  | .ret .. => none

/-- The number of a request with its response. -/
def answer : Seen Nat RequestTask JsonResponse → Option (Nat × JsonResponse)
  | .call .. => none
  | .ret i response => some (i, response)

/-- A task takes effect at the store. -/
def takesEffect (request : Request) (task : RequestTask) : Outcome → List StorePoint
  | .post (.respond response) => if task.onStore then [.inr (.served request.number task response)] else []
  | _ => []

/-- A task that is not about the store takes no effect there. -/
lemma takesEffect_of_not {request : Request} {task : RequestTask} (other : task.onStore = false) (outcome : Outcome) :
    takesEffect request task outcome = [] := by
  unfold takesEffect
  rw [other]
  split <;> rfl

namespace ApiServer
variable [JSONReader]

/-- The requests about the store. -/
def storeRequests (s : ApiServer) : List (Nat × RequestTask) :=
  s.requests.filterMap fun r => (r.storeTask s.apiToken).map fun task => (r.number, task)

/-- The responses that were sent to requests about the store. -/
def storeResponses (s : ApiServer) : List (Nat × JsonResponse) :=
  (s.sent.filter fun p => (p.1.storeTask s.apiToken).isSome).map fun p => (p.1.number, p.2)

/-- A response to a request about the store is sent. -/
def answered (apiToken : String) (request : Request) : ResponseTask → List StorePoint
  | .respond response =>
    if (request.storeTask apiToken).isSome then [.inl (.ret request.number response)] else []
  | _ => []

variable [TimeLib] [ValueLib]

/-- What a step does at the store. -/
def points (env : Env) (s : ApiServer) : ServerEvent → List StorePoint
  | .onHttpRequest connectionId info =>
    match (Request.mk s.requests.length connectionId info).storeTask s.apiToken with
    | none => []
    | some task => [.inl (.call s.requests.length task)]
  | .runUiTask basic stored imported now =>
    match s.uiTasks with
    | [] => []
    | (request, task) :: _ =>
      (task.run env s.backend basic stored imported now).elim [] fun r => takesEffect request task r.2
  | .runApiTask _ =>
    match s.apiTasks with
    | [] => []
    | (request, task) :: _ => answered s.apiToken request task
  | .store op => [.inr (.other op)]
  | _ => []

/-- What a run does at the store. -/
def timeline (env : Env) (tr : List (ApiServer × ServerEvent)) : List StorePoint :=
  tr.flatMap fun p => points env p.1 p.2

/-- What a run keeps, together with what it has done at the store. -/
structure Linear (m : WorkspaceMap) (l : List StorePoint) (s : ApiServer) : Prop where
  keys : KeyId s.backend.store.workspaces
  timeline : Timeline l
  sequential : Sequential Serves Others m (history l) s.backend.store.workspaces
  calls : ∀ i a, .inl (.call i a) ∈ l → i < s.requests.length
  posted : ∀ p ∈ s.uiTasks, p.1.task s.apiToken = some p.2
  called : ∀ p ∈ s.uiTasks, p.2.onStore = true → .inl (.call p.1.number p.2) ∈ l
  /-- The tasks take effect in the order of the requests. -/
  ordered : ((history l).filterMap Entry.caller).Pairwise (· < ·)
  behind : ∀ i a r, .inr (.served i a r) ∈ l → ∀ p ∈ s.uiTasks, i < p.1.number
  /-- What waits on the API sequence for a request about the store is its response. -/
  responds : ∀ p ∈ s.apiTasks, (p.1.storeTask s.apiToken).isSome →
    ∃ response a, p.2 = .respond response ∧ .inr (.served p.1.number a response) ∈ l
  away : ∀ a ∈ s.desk.away, a.storeTask s.apiToken = none
  requests : (seen l).filterMap asked = s.storeRequests
  responses : (seen l).filterMap answer = s.storeResponses

variable {env : Env} {e : ServerEvent} {s t : ApiServer} {m : WorkspaceMap} {l : List StorePoint} {request : Request}

omit [TimeLib] [ValueLib] in
/-- A request that was answered does not wait for its response, by its number. -/
lemma numbers_ne (h : Served s) : ∀ q ∈ s.desk.answered, ∀ q' ∈ s.desk.second, q.number ≠ q'.number := by
  have increasing : s.desk.taken.Pairwise (fun a b => a.number < b.number) := h.orderly.taken
  have apart : (s.desk.answered ++ s.desk.second ++ s.desk.first ++ s.desk.away).Pairwise
      (fun a b => a.number ≠ b.number) :=
    h.orderly.perm.symm.pairwise (increasing.imp Nat.ne_of_lt) Ne.symm
  obtain ⟨apart, _, _⟩ := List.pairwise_append.mp apart
  obtain ⟨apart, _, _⟩ := List.pairwise_append.mp apart
  exact (List.pairwise_append.mp apart).2.2

omit [TimeLib] [ValueLib] in
/-- The task of a request that is about the store. -/
lemma storeTask_eq {task : RequestTask} (posted : request.task s.apiToken = some task) :
    request.storeTask s.apiToken = if task.onStore then some task else none := by
  rw [Request.storeTask, posted, Option.filter_some]

omit [TimeLib] [ValueLib] in
/-- A response to a request about the store is one of the store. -/
lemma storeResponses_sendJson (server : s.server = true) (request : Request) (response : JsonResponse) :
    (s.sendJson request response).storeResponses =
      s.storeResponses ++ if (request.storeTask s.apiToken).isSome then [(request.number, response)] else [] := by
  rw [sendJson, if_pos server]
  unfold storeResponses
  dsimp only
  rw [List.filter_append, List.map_append, List.filter_cons, List.filter_nil]
  split_ifs <;> rfl

/-- What a step that does this at the store changes. -/
structure Grows (new : List StorePoint) (s t : ApiServer) : Prop where
  apiToken : t.apiToken = s.apiToken
  count : s.requests.length ≤ t.requests.length
  calls : ∀ i a, .inl (.call i a) ∈ new → i < t.requests.length
  uiTasks : ∀ p ∈ t.uiTasks, p ∈ s.uiTasks ∨
    p.1.number = s.requests.length ∧ p.1.task s.apiToken = some p.2 ∧
      (p.2.onStore = true → .inl (.call p.1.number p.2) ∈ new)
  behind : ∀ i a r, .inr (.served i a r) ∈ new → ∀ p ∈ t.uiTasks, i < p.1.number
  apiTasks : ∀ p ∈ t.apiTasks, p ∈ s.apiTasks ∨
    ((p.1.storeTask s.apiToken).isSome → ∃ response a, p.2 = .respond response ∧
      .inr (.served p.1.number a response) ∈ new)
  away : ∀ a ∈ t.desk.away, a ∈ s.desk.away ∨ a.storeTask s.apiToken = none
  requests : t.storeRequests = s.storeRequests ++ (seen new).filterMap asked
  responses : t.storeResponses = s.storeResponses ++ (seen new).filterMap answer

omit [TimeLib] [ValueLib] in
/-- A step that neither brings nor answers such a request adds nothing. -/
lemma Grows.quiet (apiToken : t.apiToken = s.apiToken) (count : s.requests.length ≤ t.requests.length)
    (uiTasks : ∀ p ∈ t.uiTasks, p ∈ s.uiTasks)
    (apiTasks : ∀ p ∈ t.apiTasks, p ∈ s.apiTasks ∨ p.1.storeTask s.apiToken = none)
    (away : ∀ a ∈ t.desk.away, a ∈ s.desk.away ∨ a.storeTask s.apiToken = none)
    (requests : t.storeRequests = s.storeRequests) (responses : t.storeResponses = s.storeResponses) :
    Grows [] s t where
  apiToken := apiToken
  count := count
  calls _ _ hi := absurd hi List.not_mem_nil
  uiTasks p hp := .inl (uiTasks p hp)
  apiTasks p hp := by
    rcases apiTasks p hp with hp | none
    · exact .inl hp
    · refine .inr fun about => ?_
      rw [none] at about
      cases about
  away := away
  behind _ _ _ hi := absurd hi List.not_mem_nil
  requests := requests.trans (List.append_nil _).symm
  responses := responses.trans (List.append_nil _).symm

omit [ValueLib] in
/-- The linearization grows with what a step adds. -/
lemma Linear.grow {new : List StorePoint} (h : Linear m l s) (g : Grows new s t)
    (keys : KeyId t.backend.store.workspaces) (timeline : Timeline (l ++ new))
    (sequential : Sequential Serves Others m (history (l ++ new)) t.backend.store.workspaces)
    (ordered : ((history (l ++ new)).filterMap Entry.caller).Pairwise (· < ·)) : Linear m (l ++ new) t where
  keys := keys
  timeline := timeline
  sequential := sequential
  calls i a hi := by
    rcases List.mem_append.mp hi with hi | hi
    · exact Nat.lt_of_lt_of_le (h.calls i a hi) g.count
    · exact g.calls i a hi
  posted p hp := by
    rw [g.apiToken]
    exact (g.uiTasks p hp).elim (h.posted p) fun new => new.2.1
  called p hp onStore := by
    rcases g.uiTasks p hp with hp | ⟨_, _, called⟩
    · exact List.mem_append_left _ (h.called p hp onStore)
    · exact List.mem_append_right _ (called onStore)
  responds p hp about := by
    rw [g.apiToken] at about
    rcases g.apiTasks p hp with hp | responds
    · obtain ⟨response, a, responds, served⟩ := h.responds p hp about
      exact ⟨response, a, responds, List.mem_append_left _ served⟩
    · obtain ⟨response, a, responds, served⟩ := responds about
      exact ⟨response, a, responds, List.mem_append_right _ served⟩
  away a ha := by
    rw [g.apiToken]
    exact (g.away a ha).elim (h.away a) id
  ordered := ordered
  behind i a r hi p hp := by
    rcases List.mem_append.mp hi with hi | hi
    · rcases g.uiTasks p hp with hp | ⟨number, _⟩
      · exact h.behind i a r hi p hp
      · rw [number]
        exact h.calls i a (h.timeline.called hi)
    · exact g.behind i a r hi p hp
  requests := by rw [seen_append, List.filterMap_append, h.requests, g.requests]
  responses := by rw [seen_append, List.filterMap_append, h.responses, g.responses]

omit [ValueLib] in
/-- A step that does nothing at the store. -/
lemma Linear.keep (h : Linear m l s) (g : Grows [] s t) (store : t.backend.store = s.backend.store) :
    Linear m (l ++ []) t := by
  apply h.grow g
  · exact store ▸ h.keys
  · rw [List.append_nil]
    exact h.timeline
  · rw [List.append_nil, store]
    exact h.sequential
  · rw [List.append_nil]
    exact h.ordered

/-! ## Steps -/

omit [TimeLib] [ValueLib] in
/-- A request that comes in is one of the store, or not. -/
lemma storeRequests_append (request : Request) (requests : t.requests = s.requests ++ [request])
    (apiToken : t.apiToken = s.apiToken) :
    t.storeRequests =
      s.storeRequests ++ ((request.storeTask s.apiToken).map fun task => (request.number, task)).toList := by
  unfold storeRequests
  rw [requests, apiToken, List.filterMap_append, List.filterMap_cons]
  cases request.storeTask s.apiToken <;> rfl

omit [TimeLib] [ValueLib] in
/-- A request that is answered at once. -/
lemma grows_answer (served : Served s) {connectionId : Int} {info : HttpServerRequestInfo} (response : JsonResponse)
    (atOnce : (Request.mk s.requests.length connectionId info).task s.apiToken = none) :
    Grows [] s ({ s with requests := s.requests ++ [Request.mk s.requests.length connectionId info] }.sendJson
      ⟨s.requests.length, connectionId, info⟩ response) := by
  have none : (Request.mk s.requests.length connectionId info).storeTask s.apiToken = none := by
    rw [Request.storeTask, atOnce, Option.filter_none]
  have server : ({ s with requests := s.requests ++ [Request.mk s.requests.length connectionId info] } :
      ApiServer).server = true := served.server
  have responses := storeResponses_sendJson server ⟨s.requests.length, connectionId, info⟩ response
  rw [show ApiServer.apiToken _ = s.apiToken from rfl, none] at responses
  rw [sendJson, if_pos server] at responses ⊢
  apply Grows.quiet
  · rfl
  · exact (List.sublist_append_left ..).length_le
  · exact fun p hp => hp
  · exact fun p hp => .inl hp
  · exact fun a ha => .inl ha
  · refine (storeRequests_append (s := s) (Request.mk s.requests.length connectionId info) ?_ ?_).trans ?_
    · rfl
    · rfl
    · rw [none]
      exact List.append_nil _
  · exact responses.trans (List.append_nil _)

omit [TimeLib] [ValueLib] in
/-- A request that posts a task. -/
lemma grows_take {connectionId : Int} {info : HttpServerRequestInfo} {task : RequestTask}
    (posted : (Request.mk s.requests.length connectionId info).task s.apiToken = some task) :
    Grows (if task.onStore then [.inl (.call s.requests.length task)] else []) s
      { s with
        requests := s.requests ++ [Request.mk s.requests.length connectionId info]
        uiTasks := s.uiTasks ++ [(Request.mk s.requests.length connectionId info, task)] } where
  apiToken := rfl
  count := (List.sublist_append_left ..).length_le
  calls i a hi := by
    split_ifs at hi
    · cases List.mem_singleton.mp hi
      rw [List.length_append]
      exact Nat.lt_succ_self _
    · cases hi
  uiTasks p hp := by
    rcases List.mem_append.mp hp with hp | hp
    · exact .inl hp
    · cases List.mem_singleton.mp hp
      refine .inr ⟨rfl, posted, ?_⟩
      intro onStore
      rw [if_pos onStore]
      exact List.mem_cons_self
  behind i a r hi := by
    split_ifs at hi
    · cases List.mem_singleton.mp hi
    · cases hi
  apiTasks p hp := .inl hp
  away a ha := .inl ha
  requests := by
    refine (storeRequests_append (s := s) (Request.mk s.requests.length connectionId info) ?_ ?_).trans ?_
    · rfl
    · rfl
    · rw [storeTask_eq posted]
      split_ifs <;> rfl
  responses := by split_ifs <;> exact (List.append_nil _).symm

omit [TimeLib] [ValueLib] in
/-- The task of a request about the store posts its response. -/
lemma grows_serve (served : Served s) {task : RequestTask} {tasks : List (Request × RequestTask)}
    {response : JsonResponse} (b : Backend) (waits : s.uiTasks = (request, task) :: tasks) :
    Grows [.inr (.served request.number task response)] s
      ({ s with uiTasks := tasks, backend := b }.postBack request (.respond response)) where
  apiToken := rfl
  count := Nat.le_refl _
  calls i a hi := by cases List.mem_singleton.mp hi
  uiTasks p hp := .inl (waits ▸ List.mem_cons_of_mem _ hp)
  behind i a r hi p hp := by
    cases List.mem_singleton.mp hi
    have increasing : s.desk.first.Pairwise (fun a b => a.number < b.number) := served.orderly.first
    rw [desk, waits, List.map_cons] at increasing
    exact (List.pairwise_cons.mp increasing).1 p.1 (List.mem_map_of_mem hp)
  apiTasks p hp := by
    rcases List.mem_append.mp hp with hp | hp
    · exact .inl hp
    · cases List.mem_singleton.mp hp
      exact .inr fun _ => ⟨response, task, rfl, List.mem_cons_self⟩
  away a ha := .inl ha
  requests := (List.append_nil _).symm
  responses := (List.append_nil _).symm

omit [TimeLib] [ValueLib] in
/-- A request that is not about the store moves to the API sequence. -/
lemma grows_postBack {u : ApiServer} (task : ResponseTask) (none : request.storeTask s.apiToken = none)
    (apiToken : u.apiToken = s.apiToken) (requests : u.requests = s.requests)
    (uiTasks : ∀ p ∈ u.uiTasks, p ∈ s.uiTasks) (apiTasks : u.apiTasks = s.apiTasks) (sent : u.sent = s.sent)
    (away : ∀ a ∈ u.desk.away, a ∈ s.desk.away) : Grows [] s (u.postBack request task) := by
  apply Grows.quiet
  · exact apiToken
  · exact Nat.le_of_eq (congrArg List.length requests.symm)
  · exact uiTasks
  · rw [postBack, apiTasks]
    exact List.forall_mem_append.mpr ⟨fun p hp => .inl hp, List.forall_mem_singleton.mpr (.inr none)⟩
  · exact fun a ha => .inl (away a ha)
  · unfold storeRequests postBack
    rw [requests, apiToken]
  · unfold storeResponses postBack
    rw [sent, apiToken]

omit [TimeLib] [ValueLib] in
/-- Another task leads to something. -/
lemma grows_after {task : RequestTask} {tasks : List (Request × RequestTask)} (b : Backend) (outcome : Outcome)
    (waits : s.uiTasks = (request, task) :: tasks) (none : request.storeTask s.apiToken = none) :
    Grows [] s ({ s with uiTasks := tasks, backend := b }.after request outcome) := by
  have rest (p : Request × RequestTask) (hp : p ∈ tasks) : p ∈ s.uiTasks := waits ▸ List.mem_cons_of_mem _ hp
  cases outcome with
  | post task => exact grows_postBack task none rfl rfl rest rfl rfl fun a ha => ha
  | launch l =>
    apply Grows.quiet
    · rfl
    · exact Nat.le_refl _
    · exact rest
    · exact fun p hp => .inl hp
    · rw [desk_launch]
      exact List.forall_mem_append.mpr ⟨fun a ha => .inl ha, List.forall_mem_singleton.mpr (.inr none)⟩
    · rfl
    · rfl

omit [TimeLib] [ValueLib] in
/-- A response is sent. -/
lemma grows_sendJson (served : Served s) {task : ResponseTask} {tasks : List (Request × ResponseTask)}
    (response : JsonResponse) (waits : s.apiTasks = (request, task) :: tasks)
    (same : answered s.apiToken request task =
      if (request.storeTask s.apiToken).isSome then [.inl (.ret request.number response)] else []) :
    Grows (answered s.apiToken request task) s ({ s with apiTasks := tasks }.sendJson request response) := by
  have server : ({ s with apiTasks := tasks } : ApiServer).server = true := served.server
  have responses := storeResponses_sendJson server request response
  rw [same]
  rw [sendJson, if_pos server] at responses ⊢
  refine ⟨rfl, Nat.le_refl _, ?_, fun p hp => .inl hp, ?_, ?_, fun a ha => .inl ha, ?_, ?_⟩
  · intro i a hi
    split_ifs at hi
    · cases List.mem_singleton.mp hi
    · cases hi
  · intro i a r hi
    split_ifs at hi
    · cases List.mem_singleton.mp hi
    · cases hi
  · exact fun p hp => .inl (waits ▸ List.mem_cons_of_mem _ hp)
  · split_ifs <;> exact (List.append_nil _).symm
  · rw [responses]
    congr 1
    show (if (request.storeTask s.apiToken).isSome then _ else _) = _
    split_ifs <;> rfl

omit [TimeLib] in
/-- A task on the API sequence. -/
lemma grows_runApiTask (served : Served s) {task : ResponseTask} {tasks : List (Request × ResponseTask)}
    (waits : s.apiTasks = (request, task) :: tasks)
    (responds : (request.storeTask s.apiToken).isSome → ∃ response, task = .respond response)
    (result : ForwardResult) :
    Grows (answered s.apiToken request task) s ({ s with apiTasks := tasks }.runApiTask result request task) := by
  cases task with
  | respond response => exact grows_sendJson served response waits rfl
  | forward cdpPort data again =>
    apply grows_sendJson served _ waits
    rw [if_neg]
    · rfl
    · intro about
      obtain ⟨response, same⟩ := responds about
      cases same
  | retryCDPRequest r =>
    have none : request.storeTask s.apiToken = none := by
      cases about : request.storeTask s.apiToken with
      | none => rfl
      | some task =>
        obtain ⟨response, same⟩ := responds (by rw [about, Option.isSome_some])
        cases same
    apply Grows.quiet
    · rfl
    · exact Nat.le_refl _
    · exact fun p hp => hp
    · exact fun p hp => .inl (waits ▸ List.mem_cons_of_mem _ hp)
    · rw [desk_retry]
      intro a ha
      simp only [List.mem_append, List.mem_cons] at ha
      rcases ha with ha | rfl | ha
      · exact .inl (List.mem_append_left _ ha)
      · exact .inr none
      · exact .inl (List.mem_append_right _ ha)
    · rfl
    · rfl

omit [TimeLib] [ValueLib] in
/-- A change of the store and the launcher alone adds nothing. -/
lemma grows_backend (b : Backend) : Grows [] s { s with backend := b } := by
  apply Grows.quiet
  · rfl
  · exact Nat.le_refl _
  · exact fun p hp => hp
  · exact fun p hp => .inl hp
  · exact fun a ha => .inl ha
  · rfl
  · rfl

omit [TimeLib] in
/-- A task of the server leaves the store as it is. -/
lemma runApiTask_backend (result : ForwardResult) (task : ResponseTask) :
    (s.runApiTask result request task).backend = s.backend := by
  cases task with
  | respond | forward =>
    unfold runApiTask sendJson
    split_ifs <;> rfl
  | retryCDPRequest => rfl

omit [TimeLib] [ValueLib] in
/-- An answer is no entry of the history. -/
lemma history_answered (apiToken : String) (task : ResponseTask) : history (answered apiToken request task) = [] := by
  cases task with
  | respond response =>
    unfold answered
    split_ifs <;> rfl
  | forward | retryCDPRequest => rfl

/-- A request comes in. -/
lemma Linear.onHttpRequest (h : Linear m l s) (served : Served s) (connectionId : Int) (info : HttpServerRequestInfo) :
    Linear m (l ++ points env s (.onHttpRequest connectionId info)) (s.onHttpRequest connectionId info) := by
  unfold ApiServer.onHttpRequest
  dsimp only
  cases handled : (dispatchRequest s.apiToken info).handle with
  | error response =>
    have atOnce : (Request.mk s.requests.length connectionId info).task s.apiToken = none := by
      rw [Request.task, handled]
      rfl
    rw [points, Request.storeTask, atOnce, Option.filter_none]
    apply h.keep (grows_answer served response atOnce)
    unfold sendJson
    split_ifs <;> rfl
  | ok task =>
    have posted : (Request.mk s.requests.length connectionId info).task s.apiToken = some task := by
      rw [Request.task, handled]
      rfl
    have here : points env s (.onHttpRequest connectionId info) =
        if task.onStore then [.inl (.call s.requests.length task)] else [] := by
      rw [points, storeTask_eq posted]
      split_ifs <;> rfl
    have grows := grows_take posted
    rw [here]
    split_ifs at grows ⊢ with onStore
    · apply h.grow grows
      · exact h.keys
      · exact h.timeline.call fun a' there => Nat.lt_irrefl _ (h.calls _ a' there)
      · rw [history_append, history_inl, List.append_nil]
        exact h.sequential
      · rw [history_append, history_inl, List.append_nil]
        exact h.ordered
    · exact h.keep grows rfl

/-- A task takes its turn on the UI sequence. -/
lemma Linear.runUiTask (h : Linear m l s) (served : Served s) {task : RequestTask}
    {tasks : List (Request × RequestTask)} {basic stored : Drawn} {imported : Nat → Drawn} {now : Time} {b : Backend}
    {outcome : Outcome} (waits : s.uiTasks = (request, task) :: tasks)
    (ran : task.run env s.backend basic stored imported now = some (b, outcome)) :
    Linear m (l ++ takesEffect request task outcome)
      ({ s with uiTasks := tasks, backend := b }.after request outcome) := by
  have there : (request, task) ∈ s.uiTasks := waits ▸ List.mem_cons_self
  cases onStore : task.onStore with
  | true =>
    obtain ⟨response, rfl, serves⟩ := run_serves h.keys onStore ran
    rw [takesEffect, if_pos onStore]
    apply h.grow (grows_serve served b waits)
    · exact serves.keys h.keys
    · apply h.timeline.served (h.called _ there onStore)
      intro a' r' before
      exact Nat.lt_irrefl _ (h.behind _ a' r' before _ there)
    · rw [history_append, history_inr]
      exact h.sequential.served serves
    · rw [history_append, history_inr, List.filterMap_append, List.pairwise_append]
      refine ⟨h.ordered, List.pairwise_singleton _ _, ?_⟩
      intro i hi j hj
      cases List.mem_singleton.mp hj
      obtain ⟨entry, he, caller⟩ := List.mem_filterMap.mp hi
      cases entry with
      | served i' a r =>
        cases caller
        exact h.behind i a r (mem_history.mp he) _ there
      | other => cases caller
  | false =>
    have none : request.storeTask s.apiToken = none := by
      rw [storeTask_eq (h.posted _ there), onStore]
      rfl
    rw [takesEffect_of_not onStore]
    apply h.keep (grows_after b outcome waits none)
    cases outcome <;> exact run_store onStore ran

/-- A task takes its turn on the API sequence. -/
lemma Linear.runApiTask (h : Linear m l s) (served : Served s) {task : ResponseTask}
    {tasks : List (Request × ResponseTask)} (waits : s.apiTasks = (request, task) :: tasks) (result : ForwardResult) :
    Linear m (l ++ answered s.apiToken request task)
      ({ s with apiTasks := tasks }.runApiTask result request task) := by
  have there : (request, task) ∈ s.apiTasks := waits ▸ List.mem_cons_self
  have responds (about : (request.storeTask s.apiToken).isSome) : ∃ response, task = .respond response := by
    obtain ⟨response, _, same, _⟩ := h.responds _ there about
    exact ⟨response, same⟩
  apply h.grow (grows_runApiTask served waits responds result)
  · rw [runApiTask_backend]
    exact h.keys
  · cases task with
    | respond response =>
      dsimp only [answered]
      split_ifs with about
      · obtain ⟨_, a, same, before⟩ := h.responds _ there about
        cases same
        apply h.timeline.ret before
        intro r' again
        -- the request would have been answered, and wait
        have sent : (request.number, r') ∈ s.storeResponses := by
          rw [← h.responses]
          exact List.mem_filterMap.mpr ⟨_, mem_seen.mpr again, rfl⟩
        obtain ⟨p, hp, eq⟩ := List.mem_map.mp sent
        exact numbers_ne served p.1 (List.mem_map_of_mem (List.mem_filter.mp hp).1) request
          (List.mem_map_of_mem there) (congrArg Prod.fst eq)
      · exact (List.append_nil l).symm ▸ h.timeline
    | forward | retryCDPRequest => exact (List.append_nil l).symm ▸ h.timeline
  · rw [history_append, history_answered, List.append_nil, runApiTask_backend]
    exact h.sequential
  · rw [history_append, history_answered, List.append_nil]
    exact h.ordered

omit [ValueLib] in
/-- A direct call. -/
lemma Linear.store (h : Linear m l s) (op : StoreOp) :
    Linear m (l ++ [.inr (.other op)]) { s with backend := { s.backend with store := s.backend.store.apply op } } := by
  apply h.grow
  · refine ⟨rfl, Nat.le_refl _, ?_, fun p hp => .inl hp, ?_, fun p hp => .inl hp, fun a ha => .inl ha,
      (List.append_nil _).symm, (List.append_nil _).symm⟩
    · intro i a hi
      cases List.mem_singleton.mp hi
    · intro i a r hi
      cases List.mem_singleton.mp hi
  · exact h.keys.apply op
  · exact h.timeline.other
  · rw [history_append, history_inr]
    exact h.sequential.other (others_apply s.backend.store op)
  · rw [history_append, history_inr, List.filterMap_append]
    exact (List.append_nil (List.filterMap Entry.caller (history l))).symm ▸ h.ordered

/-- What a run keeps. -/
lemma Linear.step (h : Linear m l s) (served : Served s) (st : step env s e = some t) :
    Linear m (l ++ points env s e) t := by
  cases e with
  | onHttpRequest connectionId info =>
    cases st
    exact h.onHttpRequest served connectionId info
  | runUiTask basic stored imported now =>
    cases waits : s.uiTasks with
    | nil =>
      rw [ApiServer.step, waits] at st
      cases st
    | cons first tasks =>
      rw [ApiServer.step, waits] at st
      obtain ⟨⟨b, outcome⟩, ran, st⟩ := Option.bind_eq_some_iff.mp st
      cases st
      rw [points, waits]
      dsimp only
      rw [ran]
      exact h.runUiTask served waits ran
  | runDelayedTask i =>
    obtain ⟨⟨request, r⟩, there, st⟩ := Option.bind_eq_some_iff.mp st
    obtain ⟨w, _, st⟩ := Option.bind_eq_some_iff.mp st
    cases st
    have waits : request ∈ s.delayed.map Prod.fst := List.mem_map_of_mem (List.mem_of_getElem? there)
    refine h.keep (grows_postBack _ (h.away _ (List.mem_append_left _ waits)) rfl rfl (fun p hp => hp) rfl rfl ?_) rfl
    exact fun a ha => (((List.eraseIdx_sublist ..).map _).append_right _).subset ha
  | continueStart i launches now =>
    obtain ⟨⟨request, launch⟩, there, st⟩ := Option.bind_eq_some_iff.mp st
    cases st
    have waits : request ∈ s.launches.map Prod.fst := List.mem_map_of_mem (List.mem_of_getElem? there)
    refine h.keep (grows_postBack _ (h.away _ (List.mem_append_right _ waits)) rfl rfl (fun p hp => hp) rfl rfl ?_) rfl
    exact fun a ha => (((List.eraseIdx_sublist ..).map _).append_left _).subset ha
  | runApiTask result =>
    cases waits : s.apiTasks with
    | nil =>
      rw [ApiServer.step, waits] at st
      cases st
    | cons first tasks =>
      rw [ApiServer.step, waits] at st
      cases st
      rw [points, waits]
      exact h.runApiTask served waits result
  | store op =>
    cases st
    exact h.store op
  | manager e =>
    obtain ⟨_, _, st⟩ := Option.bind_eq_some_iff.mp st
    obtain ⟨_, _, st⟩ := Option.bind_eq_some_iff.mp st
    cases st
    exact h.keep (grows_backend _) rfl
  | destroyManager =>
    cases st
    exact h.keep (grows_backend _) rfl

omit [ValueLib] in
/-- A server begins with an empty linearization. -/
lemma linear_start (apiToken : String) {store : WorkspaceStore} (manager : World) (keys : KeyId store.workspaces) :
    Linear store.workspaces [] (start apiToken store manager) where
  keys := keys
  timeline := .nil
  sequential := .nil
  calls _ _ hi := absurd hi List.not_mem_nil
  posted _ hp := absurd hp List.not_mem_nil
  called _ hp := absurd hp List.not_mem_nil
  ordered := .nil
  behind _ _ _ hi := absurd hi List.not_mem_nil
  responds _ hp := absurd hp List.not_mem_nil
  away _ ha := absurd ha List.not_mem_nil
  requests := rfl
  responses := rfl

/-- Every run is linearized by its timeline. -/
lemma linear_of_run {apiToken : String} {store : WorkspaceStore} {manager : World}
    {tr : List (ApiServer × ServerEvent)} (keys : KeyId store.workspaces)
    (r : Run (ApiServer.step env) (start apiToken store manager) tr s) :
    Linear store.workspaces (timeline env tr) s := by
  induction r with
  | nil => exact linear_start apiToken manager keys
  | snoc r st ih =>
    have served := r.invariant Served.step (served_start apiToken store manager)
    rw [timeline, List.flatMap_append, List.flatMap_singleton]
    exact ih.step served st

/-- In every run there is an order of the requests about the store and of the direct calls on it in which a map, served
by one at a time, gives the responses that are sent and is the store's in the end. It is the order of the requests
among each other, and no request comes before another one that was answered when it came in. -/
theorem requests_linearizable {apiToken : String} {store : WorkspaceStore} {manager : World}
    {calls : List (WorkspaceStore × StoreOp)} {tr : List (ApiServer × ServerEvent)}
    (before : Run WorkspaceStore.step {} calls store)
    (r : Run (ApiServer.step env) (start apiToken store manager) tr s) :
    let l := timeline env tr
    (seen l).filterMap asked = s.storeRequests ∧ (seen l).filterMap answer = s.storeResponses ∧
      Linearization Serves Others store.workspaces s.backend.store.workspaces (seen l) (history l) ∧
      ((history l).filterMap Entry.caller).Pairwise (· < ·) := by
  have linear := linear_of_run (keyId_of_run before) r
  exact ⟨linear.requests, linear.responses, linear.timeline.linearization linear.sequential, linear.ordered⟩

omit [JSONReader] [TimeLib] [ValueLib] in
/-- The list of the workspaces behind a launch. -/
theorem requests_linearizable_launch :
    ∃ s, Run plainStep oneWorkspace (trace plainStep oneWorkspace overtakesLaunch) s ∧
      let l := @timeline (tableReader []) utcCalendar plainValues bareEnv
        (trace plainStep oneWorkspace overtakesLaunch)
      (seen l).filterMap asked = @storeRequests (tableReader []) s ∧
        (seen l).filterMap answer = @storeResponses (tableReader []) s ∧
        Linearization (@Serves utcCalendar) (@Others utcCalendar) oneWorkspace.backend.store.workspaces
          s.backend.store.workspaces (seen l) (history l) ∧
        ((history l).filterMap Entry.caller).Pairwise (· < ·) := by
  obtain ⟨s, ex⟩ : ∃ s, exec plainStep oneWorkspace overtakesLaunch = some s := ⟨_, rfl⟩
  have created : @WorkspaceStore.step utcCalendar {}
      (.create { id := "a", name := "w" } newDrawn.id newDrawn.seed newDrawn.now) =
        some oneWorkspace.backend.store := rfl
  have run := Run.of_exec ex
  exact ⟨s, run, @requests_linearizable (tableReader []) utcCalendar plainValues _ _ _ _ _ _ _ (Run.single created) run⟩

end ApiServer

end PureCloak.API
