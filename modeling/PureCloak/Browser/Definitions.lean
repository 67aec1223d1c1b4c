import PureCloak.API.WorkspaceApiHandler
import PureCloak.Launcher.Entries
import PureCloak.Profiles.Persistence
import PureCloak.WebUI.Messages

/-!
# Workspaces that run and workspaces that are defined

The store with its file and the manager with its surroundings, driven by REST requests and WebUI messages. The
two are changed independently: a deletion does not look whether the workspace runs, and `ContinueStart` does not
look whether its workspace is still defined. `runs_defined_iff` says which runs nevertheless keep a definition of
every workspace that runs.
-/

namespace PureCloak

open Base Profiles Launcher API WebUI Machine

/-- A message of the page, with what its handler draws and reads. -/
inductive WebUI.Message where
  | createWorkspace (args : ListValue) (drawn stored : Drawn)
  | updateWorkspace (args : ListValue) (now storeNow : Time)
  | deleteWorkspace (args : ListValue)
  | launchWorkspace (args : ListValue)
  | stopWorkspace (args : ListValue)
  | batchDeleteWorkspaces (args : ListValue)
  | batchLaunchWorkspaces (args : ListValue)
  | batchStopWorkspaces (args : ListValue)

/-- The store and the manager after a message. -/
def WebUI.Message.run [TimeLib] (env : Env) (store : WorkspaceStore) (w : World) :
    Message → Option (WorkspaceStore × World)
  | .createWorkspace args drawn stored =>
    (handleCreateWorkspace store args drawn stored).map fun r => (r.1, w)
  | .updateWorkspace args now storeNow =>
    (handleUpdateWorkspace store args now storeNow).map fun r => (r.1, w)
  | .deleteWorkspace args => (handleDeleteWorkspace store args).map fun r => (r.1, w)
  | .launchWorkspace args => (handleLaunchWorkspace env store w args).map fun r => (store, r.1)
  | .stopWorkspace args => (handleStopWorkspace w args).map fun r => (store, r.1)
  | .batchDeleteWorkspaces args => (handleBatchDeleteWorkspaces store args).map fun r => (r.1, w)
  | .batchLaunchWorkspaces args => (handleBatchLaunchWorkspaces store args).map fun _ => (store, w)
  | .batchStopWorkspaces args => (handleBatchStopWorkspaces w args).map fun r => (store, r.1)

/-- What a message does to the store and to the manager, where its values have the right types. -/
inductive WebUI.Message.Does [TimeLib] (env : Env) (store : WorkspaceStore) (w : World) :
    Message → WorkspaceStore × World → Prop where
  | create {args drawn ws} (stored : Drawn) :
    workspaceOfMessage args drawn = some ws →
    Does env store w (.createWorkspace args drawn stored)
      ((store.createWorkspace ws stored.id stored.seed stored.now).1, w)
  | rename {args now} (storeNow : Time) (id newName : String) :
    Does env store w (.updateWorkspace args now storeNow) ((store.updateWorkspaceName id newName storeNow).1, w)
  | update {args} (now storeNow : Time) (dict : DictValue) :
    Does env store w (.updateWorkspace args now storeNow)
      ((store.updateWorkspace { Workspace.fromDict dict with updatedAt := now } storeNow).1, w)
  | delete {args id} :
    args[1]?.bind Value.getIfString = some id →
    Does env store w (.deleteWorkspace args) ((store.deleteWorkspace id).1, w)
  | launchUnknown {args} : Does env store w (.launchWorkspace args) (store, w)
  | launch {args} (ws : Workspace) : Does env store w (.launchWorkspace args) (store, World.start env w ws)
  | stop {args} (id : String) : Does env store w (.stopWorkspace args) (store, w.stop id)
  | batchDelete {args ids} :
    args[1]?.bind Value.getIfList = some ids →
    Does env store w (.batchDeleteWorkspaces args)
      (((ids.filterMap Value.getIfString).foldl deleteCounted (store, 0)).1, w)
  | batchLaunch {args} : Does env store w (.batchLaunchWorkspaces args) (store, w)
  | batchStop {args} (ids : List String) :
    Does env store w (.batchStopWorkspaces args) (store, ids.foldl World.stop w)

/-- What a message does is one of the cases of `Does`. -/
lemma WebUI.Message.does [TimeLib] {env : Env} {store : WorkspaceStore} {w : World} {m : Message}
    {r : WorkspaceStore × World} (run : m.run env store w = some r) : Does env store w m r := by
  cases m with
  | createWorkspace args drawn stored =>
    obtain ⟨⟨store, reply⟩, h, rfl⟩ := Option.map_eq_some_iff.mp run
    obtain ⟨ws, made, h⟩ := Option.bind_eq_some_iff.mp h
    obtain ⟨callbackId, _, h⟩ := Option.bind_eq_some_iff.mp h
    cases h
    exact .create stored made
  | updateWorkspace args now storeNow =>
    obtain ⟨⟨store, reply⟩, h, rfl⟩ := Option.map_eq_some_iff.mp run
    obtain ⟨v, _, h⟩ := Option.bind_eq_some_iff.mp h
    split at h
    · obtain ⟨name, _, h⟩ := Option.bind_eq_some_iff.mp h
      obtain ⟨newName, _, h⟩ := Option.bind_eq_some_iff.mp h
      obtain ⟨callbackId, _, h⟩ := Option.bind_eq_some_iff.mp h
      cases h
      exact .rename storeNow _ newName
    · obtain ⟨dict, _, h⟩ := Option.bind_eq_some_iff.mp h
      obtain ⟨callbackId, _, h⟩ := Option.bind_eq_some_iff.mp h
      cases h
      exact .update now storeNow dict
  | deleteWorkspace args =>
    obtain ⟨⟨store, reply⟩, h, rfl⟩ := Option.map_eq_some_iff.mp run
    obtain ⟨v, hv, h⟩ := Option.bind_eq_some_iff.mp h
    obtain ⟨id, hid, h⟩ := Option.bind_eq_some_iff.mp h
    obtain ⟨callbackId, _, h⟩ := Option.bind_eq_some_iff.mp h
    cases h
    exact .delete (Option.bind_eq_some_iff.mpr ⟨v, hv, hid⟩)
  | launchWorkspace args =>
    obtain ⟨⟨w, reply⟩, h, rfl⟩ := Option.map_eq_some_iff.mp run
    obtain ⟨v, _, h⟩ := Option.bind_eq_some_iff.mp h
    obtain ⟨wsId, _, h⟩ := Option.bind_eq_some_iff.mp h
    split at h
    · obtain ⟨callbackId, _, h⟩ := Option.bind_eq_some_iff.mp h
      cases h
      exact .launchUnknown
    · obtain ⟨value, _, h⟩ := Option.bind_eq_some_iff.mp h
      obtain ⟨callbackId, _, h⟩ := Option.bind_eq_some_iff.mp h
      cases h
      exact .launch _
  | stopWorkspace args =>
    obtain ⟨⟨w, reply⟩, h, rfl⟩ := Option.map_eq_some_iff.mp run
    obtain ⟨v, _, h⟩ := Option.bind_eq_some_iff.mp h
    obtain ⟨wsId, _, h⟩ := Option.bind_eq_some_iff.mp h
    obtain ⟨callbackId, _, h⟩ := Option.bind_eq_some_iff.mp h
    cases h
    exact .stop wsId
  | batchDeleteWorkspaces args =>
    obtain ⟨⟨store, reply⟩, h, rfl⟩ := Option.map_eq_some_iff.mp run
    obtain ⟨v, hv, h⟩ := Option.bind_eq_some_iff.mp h
    obtain ⟨ids, hids, h⟩ := Option.bind_eq_some_iff.mp h
    obtain ⟨callbackId, _, h⟩ := Option.bind_eq_some_iff.mp h
    cases h
    exact .batchDelete (Option.bind_eq_some_iff.mpr ⟨v, hv, hids⟩)
  | batchLaunchWorkspaces args =>
    obtain ⟨reply, _, rfl⟩ := Option.map_eq_some_iff.mp run
    exact .batchLaunch
  | batchStopWorkspaces args =>
    obtain ⟨⟨w, reply⟩, h, rfl⟩ := Option.map_eq_some_iff.mp run
    obtain ⟨v, _, h⟩ := Option.bind_eq_some_iff.mp h
    obtain ⟨ids, _, h⟩ := Option.bind_eq_some_iff.mp h
    obtain ⟨callbackId, _, h⟩ := Option.bind_eq_some_iff.mp h
    cases h
    exact .batchStop _

/-- The browser: the store with its file, and the manager with its surroundings. -/
structure Browser where
  session : Session
  world : World

namespace Browser

/-- The browser when it has started. -/
def start (disk : Option Value) : Browser where
  session := Session.start disk
  world := {}

/-- A step of the browser. -/
inductive Event where
  | rest (task : UiTask) (basic stored : Drawn)
  | message (m : Message)
  | runFile
  | deliver
  | world (e : World.Event)

/-- The steps of the manager and its surroundings that no request makes. -/
def ofSurroundings : World.Event → Bool
  | .start _ | .stop _ | .stopAll => false
  | _ => true

/-- The workspaces that a step deletes from the store, or tries to. -/
def deleted : Event → List String
  | .rest (.deleteWorkspace id) .. => [id]
  | .message (.deleteWorkspace args) => (args[1]?.bind Value.getIfString).toList
  | .message (.batchDeleteWorkspaces args) =>
    ((args[1]?.bind Value.getIfList).getD []).filterMap Value.getIfString
  | _ => []

/-- The launch that a step makes. -/
def launched (s : Browser) : Event → Option (Workspace × String × Int)
  | .world e => s.world.launched e
  | _ => none

/-- Every workspace that runs is in the store. -/
def RunsDefined (s : Browser) : Prop :=
  ∀ id, s.world.isRunning id → id ∈ s.session.store.workspaces

/-- No workspace is deleted while it runs, and none is launched that is not in the store. -/
def KeepsDefined (s : Browser) (e : Event) : Prop :=
  (∀ id ∈ deleted e, s.world.isRunning id = false) ∧
    ∀ l ∈ s.launched e, l.1.id ∈ s.session.store.workspaces

instance (s : Browser) (e : Event) : Decidable (s.KeepsDefined e) :=
  inferInstanceAs (Decidable ((∀ id ∈ deleted e, _ = _) ∧ ∀ l ∈ s.launched e, _))

/-! ## What a step leaves -/

/-- A store has the workspaces of another one and perhaps new ones, but not those that were deleted. -/
structure Keeps (store store' : WorkspaceStore) (deleted : List String) : Prop where
  kept : ∀ id ∈ store.workspaces, id ∉ deleted → id ∈ store'.workspaces
  gone : ∀ id ∈ deleted, id ∉ store'.workspaces

/-- A store that lacks only what was lacking before keeps all ids. -/
lemma Keeps.of_get {store store' : WorkspaceStore}
    (h : ∀ id : String, store'.workspaces[id]? = none → store.workspaces[id]? = none) :
    Keeps store store' [] where
  kept := by
    intro id mem _
    by_contra absent
    exact KeyedMap.get_eq_none_iff.mp (h id (KeyedMap.get_eq_none_iff.mpr absent)) mem
  gone := nofun

/-- A store keeps its own ids. -/
lemma Keeps.refl (store : WorkspaceStore) : Keeps store store [] :=
  .of_get fun _ h => h

/-- Deleting takes the workspaces out, whatever the store. -/
lemma Keeps.of_erased {store store' : WorkspaceStore} {deleted : List String}
    (h : ∀ id : String, store'.workspaces[id]? = if id ∈ deleted then none else store.workspaces[id]?) :
    Keeps store store' deleted where
  kept := by
    intro id mem other
    obtain ⟨ws, hws⟩ := KeyedMap.mem_iff_exists_get.mp mem
    exact KeyedMap.mem_iff_exists_get.mpr ⟨ws, by rw [h, if_neg other, hws]⟩
  gone := by
    intro id mem
    rw [← KeyedMap.get_eq_none_iff, h, if_pos mem]

/-- What a step of no launch does to the store and to the workspaces that run. -/
structure Effect (s s' : Browser) (deleted : List String) : Prop where
  store : Keeps s.session.store s'.session.store deleted
  calm : ∀ id, s'.world.isRunning id → s.world.isRunning id
  same : deleted ≠ [] → s'.world = s.world

/-- A step of the store has no effect on the launcher. -/
lemma Effect.of_store {s s' : Browser} {deleted : List String}
    (store : Keeps s.session.store s'.session.store deleted) (same : s'.world = s.world) :
    Effect s s' deleted :=
  ⟨store, fun _ h => same ▸ h, fun _ => same⟩

/-- A step of the launcher that starts nothing has no effect on the store. -/
lemma Effect.of_world {s s' : Browser} (same : s'.session.store = s.session.store)
    (calm : ∀ id, s'.world.isRunning id → s.world.isRunning id) : Effect s s' [] :=
  ⟨same ▸ .refl _, calm, fun h => absurd rfl h⟩

/-- Stopping several workspaces starts none. -/
lemma foldl_stop_calm (ids : List String) {w : World} {id : String}
    (h : (ids.foldl World.stop w).isRunning id) : w.isRunning id := by
  induction ids generalizing w with
  | nil => exact h
  | cons id' ids ih => exact World.isRunning_stop (ih h)

section
variable [TimeLib] (env : Env)

/-- One step of the browser; when the manager has crashed it, there is none. -/
def step (s : Browser) (e : Event) : Option Browser :=
  if s.world.crashed then none
  else
    match e with
    | .rest task basic stored =>
      let r := task.run env s.session.store s.world basic stored
      some { session := { s.session with store := r.1 }, world := r.2.1 }
    | .message m =>
      (m.run env s.session.store s.world).map fun r =>
        { session := { s.session with store := r.1 }, world := r.2 }
    | .runFile => (s.session.step .runFile).map fun session => { s with session := session }
    | .deliver => (s.session.step .deliver).map fun session => { s with session := session }
    | .world e =>
      if ofSurroundings e then (World.step env s.world e).map fun w => { s with world := w }
      else none

/-- A creation keeps all ids. -/
lemma keeps_create (store : WorkspaceStore) (ws : Workspace) (drawn : Drawn) :
    Keeps store (store.createWorkspace ws drawn.id drawn.seed drawn.now).1 [] := by
  refine .of_get fun id h => ?_
  rw [WorkspaceStore.createWorkspace_get] at h
  split at h
  · cases h
  · exact h

/-- A new name keeps all ids. -/
lemma keeps_rename (store : WorkspaceStore) (id name : String) (now : Time) :
    Keeps store (store.updateWorkspaceName id name now).1 [] := by
  refine .of_get fun k h => ?_
  rw [WorkspaceStore.updateWorkspaceName_get] at h
  split at h
  · exact Option.map_eq_none_iff.mp h
  · exact h

/-- An update keeps all ids. -/
lemma keeps_update (store : WorkspaceStore) (ws : Workspace) (now : Time) :
    Keeps store (store.updateWorkspace ws now).1 [] := by
  refine .of_get fun k h => ?_
  rw [WorkspaceStore.updateWorkspace_get] at h
  split at h
  · exact Option.map_eq_none_iff.mp h
  · exact h

/-- The list from the disk keeps all ids. -/
lemma keeps_onInitData (store : WorkspaceStore) (dict : Option DictValue) :
    Keeps store (store.onInitData dict) [] := by
  refine .of_get fun k h => ?_
  rw [WorkspaceStore.onInitData_get] at h
  exact (Option.or_eq_none_iff.mp h).1

/-- A deletion keeps all ids but its own. -/
lemma keeps_delete (store : WorkspaceStore) (id : String) :
    Keeps store (store.deleteWorkspace id).1 [id] := by
  refine .of_erased fun k => ?_
  simp only [WorkspaceStore.deleteWorkspace_get, List.mem_singleton, eq_comm]

variable {env}

/-- A task of the REST API deletes only what it says. -/
lemma rest_effect (s : Browser) (task : UiTask) (basic stored : Drawn) :
    Effect s
      { session := { s.session with
          store := (task.run env s.session.store s.world basic stored).1 }
        world := (task.run env s.session.store s.world basic stored).2.1 }
      (deleted (.rest task basic stored)) := by
  cases task with
  | createWorkspace name type body => exact .of_store (keeps_create _ _ stored) rfl
  | updateWorkspace wsId body =>
    rw [UiTask.run]
    cases s.session.store.getWorkspace wsId with
    | none => exact .of_store (.refl _) rfl
    | some existing => exact .of_store (keeps_update _ _ _) rfl
  | deleteWorkspace wsId => exact .of_store (keeps_delete _ _) rfl
  | launchWorkspace wsId =>
    rw [UiTask.run]
    cases s.session.store.getWorkspace wsId with
    | none => exact .of_store (.refl _) rfl
    | some ws =>
      refine .of_world rfl ?_
      intro id h
      exact World.isRunning_start s.world ws id ▸ h
  | stopWorkspace wsId => exact .of_world rfl fun _ => World.isRunning_stop

/-- A message deletes only what it says, and starts nothing. -/
lemma message_effect {s : Browser} {m : Message} {r : WorkspaceStore × World}
    (run : m.run env s.session.store s.world = some r) :
    Effect s { session := { s.session with store := r.1 }, world := r.2 } (deleted (.message m)) := by
  cases Message.does run with
  | create stored made => exact .of_store (keeps_create _ _ stored) rfl
  | rename storeNow id newName => exact .of_store (keeps_rename _ id newName storeNow) rfl
  | update now storeNow dict => exact .of_store (keeps_update _ _ storeNow) rfl
  | @delete args id found =>
    rw [deleted, found]
    exact .of_store (keeps_delete _ id) rfl
  | launchUnknown | batchLaunch => exact .of_store (.refl _) rfl
  | launch ws => exact .of_world rfl fun id running => World.isRunning_start s.world ws id ▸ running
  | stop id => exact .of_world rfl fun _ => World.isRunning_stop
  | @batchDelete args ids found =>
    rw [deleted, found, Option.getD_some]
    exact .of_store (.of_erased fun k => foldl_deleteCounted_get _ _ k) rfl
  | batchStop ids => exact .of_world rfl fun _ => foldl_stop_calm ids

/-- The file runner leaves the store as it is, and a load adds to it. -/
lemma session_effect {s : Browser} {session : Session} {e : SessionEvent}
    (file : e = .runFile ∨ e = .deliver) (h : s.session.step e = some session) :
    Effect s { s with session := session } [] := by
  refine .of_store ?_ rfl
  obtain rfl | rfl := file
  · obtain ⟨task, tasks, _, store, _⟩ := step_runFile h
    refine .of_get fun id absent => ?_
    rwa [store] at absent
  · obtain ⟨dict, replies, _, rfl⟩ := step_deliver h
    exact keeps_onInitData _ _

/-- A step is one of the manager's surroundings, or it launches nothing. -/
lemma step_cases {s s' : Browser} {e : Event} (st : step env s e = some s') :
    (∃ e', e = .world e' ∧ World.step env s.world e' = some s'.world ∧
      s'.session = s.session) ∨
    s.launched e = none ∧ Effect s s' (deleted e) := by
  have st := (Option.ite_none_left_eq_some.mp st).2
  cases e with
  | rest task basic stored =>
    cases st
    exact .inr ⟨rfl, rest_effect s task basic stored⟩
  | message m =>
    obtain ⟨r, h, rfl⟩ := Option.map_eq_some_iff.mp st
    exact .inr ⟨rfl, message_effect h⟩
  | runFile =>
    obtain ⟨session, h, rfl⟩ := Option.map_eq_some_iff.mp st
    exact .inr ⟨rfl, session_effect (.inl rfl) h⟩
  | deliver =>
    obtain ⟨session, h, rfl⟩ := Option.map_eq_some_iff.mp st
    exact .inr ⟨rfl, session_effect (.inr rfl) h⟩
  | world e =>
    obtain ⟨_, st⟩ := Option.ite_none_right_eq_some.mp st
    obtain ⟨w, h, rfl⟩ := Option.map_eq_some_iff.mp st
    exact .inl ⟨e, rfl, h, rfl⟩

/-- A step keeps the running workspaces defined exactly when it meets the guard. -/
lemma runsDefined_step_iff {s s' : Browser} {e : Event} (defined : s.RunsDefined)
    (st : step env s e = some s') : s'.RunsDefined ↔ s.KeepsDefined e := by
  obtain ⟨e, rfl, hw, session⟩ | ⟨none_launched, effect⟩ := step_cases st
  · constructor
    · intro defined'
      refine ⟨nofun, ?_⟩
      intro l hl
      exact session ▸ defined' l.1.id (World.isRunning_of_launched hw hl)
    · rintro ⟨_, launch⟩ id running
      rw [session]
      obtain before | ⟨l, hl, rfl⟩ := World.isRunning_step hw running
      · exact defined id before
      · exact launch l hl
  · constructor
    · intro defined'
      refine ⟨?_, by simp [none_launched]⟩
      intro id mem
      rw [Bool.eq_false_iff]
      intro running
      rw [← effect.same (List.ne_nil_of_mem mem)] at running
      exact effect.store.gone id mem (defined' id running)
    · rintro ⟨delete, _⟩ id running
      have before := effect.calm id running
      refine effect.store.kept id (defined id before) ?_
      intro mem
      rw [delete id mem] at before
      cases before

/-! ## Runs -/

/-- The runs in which every workspace that runs is always defined are those that delete no workspace while it
runs and complete no launch of one that is no longer defined. -/
theorem runs_defined_iff {disk : Option Value} {tr : List (Browser × Event)} {s : Browser}
    (r : Run (step env) (start disk) tr s) : Always RunsDefined tr s ↔ Guarded KeepsDefined tr := by
  refine r.always_iff (I := fun _ => True) (fun _ _ => trivial) ?_ trivial ?_
  · intro s e s' _ defined st
    exact runsDefined_step_iff defined st
  · intro id running
    cases running

end

/-- What is drawn for a workspace. -/
def drawnA : Drawn where
  id := "a"
  seed := ⟨54321, by decide, by decide⟩
  now := ⟨1⟩

/-- A workspace is created and launched. -/
def createAndLaunch : List Event := [
  .rest (.createWorkspace "w" .kNormal []) drawnA drawnA, .rest (.launchWorkspace "a") drawnA drawnA,
  .world (.runTask 0 .done), .world (.arrive 0 true ⟨2⟩)]

/-- It is stopped before it is deleted. -/
def stopAndDelete : List Event :=
  createAndLaunch ++ [.rest (.stopWorkspace "a") drawnA drawnA, .rest (.deleteWorkspace "a") drawnA drawnA]

/-- A workspace is stopped before it is deleted. -/
theorem runs_defined_iff_stopped : ∃ s,
    Run (step bareEnv) (start none) (trace (step bareEnv) (start none) stopAndDelete) s ∧
    Always RunsDefined (trace (step bareEnv) (start none) stopAndDelete) s := by
  have r : Run (step bareEnv) (start none) (trace (step bareEnv) (start none) stopAndDelete) _ :=
    Run.of_exec rfl
  exact ⟨_, r, (runs_defined_iff r).mpr (by decide)⟩

/-- A workspace is deleted while it runs. -/
theorem runs_defined_fails :
    ¬ ∀ env disk tr s, Run (step env) (start disk) tr s → Always RunsDefined tr s := by
  intro h
  have r : Run (step bareEnv) (start none) (trace (step bareEnv) (start none)
      (createAndLaunch ++ [.rest (.deleteWorkspace "a") drawnA drawnA])) _ := Run.of_exec rfl
  exact absurd ((h _ _ _ _ r).2 "a" (by decide)) (by decide)

end Browser

end PureCloak
