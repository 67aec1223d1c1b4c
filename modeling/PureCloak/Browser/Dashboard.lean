import PureCloak.API.Responses
import PureCloak.Browser.Definitions
import PureCloak.Launcher.Stopping

/-!
# The dashboard

`HandleGetDashboardStats` counts the stored workspaces whose field `status` says that they run, `IsRunning` and
`GetStatusDict` look in the map of the manager. The store and the manager take their steps in any order, and no caller
of the store sets the field. `always_agree_iff` says which runs nevertheless keep the views in agreement.
-/

namespace PureCloak.WebUI
open PureCloak.Base PureCloak.Profiles

/-- What `HandleGetDashboardStats` counts. -/
structure DashboardStats where
  normal : Int32 := 0
  fingerprint : Int32 := 0
  running : Int32 := 0

/-- One round of its loop. -/
def DashboardStats.count (c : DashboardStats) (ws : Workspace) : DashboardStats :=
  let c := match ws.type with
    | .kNormal => { c with normal := c.normal + 1 }
    | .kFingerprint => { c with fingerprint := c.fingerprint + 1 }
  if ws.status = "running" then { c with running := c.running + 1 } else c

/-- The fields of the reply. -/
def dashboardFields (all : List Workspace) : List (String × Option Value) :=
  let c := all.foldl DashboardStats.count {}
  [ ("total", some (.integer (Int32.ofNat all.length))),
    ("normal", some (.integer c.normal)),
    ("fingerprint", some (.integer c.fingerprint)),
    ("running", some (.integer c.running)),
    ("stopped", some (.integer (Int32.ofNat all.length - c.running)))]

/-- `HandleGetDashboardStats`. -/
def handleGetDashboardStats (store : WorkspaceStore) (args : ListValue) : Option (Value × Value) := do
  let all := store.getAllWorkspaces
  return (← args[0]?, .dict (DictValue.ofFields (dashboardFields all)))

end PureCloak.WebUI

namespace PureCloak.Dashboard
open Base Profiles Launcher API WebUI Machine

/-- A step of the store with its file, or one of the manager with its surroundings. -/
inductive Event where
  | store (e : SessionEvent)
  | world (e : World.Event)

/-- The record that a caller hands over has no `status`; no code sets that field. -/
def unmarked : SessionEvent → Bool
  | .call (.create ws ..) | .call (.update ws _) => ws.status = ""
  | _ => true

/-- No stored record has a `status`. -/
def Unmarked (store : WorkspaceStore) : Prop :=
  ∀ (id : String) ws, store.workspaces[id]? = some ws → ws.status = ""

/-- A number that the dashboard shows. -/
def shown (store : WorkspaceStore) (key : String) : Option Int :=
  (handleGetDashboardStats store [.none]).bind fun r =>
    (r.2.getIfDict.bind fun dict => DictValue.findInt dict key).map Int32.toInt

/-- The dashboard counts the stored workspaces that `IsRunning` says to run, and the others, and `GetStatusDict` of
any id agrees with `IsRunning`. -/
structure Agree (s : Browser) : Prop where
  running : shown s.session.store "running" = some (s.session.store.workspaces.keys.countP s.world.isRunning : Int)
  stopped : shown s.session.store "stopped" =
    some (s.session.store.workspaces.keys.countP fun id => !s.world.isRunning id : Int)
  status : ∀ [ValueLib] id now, DictValue.findString (s.world.getStatusDict id now) "status" ∈
    [some "starting", some "running"] ↔ s.world.isRunning id

section
variable [TimeLib] (env : Env)

/-- One step; when the manager has crashed the browser, there is none. -/
def step (s : Browser) : Event → Option Browser
  | .store e =>
    if s.world.crashed ∨ unmarked e = false then none
    else (s.session.step e).map fun session => { s with session := session }
  | .world e => (World.step env s.world e).map fun w => { s with world := w }

/-- The ids under which a step stores workspaces that its caller or the file supplies. -/
def added (s : Browser) : Event → List String
  | .store (.call (.create ws newId newSeed now)) => [(WorkspaceStore.created ws newId newSeed now).id]
  | .store .deliver => (s.session.replies.head?.map fun dict => (records (storedList dict)).map (·.id)).getD []
  | _ => []

/-- The launch that a step makes. -/
def launched (s : Browser) : Event → Option (Workspace × String × Int)
  | .world e => s.world.launched e
  | _ => none

/-- No stored workspace is launched, none is stored while it runs, and an `int` can count those that are stored. -/
def KeepsStopped (s : Browser) (e : Event) : Prop :=
  (∀ l ∈ launched s e, l.1.id ∉ s.session.store.workspaces) ∧
    (∀ id ∈ added s e, s.world.isRunning id = false) ∧
    (s.session.store.workspaces.keys ++ added s e).dedup.length < 2 ^ 31

instance (s : Browser) (e : Event) : Decidable (KeepsStopped s e) :=
  inferInstanceAs (Decidable ((∀ l ∈ launched s e, _ ∉ _) ∧ (∀ id ∈ added s e, _ = _) ∧ _ < _))

end

/-! ## When the views agree -/

/-- A workspace without a status does not count as one that runs. -/
lemma running_count (c : DashboardStats) {ws : Workspace} (h : ws.status = "") :
    (c.count ws).running = c.running := by
  rw [DashboardStats.count, h]
  cases ws.type with
  | kNormal => rfl
  | kFingerprint => rfl

/-- The loop counts no workspace as running that has no `status`. -/
lemma running_foldl_count {all : List Workspace} (h : ∀ ws ∈ all, ws.status = "") (c : DashboardStats) :
    (all.foldl DashboardStats.count c).running = c.running := by
  induction all generalizing c with
  | nil => rfl
  | cons ws all ih =>
    rw [List.foldl_cons, ih fun ws' mem => h ws' (List.mem_cons_of_mem ws mem)]
    exact running_count c (h ws List.mem_cons_self)

/-- In an unmarked store none is counted. -/
lemma Unmarked.running {store : WorkspaceStore} (h : Unmarked store) :
    (store.getAllWorkspaces.foldl DashboardStats.count {}).running = 0 := by
  apply running_foldl_count
  intro ws mem
  obtain ⟨p, hp, rfl⟩ := List.mem_map.mp mem
  exact h p.1 p.2 (Std.ExtTreeMap.mem_toList_iff_getElem?_eq_some.mp hp)

/-- What is shown are the fields of the dashboard. -/
lemma shown_eq (store : WorkspaceStore) (key : String) :
    shown store key =
      (((dashboardFields store.getAllWorkspaces).lookup key).join.bind Value.getIfInt).map Int32.toInt := by
  have nd : ((dashboardFields store.getAllWorkspaces).map Prod.fst).Nodup := by
    simp [dashboardFields]
  rw [← DictValue.find_ofFields nd]
  rfl

/-- Of an unmarked store no workspace is shown as running. -/
lemma Unmarked.shown_running {store : WorkspaceStore} (h : Unmarked store) : shown store "running" = some 0 := by
  rw [shown_eq, dashboardFields, h.running]
  rfl

/-- All are shown as stopped. -/
lemma Unmarked.shown_stopped {store : WorkspaceStore} (h : Unmarked store) :
    shown store "stopped" = some (Int32.ofNat store.workspaces.size).toInt := by
  have length : store.getAllWorkspaces.length = store.workspaces.size := by
    rw [WorkspaceStore.getAllWorkspaces, List.length_map, Std.ExtTreeMap.length_toList]
  rw [shown_eq, dashboardFields, h.running, length, Int32.sub_zero]
  rfl

/-- `StatusToString` says that a workspace is starting or running exactly when `IsRunning` does. -/
lemma status_toString_iff (status : Status) :
    some status.toString ∈ [some "starting", some "running"] ↔ status.running := by
  cases status <;> decide

/-- `GetStatusDict` and `IsRunning` look at the same entry. -/
lemma getStatusDict_iff [ValueLib] (w : World) (id : String) (now : Time) :
    DictValue.findString (w.getStatusDict id now) "status" ∈ [some "starting", some "running"] ↔
      w.isRunning id := by
  rw [World.getStatusDict, World.isRunning]
  cases w.workspaces[id]? with
  | none =>
    have found : DictValue.findString (DictValue.ofFields [("workspace_id", some (.string id)),
        ("status", some (.string "stopped"))]) "status" = some "stopped" := by
      rw [DictValue.findString, DictValue.find_ofFields (by simp)]
      rfl
    dsimp only
    rw [found]
    decide
  | some r =>
    have found : DictValue.findString (r.toDict now) "status" = some r.status.toString := by
      rw [DictValue.findString, RunningWorkspace.toDict, DictValue.find_ofFields (by simp)]
      rfl
    dsimp only
    rw [found, status_toString_iff]

/-- An `int` is a number that it was made of exactly when that number fits. -/
lemma toInt_ofNat_iff {n : Nat} : (Int32.ofNat n).toInt = n ↔ n < 2 ^ 31 := by
  constructor
  · intro same
    have bound := Int32.toInt_lt (Int32.ofNat n)
    omega
  · exact Int32.toInt_ofNat_of_lt

/-- Where no record has a `status`, the views agree exactly when no stored workspace runs. -/
lemma agree_iff {s : Browser} (unmarked : Unmarked s.session.store) :
    Agree s ↔ (∀ id ∈ s.session.store.workspaces, s.world.isRunning id = false) ∧
      s.session.store.workspaces.size < 2 ^ 31 := by
  have none_iff : s.session.store.workspaces.keys.countP s.world.isRunning = 0 ↔
      ∀ id ∈ s.session.store.workspaces, s.world.isRunning id = false := by
    simp only [List.countP_eq_zero, Std.ExtTreeMap.mem_keys, Bool.not_eq_true]
  have total := List.length_eq_countP_add_countP (l := s.session.store.workspaces.keys) s.world.isRunning
  rw [Std.ExtTreeMap.length_keys] at total
  simp only [Bool.not_eq_true, Bool.decide_eq_false] at total
  rw [← none_iff]
  constructor
  · intro agree
    have idle : 0 = (s.session.store.workspaces.keys.countP s.world.isRunning : Int) :=
      Option.some.inj (unmarked.shown_running.symm.trans agree.running)
    have others := Option.some.inj (unmarked.shown_stopped.symm.trans agree.stopped)
    have idle := Int.natCast_eq_zero.mp idle.symm
    rw [idle, Nat.zero_add] at total
    rw [← total] at others
    exact ⟨idle, toInt_ofNat_iff.mp others⟩
  · intro ⟨idle, fits⟩
    rw [idle, Nat.zero_add] at total
    refine ⟨?_, ?_, getStatusDict_iff s.world⟩
    · rw [unmarked.shown_running, idle]
      rfl
    · rw [unmarked.shown_stopped, toInt_ofNat_iff.mpr fits, total]

/-! ## What a step stores -/

/-- What a step of the store does to the workspaces: those that are in it afterwards were there or are added, those
that are added are in it, and a step that adds some takes none out. -/
structure Adds (store store' : WorkspaceStore) (ids : List String) : Prop where
  known : ∀ id ∈ store'.workspaces, id ∈ store.workspaces ∨ id ∈ ids
  added : ∀ id ∈ ids, id ∈ store'.workspaces
  kept : ids ≠ [] → ∀ id ∈ store.workspaces, id ∈ store'.workspaces
  unmarked : Unmarked store → Unmarked store'

/-- A step that changes, takes out or leaves what is there. -/
lemma Adds.of_get {store store' : WorkspaceStore}
    (h : ∀ (id : String) ws', store'.workspaces[id]? = some ws' →
      ∃ ws, store.workspaces[id]? = some ws ∧ (ws.status = "" → ws'.status = "")) : Adds store store' [] where
  known := by
    intro id mem
    obtain ⟨ws', hws'⟩ := KeyedMap.mem_iff_exists_get.mp mem
    obtain ⟨ws, hws, _⟩ := h id ws' hws'
    exact .inl (KeyedMap.mem_iff_exists_get.mpr ⟨ws, hws⟩)
  added := nofun
  kept := fun ne => absurd rfl ne
  unmarked := by
    intro unmarked id ws' hws'
    obtain ⟨ws, hws, same⟩ := h id ws' hws'
    exact same (unmarked id ws hws)

section
variable [TimeLib]

/-- A creation adds one id. -/
lemma adds_create (store : WorkspaceStore) {ws : Workspace} (h : ws.status = "") (newId : String)
    (newSeed : GeneratedSeed) (now : Time) :
    Adds store (store.createWorkspace ws newId newSeed now).1 [(WorkspaceStore.created ws newId newSeed now).id] where
  known := by
    intro id mem
    obtain ⟨ws', hws'⟩ := KeyedMap.mem_iff_exists_get.mp mem
    rw [WorkspaceStore.createWorkspace_get] at hws'
    split at hws'
    case isTrue e => exact .inr (List.mem_singleton.mpr e.symm)
    case isFalse => exact .inl (KeyedMap.mem_iff_exists_get.mpr ⟨ws', hws'⟩)
  added := by
    intro id mem
    rw [List.mem_singleton.mp mem]
    exact KeyedMap.mem_iff_exists_get.mpr ⟨_, by rw [WorkspaceStore.createWorkspace_get, if_pos rfl]⟩
  kept := by
    intro _ id mem
    obtain ⟨ws', hws'⟩ := KeyedMap.mem_iff_exists_get.mp mem
    refine KeyedMap.mem_iff_exists_get.mpr ?_
    rw [WorkspaceStore.createWorkspace_get]
    split
    · exact ⟨_, rfl⟩
    · exact ⟨ws', hws'⟩
  unmarked := by
    intro unmarked id ws' hws'
    rw [WorkspaceStore.createWorkspace_get] at hws'
    split at hws'
    · cases hws'
      rw [WorkspaceStore.created]
      split_ifs <;> exact h
    · exact unmarked id ws' hws'

/-- What the file supplies is one of its records. -/
lemma mem_of_supplied {m : WorkspaceMap} {list : ListValue} {id : String} {ws : Workspace}
    (h : supplied m list id = some ws) : ws ∈ records list := by
  rw [supplied] at h
  split at h
  · exact List.mem_reverse.mp (List.mem_of_find?_eq_some h)
  · exact List.mem_of_find?_eq_some h

/-- An update adds no id. -/
lemma adds_update (store : WorkspaceStore) {ws : Workspace} (h : ws.status = "") (now : Time) :
    Adds store (store.updateWorkspace ws now).1 [] := by
  refine .of_get fun id ws' hws' => ?_
  rw [WorkspaceStore.updateWorkspace_get] at hws'
  split at hws'
  · obtain ⟨old, hold, rfl⟩ := Option.map_eq_some_iff.mp hws'
    exact ⟨old, hold, fun _ => h⟩
  · exact ⟨ws', hws', fun same => same⟩

/-- Nor does a new name. -/
lemma adds_rename (store : WorkspaceStore) (id newName : String) (now : Time) :
    Adds store (store.updateWorkspaceName id newName now).1 [] := by
  refine .of_get fun k ws' hws' => ?_
  rw [WorkspaceStore.updateWorkspaceName_get] at hws'
  split at hws'
  · obtain ⟨old, hold, rfl⟩ := Option.map_eq_some_iff.mp hws'
    exact ⟨old, hold, fun same => same⟩
  · exact ⟨ws', hws', fun same => same⟩

/-- Nor does a deletion. -/
lemma adds_delete (store : WorkspaceStore) (id : String) : Adds store (store.deleteWorkspace id).1 [] := by
  refine .of_get fun k ws' hws' => ?_
  rw [WorkspaceStore.deleteWorkspace_get] at hws'
  split at hws'
  · cases hws'
  · exact ⟨ws', hws', fun same => same⟩

/-- A load adds the records of the file, which have no `status`. -/
lemma adds_onInitData (store : WorkspaceStore) (dict : Option DictValue) :
    Adds store (store.onInitData dict) ((records (storedList dict)).map (·.id)) where
  known := by
    intro id mem
    obtain ⟨ws, hws⟩ := KeyedMap.mem_iff_exists_get.mp mem
    rw [WorkspaceStore.onInitData_get] at hws
    obtain old | ⟨_, new⟩ := Option.or_eq_some_iff.mp hws
    · exact .inl (KeyedMap.mem_iff_exists_get.mpr ⟨ws, old⟩)
    · exact .inr (List.mem_map.mpr ⟨ws, mem_of_supplied new, supplied_id new⟩)
  added := by
    intro id mem
    obtain ⟨ws, hws, rfl⟩ := List.mem_map.mp mem
    rw [Std.ExtTreeMap.mem_iff_isSome_getElem?, WorkspaceStore.onInitData_get, Option.isSome_or]
    have found : supplied store.workspaces (storedList dict) ws.id ≠ none :=
      fun e => supplied_eq_none_iff.mp e ws hws rfl
    rw [Option.isSome_iff_ne_none.mpr found, Bool.or_true]
  kept := by
    intro _ id mem
    obtain ⟨ws, hws⟩ := KeyedMap.mem_iff_exists_get.mp mem
    exact KeyedMap.mem_iff_exists_get.mpr ⟨ws, by rw [WorkspaceStore.onInitData_get, hws, Option.some_or]⟩
  unmarked := by
    intro unmarked id ws hws
    rw [WorkspaceStore.onInitData_get] at hws
    obtain old | ⟨_, new⟩ := Option.or_eq_some_iff.mp hws
    · exact unmarked id ws old
    · obtain ⟨item, _, read⟩ := List.mem_filterMap.mp (mem_of_supplied new)
      obtain ⟨dict, _, rfl⟩ := Option.map_eq_some_iff.mp read
      rfl

/-- A call adds the ids that `added` says. -/
lemma adds_call (s : Browser) {op : StoreOp} (client : op.byClient) (h : unmarked (.call op)) :
    Adds s.session.store (s.session.store.apply op) (added s (.store (.call op))) := by
  cases op with
  | create ws newId newSeed now => exact adds_create _ (of_decide_eq_true h) newId newSeed now
  | rename id newName now => exact adds_rename _ id newName now
  | update ws now => exact adds_update _ (of_decide_eq_true h) now
  | delete id => exact adds_delete _ id
  | flush => exact .of_get fun _ ws h => ⟨ws, h, fun same => same⟩
  | init | onInitData => cases client

variable {env : Env}

/-- A step of the store leaves the manager alone. -/
lemma store_step {s s' : Browser} {e : SessionEvent} (st : step env s (.store e) = some s') :
    s'.world = s.world ∧ Adds s.session.store s'.session.store (added s (.store e)) := by
  obtain ⟨calls, st⟩ := Option.ite_none_left_eq_some.mp st
  obtain ⟨session, moved, rfl⟩ := Option.map_eq_some_iff.mp st
  refine ⟨rfl, ?_⟩
  cases e with
  | call op =>
    obtain ⟨client, ⟨⟩⟩ := Option.ite_none_right_eq_some.mp moved
    exact adds_call s client ((Bool.not_eq_false _).mp (not_or.mp calls).2)
  | runFile =>
    obtain ⟨task, tasks, _, store, _⟩ := step_runFile moved
    refine .of_get fun id ws h => ?_
    rw [store] at h
    exact ⟨ws, h, fun same => same⟩
  | deliver =>
    obtain ⟨dict, replies, replied, rfl⟩ := step_deliver moved
    rw [added, replied]
    exact adds_onInitData _ dict

/-- A step of the launcher leaves the store. -/
lemma world_step {s s' : Browser} {e : World.Event} (st : step env s (.world e) = some s') :
    s'.session = s.session ∧ World.step env s.world e = some s'.world := by
  obtain ⟨w, moved, rfl⟩ := Option.map_eq_some_iff.mp st
  exact ⟨rfl, moved⟩

omit [TimeLib] in
/-- A step that adds nothing needs no more room. -/
lemma length_keys_append_nil (m : WorkspaceMap) : (m.keys ++ []).dedup.length = m.size := by
  rw [List.append_nil, Std.ExtTreeMap.nodup_keys.dedup, Std.ExtTreeMap.length_keys]

/-- Every step keeps the store unmarked. -/
lemma unmarked_step {s s' : Browser} {e : Event} (h : Unmarked s.session.store) (st : step env s e = some s') :
    Unmarked s'.session.store := by
  cases e with
  | store e => exact (store_step st).2.unmarked h
  | world e =>
    rw [(world_step st).1]
    exact h

/-- A step keeps the views in agreement exactly when it meets the guard. -/
lemma agree_step_iff {s s' : Browser} {e : Event} (h : Unmarked s.session.store) (agree : Agree s)
    (st : step env s e = some s') : Agree s' ↔ KeepsStopped s e := by
  rw [agree_iff (unmarked_step h st)]
  obtain ⟨stopped, fits⟩ := (agree_iff h).mp agree
  cases e with
  | store e =>
    obtain ⟨world, adds⟩ := store_step st
    rw [world]
    constructor
    · intro ⟨stopped', fits'⟩
      refine ⟨fun l none_launched => ?_, fun id mem => stopped' id (adds.added id mem), ?_⟩
      · cases none_launched
      · by_cases none_added : added s (.store e) = []
        · rw [none_added, length_keys_append_nil]
          exact fits
        · refine Nat.lt_of_le_of_lt (KeyedMap.length_le_size ?_) fits'
          intro id mem
          obtain before | new := List.mem_append.mp mem
          · exact adds.kept none_added id (Std.ExtTreeMap.mem_keys.mp before)
          · exact adds.added id new
    · intro ⟨_, idle, room⟩
      constructor
      · intro id mem
        obtain before | new := adds.known id mem
        · exact stopped id before
        · exact idle id new
      · refine Nat.lt_of_le_of_lt (KeyedMap.size_le_length ?_) room
        intro id mem
        rw [List.mem_append, Std.ExtTreeMap.mem_keys]
        exact adds.known id mem
  | world e =>
    obtain ⟨session, moved⟩ := world_step st
    rw [session]
    have none_added : added s (.world e) = [] := rfl
    constructor
    · intro ⟨stopped', _⟩
      refine ⟨?_, fun id mem => absurd mem List.not_mem_nil, ?_⟩
      · intro l hl mem
        have idle := stopped' l.1.id mem
        rw [World.isRunning_of_launched moved hl] at idle
        cases idle
      · rw [none_added, length_keys_append_nil]
        exact fits
    · intro ⟨launch, _, _⟩
      refine ⟨fun id mem => ?_, fits⟩
      rw [Bool.eq_false_iff]
      intro running
      obtain before | ⟨l, hl, rfl⟩ := World.isRunning_step moved running
      · rw [stopped id mem] at before
        cases before
      · exact launch l hl mem

omit [TimeLib] in
/-- A browser begins with an unmarked store. -/
lemma unmarked_start (disk : Option Value) : Unmarked (Browser.start disk).session.store := by
  intro id ws h
  rw [Browser.start, Profiles.Session.start, WorkspaceStore.init, Std.ExtTreeMap.getElem?_empty] at h
  cases h

/-! ## Requests and messages -/

/-- What can come of a state. -/
def Reaches (env : Env) (s s' : Browser) : Prop := ∃ tr, Run (step env) s tr s'

/-- A browser reaches itself. -/
lemma Reaches.refl (s : Browser) : Reaches env s s := ⟨[], .nil⟩

/-- What is reached from there is reached from here. -/
lemma Reaches.trans {s t u : Browser} : Reaches env s t → Reaches env t u → Reaches env s u := by
  intro ⟨tr1, r1⟩ ⟨tr2, r2⟩
  exact ⟨tr1 ++ tr2, r1.append r2⟩

/-- A step of the store is a step of the browser. -/
lemma Reaches.store {s : Browser} {session : Session} {e : SessionEvent} (ok : s.world.crashed = false)
    (h : unmarked e) (st : s.session.step e = some session) : Reaches env s { s with session := session } := by
  refine ⟨_, .single (e := .store e) ?_⟩
  rw [step, if_neg (by simp [ok, h]), st, Option.map_some]

/-- So is a step of the launcher. -/
lemma Reaches.world {s : Browser} {w : World} {e : World.Event} (st : World.step env s.world e = some w) :
    Reaches env s { s with world := w } := by
  refine ⟨_, .single (e := .world e) ?_⟩
  rw [step, st, Option.map_some]

/-- A call of a client is reached. -/
lemma Reaches.call {s : Browser} (op : StoreOp) (ok : s.world.crashed = false) (client : op.byClient)
    (h : unmarked (.call op)) :
    Reaches env s { s with session := { s.session with store := s.session.store.apply op } } :=
  .store ok h (if_pos client)

/-- A launch is reached. -/
lemma Reaches.start {s : Browser} (ok : s.world.crashed = false) (ws : Workspace) :
    Reaches env s { s with world := World.start env s.world ws } :=
  .world (e := .start ws) (by simp [World.step, ok])

/-- A stop is reached. -/
lemma Reaches.stop {s : Browser} (ok : s.world.crashed = false) (id : String) :
    Reaches env s { s with world := s.world.stop id } :=
  .world (e := .stop id) (by simp [World.step, ok])

/-- What a task of the REST API does to the store is reached. -/
lemma reaches_rest {s : Browser} (ok : s.world.crashed = false) (h : Unmarked s.session.store) (task : UiTask)
    (basic stored : Drawn) :
    Reaches env s
      { session := { s.session with store := (task.run env s.session.store s.world basic stored).1 }
        world := (task.run env s.session.store s.world basic stored).2.1 } := by
  cases task with
  | createWorkspace name type body =>
    exact .call (.create (applyBodyToWorkspace (Workspace.createBasic name type basic.id basic.seed basic.now) body)
      stored.id stored.seed stored.now) ok rfl rfl
  | updateWorkspace wsId body =>
    rw [UiTask.run]
    cases found : s.session.store.getWorkspace wsId with
    | none => exact .refl s
    | some existing =>
      exact .call (.update (applyBodyToWorkspace existing body) stored.now) ok rfl
        (decide_eq_true (h wsId existing found))
  | deleteWorkspace wsId => exact .call (.delete wsId) ok rfl rfl
  | launchWorkspace wsId =>
    rw [UiTask.run]
    cases s.session.store.getWorkspace wsId with
    | none => exact .refl s
    | some ws => exact .start ok ws
  | stopWorkspace wsId => exact .stop ok wsId

/-- A message of the page makes a workspace without a `status`. -/
lemma workspaceOfMessage_status {args : ListValue} {drawn : Drawn} {ws : Workspace}
    (h : workspaceOfMessage args drawn = some ws) : ws.status = "" := by
  obtain ⟨v, _, h⟩ := Option.bind_eq_some_iff.mp h
  split at h
  · obtain ⟨typeValue, _, h⟩ := Option.bind_eq_some_iff.mp h
    obtain ⟨typeInt, _, h⟩ := Option.bind_eq_some_iff.mp h
    obtain ⟨type, _, h⟩ := Option.bind_eq_some_iff.mp h
    cases h
    rfl
  · obtain ⟨dict, _, h⟩ := Option.bind_eq_some_iff.mp h
    cases h
    dsimp only
    split_ifs <;> rfl

/-- A batch deletes one workspace after the other. -/
lemma reaches_deletions {s : Browser} (ok : s.world.crashed = false) (ids : List String) (acc : Nat) :
    Reaches env s { s with session := { s.session with
      store := (ids.foldl deleteCounted (s.session.store, acc)).1 } } := by
  induction ids generalizing s acc with
  | nil => exact .refl s
  | cons id ids ih =>
    have first : Reaches env s { s with session := { s.session with
        store := (s.session.store.deleteWorkspace id).1 } } := .call (.delete id) ok rfl rfl
    have round : deleteCounted (s.session.store, acc) id = ((s.session.store.deleteWorkspace id).1,
        if (s.session.store.deleteWorkspace id).2 then acc + 1 else acc) := rfl
    rw [List.foldl_cons, round]
    exact first.trans (ih (s := { s with session := { s.session with
      store := (s.session.store.deleteWorkspace id).1 } }) ok _)

/-- A batch stops one workspace after the other. -/
lemma reaches_stops {s : Browser} (ok : s.world.crashed = false) (ids : List String) :
    Reaches env s { s with world := ids.foldl World.stop s.world } := by
  induction ids generalizing s with
  | nil => exact .refl s
  | cons id ids ih =>
    have first : Reaches env s { s with world := s.world.stop id } := .stop ok id
    exact first.trans (ih ((World.stop_crashed s.world id).trans ok))

/-- What a message of the page does is reached. -/
lemma reaches_message {s : Browser} (ok : s.world.crashed = false) {m : Message} {r : WorkspaceStore × World}
    (run : m.run env s.session.store s.world = some r) :
    Reaches env s { session := { s.session with store := r.1 }, world := r.2 } := by
  cases Message.does run with
  | create stored made =>
    exact .call (.create _ stored.id stored.seed stored.now) ok rfl
      (decide_eq_true (workspaceOfMessage_status made))
  | rename storeNow id newName => exact .call (.rename id newName storeNow) ok rfl rfl
  | update now storeNow dict =>
    exact .call (.update { Workspace.fromDict dict with updatedAt := now } storeNow) ok rfl rfl
  | @delete args id => exact .call (.delete id) ok rfl rfl
  | launchUnknown | batchLaunch => exact .refl s
  | launch ws => exact .start ok ws
  | stop id => exact .stop ok id
  | batchDelete => exact reaches_deletions ok _ 0
  | batchStop ids => exact reaches_stops ok ids

/-- The requests and the messages are made of steps of the store and of the manager. -/
lemma reaches_step {s s' : Browser} {e : Browser.Event} (h : Unmarked s.session.store)
    (st : Browser.step env s e = some s') : Reaches env s s' := by
  obtain ⟨crashed, st⟩ := Option.ite_none_left_eq_some.mp st
  have ok := Bool.eq_false_iff.mpr crashed
  cases e with
  | rest task basic stored =>
    cases st
    exact reaches_rest ok h task basic stored
  | message m =>
    obtain ⟨r, run, rfl⟩ := Option.map_eq_some_iff.mp st
    exact reaches_message ok run
  | runFile =>
    obtain ⟨session, moved, rfl⟩ := Option.map_eq_some_iff.mp st
    exact .store ok rfl moved
  | deliver =>
    obtain ⟨session, moved, rfl⟩ := Option.map_eq_some_iff.mp st
    exact .store ok rfl moved
  | world e =>
    obtain ⟨_, st⟩ := Option.ite_none_right_eq_some.mp st
    obtain ⟨w, moved, rfl⟩ := Option.map_eq_some_iff.mp st
    exact .world moved

/-- What the browser reaches by requests and messages is reached here. -/
theorem browser_reaches {disk : Option Value} {tr : List (Browser × Browser.Event)} {s : Browser}
    (r : Run (Browser.step env) (Browser.start disk) tr s) : Reaches env (Browser.start disk) s := by
  induction r with
  | nil => exact .refl _
  | snoc _ st ih =>
    obtain ⟨tr, r⟩ := ih
    have unmarked := r.invariant (I := fun b => Unmarked b.session.store) unmarked_step (unmarked_start disk)
    exact Reaches.trans ⟨tr, r⟩ (reaches_step unmarked st)

/-- So are the calls that an import makes. -/
lemma importItems_reaches {s : Browser} (ok : s.world.crashed = false) (drawn : Nat → Drawn) (i : Nat)
    (items : ListValue) : Reaches env s { s with session := { s.session with
      store := importItems drawn i items s.session.store } } := by
  induction items generalizing s i with
  | nil => exact .refl s
  | cons item items ih =>
    cases item with
    | dict dict =>
      rw [importItems]
      split
      · exact ih ok (i + 1)
      · have first : Reaches env s _ :=
          .call (.create { Workspace.fromDict dict with id := (drawn i).id } (drawn i).id (drawn i).seed
            (drawn i).now) ok rfl rfl
        exact first.trans (ih (s := { s with session := { s.session with
          store := s.session.store.apply _ } }) ok (i + 1))
    | none | boolean | integer | double | string | list =>
      rw [importItems]
      · exact ih ok (i + 1)
      · intro dict same
        cases same

/-- So is an import of the REST API. -/
theorem import_reaches {s : Browser} (ok : s.world.crashed = false) (drawn : Nat → Drawn) (items : ListValue) :
    Reaches env s { s with session := { s.session with
      store := (API.importWorkspaces drawn items s.session.store).store } } := by
  rw [API.importWorkspaces, API.store_addAll]
  exact importItems_reaches ok drawn 0 items

/-! ## Runs -/

/-- The runs in which the views always agree are those that complete no launch of a workspace that is stored and
store none while it runs. -/
theorem always_agree_iff {disk : Option Value} {tr : List (Browser × Event)} {s : Browser}
    (r : Run (step env) (Browser.start disk) tr s) : Always Agree tr s ↔ Guarded KeepsStopped tr := by
  refine r.always_iff unmarked_step agree_step_iff (unmarked_start disk) ?_
  refine (agree_iff (unmarked_start disk)).mpr ⟨fun id _ => rfl, ?_⟩
  rw [Browser.start, Profiles.Session.start, WorkspaceStore.init, Std.ExtTreeMap.size_empty]
  decide

end

/-- A workspace is created and started, and its launch succeeds or not. -/
def createAndStart (launches : Bool) : List Event := [
  .store (.call (.create { id := "a" } "a" Browser.drawnA.seed ⟨1⟩)), .world (.start { id := "a" }),
  .world (.runTask 0 .done), .world (.arrive 0 launches ⟨2⟩)]

/-- A workspace is created and started. -/
theorem always_agree_iff_not_launched : ∃ s,
    Run (step bareEnv) (Browser.start none) (trace (step bareEnv) (Browser.start none) (createAndStart false)) s ∧
    Always Agree (trace (step bareEnv) (Browser.start none) (createAndStart false)) s := by
  have r : Run (step bareEnv) (Browser.start none)
      (trace (step bareEnv) (Browser.start none) (createAndStart false)) _ := Run.of_exec rfl
  exact ⟨_, r, (always_agree_iff r).mpr (by decide)⟩

/-- A stored workspace is launched, and the dashboard counts it as stopped. -/
theorem always_agree_fails :
    ¬ ∀ env disk tr s, Run (step env) (Browser.start disk) tr s → Always Agree tr s := by
  intro h
  have r : Run (step bareEnv) (Browser.start none)
      (trace (step bareEnv) (Browser.start none) (createAndStart true)) _ := Run.of_exec rfl
  exact absurd (h _ _ _ _ r).2.running (by decide)

end PureCloak.Dashboard
