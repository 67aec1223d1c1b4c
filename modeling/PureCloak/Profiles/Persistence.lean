import PureCloak.Library.Machine
import PureCloak.Profiles.Store

/-!
# A session of the store and its file

The store together with what surrounds it: the file `workspaces.json`, the file runner, and the replies
it has posted to the UI sequence. The file is taken as the value that its text parses to, so that
a missing file and one that is no JSON are both `none`. A session starts after `Init`, and its steps
are the calls of clients, the tasks of the file runner in their order, and the delivery of a reply.

`eventualDisk` is the file once the tasks that are posted have run. The lemmas say which calls post a
write (`StoreOp.Saves`), what each step does to the eventual file, and what a later session loads from
a list that was written for a map (`loadFast_serialize`).
-/

namespace PureCloak.Profiles
open PureCloak.Base
open Machine

/-- `ReadWorkspacesFile`. -/
def readWorkspacesFile (disk : Option Value) : Option DictValue :=
  disk.bind Value.getIfDict

/-- The store, its file and the replies posted to the UI sequence, the oldest first. -/
structure Session where
  store : WorkspaceStore
  disk : Option Value
  replies : List (Option DictValue) := []

/-- The calls that clients make; `Init` and `OnInitData` are not among them. -/
def StoreOp.byClient : StoreOp → Bool
  | .init | .onInitData _ => false
  | _ => true

/-- A step of a session. -/
inductive SessionEvent where
  | call (op : StoreOp)
  | runFile
  | deliver

/-- What a task of the file runner leaves on disk; a write succeeds. -/
def FileTask.effect (disk : Option Value) : FileTask → Option Value
  | .read => disk
  | .write data => some (.dict data)

/-- A session after `Init`. -/
def Session.start (disk : Option Value) : Session where
  store := WorkspaceStore.init {}
  disk := disk

/-- Nothing that was posted is left to run. -/
def Session.Quiescent (s : Session) : Prop :=
  s.store.fileTasks = [] ∧ s.replies = []

/-- The file once the posted tasks have run. -/
def Session.eventualDisk (s : Session) : Option Value :=
  s.store.fileTasks.foldl FileTask.effect s.disk

/-- A call that posts a write. -/
def StoreOp.Saves (s : WorkspaceStore) : StoreOp → Prop
  | .create .. | .flush => True
  | .rename id .. | .delete id => id ∈ s.workspaces
  | .update ws _ => ws.id ∈ s.workspaces
  | .init | .onInitData _ => False

/-- A step that posts a write. -/
def Session.Saves (s : Session) : SessionEvent → Prop
  | .call op => op.Saves s.store
  | _ => False

/-- A step of the trace posts a write. -/
def Saved (tr : List (Session × SessionEvent)) : Prop :=
  ∃ p ∈ tr, p.1.Saves p.2

/-- When nothing is left to run, the eventual file is the file. -/
lemma Session.Quiescent.eventualDisk {s : Session} (q : s.Quiescent) : s.eventualDisk = s.disk := by
  simp [Session.eventualDisk, q.1]

/-- A write at the end of the queue is what will be on disk. -/
lemma eventualDisk_of_write {s : Session} {data : DictValue} {tasks : List FileTask}
    (h : s.store.fileTasks = tasks ++ [.write data]) : s.eventualDisk = some (.dict data) := by
  rw [Session.eventualDisk, h, List.foldl_append]
  rfl

/-- A run has saved when it had, or its last step does. -/
lemma Saved.snoc {tr : List (Session × SessionEvent)} {s : Session} {e : SessionEvent} :
    Saved (tr ++ [(s, e)]) ↔ Saved tr ∨ s.Saves e := by
  simp [Saved, or_and_right, exists_or]

section
variable [TimeLib]

/-- One step of a session. -/
def Session.step (s : Session) : SessionEvent → Option Session
  | .call op => if op.byClient then some { s with store := s.store.apply op } else none
  | .runFile =>
    match s.store.fileTasks with
    | [] => none
    | task :: tasks =>
      let s' := { s with store := { s.store with fileTasks := tasks }, disk := task.effect s.disk }
      match task with
      | .read => some { s' with replies := s.replies ++ [readWorkspacesFile s.disk] }
      | .write _ => some s'
  | .deliver =>
    match s.replies with
    | [] => none
    | dict :: replies => some { s with store := s.store.onInitData dict, replies := replies }

/-- The list on disk is the serialization of the map in memory. -/
def Session.Durable (s : Session) : Prop :=
  storedList (readWorkspacesFile s.disk) = serialize s.store.workspaces

/-! ## Writes -/

/-- A call that saves posts a write of the map it leaves. -/
lemma apply_saves {s : WorkspaceStore} {op : StoreOp} (h : op.Saves s) :
    (s.apply op).fileTasks = s.fileTasks ++ [.write (snapshot (s.apply op).workspaces)] := by
  cases op with
  | create ws newId newSeed now => rfl
  | rename id newName now =>
    obtain ⟨ws, hws⟩ := KeyedMap.mem_iff_exists_get.mp h
    simp [WorkspaceStore.apply, WorkspaceStore.updateWorkspaceName, hws, WorkspaceStore.saveToDisk]
  | update ws now =>
    obtain ⟨old, hold⟩ := KeyedMap.mem_iff_exists_get.mp h
    simp [WorkspaceStore.apply, WorkspaceStore.updateWorkspace, hold, WorkspaceStore.saveToDisk]
  | delete id =>
    obtain ⟨ws, hws⟩ := KeyedMap.mem_iff_exists_get.mp h
    simp [WorkspaceStore.apply, WorkspaceStore.deleteWorkspace, hws, WorkspaceStore.saveToDisk]
  | flush => rfl
  | init | onInitData => cases h

/-- A call of a client that does not save changes nothing. -/
lemma apply_of_not_saves {s : WorkspaceStore} {op : StoreOp} (client : op.byClient)
    (h : ¬ op.Saves s) : s.apply op = s := by
  cases op with
  | create => cases h trivial
  | rename id newName now =>
    have absent := KeyedMap.get_eq_none_iff.mpr h
    simp only [WorkspaceStore.apply, WorkspaceStore.updateWorkspaceName, absent]
  | update ws now =>
    have absent := KeyedMap.get_eq_none_iff.mpr h
    simp only [WorkspaceStore.apply, WorkspaceStore.updateWorkspace, absent]
  | delete id =>
    have absent := KeyedMap.get_eq_none_iff.mpr h
    simp only [WorkspaceStore.apply, WorkspaceStore.deleteWorkspace, absent]
  | flush => cases h trivial
  | init | onInitData => cases client

/-! ## What a step does -/

/-- A call of a client posts a write of the map it leaves, or else it changes nothing. -/
lemma step_call {s s' : Session} {op : StoreOp} (st : s.step (.call op) = some s') :
    (op.Saves s.store ∧ s'.replies = s.replies ∧ s'.disk = s.disk ∧
      s'.store.fileTasks = s.store.fileTasks ++ [.write (snapshot s'.store.workspaces)]) ∨
    (¬ op.Saves s.store ∧ s' = s) := by
  obtain ⟨client, ⟨⟩⟩ := Option.ite_none_right_eq_some.mp st
  by_cases h : op.Saves s.store
  · exact .inl ⟨h, rfl, rfl, apply_saves h⟩
  · refine .inr ⟨h, ?_⟩
    rw [apply_of_not_saves client h]

/-- The file runner takes its oldest task; a read replies with what it finds. -/
lemma step_runFile {s s' : Session} (st : s.step .runFile = some s') :
    ∃ task tasks, s.store.fileTasks = task :: tasks ∧ s'.store = { s.store with fileTasks := tasks } ∧
      s'.disk = task.effect s.disk ∧
      ((task = .read ∧ s'.replies = s.replies ++ [readWorkspacesFile s.disk]) ∨
        (task ≠ .read ∧ s'.replies = s.replies)) := by
  cases h : s.store.fileTasks with
  | nil => simp [Session.step, h] at st
  | cons task tasks =>
    refine ⟨task, tasks, rfl, ?_⟩
    cases task with
    | read =>
      simp only [Session.step, h, Option.some.injEq] at st
      subst st
      exact ⟨rfl, rfl, .inl ⟨rfl, rfl⟩⟩
    | write data =>
      simp only [Session.step, h, Option.some.injEq] at st
      subst st
      exact ⟨rfl, rfl, .inr ⟨by simp, rfl⟩⟩

/-- The first reply is delivered. -/
lemma step_deliver {s s' : Session} (st : s.step .deliver = some s') :
    ∃ dict replies, s.replies = dict :: replies ∧
      s' = { s with store := s.store.onInitData dict, replies := replies } := by
  cases h : s.replies with
  | nil => simp [Session.step, h] at st
  | cons dict replies =>
    simp only [Session.step, h, Option.some.injEq] at st
    exact ⟨dict, replies, rfl, st.symm⟩

/-- A file task changes nothing about what will be on the disk. -/
lemma eventualDisk_runFile {s s' : Session} (st : s.step .runFile = some s') :
    s'.eventualDisk = s.eventualDisk := by
  obtain ⟨task, tasks, hs, hs', disk, -⟩ := step_runFile st
  rw [Session.eventualDisk, Session.eventualDisk, hs, hs', disk]
  rfl

/-- Nor does a delivery. -/
lemma eventualDisk_deliver {s s' : Session} (st : s.step .deliver = some s') :
    s'.eventualDisk = s.eventualDisk := by
  obtain ⟨dict, replies, -, rfl⟩ := step_deliver st
  rw [Session.eventualDisk, Session.eventualDisk, WorkspaceStore.onInitData_fileTasks]

/-! ## Loading what was saved -/

/-- The list of workspaces in a dictionary that was saved. -/
lemma storedList_snapshot (m : WorkspaceMap) : storedList (some (snapshot m)) = serialize m := by
  have nd : ([(kVersionKey, some (Value.integer kFileVersion)),
      (kWorkspacesKey, some (.list (serialize m)))].map Prod.fst).Nodup := by
    show List.Nodup [kVersionKey, kWorkspacesKey]
    decide
  have found : DictValue.findList (snapshot m) kWorkspacesKey = some (serialize m) := by
    rw [DictValue.findList, snapshot, DictValue.find_ofFields nd]
    rfl
  rw [storedList, Option.bind_some, found, Option.getD_some]

/-- The records read back from a list that was saved. -/
lemma records_serialize (m : WorkspaceMap) :
    records (serialize m) = m.toList.map fun p => p.2.persisted := by
  unfold records serialize
  rw [List.filterMap_map, ← List.filterMap_eq_map]
  congr 1
  funext p
  exact congrArg some p.2.fromDict_toDict

/-- Each workspace is stored under its id. -/
def KeyId (m : WorkspaceMap) : Prop :=
  ∀ (id : String) (ws : Workspace), m[id]? = some ws → ws.id = id

/-- Every call keeps the ids as keys. -/
lemma KeyId.apply {s : WorkspaceStore} (hk : KeyId s.workspaces) (op : StoreOp) :
    KeyId (s.apply op).workspaces := by
  intro k w hw
  cases op with
  | create ws newId newSeed now =>
    rw [WorkspaceStore.apply, WorkspaceStore.createWorkspace_get] at hw
    split at hw
    case isTrue e =>
      cases hw
      exact e
    case isFalse => exact hk k w hw
  | rename id newName now =>
    rw [WorkspaceStore.apply, WorkspaceStore.updateWorkspaceName_get] at hw
    split at hw
    case isTrue =>
      obtain ⟨old, hold, rfl⟩ := Option.map_eq_some_iff.mp hw
      exact hk k old hold
    case isFalse => exact hk k w hw
  | update ws now =>
    rw [WorkspaceStore.apply, WorkspaceStore.updateWorkspace_get] at hw
    split at hw
    case isTrue e =>
      obtain ⟨old, -, rfl⟩ := Option.map_eq_some_iff.mp hw
      exact e
    case isFalse => exact hk k w hw
  | delete id =>
    rw [WorkspaceStore.apply, WorkspaceStore.deleteWorkspace_get] at hw
    split at hw
    case isTrue => cases hw
    case isFalse => exact hk k w hw
  | flush | init => exact hk k w hw
  | onInitData dict =>
    rw [WorkspaceStore.apply, WorkspaceStore.onInitData_get] at hw
    obtain hw | ⟨-, hw⟩ := Option.or_eq_some_iff.mp hw
    · exact hk k w hw
    · exact supplied_id hw

/-- In a session every workspace is stored under its id. -/
lemma keyId_run {disk0 : Option Value} {s : Session} {tr}
    (r : Run Session.step (Session.start disk0) tr s) : KeyId s.store.workspaces := by
  refine r.invariant (I := fun s => KeyId s.store.workspaces) (fun {u e v} hk st => ?_) ?_
  · cases e with
    | call op =>
      obtain ⟨-, ⟨⟩⟩ := Option.ite_none_right_eq_some.mp st
      exact hk.apply op
    | runFile =>
      obtain ⟨task, tasks, -, hv, -⟩ := step_runFile st
      rwa [hv]
    | deliver =>
      obtain ⟨dict, replies, -, rfl⟩ := step_deliver st
      exact hk.apply (.onInitData dict)
  · intro id ws h
    simp [Session.start, WorkspaceStore.init] at h

/-- An empty map takes the list as it is. -/
lemma onInitData_of_empty {s : WorkspaceStore} (h : s.workspaces = ∅) (dict : Option DictValue) :
    (s.onInitData dict).workspaces = loadFast ∅ (storedList dict) := by
  unfold WorkspaceStore.onInitData storedList
  cases dict with
  | none => simp [h, loadFast, records]
  | some dict =>
    simp only [Option.bind_some]
    cases DictValue.findList dict kWorkspacesKey with
    | none => simp [h, loadFast, records]
    | some list => simp [h]

/-- A list that was written for a map is loaded as the records of the map, as persisted. -/
lemma loadFast_serialize {m : WorkspaceMap} (hk : KeyId m) (k : String) :
    (loadFast ∅ (serialize m))[k]? = m[k]?.map Workspace.persisted := by
  have ids : (records (serialize m)).map (·.id) = m.keys := by
    rw [records_serialize, List.map_map, ← Std.ExtTreeMap.map_fst_toList_eq_keys]
    apply List.map_congr_left
    intro p hp
    exact hk p.1 p.2 (Std.ExtTreeMap.mem_toList_iff_getElem?_eq_some.mp hp)
  have nd : ((records (serialize m)).reverse.map (·.id)).Nodup := by
    rw [List.map_reverse, ids]
    exact (List.reverse_perm _).nodup_iff.mpr Std.ExtTreeMap.nodup_keys
  rw [loadFast, KeyedMap.get_foldl_insert, Std.ExtTreeMap.getElem?_empty, Option.or_none]
  ext w
  rw [KeyedMap.find?_eq_some_iff nd, List.mem_reverse, records_serialize, Option.map_eq_some_iff,
    List.mem_map]
  refine ⟨?_, ?_⟩
  · rintro ⟨⟨p, hp, rfl⟩, rfl⟩
    have get := Std.ExtTreeMap.mem_toList_iff_getElem?_eq_some.mp hp
    have id : p.2.persisted.id = p.1 := hk p.1 p.2 get
    exact ⟨p.2, id ▸ get, rfl⟩
  · rintro ⟨ws, get, rfl⟩
    exact ⟨⟨(k, ws), Std.ExtTreeMap.mem_toList_iff_getElem?_eq_some.mpr get, rfl⟩, hk k ws get⟩

end

end PureCloak.Profiles
