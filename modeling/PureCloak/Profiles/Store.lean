import PureCloak.Library.KeyedMap
import PureCloak.Profiles.Codec

/-!
# The workspace store

`WorkspaceStore` of `workspace_store.cc` on the UI sequence: the map `workspaces_`, the flag
`initialized_` and the tasks posted to `file_task_runner_` that have not run yet. What the functions
read from outside (the clock, a fresh id, a fresh seed) are arguments. Observers are left out: they are
told of a change after it was made and saved.

`StoreOp` lists the calls the UI sequence makes on a store and `step` performs one. The lemmas say
what each call leaves in the map: `onInitData_get` for the loader, in both of its paths, and
`createWorkspace_get`, `updateWorkspaceName_get`, `updateWorkspace_get`, `deleteWorkspace_get` for
the others.
-/

namespace PureCloak.Profiles
open PureCloak.Base

/-- `std::map<std::string, Workspace>`. -/
abbrev WorkspaceMap := Std.ExtTreeMap String Workspace

def kVersionKey := "version"
def kWorkspacesKey := "workspaces"
def kFileVersion : Int32 := 1

/-- A task of the file runner: `ReadWorkspacesFile`, or `WriteWorkspacesFile` of a dictionary. -/
inductive FileTask where
  | read
  | write (data : DictValue)

/-- `WorkspaceStore`; `fileTasks` are the tasks posted to `file_task_runner_`, the oldest first. -/
structure WorkspaceStore where
  workspaces : WorkspaceMap := ∅
  initialized : Bool := false
  fileTasks : List FileTask := []

section
variable [TimeLib]

/-- The list of records that `SaveToDisk` writes for a map, in the order of the keys. -/
def serialize (m : WorkspaceMap) : ListValue :=
  m.toList.map fun p => .dict p.2.toDict

/-- The dictionary that `SaveToDisk` writes for a map. -/
def snapshot (m : WorkspaceMap) : DictValue :=
  DictValue.ofFields [(kVersionKey, some (.integer kFileVersion)),
    (kWorkspacesKey, some (.list (serialize m)))]

/-- The records of a list read from disk; items that are no dictionaries are passed over. -/
def records (list : ListValue) : List Workspace :=
  list.filterMap fun item => item.getIfDict.map Workspace.fromDict

/-- The loop of the fast path of `OnInitData`: a later record of an id replaces an earlier one. -/
def loadFast (m : WorkspaceMap) (list : ListValue) : WorkspaceMap :=
  (records list).foldl (fun m ws => m.insert ws.id ws) m

/-- The loop of the merge path of `OnInitData`: `try_emplace` keeps the record that is there. -/
def loadMerge (m : WorkspaceMap) (list : ListValue) : WorkspaceMap :=
  (records list).foldl (fun m ws => m.insertIfNew ws.id ws) m

namespace WorkspaceStore

/-- `WorkspaceStore::Init`. -/
def init (s : WorkspaceStore) : WorkspaceStore :=
  { s with fileTasks := s.fileTasks ++ [.read] }

/-- `WorkspaceStore::OnInitData`. -/
def onInitData (s : WorkspaceStore) (dict : Option DictValue) : WorkspaceStore :=
  let s := { s with initialized := true }
  match dict with
  | none => s
  | some dict =>
    match DictValue.findList dict kWorkspacesKey with
    | none => s
    | some list =>
      if s.workspaces.isEmpty then { s with workspaces := loadFast s.workspaces list }
      else { s with workspaces := loadMerge s.workspaces list }

/-- `WorkspaceStore::SaveToDisk`. -/
def saveToDisk (s : WorkspaceStore) : WorkspaceStore :=
  { s with fileTasks := s.fileTasks ++ [.write (snapshot s.workspaces)] }

/-- `WorkspaceStore::Flush`. -/
def flush (s : WorkspaceStore) : WorkspaceStore :=
  s.saveToDisk

/-- The record that `CreateWorkspace` stores. -/
def created (ws : Workspace) (newId : String) (newSeed : GeneratedSeed) (now : Time) : Workspace :=
  let ws := if ws.id = "" then { ws with id := newId } else ws
  let ws := if ws.fingerprintSeed = 0 then { ws with fingerprintSeed := newSeed.seed } else ws
  { ws with createdAt := now, updatedAt := now }

/-- `WorkspaceStore::CreateWorkspace`. -/
def createWorkspace (s : WorkspaceStore) (ws : Workspace) (newId : String)
    (newSeed : GeneratedSeed) (now : Time) : WorkspaceStore × Workspace :=
  let ws := created ws newId newSeed now
  (({ s with workspaces := s.workspaces.insert ws.id ws }).saveToDisk, ws)

/-- `WorkspaceStore::GetWorkspace`. -/
def getWorkspace (s : WorkspaceStore) (id : String) : Option Workspace :=
  s.workspaces[id]?

/-- `WorkspaceStore::GetAllWorkspaces`. -/
def getAllWorkspaces (s : WorkspaceStore) : List Workspace :=
  s.workspaces.toList.map Prod.snd

/-- `WorkspaceStore::UpdateWorkspace` of a name. -/
def updateWorkspaceName (s : WorkspaceStore) (id newName : String) (now : Time) :
    WorkspaceStore × Bool :=
  match s.workspaces[id]? with
  | none => (s, false)
  | some ws =>
    let ws := { ws with name := newName, updatedAt := now }
    (({ s with workspaces := s.workspaces.insert id ws }).saveToDisk, true)

/-- `WorkspaceStore::DeleteWorkspace`. -/
def deleteWorkspace (s : WorkspaceStore) (id : String) : WorkspaceStore × Bool :=
  match s.workspaces[id]? with
  | none => (s, false)
  | some _ => (({ s with workspaces := s.workspaces.erase id }).saveToDisk, true)

/-- `WorkspaceStore::UpdateWorkspace` of a whole record. -/
def updateWorkspace (s : WorkspaceStore) (workspace : Workspace) (now : Time) :
    WorkspaceStore × Bool :=
  match s.workspaces[workspace.id]? with
  | none => (s, false)
  | some old =>
    let ws := { workspace with type := old.type, createdAt := old.createdAt, updatedAt := now }
    (({ s with workspaces := s.workspaces.insert workspace.id ws }).saveToDisk, true)

/-- `WorkspaceStore::VerifyType`. -/
def verifyType (s : WorkspaceStore) (id : String) (type : WorkspaceType) : Bool :=
  match s.workspaces[id]? with
  | none => false
  | some ws => ws.type == type

end WorkspaceStore

/-- A call on the store, with what it reads from outside. -/
inductive StoreOp where
  | create (ws : Workspace) (newId : String) (newSeed : GeneratedSeed) (now : Time)
  | rename (id newName : String) (now : Time)
  | update (ws : Workspace) (now : Time)
  | delete (id : String)
  | flush
  | init
  | onInitData (dict : Option DictValue)

/-- The store after a call. -/
def WorkspaceStore.apply (s : WorkspaceStore) : StoreOp → WorkspaceStore
  | .create ws newId newSeed now => (s.createWorkspace ws newId newSeed now).1
  | .rename id newName now => (s.updateWorkspaceName id newName now).1
  | .update ws now => (s.updateWorkspace ws now).1
  | .delete id => (s.deleteWorkspace id).1
  | .flush => s.flush
  | .init => s.init
  | .onInitData dict => s.onInitData dict

/-- The store as a machine on the UI sequence: every call is possible in every state. -/
def WorkspaceStore.step (s : WorkspaceStore) (op : StoreOp) : Option WorkspaceStore :=
  some (s.apply op)

/-! ## What a call leaves in the map -/

/-- The record that a loaded list supplies for an id: the last one on the fast path, which starts
from an empty map, and the first one on the merge path. -/
def supplied (m : WorkspaceMap) (list : ListValue) (id : String) : Option Workspace :=
  if m.isEmpty then (records list).reverse.find? (·.id = id)
  else (records list).find? (·.id = id)

/-- The list of workspaces that a reply of the read task carries; none is as good as an empty one. -/
def storedList (dict : Option DictValue) : ListValue :=
  (dict.bind (DictValue.findList · kWorkspacesKey)).getD []

/-- What is supplied for an id has this id. -/
lemma supplied_id {m : WorkspaceMap} {list : ListValue} {id : String} {ws : Workspace}
    (h : supplied m list id = some ws) : ws.id = id := by
  unfold supplied at h
  split at h
  all_goals simpa using List.find?_some h

/-- Nothing is supplied for an id exactly when no record of the list has it. -/
lemma supplied_eq_none_iff {m : WorkspaceMap} {list : ListValue} {id : String} :
    supplied m list id = none ↔ ∀ ws ∈ records list, ws.id ≠ id := by
  unfold supplied
  split <;> simp

namespace WorkspaceStore

/-- A load keeps the records in memory and takes the others from the list. -/
lemma onInitData_get (s : WorkspaceStore) (dict : Option DictValue) (k : String) :
    (s.onInitData dict).workspaces[k]? =
      s.workspaces[k]?.or (supplied s.workspaces (storedList dict) k) := by
  have nothing : supplied s.workspaces [] k = none := supplied_eq_none_iff.mpr (by simp [records])
  unfold onInitData storedList
  cases dict with
  | none => simp [nothing]
  | some dict =>
    simp only [Option.bind_some]
    cases DictValue.findList dict kWorkspacesKey with
    | none => simp [nothing]
    | some list =>
      simp only [Option.getD_some, supplied]
      split
      case isTrue e =>
        rw [loadFast, KeyedMap.get_foldl_insert]
        simp [Std.ExtTreeMap.isEmpty_iff.mp e]
      case isFalse => rw [loadMerge, KeyedMap.get_foldl_insertIfNew]

/-- Loading writes nothing. -/
lemma onInitData_fileTasks (s : WorkspaceStore) (dict : Option DictValue) :
    (s.onInitData dict).fileTasks = s.fileTasks := by
  dsimp only [onInitData]
  repeat' split
  all_goals rfl

/-- The map after a creation. -/
lemma createWorkspace_get (s : WorkspaceStore) (ws : Workspace) (newId : String)
    (newSeed : GeneratedSeed) (now : Time) (k : String) :
    (s.createWorkspace ws newId newSeed now).1.workspaces[k]? =
      if (created ws newId newSeed now).id = k then some (created ws newId newSeed now)
      else s.workspaces[k]? :=
  KeyedMap.get_insert _ _ _ _

/-- The map after a new name. -/
lemma updateWorkspaceName_get (s : WorkspaceStore) (id newName : String) (now : Time) (k : String) :
    (s.updateWorkspaceName id newName now).1.workspaces[k]? =
      if id = k then
        s.workspaces[k]?.map fun ws => { ws with name := newName, updatedAt := now }
      else s.workspaces[k]? := by
  cases h : s.workspaces[id]? with
  | none =>
    simp only [updateWorkspaceName, h]
    split
    case isTrue e => rw [← e, h, Option.map_none]
    case isFalse => rfl
  | some ws =>
    simp only [updateWorkspaceName, h, saveToDisk, KeyedMap.get_insert]
    split
    case isTrue e => rw [← e, h, Option.map_some]
    case isFalse => rfl

/-- The map after an update. -/
lemma updateWorkspace_get (s : WorkspaceStore) (ws : Workspace) (now : Time) (k : String) :
    (s.updateWorkspace ws now).1.workspaces[k]? =
      if ws.id = k then
        s.workspaces[k]?.map fun old =>
          { ws with type := old.type, createdAt := old.createdAt, updatedAt := now }
      else s.workspaces[k]? := by
  cases h : s.workspaces[ws.id]? with
  | none =>
    simp only [updateWorkspace, h]
    split
    case isTrue e => rw [← e, h, Option.map_none]
    case isFalse => rfl
  | some old =>
    simp only [updateWorkspace, h, saveToDisk, KeyedMap.get_insert]
    split
    case isTrue e => rw [← e, h, Option.map_some]
    case isFalse => rfl

/-- The map after a deletion. -/
lemma deleteWorkspace_get (s : WorkspaceStore) (id k : String) :
    (s.deleteWorkspace id).1.workspaces[k]? = if id = k then none else s.workspaces[k]? := by
  cases h : s.workspaces[id]? with
  | none =>
    simp only [deleteWorkspace, h]
    split
    case isTrue e => rw [← e, h]
    case isFalse => rfl
  | some ws => simp only [deleteWorkspace, h, saveToDisk, KeyedMap.get_erase]

end WorkspaceStore

end

end PureCloak.Profiles
