import PureCloak.Launcher.World
import PureCloak.WebUI.Handler

/-!
# WebUI messages that create, delete, launch and stop workspaces

The other handlers of `PureCloakHandler` on the store and on `RunningWorkspaceManager`, single and batch. As in
`Handler`, a message is a list of values, `none` is a failed `CHECK`, and what the callback is
resolved with is returned; a launch resolves it later, when `Start` answers.
-/

namespace PureCloak.WebUI
open PureCloak.Base PureCloak.Profiles PureCloak.Launcher

/-- `static_cast<Workspace::Type>`; a number that is no enumerator has no type. -/
def workspaceTypeOfInt (i : Int32) : Option WorkspaceType :=
  if i = 0 then some .kNormal else if i = 1 then some .kFingerprint else none

/-- The workspace that `HandleCreateWorkspace` makes of a message. -/
def workspaceOfMessage [TimeLib] (args : ListValue) (drawn : Drawn) : Option Workspace := do
  match ← args[1]? with
  | .string name =>
    -- the old format, with a name and a type
    let type ← workspaceTypeOfInt (← (← args[2]?).getIfInt)
    return Workspace.createBasic name type drawn.id drawn.seed drawn.now
  | v =>
    let ws := Workspace.fromDict (← v.getIfDict)
    let ws := if ws.id = "" then { ws with id := drawn.id } else ws
    let ws := if ws.fingerprintSeed = 0 then { ws with fingerprintSeed := drawn.seed.seed } else ws
    return { ws with createdAt := drawn.now, updatedAt := drawn.now }

/-- `HandleCreateWorkspace`; `drawn` is what it draws itself and `stored` what the store draws. -/
def handleCreateWorkspace [TimeLib] (store : WorkspaceStore) (args : ListValue)
    (drawn stored : Drawn) : Option (WorkspaceStore × Value × Value) := do
  let ws ← workspaceOfMessage args drawn
  let (store, created) := store.createWorkspace ws stored.id stored.seed stored.now
  return (store, ← args[0]?, .dict created.toDict)

/-- One round of the loop of `HandleBatchDeleteWorkspaces`, on the store and the number deleted. -/
def deleteCounted [TimeLib] (acc : WorkspaceStore × Nat) (id : String) : WorkspaceStore × Nat :=
  let (store, success) := acc.1.deleteWorkspace id
  (store, if success then acc.2 + 1 else acc.2)

/-- `HandleBatchDeleteWorkspaces`. -/
def handleBatchDeleteWorkspaces [TimeLib] (store : WorkspaceStore) (args : ListValue) :
    Option (WorkspaceStore × Value × Value) := do
  let ids ← (← args[1]?).getIfList
  let (store, deleted) := (ids.filterMap Value.getIfString).foldl deleteCounted (store, 0)
  return (store, ← args[0]?,
    .dict (DictValue.ofFields [("deleted", some (.integer (Int32.ofNat deleted)))]))

/-- `HandleLaunchWorkspace`. -/
def handleLaunchWorkspace (env : Env) (store : WorkspaceStore) (w : World) (args : ListValue) :
    Option (World × Option (Value × Value)) := do
  let wsId ← (← args[1]?).getIfString
  match store.getWorkspace wsId with
  | none =>
    let error := DictValue.ofFields [("success", some (.boolean false)),
      ("error", some (.string "Workspace not found"))]
    return (w, some (← args[0]?, .dict error))
  | some ws =>
    let _callbackId ← (← args[0]?).getIfString
    return (World.start env w ws, none)

/-- `HandleStopWorkspace`. -/
def handleStopWorkspace (w : World) (args : ListValue) : Option (World × Value × Value) := do
  let wsId ← (← args[1]?).getIfString
  return (w.stop wsId, ← args[0]?,
    .dict (DictValue.ofFields [("status", some (.string "stopped"))]))

/-- `HandleBatchLaunchWorkspaces`; it starts nothing. -/
def handleBatchLaunchWorkspaces (store : WorkspaceStore) (args : ListValue) :
    Option (Value × Value) := do
  let ids ← (← args[1]?).getIfList
  let known := (ids.filterMap Value.getIfString).filter fun id => (store.getWorkspace id).isSome
  return (← args[0]?, .list (known.map fun id => .dict (DictValue.ofFields
    [("id", some (.string id)), ("launched", some (.boolean true))])))

/-- `HandleBatchStopWorkspaces`. -/
def handleBatchStopWorkspaces (w : World) (args : ListValue) : Option (World × Value × Value) := do
  let ids ← (← args[1]?).getIfList
  let strings := ids.filterMap Value.getIfString
  return (strings.foldl World.stop w, ← args[0]?,
    .dict (DictValue.ofFields [("stopped", some (.integer (Int32.ofNat strings.length)))]))

/-- The loop leaves the workspaces whose ids are not in the list. -/
lemma foldl_deleteCounted_get [TimeLib] (ids : List String) (acc : WorkspaceStore × Nat) (k : String) :
    (ids.foldl deleteCounted acc).1.workspaces[k]? =
      if k ∈ ids then none else acc.1.workspaces[k]? := by
  induction ids generalizing acc with
  | nil => simp
  | cons id ids ih =>
    rw [List.foldl_cons, ih, deleteCounted, WorkspaceStore.deleteWorkspace_get]
    by_cases mem : k ∈ ids
    · simp [mem]
    · simp only [mem, List.mem_cons, or_false, if_false, eq_comm]

end PureCloak.WebUI
