import PureCloak.Library.Machine
import PureCloak.Profiles.Store

/-!
# Seeds and locked fields along the runs of a store

Two properties of the store over whole runs of calls, with file contents that are arbitrary. `SeedsSet`
says that no stored workspace has the seed 0, which stands for "no seed" and switches the protection
script off. `TypesLocked` relates a state to the next one: a workspace that stays keeps its type and the
time it was created.

For each of them the steps that keep it are characterized by a guard on the call and the state before
it (`SeedGuard`, `LockGuard`), and the runs that keep it are the ones whose calls all meet the guard.
-/

namespace PureCloak.Profiles
open PureCloak.Base
open Machine

/-! ## Seeds -/

/-- A workspace that is created has a seed. -/
lemma created_seed (ws : Workspace) (newId : String) (newSeed : GeneratedSeed) (now : Time) :
    (WorkspaceStore.created ws newId newSeed now).fingerprintSeed ≠ 0 := by
  have ne := newSeed.ne_zero
  unfold WorkspaceStore.created
  dsimp only
  split <;> split <;> simp_all

section
variable [TimeLib]

/-- Every stored workspace has a seed. -/
def SeedsSet (s : WorkspaceStore) : Prop :=
  ∀ (id : String) (ws : Workspace), s.workspaces[id]? = some ws → ws.fingerprintSeed ≠ 0

/-- The calls that leave no workspace without a seed: a full update brings a seed for the workspace it
replaces, and so does a file for the workspaces it adds. -/
def SeedGuard (s : WorkspaceStore) : StoreOp → Prop
  | .update ws _ => ws.id ∈ s.workspaces → ws.fingerprintSeed ≠ 0
  | .onInitData dict =>
    ∀ id ∉ s.workspaces, ∀ ws,
      supplied s.workspaces (storedList dict) id = some ws → ws.fingerprintSeed ≠ 0
  | _ => True

/-- A created workspace has a seed, whatever the caller passed. -/
lemma createWorkspace_seedsSet {s : WorkspaceStore} (h : SeedsSet s) (ws : Workspace)
    (newId : String) (newSeed : GeneratedSeed) (now : Time) :
    SeedsSet (s.createWorkspace ws newId newSeed now).1 := by
  intro k w hw
  rw [WorkspaceStore.createWorkspace_get] at hw
  split at hw
  case isTrue =>
    cases hw
    exact created_seed ws newId newSeed now
  case isFalse => exact h k w hw

/-- A new name changes no seed. -/
lemma updateWorkspaceName_seedsSet {s : WorkspaceStore} (h : SeedsSet s) (id newName : String)
    (now : Time) : SeedsSet (s.updateWorkspaceName id newName now).1 := by
  intro k w hw
  rw [WorkspaceStore.updateWorkspaceName_get] at hw
  split at hw
  case isTrue =>
    obtain ⟨old, hold, rfl⟩ := Option.map_eq_some_iff.mp hw
    exact h k old hold
  case isFalse => exact h k w hw

/-- A full update keeps the seeds exactly when it brings one for a workspace that is there. -/
lemma updateWorkspace_seedsSet {s : WorkspaceStore} (h : SeedsSet s) (ws : Workspace) (now : Time) :
    SeedsSet (s.updateWorkspace ws now).1 ↔ (ws.id ∈ s.workspaces → ws.fingerprintSeed ≠ 0) := by
  constructor
  · intro hs hin
    obtain ⟨old, hold⟩ := KeyedMap.mem_iff_exists_get.mp hin
    have get := WorkspaceStore.updateWorkspace_get s ws now ws.id
    rw [if_pos rfl, hold] at get
    exact hs ws.id { ws with type := old.type, createdAt := old.createdAt, updatedAt := now } get
  · intro hseed k w hw
    rw [WorkspaceStore.updateWorkspace_get] at hw
    split at hw
    case isTrue e =>
      obtain ⟨old, hold, rfl⟩ := Option.map_eq_some_iff.mp hw
      exact hseed (KeyedMap.mem_iff_exists_get.mpr ⟨old, e ▸ hold⟩)
    case isFalse => exact h k w hw

/-- A deletion changes no seed. -/
lemma deleteWorkspace_seedsSet {s : WorkspaceStore} (h : SeedsSet s) (id : String) :
    SeedsSet (s.deleteWorkspace id).1 := by
  intro k w hw
  rw [WorkspaceStore.deleteWorkspace_get] at hw
  split at hw
  case isTrue => cases hw
  case isFalse => exact h k w hw

/-- A load keeps the seeds exactly when the file has one for each workspace that it adds. -/
lemma onInitData_seedsSet {s : WorkspaceStore} (h : SeedsSet s) (dict : Option DictValue) :
    SeedsSet (s.onInitData dict) ↔ ∀ id ∉ s.workspaces, ∀ ws,
      supplied s.workspaces (storedList dict) id = some ws → ws.fingerprintSeed ≠ 0 := by
  constructor
  · intro hs id nin ws hws
    apply hs id ws
    rw [WorkspaceStore.onInitData_get, KeyedMap.get_eq_none_iff.mpr nin, Option.none_or, hws]
  · intro hseed k w hw
    rw [WorkspaceStore.onInitData_get] at hw
    cases e : s.workspaces[k]? with
    | none =>
      rw [e, Option.none_or] at hw
      exact hseed k (KeyedMap.get_eq_none_iff.mp e) w hw
    | some old =>
      rw [e, Option.some_or] at hw
      cases hw
      exact h k w e

/-- A call keeps the seeds exactly when it meets the guard. -/
lemma step_seedsSet {s t : WorkspaceStore} {op : StoreOp} (h : SeedsSet s)
    (st : s.step op = some t) : SeedsSet t ↔ SeedGuard s op := by
  cases st
  cases op with
  | create ws newId newSeed now =>
    exact iff_of_true (createWorkspace_seedsSet h ws newId newSeed now) trivial
  | rename id newName now => exact iff_of_true (updateWorkspaceName_seedsSet h id newName now) trivial
  | update ws now => exact updateWorkspace_seedsSet h ws now
  | delete id => exact iff_of_true (deleteWorkspace_seedsSet h id) trivial
  | flush => exact iff_of_true h trivial
  | init => exact iff_of_true h trivial
  | onInitData dict => exact onInitData_seedsSet h dict

/-- The runs of a store in which every stored workspace has a seed, in every state, are the ones in
which every full update and every file brings one. -/
theorem seeds_set_iff {s : WorkspaceStore} {tr} (r : Run WorkspaceStore.step {} tr s) :
    Always SeedsSet tr s ↔ Guarded SeedGuard tr := by
  apply r.always_iff (I := fun _ => True)
  · exact fun _ _ => trivial
  · exact fun _ h st => step_seedsSet h st
  · trivial
  · intro id ws h
    simp at h

end

/-- A workspace is created and then updated by a form that carries no seed. -/
def seedless : List StoreOp := [
  .create { name := "w" } "a" ⟨12345, by decide, by decide⟩ ⟨1⟩,
  .update (Workspace.fromDict [(kIdKey, .string "a"), (kNameKey, .string "w")]) ⟨2⟩]

/-- One workspace is created. -/
theorem seeds_set_iff_create :
    Always SeedsSet (trace WorkspaceStore.step {} (seedless.take 1))
      (WorkspaceStore.apply {} (.create { name := "w" } "a" ⟨12345, by decide, by decide⟩ ⟨1⟩)) := by
  apply (seeds_set_iff (Run.of_exec rfl)).mpr
  simp [Guarded, seedless, trace, WorkspaceStore.step, SeedGuard]

/-- After that update the workspace has no seed, so not every run keeps the seeds. -/
theorem seeds_set_fails :
    ¬ ∀ tr s, Run WorkspaceStore.step {} tr s → Always SeedsSet tr s := by
  intro h
  have r : Run WorkspaceStore.step {} (trace WorkspaceStore.step {} seedless) _ := Run.of_exec rfl
  have bad := (h _ _ r).2 "a"
  exact bad _ (by rfl) (by decide)

/-! ## Locked fields -/

/-- Every workspace that stays from one state to the next keeps its type and its time of creation. -/
def TypesLocked (s t : WorkspaceStore) : Prop :=
  ∀ (id : String) (old ws : Workspace), s.workspaces[id]? = some old → t.workspaces[id]? = some ws →
    ws.type = old.type ∧ ws.createdAt = old.createdAt

/-- The same workspaces have the same types. -/
lemma TypesLocked.of_eq {s t : WorkspaceStore} (e : t.workspaces = s.workspaces) :
    TypesLocked s t := by
  intro k old w hold hw
  rw [e, hold] at hw
  cases hw
  exact ⟨rfl, rfl⟩

/-- A workspace is created with the type that it is given. -/
lemma created_type (ws : Workspace) (newId : String) (newSeed : GeneratedSeed) (now : Time) :
    (WorkspaceStore.created ws newId newSeed now).type = ws.type := by
  unfold WorkspaceStore.created
  dsimp only
  split <;> split <;> rfl

section
variable [TimeLib]

/-- The calls that keep the locked fields: `CreateWorkspace` is not used on a stored id, unless with the
type and at the time that are stored. -/
def LockGuard (s : WorkspaceStore) : StoreOp → Prop
  | .create ws newId newSeed now =>
    ∀ old, s.workspaces[(WorkspaceStore.created ws newId newSeed now).id]? = some old →
      ws.type = old.type ∧ now = old.createdAt
  | _ => True

/-- `CreateWorkspace` keeps the locked fields exactly when its id is new or they are unchanged. -/
lemma createWorkspace_typesLocked (s : WorkspaceStore) (ws : Workspace) (newId : String)
    (newSeed : GeneratedSeed) (now : Time) :
    TypesLocked s (s.createWorkspace ws newId newSeed now).1 ↔
      ∀ old, s.workspaces[(WorkspaceStore.created ws newId newSeed now).id]? = some old →
        ws.type = old.type ∧ now = old.createdAt := by
  constructor
  · intro h old hold
    have get := WorkspaceStore.createWorkspace_get s ws newId newSeed now
      (WorkspaceStore.created ws newId newSeed now).id
    rw [if_pos rfl] at get
    obtain ⟨ty, at_⟩ := h _ old _ hold get
    exact ⟨created_type ws newId newSeed now ▸ ty, at_⟩
  · intro h k old w hold hw
    rw [WorkspaceStore.createWorkspace_get] at hw
    split at hw
    case isTrue e =>
      cases hw
      subst e
      obtain ⟨ty, at_⟩ := h old hold
      exact ⟨(created_type ws newId newSeed now).trans ty, at_⟩
    case isFalse =>
      cases hold.symm.trans hw
      exact ⟨rfl, rfl⟩

/-- A new name changes no type. -/
lemma updateWorkspaceName_typesLocked (s : WorkspaceStore) (id newName : String) (now : Time) :
    TypesLocked s (s.updateWorkspaceName id newName now).1 := by
  intro k old w hold hw
  rw [WorkspaceStore.updateWorkspaceName_get, hold] at hw
  split at hw <;>
  · cases hw
    exact ⟨rfl, rfl⟩

/-- Nor does an update. -/
lemma updateWorkspace_typesLocked (s : WorkspaceStore) (ws : Workspace) (now : Time) :
    TypesLocked s (s.updateWorkspace ws now).1 := by
  intro k old w hold hw
  rw [WorkspaceStore.updateWorkspace_get, hold] at hw
  split at hw <;>
  · cases hw
    exact ⟨rfl, rfl⟩

/-- A deleted workspace does not stay, and the others are not touched. -/
lemma deleteWorkspace_typesLocked (s : WorkspaceStore) (id : String) :
    TypesLocked s (s.deleteWorkspace id).1 := by
  intro k old w hold hw
  rw [WorkspaceStore.deleteWorkspace_get, hold] at hw
  split at hw
  case isTrue => cases hw
  case isFalse =>
    cases hw
    exact ⟨rfl, rfl⟩

/-- A load never replaces a workspace in memory. -/
lemma onInitData_typesLocked (s : WorkspaceStore) (dict : Option DictValue) :
    TypesLocked s (s.onInitData dict) := by
  intro k old w hold hw
  rw [WorkspaceStore.onInitData_get, hold, Option.some_or] at hw
  cases hw
  exact ⟨rfl, rfl⟩

/-- A call keeps the locked fields exactly when it meets the guard. -/
lemma step_typesLocked {s t : WorkspaceStore} {op : StoreOp} (st : s.step op = some t) :
    TypesLocked s t ↔ LockGuard s op := by
  cases st
  cases op with
  | create ws newId newSeed now => exact createWorkspace_typesLocked s ws newId newSeed now
  | rename id newName now => exact iff_of_true (updateWorkspaceName_typesLocked s id newName now) trivial
  | update ws now => exact iff_of_true (updateWorkspace_typesLocked s ws now) trivial
  | delete id => exact iff_of_true (deleteWorkspace_typesLocked s id) trivial
  | flush => exact iff_of_true (.of_eq rfl) trivial
  | init => exact iff_of_true (.of_eq rfl) trivial
  | onInitData dict => exact iff_of_true (onInitData_typesLocked s dict) trivial

/-- The runs of a store in which no workspace that stays changes its type or its time of creation are
the ones in which `CreateWorkspace` meets stored ids only with the stored type and time. -/
theorem types_locked_iff {s t : WorkspaceStore} {tr} (r : Run WorkspaceStore.step s tr t) :
    List.IsChain TypesLocked (states tr t) ↔ Guarded LockGuard tr :=
  r.chain_iff step_typesLocked

end

/-- The id of a stored workspace is passed to `CreateWorkspace` with another type. -/
def recreate : List StoreOp := [
  .create { id := "a", type := .kFingerprint } "b" ⟨12345, by decide, by decide⟩ ⟨1⟩,
  .create { id := "a", type := .kNormal } "c" ⟨12346, by decide, by decide⟩ ⟨2⟩]

/-- One workspace is created under its own id. -/
theorem types_locked_iff_create :
    List.IsChain TypesLocked (states (trace WorkspaceStore.step {} (recreate.take 1))
      (WorkspaceStore.apply {} (.create { id := "a", type := .kFingerprint } "b"
        ⟨12345, by decide, by decide⟩ ⟨1⟩))) := by
  apply (types_locked_iff (Run.of_exec rfl)).mpr
  simp [Guarded, recreate, trace, WorkspaceStore.step, LockGuard]

/-- The second creation changes the type of the stored workspace. -/
theorem types_locked_fails :
    ¬ ∀ tr t, Run WorkspaceStore.step {} tr t → List.IsChain TypesLocked (states tr t) := by
  intro h
  have r : Run WorkspaceStore.step {} (trace WorkspaceStore.step {} recreate) _ := Run.of_exec rfl
  have chain := h _ _ r
  have last := (List.isChain_cons_cons.mp (List.isChain_cons_cons.mp chain).2).1
  exact absurd (last "a" _ _ (by rfl) (by rfl)).1 (by decide)

end PureCloak.Profiles
