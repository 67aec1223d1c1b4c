import PureCloak.Profiles.Persistence

/-!
# What a load restores

Two results about `OnInitData`. A snapshot of a store, loaded into an empty one, gives the workspaces that the
store had, up to what is not persisted (`snapshot_restores`). A load that comes after calls of clients keeps what
they wrote; what they deleted it brings back, if the file still has it (`load_keeps_iff`).
-/

namespace PureCloak.Profiles
open PureCloak.Base
open Machine

section
variable [TimeLib]

/-! ## A snapshot is loaded -/

/-- A time, cut to milliseconds. -/
def truncated (t : Time) : Time :=
  ⟨t.us / 1000 * 1000⟩

/-- The text of a time is parsed as the time that it shows, which is in milliseconds. -/
def ParsesBack (t : Time) : Prop :=
  ¬ t.isNull → TimeLib.fromUTCString (timeToString t) = some (truncated t)

/-- What is left of a workspace on disk. -/
def Workspace.restored (ws : Workspace) : Workspace :=
  { ws with
    userDataDir := ""
    status := ""
    cdpUrl := ""
    createdAt := truncated ws.createdAt
    updatedAt := truncated ws.updatedAt }

/-- The ids of the records in a dictionary, item by item. -/
def listedIds (dict : DictValue) : List (Option String) :=
  (storedList (some dict)).map fun item => item.getIfDict.bind (DictValue.findString · kIdKey)

/-- The text of a time that is set is not empty. -/
lemma timeToString_ne_empty {t : Time} (h : ¬ t.isNull) : (timeToString t).isEmpty = false := by
  rw [timeToString, if_neg h]
  simp

/-- A time whose text is parsed back is read back, as far as the text has it. -/
lemma timeFromString_timeToString {t : Time} (h : ParsesBack t) :
    timeFromString (timeToString t) = truncated t := by
  by_cases null : t.isNull
  · obtain rfl : t = .null := by
      cases t
      simpa [Time.isNull, Time.null] using null
    rfl
  · rw [timeFromString, timeToString_ne_empty null, h null]
    rfl

/-- What is persisted of a workspace is what is restored, if its times are parsed back. -/
lemma Workspace.persisted_eq_restored {ws : Workspace} (created : ParsesBack ws.createdAt)
    (updated : ParsesBack ws.updatedAt) : ws.persisted = ws.restored := by
  rw [Workspace.persisted, timeFromString_timeToString created, timeFromString_timeToString updated,
    Workspace.restored]

/-- The id of a workspace is in its record. -/
lemma findString_id_toDict (ws : Workspace) : DictValue.findString ws.toDict kIdKey = some ws.id := by
  rw [DictValue.findString, Workspace.find_toDict]
  rfl

/-- The records of a map have its keys as their ids. -/
lemma listedIds_snapshot {m : WorkspaceMap} (h : KeyId m) : listedIds (snapshot m) = m.keys.map some := by
  rw [listedIds, storedList_snapshot, serialize, List.map_map, ← Std.ExtTreeMap.map_fst_toList_eq_keys,
    List.map_map]
  apply List.map_congr_left
  intro p hp
  have id : p.2.id = p.1 := h p.1 p.2 (Std.ExtTreeMap.mem_toList_iff_getElem?_eq_some.mp hp)
  show DictValue.findString p.2.toDict kIdKey = some p.1
  rw [findString_id_toDict, id]

/-- In every run the ids are the keys. -/
lemma keyId_of_run {tr} {s : WorkspaceStore} (r : Run WorkspaceStore.step {} tr s) : KeyId s.workspaces := by
  apply r.invariant (I := fun s => KeyId s.workspaces)
  · intro u op v h st
    cases st
    exact h.apply op
  · intro id ws h
    simp at h

/-- Every workspace is stored under its id, a snapshot lists each id once, and a snapshot that is loaded into an
empty store gives back the workspaces, without their runtime fields and with times in milliseconds. -/
theorem snapshot_restores {tr} {s : WorkspaceStore} (r : Run WorkspaceStore.step {} tr s)
    (inverse : ∀ (id : String) (ws : Workspace), s.workspaces[id]? = some ws →
      ParsesBack ws.createdAt ∧ ParsesBack ws.updatedAt) :
    KeyId s.workspaces ∧
      ((listedIds (snapshot s.workspaces)).Nodup ∧
        ∀ key, key ∈ listedIds (snapshot s.workspaces) ↔ ∃ id ∈ s.workspaces, key = some id) ∧
      ∀ id : String, (WorkspaceStore.onInitData {} (some (snapshot s.workspaces))).workspaces[id]? =
        s.workspaces[id]?.map Workspace.restored := by
  have keys := keyId_of_run r
  refine ⟨keys, ⟨?_, ?_⟩, ?_⟩
  · rw [listedIds_snapshot keys]
    exact List.Pairwise.map some (fun _ _ ne e => ne (Option.some.inj e)) Std.ExtTreeMap.nodup_keys
  · intro key
    rw [listedIds_snapshot keys, List.mem_map]
    simp only [Std.ExtTreeMap.mem_keys, eq_comm]
  · intro id
    rw [onInitData_of_empty rfl, storedList_snapshot, loadFast_serialize keys]
    apply Option.map_congr
    intro ws hws
    obtain ⟨created, updated⟩ := inverse id ws hws
    exact Workspace.persisted_eq_restored created updated

end

/-- A workspace is created, renamed and saved. -/
def renamed : List StoreOp := [
  .create { name := "w" } "a" ⟨56789, by decide, by decide⟩ ⟨13426387200123456⟩,
  .rename "a" "v" ⟨13426387200987654⟩,
  .flush]

/-- The renamed workspace is restored. -/
theorem snapshot_restores_renamed :
    ∃ s, Run WorkspaceStore.step {} (trace WorkspaceStore.step {} renamed) s ∧ KeyId s.workspaces ∧
      ((listedIds (snapshot s.workspaces)).Nodup ∧
        ∀ key, key ∈ listedIds (snapshot s.workspaces) ↔ ∃ id ∈ s.workspaces, key = some id) ∧
      ∀ id : String, (WorkspaceStore.onInitData {} (some (snapshot s.workspaces))).workspaces[id]? =
        s.workspaces[id]?.map Workspace.restored := by
  obtain ⟨s, ex, times⟩ : ∃ s, exec WorkspaceStore.step {} renamed = some s ∧
      ∀ (id : String) (ws : Workspace), s.workspaces[id]? = some ws →
        ws.createdAt = ⟨13426387200123456⟩ ∧ ws.updatedAt = ⟨13426387200987654⟩ := by
    refine ⟨_, rfl, ?_⟩
    intro id ws h
    have made : (WorkspaceStore.created { name := "w" } "a" ⟨56789, by decide, by decide⟩
        ⟨13426387200123456⟩).id = "a" := rfl
    simp only [WorkspaceStore.apply, WorkspaceStore.flush, WorkspaceStore.saveToDisk,
      WorkspaceStore.updateWorkspaceName_get, WorkspaceStore.createWorkspace_get, made] at h
    split_ifs at h
    · cases h
      exact ⟨rfl, rfl⟩
    · simp at h
  have r := Run.of_exec ex
  refine ⟨s, r, snapshot_restores r ?_⟩
  intro id ws h
  obtain ⟨created, updated⟩ := times id ws h
  rw [created, updated]
  exact ⟨fun _ => by decide, fun _ => by decide⟩

section
variable [TimeLib]

/-! ## A load after calls of clients -/

/-- A call succeeds for an id. -/
def StoreOp.Touches (s : WorkspaceStore) (id : String) : StoreOp → Prop
  | .create ws newId newSeed now => (WorkspaceStore.created ws newId newSeed now).id = id
  | .rename id' _ _ | .delete id' => id' = id ∧ id ∈ s.workspaces
  | .update ws _ => ws.id = id ∧ id ∈ s.workspaces
  | .flush | .init | .onInitData _ => False

instance (s : WorkspaceStore) (id : String) (op : StoreOp) : Decidable (op.Touches s id) :=
  match op with
  | .create .. => inferInstanceAs (Decidable (_ = id))
  | .rename id' _ _ | .delete id' => inferInstanceAs (Decidable (id' = id ∧ id ∈ s.workspaces))
  | .update ws _ => inferInstanceAs (Decidable (ws.id = id ∧ id ∈ s.workspaces))
  | .flush | .init | .onInitData _ => inferInstanceAs (Decidable False)

/-- The call deletes. -/
def StoreOp.deletes : StoreOp → Bool
  | .delete _ => true
  | _ => false

/-- The last successful call for an id, with the store that it met. -/
def lastCall (tr : List (WorkspaceStore × StoreOp)) (id : String) : Option (WorkspaceStore × StoreOp) :=
  tr.reverse.find? fun p => p.2.Touches p.1 id

/-- The value of an id on disk; each of them, if there are records with the same id. -/
def OnDisk (dict : Option DictValue) (id : String) : Option Workspace → Prop
  | some ws => ws ∈ records (storedList dict) ∧ ws.id = id
  | none => ∀ ws ∈ records (storedList dict), ws.id ≠ id

/-- After the load every id has what its last successful call left, or else what the file has. -/
structure LoadKeeps (tr : List (WorkspaceStore × StoreOp)) (dict : Option DictValue) (t : WorkspaceStore) :
    Prop where
  written : ∀ id s op, lastCall tr id = some (s, op) → op.deletes = false →
    ∃ ws, (s.apply op).workspaces[id]? = some ws ∧ t.workspaces[id]? = some ws
  deleted : ∀ id s op, lastCall tr id = some (s, op) → op.deletes = true → t.workspaces[id]? = none
  others : ∀ id, lastCall tr id = none → OnDisk dict id t.workspaces[id]?

/-- No id that was deleted last has a record in the file. -/
def DeletedAbsent (tr : List (WorkspaceStore × StoreOp)) (dict : Option DictValue) : Prop :=
  ∀ id s op, lastCall tr id = some (s, op) → op.deletes = true → ∀ ws ∈ records (storedList dict), ws.id ≠ id

omit [TimeLib] in
/-- The last call of a run with one more call. -/
lemma lastCall_snoc (tr : List (WorkspaceStore × StoreOp)) (s : WorkspaceStore) (op : StoreOp) (id : String) :
    lastCall (tr ++ [(s, op)]) id = if op.Touches s id then some (s, op) else lastCall tr id := by
  rw [lastCall, List.reverse_append]
  simp only [List.reverse_cons, List.reverse_nil, List.nil_append, List.cons_append, List.find?_cons]
  split_ifs with h
  · rw [decide_eq_true h]
  · rw [decide_eq_false h, lastCall]

omit [TimeLib] in
/-- The last call touches its workspace. -/
lemma touches_of_lastCall {tr : List (WorkspaceStore × StoreOp)} {id : String} {s : WorkspaceStore} {op : StoreOp}
    (h : lastCall tr id = some (s, op)) : op.Touches s id := by
  have found := List.find?_some h
  exact of_decide_eq_true found

/-- A call leaves the other ids as they are. -/
lemma apply_of_not_touches {s : WorkspaceStore} {op : StoreOp} {id : String} (client : op.byClient)
    (h : ¬ op.Touches s id) : (s.apply op).workspaces[id]? = s.workspaces[id]? := by
  have absent (h : id ∉ s.workspaces) : s.workspaces[id]? = none := KeyedMap.get_eq_none_iff.mpr h
  cases op with
  | create ws newId newSeed now =>
    rw [WorkspaceStore.apply, WorkspaceStore.createWorkspace_get]
    exact if_neg h
  | rename id' newName now =>
    rw [WorkspaceStore.apply, WorkspaceStore.updateWorkspaceName_get]
    split_ifs with e
    · rw [absent fun mem => h ⟨e, mem⟩, Option.map_none]
    · rfl
  | update ws now =>
    rw [WorkspaceStore.apply, WorkspaceStore.updateWorkspace_get]
    split_ifs with e
    · rw [absent fun mem => h ⟨e, mem⟩, Option.map_none]
    · rfl
  | delete id' =>
    rw [WorkspaceStore.apply, WorkspaceStore.deleteWorkspace_get]
    split_ifs with e
    · rw [absent fun mem => h ⟨e, mem⟩]
    · rfl
  | flush => rfl
  | init | onInitData => cases client

/-- A call that succeeds leaves a workspace, unless it deletes. -/
lemma apply_of_touches {s : WorkspaceStore} {op : StoreOp} {id : String} (h : op.Touches s id) :
    ((s.apply op).workspaces[id]?).isSome = !op.deletes := by
  cases op with
  | create ws newId newSeed now =>
    have id : (WorkspaceStore.created ws newId newSeed now).id = id := h
    rw [WorkspaceStore.apply, WorkspaceStore.createWorkspace_get, if_pos id]
    rfl
  | rename id' newName now =>
    obtain ⟨old, there⟩ := KeyedMap.mem_iff_exists_get.mp h.2
    rw [WorkspaceStore.apply, WorkspaceStore.updateWorkspaceName_get, if_pos h.1, there]
    rfl
  | update ws now =>
    obtain ⟨old, there⟩ := KeyedMap.mem_iff_exists_get.mp h.2
    rw [WorkspaceStore.apply, WorkspaceStore.updateWorkspace_get, if_pos h.1, there]
    rfl
  | delete id' =>
    rw [WorkspaceStore.apply, WorkspaceStore.deleteWorkspace_get, if_pos h.1]
    rfl
  | flush | init | onInitData => cases h

/-- Before the load the map holds what the last successful calls left. -/
lemma get_of_run {tr} {s : WorkspaceStore} (r : Run WorkspaceStore.step {} tr s)
    (client : Guarded (fun _ op => op.byClient) tr) (id : String) :
    s.workspaces[id]? = (lastCall tr id).bind fun p => (p.1.apply p.2).workspaces[id]? := by
  induction r with
  | nil => simp [lastCall]
  | @snoc tr s op _ r st ih =>
    cases st
    obtain ⟨client, last⟩ := Guarded.append.mp client
    have last := Guarded.singleton.mp last
    rw [lastCall_snoc]
    split_ifs with touches
    · rfl
    · rw [apply_of_not_touches last touches, ih client]

/-- What is supplied is on the disk. -/
lemma supplied_onDisk (s : WorkspaceStore) (dict : Option DictValue) (id : String) :
    OnDisk dict id (supplied s.workspaces (storedList dict) id) := by
  cases h : supplied s.workspaces (storedList dict) id with
  | none => exact supplied_eq_none_iff.mp h
  | some ws =>
    refine ⟨?_, supplied_id h⟩
    unfold supplied at h
    split_ifs at h
    · exact List.mem_reverse.mp (List.mem_of_find?_eq_some h)
    · exact List.mem_of_find?_eq_some h

/-- A load undoes none of the calls before it, exactly when the file has none of the ids that were deleted. -/
theorem load_keeps_iff {tr} {s : WorkspaceStore} (dict : Option DictValue) (r : Run WorkspaceStore.step {} tr s)
    (client : Guarded (fun _ op => op.byClient) tr) :
    LoadKeeps tr dict (s.onInitData dict) ↔ DeletedAbsent tr dict := by
  have get := get_of_run r client
  constructor
  · intro keeps id u op last deletes
    have gone := keeps.deleted id u op last deletes
    rw [WorkspaceStore.onInitData_get] at gone
    exact supplied_eq_none_iff.mp (Option.or_eq_none_iff.mp gone).2
  · intro absent
    refine ⟨?_, ?_, ?_⟩
    · intro id u op last writes
      have left := apply_of_touches (touches_of_lastCall last)
      rw [writes] at left
      obtain ⟨ws, left⟩ := Option.isSome_iff_exists.mp left
      refine ⟨ws, left, ?_⟩
      rw [WorkspaceStore.onInitData_get, get, last, Option.bind_some, left, Option.some_or]
    · intro id u op last deletes
      have left := apply_of_touches (touches_of_lastCall last)
      rw [deletes] at left
      have left : (u.apply op).workspaces[id]? = none :=
        Option.isNone_iff_eq_none.mp (Option.isSome_eq_false_iff.mp left)
      rw [WorkspaceStore.onInitData_get, get, last, Option.bind_some, left, Option.none_or]
      exact supplied_eq_none_iff.mpr (absent id u op last deletes)
    · intro id untouched
      rw [WorkspaceStore.onInitData_get, get, untouched, Option.bind_none, Option.none_or]
      exact supplied_onDisk s dict id

end

/-- A file with one workspace. -/
def oneOnDisk : Option DictValue :=
  some [(kWorkspacesKey, .list [.dict [(kIdKey, .string "a")]])]

/-- Another one is created while the file is read. -/
def createdMeanwhile : List StoreOp := [
  .create { name := "w" } "b" ⟨56789, by decide, by decide⟩ ⟨1⟩]

/-- One workspace was created before the disk was read. -/
theorem load_keeps_iff_created :
    LoadKeeps (trace WorkspaceStore.step {} createdMeanwhile) oneOnDisk
      ((WorkspaceStore.apply {} (.create { name := "w" } "b" ⟨56789, by decide, by decide⟩ ⟨1⟩)).onInitData
        oneOnDisk) := by
  apply (load_keeps_iff oneOnDisk (Run.of_exec rfl) _).mpr
  · intro id s op last deletes
    obtain ⟨_, _, rfl⟩ : ∃ s', s = s' ∧ op = .create { name := "w" } "b" ⟨56789, by decide, by decide⟩ ⟨1⟩ := by
      have mem := List.mem_of_find?_eq_some last
      simp only [createdMeanwhile, trace, List.mem_reverse] at mem
      cases List.mem_singleton.mp mem
      exact ⟨_, rfl, rfl⟩
    cases deletes
  · intro p hp
    cases List.mem_singleton.mp hp
    rfl

/-- A workspace with the id of one on disk is created and deleted while the file is read. -/
def deletedMeanwhile : List StoreOp := [
  .create { id := "a", name := "w" } "b" ⟨56789, by decide, by decide⟩ ⟨1⟩,
  .delete "a"]

/-- The load brings it back. -/
theorem load_keeps_fails :
    ∃ s, Run WorkspaceStore.step {} (trace WorkspaceStore.step {} deletedMeanwhile) s ∧
      ¬ LoadKeeps (trace WorkspaceStore.step {} deletedMeanwhile) oneOnDisk (s.onInitData oneOnDisk) := by
  obtain ⟨s, ex, back⟩ : ∃ s, exec WorkspaceStore.step {} deletedMeanwhile = some s ∧
      ((s.onInitData oneOnDisk).workspaces["a"]?).isSome := ⟨_, rfl, rfl⟩
  refine ⟨s, Run.of_exec ex, ?_⟩
  intro keeps
  have last : (lastCall (trace WorkspaceStore.step {} deletedMeanwhile) "a").map (·.2.deletes) = some true := rfl
  obtain ⟨⟨u, op⟩, last, deletes⟩ := Option.map_eq_some_iff.mp last
  rw [keeps.deleted "a" u op last deletes] at back
  cases back

end PureCloak.Profiles
