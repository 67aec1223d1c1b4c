import PureCloak.Launcher.Entries
import PureCloak.WebUI.Messages

/-!
# Batches

The handlers that do one thing to many workspaces, beside the handlers that do it to one. A batch has a loop of its own:
the one that deletes counts what the store says, the one that launches looks each workspace up and starts none, and the
one that stops counts every id. `batchIsFold_iff` says on which lists each of them is what the single handlers make of
its items one after the other, with a report of the items that these had an effect on.

What callers of `Start` are told is no part of the manager here: the callers are the single messages.
-/

namespace PureCloak.WebUI
open PureCloak.Base PureCloak.Profiles PureCloak.Launcher

/-- What the handlers work on. -/
structure State where
  store : WorkspaceStore
  world : World

/-- The operations that have a batch. -/
inductive Operation
  | delete
  | launch
  | stop

/-- The same store, and the same manager with its surroundings. -/
structure SameState (s s' : State) : Prop where
  store : s.store = s'.store
  world : { s.world with answers := [] } = { s'.world with answers := [] }

/-- A state is the same as itself. -/
lemma SameState.refl (s : State) : SameState s s :=
  ⟨rfl, rfl⟩

namespace Operation

section
variable [TimeLib] (env : Env)

/-- The single handler on an item, with the id of a callback. -/
def single : Operation → State → String → State
  | delete, s, id =>
    (handleDeleteWorkspace s.store [.string "cb", .string id]).elim s fun r => { s with store := r.1 }
  | launch, s, id =>
    (handleLaunchWorkspace env s.store s.world [.string "cb", .string id]).elim s fun r => { s with world := r.1 }
  | stop, s, id =>
    (handleStopWorkspace s.world [.string "cb", .string id]).elim s fun r => { s with world := r.1 }

/-- The single operation has an effect: it deletes a workspace, posts a launch or takes out an entry. -/
def takesEffect : Operation → State → String → Bool
  | delete, s, id => (s.store.deleteWorkspace id).2
  | launch, s, id => (s.store.getWorkspace id).any fun ws => (s.world.startPort ws).isSome
  | stop, s, id => s.world.workspaces[id]?.isSome

/-- The single operations one after the other, and the items that they had an effect on. -/
def perform (op : Operation) : State → List String → State × List String
  | s, [] => (s, [])
  | s, id :: ids =>
    let r := perform op (op.single env s id) ids
    (r.1, if op.takesEffect s id then id :: r.2 else r.2)

/-- The batch handlers. -/
def batch : Operation → State → ListValue → Option (State × Value × Value)
  | delete, s, args => (handleBatchDeleteWorkspaces s.store args).map fun r => ({ s with store := r.1 }, r.2)
  | launch, s, args => (handleBatchLaunchWorkspaces s.store args).map fun r => (s, r)
  | stop, s, args => (handleBatchStopWorkspaces s.world args).map fun r => ({ s with world := r.1 }, r.2)

/-- The report of a batch that had an effect on these items. -/
def report : Operation → List String → Value
  | delete, ids => .dict (DictValue.ofFields [("deleted", some (.integer (Int32.ofNat ids.length)))])
  | launch, ids => .list (ids.map fun id => .dict (DictValue.ofFields
      [("id", some (.string id)), ("launched", some (.boolean true))]))
  | stop, ids => .dict (DictValue.ofFields [("stopped", some (.integer (Int32.ofNat ids.length)))])

/-- The batch leaves what the single operations leave, and reports the items that they had an effect on. -/
def BatchIsFold (op : Operation) (s : State) (callbackId : Value) (ids : ListValue) : Prop :=
  ∃ s', op.batch s [callbackId, .list ids] =
      some (s', callbackId, op.report (op.perform env s (ids.filterMap Value.getIfString)).2) ∧
    SameState s' (op.perform env s (ids.filterMap Value.getIfString)).1

end

/-! ## One item -/

section
variable [TimeLib] {env : Env} (s : State) (id : String)

/-- One deletion. -/
lemma single_delete : delete.single env s id = { s with store := (s.store.deleteWorkspace id).1 } :=
  rfl

/-- One stop. -/
lemma single_stop : stop.single env s id = { s with world := s.world.stop id } :=
  rfl

/-- One launch, of a workspace that is there. -/
lemma single_launch : launch.single env s id =
    { s with world := (s.store.getWorkspace id).elim s.world (World.start env s.world) } := by
  show Option.elim (handleLaunchWorkspace env s.store s.world [.string "cb", .string id]) s _ = _
  cases known : s.store.getWorkspace id with
  | none => simp [handleLaunchWorkspace, Value.getIfString, known]
  | some ws => simp [handleLaunchWorkspace, Value.getIfString, known]

omit [TimeLib] in
/-- A launch is posted exactly where `Start` answers later. -/
lemma start_cases (w : World) (ws : Workspace) :
    ((w.startPort ws).isSome ∧ ∃ task, World.start env w ws = { w with pool := w.pool ++ [task] }) ∨
    (w.startPort ws = none ∧ ∃ a, World.start env w ws = w.answer a) := by
  rw [World.start, World.startPort]
  cases active : w.activeEntry ws.id with
  | some r => exact .inr ⟨if_neg fun h => absurd h.1 (Option.some_ne_none r), _, rfl⟩
  | none =>
    dsimp only
    by_cases full : w.workspaces.size ≥ kMaxConcurrentWorkspaces
    · rw [if_pos full, if_neg fun h => Nat.not_lt_of_le full h.2.1]
      exact .inr ⟨rfl, _, rfl⟩
    · by_cases port : findAvailablePort w = 0
      · rw [if_neg full, if_pos port, if_neg fun h => h.2.2 port]
        exact .inr ⟨rfl, _, rfl⟩
      · rw [if_neg full, if_neg port, if_pos ⟨rfl, Nat.lt_of_not_le full, port⟩]
        exact .inl ⟨rfl, _, rfl⟩

/-- The single operations have an effect where they change the store or the manager. -/
theorem takesEffect_iff (op : Operation) :
    op.takesEffect s id = true ↔ ¬ SameState (op.single env s id) s := by
  cases op with
  | delete =>
    have found := WorkspaceStore.deleteWorkspace_get s.store id id
    rw [if_pos rfl] at found
    rw [single_delete, takesEffect]
    cases known : s.store.workspaces[id]? with
    | none =>
      rw [WorkspaceStore.deleteWorkspace, known]
      exact ⟨fun h => absurd h Bool.false_ne_true, fun h => absurd ⟨rfl, rfl⟩ h⟩
    | some ws =>
      refine ⟨fun _ same => ?_, fun _ => by rw [WorkspaceStore.deleteWorkspace, known]⟩
      rw [show (s.store.deleteWorkspace id).1 = s.store from same.store, known] at found
      exact absurd found (Option.some_ne_none ws)
  | launch =>
    rw [single_launch, takesEffect]
    cases known : s.store.getWorkspace id with
    | none => exact ⟨fun h => absurd h Bool.false_ne_true, fun h => absurd ⟨rfl, rfl⟩ h⟩
    | some ws =>
      rw [Option.elim_some, Option.any_some]
      obtain ⟨posted, task, start⟩ | ⟨idle, a, start⟩ := @start_cases env s.world ws
      · refine ⟨fun _ same => ?_, fun _ => posted⟩
        have pools := congrArg (fun w : World => w.pool.length) same.world
        rw [start, List.length_append] at pools
        exact absurd pools (Nat.succ_ne_self _)
      · rw [idle, start]
        exact ⟨fun h => absurd h Bool.false_ne_true, fun h => absurd ⟨rfl, rfl⟩ h⟩
  | stop =>
    rw [single_stop, takesEffect]
    cases entry : s.world.workspaces[id]? with
    | none =>
      rw [World.stop, entry]
      exact ⟨fun h => absurd h Bool.false_ne_true, fun h => absurd ⟨rfl, rfl⟩ h⟩
    | some r =>
      refine ⟨fun _ same => ?_, fun _ => rfl⟩
      have entries := congrArg (fun w : World => w.workspaces[id]?) same.world
      have stopped : (s.world.stop id).workspaces[id]? = none := by
        rw [(World.stop_same s.world id).1, KeyedMap.get_erase, if_pos rfl]
      exact absurd (entry.symm.trans (entries.symm.trans stopped)) (Option.some_ne_none r)

end

/-! ## One item after the other -/

section
variable [TimeLib] {env : Env}

/-- No more is done than was asked for. -/
lemma perform_length_le (op : Operation) (s : State) (ids : List String) :
    (op.perform env s ids).2.length ≤ ids.length := by
  induction ids generalizing s with
  | nil => exact Nat.le_refl 0
  | cons id ids ih =>
    rw [perform, List.length_cons]
    have rest := ih (op.single env s id)
    dsimp only
    split
    · exact Nat.succ_le_succ rest
    · exact Nat.le_succ_of_le rest

/-- The loop of the batch that deletes. -/
lemma perform_delete (s : State) (n : Nat) (ids : List String) :
    ids.foldl deleteCounted (s.store, n) =
      ((delete.perform env s ids).1.store, n + (delete.perform env s ids).2.length) ∧
    (delete.perform env s ids).1.world = s.world := by
  induction ids generalizing s n with
  | nil => exact ⟨rfl, rfl⟩
  | cons id ids ih =>
    have rest := ih (delete.single env s id) (if delete.takesEffect s id then n + 1 else n)
    rw [List.foldl_cons, perform]
    refine ⟨?_, rest.2⟩
    rw [show deleteCounted (s.store, n) id =
      ((delete.single env s id).store, if delete.takesEffect s id then n + 1 else n) from rfl, rest.1]
    split
    · rw [List.length_cons, Nat.add_right_comm]; rfl
    · rfl

/-- The loop of the batch that stops. -/
lemma perform_stop (s : State) (ids : List String) :
    (stop.perform env s ids).1 = { s with world := ids.foldl World.stop s.world } := by
  induction ids generalizing s with
  | nil => rfl
  | cons id ids ih =>
    rw [perform, List.foldl_cons]
    exact ih (stop.single env s id)

/-- A stop takes an entry out, so a second one finds none. -/
lemma perform_stop_all (s : State) (ids : List String) :
    (stop.perform env s ids).2.length = ids.length ↔
      ids.Nodup ∧ ∀ id ∈ ids, (s.world.workspaces[id]?).isSome := by
  induction ids generalizing s with
  | nil => exact ⟨fun _ => ⟨.nil, fun id h => absurd h List.not_mem_nil⟩, fun _ => rfl⟩
  | cons id ids ih =>
    have rest := ih (stop.single env s id)
    have le := @perform_length_le _ env stop (stop.single env s id) ids
    have entry (id' : String) : ((stop.single env s id).world.workspaces[id']?).isSome ↔
        id ≠ id' ∧ (s.world.workspaces[id']?).isSome := by
      rw [single_stop, (World.stop_same s.world id).1, KeyedMap.get_erase]
      by_cases same : id = id'
      · rw [if_pos same]
        exact ⟨fun h => absurd h Bool.false_ne_true, fun h => absurd same h.1⟩
      · rw [if_neg same]
        exact ⟨fun h => ⟨same, h⟩, And.right⟩
    rw [perform, List.length_cons, List.nodup_cons, List.forall_mem_cons]
    by_cases effect : stop.takesEffect s id
    · have here : (s.world.workspaces[id]?).isSome := effect
      dsimp only
      rw [if_pos effect, List.length_cons, Nat.add_right_cancel_iff, rest]
      constructor
      · intro ⟨nodup, entries⟩
        exact ⟨⟨fun mem => ((entry id).mp (entries id mem)).1 rfl, nodup⟩, here,
          fun id' mem => ((entry id').mp (entries id' mem)).2⟩
      · intro ⟨⟨fresh, nodup⟩, _, entries⟩
        refine ⟨nodup, fun id' mem => (entry id').mpr ⟨?_, entries id' mem⟩⟩
        intro same
        exact fresh (same ▸ mem)
    · dsimp only
      rw [if_neg effect]
      constructor
      · intro all
        omega
      · intro ⟨_, here, _⟩
        exact absurd here effect

/-- How many entries of the manager a list names. -/
def entriesNamed (s : State) (ids : List String) : Nat :=
  s.world.workspaces.toList.countP fun p => p.1 ∈ ids

/-- Each of them is taken out once. -/
lemma perform_stop_length (s : State) (ids : List String) :
    (stop.perform env s ids).2.length = entriesNamed s ids := by
  induction ids generalizing s with
  | nil => exact (List.countP_eq_zero.mpr fun p _ => by simp).symm
  | cons id ids ih =>
    have others : (s.world.workspaces.erase id).toList.countP (fun p => p.1 ∈ id :: ids) =
        entriesNamed (stop.single env s id) ids := by
      rw [entriesNamed, single_stop, (World.stop_same s.world id).1]
      apply List.countP_congr
      intro p mem
      have ne : p.1 ≠ id := by
        intro same
        have found := Std.ExtTreeMap.mem_toList_iff_getElem?_eq_some.mp mem
        rw [KeyedMap.get_erase, if_pos same.symm] at found
        cases found
      simp [ne]
    have own : s.world.workspaces[id]?.any (fun v => decide ((id, v).1 ∈ id :: ids)) = stop.takesEffect s id := by
      rw [takesEffect]
      cases s.world.workspaces[id]? with
      | none => rfl
      | some r => simp
    rw [perform, entriesNamed, KeyedMap.countP_erase s.world.workspaces id, others, ← ih, own]
    dsimp only
    split
    · rfl
    · rfl

/-- Launches are posted one behind the other. -/
lemma perform_launch (s : State) (ids : List String) :
    (launch.perform env s ids).1.world.pool.length = s.world.pool.length + (launch.perform env s ids).2.length := by
  induction ids generalizing s with
  | nil => rfl
  | cons id ids ih =>
    have rest := ih (launch.single env s id)
    rw [perform]
    dsimp only
    rw [rest, single_launch, takesEffect]
    cases known : s.store.getWorkspace id with
    | none => rfl
    | some ws =>
      rw [Option.elim_some, Option.any_some]
      obtain ⟨posted, task, start⟩ | ⟨idle, a, start⟩ := @start_cases env s.world ws
      · rw [if_pos posted, start, List.length_append, List.length_singleton, List.length_cons, Nat.add_assoc,
          Nat.add_comm 1]
      · rw [idle, start]
        rfl

/-- Where no item is known nothing is launched. -/
lemma perform_launch_unknown {s : State} {ids : List String} (unknown : ∀ id ∈ ids, s.store.getWorkspace id = none) :
    launch.perform env s ids = (s, []) := by
  induction ids with
  | nil => rfl
  | cons id ids ih =>
    obtain ⟨here, rest⟩ := List.forall_mem_cons.mp unknown
    have same : launch.single env s id = s := by
      rw [single_launch, here]
      rfl
    rw [perform, same, ih rest, takesEffect, here]
    rfl

/-! ## The batches -/

/-- The lists on which a batch is what the single operations are. -/
def ListFits (op : Operation) (s : State) (ids : List String) : Prop :=
  match op with
  | delete => True
  | launch => ∀ id ∈ ids, s.store.getWorkspace id = none
  | stop => Int32.ofNat ids.length = Int32.ofNat (entriesNamed s ids)

/-- In a list that is not too long for an `int`, no item comes twice then and each has an entry. -/
theorem listFits_stop_iff {s : State} {ids : List String} (fits : ids.length < 2 ^ 31) :
    stop.ListFits s ids ↔ ids.Nodup ∧ ∀ id ∈ ids, (s.world.workspaces[id]?).isSome := by
  have named := @perform_stop_length _ bareEnv s ids
  have le := @perform_length_le _ bareEnv stop s ids
  rw [ListFits, ← @perform_stop_all _ bareEnv, ← named]
  constructor
  · intro same
    have numbers := congrArg Int32.toInt same
    rw [Int32.toInt_ofNat_of_lt fits, Int32.toInt_ofNat_of_lt (Nat.lt_of_le_of_lt le fits)] at numbers
    exact (Int.ofNat.inj numbers).symm
  · intro all
    rw [all]

variable (s : State) (callbackId : Value) (ids : ListValue)

/-- Deletions are the fold of single ones. -/
lemma batch_delete : delete.BatchIsFold env s callbackId ids := by
  obtain ⟨stores, worlds⟩ := @perform_delete _ env s 0 (ids.filterMap Value.getIfString)
  rw [Nat.zero_add] at stores
  have reply : delete.batch s [callbackId, .list ids] =
      some ({ s with store := (delete.perform env s (ids.filterMap Value.getIfString)).1.store }, callbackId,
        delete.report (delete.perform env s (ids.filterMap Value.getIfString)).2) := by
    rw [batch]
    simp [handleBatchDeleteWorkspaces, Value.getIfList, stores, report]
  exact ⟨_, reply, rfl, by rw [worlds]⟩

/-- Launches are, as long as the number of ids fits. -/
lemma batch_launch : launch.BatchIsFold env s callbackId ids ↔ launch.ListFits s (ids.filterMap Value.getIfString) := by
  constructor
  · intro ⟨s', run, same⟩
    have reply : handleBatchLaunchWorkspaces s.store [callbackId, .list ids] = some (callbackId,
        launch.report ((ids.filterMap Value.getIfString).filter fun id => (s.store.getWorkspace id).isSome)) := rfl
    rw [batch, reply, Option.map_some] at run
    obtain rfl := (Prod.mk.inj (Option.some.inj run)).1
    have reports := (Prod.mk.inj (Prod.mk.inj (Option.some.inj run)).2).2
    -- nothing was posted, so nothing may be reported
    have pools := congrArg (fun w : World => w.pool.length) same.world
    have posted := @perform_launch _ env s (ids.filterMap Value.getIfString)
    have none_posted : (launch.perform env s (ids.filterMap Value.getIfString)).2 = [] := by
      apply List.eq_nil_of_length_eq_zero
      exact Nat.add_eq_left.mp (posted.symm.trans pools.symm)
    rw [none_posted] at reports
    have none_known := List.map_eq_nil_iff.mp (Value.list.inj reports)
    intro id mem
    cases known : s.store.getWorkspace id with
    | none => rfl
    | some ws =>
      have listed : id ∈ (ids.filterMap Value.getIfString).filter fun id => (s.store.getWorkspace id).isSome :=
        List.mem_filter.mpr ⟨mem, by rw [known]; rfl⟩
      rw [none_known] at listed
      exact absurd listed List.not_mem_nil
  · intro unknown
    have none_known : (ids.filterMap Value.getIfString).filter (fun id => (s.store.getWorkspace id).isSome) = [] := by
      apply List.filter_eq_nil_iff.mpr
      intro id mem
      rw [unknown id mem]
      exact Bool.false_ne_true
    refine ⟨s, ?_, ?_⟩
    · rw [perform_launch_unknown unknown]
      show Option.map _ (some (callbackId, launch.report (List.filter _ _))) = _
      rw [none_known]
      rfl
    · rw [perform_launch_unknown unknown]
      exact .refl s

omit [TimeLib] in
/-- A report of stops has their number. -/
lemma report_stop_inj {l l' : List String} (same : stop.report l = stop.report l') :
    Int32.ofNat l.length = Int32.ofNat l'.length := by
  have counts := congrArg (fun v : Value => (v.getIfDict.bind fun dict => dict.find "stopped").bind Value.getIfInt) same
  exact Option.some.inj counts

/-- Stops are, as long as the number of ids fits. -/
lemma batch_stop : stop.BatchIsFold env s callbackId ids ↔ stop.ListFits s (ids.filterMap Value.getIfString) := by
  have reply : stop.batch s [callbackId, .list ids] =
      some ({ s with world := (ids.filterMap Value.getIfString).foldl World.stop s.world }, callbackId,
        stop.report (ids.filterMap Value.getIfString)) := rfl
  rw [ListFits, ← @perform_stop_length _ env, BatchIsFold, reply]
  constructor
  · intro ⟨s', run, _⟩
    exact report_stop_inj (Prod.mk.inj (Prod.mk.inj (Option.some.inj run)).2).2
  · intro count
    refine ⟨(stop.perform env s (ids.filterMap Value.getIfString)).1, ?_, .refl _⟩
    rw [perform_stop, report, report, count]

/-- A batch is the single operations one after the other: the one that deletes always, the one that launches where no
item is a known workspace, and the one that stops where the manager has as many entries that the list names as the list
has items. -/
theorem batchIsFold_iff (op : Operation) :
    op.BatchIsFold env s callbackId ids ↔ op.ListFits s (ids.filterMap Value.getIfString) := by
  cases op with
  | delete => exact iff_of_true (batch_delete s callbackId ids) trivial
  | launch => exact batch_launch s callbackId ids
  | stop => exact batch_stop s callbackId ids

end

/-- A store with one workspace, and nothing that runs. -/
def oneStored : State where
  store := { workspaces := (∅ : WorkspaceMap).insert "a" { id := "a" } }
  world := {}

/-- The batch that launches says that it launched a workspace, and starts none. -/
theorem batchIsFold_fails : ¬ ∀ (op : Operation) (env : Env) (s : State) (callbackId : Value) (ids : ListValue),
    op.BatchIsFold env s callbackId ids := by
  intro fold
  have launched := (batch_launch oneStored (.string "cb") [.string "a"]).mp
    (fold launch bareEnv oneStored (.string "cb") [.string "a"])
  exact absurd (launched "a" (by decide)) (by decide)

end Operation

end PureCloak.WebUI
