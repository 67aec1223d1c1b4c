import PureCloak.Launcher.Supervision

/-!
# What the steps do to entries, starts and deletions

The table of a supervisor does not see the status of an entry, its user data directory or the directories
that the thread pool is to delete. What a step does to them is said here, once for all steps:
`entries_step` for the entries, `starts_step` for the starts that are under way, from `Start` to
`ContinueStart`, and `deletions_step` for the deletions that `Stop` and `StopAll` have posted.
-/

namespace PureCloak.Launcher
open PureCloak.Base PureCloak.Profiles

/-- The start that a task prepares. -/
def PoolTask.start : PoolTask → Option (Workspace × String × Int)
  | .prepareUserDataDir ws dir port => some (ws, dir, port)
  | _ => none

/-- The start that `ContinueStart` is called for. -/
def Reply.start : Reply → Option (Workspace × String × Int)
  | .continueStart ws dir port => some (ws, dir, port)
  | _ => none

/-- The directory that a task deletes. -/
def PoolTask.deletion : PoolTask → Option String
  | .deletePathRecursively dir => some dir
  | _ => none

namespace World

/-- The starts that are under way. -/
def starts (w : World) : Multiset (Workspace × String × Int) :=
  ↑(w.pool.filterMap PoolTask.start) + ↑(w.replies.filterMap Reply.start)

/-- The directories that are to be deleted. -/
def deletions (w : World) : Multiset String :=
  ↑(w.pool.filterMap PoolTask.deletion)

/-- The start that an event posts. -/
def startPosted (env : Env) (w : World) : Event → Option (Workspace × String × Int)
  | .start ws => (w.startPort ws).map fun port => (ws, userDataDir env ws.id, port)
  | _ => none

/-- The start that an event continues. -/
def startArrived (w : World) : Event → Option (Workspace × String × Int)
  | .arrive i _ _ => w.replies[i]?.bind Reply.start
  | _ => none

/-- The directories of a list of entries, of those that have one. -/
def entryDirs (l : List RunningWorkspace) : List String :=
  (l.map RunningWorkspace.userDataDir).filter (· ≠ "")

/-- The deletions that an event posts. -/
def deletionsPosted (w : World) : Event → List String
  | .stop id => entryDirs w.workspaces[id]?.toList
  | .stopAll => entryDirs (w.workspaces.toList.map Prod.snd)
  | _ => []

/-- The deletion that the thread pool runs. -/
def deletionRun (w : World) : Event → Option String
  | .runTask i _ => w.pool[i]?.bind PoolTask.deletion
  | _ => none

/-- An entry is marked as crashed. -/
def markCrashed (m : Std.ExtTreeMap String RunningWorkspace) (id : String) :
    Std.ExtTreeMap String RunningWorkspace :=
  match m[id]? with
  | none => m
  | some r => m.insert id { r with status := .kCrashed }

/-- What becomes of the entries. -/
inductive EntriesAfter (w : World) : Event → Std.ExtTreeMap String RunningWorkspace → Prop where
  | stop (id : String) : EntriesAfter w (.stop id) (w.workspaces.erase id)
  | stopAll : EntriesAfter w .stopAll ∅
  | poll (ids : List String) : EntriesAfter w .watchdogPoll (ids.foldl markCrashed w.workspaces)
  | launch {e ws dir port} (pid : Pid) (now : Time) :
    w.launched e = some (ws, dir, port) →
    EntriesAfter w e (w.workspaces.insert ws.id (newEntry ws dir port pid now))
  | same {e} :
    w.launched e = none →
    EntriesAfter w e w.workspaces

/-- A workspace runs when its entry does. -/
lemma isRunning_eq (w : World) (id : String) :
    w.isRunning id = w.workspaces[id]?.any fun r => r.status.running := by
  rw [isRunning]
  cases w.workspaces[id]? <;> rfl

/-! ## What the appliers leave as it is -/

/-- Two worlds with the same entries, starts and deletions. -/
structure SameManager (w w' : World) : Prop where
  workspaces : w'.workspaces = w.workspaces
  starts : w'.starts = w.starts
  deletions : w'.deletions = w.deletions

/-- Two steps that leave the manager alone are one. -/
lemma SameManager.trans {w w' w'' : World} (h : SameManager w w') (h' : SameManager w' w'') :
    SameManager w w'' where
  workspaces := h'.workspaces.trans h.workspaces
  starts := h'.starts.trans h.starts
  deletions := h'.deletions.trans h.deletions

/-- A manager is as it is. -/
lemma SameManager.refl (w : World) : SameManager w w :=
  ⟨rfl, rfl, rfl⟩

/-- The steps of a list leave the manager alone, if each does. -/
lemma SameManager.foldl {α : Type} {f : World → α → World} (h : ∀ w x, SameManager w (f w x))
    (l : List α) (w : World) : SameManager w (l.foldl f w) := by
  induction l generalizing w with
  | nil => exact .refl w
  | cons x l ih => exact (h w x).trans (ih (f w x))

/-- A task that is posted adds its start. -/
lemma starts_post (w : World) (t : PoolTask) :
    starts { w with pool := w.pool ++ [t] } = ↑t.start.toList + w.starts := by
  rw [starts, coe_filterMap_concat, add_assoc]
  rfl

/-- A task that is posted adds its deletion. -/
lemma deletions_post (w : World) (t : PoolTask) :
    deletions { w with pool := w.pool ++ [t] } = ↑t.deletion.toList + w.deletions :=
  coe_filterMap_concat _ _ _

/-- A task that neither starts nor deletes leaves the manager alone. -/
lemma sameManager_post (w : World) {t : PoolTask} (hs : t.start = none) (hd : t.deletion = none) :
    SameManager w { w with pool := w.pool ++ [t] } where
  workspaces := rfl
  starts := by simp [starts_post, hs]
  deletions := by simp [deletions_post, hd]

/-- What an applier does leaves the manager alone. -/
lemma sameManager_runEffect (id : String) (n : Nat) (w : World) (e : ApplierEffect) :
    SameManager w (runEffect id n w e) := by
  cases e with
  | isCDPAvailable | sendCommands => exact sameManager_post w rfl rfl
  | close | runCallback | runNullCallback => exact ⟨rfl, rfl, rfl⟩

/-- So does a step of an applier. -/
lemma sameManager_updateApplier (w : World) (id : String) (n : Nat)
    (r : Applier × List ApplierEffect) : SameManager w (w.updateApplier id n r) := by
  have inserted : SameManager w { w with appliers := w.appliers.insert id (n, r.1) } :=
    ⟨rfl, rfl, rfl⟩
  exact inserted.trans (.foldl (sameManager_runEffect id n) r.2 _)

/-- So does the end of an applier. -/
lemma sameManager_destroyApplier (w : World) (id : String) (a : Nat × Applier) :
    SameManager w (w.destroyApplier id a) :=
  .foldl (sameManager_runEffect id a.1) a.2.destroy w

/-- So does the end of the one that a launch replaces. -/
lemma sameManager_destroyOld (w : World) (id : String) (old : Option (Nat × Applier)) :
    SameManager w (old.elim w (w.destroyApplier id)) := by
  cases old with
  | none => exact .refl w
  | some a => exact sameManager_destroyApplier w id a

/-! ## Stopping -/

/-- What `StopAll` does for one entry, and `Stop` too. -/
lemma postDelete_deletions (w : World) (dir : String) :
    (w.postDelete dir).deletions = ↑([dir].filter (· ≠ "")) + w.deletions := by
  rw [postDelete]
  split
  case isTrue ne => simp [deletions_post, PoolTask.deletion, ne]
  case isFalse e => simp [not_not.mp e]

/-- A deletion that is posted starts nothing. -/
lemma postDelete_starts (w : World) (dir : String) : (w.postDelete dir).starts = w.starts := by
  rw [postDelete]
  split
  · simp [starts_post, PoolTask.start]
  · rfl

/-- It leaves the entries. -/
lemma postDelete_workspaces (w : World) (dir : String) :
    (w.postDelete dir).workspaces = w.workspaces := by
  rw [postDelete]
  split <;> rfl

/-- `Stop` takes the entry out and posts the deletion of its directory. -/
lemma stop_same (w : World) (id : String) :
    (w.stop id).workspaces = w.workspaces.erase id ∧ (w.stop id).starts = w.starts ∧
    (w.stop id).deletions = ↑(w.deletionsPosted (.stop id)) + w.deletions := by
  rw [stop, deletionsPosted]
  cases h : w.workspaces[id]? with
  | none =>
    have same : w.workspaces.erase id = w.workspaces := by
      refine Std.ExtTreeMap.ext_getElem? fun a => ?_
      rw [KeyedMap.get_erase]
      split
      case isTrue e => rw [← e, h]
      case isFalse => rfl
    exact ⟨same.symm, rfl, (zero_add _).symm⟩
  | some r =>
    have old (w : World) := sameManager_destroyOld w id w.appliers[id]?
    refine ⟨?_, ?_, ?_⟩
    · exact congrArg (·.erase id) ((old _).workspaces.trans (postDelete_workspaces _ _))
    · exact (old _).starts.trans (postDelete_starts _ _)
    · exact (old _).deletions.trans (postDelete_deletions _ _)

/-- The entries that are stopped have their directories deleted. -/
lemma stopEntries_same (l : List RunningWorkspace) (w : World) :
    (l.foldl stopEntry w).workspaces = w.workspaces ∧ (l.foldl stopEntry w).starts = w.starts ∧
    (l.foldl stopEntry w).deletions = ↑(entryDirs l) + w.deletions := by
  induction l generalizing w with
  | nil => exact ⟨rfl, rfl, (zero_add _).symm⟩
  | cons r l ih =>
    obtain ⟨workspaces, starts, deletions⟩ := ih (w.stopEntry r)
    refine ⟨workspaces.trans (postDelete_workspaces _ _), starts.trans (postDelete_starts _ _), ?_⟩
    have cons : entryDirs (r :: l) = [r.userDataDir].filter (· ≠ "") ++ entryDirs l :=
      List.filter_append [r.userDataDir] _
    rw [List.foldl_cons, deletions, stopEntry, postDelete_deletions, cons, ← Multiset.coe_add,
      add_left_comm, add_assoc]
    rfl

/-- `StopAll` erases the entries and deletes their directories. -/
lemma stopAll_same (w : World) :
    w.stopAll.workspaces = ∅ ∧ w.stopAll.starts = w.starts ∧
    w.stopAll.deletions = ↑(w.deletionsPosted .stopAll) + w.deletions := by
  obtain ⟨_, starts, deletions⟩ := stopEntries_same (w.workspaces.toList.map Prod.snd)
    { w with watched := ∅, watchdogTimer := false }
  have appliers (w : World) (l : List (String × Nat × Applier)) :=
    SameManager.foldl (fun w a => sameManager_destroyApplier w a.1 a.2) l w
  exact ⟨rfl, (appliers _ _).starts.trans starts, (appliers _ _).deletions.trans deletions⟩

/-! ## The watchdog -/

/-- A crash only marks the entry. -/
lemma notifyStatusChanged_crashed (w : World) (id : String) :
    w.notifyStatusChanged id .kCrashed = { w with workspaces := markCrashed w.workspaces id } := by
  rw [notifyStatusChanged, markCrashed]
  cases w.workspaces[id]? <;> rfl

/-- `CheckProcess` marks the entry as crashed, or it leaves the entries as they are. -/
lemma checkProcess_cases (w : World) (id : String) :
    (w.checkProcess id).starts = w.starts ∧ (w.checkProcess id).deletions = w.deletions ∧
    ((w.checkProcess id).workspaces = markCrashed w.workspaces id ∨
      (w.checkProcess id).workspaces = w.workspaces) := by
  rw [checkProcess]
  split
  · exact ⟨rfl, rfl, .inr rfl⟩
  · simp only [notifyStatusChanged_crashed]
    split
    · exact ⟨rfl, rfl, .inl rfl⟩
    · split
      · exact ⟨rfl, rfl, .inr rfl⟩
      · split
        · exact ⟨rfl, rfl, .inr rfl⟩
        · exact ⟨rfl, rfl, .inl rfl⟩

/-- A round of the watchdog marks some entries as crashed. -/
lemma onPoll_same (w : World) :
    w.onPoll.starts = w.starts ∧ w.onPoll.deletions = w.deletions ∧
    ∃ ids : List String, w.onPoll.workspaces = ids.foldl markCrashed w.workspaces := by
  rw [onPoll]
  generalize w.watched.toList.filter Prod.snd = l
  induction l generalizing w with
  | nil => exact ⟨rfl, rfl, [], rfl⟩
  | cons p l ih =>
    obtain ⟨starts, deletions, ids, entries⟩ := ih (w.checkProcess p.1)
    obtain ⟨starts', deletions', marked | same⟩ := checkProcess_cases w p.1
    · exact ⟨starts.trans starts', deletions.trans deletions', p.1 :: ids, by
        rw [List.foldl_cons, entries, marked, List.foldl_cons]⟩
    · exact ⟨starts.trans starts', deletions.trans deletions', ids, by
        rw [List.foldl_cons, entries, same]⟩

/-! ## Tasks and replies -/

/-- A reply that arrives is no longer under way. -/
lemma starts_arrive {w : World} {i : Nat} {reply : Reply} (h : w.replies[i]? = some reply) :
    w.starts = ↑reply.start.toList + starts { w with replies := w.replies.eraseIdx i } := by
  rw [starts, starts, coe_filterMap_eraseIdx _ h]
  exact add_left_comm _ _ _

/-- The reply of a task has the start of the task. -/
lemma taskReply_start {t : PoolTask} {result : TaskResult} {reply : Option Reply}
    (h : taskReply t result = some reply) : reply.bind Reply.start = t.start := by
  unfold taskReply at h
  split at h <;> cases h <;> rfl

/-- A start whose task has run is under way as the reply. -/
lemma starts_runTask {w : World} {i : Nat} {t : PoolTask} {result : TaskResult}
    {reply : Option Reply} (ht : w.pool[i]? = some t) (h : taskReply t result = some reply) :
    starts { w with pool := w.pool.eraseIdx i, replies := w.replies ++ reply.toList } = w.starts :=
  coe_filterMap_runTask ht (taskReply_start h) w.replies

/-! ## Steps -/

/-- What a step does to the entries, the starts and the deletions. -/
structure ManagerStep (env : Env) (w : World) (e : Event) (w' : World) : Prop where
  entries : EntriesAfter w e w'.workspaces
  starts : ↑(w.startArrived e).toList + w'.starts = ↑(startPosted env w e).toList + w.starts
  deletions : ↑(w.deletionRun e).toList + w'.deletions = ↑(w.deletionsPosted e) + w.deletions

variable {env : Env}

/-- Where nothing is posted, run or continued, everything stays as it was. -/
lemma ManagerStep.of_same {w w' : World} {e : Event} (same : SameManager w w')
    (launched : w.launched e = none) (arrived : w.startArrived e = none)
    (posted : startPosted env w e = none) (run : w.deletionRun e = none)
    (deletes : w.deletionsPosted e = []) : ManagerStep env w e w' where
  entries := same.workspaces ▸ .same launched
  starts := by rw [arrived, posted, same.starts]
  deletions := by rw [run, deletes, same.deletions]; rfl

/-- A reply to an applier arrives. -/
lemma ManagerStep.of_reply {w w' : World} {i : Nat} {reply : Reply}
    (hr : w.replies[i]? = some reply) (none_start : reply.start = none) (launches : Bool) (now : Time)
    (same : SameManager { w with replies := w.replies.eraseIdx i } w') :
    ManagerStep env w (.arrive i launches now) w' := by
  have starts := starts_arrive hr
  rw [none_start] at starts
  have dropped : SameManager w { w with replies := w.replies.eraseIdx i } :=
    ⟨rfl, (starts.trans (zero_add _)).symm, rfl⟩
  refine .of_same (dropped.trans same) ?_ ?_ rfl rfl rfl
  · cases reply with
    | continueStart => cases none_start
    | _ => cases launches <;> simp [launched, hr]
  · simpa [startArrived, hr] using none_start

/-- `Start` posts one start, or changes nothing. -/
lemma start_step (w : World) (ws : Workspace) :
    ManagerStep env w (.start ws) (World.start env w ws) := by
  have same {w' : World} (h : SameManager w w') (none_posted : w.startPort ws = none) :
      ManagerStep env w (.start ws) w' :=
    .of_same h rfl rfl (congrArg (Option.map _) none_posted) rfl rfl
  rw [World.start]
  cases active : w.activeEntry ws.id with
  | some r => exact same ⟨rfl, rfl, rfl⟩ (by simp [startPort, active])
  | none =>
    dsimp only
    split
    case isTrue full => exact same ⟨rfl, rfl, rfl⟩ (by simp [startPort, Nat.not_lt.mpr full])
    case isFalse room =>
      split
      case isTrue e => exact same ⟨rfl, rfl, rfl⟩ (by simp [startPort, e])
      case isFalse found =>
        have posted : w.startPort ws = some (findAvailablePort w) :=
          if_pos ⟨active, Nat.lt_of_not_le room, found⟩
        refine ⟨.same rfl, ?_, ?_⟩
        · rw [startPosted, posted, starts_post]
          exact zero_add _
        · rw [deletions_post]
          rfl

/-- `ContinueStart` makes an entry of its start, or none. -/
lemma continueStart_step {w : World} {i : Nat} {ws : Workspace} {dir : String} {port : Int}
    (hr : w.replies[i]? = some (.continueStart ws dir port)) (launches : Bool) (now : Time) :
    ManagerStep env w (.arrive i launches now)
      (continueStart env { w with replies := w.replies.eraseIdx i } ws dir port launches now) := by
  have arrived : w.startArrived (.arrive i launches now) = some (ws, dir, port) := by
    simp [startArrived, hr, Reply.start]
  have starts := starts_arrive hr
  cases launches with
  | false =>
    refine ⟨.same rfl, ?_, rfl⟩
    rw [arrived, starts]
    exact (zero_add _).symm
  | true =>
    have old (w : World) := sameManager_destroyOld w ws.id
    refine ⟨?_, ?_, ?_⟩
    · have entries := EntriesAfter.launch (w := w) w.processes.length now
        (launched_eq_some.mpr ⟨i, now, rfl, hr⟩)
      exact (old _ _).workspaces.symm ▸ entries
    · rw [arrived, starts]
      exact (congrArg _ (old _ _).starts).trans (zero_add _).symm
    · exact congrArg (0 + ·) (old _ _).deletions

/-- What every step does to the entries, the starts and the deletions. -/
theorem manager_step {w w' : World} {e : Event} (st : step env w e = some w') :
    ManagerStep env w e w' := by
  cases does_of_step st with
  | start ws => exact start_step w ws
  | stop id =>
    obtain ⟨entries, starts, deletions⟩ := stop_same w id
    exact ⟨entries ▸ .stop id, congrArg (0 + ·) starts, (zero_add _).trans deletions⟩
  | stopAll =>
    obtain ⟨entries, starts, deletions⟩ := stopAll_same w
    exact ⟨entries ▸ .stopAll, congrArg (0 + ·) starts, (zero_add _).trans deletions⟩
  | watchdogPoll =>
    obtain ⟨starts, deletions, ids, entries⟩ := onPoll_same w
    exact ⟨entries ▸ .poll ids, congrArg (0 + ·) starts, congrArg (0 + ·) deletions⟩
  | pollTick | healthCheck =>
    exact .of_same (sameManager_updateApplier _ _ _ _) rfl rfl rfl rfl rfl
  | @runTask i t result reply ht hr =>
    have before : w.deletions = _ := coe_filterMap_eraseIdx PoolTask.deletion ht
    refine ⟨.same rfl, congrArg (0 + ·) (starts_runTask ht hr), ?_⟩
    rw [deletionRun, ht, before]
    exact (zero_add _).symm
  | continueStart launches now hr => exact continueStart_step hr launches now
  | @dropped i reply launches now hr other =>
    refine .of_reply hr ?_ launches now (.refl _)
    cases reply with
    | continueStart ws dir port => exact absurd rfl (other ws dir port)
    | _ => rfl
  | onCDPCheckResult launches now hr ha | onCommandsSent launches now hr ha =>
    exact .of_reply hr rfl launches now (sameManager_updateApplier _ _ _ _)
  | processListens | processExits | bindPort | releasePort =>
    exact .of_same ⟨rfl, rfl, rfl⟩ rfl rfl rfl rfl rfl

/-! ## What runs after a step -/

/-- What is launched had arrived. -/
lemma startArrived_of_launched {w : World} {e : Event} {l : Workspace × String × Int}
    (h : w.launched e = some l) : w.startArrived e = some l := by
  obtain ⟨i, now, rfl, hr⟩ := launched_eq_some.mp h
  simp [startArrived, hr, Reply.start]

/-- A start that is continued was under way. -/
lemma mem_starts_of_arrived {w : World} {e : Event} {s : Workspace × String × Int}
    (h : w.startArrived e = some s) : s ∈ w.starts := by
  cases e with
  | arrive i launches now =>
    obtain ⟨reply, hr, hs⟩ := Option.bind_eq_some_iff.mp h
    rw [starts_arrive hr, hs]
    exact Multiset.mem_add.mpr (.inl (Multiset.mem_singleton_self s))
  | _ => cases h

/-- A start that is under way after a step was so before, or the step posted it. -/
lemma mem_starts_step {w w' : World} {e : Event} (st : step env w e = some w')
    {s : Workspace × String × Int} (h : s ∈ w'.starts) :
    s ∈ w.starts ∨ startPosted env w e = some s := by
  have mem : s ∈ ↑(w.startArrived e).toList + w'.starts := Multiset.mem_add.mpr (.inr h)
  rw [(manager_step st).starts] at mem
  obtain posted | before := Multiset.mem_add.mp mem
  · exact .inr (Option.mem_toList.mp posted)
  · exact .inl before

/-- An entry that runs after others have crashed ran before. -/
lemma markCrashed_running {m : Std.ExtTreeMap String RunningWorkspace} {id id' : String}
    {r : RunningWorkspace} (h : (markCrashed m id)[id']? = some r) (running : r.status.running) :
    m[id']? = some r := by
  unfold markCrashed at h
  split at h
  · exact h
  · rw [KeyedMap.get_insert] at h
    split at h
    · cases h
      cases running
    · exact h

/-- A workspace that runs after a step ran before it, or it was launched. -/
lemma isRunning_step {w w' : World} {e : Event} (st : step env w e = some w') {id : String}
    (h : w'.isRunning id) : w.isRunning id ∨ ∃ l ∈ w.launched e, l.1.id = id := by
  have entries := (manager_step st).entries
  rw [isRunning_eq] at h
  rw [isRunning_eq]
  generalize w'.workspaces = m at entries h
  cases entries with
  | stop id' =>
    rw [KeyedMap.get_erase] at h
    split at h
    · cases h
    · exact .inl h
  | stopAll => cases h
  | poll ids =>
    refine .inl ?_
    generalize w.workspaces = m at h
    induction ids generalizing m with
    | nil => exact h
    | cons id' ids ih =>
      obtain ⟨r, hr, running⟩ := (Option.any_eq_true _ _).mp (ih _ h)
      rw [markCrashed_running hr running]
      exact running
  | @launch _ ws dir port pid now hl =>
    rw [KeyedMap.get_insert] at h
    split at h
    case isTrue e => exact .inr ⟨_, hl, e⟩
    case isFalse => exact .inl h
  | same => exact .inl h

/-- A workspace that is launched runs. -/
lemma isRunning_of_launched {w w' : World} {e : Event} (st : step env w e = some w')
    {l : Workspace × String × Int} (hl : w.launched e = some l) : w'.isRunning l.1.id := by
  have entries := (manager_step st).entries
  rw [isRunning_eq]
  generalize w'.workspaces = m at entries
  cases entries with
  | stop | stopAll | poll => cases hl
  | launch pid now hl' =>
    cases hl.symm.trans hl'
    rw [KeyedMap.get_insert, if_pos rfl]
    rfl
  | same none_launched => cases hl.symm.trans none_launched

/-- `Start` changes nothing about what runs. -/
lemma isRunning_start (w : World) (ws : Workspace) (id : String) :
    (World.start env w ws).isRunning id = w.isRunning id := by
  rw [isRunning_eq, isRunning_eq, World.start]
  split
  · rfl
  · split
    · rfl
    · dsimp only
      split <;> rfl

/-- What runs after a stop ran before it. -/
lemma isRunning_stop {w : World} {id id' : String} (h : (w.stop id).isRunning id') :
    w.isRunning id' := by
  rw [isRunning_eq, (stop_same w id).1, KeyedMap.get_erase] at h
  rw [isRunning_eq]
  split at h
  · cases h
  · exact h

end World

end PureCloak.Launcher
