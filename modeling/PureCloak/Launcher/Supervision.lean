import Mathlib.Algebra.Order.Group.Multiset
import Mathlib.Data.List.Perm.Basic
import PureCloak.Launcher.World
import PureCloak.Library.Supervisor

/-!
# The manager as a supervisor

To `RunningWorkspaceManager` the processes are children, the workspace ids their keys, and the ports the
resources: `Start` reserves a port, `ContinueStart` launches a process with it or drops it, `Stop` releases
the entry. `World.table` is a world seen so, `World.action` an event seen so, and `step_table` says
that the manager, the watchdog, the appliers and the thread pool do together what the supervisor does.
`wf_step` is what follows from it for every run.
-/

namespace PureCloak.Launcher
open PureCloak.Base PureCloak.Profiles

/-- The port that a task was posted with by `Start`. -/
def PoolTask.reserved : PoolTask → Option Int
  | .prepareUserDataDir _ _ port => some port
  | _ => none

/-- The port that `ContinueStart` is called with. -/
def Reply.reserved : Reply → Option Int
  | .continueStart _ _ port => some port
  | _ => none

def Process.child (p : Process) : Supervisor.Child String where
  owner := p.workspaceId
  alive := p.alive
  asked := p.terminateRequested

namespace World

/-- The ports that `Start` has found and that no process was launched with yet. -/
def pendingPorts (w : World) : Multiset Int :=
  ↑(w.pool.filterMap PoolTask.reserved) + ↑(w.replies.filterMap Reply.reserved)

/-- A world as the state of a supervisor. -/
def table (w : World) : Supervisor.State String Int where
  slot id := w.workspaces[id]?.bind fun r => r.process.map fun pid => (pid, r.cdpPort)
  children := w.processes.map Process.child
  pending := w.pendingPorts

/-- The port that `Start` posts its task with, if it posts one. -/
def startPort (w : World) (ws : Workspace) : Option Int :=
  if w.activeEntry ws.id = none ∧ w.workspaces.size < kMaxConcurrentWorkspaces ∧
      findAvailablePort w ≠ 0 then
    some (findAvailablePort w)
  else none

/-- An event as an action of a supervisor. -/
def action (w : World) : Event → Supervisor.Action String Int
  | .start ws => (w.startPort ws).elim .idle .reserve
  | .stop id => .release id
  | .stopAll => .releaseAll
  | .arrive i launches _ =>
    match w.replies[i]? with
    | some (.continueStart ws _ port) => if launches then .launch ws.id port else .drop port
    | _ => .idle
  | .processExits pid => .die pid
  | _ => .idle

/-- The launch that an event makes: the workspace, its user data directory and its port. -/
def launched (w : World) : Event → Option (Workspace × String × Int)
  | .arrive i true _ =>
    match w.replies[i]? with
    | some (.continueStart ws dir port) => some (ws, dir, port)
    | _ => none
  | _ => none

/-- A launch is a reply of `ContinueStart` whose process starts. -/
lemma launched_eq_some {w : World} {e : Event} {ws : Workspace} {dir : String} {port : Int} :
    w.launched e = some (ws, dir, port) ↔
      ∃ i now, e = .arrive i true now ∧ w.replies[i]? = some (.continueStart ws dir port) := by
  constructor
  · intro h
    unfold launched at h
    split at h
    case h_1 i now =>
      split at h
      case h_1 hr =>
        cases h
        exact ⟨i, now, rfl, hr⟩
      case h_2 => cases h
    case h_2 => cases h
  · rintro ⟨i, now, rfl, hr⟩
    simp [launched, hr]

/-- The events that launch are those with a launched workspace. -/
lemma action_eq_launch {w : World} {e : Event} {id : String} {port : Int} :
    w.action e = .launch id port ↔ ∃ ws dir, w.launched e = some (ws, dir, port) ∧ ws.id = id := by
  cases e with
  | start ws => cases h : w.startPort ws <;> simp [action, launched, h]
  | arrive i launches now =>
    cases launches with
    | false => cases h : w.replies[i]? with
      | none => simp [action, launched, h]
      | some reply => cases reply <;> simp [action, launched, h]
    | true => cases h : w.replies[i]? with
      | none => simp [action, launched, h]
      | some reply => cases reply <;> simp [action, launched, h, and_comm]
  | _ => simp [action, launched]

/-- The events that reserve a port are the calls of `Start` that get one. -/
lemma action_eq_reserve {w : World} {e : Event} {port : Int} :
    w.action e = .reserve port ↔ ∃ ws, e = .start ws ∧ w.startPort ws = some port := by
  cases e with
  | start ws => cases h : w.startPort ws <;> simp [action, h]
  | arrive i launches now =>
    cases h : w.replies[i]? with
    | none => simp [action, h]
    | some reply => cases reply <;> cases launches <;> simp [action, h]
  | _ => simp [action]

/-! ## What the table does not see -/

/-- The first element of a filtered list, as a part of the multiset. -/
lemma coe_filterMap_cons {α β : Type} (f : α → Option β) (x : α) (l : List α) :
    (↑((x :: l).filterMap f) : Multiset β) = ↑(f x).toList + ↑(l.filterMap f) := by
  cases h : f x <;> simp [h]

/-- A list has what is left of it without an item, and the item. -/
lemma coe_filterMap_eraseIdx {α β : Type} (f : α → Option β) {l : List α} {i : Nat} {x : α}
    (h : l[i]? = some x) :
    (↑(l.filterMap f) : Multiset β) = ↑(f x).toList + ↑((l.eraseIdx i).filterMap f) := by
  obtain ⟨lt, rfl⟩ := List.getElem?_eq_some_iff.mp h
  rw [← coe_filterMap_cons, Multiset.coe_eq_coe]
  exact ((List.getElem_cons_eraseIdx_perm lt).filterMap f).symm

/-- The last element of a filtered list, as a part of the multiset. -/
lemma coe_filterMap_concat {α β : Type} (f : α → Option β) (l : List α) (x : α) :
    (↑((l ++ [x]).filterMap f) : Multiset β) = ↑(f x).toList + ↑(l.filterMap f) := by
  rw [← coe_filterMap_cons, Multiset.coe_eq_coe]
  exact (List.perm_append_singleton x l).filterMap f

/-- A posted task adds the port that it has reserved. -/
lemma pendingPorts_post (w : World) (t : PoolTask) :
    pendingPorts { w with pool := w.pool ++ [t] } = ↑t.reserved.toList + w.pendingPorts := by
  rw [pendingPorts, coe_filterMap_concat, add_assoc]
  rfl

/-- A task without a reserved port is not seen in the table. -/
lemma table_post (w : World) {t : PoolTask} (h : t.reserved = none) :
    table { w with pool := w.pool ++ [t] } = w.table := by
  refine Supervisor.State.ext rfl rfl ?_
  show pendingPorts _ = pendingPorts w
  simp [pendingPorts_post, h]

/-- What an applier does is not seen in the table. -/
lemma table_runEffect (id : String) (n : Nat) (w : World) (e : ApplierEffect) :
    (runEffect id n w e).table = w.table := by
  cases e with
  | isCDPAvailable | sendCommands => exact table_post w rfl
  | close | runCallback | runNullCallback => rfl

/-- Nor are several of its effects. -/
lemma table_foldl_runEffect (id : String) (n : Nat) (l : List ApplierEffect) (w : World) :
    (l.foldl (runEffect id n) w).table = w.table := by
  induction l generalizing w with
  | nil => rfl
  | cons e l ih => rw [List.foldl_cons, ih, table_runEffect]

/-- A step of an applier is not seen in the table. -/
lemma table_updateApplier (w : World) (id : String) (n : Nat) (r : Applier × List ApplierEffect) :
    (w.updateApplier id n r).table = w.table := by
  rw [updateApplier, table_foldl_runEffect]
  rfl

/-- Nor is the end of an applier. -/
lemma table_destroyApplier (w : World) (id : String) (a : Nat × Applier) :
    (w.destroyApplier id a).table = w.table :=
  table_foldl_runEffect id a.1 a.2.destroy w

/-- Nor is the end of the one that a launch replaces. -/
lemma table_destroyOld (w : World) (id : String) (old : Option (Nat × Applier)) :
    (old.elim w (w.destroyApplier id)).table = w.table := by
  cases old with
  | none => rfl
  | some a => exact table_destroyApplier w id a

/-- Nor are the ends of all appliers. -/
lemma table_destroyAppliers (l : List (String × Nat × Applier)) (w : World) :
    (l.foldl (fun w a => w.destroyApplier a.1 a.2) w).table = w.table := by
  induction l generalizing w with
  | nil => rfl
  | cons a l ih => rw [List.foldl_cons, ih, table_destroyApplier]

/-- Nor is a deletion that is posted. -/
lemma table_postDelete (w : World) (dir : String) : (w.postDelete dir).table = w.table := by
  rw [postDelete]
  split
  · exact table_post w rfl
  · rfl

/-- Nor is a notification. -/
lemma table_notifyStatusChanged (w : World) (id : String) (status : Status) :
    (w.notifyStatusChanged id status).table = w.table := by
  rw [notifyStatusChanged]
  cases h : w.workspaces[id]? with
  | none => rfl
  | some r =>
    refine Supervisor.State.ext ?_ rfl rfl
    funext id'
    simp only [table, KeyedMap.get_insert]
    split
    case isTrue e =>
      subst e
      rw [h]
      rfl
    case isFalse => rfl

/-- A check of a process is not seen in the table. -/
lemma table_checkProcess (w : World) (id : String) : (w.checkProcess id).table = w.table := by
  rw [checkProcess]
  split
  · rfl
  · split
    · exact table_notifyStatusChanged _ id .kCrashed
    · split
      · rfl
      · split
        · rfl
        · exact table_notifyStatusChanged _ id .kCrashed

/-- Nor is a round of the watchdog. -/
lemma table_onPoll (w : World) : w.onPoll.table = w.table := by
  rw [onPoll]
  generalize w.watched.toList.filter Prod.snd = l
  induction l generalizing w with
  | nil => rfl
  | cons p l ih => rw [List.foldl_cons, ih, table_checkProcess]

/-! ## The steps that it sees -/

/-- A change of a process is a change of its child. -/
lemma map_child_modify {processes : List Process} {pid : Pid} {f : Process → Process}
    {g : Supervisor.Child String → Supervisor.Child String} (h : ∀ p, (f p).child = g p.child) :
    (processes.modify pid f).map Process.child = (processes.map Process.child).modify pid g := by
  refine List.ext_getElem? fun n => ?_
  rw [List.getElem?_map, List.getElem?_modify, List.getElem?_modify, List.getElem?_map]
  split
  · cases processes[n]? with
    | none => rfl
    | some p => exact congrArg some (h p)
  · simp

/-- `Terminate` asks one child of the table. -/
lemma table_terminate (w : World) (process : Option Pid) :
    table { w with processes := terminate w.processes process } =
      { w.table with
        children := process.elim w.table.children (w.table.children.modify · Supervisor.Child.ask) } := by
  refine Supervisor.State.ext rfl ?_ rfl
  cases process with
  | none => rfl
  | some pid => exact map_child_modify fun _ => rfl

/-- An entry that is erased is released in the table. -/
lemma table_erase (w : World) (id : String) :
    table { w with appliers := w.appliers.erase id, workspaces := w.workspaces.erase id } =
      { w.table with slot := Function.update w.table.slot id none } := by
  refine Supervisor.State.ext ?_ rfl rfl
  funext id'
  simp only [table, KeyedMap.get_erase, Function.update_apply, eq_comm (a := id')]
  split <;> rfl

/-- `Stop` releases the entry of its workspace. -/
lemma table_stop (w : World) (id : String) : (w.stop id).table = w.table.step (.release id) := by
  rw [stop]
  cases h : w.workspaces[id]? with
  | none =>
    have free : w.table.slot id = none := by simp [table, h]
    refine Supervisor.State.ext ?_ ?_ rfl
    · exact (Function.update_eq_self_iff.mpr free.symm).symm
    · simp [Supervisor.State.step, Supervisor.State.childOf, free]
  | some r =>
    have slot : w.table.childOf id = r.process := by
      cases e : r.process <;> simp [table, Supervisor.State.childOf, h, e]
    dsimp only
    rw [table_erase, table_destroyOld, table_postDelete, table_terminate, Supervisor.State.step, slot]
    cases r.process <;> rfl

/-- The loop of `StopAll` asks the processes of the entries that it goes through. -/
lemma table_stopEntries (l : List RunningWorkspace) (w : World) :
    (l.foldl stopEntry w).table =
      { w.table with
        children := w.table.children.mapIdx fun n c =>
          if ∃ r ∈ l, r.process = some n then c.ask else c } := by
  induction l generalizing w with
  | nil => exact Supervisor.State.ext rfl (List.ext_getElem? fun n => by simp) rfl
  | cons r l ih =>
    rw [List.foldl_cons, ih, stopEntry, table_postDelete, table_terminate]
    refine Supervisor.State.ext rfl ?_ rfl
    refine List.ext_getElem? fun n => ?_
    cases hp : r.process with
    | none => simp [hp]
    | some pid =>
      simp only [Option.elim_some, List.getElem?_mapIdx, List.getElem?_modify, List.mem_cons,
        exists_eq_or_imp, hp, Option.some.injEq]
      cases w.table.children[n]? with
      | none => simp
      | some c =>
        by_cases e : pid = n
        · simp [e, Supervisor.Child.ask]
        · simp [e]

/-- The entries that hold a process are the entry of the workspace it was launched for. -/
lemma exists_entry_iff {w : World} (wf : Supervisor.WF w.table) {pid : Pid}
    {c : Supervisor.Child String} (hc : w.table.children[pid]? = some c) :
    (∃ r ∈ w.workspaces.toList.map Prod.snd, r.process = some pid) ↔
      w.table.childOf c.owner = some pid := by
  have childOf {id : String} :
      w.table.childOf id = some pid ↔ ∃ r, w.workspaces[id]? = some r ∧ r.process = some pid := by
    simp [table, Supervisor.State.childOf, Option.bind_eq_some_iff]
  constructor
  · rintro ⟨r, hr, hp⟩
    obtain ⟨⟨id, _⟩, mem, rfl⟩ := List.mem_map.mp hr
    have slot := childOf.mpr ⟨_, Std.ExtTreeMap.mem_toList_iff_getElem?_eq_some.mp mem, hp⟩
    obtain ⟨c', hc', rfl⟩ := wf id pid slot
    cases hc.symm.trans hc'
    exact slot
  · intro slot
    obtain ⟨r, hr, hp⟩ := childOf.mp slot
    exact ⟨r, List.mem_map_of_mem (Std.ExtTreeMap.mem_toList_iff_getElem?_eq_some.mpr hr), hp⟩

/-- `StopAll` releases all entries. -/
lemma table_stopAll {w : World} (wf : Supervisor.WF w.table) :
    w.stopAll.table = w.table.step .releaseAll := by
  have emptied (w : World) : table { w with appliers := ∅, workspaces := ∅ } =
      { w.table with slot := fun _ => none } := by
    refine Supervisor.State.ext ?_ rfl rfl
    funext id
    simp [table]
  rw [stopAll]
  dsimp only
  rw [emptied, table_destroyAppliers, table_stopEntries]
  refine Supervisor.State.ext rfl ?_ rfl
  refine List.ext_getElem? fun n => ?_
  simp only [Supervisor.State.step, List.getElem?_mapIdx]
  cases hc : w.table.children[n]? with
  | none =>
    have hc' : (table { w with watched := ∅, watchdogTimer := false }).children[n]? = none := hc
    rw [hc']
    rfl
  | some c =>
    have hc' : (table { w with watched := ∅, watchdogTimer := false }).children[n]? = some c := hc
    rw [hc', Option.map_some, Option.map_some]
    simp only [exists_entry_iff wf hc]

variable (env : Env)

/-- `Start` reserves its port, or does nothing to the table. -/
lemma table_start (w : World) (ws : Workspace) :
    (start env w ws).table = w.table.step (w.action (.start ws)) := by
  simp only [start, action, startPort]
  cases w.activeEntry ws.id with
  | some r =>
    simp only [reduceCtorEq, false_and, if_false]
    rfl
  | none =>
    simp only [true_and, ge_iff_le, ne_eq]
    split
    case isTrue full =>
      rw [if_neg (by omega)]
      rfl
    case isFalse room =>
      split
      case isTrue e =>
        rw [if_neg (by simp [e])]
        rfl
      case isFalse found =>
        rw [if_pos ⟨by omega, found⟩]
        exact Supervisor.State.ext rfl rfl (pendingPorts_post w _)

/-- A reply that arrives is no longer pending. -/
lemma pendingPorts_arrive {w : World} {i : Nat} {reply : Reply} (h : w.replies[i]? = some reply) :
    w.pendingPorts = ↑reply.reserved.toList + pendingPorts { w with replies := w.replies.eraseIdx i } := by
  rw [pendingPorts, pendingPorts, coe_filterMap_eraseIdx _ h]
  exact add_left_comm _ _ _

/-- The reply of a task carries the port that the task has reserved. -/
lemma taskReply_reserved {t : PoolTask} {result : TaskResult} {reply : Option Reply}
    (h : taskReply t result = some reply) : reply.bind Reply.reserved = t.reserved := by
  unfold taskReply at h
  split at h <;> cases h <;> rfl

/-- What the tasks and the replies hold stays the same when the reply to a task holds what the task held. -/
lemma coe_filterMap_runTask {β : Type} {f : PoolTask → Option β} {g : Reply → Option β}
    {pool : List PoolTask} {i : Nat} {t : PoolTask} {reply : Option Reply} (ht : pool[i]? = some t)
    (h : reply.bind g = f t) (replies : List Reply) :
    (↑((pool.eraseIdx i).filterMap f) + ↑((replies ++ reply.toList).filterMap g) : Multiset β) =
      ↑(pool.filterMap f) + ↑(replies.filterMap g) := by
  have single : reply.toList.filterMap g = (f t).toList := by
    rw [← h]
    cases reply with
    | none => rfl
    | some r => cases hr : g r <;> simp [hr]
  rw [coe_filterMap_eraseIdx f ht, List.filterMap_append, ← Multiset.coe_add, single, add_assoc,
    ← add_assoc]
  exact add_comm _ _

/-- A task that has run is pending as its reply. -/
lemma pendingPorts_runTask {w : World} {i : Nat} {t : PoolTask} {result : TaskResult}
    {reply : Option Reply} (ht : w.pool[i]? = some t) (h : taskReply t result = some reply) :
    pendingPorts { w with pool := w.pool.eraseIdx i, replies := w.replies ++ reply.toList } =
      w.pendingPorts :=
  coe_filterMap_runTask ht (taskReply_reserved h) w.replies

/-- `ContinueStart` launches a child on the reserved port. -/
lemma table_continueStart {w : World} {i : Nat} {ws : Workspace} {dir : String} {port : Int}
    (h : w.replies[i]? = some (.continueStart ws dir port)) (launches : Bool) (now : Time) :
    (continueStart env { w with replies := w.replies.eraseIdx i } ws dir port launches now).table =
      w.table.step (if launches then .launch ws.id port else .drop port) := by
  have pending : pendingPorts { w with replies := w.replies.eraseIdx i } =
      w.table.pending.erase port := by
    show _ = w.pendingPorts.erase port
    rw [pendingPorts_arrive h]
    simp [Reply.reserved]
  cases launches with
  | false => exact Supervisor.State.ext rfl rfl pending
  | true =>
    refine (table_destroyOld _ ws.id _).trans (Supervisor.State.ext ?_ ?_ pending)
    · funext id
      simp only [table, KeyedMap.get_insert, Supervisor.State.step, Function.update_apply,
        eq_comm (a := id), if_true]
      split
      · simp [newEntry]
      · rfl
    · simp [table, Supervisor.State.step, newProcess, Process.child]

/-- Every step of the world is an action of the supervisor. -/
theorem step_table {w w' : World} (wf : Supervisor.WF w.table) {e : Event}
    (st : step env w e = some w') : w'.table = w.table.step (w.action e) := by
  have arrives {i : Nat} {reply : Reply} (hr : w.replies[i]? = some reply)
      (h : reply.reserved = none) : table { w with replies := w.replies.eraseIdx i } = w.table := by
    refine Supervisor.State.ext rfl rfl ?_
    show _ = w.pendingPorts
    rw [pendingPorts_arrive hr, h]
    rfl
  cases does_of_step st with
  | start ws => exact table_start env w ws
  | stop id => exact table_stop w id
  | stopAll => exact table_stopAll wf
  | watchdogPoll => exact table_onPoll w
  | pollTick | healthCheck => exact table_updateApplier w _ _ _
  | runTask ht hr => exact Supervisor.State.ext rfl rfl (pendingPorts_runTask ht hr)
  | continueStart launches now hr =>
    simp only [action, hr]
    exact table_continueStart env hr launches now
  | @dropped i reply launches now hr other =>
    cases reply with
    | continueStart ws dir port => exact absurd rfl (other ws dir port)
    | onCDPCheckResult | onCommandsSent =>
      simp only [action, hr]
      exact arrives hr rfl
  | onCDPCheckResult launches now hr ha =>
    simp only [action, hr]
    exact (table_updateApplier _ _ _ _).trans (arrives hr rfl)
  | onCommandsSent launches now hr ha =>
    simp only [action, hr]
    exact (table_updateApplier _ _ _ _).trans (arrives hr rfl)
  | processListens =>
    refine Supervisor.State.ext rfl ?_ rfl
    exact (map_child_modify fun _ => rfl).trans (List.modify_id _ _)
  | processExits pid =>
    refine Supervisor.State.ext rfl ?_ rfl
    exact map_child_modify fun _ => rfl
  | bindPort | releasePort => rfl

/-! ## Runs -/

/-- The table of an empty world is well formed. -/
lemma table_init : Supervisor.WF (table {}) := by
  intro id n h
  simp [table, Supervisor.State.childOf] at h

variable {env}

/-- Every step keeps the table well formed. -/
lemma wf_step {w w' : World} {e : Event} (wf : Supervisor.WF w.table)
    (st : step env w e = some w') : Supervisor.WF w'.table := by
  rw [step_table env wf st]
  exact wf.step _

end World

end PureCloak.Launcher
