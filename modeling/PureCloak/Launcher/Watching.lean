import PureCloak.Launcher.Refusals

/-!
# The watchdog

The watchdog watches exactly the workspaces whose entries run, and its timer runs when there is one (`Covers`). What its
polls report is told to the observers of the manager: an `Observed` world is one with what they are told of the status
of a workspace. A process that exits is reported by the next poll, if its entry is still there, and by no other one
(`exits_reported`).
-/

namespace PureCloak.Launcher
open PureCloak.Base PureCloak.Profiles Machine

/-- `OnWorkspaceStatusChanged`: the workspace, its status, and the entry that the details are made of. -/
structure StatusChange where
  workspaceId : String
  status : Status
  entry : Option RunningWorkspace

/-- A world, and what the observers are told of it. -/
structure Observed extends World where
  changes : List StatusChange := []

namespace Observed

/-- `NotifyStatusChanged`, with its observers. -/
def notifyStatusChanged (o : Observed) (id : String) (status : Status) : Observed :=
  let w := o.toWorld.notifyStatusChanged id status
  ⟨w, o.changes ++ [⟨id, status, w.workspaces[id]?⟩]⟩

/-- `StopWatching`. -/
def stopWatching (o : Observed) (id : String) : Observed :=
  ⟨o.toWorld.stopWatching id, o.changes⟩

/-- `CheckProcess`. -/
def checkProcess (o : Observed) (id : String) : Observed :=
  match o.workspaces[id]? with
  | none => o.stopWatching id
  | some r =>
    match r.process.bind (o.processes[·]?) with
    -- not valid
    | none => (o.stopWatching id).notifyStatusChanged id .kCrashed
    | some p =>
      if p.alive then o
      else if r.status = .kStopped then o.stopWatching id
      else (o.stopWatching id).notifyStatusChanged id .kCrashed

/-- `OnPoll`. -/
def onPoll (o : Observed) : Observed :=
  (o.watched.toList.filter Prod.snd).foldl (fun o p => o.checkProcess p.1) o

variable (env : Env)

/-- One step of the world; only a poll of the watchdog changes the status of an entry that stays. -/
def step (o : Observed) : World.Event → Option Observed
  | .watchdogPoll => (World.step env o.toWorld .watchdogPoll).map fun _ => o.onPoll
  | e => (World.step env o.toWorld e).map fun w => ⟨w, o.changes⟩

variable {env}

/-- The observed check is the one of the world. -/
lemma checkProcess_toWorld (o : Observed) (id : String) :
    (o.checkProcess id).toWorld = o.toWorld.checkProcess id := by
  rw [checkProcess, World.checkProcess]
  cases o.workspaces[id]? with
  | none => rfl
  | some r =>
    dsimp only
    cases r.process.bind (o.processes[·]?) with
    | none => rfl
    | some p =>
      dsimp only
      split_ifs
      · rfl
      · rfl
      · rfl

/-- The observed round is the one of the world. -/
lemma onPoll_toWorld (o : Observed) : o.onPoll.toWorld = o.toWorld.onPoll := by
  rw [onPoll, World.onPoll]
  generalize o.watched.toList.filter Prod.snd = l
  induction l generalizing o with
  | nil => rfl
  | cons p l ih => rw [List.foldl_cons, List.foldl_cons, ih, checkProcess_toWorld]

/-- The steps are those of the world. -/
lemma step_toWorld {o o' : Observed} {e : World.Event} (st : step env o e = some o') :
    World.step env o.toWorld e = some o'.toWorld := by
  cases e with
  | watchdogPoll =>
    obtain ⟨w, moved, rfl⟩ := Option.map_eq_some_iff.mp st
    cases World.does_of_step moved
    rw [moved, onPoll_toWorld]
  | _ =>
    obtain ⟨w, moved, rfl⟩ := Option.map_eq_some_iff.mp st
    exact moved

/-- Only a poll tells the observers of a status. -/
lemma changes_step {o o' : Observed} {e : World.Event} (st : step env o e = some o') (no_poll : e ≠ .watchdogPoll) :
    o'.changes = o.changes := by
  cases e with
  | watchdogPoll => exact absurd rfl no_poll
  | _ =>
    obtain ⟨w, _, rfl⟩ := Option.map_eq_some_iff.mp st
    rfl

end Observed

/-! ## What is watched -/

namespace World
variable {env : Env} {w w' : World}

/-- The workspaces that run are watched, and no other ones, and the timer runs when there is one. -/
structure Covers (w : World) : Prop where
  watched : ∀ id, w.watched[id]? = if w.isRunning id then some true else none
  timer : w.watchdogTimer = !w.watched.isEmpty

/-- Two worlds with the same entries and the same watch. -/
structure SameWatch (w w' : World) : Prop where
  workspaces : w'.workspaces = w.workspaces
  watched : w'.watched = w.watched
  timer : w'.watchdogTimer = w.watchdogTimer

/-- Nothing changes for the watchdog when nothing changes. -/
lemma SameWatch.refl (w : World) : SameWatch w w :=
  ⟨rfl, rfl, rfl⟩

/-- Two such steps are one. -/
lemma SameWatch.trans {w'' : World} (h : SameWatch w w') (h' : SameWatch w' w'') : SameWatch w w'' where
  workspaces := h'.workspaces.trans h.workspaces
  watched := h'.watched.trans h.watched
  timer := h'.timer.trans h.timer

/-- So are the steps of a list. -/
lemma SameWatch.foldl {α : Type} {f : World → α → World} (h : ∀ w x, SameWatch w (f w x)) (l : List α) (w : World) :
    SameWatch w (l.foldl f w) := by
  induction l generalizing w with
  | nil => exact .refl w
  | cons x l ih => exact (h w x).trans (ih (f w x))

/-- What an applier does changes nothing for the watchdog. -/
lemma sameWatch_runEffect (id : String) (n : Nat) (w : World) (e : ApplierEffect) :
    SameWatch w (runEffect id n w e) := by
  cases e <;> exact ⟨rfl, rfl, rfl⟩

/-- Nor does a step of an applier. -/
lemma sameWatch_updateApplier (w : World) (id : String) (n : Nat) (r : Applier × List ApplierEffect) :
    SameWatch w (w.updateApplier id n r) := by
  have inserted : SameWatch w { w with appliers := w.appliers.insert id (n, r.1) } := ⟨rfl, rfl, rfl⟩
  exact inserted.trans (.foldl (sameWatch_runEffect id n) r.2 _)

/-- Nor the end of an applier. -/
lemma sameWatch_destroyApplier (w : World) (id : String) (a : Nat × Applier) :
    SameWatch w (w.destroyApplier id a) :=
  .foldl (sameWatch_runEffect id a.1) a.2.destroy w

/-- Nor the end of the one that a launch replaces. -/
lemma sameWatch_destroyOld (w : World) (id : String) (old : Option (Nat × Applier)) :
    SameWatch w (old.elim w (w.destroyApplier id)) := by
  cases old with
  | none => exact .refl w
  | some a => exact sameWatch_destroyApplier w id a

/-- Nor a deletion that is posted. -/
lemma sameWatch_postDelete (w : World) (dir : String) : SameWatch w (w.postDelete dir) := by
  rw [postDelete]
  split_ifs
  · exact ⟨rfl, rfl, rfl⟩
  · exact .refl w

/-- Nor what is done for an entry that stops. -/
lemma sameWatch_stopEntry (w : World) (r : RunningWorkspace) : SameWatch w (w.stopEntry r) := by
  have terminated : SameWatch w { w with processes := terminate w.processes r.process } := ⟨rfl, rfl, rfl⟩
  exact terminated.trans (sameWatch_postDelete _ r.userDataDir)

/-- Nor does `Start`, which only posts a task. -/
lemma sameWatch_start (w : World) (ws : Workspace) : SameWatch w (World.start env w ws) := by
  rw [World.start]
  cases w.activeEntry ws.id with
  | some r => exact ⟨rfl, rfl, rfl⟩
  | none =>
    dsimp only
    split_ifs <;> exact ⟨rfl, rfl, rfl⟩

/-- What a step does to the entries and the watch. -/
inductive WatchStep (w w' : World) : Event → Prop where
  | same {e} :
    SameWatch w w' →
    WatchStep w w' e
  | stops {id} :
    w'.workspaces = w.workspaces.erase id →
    w'.watched = w.watched.erase id →
    w'.watchdogTimer = (if (w.watched.erase id).isEmpty then false else w.watchdogTimer) →
    WatchStep w w' (.stop id)
  | stopsAll :
    w'.workspaces = ∅ →
    w'.watched = ∅ →
    w'.watchdogTimer = false →
    WatchStep w w' .stopAll
  | launches {e ws dir port now} :
    w.launched e = some (ws, dir, port) →
    w'.workspaces = w.workspaces.insert ws.id (newEntry ws dir port w.processes.length now) →
    w'.watched = w.watched.insert ws.id true →
    w'.watchdogTimer = true →
    WatchStep w w' e
  | polls :
    w' = w.onPoll →
    WatchStep w w' .watchdogPoll

/-- `Stop` erases the entry and stops watching it. -/
lemma watchStep_stop (w : World) (id : String) : WatchStep w (w.stop id) (.stop id) := by
  cases found : w.workspaces[id]? with
  | none =>
    rw [stop, found]
    exact .same (.refl w)
  | some r =>
    have after (w : World) (old : Option (Nat × Applier)) (dir : String) :=
      (sameWatch_postDelete w dir).trans (sameWatch_destroyOld _ id old)
    refine .stops (stop_same w id).1 ?_ ?_
    · rw [stop, found]
      exact (after _ _ _).watched
    · rw [stop, found]
      exact (after _ _ _).timer

/-- `StopAll` erases all entries and stops watching. -/
lemma watchStep_stopAll (w : World) : WatchStep w w.stopAll .stopAll := by
  have entries := SameWatch.foldl sameWatch_stopEntry (w.workspaces.toList.map Prod.snd)
    { w with watched := ∅, watchdogTimer := false }
  have appliers (w : World) (l : List (String × Nat × Applier)) :=
    SameWatch.foldl (fun w a => sameWatch_destroyApplier w a.1 a.2) l w
  exact .stopsAll rfl ((appliers _ _).watched.trans entries.watched) ((appliers _ _).timer.trans entries.timer)

/-- `ContinueStart` makes an entry and watches it, or nothing happens. -/
lemma watchStep_continueStart {i : Nat} {ws : Workspace} {dir : String} {port : Int}
    (hr : w.replies[i]? = some (.continueStart ws dir port)) (launches : Bool) (now : Time) :
    WatchStep w (continueStart env { w with replies := w.replies.eraseIdx i } ws dir port launches now)
      (.arrive i launches now) := by
  cases launches with
  | false => exact .same ⟨rfl, rfl, rfl⟩
  | true =>
    have old (w : World) := sameWatch_destroyOld w ws.id
    exact .launches (launched_eq_some.mpr ⟨i, now, rfl, hr⟩) (old _ _).workspaces (old _ _).watched (old _ _).timer

/-- Every step does one of these. -/
lemma watch_step {e : Event} (st : step env w e = some w') : WatchStep w w' e := by
  cases does_of_step st with
  | start ws => exact .same (sameWatch_start w ws)
  | stop id => exact watchStep_stop w id
  | stopAll => exact watchStep_stopAll w
  | watchdogPoll => exact .polls rfl
  | pollTick | healthCheck => exact .same (sameWatch_updateApplier _ _ _ _)
  | continueStart launches now hr => exact watchStep_continueStart hr launches now
  | @onCDPCheckResult i | @onCommandsSent i =>
    have dropped : SameWatch w { w with replies := w.replies.eraseIdx i } := ⟨rfl, rfl, rfl⟩
    exact .same (dropped.trans (sameWatch_updateApplier _ _ _ _))
  | runTask | dropped | processListens | processExits | bindPort | releasePort => exact .same ⟨rfl, rfl, rfl⟩

/-! ## The watch covers what runs -/

/-- What the watchdog covers depends on what it sees alone. -/
lemma Covers.same (h : Covers w) (same : SameWatch w w') : Covers w' where
  watched id := by
    rw [same.watched, h.watched, isRunning_eq, isRunning_eq, same.workspaces]
  timer := by
    rw [same.timer, h.timer, same.watched]

/-- A workspace that does not run any more is not watched any more. -/
lemma Covers.erase {id : String} (h : Covers w) (idle : w'.isRunning id = false)
    (others : ∀ k, id ≠ k → w'.workspaces[k]? = w.workspaces[k]?) (watched : w'.watched = w.watched.erase id)
    (timer : w'.watchdogTimer = if (w.watched.erase id).isEmpty then false else w.watchdogTimer) : Covers w' where
  watched k := by
    rw [watched, KeyedMap.get_erase]
    by_cases own : id = k
    · rw [if_pos own, ← own, idle]
      rfl
    · rw [if_neg own, h.watched, isRunning_eq, isRunning_eq, others k own]
  timer := by
    rw [timer, watched, h.timer]
    cases empty : (w.watched.erase id).isEmpty with
    | true => rfl
    | false =>
      cases all : w.watched.isEmpty with
      | false => rfl
      | true =>
        rw [Std.ExtTreeMap.isEmpty_iff.mp all, Std.ExtTreeMap.erase_empty] at empty
        cases empty

/-- A running entry is covered when it is watched with a timer. -/
lemma Covers.insert {id : String} {r : RunningWorkspace} (h : Covers w) (running : r.status.running = true)
    (workspaces : w'.workspaces = w.workspaces.insert id r) (watched : w'.watched = w.watched.insert id true)
    (timer : w'.watchdogTimer = true) : Covers w' where
  watched k := by
    rw [watched, KeyedMap.get_insert, isRunning_eq, workspaces, KeyedMap.get_insert]
    by_cases own : id = k
    · rw [if_pos own, if_pos own, Option.any_some, running]
      rfl
    · rw [if_neg own, if_neg own, h.watched, isRunning_eq]
  timer := by
    rw [timer, watched]
    simp

/-- An empty world is covered. -/
lemma covers_init : Covers {} where
  watched _ := by simp [isRunning_eq]
  timer := by simp

/-- An entry that is marked as crashed does not run. -/
lemma isRunning_markCrashed {id : String} (workspaces : w'.workspaces = markCrashed w.workspaces id) :
    w'.isRunning id = false := by
  rw [isRunning_eq, workspaces, markCrashed]
  cases found : w.workspaces[id]? with
  | none =>
    dsimp only
    rw [found]
    rfl
  | some r =>
    dsimp only
    rw [KeyedMap.get_insert, if_pos rfl]
    rfl

/-- The other entries are as they were. -/
lemma get_markCrashed {m : Std.ExtTreeMap String RunningWorkspace} {id k : String} (ne : id ≠ k) :
    (markCrashed m id)[k]? = m[k]? := by
  rw [markCrashed]
  cases m[id]? with
  | none => rfl
  | some r => exact (KeyedMap.get_insert _ _ _ _).trans (if_neg ne)

/-- A check that finds the entry as it should be keeps the watch as it should be. -/
lemma Covers.checkProcess (h : Covers w) (id : String) : Covers (w.checkProcess id) := by
  have stopped (idle : w.isRunning id = false) : Covers (w.stopWatching id) :=
    h.erase idle (fun _ _ => rfl) rfl rfl
  have crashed : Covers ((w.stopWatching id).notifyStatusChanged id .kCrashed) := by
    rw [notifyStatusChanged_crashed]
    exact h.erase (isRunning_markCrashed (w := w) rfl) (fun _ ne => get_markCrashed ne) rfl rfl
  rw [World.checkProcess]
  cases found : w.workspaces[id]? with
  | none =>
    apply stopped
    rw [isRunning_eq, found]
    rfl
  | some r =>
    dsimp only
    cases r.process.bind (w.processes[·]?) with
    | none => exact crashed
    | some p =>
      dsimp only
      split_ifs with alive status
      · exact h
      · apply stopped
        rw [isRunning_eq, found, Option.any_some, status]
        rfl
      · exact crashed

/-- A round of the watchdog leaves the running entries covered. -/
lemma Covers.onPoll (h : Covers w) : Covers w.onPoll := by
  rw [World.onPoll]
  generalize w.watched.toList.filter Prod.snd = l
  induction l generalizing w with
  | nil => exact h
  | cons p l ih => exact ih (h.checkProcess p.1)

/-- Every step leaves the running entries covered. -/
lemma Covers.step {e : Event} (h : Covers w) (st : step env w e = some w') : Covers w' := by
  cases watch_step st with
  | same same => exact h.same same
  | @stops id workspaces watched timer =>
    refine h.erase ?_ ?_ watched timer
    · rw [isRunning_eq, workspaces, KeyedMap.get_erase, if_pos rfl]
      rfl
    · intro k ne
      rw [workspaces, KeyedMap.get_erase, if_neg ne]
  | stopsAll workspaces watched timer =>
    refine ⟨fun id => ?_, ?_⟩
    · rw [isRunning_eq, workspaces, watched]
      rfl
    · rw [timer, watched]
      rfl
  | launches _ workspaces watched timer => exact h.insert rfl workspaces watched timer
  | polls polled => exact polled ▸ h.onPoll

end World

/-! ## What is reported -/

namespace Observed
open World (Covers RunsOrCrashed isRunning_eq)
variable {env : Env} {o o' : Observed}

/-- What the observers were told of a process. -/
def reportsOf (o : Observed) (pid : Pid) : List StatusChange :=
  o.changes.filter fun c => c.entry.any (·.process = some pid)

/-- The processes of the entries that have crashed are those that were reported, and they are dead. -/
structure Inv (o : Observed) : Prop where
  covers : Covers o.toWorld
  wf : Supervisor.WF o.table
  statuses : RunsOrCrashed o.workspaces
  process : ∀ (id : String) (r : RunningWorkspace), o.workspaces[id]? = some r → ∃ pid, r.process = some pid
  told : ∀ (id : String) (r : RunningWorkspace) (pid : Pid), o.workspaces[id]? = some r → r.process = some pid →
    (r.status = .kCrashed ↔ o.reportsOf pid ≠ [])
  dead : ∀ (id : String) (r : RunningWorkspace) (pid : Pid) (p : Process), o.workspaces[id]? = some r →
    r.process = some pid → r.status = .kCrashed → o.processes[pid]? = some p → p.alive = false
  fresh : ∀ pid, o.processes.length ≤ pid → o.reportsOf pid = []

/-- The entry of a process that has exited is marked, and the observers are told. -/
def crash (o : Observed) (id : String) (r : RunningWorkspace) : Observed :=
  ⟨{ o.toWorld.stopWatching id with workspaces := o.workspaces.insert id { r with status := .kCrashed } },
    o.changes ++ [⟨id, .kCrashed, some { r with status := .kCrashed }⟩]⟩

/-- The process of an entry is the child of its id. -/
lemma childOf_of_entry {id : String} {r : RunningWorkspace} {pid : Pid} (found : o.workspaces[id]? = some r)
    (process : r.process = some pid) : o.table.childOf id = some pid := by
  rw [Supervisor.State.childOf, World.table]
  dsimp only
  rw [found, Option.bind_some, process]
  rfl

/-- The process of an entry was launched, for its workspace. -/
lemma Inv.launched (inv : o.Inv) {id : String} {r : RunningWorkspace} {pid : Pid} (found : o.workspaces[id]? = some r)
    (process : r.process = some pid) : ∃ p, o.processes[pid]? = some p ∧ p.workspaceId = id := by
  obtain ⟨c, there, owner⟩ := inv.wf id pid (childOf_of_entry found process)
  obtain ⟨p, same, rfl⟩ := Option.map_eq_some_iff.mp ((List.getElem?_map ..).symm.trans there)
  exact ⟨p, same, owner⟩

/-- No two entries have the same process. -/
lemma Inv.unique (inv : o.Inv) {id k : String} {r r' : RunningWorkspace} {pid : Pid}
    (found : o.workspaces[id]? = some r) (process : r.process = some pid) (found' : o.workspaces[k]? = some r')
    (process' : r'.process = some pid) : id = k := by
  obtain ⟨p, there, owner⟩ := inv.launched found process
  obtain ⟨p', there', owner'⟩ := inv.launched found' process'
  cases there.symm.trans there'
  exact owner.symm.trans owner'

/-- A check of a workspace that runs. -/
lemma checkProcess_eq {id : String} {r : RunningWorkspace} {pid : Pid} {p : Process}
    (found : o.workspaces[id]? = some r) (process : r.process = some pid) (there : o.processes[pid]? = some p)
    (running : r.status.running = true) : o.checkProcess id = if p.alive then o else o.crash id r := by
  have not_stopped : r.status ≠ .kStopped := by
    intro stopped
    rw [stopped] at running
    cases running
  have notified : (o.stopWatching id).notifyStatusChanged id .kCrashed = o.crash id r := by
    have kept : (o.stopWatching id).workspaces[id]? = some r := found
    rw [notifyStatusChanged, World.notifyStatusChanged, kept]
    dsimp only
    rw [KeyedMap.get_insert, if_pos rfl]
    rfl
  rw [checkProcess, found]
  dsimp only
  rw [process, Option.bind_some, there]
  dsimp only
  rw [if_neg not_stopped, notified]

/-- A crash is reported for the process of the entry, and for no other. -/
lemma reportsOf_crash {id : String} {r : RunningWorkspace} (pid : Pid) :
    (o.crash id r).reportsOf pid =
      o.reportsOf pid ++
        if r.process = some pid then [⟨id, .kCrashed, some { r with status := .kCrashed }⟩] else [] := by
  rw [reportsOf, crash, List.filter_append]
  by_cases own : r.process = some pid
  · rw [if_pos own]
    exact congrArg (o.reportsOf pid ++ ·) (List.filter_cons_of_pos (decide_eq_true own))
  · rw [if_neg own]
    have other : ¬ decide (r.process = some pid) = true := fun same => own (of_decide_eq_true same)
    exact congrArg (o.reportsOf pid ++ ·) (List.filter_cons_of_neg other)

/-- A crash changes the status of its entry alone. -/
lemma get_crash {id k : String} {r : RunningWorkspace} :
    (o.crash id r).workspaces[k]? = if id = k then some { r with status := .kCrashed } else o.workspaces[k]? :=
  KeyedMap.get_insert _ _ _ _

/-- Another entry has another process. -/
lemma Inv.reportsOf_other (inv : o.Inv) {id k : String} {r r' : RunningWorkspace} {pid : Pid}
    (found : o.workspaces[id]? = some r) (ne : id ≠ k) (found' : o.workspaces[k]? = some r')
    (process : r'.process = some pid) : (o.crash id r).reportsOf pid = o.reportsOf pid := by
  have apart : r.process ≠ some pid := fun same => ne (inv.unique found same found' process)
  rw [reportsOf_crash, if_neg apart, List.append_nil]

/-- A crash of an entry whose process has exited keeps the invariant. -/
lemma Inv.crash (inv : o.Inv) {id : String} {r : RunningWorkspace} {pid : Pid} {p : Process}
    (found : o.workspaces[id]? = some r) (process : r.process = some pid) (there : o.processes[pid]? = some p)
    (running : r.status.running = true) (exited : p.alive = false) : (o.crash id r).Inv := by
  have checked : (o.crash id r).toWorld = o.toWorld.checkProcess id := by
    rw [← checkProcess_toWorld, checkProcess_eq found process there running, if_neg (exited ▸ Bool.false_ne_true)]
  refine ⟨?_, ?_, ?_, ?_, ?_, ?_, ?_⟩
  · exact checked ▸ inv.covers.checkProcess id
  · rw [checked, World.table_checkProcess]
    exact inv.wf
  · exact inv.statuses.insert id (.inr rfl)
  · intro k r' found'
    rw [get_crash] at found'
    split_ifs at found'
    · cases found'
      exact ⟨pid, process⟩
    · exact inv.process k r' found'
  · intro k r' pid' found' process'
    rw [get_crash] at found'
    split_ifs at found' with own
    · cases found'
      refine iff_of_true rfl ?_
      rw [reportsOf_crash, if_pos process']
      exact List.append_ne_nil_of_right_ne_nil _ (List.cons_ne_nil _ _)
    · rw [inv.reportsOf_other found own found' process']
      exact inv.told k r' pid' found' process'
  · intro k r' pid' p' found' process' crashed there'
    rw [get_crash] at found'
    split_ifs at found' with own
    · cases found'
      cases process.symm.trans process'
      cases there.symm.trans there'
      exact exited
    · exact inv.dead k r' pid' p' found' process' crashed there'
  · intro pid' unlaunched
    have ne : r.process ≠ some pid' := by
      intro same
      obtain ⟨q, launched, _⟩ := inv.launched found same
      exact absurd (List.getElem?_eq_some_iff.mp launched).1 (Nat.not_lt.mpr unlaunched)
    rw [reportsOf_crash, if_neg ne, List.append_nil]
    exact inv.fresh pid' unlaunched

/-- What is reported when the workspaces of a list are checked. -/
structure Checked (ids : List String) (o o' : Observed) : Prop where
  inv : o'.Inv
  reports : ∀ (id : String) (r : RunningWorkspace) (pid : Pid) (p : Process), o.workspaces[id]? = some r →
    r.process = some pid → o.processes[pid]? = some p →
    o'.reportsOf pid = o.reportsOf pid ++
      if id ∈ ids ∧ p.alive = false then [⟨id, .kCrashed, some { r with status := .kCrashed }⟩] else []
  others : ∀ pid, (∀ (id : String) (r : RunningWorkspace), o.workspaces[id]? = some r → r.process ≠ some pid) →
    o'.reportsOf pid = o.reportsOf pid

/-- The checks of a round, one after the other, for ids that differ and run. -/
lemma Inv.checks (inv : o.Inv) {ids : List String} (nodup : ids.Nodup)
    (running : ∀ id ∈ ids, o.isRunning id = true) : Checked ids o (ids.foldl checkProcess o) := by
  induction ids generalizing o with
  | nil =>
    refine ⟨inv, fun id r pid p _ _ _ => ?_, fun _ _ => rfl⟩
    rw [if_neg fun checked => absurd checked.1 List.not_mem_nil, List.append_nil]
    rfl
  | cons id ids ih =>
    obtain ⟨absent, nodup⟩ := List.nodup_cons.mp nodup
    have runs := running id List.mem_cons_self
    rw [isRunning_eq] at runs
    obtain ⟨r, found, runs⟩ := (Option.any_eq_true _ _).mp runs
    obtain ⟨pid, process⟩ := inv.process id r found
    obtain ⟨p, there, _⟩ := inv.launched found process
    rw [List.foldl_cons, checkProcess_eq found process there runs]
    cases alive : p.alive with
    | true =>
      obtain ⟨kept, reports, others⟩ := ih inv nodup fun k mem => running k (List.mem_cons_of_mem _ mem)
      refine ⟨kept, fun k r' pid' p' found' process' there' => ?_, others⟩
      refine (reports k r' pid' p' found' process' there').trans (congrArg _ (if_congr ?_ rfl rfl))
      refine ⟨fun ⟨mem, exited⟩ => ⟨List.mem_cons_of_mem _ mem, exited⟩, fun ⟨mem, exited⟩ => ⟨?_, exited⟩⟩
      refine (List.mem_cons.mp mem).resolve_left ?_
      intro own
      subst own
      cases found.symm.trans found'
      cases process.symm.trans process'
      cases there.symm.trans there'
      cases alive.symm.trans exited
    | false =>
      have running' (k : String) (mem : k ∈ ids) : (o.crash id r).isRunning k = true := by
        have ne : id ≠ k := fun same => absent (same ▸ mem)
        rw [isRunning_eq, get_crash, if_neg ne, ← isRunning_eq]
        exact running k (List.mem_cons_of_mem _ mem)
      obtain ⟨kept, reports, others⟩ := ih (inv.crash found process there runs alive) nodup running'
      refine ⟨kept, fun k r' pid' p' found' process' there' => ?_, fun pid' unused => ?_⟩
      · by_cases own : id = k
        · subst own
          cases found.symm.trans found'
          cases process.symm.trans process'
          cases there.symm.trans there'
          refine (reports id { r with status := .kCrashed } pid p ?_ process there).trans ?_
          · rw [get_crash, if_pos rfl]
          · rw [if_neg fun again => absent again.1, if_pos ⟨List.mem_cons_self, alive⟩, List.append_nil,
              reportsOf_crash, if_pos process]
        · refine (reports k r' pid' p' ?_ process' there').trans ?_
          · rw [get_crash, if_neg own]
            exact found'
          · rw [inv.reportsOf_other found own found' process']
            refine congrArg _ (if_congr ?_ rfl rfl)
            rw [List.mem_cons, or_iff_right (Ne.symm own)]
      · have apart : r.process ≠ some pid' := unused id r found
        refine (others pid' fun k r' found' => ?_).trans ?_
        · rw [get_crash] at found'
          split_ifs at found'
          · cases found'
            exact apart
          · exact unused k r' found'
        · rw [reportsOf_crash, if_neg apart, List.append_nil]

/-- The workspaces that a poll checks are those that run. -/
lemma Inv.onPoll (inv : o.Inv) : ∃ ids : List String, (∀ id, id ∈ ids ↔ o.isRunning id = true) ∧
    Checked ids o o.onPoll := by
  have mem (id : String) : id ∈ (o.watched.toList.filter Prod.snd).map Prod.fst ↔ o.isRunning id = true := by
    have watched : o.watched[id]? = some true ↔ o.isRunning id = true := by
      rw [inv.covers.watched id]
      cases o.isRunning id with
      | true => exact iff_of_true rfl rfl
      | false => exact iff_of_false (fun same => by cases same) Bool.false_ne_true
    rw [← watched, ← Std.ExtTreeMap.mem_toList_iff_getElem?_eq_some, List.mem_map]
    refine ⟨fun ⟨(k, active), listed, same⟩ => ?_, fun listed => ?_⟩
    · obtain ⟨listed, rfl⟩ := List.mem_filter.mp listed
      exact same ▸ listed
    · exact ⟨(id, true), List.mem_filter.mpr ⟨listed, rfl⟩, rfl⟩
  refine ⟨(o.watched.toList.filter Prod.snd).map Prod.fst, mem, ?_⟩
  have nodup : ((o.watched.toList.filter Prod.snd).map Prod.fst).Nodup := by
    have keys : (o.watched.toList.map Prod.fst).Nodup := by
      rw [Std.ExtTreeMap.map_fst_toList_eq_keys]
      exact Std.ExtTreeMap.nodup_keys
    exact keys.sublist (List.filter_sublist.map _)
  rw [Observed.onPoll, ← List.foldl_map (f := Prod.fst) (g := checkProcess)]
  exact inv.checks nodup fun id running => (mem id).mp running

/-! ## Runs -/

/-- What a step makes of a process. -/
lemma process_after (inv : o.Inv) {e : World.Event} (st : step env o e = some o') {pid : Pid} {p : Process}
    (there : o.processes[pid]? = some p) :
    ∃ p', o'.processes[pid]? = some p' ∧ (p'.alive = true → p.alive = true) := by
  have children := congrArg Supervisor.State.children (World.step_table env inv.wf (step_toWorld st))
  have child : o.table.children[pid]? = some p.child := by
    show (o.processes.map Process.child)[pid]? = _
    rw [List.getElem?_map, there]
    rfl
  obtain ⟨c', kept, after⟩ := (Supervisor.child_step o.table (o.action e) pid).1 _ child
  rw [← children] at kept
  obtain ⟨p', there', rfl⟩ := Option.map_eq_some_iff.mp ((List.getElem?_map ..).symm.trans kept)
  exact ⟨p', there', after.alive⟩

/-- The entries of a step that is no poll are old ones, or the one of a process that was just launched. -/
lemma entry_cases {e : World.Event} (no_poll : e ≠ .watchdogPoll) (st : step env o e = some o') {id : String}
    {r : RunningWorkspace} (found : o'.workspaces[id]? = some r) :
    o.workspaces[id]? = some r ∨ r.process = some o.processes.length ∧ r.status = .kRunning := by
  cases World.watch_step (step_toWorld st) with
  | same same => exact .inl (same.workspaces ▸ found)
  | stops workspaces =>
    rw [workspaces, KeyedMap.get_erase] at found
    split_ifs at found
    exact .inl found
  | stopsAll workspaces =>
    rw [workspaces] at found
    simp at found
  | launches _ workspaces =>
    rw [workspaces, KeyedMap.get_insert] at found
    split_ifs at found
    · cases found
      exact .inr ⟨rfl, rfl⟩
    · exact .inl found
  | polls => exact absurd rfl no_poll

/-- Every step keeps the invariant. -/
lemma Inv.step (inv : o.Inv) {e : World.Event} (st : step env o e = some o') : o'.Inv := by
  by_cases poll : e = .watchdogPoll
  · subst poll
    obtain ⟨w, _, rfl⟩ := Option.map_eq_some_iff.mp st
    obtain ⟨_, _, checked⟩ := inv.onPoll
    exact checked.inv
  have moved := step_toWorld st
  have same (pid : Pid) : o'.reportsOf pid = o.reportsOf pid := by
    rw [reportsOf, changes_step st poll]
    rfl
  refine ⟨inv.covers.step moved, World.wf_step inv.wf moved, World.runsOrCrashed_step inv.statuses moved, ?_, ?_, ?_,
    ?_⟩
  · intro id r found
    rcases entry_cases poll st found with old | ⟨launched, _⟩
    · exact inv.process id r old
    · exact ⟨_, launched⟩
  · intro id r pid found process
    rw [same]
    rcases entry_cases poll st found with old | ⟨launched, status⟩
    · exact inv.told id r pid old process
    · cases launched.symm.trans process
      refine iff_of_false (fun crashed => ?_) (fun told => told (inv.fresh _ (Nat.le_refl _)))
      cases status.symm.trans crashed
  · intro id r pid p found process crashed there
    rcases entry_cases poll st found with old | ⟨_, status⟩
    · obtain ⟨p0, there0, _⟩ := inv.launched old process
      obtain ⟨p', there', after⟩ := process_after inv st there0
      cases there.symm.trans there'
      have exited := inv.dead id r pid p0 old process crashed there0
      exact Bool.eq_false_iff.mpr fun alive => absurd (after alive) (exited ▸ Bool.false_ne_true)
    · cases status.symm.trans crashed
  · intro pid unlaunched
    rw [same]
    apply inv.fresh
    apply Nat.le_of_not_lt
    intro launched
    obtain ⟨p', there, _⟩ := process_after inv st (List.getElem?_eq_getElem launched)
    exact absurd (List.getElem?_eq_some_iff.mp there).1 (Nat.not_lt.mpr unlaunched)

/-- It holds of an empty world. -/
lemma inv_init : Inv {} := by
  have no_entry {id : String} {r : RunningWorkspace} : ¬ ({} : Observed).workspaces[id]? = some r := by
    simp
  refine ⟨World.covers_init, World.table_init, ?_, ?_, ?_, ?_, fun _ _ => rfl⟩
  · exact fun id r found => absurd found no_entry
  · exact fun id r found => absurd found no_entry
  · exact fun id r pid found => absurd found no_entry
  · exact fun id r pid p found => absurd found no_entry

/-- The process is the one of an entry. -/
def Holds (o : Observed) (id : String) (pid : Pid) : Prop :=
  ∃ r, o.workspaces[id]? = some r ∧ r.process = some pid

/-- An entry holds the child of its id. -/
lemma holds_iff {id : String} {pid : Pid} : o.Holds id pid ↔ o.table.childOf id = some pid := by
  refine ⟨fun ⟨r, found, process⟩ => childOf_of_entry found process, fun slot => ?_⟩
  obtain ⟨port, slot⟩ := Supervisor.childOf_eq_some.mp slot
  obtain ⟨r, found, held⟩ := Option.bind_eq_some_iff.mp slot
  obtain ⟨_, process, same⟩ := Option.map_eq_some_iff.mp held
  cases same
  exact ⟨r, found, process⟩

/-- A process that was launched before is in the entries that it was in. -/
lemma Inv.holds_step (inv : o.Inv) {e : World.Event} (st : Observed.step env o e = some o') {id : String} {pid : Pid}
    (launched : pid < o.processes.length) (holds : o'.Holds id pid) : o.Holds id pid := by
  rw [holds_iff, World.step_table env inv.wf (step_toWorld st)] at holds
  obtain ⟨port, slot⟩ := Supervisor.childOf_eq_some.mp holds
  rw [holds_iff]
  rcases Supervisor.slot_cases slot with old | ⟨port', _, same⟩
  · exact Supervisor.childOf_eq_some.mpr ⟨port, old⟩
  · cases same
    have length : o.table.children.length = o.processes.length := List.length_map _
    exact absurd (length ▸ launched) (Nat.lt_irrefl _)

/-- Nothing more is reported of the process: it is in no entry, or it was reported. -/
structure Settled (o : Observed) (pid : Pid) : Prop where
  launched : pid < o.processes.length
  reported : ∀ id, o.Holds id pid → o.reportsOf pid ≠ []

/-- A process that is settled stays so, and nothing more is reported for it. -/
lemma Inv.settled_step (inv : o.Inv) {e : World.Event} (st : Observed.step env o e = some o') {pid : Pid}
    (settled : o.Settled pid) : o'.Settled pid ∧ o'.reportsOf pid = o.reportsOf pid := by
  have same : o'.reportsOf pid = o.reportsOf pid := by
    by_cases poll : e = .watchdogPoll
    · subst poll
      obtain ⟨w, _, rfl⟩ := Option.map_eq_some_iff.mp st
      obtain ⟨ids, running, checked⟩ := inv.onPoll
      by_cases held : ∃ id, o.Holds id pid
      · obtain ⟨id, r, found, process⟩ := held
        obtain ⟨p, there, _⟩ := inv.launched found process
        have crashed := (inv.told id r pid found process).mpr (settled.reported id ⟨r, found, process⟩)
        refine (checked.reports id r pid p found process there).trans ?_
        rw [if_neg, List.append_nil]
        intro ⟨mem, _⟩
        have runs := (running id).mp mem
        rw [isRunning_eq, found, Option.any_some, crashed] at runs
        cases runs
      · exact checked.others pid fun id r found process => held ⟨id, r, found, process⟩
    · rw [reportsOf, changes_step st poll]
      rfl
  refine ⟨⟨?_, fun id holds => ?_⟩, same⟩
  · obtain ⟨p', there, _⟩ := process_after inv st (List.getElem?_eq_getElem settled.launched)
    exact (List.getElem?_eq_some_iff.mp there).1
  · rw [same]
    exact settled.reported id (inv.holds_step st settled.launched holds)

/-- What is said of a process that is settled stays as it is. -/
lemma Inv.settled_run (inv : o.Inv) {tr : List (Observed × World.Event)} (r : Run (Observed.step env) o tr o')
    {pid : Pid} (settled : o.Settled pid) : o'.reportsOf pid = o.reportsOf pid := by
  have kept : (o'.Inv ∧ o'.Settled pid) ∧ o'.reportsOf pid = o.reportsOf pid := by
    refine r.invariant (I := fun u => (u.Inv ∧ u.Settled pid) ∧ u.reportsOf pid = o.reportsOf pid) ?_
      ⟨⟨inv, settled⟩, rfl⟩
    intro u e v ⟨⟨inv, settled⟩, same⟩ st
    obtain ⟨settled', same'⟩ := inv.settled_step st settled
    exact ⟨⟨inv.step st, settled'⟩, same'.trans same⟩
  exact kept.2

/-- Until the next poll a dead process stays dead, nothing is reported of it, and no other entry gets it. -/
structure Waits (id : String) (pid : Pid) (o : Observed) : Prop where
  inv : o.Inv
  unreported : o.reportsOf pid = []
  dead : ∃ p, o.processes[pid]? = some p ∧ p.alive = false
  held : ∀ k, o.Holds k pid → id = k

/-- Until the next round a crashed process waits to be reported. -/
lemma Waits.step {id : String} {pid : Pid} (waits : Waits id pid o) {e : World.Event} (no_poll : e ≠ .watchdogPoll)
    (st : Observed.step env o e = some o') : Waits id pid o' := by
  obtain ⟨p, there, exited⟩ := waits.dead
  obtain ⟨p', there', after⟩ := process_after waits.inv st there
  refine ⟨waits.inv.step st, ?_, ⟨p', there', ?_⟩, fun k holds => ?_⟩
  · rw [reportsOf, changes_step st no_poll]
    exact waits.unreported
  · exact Bool.eq_false_iff.mpr fun alive => absurd (after alive) (exited ▸ Bool.false_ne_true)
  · exact waits.held k (waits.inv.holds_step st (List.getElem?_eq_some_iff.mp there).1 holds)

/-- A process that exits waits for the next poll. -/
lemma Inv.exits (inv : o.Inv) {id : String} {pid : Pid} {p : Process} (holds : o.Holds id pid)
    (there : o.processes[pid]? = some p) (alive : p.alive = true)
    (st : Observed.step env o (.processExits pid) = some o') : Waits id pid o' := by
  obtain ⟨r, found, process⟩ := holds
  have launched := (List.getElem?_eq_some_iff.mp there).1
  refine ⟨inv.step st, ?_, ⟨{ p with alive := false }, ?_, rfl⟩, fun k holds => ?_⟩
  · rw [reportsOf, changes_step st World.Event.noConfusion]
    by_contra told
    have crashed := (inv.told id r pid found process).mpr told
    cases alive.symm.trans (inv.dead id r pid p found process crashed there)
  · have moved := (Option.ite_none_left_eq_some.mp (step_toWorld st)).2
    rw [← Option.some.inj moved]
    show (o.processes.modify pid _)[pid]? = _
    rw [List.getElem?_modify_eq, there]
    rfl
  · obtain ⟨r', found', process'⟩ := inv.holds_step st launched holds
    exact inv.unique found process found' process'

/-- The poll that a dead process has waited for reports it, if it is still in the entry, and no poll after it does. -/
lemma Waits.poll {id : String} {pid : Pid} (waits : Waits id pid o)
    (st : Observed.step env o .watchdogPoll = some o') :
    o'.Settled pid ∧
    (o.Holds id pid → ∃ entry, o'.reportsOf pid = [⟨id, .kCrashed, some entry⟩]) ∧
    (¬ o.Holds id pid → o'.reportsOf pid = []) := by
  obtain ⟨p, there, exited⟩ := waits.dead
  have launched := (List.getElem?_eq_some_iff.mp there).1
  have still : pid < o'.processes.length := by
    obtain ⟨p', there', _⟩ := process_after waits.inv st there
    exact (List.getElem?_eq_some_iff.mp there').1
  by_cases holds : o.Holds id pid
  · have reported : ∃ entry, o'.reportsOf pid = [⟨id, .kCrashed, some entry⟩] := by
      obtain ⟨r, found, process⟩ := holds
      have runs : o.isRunning id = true := by
        have not_crashed : r.status ≠ .kCrashed := fun crashed =>
          (waits.inv.told id r pid found process).mp crashed waits.unreported
        rw [isRunning_eq, found, Option.any_some, (waits.inv.statuses id r found).resolve_right not_crashed]
        rfl
      obtain ⟨w, _, rfl⟩ := Option.map_eq_some_iff.mp st
      obtain ⟨ids, running, checked⟩ := waits.inv.onPoll
      refine ⟨{ r with status := .kCrashed }, (checked.reports id r pid p found process there).trans ?_⟩
      rw [if_pos ⟨(running id).mpr runs, exited⟩, waits.unreported]
      rfl
    refine ⟨⟨still, fun k _ => ?_⟩, fun _ => reported, fun gone => absurd holds gone⟩
    obtain ⟨entry, eq⟩ := reported
    rw [eq]
    exact List.cons_ne_nil _ _
  · have gone (k : String) : ¬ o.Holds k pid := fun held => holds (waits.held k held ▸ held)
    have settled : o.Settled pid := ⟨launched, fun k held => absurd held (gone k)⟩
    obtain ⟨settled', same⟩ := waits.inv.settled_step st settled
    exact ⟨settled', fun held => absurd held holds, fun _ => same.trans waits.unreported⟩

/-- The invariant holds in every run. -/
lemma inv_of_run {tr : List (Observed × World.Event)} (r : Run (step env) {} tr o) : o.Inv :=
  r.invariant (fun inv st => inv.step st) inv_init

/-- In every run the watch covers the workspaces that run, and of a process that exits while it is in an entry nothing
is reported up to the next poll, which reports it, when it is still in the entry, and then nothing more. -/
theorem exits_reported {tr : List (Observed × World.Event)} (r : Run (step env) {} tr o) :
    Always (fun o => Covers o.toWorld) tr o ∧
    ∀ tr1 o1 id pid p tr2 o2 tr3,
      tr = tr1 ++ (o1, .processExits pid) :: (tr2 ++ (o2, .watchdogPoll) :: tr3) →
      (∀ q ∈ tr2, q.2 ≠ .watchdogPoll) →
      o1.Holds id pid → o1.processes[pid]? = some p → p.alive = true →
      o2.reportsOf pid = [] ∧ ∃ o3, step env o2 .watchdogPoll = some o3 ∧
        (o2.Holds id pid → ∃ entry, o3.reportsOf pid = [⟨id, .kCrashed, some entry⟩] ∧
          o.reportsOf pid = [⟨id, .kCrashed, some entry⟩]) ∧
        (¬ o2.Holds id pid → o3.reportsOf pid = [] ∧ o.reportsOf pid = []) := by
  refine ⟨⟨?_, (inv_of_run r).covers⟩, ?_⟩
  · intro q mem
    obtain ⟨_, _, _, _, before, _⟩ := r.split mem
    exact (inv_of_run before).covers
  · intro tr1 o1 id pid p tr2 o2 tr3 eq no_poll holds there alive
    subst eq
    obtain ⟨o1', before, exits, after⟩ := r.split_at
    obtain ⟨o3, between, polls, rest⟩ := after.split_at
    have waits : Waits id pid o2 := by
      refine between.invariant_guarded (G := fun _ e => e ≠ World.Event.watchdogPoll) ?_ ?_ no_poll
      · exact fun waits no_poll st => waits.step no_poll st
      · exact (inv_of_run before).exits holds there alive exits
    obtain ⟨settled, reported, unreported⟩ := waits.poll polls
    have same := (waits.inv.step polls).settled_run rest settled
    refine ⟨waits.unreported, o3, polls, fun held => ?_, fun gone => ?_⟩
    · obtain ⟨entry, told⟩ := reported held
      exact ⟨entry, told, same.trans told⟩
    · exact ⟨unreported gone, same.trans (unreported gone)⟩

/-- A workspace is launched, its process exits, and there is a poll. -/
def exitsOnce : List World.Event := [
  .start { id := "a" }, .runTask 0 .done, .arrive 0 true ⟨1⟩, .processExits 0, .watchdogPoll]

/-- The exit is reported. -/
theorem exits_reported_once : ∃ o,
    Run (step bareEnv) {} (trace (step bareEnv) {} exitsOnce) o ∧ Always (fun o => Covers o.toWorld)
      (trace (step bareEnv) {} exitsOnce) o ∧ ∃ entry, o.reportsOf 0 = [⟨"a", .kCrashed, some entry⟩] := by
  have r : Run (step bareEnv) {} (trace (step bareEnv) {} exitsOnce) _ := Run.of_exec rfl
  obtain ⟨covered, exits⟩ := exits_reported r
  obtain ⟨_, o3, _, reported, _⟩ := exits (trace (step bareEnv) {} (exitsOnce.take 3)) _ "a" 0 _ [] _ [] rfl
    (fun _ mem => absurd mem List.not_mem_nil) ⟨_, rfl, rfl⟩ rfl rfl
  obtain ⟨entry, _, told⟩ := reported ⟨_, rfl, rfl⟩
  exact ⟨_, r, covered, entry, told⟩

end Observed

end PureCloak.Launcher
