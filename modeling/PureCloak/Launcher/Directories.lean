import PureCloak.Launcher.Entries
import PureCloak.Launcher.Orphans

/-!
# The user data directories of running workspaces

`Stop` posts the deletion of the user data directory to the thread pool, and nothing orders it with the start
of the same workspace that may follow. Nor does anything keep the directories of two workspaces apart: their paths may
lead to one place, or one into the other, and a deletion takes all that lies below. `dirs_spared_iff` says which runs
never have a deletion waiting that would take the directory of a process which was not asked to terminate.
-/

namespace PureCloak.Launcher
open PureCloak.Base PureCloak.Profiles Machine

namespace World
variable (env : Env) (cwd : List Name)

/-- Where the file system finds the user data directory of a workspace. -/
def workspaceDir (id : String) : List Name :=
  resolve cwd (userDataDir env id)

/-- `DeletePathRecursively` of a directory takes the user data directory of a workspace with it: this is the same
place, or it lies inside. -/
def Takes (dir id : String) : Prop :=
  resolve cwd dir <+: workspaceDir env cwd id

instance (dir id : String) : Decidable (Takes env cwd dir id) :=
  inferInstanceAs (Decidable (_ <+: _))

/-- None of the deletions that the thread pool may come to run takes the directory that a process was launched on
which was not asked to terminate. -/
def DirsSpared (w : World) : Prop :=
  ∀ dir ∈ w.deletions, ∀ p ∈ w.processes, Takes env cwd dir p.workspaceId → p.terminateRequested

instance (w : World) : Decidable (w.DirsSpared env cwd) :=
  inferInstanceAs (Decidable (∀ dir ∈ w.deletions, ∀ p ∈ w.processes, _ → _))

/-- The deletion that is run does not take the directory that a process was launched on which was not asked to
terminate. -/
def DeletesNoRunning (w : World) (e : Event) : Prop :=
  ∀ dir ∈ w.deletionRun e, ∀ p ∈ w.processes, Takes env cwd dir p.workspaceId → p.terminateRequested

/-- An event asks a process to terminate: it is the one in an entry that is stopped. -/
def Asks (w : World) (pid : Pid) (e : Event) : Prop :=
  ∃ (id : String) (r : RunningWorkspace), (e = .stop id ∨ e = .stopAll) ∧
    w.workspaces[id]? = some r ∧ r.process = some pid

/-- A process is launched for a workspace only when no deletion waits that takes its directory, and a deletion is
posted only when all processes whose directories it takes have been asked to terminate. -/
structure KeepsDirs (w : World) (e : Event) : Prop where
  launch : ∀ l ∈ w.launched e, ∀ dir ∈ w.deletions, ¬ Takes env cwd dir l.1.id
  stop : ∀ dir ∈ w.deletionsPosted e, ∀ (pid : Pid) (p : Process), w.processes[pid]? = some p →
    Takes env cwd dir p.workspaceId → p.terminateRequested ∨ w.Asks pid e

/-! ## Steps -/

variable {env cwd}

/-- A step asks a process when its action asks the child. -/
lemma asks_iff {w : World} {pid : Pid} {e : Event} :
    w.Asks pid e ↔ (w.action e).Asks w.table pid := by
  have slot (id : String) : (∃ r, w.workspaces[id]? = some r ∧ r.process = some pid) ↔
      w.table.childOf id = some pid := childOf_table.symm
  cases e with
  | stop id => simp [Asks, action, Supervisor.Action.Asks, ← slot]
  | stopAll => simp [Asks, action, Supervisor.Action.Asks, ← slot]
  | start ws =>
    cases h : w.startPort ws <;> simp [Asks, action, Supervisor.Action.Asks, h]
  | arrive i launches now =>
    cases h : w.replies[i]? with
    | none => simp [Asks, action, Supervisor.Action.Asks, h]
    | some reply =>
      cases reply <;> cases launches <;> simp [Asks, action, Supervisor.Action.Asks, h]
  | _ => simp [Asks, action, Supervisor.Action.Asks]

/-- A process after a step is one that was there, asked if it was or if the step asks it, or one that the step
has launched. -/
lemma process_step {w w' : World} {e : Event} (wf : Supervisor.WF w.table)
    (st : step env w e = some w') {pid : Pid} {p' : Process} (hp' : w'.processes[pid]? = some p') :
    (∃ p, w.processes[pid]? = some p ∧ p.workspaceId = p'.workspaceId ∧
      (p'.terminateRequested ↔ p.terminateRequested ∨ w.Asks pid e)) ∨
    ∃ l ∈ w.launched e, l.1.id = p'.workspaceId := by
  have hc' : w'.table.children[pid]? = some p'.child := child_table.mpr ⟨p', hp', rfl⟩
  rw [step_table env wf st] at hc'
  obtain ⟨c, hc, after⟩ | ⟨id, port, ha, _, e⟩ := (Supervisor.child_step _ _ pid).2 _ hc'
  · obtain ⟨p, hp, rfl⟩ := child_table.mp hc
    refine .inl ⟨p, hp, after.owner.symm, ?_⟩
    rw [asks_iff]
    exact Supervisor.asked_step_iff wf hc hc'
  · obtain ⟨ws, dir, hl, rfl⟩ := action_eq_launch.mp ha
    exact .inr ⟨_, hl, (congrArg Supervisor.Child.owner e).symm⟩

/-- The process that a step launches is there after it, and was not asked. -/
lemma process_of_launched {w w' : World} {e : Event} (wf : Supervisor.WF w.table)
    (st : step env w e = some w') {l : Workspace × String × Int} (hl : w.launched e = some l) :
    ∃ p ∈ w'.processes, p.workspaceId = l.1.id ∧ p.terminateRequested = false := by
  have children := congrArg Supervisor.State.children (step_table env wf st)
  rw [action_eq_launch.mpr ⟨l.1, l.2.1, hl, rfl⟩] at children
  have hc : w'.table.children[w.table.children.length]? = some { owner := l.1.id } := by
    rw [children]
    exact List.getElem?_concat_length
  obtain ⟨p, hp, e⟩ := child_table.mp hc
  exact ⟨p, List.mem_of_getElem? hp, congrArg Supervisor.Child.owner e,
    congrArg Supervisor.Child.asked e⟩

/-- A deletion that waits after a step waited before, or the step has posted it. -/
lemma mem_deletions_step {w w' : World} {e : Event} (st : step env w e = some w') {dir : String}
    (h : dir ∈ w'.deletions) : dir ∈ w.deletions ∨ dir ∈ w.deletionsPosted e := by
  have mem : dir ∈ ↑(w.deletionRun e).toList + w'.deletions := Multiset.mem_add.mpr (.inr h)
  rw [(manager_step st).deletions] at mem
  exact (Multiset.mem_add.mp mem).symm

/-- A step that runs no deletion takes none away. -/
lemma mem_deletions_of_no_run {w w' : World} {e : Event} (st : step env w e = some w')
    (no_run : w.deletionRun e = none) {dir : String}
    (h : dir ∈ w.deletions ∨ dir ∈ w.deletionsPosted e) : dir ∈ w'.deletions := by
  have deletions := (manager_step st).deletions
  rw [no_run] at deletions
  have mem : dir ∈ ↑(w.deletionsPosted e) + w.deletions := Multiset.mem_add.mpr h.symm
  rw [← deletions] at mem
  exact (Multiset.mem_add.mp mem).resolve_left (by simp)

/-- A step that posts a deletion runs none. -/
lemma deletionRun_of_posted {w : World} {e : Event} {dir : String} (h : dir ∈ w.deletionsPosted e) :
    w.deletionRun e = none := by
  cases e with
  | stop | stopAll => rfl
  | _ => cases h

/-- Every start that is under way has the directory of its workspace. -/
def StartsOnOwnDir (env : Env) (w : World) : Prop :=
  ∀ s ∈ w.starts, s.2.1 = userDataDir env s.1.id

/-- Every start is on the directory of its workspace. -/
lemma startsOnOwnDir_step {w w' : World} {e : Event} (h : w.StartsOnOwnDir env)
    (st : step env w e = some w') : w'.StartsOnOwnDir env := by
  intro s hs
  obtain before | posted := mem_starts_step st hs
  · exact h s before
  · cases e with
    | start ws =>
      obtain ⟨port, _, rfl⟩ := Option.map_eq_some_iff.mp posted
      rfl
    | _ => cases posted

/-- A step keeps the directories of running processes from being deleted exactly when it meets the guard. -/
lemma dirsSpared_step_iff {w w' : World} {e : Event} (wf : Supervisor.WF w.table)
    (spared : w.DirsSpared env cwd) (st : step env w e = some w') :
    w'.DirsSpared env cwd ↔ w.KeepsDirs env cwd e := by
  constructor
  · intro spared'
    refine ⟨?_, ?_⟩
    · intro l hl dir waiting takes
      obtain ⟨p, hp, owner, running⟩ := process_of_launched wf st hl
      obtain ⟨i, now, rfl, _⟩ := launched_eq_some.mp hl
      have asked := spared' dir (mem_deletions_of_no_run st rfl (.inl waiting)) p hp
        (by rwa [owner])
      rw [running] at asked
      cases asked
    · intro dir posted pid p hp takes
      have waiting := mem_deletions_of_no_run st (deletionRun_of_posted posted) (.inr posted)
      have hc : w.table.children[pid]? = some p.child := child_table.mpr ⟨p, hp, rfl⟩
      obtain ⟨c', hc', after⟩ := (Supervisor.child_step _ (w.action e) pid).1 _ hc
      have asked := Supervisor.asked_step_iff wf hc hc'
      rw [← step_table env wf st] at hc'
      obtain ⟨p', hp', rfl⟩ := child_table.mp hc'
      have owner : p'.workspaceId = p.workspaceId := after.owner
      rw [asks_iff]
      exact asked.mp (spared' dir waiting p' (List.mem_of_getElem? hp') (by rwa [owner]))
  · intro keeps dir waiting p' hp' takes
    obtain ⟨pid, hpid⟩ := List.mem_iff_getElem?.mp hp'
    obtain ⟨p, hp, owner, asked⟩ | ⟨l, hl, owner⟩ := process_step wf st hpid
    · rw [← owner] at takes
      obtain before | posted := mem_deletions_step st waiting
      · exact asked.mpr (.inl (spared dir before p (List.mem_of_getElem? hp) takes))
      · exact asked.mpr (keeps.stop dir posted pid p hp takes)
    · rw [← owner] at takes
      obtain before | posted := mem_deletions_step st waiting
      · exact absurd takes (keeps.launch l hl dir before)
      · obtain ⟨i, now, rfl, _⟩ := launched_eq_some.mp hl
        cases posted

/-! ## Runs -/

/-- A deletion that runs was waiting. -/
lemma mem_deletions_of_run {w : World} {e : Event} {dir : String} (h : dir ∈ w.deletionRun e) :
    dir ∈ w.deletions := by
  cases e with
  | runTask i result =>
    obtain ⟨t, ht, hd⟩ := Option.bind_eq_some_iff.mp h
    exact Multiset.mem_coe.mpr (List.mem_filterMap.mpr ⟨t, List.mem_of_getElem? ht, hd⟩)
  | _ => cases h

/-- The runs in which no deletion is ever waiting that takes the directory of a running process are those that launch
no process whose directory a waiting deletion takes, and stop no workspace whose deletion takes the directory of
another process; in them no deletion hits a running process. -/
theorem dirs_spared_iff {tr : List (World × Event)} {w : World} (r : Run (step env) {} tr w) :
    (Always (DirsSpared env cwd) tr w ↔ Guarded (KeepsDirs env cwd) tr) ∧
    (Always (DirsSpared env cwd) tr w → Guarded (DeletesNoRunning env cwd) tr) := by
  refine ⟨?_, ?_⟩
  · refine r.always_iff (I := fun w => Supervisor.WF w.table) ?_ dirsSpared_step_iff table_init ?_
    · intro w e w' wf st
      exact wf_step wf st
    · intro dir hdir
      cases hdir
  · intro spared p hp dir hdir
    exact spared.1 p hp dir (mem_deletions_of_run hdir)

/-- A workspace is started again after its directory was deleted. -/
def restart : List Event := [
  .start { id := "a" }, .runTask 0 .done, .arrive 0 true ⟨1⟩, .stop "a", .runTask 0 .done,
  .start { id := "a" }, .runTask 0 .done, .arrive 0 true ⟨2⟩]

/-- A workspace is started again, and its directory is deleted then. -/
def restartAtOnce : List Event := [
  .start { id := "a" }, .runTask 0 .done, .arrive 0 true ⟨1⟩, .stop "a",
  .start { id := "a" }, .runTask 1 .done, .arrive 0 true ⟨2⟩, .runTask 0 .done]

/-- A workspace is stopped while another one runs whose directory lies inside its own. -/
def stopOuter : List Event := [
  .start { id := "a" }, .runTask 0 .done, .arrive 0 true ⟨1⟩,
  .start { id := "a/b" }, .runTask 0 .done, .arrive 0 true ⟨2⟩, .stop "a"]

example : (exec (step bareEnv) {} stopOuter).isSome ∧
    ∀ w ∈ exec (step bareEnv) {} stopOuter, ¬ w.DirsSpared bareEnv [] := by
  decide

/-- A workspace that is started again after the deletion. -/
theorem dirs_spared_iff_restart : ∃ w,
    Run (step bareEnv) {} (trace (step bareEnv) {} restart) w ∧
    Guarded (DeletesNoRunning bareEnv []) (trace (step bareEnv) {} restart) := by
  have r : Run (step bareEnv) {} (trace (step bareEnv) {} restart) _ := Run.of_exec rfl
  exact ⟨_, r, (dirs_spared_iff r).2 ⟨by decide, by decide⟩⟩

/-- The deletion that the stop has posted runs after the second launch. -/
theorem dirs_spared_fails :
    ¬ ∀ env cwd tr w, Run (step env) {} tr w → Guarded (DeletesNoRunning env cwd) tr := by
  intro h
  have r : Run (step bareEnv) {} (trace (step bareEnv) {} restartAtOnce) _ := Run.of_exec rfl
  have hit := h _ [] _ _ r _
    (List.getLast_mem (by decide : trace (step bareEnv) {} restartAtOnce ≠ []))
    _ rfl _ (List.mem_of_getElem? (rfl : _[1]? = _)) List.prefix_rfl
  exact absurd hit (by decide)

end World

end PureCloak.Launcher
