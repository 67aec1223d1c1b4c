import PureCloak.Launcher.Supervision

/-!
# Orphaned processes

A process that runs and was not asked to terminate should be the one in the entry of its workspace, or
`Stop` and `StopAll` cannot reach it. `Start` looks for a running entry before the user data directory is
prepared, and `ContinueStart`, which overwrites the entry, does not look again. `no_orphans_iff` says
which runs leave no orphan: those in which `ContinueStart` never launches over a process that runs.
-/

namespace PureCloak.Launcher
open PureCloak.Base PureCloak.Profiles Machine

namespace World
variable {env : Env}

/-- The process in the entry of a workspace. -/
def entryProcess (w : World) (id : String) : Option Process :=
  (w.workspaces[id]?.bind RunningWorkspace.process).bind (w.processes[·]?)

/-- Among the processes that run and were not asked to terminate there is one for each workspace at
most, and it is the one in the entry. -/
structure NoOrphans (w : World) : Prop where
  unique : ∀ (pid pid' : Pid) (p p' : Process), w.processes[pid]? = some p → w.processes[pid']? = some p' →
    p.live → p'.live → p.workspaceId = p'.workspaceId → pid = pid'
  reached : ∀ (pid : Pid) (p : Process), w.processes[pid]? = some p → p.live →
    ∃ r : RunningWorkspace, w.workspaces[p.workspaceId]? = some r ∧ r.process = some pid

/-- When a process is launched, the one in the entry of its workspace has exited or was asked to
terminate. -/
def LaunchesOverNone (w : World) (e : Event) : Prop :=
  ∀ l ∈ w.launched e, ∀ p ∈ w.entryProcess l.1.id, ¬ p.live

instance (w : World) (e : Event) : Decidable (w.LaunchesOverNone e) :=
  inferInstanceAs (Decidable (∀ l ∈ w.launched e, ∀ p ∈ w.entryProcess l.1.id, ¬ p.live))

/-! ## In the table -/

/-- The child of an id is the process of its entry. -/
lemma childOf_table {w : World} {id : String} {pid : Pid} :
    w.table.childOf id = some pid ↔ ∃ r, w.workspaces[id]? = some r ∧ r.process = some pid := by
  simp [table, Supervisor.State.childOf, Option.bind_eq_some_iff]

/-- The children are the processes. -/
lemma child_table {w : World} {pid : Pid} {c : Supervisor.Child String} :
    w.table.children[pid]? = some c ↔ ∃ p, w.processes[pid]? = some p ∧ p.child = c := by
  simp [table]

/-- No process is an orphan when every child is owned. -/
lemma noOrphans_iff {w : World} : w.NoOrphans ↔ Supervisor.Owned w.table := by
  constructor
  · intro h pid c hc live
    obtain ⟨p, hp, rfl⟩ := child_table.mp hc
    exact childOf_table.mpr (h.reached pid p hp live)
  · intro h
    refine ⟨?_, ?_⟩
    · intro pid pid' p p' hp hp' live live' same
      exact h.unique (child_table.mpr ⟨p, hp, rfl⟩) (child_table.mpr ⟨p', hp', rfl⟩) live live' same
    · intro pid p hp live
      exact childOf_table.mp (h pid p.child (child_table.mpr ⟨p, hp, rfl⟩) live)

/-- The process of an entry. -/
lemma entryProcess_eq_some {w : World} {id : String} {p : Process} :
    w.entryProcess id = some p ↔
      ∃ pid, w.table.childOf id = some pid ∧ w.processes[pid]? = some p := by
  simp [entryProcess, childOf_table, Option.bind_eq_some_iff]

/-- A launch over no live process is one over no live child. -/
lemma launchesOverNone_iff {w : World} {e : Event} :
    w.LaunchesOverNone e ↔ ∀ id port, w.action e = .launch id port → ∀ pid c,
      w.table.childOf id = some pid → w.table.children[pid]? = some c → ¬ c.live := by
  constructor
  · intro h id port ha pid c slot hc
    obtain ⟨ws, dir, hl, rfl⟩ := action_eq_launch.mp ha
    obtain ⟨p, hp, rfl⟩ := child_table.mp hc
    exact h _ hl p (entryProcess_eq_some.mpr ⟨pid, slot, hp⟩)
  · rintro h ⟨ws, dir, port⟩ hl p he
    obtain ⟨pid, slot, hp⟩ := entryProcess_eq_some.mp he
    exact h ws.id port (action_eq_launch.mpr ⟨ws, dir, hl, rfl⟩) pid p.child slot
      (child_table.mpr ⟨p, hp, rfl⟩)

/-! ## Runs -/

/-- The runs that never have an orphan are those in which no process is launched over one that runs. -/
theorem no_orphans_iff {tr : List (World × Event)} {w : World} (r : Run (step env) {} tr w) :
    Always NoOrphans tr w ↔ Guarded LaunchesOverNone tr := by
  refine r.always_iff (I := fun w => Supervisor.WF w.table) (fun wf st => wf_step wf st) ?_
    table_init ?_
  · intro w e w' wf clean st
    rw [noOrphans_iff, step_table env wf st, launchesOverNone_iff]
    exact Supervisor.owned_step_iff wf (noOrphans_iff.mp clean) _
  · refine noOrphans_iff.mpr ?_
    intro pid c hc
    cases hc

/-- A workspace is launched, exits, is found crashed and is launched again. -/
def relaunch : List Event := [
  .start { id := "a" }, .runTask 0 .done, .arrive 0 true ⟨1⟩, .processExits 0, .watchdogPoll,
  .start { id := "a" }, .runTask 0 .done, .arrive 0 true ⟨2⟩]

/-- A workspace is started twice before the first `ContinueStart`. -/
def startTwice : List Event := [
  .start { id := "a" }, .start { id := "a" }, .runTask 0 .done, .runTask 0 .done,
  .arrive 0 true ⟨1⟩, .arrive 0 true ⟨2⟩]

/-- A workspace is launched again after its stop. -/
theorem no_orphans_iff_relaunch : ∃ w,
    Run (step bareEnv) {} (trace (step bareEnv) {} relaunch) w ∧
    Always NoOrphans (trace (step bareEnv) {} relaunch) w := by
  have r : Run (step bareEnv) {} (trace (step bareEnv) {} relaunch) _ := Run.of_exec rfl
  exact ⟨_, r, (no_orphans_iff r).mpr (by decide)⟩

/-- The process of the first start is in no entry. -/
theorem no_orphans_fails :
    ¬ ∀ env tr w, Run (step env) {} tr w → Always NoOrphans tr w := by
  intro h
  have r : Run (step bareEnv) {} (trace (step bareEnv) {} startTwice) _ :=
    Run.of_exec rfl
  have same : 0 = 1 := (h _ _ _ r).2.unique 0 1 _ _ rfl rfl rfl rfl rfl
  exact absurd same (by decide)

end World

end PureCloak.Launcher
