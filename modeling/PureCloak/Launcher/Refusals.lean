import PureCloak.Launcher.Capacity

/-!
# Starts that are refused

`RunningCount` counts the workspaces that run, and `Start` compares the size of the map, in which a workspace that has
crashed stays until it is stopped. `admits_iff` says in which of the states that are reached this makes no difference.
-/

namespace PureCloak.Launcher
open PureCloak.Base PureCloak.Profiles Machine

namespace World
variable {env : Env} {w : World}

/-- `Start` answers that too many workspaces run. -/
def RefusedForLimit (env : Env) (w : World) (ws : Workspace) : Prop :=
  (start env w ws).answers = w.answers ++ [.error "Maximum concurrent workspaces reached"]

/-- While fewer workspaces run than are allowed and a port is free, no other workspace is refused. -/
def Admits (env : Env) (w : World) : Prop :=
  w.runningCount < kMaxConcurrentWorkspaces → findAvailablePort w ≠ 0 →
    ∀ ws : Workspace, w.isRunning ws.id = false → ¬ RefusedForLimit env w ws

/-- The entries of workspaces that have crashed. -/
def crashedCount (w : World) : Nat :=
  w.workspaces.toList.countP fun p => p.2.status = .kCrashed

/-- The crashed workspaces that were not stopped leave room for another one. -/
def CrashedLeaveRoom (w : World) : Prop :=
  w.runningCount < kMaxConcurrentWorkspaces → findAvailablePort w ≠ 0 →
    w.runningCount + w.crashedCount < kMaxConcurrentWorkspaces

instance (w : World) : Decidable w.CrashedLeaveRoom :=
  inferInstanceAs (Decidable (_ → _ → _))

/-! ## What an entry can be -/

/-- Every entry is one of a workspace that runs or has crashed. -/
def RunsOrCrashed (m : Std.ExtTreeMap String RunningWorkspace) : Prop :=
  ∀ (id : String) (r : RunningWorkspace), m[id]? = some r → r.status = .kRunning ∨ r.status = .kCrashed

/-- An entry that runs or has crashed is put in. -/
lemma RunsOrCrashed.insert {m : Std.ExtTreeMap String RunningWorkspace} (h : RunsOrCrashed m) (id : String)
    {r : RunningWorkspace} (status : r.status = .kRunning ∨ r.status = .kCrashed) :
    RunsOrCrashed (m.insert id r) := by
  intro k r' found
  rw [KeyedMap.get_insert] at found
  split_ifs at found
  · cases found
    exact status
  · exact h k r' found

/-- An entry that has crashed is marked. -/
lemma RunsOrCrashed.markCrashed {m : Std.ExtTreeMap String RunningWorkspace} (h : RunsOrCrashed m) (id : String) :
    RunsOrCrashed (markCrashed m id) := by
  rw [World.markCrashed]
  cases m[id]? with
  | none => exact h
  | some r => exact h.insert id (.inr rfl)

/-- Every step keeps the entries running or crashed. -/
lemma runsOrCrashed_step {w' : World} {e : Event} (h : RunsOrCrashed w.workspaces) (st : step env w e = some w') :
    RunsOrCrashed w'.workspaces := by
  have entries := (manager_step st).entries
  generalize w'.workspaces = m at entries
  cases entries with
  | stop id =>
    intro k r found
    rw [KeyedMap.get_erase] at found
    split_ifs at found
    exact h k r found
  | stopAll =>
    intro k r found
    simp at found
  | poll ids =>
    generalize w.workspaces = m at h
    induction ids generalizing m with
    | nil => exact h
    | cons id ids ih => exact ih _ (h.markCrashed id)
  | launch pid now => exact h.insert _ (.inl rfl)
  | same => exact h

/-- In every run they are. -/
lemma runsOrCrashed_of_run {tr : List (World × Event)} (r : Run (step env) {} tr w) : RunsOrCrashed w.workspaces := by
  apply r.invariant (I := fun w => RunsOrCrashed w.workspaces) runsOrCrashed_step
  intro id entry found
  simp at found

/-- An entry of the list is in the map. -/
lemma mem_entries {p : String × RunningWorkspace} (mem : p ∈ w.workspaces.toList) : w.workspaces[p.1]? = some p.2 :=
  Std.ExtTreeMap.mem_toList_iff_getElem?_eq_some.mp mem

/-- The map holds the workspaces that run and those that have crashed. -/
lemma size_eq (h : RunsOrCrashed w.workspaces) : w.workspaces.size = w.runningCount + w.crashedCount := by
  rw [← Std.ExtTreeMap.length_toList, runningCount, crashedCount,
    List.length_eq_countP_add_countP fun p : String × RunningWorkspace => p.2.status.running]
  congr 1
  apply List.countP_congr
  intro p mem
  obtain running | crashed := h p.1 p.2 (mem_entries mem)
  · simp [running, Status.running]
  · simp [crashed, Status.running]

/-! ## What `Start` answers -/

/-- What does not run is not active. -/
lemma activeEntry_of_not_running {id : String} (h : w.isRunning id = false) : w.activeEntry id = none := by
  rw [isRunning_eq] at h
  rw [activeEntry]
  cases found : w.workspaces[id]? with
  | none => rfl
  | some r =>
    rw [found, Option.any_some] at h
    cases status : r.status <;> simp_all [Status.running]

/-- `Start` refuses a workspace that does not run exactly when the map is full. -/
lemma refusedForLimit_iff {ws : Workspace} (h : w.isRunning ws.id = false) :
    RefusedForLimit env w ws ↔ kMaxConcurrentWorkspaces ≤ w.workspaces.size := by
  rw [RefusedForLimit, start, activeEntry_of_not_running h]
  dsimp only
  split_ifs with full noPort
  · exact iff_of_true rfl full
  · refine iff_of_false ?_ full
    intro answers
    have same := List.append_cancel_left answers
    simp at same
  · refine iff_of_false ?_ full
    simp

/-- In every state that is reached, no start is refused for the limit while there is room exactly when the crashed
workspaces in the map leave room. -/
theorem admits_iff {tr : List (World × Event)} (r : Run (step env) {} tr w) : Admits env w ↔ w.CrashedLeaveRoom := by
  have size := size_eq (runsOrCrashed_of_run r)
  refine ⟨?_, ?_⟩
  · intro admits room port
    by_contra full
    have crashed : 0 < w.crashedCount := by omega
    obtain ⟨p, mem, status⟩ := List.countP_pos_iff.mp crashed
    have status : p.2.status = .kCrashed := of_decide_eq_true status
    -- a crashed workspace is itself refused
    have stopped : w.isRunning p.1 = false := by
      rw [isRunning_eq, mem_entries mem, Option.any_some, status]
      rfl
    refine admits room port { id := p.1 } stopped ((refusedForLimit_iff stopped).mpr ?_)
    omega
  · intro leaveRoom room port ws stopped refused
    have full := (refusedForLimit_iff stopped).mp refused
    have free := leaveRoom room port
    omega

/-- Two workspaces are started. -/
theorem admits_iff_two :
    ∃ w, Run (step bareEnv) {} (trace (step bareEnv) {} (startAll ["a", "b"])) w ∧ Admits bareEnv w := by
  have r : Run (step bareEnv) {} (trace (step bareEnv) {} (startAll ["a", "b"])) _ := Run.of_exec rfl
  exact ⟨_, r, (admits_iff r).mpr (by decide)⟩

/-- Ten workspaces are launched, and the first one crashes. -/
def tenWithCrash : List Event :=
  startAll (elevenIds.take 10) ++ [.processExits 0, .watchdogPoll]

/-- It cannot be started again. -/
theorem admits_fails :
    ∃ w, Run (step bareEnv) {} (trace (step bareEnv) {} tenWithCrash) w ∧ w.runningCount = 9 ∧
      findAvailablePort w ≠ 0 ∧ w.isRunning "a" = false ∧ RefusedForLimit bareEnv w { id := "a" } ∧
      ¬ Admits bareEnv w := by
  obtain ⟨w, ex, count, port, stopped, full⟩ : ∃ w, exec (step bareEnv) {} tenWithCrash = some w ∧
      w.runningCount = 9 ∧ findAvailablePort w ≠ 0 ∧ w.isRunning "a" = false ∧ 10 ≤ w.workspaces.size :=
    ⟨_, rfl, by decide +kernel, by decide +kernel, by decide +kernel, by decide +kernel⟩
  have refused : RefusedForLimit bareEnv w { id := "a" } := (refusedForLimit_iff stopped).mpr full
  refine ⟨w, Run.of_exec ex, count, port, stopped, refused, ?_⟩
  intro admits
  exact admits (by rw [count]; decide) port { id := "a" } stopped refused

end World

end PureCloak.Launcher
