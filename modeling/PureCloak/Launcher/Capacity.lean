import PureCloak.Launcher.Entries

/-!
# How many workspaces run

`Start` compares the number of the entries with `kMaxConcurrentWorkspaces`, and `ContinueStart` makes the
entry without comparing again, so the starts that are under way are not counted. `within_limit_iff` says
which runs stay within the limit.
-/

namespace PureCloak.Launcher
open PureCloak.Base PureCloak.Profiles Machine

namespace World
variable {env : Env}

/-- No more workspaces run than are allowed to. -/
def WithinLimit (w : World) : Prop :=
  w.runningCount ≤ kMaxConcurrentWorkspaces

/-- When a process is launched for a workspace that does not run, fewer run than are allowed to. -/
def LaunchesWithinLimit (w : World) (e : Event) : Prop :=
  ∀ l ∈ w.launched e, w.isRunning l.1.id = false → w.runningCount < kMaxConcurrentWorkspaces

instance (w : World) (e : Event) : Decidable (w.LaunchesWithinLimit e) :=
  inferInstanceAs (Decidable (∀ l ∈ w.launched e, _ → _))

/-- When `Start` finds a port, the entries and the starts under way are fewer than are allowed. -/
def StartsWithinLimit (w : World) : Event → Prop
  | .start ws => (w.startPort ws).isSome →
      w.workspaces.size + w.starts.card < kMaxConcurrentWorkspaces
  | _ => True

/-! ## Counting entries -/

/-- The entries of a map that count as running. -/
def countRunning (m : Std.ExtTreeMap String RunningWorkspace) : Nat :=
  m.toList.countP fun p => p.2.status.running

/-- The entries that run, without one of them. -/
lemma countRunning_erase (m : Std.ExtTreeMap String RunningWorkspace) (id : String) :
    countRunning m = countRunning (m.erase id) +
      if m[id]?.any fun r : RunningWorkspace => r.status.running then 1 else 0 :=
  KeyedMap.countP_erase m id _

/-- The entries that run, with one more. -/
lemma countRunning_insert (m : Std.ExtTreeMap String RunningWorkspace) (id : String)
    (r : RunningWorkspace) :
    countRunning (m.insert id r) = countRunning (m.erase id) + if r.status.running then 1 else 0 :=
  KeyedMap.countP_insert m id r _

/-- An entry that crashed no longer counts. -/
lemma markCrashed_le (m : Std.ExtTreeMap String RunningWorkspace) (id : String) :
    countRunning (markCrashed m id) ≤ countRunning m ∧ (markCrashed m id).size = m.size := by
  rw [markCrashed]
  cases h : m[id]? with
  | none => exact ⟨le_rfl, rfl⟩
  | some r =>
    have mem : id ∈ m := KeyedMap.mem_iff_exists_get.mpr ⟨r, h⟩
    dsimp only
    refine ⟨?_, ?_⟩
    · rw [countRunning_insert, countRunning_erase m id]
      exact Nat.add_le_add_left (Nat.zero_le _) _
    · rw [Std.ExtTreeMap.size_insert, if_pos (Std.ExtTreeMap.contains_iff_mem.mpr mem)]

/-- Crashes make no entry run, and erase none. -/
lemma foldl_markCrashed_le (ids : List String) (m : Std.ExtTreeMap String RunningWorkspace) :
    countRunning (ids.foldl markCrashed m) ≤ countRunning m ∧
    (ids.foldl markCrashed m).size = m.size := by
  induction ids generalizing m with
  | nil => exact ⟨le_rfl, rfl⟩
  | cons id ids ih =>
    obtain ⟨count, size⟩ := ih (markCrashed m id)
    obtain ⟨count', size'⟩ := markCrashed_le m id
    exact ⟨count.trans count', size.trans size'⟩

/-- A launch counts once more, unless the workspace was running; nothing else makes the count larger. -/
lemma runningCount_step {w w' : World} {e : Event} (st : step env w e = some w') :
    (∃ l ∈ w.launched e, w'.runningCount =
      w.runningCount + if w.isRunning l.1.id then 0 else 1) ∨
    w.launched e = none ∧ w'.runningCount ≤ w.runningCount := by
  show (∃ l ∈ w.launched e, countRunning w'.workspaces = countRunning w.workspaces + _) ∨
    _ ∧ countRunning w'.workspaces ≤ countRunning w.workspaces
  have entries := (manager_step st).entries
  generalize w'.workspaces = m at entries
  cases entries with
  | stop id =>
    refine .inr ⟨rfl, ?_⟩
    rw [countRunning_erase w.workspaces id]
    exact Nat.le_add_right _ _
  | stopAll => exact .inr ⟨rfl, Nat.zero_le _⟩
  | poll ids => exact .inr ⟨rfl, (foldl_markCrashed_le ids _).1⟩
  | @launch _ ws dir port pid now h =>
    refine .inl ⟨_, h, ?_⟩
    rw [countRunning_insert, countRunning_erase w.workspaces ws.id, ← isRunning_eq, add_assoc]
    cases w.isRunning ws.id <;> simp [newEntry, Status.running]
  | same h => exact .inr ⟨h, le_rfl⟩

/-! ## Entries and starts -/

/-- A launch makes one entry at most, and nothing else makes entries. -/
lemma size_step {w w' : World} {e : Event} (st : step env w e = some w') :
    w'.workspaces.size ≤ w.workspaces.size + (w.startArrived e).toList.length := by
  have entries := (manager_step st).entries
  generalize w'.workspaces = m at entries
  cases entries with
  | stop id => exact Std.ExtTreeMap.size_erase_le
  | stopAll => exact Nat.zero_le _
  | poll ids => exact (foldl_markCrashed_le ids _).2.le
  | launch pid now h =>
    rw [startArrived_of_launched h]
    exact Std.ExtTreeMap.size_insert_le
  | same => exact Nat.le_add_right _ _

/-- Where `Start` stays within the limit, so do the entries together with the starts under way. -/
lemma size_starts_step {w w' : World} {e : Event}
    (h : w.workspaces.size + w.starts.card ≤ kMaxConcurrentWorkspaces)
    (room : w.StartsWithinLimit e) (st : step env w e = some w') :
    w'.workspaces.size + w'.starts.card ≤ kMaxConcurrentWorkspaces := by
  have size := size_step st
  have starts := congrArg Multiset.card (manager_step st).starts
  simp only [Multiset.card_add, Multiset.coe_card] at starts
  cases posted : startPosted env w e with
  | none =>
    simp only [posted, Option.toList_none, List.length_nil] at starts
    omega
  | some s =>
    cases e with
    | start ws =>
      have found : (w.startPort ws).isSome := by
        rw [← Option.isSome_map]
        exact Option.isSome_of_eq_some posted
      have room := room found
      simp only [posted, Option.toList_some, List.length_singleton] at starts
      omega
    | _ => cases posted

/-- No more entries run than there are. -/
lemma runningCount_le_size (w : World) : w.runningCount ≤ w.workspaces.size := by
  rw [← Std.ExtTreeMap.length_toList]
  exact List.countP_le_length

/-! ## Runs -/

/-- The runs within the limit are those in which no workspace beyond it is launched; it is enough that `Start`
goes on only when the entries and the starts under way leave room. -/
theorem within_limit_iff {tr : List (World × Event)} {w : World} (r : Run (step env) {} tr w) :
    (Always WithinLimit tr w ↔ Guarded LaunchesWithinLimit tr) ∧
    (Guarded StartsWithinLimit tr → Always WithinLimit tr w) := by
  refine ⟨?_, ?_⟩
  · refine r.always_iff (I := fun _ => True) (fun _ _ => trivial) ?_ trivial (Nat.zero_le _)
    intro w e w' _ within st
    unfold WithinLimit LaunchesWithinLimit at *
    obtain ⟨l, hl, count⟩ | ⟨none_launched, count⟩ := runningCount_step st
    · rw [Option.mem_def] at hl
      rw [count, hl]
      cases running : w.isRunning l.1.id with
      | false =>
        rw [if_neg Bool.false_ne_true]
        constructor
        · intro le l' hl' _
          exact le
        · intro room
          exact room l rfl running
      | true =>
        rw [if_pos rfl]
        refine iff_of_true within ?_
        intro l' hl' not_running
        cases hl'
        cases running.symm.trans not_running
    · simp only [none_launched, Option.not_mem_none, false_imp_iff, implies_true, iff_true]
      omega
  · intro room
    have all := r.always_of_guarded size_starts_step (Nat.zero_le _) room
    refine all.imp fun w h => ?_
    exact (runningCount_le_size w).trans ((Nat.le_add_right _ _).trans h)

/-- Workspaces are started before the first `ContinueStart`, and all of them are launched. -/
def startAll (ids : List String) : List Event :=
  ids.map (fun id => .start { id := id }) ++ ids.map (fun _ => .runTask 0 .done) ++
    ids.map fun _ => .arrive 0 true ⟨1⟩

/-- Two workspaces are started. -/
theorem within_limit_iff_two : ∃ w,
    Run (step bareEnv) {} (trace (step bareEnv) {} (startAll ["a", "b"])) w ∧
    Always WithinLimit (trace (step bareEnv) {} (startAll ["a", "b"])) w := by
  have r : Run (step bareEnv) {} (trace (step bareEnv) {} (startAll ["a", "b"])) _ := Run.of_exec rfl
  exact ⟨_, r, (within_limit_iff r).1.mpr (by decide)⟩

/-- The ids of eleven workspaces. -/
def elevenIds : List String :=
  ["a", "b", "c", "d", "e", "f", "g", "h", "i", "j", "k"]

/-- The limit is passed by launches that are already on their way. -/
theorem within_limit_fails :
    ¬ ∀ env tr w, Run (step env) {} tr w → Always WithinLimit tr w := by
  intro h
  have r : Run (step bareEnv) {} (trace (step bareEnv) {} (startAll elevenIds)) _ := Run.of_exec rfl
  exact absurd (h _ _ _ r).2 (by unfold WithinLimit; decide +kernel)

end World

end PureCloak.Launcher
