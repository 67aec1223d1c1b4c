import PureCloak.Launcher.Orphans

/-!
# The ports of running workspaces

The port in the entry of a workspace is where its status, its proxy and its applier look for the process.
`FindAvailablePort` takes a port for available when nothing listens on it; a port that another start was
given counts as available until the process launched with it listens. `ports_distinct_iff` says which
runs keep the ports of running workspaces different.
-/

namespace PureCloak.Launcher
open PureCloak.Base PureCloak.Profiles Machine

namespace World
variable {env : Env}

/-- The process in the entry of a workspace has not exited. -/
def entryAlive (w : World) (id : String) : Bool :=
  (w.entryProcess id).any Process.alive

/-- Entries whose processes are alive have different ports. -/
def PortsDistinct (w : World) : Prop :=
  ∀ (id id' : String) (r r' : RunningWorkspace),
    w.workspaces[id]? = some r → w.workspaces[id']? = some r' →
    w.entryAlive id → w.entryAlive id' → r.cdpPort = r'.cdpPort → id = id'

/-- No other entry whose process is alive has the port that a process is launched with. -/
def LaunchesOnOwnPort (w : World) (e : Event) : Prop :=
  ∀ l ∈ w.launched e, ∀ x ∈ w.workspaces.toList,
    w.entryAlive x.1 → x.2.cdpPort = l.2.2 → x.1 = l.1.id

instance (w : World) (e : Event) : Decidable (w.LaunchesOnOwnPort e) :=
  inferInstanceAs (Decidable (∀ l ∈ w.launched e, ∀ x ∈ w.workspaces.toList,
    w.entryAlive x.1 → x.2.cdpPort = l.2.2 → x.1 = l.1.id))

/-- The port that `Start` finds was not found before by a start that has launched nothing yet, and it is
not in an entry whose process is alive. -/
def StartsOnUnusedPort (w : World) : Event → Prop
  | .start ws => ∀ port ∈ w.startPort ws, port ∉ w.pendingPorts ∧
      ∀ x ∈ w.workspaces.toList, w.entryAlive x.1 → x.2.cdpPort ≠ port
  | _ => True

/-! ## In the table -/

/-- A port is held by an entry that is alive. -/
lemma held_table {w : World} {id : String} {port : Int} :
    Supervisor.Held w.table id port ↔
      ∃ r, w.workspaces[id]? = some r ∧ w.entryAlive id ∧ r.cdpPort = port := by
  constructor
  · rintro ⟨pid, c, slot, hc, alive⟩
    obtain ⟨p, hp, rfl⟩ := child_table.mp hc
    obtain ⟨r, hr, slot⟩ := Option.bind_eq_some_iff.mp slot
    obtain ⟨_, hpid, e⟩ := Option.map_eq_some_iff.mp slot
    cases e
    have he : w.entryProcess id = some p :=
      entryProcess_eq_some.mpr ⟨pid, childOf_table.mpr ⟨r, hr, hpid⟩, hp⟩
    refine ⟨r, hr, ?_, rfl⟩
    rw [entryAlive, he]
    exact alive
  · rintro ⟨r, hr, alive, rfl⟩
    obtain ⟨p, he, alive⟩ := (Option.any_eq_true _ _).mp alive
    obtain ⟨pid, slot, hp⟩ := entryProcess_eq_some.mp he
    obtain ⟨r', hr', hpid⟩ := childOf_table.mp slot
    cases hr.symm.trans hr'
    refine ⟨pid, p.child, ?_, child_table.mpr ⟨p, hp, rfl⟩, alive⟩
    simp [table, hr, hpid]

/-- The ports differ when those that are held do. -/
lemma portsDistinct_iff {w : World} : w.PortsDistinct ↔ Supervisor.Distinct w.table := by
  constructor
  · intro h id id' port held held'
    obtain ⟨r, hr, alive, rfl⟩ := held_table.mp held
    obtain ⟨r', hr', alive', same⟩ := held_table.mp held'
    exact h id id' r r' hr hr' alive alive' same.symm
  · intro h id id' r r' hr hr' alive alive' same
    exact h id id' r.cdpPort (held_table.mpr ⟨r, hr, alive, rfl⟩)
      (held_table.mpr ⟨r', hr', alive', same.symm⟩)

/-- A launch is on its own port when no other id holds it. -/
lemma launchesOnOwnPort_iff {w : World} {e : Event} :
    w.LaunchesOnOwnPort e ↔ ∀ id port, w.action e = .launch id port →
      ∀ id', Supervisor.Held w.table id' port → id' = id := by
  constructor
  · intro h id port ha id' held
    obtain ⟨ws, dir, hl, rfl⟩ := action_eq_launch.mp ha
    obtain ⟨r, hr, alive, same⟩ := held_table.mp held
    exact h _ hl (id', r) (Std.ExtTreeMap.mem_toList_iff_getElem?_eq_some.mpr hr) alive same
  · rintro h ⟨ws, dir, port⟩ hl ⟨id, r⟩ hx alive same
    have hr := Std.ExtTreeMap.mem_toList_iff_getElem?_eq_some.mp hx
    exact h ws.id port (action_eq_launch.mpr ⟨ws, dir, hl, rfl⟩) id
      (held_table.mpr ⟨r, hr, alive, same⟩)

/-- A start is on an unused port when that port is neither pending nor held. -/
lemma startsOnUnusedPort_iff {w : World} {e : Event} :
    w.StartsOnUnusedPort e ↔ ∀ port, w.action e = .reserve port →
      port ∉ w.table.pending ∧ ∀ id, ¬ Supervisor.Held w.table id port := by
  constructor
  · intro h port ha
    obtain ⟨ws, rfl, hp⟩ := action_eq_reserve.mp ha
    obtain ⟨fresh, unused⟩ := h port hp
    refine ⟨fresh, ?_⟩
    intro id held
    obtain ⟨r, hr, alive, same⟩ := held_table.mp held
    exact unused (id, r) (Std.ExtTreeMap.mem_toList_iff_getElem?_eq_some.mpr hr) alive same
  · intro h
    cases e with
    | start ws =>
      intro port hp
      obtain ⟨fresh, unused⟩ := h port (action_eq_reserve.mpr ⟨ws, rfl, hp⟩)
      refine ⟨fresh, ?_⟩
      intro x hx alive same
      have hr := Std.ExtTreeMap.mem_toList_iff_getElem?_eq_some.mp hx
      exact unused x.1 (held_table.mpr ⟨x.2, hr, alive, same⟩)
    | _ => trivial

/-- A process is launched with a port that `Start` has found. -/
lemma mem_pending_of_launch {w : World} {e : Event} {id : String} {port : Int}
    (h : w.action e = .launch id port) : port ∈ w.table.pending := by
  obtain ⟨ws, dir, hl, rfl⟩ := action_eq_launch.mp h
  obtain ⟨i, now, rfl, hr⟩ := launched_eq_some.mp hl
  show port ∈ w.pendingPorts
  rw [pendingPorts_arrive hr]
  simp [Reply.reserved]

/-- In an empty world all ports are exclusive. -/
lemma exclusive_init : Supervisor.Exclusive (table {}) := by
  have none_held (id : String) (port : Int) : ¬ Supervisor.Held (table {}) id port := by
    rintro ⟨pid, c, _, hc, _⟩
    cases hc
  refine ⟨?_, .nil, ?_⟩
  · intro id _ port held
    exact absurd held (none_held id port)
  · intro id port held
    exact absurd held (none_held id port)

/-- Where `Start` finds only unused ports, the ports stay in use once at most. -/
lemma exclusive_step {w w' : World} {e : Event}
    (h : Supervisor.WF w.table ∧ Supervisor.Exclusive w.table) (unused : w.StartsOnUnusedPort e)
    (st : step env w e = some w') : Supervisor.WF w'.table ∧ Supervisor.Exclusive w'.table := by
  refine ⟨wf_step h.1 st, ?_⟩
  rw [step_table env h.1 st]
  exact h.2.step h.1 (startsOnUnusedPort_iff.mp unused) fun _ _ => mem_pending_of_launch

/-! ## Runs -/

/-- The runs in which the ports of running workspaces are always different are those in which no process
is launched with the port of another one; it is enough that `Start` never finds a port that is in use. -/
theorem ports_distinct_iff {tr : List (World × Event)} {w : World} (r : Run (step env) {} tr w) :
    (Always PortsDistinct tr w ↔ Guarded LaunchesOnOwnPort tr) ∧
    (Guarded StartsOnUnusedPort tr → Always PortsDistinct tr w) := by
  refine ⟨?_, ?_⟩
  · refine r.always_iff (I := fun w => Supervisor.WF w.table) (fun wf st => wf_step wf st) ?_
      table_init ?_
    · intro w e w' wf distinct st
      rw [portsDistinct_iff, step_table env wf st, launchesOnOwnPort_iff]
      exact Supervisor.distinct_step_iff wf (portsDistinct_iff.mp distinct) _
    · exact portsDistinct_iff.mpr exclusive_init.distinct
  · intro unused
    have all := r.always_of_guarded exclusive_step ⟨table_init, exclusive_init⟩ unused
    exact all.imp fun w h => portsDistinct_iff.mpr h.2.distinct

/-- Two workspaces are started, the second one when the first one listens. -/
def startInTurn : List Event := [
  .start { id := "a" }, .runTask 0 .done, .arrive 0 true ⟨1⟩, .processListens 0,
  .start { id := "b" }, .runTask 0 .done, .arrive 0 true ⟨2⟩]

/-- Two workspaces are started, and neither listens yet. -/
def startAtOnce : List Event := [
  .start { id := "a" }, .runTask 0 .done, .arrive 0 true ⟨1⟩,
  .start { id := "b" }, .runTask 0 .done, .arrive 0 true ⟨2⟩]

/-- Two workspaces are started in turn. -/
theorem ports_distinct_iff_in_turn : ∃ w,
    Run (step bareEnv) {} (trace (step bareEnv) {} startInTurn) w ∧
    Always PortsDistinct (trace (step bareEnv) {} startInTurn) w := by
  have r : Run (step bareEnv) {} (trace (step bareEnv) {} startInTurn) _ := Run.of_exec rfl
  exact ⟨_, r, (ports_distinct_iff r).1.mpr (by decide)⟩

/-- Both are given the first port of the range. -/
theorem ports_distinct_fails :
    ¬ ∀ env tr w, Run (step env) {} tr w → Always PortsDistinct tr w := by
  intro h
  have r : Run (step bareEnv) {} (trace (step bareEnv) {} startAtOnce) _ := Run.of_exec rfl
  exact absurd ((h _ _ _ r).2 "a" "b" _ _ rfl rfl rfl rfl rfl) (by decide)

end World

end PureCloak.Launcher
