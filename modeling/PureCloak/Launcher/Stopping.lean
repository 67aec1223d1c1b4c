import PureCloak.Launcher.Entries
import PureCloak.Launcher.Orphans

/-!
# Stopping a workspace that is being started

`Stop` and `StopAll` end what is in the entries. A start that is under way is in no entry, so nothing keeps its
`ContinueStart` from launching the workspace after it was stopped, and a process that is in no entry is not
reached. `stop_wins_iff` says that these are the only ways in which a workspace survives being stopped.
-/

namespace PureCloak.Launcher
open PureCloak.Base PureCloak.Profiles Machine

namespace World
variable {env : Env}

/-- A start of a workspace is under way. -/
def Starting (w : World) (id : String) : Prop :=
  ∃ s ∈ w.starts, s.1.id = id

/-- A workspace does not run, and neither does a process of it that was not asked to terminate. -/
structure Quiet (w : World) (id : String) : Prop where
  stopped : w.isRunning id = false
  processes : ∀ p ∈ w.processes, p.workspaceId = id → p.live = false

/-- The event is not a start of a workspace. -/
def NoStartOf (id : String) : Event → Prop
  | .start ws => ws.id ≠ id
  | _ => True

/-- The event stops a workspace. -/
def Stops (id : String) (e : Event) : Prop :=
  e = .stop id ∨ e = .stopAll

/-- Whatever happens but a new start, a workspace is quiet whenever no start of it is under way. -/
def StaysStopped (env : Env) (w : World) (id : String) : Prop :=
  ∀ tr w', Run (step env) w tr w' → Guarded (fun _ e => NoStartOf id e) tr → ¬ w'.Starting id →
    w'.Quiet id

/-- No start of a workspace is under way, and a process of it that runs is the one in its entry. -/
structure InEntry (w : World) (id : String) : Prop where
  started : ¬ w.Starting id
  process : ∀ (pid : Pid) (p : Process), w.processes[pid]? = some p → p.live → p.workspaceId = id →
    ∃ r : RunningWorkspace, w.workspaces[id]? = some r ∧ r.process = some pid

/-! ## Without a start -/

/-- Children of a workspace that runs neither it nor its start under way. -/
lemma quiet_iff {w : World} {id : String} :
    w.Quiet id ↔ w.isRunning id = false ∧
      ∀ (n : Nat) (c : Supervisor.Child String), w.table.children[n]? = some c → c.owner = id →
        c.live = false := by
  constructor
  · intro h
    refine ⟨h.stopped, ?_⟩
    intro n c hc owner
    obtain ⟨p, hp, rfl⟩ := child_table.mp hc
    exact h.processes p (List.mem_of_getElem? hp) owner
  · rintro ⟨stopped, children⟩
    refine ⟨stopped, ?_⟩
    intro p hp owner
    obtain ⟨n, hn⟩ := List.mem_iff_getElem?.mp hp
    exact children n p.child (child_table.mpr ⟨p, hn, rfl⟩) owner

/-- No start comes under way but by `Start`. -/
lemma starting_step {w w' : World} {e : Event} {id : String} (none_started : NoStartOf id e)
    (st : step env w e = some w') (h : w'.Starting id) : w.Starting id := by
  obtain ⟨s, hs, rfl⟩ := h
  obtain before | posted := mem_starts_step st hs
  · exact ⟨s, before, rfl⟩
  · cases e with
    | start ws =>
      obtain ⟨port, _, rfl⟩ := Option.map_eq_some_iff.mp posted
      exact absurd rfl none_started
    | _ => cases posted

/-- A quiet workspace without a start under way stays so until it is started. -/
lemma quiet_step {w w' : World} {e : Event} {id : String}
    (h : Supervisor.WF w.table ∧ ¬ w.Starting id ∧ w.Quiet id) (none_started : NoStartOf id e)
    (st : step env w e = some w') : Supervisor.WF w'.table ∧ ¬ w'.Starting id ∧ w'.Quiet id := by
  obtain ⟨wf, started, quiet⟩ := h
  obtain ⟨stopped, children⟩ := quiet_iff.mp quiet
  have other {l : Workspace × String × Int} (hl : w.launched e = some l) : l.1.id ≠ id := by
    intro same
    exact started ⟨l, mem_starts_of_arrived (startArrived_of_launched hl), same⟩
  refine ⟨wf_step wf st, fun h => started (starting_step none_started st h), ?_⟩
  refine quiet_iff.mpr ⟨?_, ?_⟩
  · rw [Bool.eq_false_iff]
    intro running
    obtain before | ⟨l, hl, same⟩ := isRunning_step st running
    · rw [stopped] at before
      cases before
    · exact other hl same
  · intro n c hc owner
    rw [step_table env wf st] at hc
    obtain ⟨c0, hc0, after⟩ | ⟨k, port, ha, _, rfl⟩ := (Supervisor.child_step _ _ n).2 c hc
    · rw [Bool.eq_false_iff]
      intro live
      have dead := children n c0 hc0 (after.owner.symm.trans owner)
      rw [after.live live] at dead
      cases dead
    · obtain ⟨ws, dir, hl, same⟩ := action_eq_launch.mp ha
      exact absurd (same.trans owner) (other hl)

/-! ## Letting the starts arrive -/

/-- Without a new start of a workspace its starts can all arrive; the processes stay, and the workspace runs if
it ran before or a start of it was under way. -/
def Settles (env : Env) (w : World) (id : String) : Prop :=
  ∃ tr w', Run (step env) w tr w' ∧ Guarded (fun _ e => NoStartOf id e) tr ∧ ¬ w'.Starting id ∧
    w.processes <+: w'.processes ∧ (w.Starting id ∨ w.isRunning id → w'.isRunning id)

/-- What settles after a step settles before it. -/
lemma Settles.of_step {w w' : World} {e : Event} {id : String} (h : Settles env w' id)
    (st : step env w e = some w') (none_started : NoStartOf id e)
    (grows : w.processes <+: w'.processes) (goes_on : w'.Starting id ∨ w'.isRunning id) :
    Settles env w id := by
  obtain ⟨tr, w'', r, guarded, settled, grows', running⟩ := h
  refine ⟨(w, e) :: tr, w'', (Run.single st).append r, ?_, settled, grows.trans grows', ?_⟩
  · exact List.forall_mem_cons.mpr ⟨none_started, guarded⟩
  · intro _
    exact running goes_on

/-- How many steps the starts still take. -/
def startWork (w : World) : Nat :=
  2 * (w.pool.filterMap PoolTask.start).length + (w.replies.filterMap Reply.start).length

/-- One element less in a filtered list, if it is one of those. -/
lemma length_filterMap_eraseIdx {α β : Type} (f : α → Option β) {l : List α} {i : Nat} {x : α}
    (h : l[i]? = some x) :
    (l.filterMap f).length = (f x).toList.length + ((l.eraseIdx i).filterMap f).length := by
  have card := congrArg Multiset.card (coe_filterMap_eraseIdx f h)
  simpa using card

/-- An applier that is destroyed changes neither processes nor tasks. -/
lemma destroyApplier_same (w : World) (id : String) (a : Nat × Applier) :
    (w.destroyApplier id a).crashed = w.crashed ∧
    (w.destroyApplier id a).processes = w.processes ∧ (w.destroyApplier id a).pool = w.pool ∧
    (w.destroyApplier id a).replies = w.replies := by
  rw [destroyApplier, Applier.destroy, Applier.closeSocket]
  split <;> exact ⟨rfl, rfl, rfl, rfl⟩

/-- A launch adds a process and posts nothing. -/
lemma continueStart_same (env : Env) (w : World) (ws : Workspace) (dir : String) (port : Int) (now : Time) :
    (continueStart env w ws dir port true now).crashed = w.crashed ∧
    (continueStart env w ws dir port true now).processes =
      w.processes ++ [newProcess env ws dir port] ∧
    (continueStart env w ws dir port true now).pool = w.pool ∧
    (continueStart env w ws dir port true now).replies = w.replies := by
  rw [continueStart]
  cases w.appliers[ws.id]? with
  | none => exact ⟨rfl, rfl, rfl, rfl⟩
  | some a => exact destroyApplier_same _ ws.id a

/-- A step that takes a start of a workspace further. -/
structure Advances (env : Env) (w : World) (id : String) (e : Event) (w' : World) : Prop where
  step : step env w e = some w'
  noStart : NoStartOf id e
  ok : w'.crashed = false
  processes : w.processes <+: w'.processes
  goesOn : w'.Starting id ∨ w'.isRunning id
  work : w'.startWork < w.startWork

/-- The directory task of a start can run. -/
lemma advances_task {w : World} (ok : w.crashed = false) {i : Nat} {ws : Workspace} {dir : String}
    {port : Int} (hi : w.pool[i]? = some (.prepareUserDataDir ws dir port)) :
    ∃ w', Advances env w ws.id (.runTask i .done) w' := by
  have less := length_filterMap_eraseIdx PoolTask.start hi
  refine ⟨{ w with
    pool := w.pool.eraseIdx i, replies := w.replies ++ [.continueStart ws dir port] }, ?_⟩
  refine ⟨by simp [World.step, ok, hi, taskReply], trivial, ok, List.prefix_refl _, .inl ?_, ?_⟩
  · have same := starts_runTask hi (rfl : taskReply _ .done = _)
    refine ⟨(ws, dir, port), same.symm ▸ ?_, rfl⟩
    rw [starts, coe_filterMap_eraseIdx PoolTask.start hi]
    simp [PoolTask.start]
  · simp only [startWork, List.filterMap_append, List.length_append, less, PoolTask.start,
      Option.toList_some, List.length_singleton, Reply.start, List.filterMap_cons,
      List.filterMap_nil]
    omega

/-- The launch of a start can succeed. -/
lemma advances_reply {w : World} (ok : w.crashed = false) {i : Nat} {ws : Workspace} {dir : String}
    {port : Int} (hi : w.replies[i]? = some (.continueStart ws dir port)) :
    ∃ w', Advances env w ws.id (.arrive i true ⟨0⟩) w' := by
  obtain ⟨crashed, processes, pool, replies⟩ :=
    continueStart_same env { w with replies := w.replies.eraseIdx i } ws dir port ⟨0⟩
  have less := length_filterMap_eraseIdx Reply.start hi
  have launched : w.launched (.arrive i true ⟨0⟩) = some (ws, dir, port) := by
    simp [World.launched, hi]
  have st : World.step env w (.arrive i true ⟨0⟩) = some (continueStart env
      { w with replies := w.replies.eraseIdx i } ws dir port true ⟨0⟩) := by
    simp [World.step, ok, hi, arrived]
  generalize continueStart env { w with replies := w.replies.eraseIdx i } ws dir port true ⟨0⟩ = w' at *
  have running := isRunning_of_launched st launched
  refine ⟨w', st, trivial, crashed.trans ok, ?_, .inr running, ?_⟩
  · rw [processes]
    exact List.prefix_append _ _
  · rw [startWork, pool, replies, startWork, less]
    simp only [Reply.start, Option.toList_some, List.length_singleton]
    omega

/-- A start that is under way can be taken further. -/
lemma exists_advances {w : World} {id : String} (ok : w.crashed = false) (h : w.Starting id) :
    ∃ e w', Advances env w id e w' := by
  obtain ⟨s, hs, rfl⟩ := h
  obtain posted | replied := Multiset.mem_add.mp hs
  · obtain ⟨t, ht, start⟩ := List.mem_filterMap.mp (Multiset.mem_coe.mp posted)
    obtain ⟨i, hi⟩ := List.mem_iff_getElem?.mp ht
    cases t with
    | prepareUserDataDir ws dir port =>
      cases start
      exact ⟨_, advances_task ok hi⟩
    | _ => cases start
  · obtain ⟨reply, hreply, start⟩ := List.mem_filterMap.mp (Multiset.mem_coe.mp replied)
    obtain ⟨i, hi⟩ := List.mem_iff_getElem?.mp hreply
    cases reply with
    | continueStart ws dir port =>
      cases start
      exact ⟨_, advances_reply ok hi⟩
    | _ => cases start

/-- All starts of a workspace can arrive. -/
lemma settles {w : World} (id : String) (ok : w.crashed = false) : Settles env w id := by
  induction h : w.startWork using Nat.strong_induction_on generalizing w with
  | _ n ih =>
    by_cases starting : w.Starting id
    · obtain ⟨e, w', adv⟩ : ∃ e w', Advances env w id e w' := exists_advances ok starting
      have rest := ih w'.startWork (h ▸ adv.work) adv.ok rfl
      exact rest.of_step adv.step adv.noStart adv.processes adv.goesOn
    · refine ⟨[], w, .nil, by simp [Guarded], starting, List.prefix_refl _, ?_⟩
      exact fun h => h.resolve_left starting

/-! ## What stopping leaves -/

/-- Stopping posts no start and takes the entry out. -/
lemma stops_same {w w' : World} {e : Event} {id : String} (stops : Stops id e)
    (st : step env w e = some w') : w'.starts = w.starts ∧ w'.isRunning id = false := by
  rw [isRunning_eq]
  obtain rfl | rfl := stops
  · cases does_of_step st
    obtain ⟨entries, starts, _⟩ := stop_same w id
    refine ⟨starts, ?_⟩
    rw [entries, KeyedMap.get_erase, if_pos rfl]
    rfl
  · cases does_of_step st
    obtain ⟨entries, starts, _⟩ := stopAll_same w
    refine ⟨starts, ?_⟩
    rw [entries]
    rfl

/-- A deletion that is posted crashes nothing. -/
lemma postDelete_crashed (w : World) (dir : String) : (w.postDelete dir).crashed = w.crashed := by
  rw [postDelete]
  split <;> rfl

/-- Nor does the end of an applier. -/
lemma destroyOld_crashed (w : World) (id : String) (old : Option (Nat × Applier)) :
    (old.elim w (w.destroyApplier id)).crashed = w.crashed := by
  cases old with
  | none => rfl
  | some a => exact (destroyApplier_same w id a).1

/-- Nor does `Stop`. -/
lemma stop_crashed (w : World) (id : String) : (w.stop id).crashed = w.crashed := by
  rw [stop]
  cases w.workspaces[id]? with
  | none => rfl
  | some r => exact (destroyOld_crashed _ _ _).trans (postDelete_crashed _ _)

/-- Nor do the steps of a list, if none of them does. -/
lemma foldl_crashed {α : Type} {f : World → α → World} (h : ∀ w x, (f w x).crashed = w.crashed)
    (l : List α) (w : World) : (l.foldl f w).crashed = w.crashed := by
  induction l generalizing w with
  | nil => rfl
  | cons x l ih => exact (ih (f w x)).trans (h w x)

/-- Nor does `StopAll`. -/
lemma stopAll_crashed (w : World) : w.stopAll.crashed = w.crashed := by
  have entries := foldl_crashed (fun w (r : RunningWorkspace) => postDelete_crashed
    { w with processes := terminate w.processes r.process } r.userDataDir)
  have appliers := foldl_crashed fun w (a : String × Nat × Applier) =>
    (destroyApplier_same w a.1 a.2).1
  exact (appliers _ _).trans (entries _ { w with watched := ∅, watchdogTimer := false })

/-- A stop does not end the browser. -/
lemma stops_crashed {w w' : World} {e : Event} {id : String} (stops : Stops id e)
    (st : step env w e = some w') : w'.crashed = false := by
  have ok := Bool.eq_false_iff.mpr (Option.ite_none_left_eq_some.mp st).1
  obtain rfl | rfl := stops
  · cases does_of_step st
    exact (stop_crashed w id).trans ok
  · cases does_of_step st
    exact (stopAll_crashed w).trans ok

/-- A stop releases its entry, or all of them. -/
lemma stops_action {id : String} {e : Event} (stops : Stops id e) (w : World) :
    w.action e = .release id ∨ w.action e = .releaseAll := by
  obtain rfl | rfl := stops
  · exact .inl rfl
  · exact .inr rfl

/-- The processes of a workspace that live after it was stopped lived before and were not in its entry. -/
lemma live_after_stop {w w' : World} {e : Event} {id : String} (wf : Supervisor.WF w.table)
    (stops : Stops id e) (st : step env w e = some w') (pid : Pid) :
    (∃ p, w'.processes[pid]? = some p ∧ p.workspaceId = id ∧ p.live) ↔
      ∃ p, w.processes[pid]? = some p ∧ p.workspaceId = id ∧ p.live ∧
        w.table.childOf id ≠ some pid := by
  have key := Supervisor.live_release_iff (stops_action stops w) (s := w.table) (n := pid)
  rw [← step_table env wf st] at key
  simpa [table, Process.child, Supervisor.Child.live, Process.live] using key

/-! ## Runs -/

/-- A stop is final exactly when no start of the workspace is under way and all of its processes that run can be
reached. -/
theorem stop_wins_iff {tr : List (World × Event)} {w w' : World} (r : Run (step env) {} tr w)
    {e : Event} {id : String} (stops : Stops id e) (st : step env w e = some w') :
    StaysStopped env w' id ↔ w.InEntry id := by
  have wf : Supervisor.WF w.table :=
    r.invariant (I := fun w => Supervisor.WF w.table) (fun wf st => wf_step wf st) table_init
  obtain ⟨starts, stopped⟩ := stops_same stops st
  have live := live_after_stop wf stops st
  constructor
  · intro stays
    obtain ⟨tr', w'', r', guarded, settled, grows, running⟩ : Settles env w' id :=
      settles id (stops_crashed stops st)
    have quiet := stays tr' w'' r' guarded settled
    refine ⟨?_, ?_⟩
    · rintro ⟨s, hs, same⟩
      have running := running (.inl ⟨s, starts.symm ▸ hs, same⟩)
      rw [quiet.stopped] at running
      cases running
    · intro pid p hp alive owner
      refine childOf_table.mp ?_
      by_contra ne
      obtain ⟨p', hp', owner', alive'⟩ := (live pid).mpr ⟨p, hp, owner, alive, ne⟩
      have dead := quiet.processes p' (grows.subset (List.mem_of_getElem? hp')) owner'
      rw [alive'] at dead
      cases dead
  · rintro ⟨started, reached⟩ tr' w'' r' guarded _
    have none_started : ¬ w'.Starting id := by
      rintro ⟨s, hs, same⟩
      exact started ⟨s, starts ▸ hs, same⟩
    have quiet : w'.Quiet id := by
      refine ⟨stopped, ?_⟩
      intro p hp owner
      obtain ⟨pid, hpid⟩ := List.mem_iff_getElem?.mp hp
      rw [Bool.eq_false_iff]
      intro alive
      obtain ⟨p0, hp0, owner0, alive0, ne⟩ := (live pid).mp ⟨p, hpid, owner, alive⟩
      exact ne (childOf_table.mpr (reached pid p0 hp0 alive0 owner0))
    exact (r'.invariant_guarded quiet_step ⟨wf_step wf st, none_started, quiet⟩ guarded).2.2

/-- A workspace is launched. -/
def launchOne : List Event :=
  [.start { id := "a" }, .runTask 0 .done, .arrive 0 true ⟨1⟩]

/-- A workspace that was launched is stopped. -/
theorem stop_wins_iff_launched : ∃ w w',
    Run (step bareEnv) {} (trace (step bareEnv) {} launchOne) w ∧
    step bareEnv w (.stop "a") = some w' ∧ StaysStopped bareEnv w' "a" := by
  have r : Run (step bareEnv) {} (trace (step bareEnv) {} launchOne) _ := Run.of_exec rfl
  refine ⟨_, _, r, rfl, (stop_wins_iff r (.inl rfl) rfl).mpr ⟨?_, ?_⟩⟩
  · rintro ⟨s, hs, _⟩
    cases hs
  · intro pid p hp _ _
    cases pid with
    | zero => exact ⟨_, rfl, rfl⟩
    | succ pid => cases hp

/-- A workspace is stopped while it is being started. -/
theorem stop_wins_fails :
    ¬ ∀ env tr w e w' id, Run (step env) {} tr w → (∃ p ∈ tr, ∃ ws, p.2 = .start ws ∧ ws.id = id) →
      Stops id e → step env w e = some w' → StaysStopped env w' id := by
  intro h
  have r : Run (step bareEnv) {} (trace (step bareEnv) {} [.start { id := "a" }]) _ := Run.of_exec rfl
  have stays := h _ _ _ (.stop "a") _ "a" r ⟨_, List.mem_singleton_self _, _, rfl, rfl⟩ (.inl rfl) rfl
  have quiet := stays _ _ (Run.of_exec
    (rfl : exec (step bareEnv) _ [.runTask 0 .done, .arrive 0 true ⟨1⟩] = some _))
    (.trace (by simp [NoStartOf]) _) (by rintro ⟨s, hs, _⟩; cases hs)
  exact absurd quiet.stopped (by decide)

end World

end PureCloak.Launcher
