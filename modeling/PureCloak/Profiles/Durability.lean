import PureCloak.Profiles.Persistence

/-!
# Durability across the load

When nothing is left to run, does the file hold what is in memory? A session is `Loading` until the
reply of the read task is delivered and `Loaded` afterwards, and `loading_or_loaded` finds each state of a
run in one of the two. While it loads, the file to come is the file of the start until a call saves,
and from then on a snapshot of the map, which does not have the records of the file yet. Delivering
the reply adds them to the map and posts no write, so it takes another call that saves to get them
onto the disk.

`durable_iff` says exactly which runs end with a file that holds the map.
-/

namespace PureCloak.Profiles
open PureCloak.Base
open Machine

section
variable [TimeLib]

/-- The reply of the read task was not delivered yet. -/
structure Loading (disk0 : Option Value) (wrote : Prop) (s : Session) : Prop where
  /-- Either the read task is the first one to run, or its reply waits. -/
  pending :
    (s.replies = [] ∧ s.disk = disk0 ∧
      ∃ tasks, s.store.fileTasks = .read :: tasks ∧ .read ∉ tasks) ∨
    (s.replies = [readWorkspacesFile disk0] ∧ .read ∉ s.store.fileTasks)
  /-- Once a call saved, the file to come is the map in memory. -/
  saved : wrote → s.eventualDisk = some (.dict (snapshot s.store.workspaces))
  /-- Before, nothing has changed. -/
  unsaved : ¬ wrote → s.store.workspaces = ∅ ∧ s.eventualDisk = disk0

/-- The reply was delivered. -/
structure Loaded (s : Session) : Prop where
  replies : s.replies = []
  tasks : .read ∉ s.store.fileTasks

/-- The file of the start holds its list in the form in which the store writes it. -/
def Canonical (list : ListValue) : Prop :=
  serialize (loadFast ∅ list) = list

/-- The runs after which the file holds the map: after the reply was delivered a call saved again, or no
call did and the reply brought nothing new to a map that was saved, or nothing was saved at all and the
file was written the way the store writes it. -/
def DurableWhen (disk0 : Option Value) (tr : List (Session × SessionEvent)) : Prop :=
  ∃ tr1 d tr2, tr = tr1 ++ (d, .deliver) :: tr2 ∧
    (Saved tr2 ∨
      (Saved tr1 ∧ ∀ ws ∈ records (storedList (readWorkspacesFile disk0)),
        ws.id ∈ d.store.workspaces) ∨
      (¬ Saved tr1 ∧ Canonical (storedList (readWorkspacesFile disk0))))

/-! ## The two phases -/

/-- A session begins by loading. -/
lemma loading_start (disk0 : Option Value) : Loading disk0 (Saved []) (Session.start disk0) where
  pending := .inl ⟨rfl, rfl, [], rfl, List.not_mem_nil⟩
  saved := by simp [Saved]
  unsaved := fun _ => ⟨rfl, rfl⟩

/-- A call while the file is loaded. -/
lemma Loading.call {disk0 : Option Value} {wrote : Prop} {s s' : Session} {op : StoreOp}
    (l : Loading disk0 wrote s) (st : s.step (.call op) = some s') :
    Loading disk0 (wrote ∨ s.Saves (.call op)) s' := by
  obtain ⟨hs, replies, disk, tasks⟩ | ⟨hs, rfl⟩ := step_call st
  · refine ⟨?_, fun _ => eventualDisk_of_write tasks, fun h => absurd (.inr hs) h⟩
    obtain ⟨hr, hd, ts, ht, nr⟩ | ⟨hr, nr⟩ := l.pending
    · refine .inl ⟨replies.trans hr, disk.trans hd,
        ts ++ [.write (snapshot s'.store.workspaces)], ?_, ?_⟩
      · rw [tasks, ht, List.cons_append]
      · simpa using nr
    · refine .inr ⟨replies.trans hr, ?_⟩
      simpa [tasks] using nr
  · have e : (wrote ∨ s'.Saves (.call op)) ↔ wrote := or_iff_left hs
    exact ⟨l.pending, fun h => l.saved (e.mp h), fun h => l.unsaved (e.not.mp h)⟩

/-- A file task while the file is loaded. -/
lemma Loading.runFile {disk0 : Option Value} {wrote : Prop} {s s' : Session}
    (l : Loading disk0 wrote s) (st : s.step .runFile = some s') : Loading disk0 wrote s' := by
  have ev := eventualDisk_runFile st
  obtain ⟨task, tasks, ht, hs', hd', hr'⟩ := step_runFile st
  have mem : s'.store.workspaces = s.store.workspaces := by rw [hs']
  refine ⟨?_, fun h => ?_, fun h => ?_⟩
  · obtain ⟨hr, hd, ts, hts, nr⟩ | ⟨hr, nr⟩ := l.pending
    · -- the read task runs, on the file of the start
      obtain ⟨rfl, rfl⟩ := List.cons_eq_cons.mp (ht.symm.trans hts)
      obtain ⟨-, replies⟩ | ⟨ne, -⟩ := hr'
      · refine .inr ⟨?_, ?_⟩
        · rw [replies, hr, hd, List.nil_append]
        · rwa [hs']
      · exact absurd rfl ne
    · -- a write runs while the reply waits
      rw [ht, List.mem_cons, not_or] at nr
      obtain ⟨e, -⟩ | ⟨-, replies⟩ := hr'
      · exact absurd e.symm nr.1
      · refine .inr ⟨replies.trans hr, ?_⟩
        rw [hs']
        exact nr.2
  · rw [ev, mem]
    exact l.saved h
  · rw [ev, mem]
    exact l.unsaved h

/-- Delivering the reply ends the loading. -/
lemma Loading.deliver {disk0 : Option Value} {wrote : Prop} {s s' : Session}
    (l : Loading disk0 wrote s) (st : s.step .deliver = some s') :
    Loaded s' ∧ s'.store = s.store.onInitData (readWorkspacesFile disk0) := by
  obtain ⟨dict, replies, hr', rfl⟩ := step_deliver st
  obtain ⟨hr, -⟩ | ⟨hr, nr⟩ := l.pending
  · rw [hr] at hr'
    cases hr'
  · obtain ⟨rfl, rfl⟩ := List.cons_eq_cons.mp (hr'.symm.trans hr)
    refine ⟨⟨rfl, ?_⟩, rfl⟩
    rwa [WorkspaceStore.onInitData_fileTasks]

/-- After it is loaded nothing is delivered. -/
lemma Loaded.not_deliver {s s' : Session} (l : Loaded s) : s.step .deliver ≠ some s' := by
  intro st
  obtain ⟨dict, replies, hr, -⟩ := step_deliver st
  rw [l.replies] at hr
  cases hr

/-- A loaded session stays loaded. -/
lemma Loaded.step {s s' : Session} {e : SessionEvent} (l : Loaded s) (st : s.step e = some s') :
    Loaded s' := by
  cases e with
  | call op =>
    obtain ⟨-, replies, -, tasks⟩ | ⟨-, rfl⟩ := step_call st
    · refine ⟨replies.trans l.replies, ?_⟩
      simpa [tasks] using l.tasks
    · exact l
  | runFile =>
    obtain ⟨task, tasks, ht, hs', -, hr'⟩ := step_runFile st
    have nr := l.tasks
    rw [ht, List.mem_cons, not_or] at nr
    obtain ⟨e, -⟩ | ⟨-, replies⟩ := hr'
    · exact absurd e.symm nr.1
    · refine ⟨replies.trans l.replies, ?_⟩
      rw [hs']
      exact nr.2
  | deliver => exact absurd st l.not_deliver

/-- In every run a session is loading, or its reply was delivered. -/
lemma loading_or_loaded {disk0 : Option Value} {s : Session} {tr}
    (r : Run Session.step (Session.start disk0) tr s) :
    Loading disk0 (Saved tr) s ∨ (Loaded s ∧ ∃ d, (d, .deliver) ∈ tr) := by
  induction r with
  | nil => exact .inl (loading_start disk0)
  | @snoc tr s e s' r st ih =>
    obtain l | ⟨l, d, hd⟩ := ih
    · cases e with
      | call op =>
        rw [Saved.snoc]
        exact .inl (l.call st)
      | runFile =>
        have e : Saved (tr ++ [(s, .runFile)]) ↔ Saved tr := Saved.snoc.trans (or_iff_left id)
        rw [e]
        exact .inl (l.runFile st)
      | deliver => exact .inr ⟨(l.deliver st).1, s, by simp⟩
    · exact .inr ⟨l.step st, d, List.mem_append_left _ hd⟩

/-- A session that loads is not at rest. -/
lemma Loading.not_quiescent {disk0 : Option Value} {wrote : Prop} {s : Session}
    (l : Loading disk0 wrote s) : ¬ s.Quiescent := by
  rintro ⟨ht, hr⟩
  obtain ⟨-, -, ts, hts, -⟩ | ⟨hr', -⟩ := l.pending
  · simp [ht] at hts
  · simp [hr] at hr'

/-- After the load, the file to come is the map of the last call that saved, if there was one. -/
lemma Loaded.run {u s : Session} {tr} (l : Loaded u) (r : Run Session.step u tr s) :
    Loaded s ∧ (Saved tr → s.eventualDisk = some (.dict (snapshot s.store.workspaces))) ∧
      (¬ Saved tr → s.eventualDisk = u.eventualDisk ∧ s.store.workspaces = u.store.workspaces) := by
  induction r with
  | nil => exact ⟨l, by simp [Saved], fun _ => ⟨rfl, rfl⟩⟩
  | @snoc tr s e s' r st ih =>
    obtain ⟨ls, saved, unsaved⟩ := ih
    refine ⟨ls.step st, ?_⟩
    rw [Saved.snoc]
    cases e with
    | call op =>
      obtain ⟨hs, -, -, tasks⟩ | ⟨hs, rfl⟩ := step_call st
      · exact ⟨fun _ => eventualDisk_of_write tasks, fun h => absurd (.inr hs) h⟩
      · have e : (Saved tr ∨ s'.Saves (.call op)) ↔ Saved tr := or_iff_left hs
        exact ⟨fun h => saved (e.mp h), fun h => unsaved (e.not.mp h)⟩
    | runFile =>
      have ev := eventualDisk_runFile st
      obtain ⟨task, tasks, -, hs', -⟩ := step_runFile st
      have mem : s'.store.workspaces = s.store.workspaces := by rw [hs']
      have e : (Saved tr ∨ s.Saves .runFile) ↔ Saved tr := or_iff_left id
      rw [ev, mem]
      exact ⟨fun h => saved (e.mp h), fun h => unsaved (e.not.mp h)⟩
    | deliver => exact absurd st ls.not_deliver

/-! ## What is on disk in the end -/

/-- A load changes the serialization of the map exactly when it adds a workspace. -/
lemma serialize_onInitData_iff {s : WorkspaceStore} {dict : Option DictValue} :
    serialize s.workspaces = serialize (s.onInitData dict).workspaces ↔
      ∀ ws ∈ records (storedList dict), ws.id ∈ s.workspaces := by
  refine ⟨fun h ws hws => ?_, fun h => ?_⟩
  · have size : (s.onInitData dict).workspaces.size ≤ s.workspaces.size := by
      have len := congrArg List.length h
      simp only [serialize, List.length_map, Std.ExtTreeMap.length_toList] at len
      exact len.ge
    have sub : ∀ k ∈ s.workspaces, k ∈ (s.onInitData dict).workspaces := by
      intro k hk
      obtain ⟨old, hold⟩ := KeyedMap.mem_iff_exists_get.mp hk
      refine KeyedMap.mem_iff_exists_get.mpr ⟨old, ?_⟩
      rw [WorkspaceStore.onInitData_get, hold, Option.some_or]
    apply KeyedMap.mem_of_size_le sub size
    have found : supplied s.workspaces (storedList dict) ws.id ≠ none :=
      fun e => supplied_eq_none_iff.mp e ws hws rfl
    rw [Std.ExtTreeMap.mem_iff_isSome_getElem?, WorkspaceStore.onInitData_get, Option.isSome_or,
      Option.isSome_iff_ne_none.mpr found, Bool.or_true]
  · congr 1
    apply Std.ExtTreeMap.ext_getElem?
    intro k
    rw [WorkspaceStore.onInitData_get]
    cases hk : s.workspaces[k]? with
    | some old => rfl
    | none =>
      have nothing : supplied s.workspaces (storedList dict) k = none := by
        refine supplied_eq_none_iff.mpr fun ws hws e => ?_
        exact KeyedMap.get_eq_none_iff.mp hk (e ▸ h ws hws)
      rw [nothing, Option.none_or]

/-- When a map was saved last, the file is durable if the map still has the same serialization. -/
lemma durable_of_saved {s : Session} {m : WorkspaceMap} (q : s.Quiescent)
    (h : s.eventualDisk = some (.dict (snapshot m))) :
    s.Durable ↔ serialize m = serialize s.store.workspaces := by
  have list : storedList (readWorkspacesFile s.disk) = serialize m := by
    rw [← q.eventualDisk, h]
    exact storedList_snapshot m
  rw [Session.Durable, list]

/-- The file at the end of a run, from the state in which the reply is delivered. -/
lemma durable_after {disk0 : Option Value} {tr1 tr2} {d u s : Session}
    (l : Loading disk0 (Saved tr1) d) (st : d.step .deliver = some u)
    (r : Run Session.step u tr2 s) (q : s.Quiescent) :
    s.Durable ↔ Saved tr2 ∨
      (Saved tr1 ∧ ∀ ws ∈ records (storedList (readWorkspacesFile disk0)),
        ws.id ∈ d.store.workspaces) ∨
      (¬ Saved tr1 ∧ Canonical (storedList (readWorkspacesFile disk0))) := by
  obtain ⟨lu, hu⟩ := l.deliver st
  obtain ⟨-, saved, unsaved⟩ := lu.run r
  by_cases h2 : Saved tr2
  · exact iff_of_true ((durable_of_saved q (saved h2)).mpr rfl) (.inl h2)
  obtain ⟨disk, mem⟩ := unsaved h2
  rw [eventualDisk_deliver st] at disk
  by_cases h1 : Saved tr1
  · -- the last write was posted before the load
    rw [durable_of_saved q (disk.trans (l.saved h1)), mem, hu, serialize_onInitData_iff]
    simp [h1, h2]
  · obtain ⟨empty, disk'⟩ := l.unsaved h1
    have last : s.disk = disk0 := by rw [← q.eventualDisk, disk, disk']
    rw [Session.Durable, last, mem, hu, onInitData_of_empty empty, eq_comm]
    simp [h1, h2, Canonical]

/-- The runs that end with the list on disk being the serialization of the map in memory. -/
theorem durable_iff {disk0 : Option Value} {s : Session} {tr}
    (r : Run Session.step (Session.start disk0) tr s) (q : s.Quiescent) :
    s.Durable ↔ DurableWhen disk0 tr := by
  refine ⟨fun h => ?_, ?_⟩
  · obtain l | ⟨-, d, hd⟩ := loading_or_loaded r
    · exact absurd q l.not_quiescent
    obtain ⟨tr1, tr2, u, rfl, r1, st, r2⟩ := r.split hd
    obtain l | ⟨l, -⟩ := loading_or_loaded r1
    · exact ⟨tr1, d, tr2, rfl, (durable_after l st r2 q).mp h⟩
    · exact absurd st l.not_deliver
  · rintro ⟨tr1, d, tr2, rfl, h⟩
    obtain ⟨u, r1, st, r2⟩ := r.split_at
    obtain l | ⟨l, -⟩ := loading_or_loaded r1
    · exact (durable_after l st r2 q).mpr h
    · exact absurd st l.not_deliver

/-- When the file is durable, a later session loads from it the workspaces of this one, as persisted. -/
theorem Session.Durable.reload {disk0 : Option Value} {s : Session} {tr} (h : s.Durable)
    (r : Run Session.step (Session.start disk0) tr s) (k : String) :
    (WorkspaceStore.onInitData {} (readWorkspacesFile s.disk)).workspaces[k]? =
      s.store.workspaces[k]?.map Workspace.persisted := by
  rw [onInitData_of_empty rfl, h]
  exact loadFast_serialize (keyId_run r) k

end

/-- The file of an earlier session with one workspace. -/
def earlier : Option Value :=
  some (.dict (snapshot ((∅ : WorkspaceMap).insert "a" { id := "a", fingerprintSeed := 23456 })))

/-- A workspace is created before the file is loaded, and nothing is saved afterwards. -/
def createdEarly : List SessionEvent := [
  .call (.create { id := "b" } "c" ⟨34567, by decide, by decide⟩ ⟨1⟩), .runFile, .runFile, .deliver]

/-- A run that saves again after the load. -/
theorem durable_iff_flush : ∃ s,
    Run Session.step (Session.start earlier)
      (trace Session.step (Session.start earlier) (createdEarly ++ [.call .flush, .runFile])) s ∧
    s.Durable := by
  have r : Run Session.step (Session.start earlier)
      (trace Session.step (Session.start earlier) (createdEarly ++ [.call .flush, .runFile])) _ :=
    Run.of_exec rfl
  refine ⟨_, r, (durable_iff r ⟨rfl, rfl⟩).mpr ?_⟩
  exact ⟨_, _, _, (by rfl : _ = [_, _, _] ++ (_, _) :: [(_, .call .flush), _]),
    .inl ⟨(_, .call .flush), .head _, trivial⟩⟩

/-- In the end there are two workspaces in memory and one on disk, and the earlier one is lost. -/
theorem durable_fails :
    ¬ ∀ disk0 tr s, Run Session.step (Session.start disk0) tr s → s.Quiescent → s.Durable := by
  intro h
  have r : Run Session.step (Session.start earlier)
      (trace Session.step (Session.start earlier) createdEarly) _ := Run.of_exec rfl
  have bad := congrArg List.length (h _ _ _ r ⟨rfl, rfl⟩)
  exact absurd bad (by decide)

end PureCloak.Profiles
