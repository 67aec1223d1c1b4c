import PureCloak.Launcher.Directories
import PureCloak.Profiles.Invariants

/-!
# The places of the user data directories

`Start` puts the user data directory of a workspace into the base directory, under a name that is made from the id of
the workspace, and the store accepts any string as an id. `confined_iff` says for which ids the file system
finds the directories apart from each other and inside the base directory, and `deletions_confined` what then follows
for the deletions that `Stop` posts.
-/

namespace PureCloak.Launcher
open PureCloak.Base PureCloak.Profiles Machine Walk

namespace World
variable (env : Env) (cwd : List Name)

/-- Where the file system finds the base directory. -/
def baseDir : List Name :=
  resolve cwd (workspaceBaseDir env)

/-- The user data directories of the workspaces in a store lie strictly inside the base directory, are
different, and none lies inside another. -/
structure Confined (s : WorkspaceStore) : Prop where
  inside : ∀ id ∈ s.workspaces, Inside (workspaceDir env cwd id) (baseDir env cwd)
  apart : ∀ id ∈ s.workspaces, ∀ id' ∈ s.workspaces, id ≠ id' →
    Apart (workspaceDir env cwd id) (workspaceDir env cwd id')

/-- What the path made from an id comes to: some levels up, and some names down. -/
def idNet (id : String) : Net Name :=
  net (moves (untilNul ("ws_" ++ id).toList))

/-- The path made from an id comes down by the names by which it has left the base directory, and then by these. -/
def LeadsBy (id : String) (names : List Name) : Prop :=
  (idNet id).downs = (baseDir env cwd).rtake (idNet id).ups ++ names

/-- The path made from each id comes back into the base directory and down by some names, and for no two ids do the
names of one begin with those of the other. -/
structure IdsApart (s : WorkspaceStore) : Prop where
  inside : ∀ id ∈ s.workspaces, ∃ names, names ≠ [] ∧ LeadsBy env cwd id names
  apart : ∀ id ∈ s.workspaces, ∀ id' ∈ s.workspaces, id ≠ id' → ∀ names names',
    LeadsBy env cwd id names → LeadsBy env cwd id' names' → ¬ names <+: names' ∧ ¬ names' <+: names

/-! ## The user data directory as a walk -/

/-- The base directory ends in its last letter. -/
lemma workspaceBaseDir_last : (workspaceBaseDir env).toList.getLast? = some 'k' := by
  have name : untilNul "purecloak".toList = "purecloa".toList ++ ['k'] := by decide
  rw [workspaceBaseDir, appendPath, name]
  dsimp only
  split
  · rfl
  · split
    · rw [String.toList_ofList, ← List.cons_append, ← List.append_assoc, List.getLast?_concat]
    · rw [String.toList_ofList, ← List.append_assoc, List.getLast?_concat]

/-- The directory of a workspace is reached from the base directory. -/
lemma workspaceDir_eq (id : String) :
    workspaceDir env cwd id = walk (baseDir env cwd) (moves (untilNul ("ws_" ++ id).toList)) := by
  have last := workspaceBaseDir_last env
  apply resolve_appendPath cwd last (by decide)
  · intro e
    rw [e] at last
    exact absurd last (by decide)
  · rw [String.toList_append]
    exact List.cons_ne_nil 'w' _

variable {env cwd}

/-- It lies below the base directory exactly when the id leads there. -/
lemma workspaceDir_eq_append_iff {id : String} {names : List Name} :
    workspaceDir env cwd id = baseDir env cwd ++ names ↔ LeadsBy env cwd id names := by
  rw [workspaceDir_eq, walk_eq_append_iff]
  rfl

/-- So it is inside when the id leads to some name. -/
lemma inside_baseDir_iff {id : String} : Inside (workspaceDir env cwd id) (baseDir env cwd) ↔
    ∃ names, names ≠ [] ∧ LeadsBy env cwd id names := by
  simp only [inside_iff, workspaceDir_eq_append_iff]

variable (env cwd)

/-- The directories of the workspaces in a store are apart and inside the base directory exactly when the ids of
these workspaces are. -/
theorem confined_iff (s : WorkspaceStore) : Confined env cwd s ↔ IdsApart env cwd s := by
  have apart_iff' {id id' : String} {names names' : List Name} (h : LeadsBy env cwd id names)
      (h' : LeadsBy env cwd id' names') :
      Apart (workspaceDir env cwd id) (workspaceDir env cwd id') ↔
        ¬ names <+: names' ∧ ¬ names' <+: names := by
    rw [workspaceDir_eq_append_iff.mpr h, workspaceDir_eq_append_iff.mpr h', apart_append_iff, apart_iff]
  constructor
  · intro c
    refine ⟨fun id hid => inside_baseDir_iff.mp (c.inside id hid), ?_⟩
    intro id hid id' hid' ne names names' h h'
    exact (apart_iff' h h').mp (c.apart id hid id' hid' ne)
  · intro c
    refine ⟨fun id hid => inside_baseDir_iff.mpr (c.inside id hid), ?_⟩
    intro id hid id' hid' ne
    obtain ⟨names, _, h⟩ := c.inside id hid
    obtain ⟨names', _, h'⟩ := c.inside id' hid'
    exact (apart_iff' h h').mpr (c.apart id hid id' hid' ne names names' h h')

/-- A store and the workspaces that were made in it. -/
def escaping : List StoreOp := [
  .create { id := "a" } "b" ⟨23456, by decide, by decide⟩ ⟨1⟩,
  .create { id := "/.." } "c" ⟨23456, by decide, by decide⟩ ⟨2⟩]

/-- The second directory is the base directory itself. -/
theorem confined_fails :
    ¬ ∀ env cwd tr s, Run WorkspaceStore.step {} tr s → Confined env cwd s := by
  intro h
  have r : Run WorkspaceStore.step {} (trace WorkspaceStore.step {} escaping) _ := Run.of_exec rfl
  have inside := (h bareEnv [] _ _ r).inside "/.." (by decide)
  exact absurd inside.2 (by decide)

/-! ## Ids that are names -/

/-- An id that is one name, with no separator and no NUL in it, leads down by one name. -/
lemma leadsBy_of_name {id : String} (sep : '/' ∉ id.toList) (nul : '\x00' ∉ id.toList)
    {names : List Name} : LeadsBy env cwd id names ↔ names = [("ws_" ++ id).toList] := by
  have chars : ("ws_" ++ id).toList = 'w' :: 's' :: '_' :: id.toList := String.toList_append
  have all : untilNul ("ws_" ++ id).toList = ("ws_" ++ id).toList := by
    rw [chars, untilNul, List.takeWhile_eq_self_iff]
    intro c hc
    simp only [List.mem_cons] at hc
    obtain rfl | rfl | rfl | hc := hc
    · decide
    · decide
    · decide
    · exact decide_eq_true fun e => nul (e ▸ hc)
  have one : ("ws_" ++ id).toList.splitOn '/' = [("ws_" ++ id).toList] := by
    apply List.splitOn_eq_singleton
    rw [chars]
    simpa using sep
  have net_eq : idNet id = ⟨0, [("ws_" ++ id).toList]⟩ := by
    rw [idNet, all, moves, one, chars]
    simp [moveOf, net, Net.add]
  rw [LeadsBy, net_eq, List.rtake_zero, List.nil_append, eq_comm]

/-- Workspaces whose ids are names have their directories apart. -/
theorem confined_of_names {s : WorkspaceStore}
    (h : ∀ id ∈ s.workspaces, '/' ∉ id.toList ∧ '\x00' ∉ id.toList) : Confined env cwd s := by
  rw [confined_iff]
  constructor
  · intro id hid
    exact ⟨_, List.cons_ne_nil _ _, (leadsBy_of_name env cwd (h id hid).1 (h id hid).2).mpr rfl⟩
  · intro id hid id' hid' ne names names' lead lead'
    obtain rfl := (leadsBy_of_name env cwd (h id hid).1 (h id hid).2).mp lead
    obtain rfl := (leadsBy_of_name env cwd (h id' hid').1 (h id' hid').2).mp lead'
    have ne' : id.toList ≠ id'.toList := fun e => ne (String.toList_injective e)
    simpa using ⟨ne', ne'.symm⟩

/-! ## Deletions -/

/-- Only workspaces of the store are started. -/
def StartsFrom (s : WorkspaceStore) (_ : World) (e : Event) : Prop :=
  ∀ ws, e = .start ws → ws.id ∈ s.workspaces

/-- What is started, what runs and what is to be deleted has the directory of a workspace in the store. -/
structure DirsFrom (s : WorkspaceStore) (w : World) : Prop where
  starts : ∀ l ∈ w.starts, l.1.id ∈ s.workspaces
  own : w.StartsOnOwnDir env
  entries : ∀ (id : String) (r : RunningWorkspace), w.workspaces[id]? = some r →
    id ∈ s.workspaces ∧ r.userDataDir = userDataDir env id
  deletions : ∀ dir ∈ w.deletions, ∃ id ∈ s.workspaces, dir = userDataDir env id

variable {env cwd} {s : WorkspaceStore}

/-- A crash changes no directory. -/
lemma markCrashed_userDataDir {m : Std.ExtTreeMap String RunningWorkspace} {id id' : String}
    {r' : RunningWorkspace} (h : (markCrashed m id)[id']? = some r') :
    ∃ r : RunningWorkspace, m[id']? = some r ∧ r'.userDataDir = r.userDataDir := by
  unfold markCrashed at h
  split at h
  case h_1 => exact ⟨r', h, rfl⟩
  case h_2 r hr =>
    rw [KeyedMap.get_insert] at h
    split at h
    case isTrue e =>
      cases h
      exact ⟨r, e ▸ hr, rfl⟩
    case isFalse => exact ⟨r', h, rfl⟩

/-- The deletions that a step posts are of directories in the entries. -/
lemma entry_of_posted {w : World} {e : Event} {dir : String} (h : dir ∈ w.deletionsPosted e) :
    ∃ (id : String) (r : RunningWorkspace), w.workspaces[id]? = some r ∧ r.userDataDir = dir := by
  cases e with
  | stop id =>
    obtain ⟨r, hr, rfl⟩ := List.mem_map.mp (List.mem_filter.mp h).1
    exact ⟨id, r, Option.mem_toList.mp hr, rfl⟩
  | stopAll =>
    obtain ⟨r, hr, rfl⟩ := List.mem_map.mp (List.mem_filter.mp h).1
    obtain ⟨entry, mem, rfl⟩ := List.mem_map.mp hr
    exact ⟨entry.1, entry.2, Std.ExtTreeMap.mem_toList_iff_getElem?_eq_some.mp mem, rfl⟩
  | _ => cases h

/-- Every step keeps the directories of the entries those of launches. -/
lemma dirsFrom_step {w w' : World} {e : Event} (h : DirsFrom env s w) (g : StartsFrom s w e)
    (st : step env w e = some w') : DirsFrom env s w' := by
  constructor
  · intro l hl
    obtain before | posted := mem_starts_step st hl
    · exact h.starts l before
    · cases e with
      | start ws =>
        obtain ⟨port, _, rfl⟩ := Option.map_eq_some_iff.mp posted
        exact g ws rfl
      | _ => cases posted
  · exact startsOnOwnDir_step h.own st
  · intro id r hr
    have entries := (manager_step st).entries
    generalize w'.workspaces = m at entries hr
    cases entries with
    | stop id' =>
      rw [KeyedMap.get_erase] at hr
      split at hr
      · cases hr
      · exact h.entries id r hr
    | stopAll => cases hr
    | poll ids =>
      have key := h.entries
      generalize w.workspaces = m at hr key
      induction ids generalizing m with
      | nil => exact key id r hr
      | cons id' ids ih =>
        refine ih _ hr ?_
        intro id r' hr'
        obtain ⟨r, hr, e⟩ := markCrashed_userDataDir hr'
        exact e ▸ key id r hr
    | @launch _ ws dir port pid now hl =>
      rw [KeyedMap.get_insert] at hr
      split at hr
      case isTrue e =>
        cases hr
        have under_way := mem_starts_of_arrived (startArrived_of_launched hl)
        exact e ▸ ⟨h.starts _ under_way, h.own _ under_way⟩
      case isFalse => exact h.entries id r hr
    | same => exact h.entries id r hr
  · intro dir hd
    obtain before | posted := mem_deletions_step st hd
    · exact h.deletions dir before
    · obtain ⟨id, r, hr, rfl⟩ := entry_of_posted posted
      exact ⟨id, h.entries id r hr⟩

/-- With ids that are apart, the deletions that wait stay inside the base directory and touch no directory of another
workspace. -/
theorem deletions_confined (apart : IdsApart env cwd s) {tr : List (World × Event)} {w : World}
    (r : Run (step env) {} tr w) (g : Guarded (StartsFrom s) tr) :
    ∀ dir ∈ w.deletions, Inside (resolve cwd dir) (baseDir env cwd) ∧
      ∃ id ∈ s.workspaces, dir = userDataDir env id ∧ ∀ id' ∈ s.workspaces, id ≠ id' →
        Apart (resolve cwd dir) (workspaceDir env cwd id') := by
  have init : DirsFrom env s {} := by
    refine ⟨?_, ?_, ?_, ?_⟩
    · intro l hl
      cases hl
    · intro l hl
      cases hl
    · intro id r hr
      cases hr
    · intro dir hd
      cases hd
  have confined := (confined_iff env cwd s).mpr apart
  intro dir hd
  obtain ⟨id, hid, rfl⟩ := (r.invariant_guarded dirsFrom_step init g).deletions dir hd
  exact ⟨confined.inside id hid, id, hid, rfl, fun id' hid' ne => confined.apart id hid id' hid' ne⟩

end World

end PureCloak.Launcher
