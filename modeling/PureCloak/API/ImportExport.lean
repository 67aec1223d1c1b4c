import PureCloak.API.Authentication
import PureCloak.Profiles.Invariants

/-!
# Export and import

`HandleExportWorkspaces` sends the records of all workspaces, and `HandleImportWorkspaces` makes workspaces of the
records of a list. The importer passes over records without a name and lets `CreateWorkspace` draw a seed where there
is none: `import_exported` says what an import of an exported list adds, and when it adds copies of everything.
-/

namespace PureCloak.API
open PureCloak.Base PureCloak.Profiles

/-- The loop of `HandleImportWorkspaces`: the store and the two counters. -/
structure ImportResult where
  store : WorkspaceStore
  imported : Nat := 0
  skipped : Nat := 0

section
variable [TimeLib]

/-- The list that `HandleExportWorkspaces` sends. -/
def exportWorkspaces (store : WorkspaceStore) : ListValue :=
  store.getAllWorkspaces.map fun ws => .dict ws.toDict

/-- One round of the loop. -/
def ImportResult.add (r : ImportResult) (drawn : Drawn) : Value → ImportResult
  | .dict dict =>
    if (DictValue.findString dict "name").getD "" = "" then { r with skipped := r.skipped + 1 }
    else
      let ws := { Workspace.fromDict dict with id := drawn.id }
      { r with
        store := (r.store.createWorkspace ws drawn.id drawn.seed drawn.now).1
        imported := r.imported + 1 }
  | _ => { r with skipped := r.skipped + 1 }

/-- The loop; what the round of an item draws is chosen outside. -/
def ImportResult.addAll (drawn : Nat → Drawn) : Nat → ListValue → ImportResult → ImportResult
  | _, [], r => r
  | i, item :: items, r => addAll drawn (i + 1) items (r.add (drawn i) item)

/-- The task of `HandleImportWorkspaces` on the UI sequence. -/
def importWorkspaces (drawn : Nat → Drawn) (items : ListValue) (store : WorkspaceStore) : ImportResult :=
  ImportResult.addAll drawn 0 items { store := store }

/-- What is sent back. -/
def ImportResult.data (r : ImportResult) : DictValue :=
  DictValue.ofFields [
    ("imported", some (.integer (Int32.ofNat r.imported))), ("skipped", some (.integer (Int32.ofNat r.skipped)))]

/-- The store after the loop, without the counters. -/
theorem store_addAll (drawn : Nat → Drawn) (i : Nat) (items : ListValue) (r : ImportResult) :
    (ImportResult.addAll drawn i items r).store = importItems drawn i items r.store := by
  induction items generalizing i r with
  | nil => rfl
  | cons item items ih =>
    rw [ImportResult.addAll, ih]
    cases item with
    | dict dict =>
      rw [ImportResult.add, importItems]
      split_ifs <;> rfl
    | none | boolean | integer | double | string | list => rfl

/-! ## What an import adds -/

/-- The ids that are drawn for the items from one number up to another are new. -/
structure FreshIds (drawn : Nat → Drawn) (first last : Nat) (store : WorkspaceStore) : Prop where
  unused : ∀ i, first ≤ i → i < last → (drawn i).id ∉ store.workspaces
  distinct : ∀ i j, first ≤ i → i < j → j < last → (drawn i).id ≠ (drawn j).id

/-- A workspace without its id, its times, its runtime fields and its seed. -/
def settings (ws : Workspace) : Workspace :=
  { ws with
    id := ""
    fingerprintSeed := 0
    createdAt := .null
    updatedAt := .null
    userDataDir := ""
    status := ""
    cdpUrl := "" }

/-- A copy has new times and an id of its own; it has a seed, the same one if there was one. -/
structure Copy (old new : Workspace) : Prop where
  settings : settings new = settings old
  seed : old.fingerprintSeed ≠ 0 → new.fingerprintSeed = old.fingerprintSeed
  seeded : new.fingerprintSeed ≠ 0

/-- The workspace has a name. -/
def named (ws : Workspace) : Bool :=
  ws.name ≠ ""

/-- The workspaces of an import, as it should be: a copy of each one that was exported. -/
structure Complete (exported : List Workspace) (before : WorkspaceStore) (r : ImportResult) : Prop where
  imported : r.imported = exported.length
  skipped : r.skipped = 0
  copies : ∃ new : List Workspace, r.store.getAllWorkspaces.Perm (before.getAllWorkspaces ++ new) ∧
    (new.map fun ws => (settings ws, ws.fingerprintSeed)).Perm
      (exported.map fun ws => (settings ws, ws.fingerprintSeed))

/-- The name of a workspace is in its record. -/
lemma findString_name_toDict (ws : Workspace) : DictValue.findString ws.toDict "name" = some ws.name := by
  rw [DictValue.findString, Workspace.find_toDict]
  rfl

omit [TimeLib] in
/-- A workspace that is given an id is created under it. -/
lemma id_created (ws : Workspace) (id : String) (seed : GeneratedSeed) (now : Time) :
    (WorkspaceStore.created { ws with id := id } id seed now).id = id := by
  unfold WorkspaceStore.created
  dsimp only
  split_ifs <;> rfl

/-- What is created from an exported record is a copy. -/
lemma copy_created (ws : Workspace) (drawn : Drawn) :
    Copy ws (WorkspaceStore.created { Workspace.fromDict ws.toDict with id := drawn.id } drawn.id drawn.seed
      drawn.now) := by
  refine ⟨?_, ?_, created_seed _ _ _ _⟩
  · rw [Workspace.fromDict_toDict]
    unfold WorkspaceStore.created
    dsimp only
    split_ifs <;> rfl
  · intro seed
    rw [Workspace.fromDict_toDict]
    unfold WorkspaceStore.created
    dsimp only
    have kept : ws.persisted.fingerprintSeed ≠ 0 := seed
    split_ifs <;> rfl

/-- A workspace that is created under a new id is added to the others. -/
lemma getAllWorkspaces_create {store : WorkspaceStore} {ws : Workspace} {newId : String} {newSeed : GeneratedSeed}
    {now : Time} (unused : (WorkspaceStore.created ws newId newSeed now).id ∉ store.workspaces) :
    (store.createWorkspace ws newId newSeed now).1.getAllWorkspaces.Perm
      (WorkspaceStore.created ws newId newSeed now :: store.getAllWorkspaces) := by
  have insert := KeyedMap.toList_insert_perm store.workspaces (WorkspaceStore.created ws newId newSeed now).id
    (WorkspaceStore.created ws newId newSeed now)
  rw [KeyedMap.erase_of_get_eq_none (KeyedMap.get_eq_none_iff.mpr unused)] at insert
  exact insert.map Prod.snd

omit [TimeLib] in
/-- The ids for the later items are fresh. -/
lemma FreshIds.skip {drawn : Nat → Drawn} {first last : Nat} {store : WorkspaceStore}
    (h : FreshIds drawn first last store) : FreshIds drawn (first + 1) last store where
  unused i hi := h.unused i (Nat.le_of_succ_le hi)
  distinct i j hi := h.distinct i j (Nat.le_of_succ_le hi)

/-- They stay so when the first one is used. -/
lemma FreshIds.create {drawn : Nat → Drawn} {first last : Nat} {store : WorkspaceStore} {ws : Workspace}
    {newId : String} {newSeed : GeneratedSeed} {now : Time} (h : FreshIds drawn first last store)
    (id : (WorkspaceStore.created ws newId newSeed now).id = (drawn first).id) :
    FreshIds drawn (first + 1) last (store.createWorkspace ws newId newSeed now).1 where
  unused i hi hl := by
    have ne := h.distinct first i (Nat.le_refl first) hi hl
    have unused := h.unused i (Nat.le_of_succ_le hi) hl
    rw [← KeyedMap.get_eq_none_iff, WorkspaceStore.createWorkspace_get, id, if_neg ne]
    exact KeyedMap.get_eq_none_iff.mpr unused
  distinct := h.skip.distinct

/-- The loop over exported records: the named ones are copied. -/
lemma addAll_exported (drawn : Nat → Drawn) (i : Nat) (l : List Workspace) (r : ImportResult)
    (fresh : FreshIds drawn i (i + l.length) r.store) :
    let t := ImportResult.addAll drawn i (l.map fun ws => .dict ws.toDict) r
    t.imported = r.imported + (l.filter named).length ∧
      t.skipped = r.skipped + (l.filter fun ws => !named ws).length ∧
      ∃ new, List.Forall₂ Copy (l.filter named) new ∧
        t.store.getAllWorkspaces.Perm (r.store.getAllWorkspaces ++ new) := by
  induction l generalizing i r with
  | nil => exact ⟨rfl, rfl, [], .nil, by simp [ImportResult.addAll]⟩
  | cons ws l ih =>
    rw [List.length_cons, ← Nat.add_assoc, Nat.add_right_comm] at fresh
    rw [List.map_cons, ImportResult.addAll]
    by_cases name : ws.name = ""
    · have skips : r.add (drawn i) (.dict ws.toDict) = { r with skipped := r.skipped + 1 } := by
        rw [ImportResult.add, findString_name_toDict, Option.getD_some, if_pos name]
      have unnamed : named ws = false := by simp [named, name]
      rw [skips, List.filter_cons_of_neg (by simp [unnamed]), List.filter_cons_of_pos (by simp [unnamed]),
        List.length_cons]
      obtain ⟨imported, skipped, copies⟩ := ih (i + 1) { r with skipped := r.skipped + 1 } fresh.skip
      exact ⟨imported, skipped.trans (Nat.add_right_comm ..), copies⟩
    · have adds : r.add (drawn i) (.dict ws.toDict) = { r with
          store := (r.store.createWorkspace { Workspace.fromDict ws.toDict with id := (drawn i).id } (drawn i).id
            (drawn i).seed (drawn i).now).1
          imported := r.imported + 1 } := by
        rw [ImportResult.add, findString_name_toDict, Option.getD_some, if_neg name]
      have isNamed : named ws = true := by simp [named, name]
      rw [adds, List.filter_cons_of_pos (by simp [isNamed]), List.filter_cons_of_neg (by simp [isNamed]),
        List.length_cons]
      have id := id_created (Workspace.fromDict ws.toDict) (drawn i).id (drawn i).seed (drawn i).now
      obtain ⟨imported, skipped, new, copies, all⟩ := ih (i + 1) { r with
        store := (r.store.createWorkspace { Workspace.fromDict ws.toDict with id := (drawn i).id } (drawn i).id
          (drawn i).seed (drawn i).now).1
        imported := r.imported + 1 } (fresh.create id)
      refine ⟨imported.trans (Nat.add_right_comm ..), skipped, _ :: new, .cons (copy_created ws (drawn i)) copies, ?_⟩
      have unused := fresh.unused i (Nat.le_refl i) (by omega)
      rw [← id] at unused
      have created := getAllWorkspaces_create unused
      exact all.trans ((created.append_right new).trans List.perm_middle.symm)

omit [TimeLib] in
/-- The counters are in the response. -/
lemma findInt_data (r : ImportResult) :
    DictValue.findInt r.data "imported" = some (Int32.ofNat r.imported) ∧
      DictValue.findInt r.data "skipped" = some (Int32.ofNat r.skipped) := by
  have nd : ([("imported", some (Value.integer (Int32.ofNat r.imported))),
      ("skipped", some (Value.integer (Int32.ofNat r.skipped)))].map Prod.fst).Nodup := by
    show List.Nodup ["imported", "skipped"]
    decide
  unfold DictValue.findInt ImportResult.data
  rw [DictValue.find_ofFields nd, DictValue.find_ofFields nd]
  exact ⟨rfl, rfl⟩

omit [TimeLib] in
/-- A copy has a seed. -/
lemma seeded_of_copies {old new : List Workspace} (copies : List.Forall₂ Copy old new) :
    ∀ ws ∈ new, ws.fingerprintSeed ≠ 0 := by
  induction copies with
  | nil =>
    intro ws hws
    cases hws
  | cons isCopy _ ih =>
    intro ws hws
    rcases List.mem_cons.mp hws with rfl | hws
    · exact isCopy.seeded
    · exact ih ws hws

omit [TimeLib] in
/-- Copies of workspaces with seeds have their settings and their seeds. -/
lemma same_of_copies {old new : List Workspace} (copies : List.Forall₂ Copy old new)
    (seeded : ∀ ws ∈ old, ws.fingerprintSeed ≠ 0) :
    (new.map fun ws => (settings ws, ws.fingerprintSeed)) =
      old.map fun ws => (settings ws, ws.fingerprintSeed) := by
  induction copies with
  | nil => rfl
  | @cons ws copy old new isCopy _ ih =>
    rw [List.map_cons, List.map_cons, ih fun ws hws => seeded ws (List.mem_cons_of_mem _ hws), isCopy.settings,
      isCopy.seed (seeded ws List.mem_cons_self)]

omit [TimeLib] in
/-- The copies of exported workspaces are complete when all of them had a name and a seed. -/
lemma complete_iff {exported new : List Workspace} {before : WorkspaceStore} {r : ImportResult}
    (imported : r.imported = (exported.filter named).length)
    (skipped : r.skipped = (exported.filter fun ws => !named ws).length)
    (copies : List.Forall₂ Copy (exported.filter named) new)
    (all : r.store.getAllWorkspaces.Perm (before.getAllWorkspaces ++ new)) :
    Complete exported before r ↔ ∀ ws ∈ exported, named ws = true ∧ ws.fingerprintSeed ≠ 0 := by
  constructor
  · intro complete ws hws
    have allNamed : ∀ ws ∈ exported, named ws = true := by
      have none := List.length_eq_zero_iff.mp (skipped.symm.trans complete.skipped)
      intro ws hws
      simpa using List.filter_eq_nil_iff.mp none ws hws
    refine ⟨allNamed ws hws, fun unseeded => ?_⟩
    obtain ⟨new', all', same⟩ := complete.copies
    have same := ((List.perm_append_left_iff _).mp (all.symm.trans all')).map
      (fun ws => (settings ws, ws.fingerprintSeed)) |>.trans same
    -- the workspace without a seed would be among the copies
    obtain ⟨copy, hc, e⟩ := List.mem_map.mp (same.mem_iff.mpr (List.mem_map_of_mem hws))
    exact seeded_of_copies copies copy hc ((congrArg Prod.snd e).trans unseeded)
  · intro fine
    have allNamed : exported.filter named = exported := List.filter_eq_self.mpr fun ws hws => (fine ws hws).1
    have noneSkipped : (exported.filter fun ws => !named ws) = [] :=
      List.filter_eq_nil_iff.mpr fun ws hws => by simp [(fine ws hws).1]
    rw [allNamed] at imported copies
    rw [noneSkipped] at skipped
    refine ⟨imported, skipped, new, all, ?_⟩
    rw [same_of_copies copies fun ws hws => (fine ws hws).2]

/-- An import of an exported list adds a copy of every workspace that has a name, and counts the others as
skipped; it is complete exactly when every workspace has a name and a seed. -/
theorem import_exported (source target : WorkspaceStore) (drawn : Nat → Drawn)
    (fresh : FreshIds drawn 0 source.getAllWorkspaces.length target) :
    let exported := source.getAllWorkspaces
    let r := importWorkspaces drawn (exportWorkspaces source) target
    (DictValue.findInt r.data "imported" = some (Int32.ofNat (exported.filter named).length) ∧
      DictValue.findInt r.data "skipped" = some (Int32.ofNat (exported.filter fun ws => !named ws).length) ∧
      ∃ new, List.Forall₂ Copy (exported.filter named) new ∧
        r.store.getAllWorkspaces.Perm (target.getAllWorkspaces ++ new)) ∧
      (Complete exported target r ↔ ∀ ws ∈ exported, named ws = true ∧ ws.fingerprintSeed ≠ 0) := by
  have added := addAll_exported drawn 0 source.getAllWorkspaces { store := target }
    ((Nat.zero_add _).symm ▸ fresh)
  obtain ⟨imported, skipped, new, copies, all⟩ := added
  rw [Nat.zero_add] at imported skipped
  have complete := complete_iff imported skipped copies all
  obtain ⟨data, data'⟩ := findInt_data (importWorkspaces drawn (exportWorkspaces source) target)
  exact ⟨⟨data.trans (congrArg _ (congrArg _ imported)), data'.trans (congrArg _ (congrArg _ skipped)), new, copies,
    all⟩, complete⟩

end

/-- Two workspaces, one of them renamed to nothing. -/
def unnamed : List StoreOp := [
  .create { name := "w" } "a" ⟨67890, by decide, by decide⟩ ⟨1⟩,
  .create { name := "v" } "b" ⟨67891, by decide, by decide⟩ ⟨2⟩,
  .rename "b" "" ⟨3⟩]

def unnamedStore : WorkspaceStore :=
  unnamed.foldl WorkspaceStore.apply {}

/-- Two ids. -/
def twoIds (i : Nat) : Drawn :=
  ⟨if i = 0 then "c" else "d", ⟨78901, by decide, by decide⟩, ⟨4⟩⟩

/-- Both ids are fresh. -/
lemma fresh_twoIds : FreshIds twoIds 0 unnamedStore.getAllWorkspaces.length {} where
  unused i _ _ := Std.ExtTreeMap.not_mem_empty
  distinct i j _ hij hj := by
    have two : unnamedStore.getAllWorkspaces.length = 2 := rfl
    obtain ⟨rfl, rfl⟩ : i = 0 ∧ j = 1 := by omega
    decide

/-- One of two workspaces is copied. -/
theorem import_exported_unnamed :
    let exported := unnamedStore.getAllWorkspaces
    let r := importWorkspaces twoIds (exportWorkspaces unnamedStore) {}
    (DictValue.findInt r.data "imported" = some (Int32.ofNat (exported.filter named).length) ∧
      DictValue.findInt r.data "skipped" = some (Int32.ofNat (exported.filter fun ws => !named ws).length) ∧
      ∃ new, List.Forall₂ Copy (exported.filter named) new ∧
        r.store.getAllWorkspaces.Perm (WorkspaceStore.getAllWorkspaces {} ++ new)) ∧
      (Complete exported {} r ↔ ∀ ws ∈ exported, named ws = true ∧ ws.fingerprintSeed ≠ 0) :=
  import_exported unnamedStore {} twoIds fresh_twoIds

/-- The workspace without a name is not imported. -/
theorem import_incomplete :
    ∃ s, Machine.Run WorkspaceStore.step {} (Machine.trace WorkspaceStore.step {} unnamed) s ∧
      (importWorkspaces twoIds (exportWorkspaces s) {}).skipped = 1 ∧
      ¬ Complete s.getAllWorkspaces {} (importWorkspaces twoIds (exportWorkspaces s) {}) := by
  obtain ⟨s, ex, skipped⟩ : ∃ s, Machine.exec WorkspaceStore.step {} unnamed = some s ∧
      (importWorkspaces twoIds (exportWorkspaces s) {}).skipped = 1 := ⟨_, rfl, rfl⟩
  refine ⟨s, Machine.Run.of_exec ex, skipped, ?_⟩
  intro complete
  have none := complete.skipped
  rw [skipped] at none
  cases none

end PureCloak.API
