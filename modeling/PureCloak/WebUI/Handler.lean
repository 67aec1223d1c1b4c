import PureCloak.Profiles.Store

/-!
# WebUI messages about workspaces

The handlers of `PureCloakHandler` that change the store. A message is a list of values whose first one is
the id of the callback; what the handler resolves that callback with is returned along with the store.
`none` is a failed `CHECK`, on a message that is too short or has a value of another type.

`update_frame_iff` says for which stored workspaces an edit changes only the fields that it names: the full
update decodes the dictionary on its own, so that a field without a key falls back to its default.
-/

namespace PureCloak.WebUI
open PureCloak.Base PureCloak.Profiles

section
variable [TimeLib]

/-- `HandleGetAllWorkspaces`. -/
def handleGetAllWorkspaces (store : WorkspaceStore) (args : ListValue) : Option (Value × Value) := do
  let result := store.getAllWorkspaces.map fun ws => .dict ws.toDict
  return (← args[0]?, .list result)

/-- `HandleUpdateWorkspace`; it reads the clock, and so does the store after it. -/
def handleUpdateWorkspace (store : WorkspaceStore) (args : ListValue) (now storeNow : Time) :
    Option (WorkspaceStore × Value × Value) := do
  match ← args[1]? with
  | .string id =>
    -- the old format, with a new name
    let newName ← (← args[2]?).getIfString
    let (store, success) := store.updateWorkspaceName id newName storeNow
    return (store, ← args[0]?, .boolean success)
  | v =>
    let ws := Workspace.fromDict (← v.getIfDict)
    let ws := { ws with updatedAt := now }
    let (store, success) := store.updateWorkspace ws storeNow
    return (store, ← args[0]?, .boolean success)

/-- `HandleDeleteWorkspace`. -/
def handleDeleteWorkspace (store : WorkspaceStore) (args : ListValue) :
    Option (WorkspaceStore × Value × Value) := do
  let id ← (← args[1]?).getIfString
  let (store, success) := store.deleteWorkspace id
  return (store, ← args[0]?, .boolean success)

end

/-! ## What an edit changes -/

/-- The stored record changed as the dictionary says: a field without a key is as before, and one whose key
has a value of the right type has that value. -/
def EditedBy (dict : DictValue) (old new : Workspace) : Prop :=
  ∀ f : Field, (DictValue.find dict f.key = none → new.get f = old.get f) ∧
    ∀ v, f.read dict = some v → new.get f = v

/-- The fields whose keys `collectWsFormData` sends. -/
def formFields : List Field := [
  .name, .userAgent, .screenWidth, .screenHeight, .hardwareConcurrency, .platform, .colorScheme,
  .proxy, .timezone, .locale, .geoip, .headless, .clipboardSync, .autoLaunch, .tags]

section
variable [TimeLib]

/-- The record that is stored by an edit of a stored workspace. -/
def edited (dict : DictValue) (old : Workspace) (now : Time) : Workspace :=
  { Workspace.fromDict dict with type := old.type, createdAt := old.createdAt, updatedAt := now }

/-- The message of an edit stores the edited record and resolves with success. -/
lemma handleUpdateWorkspace_dict {store : WorkspaceStore} {dict : DictValue} {old : Workspace}
    (h : store.workspaces[(Workspace.fromDict dict).id]? = some old) (callbackId : Value)
    (now storeNow : Time) :
    ∃ store', handleUpdateWorkspace store [callbackId, .dict dict] now storeNow =
        some (store', callbackId, .boolean true) ∧
      ∀ k : String, store'.workspaces[k]? =
        if (Workspace.fromDict dict).id = k then some (edited dict old storeNow)
        else store.workspaces[k]? := by
  refine ⟨(store.updateWorkspace { Workspace.fromDict dict with updatedAt := now } storeNow).1,
    ?_, fun k => ?_⟩
  · have found : (store.updateWorkspace { Workspace.fromDict dict with updatedAt := now }
        storeNow).2 = true := by simp only [WorkspaceStore.updateWorkspace, h]
    simp [handleUpdateWorkspace, Value.getIfDict, found]
  · rw [WorkspaceStore.updateWorkspace_get]
    split
    case isTrue e =>
      subst e
      simp only [h, Option.map_some]
      rfl
    case isFalse => rfl

/-- A configurable field of an edited record is read from the dictionary or else is the default. -/
lemma edited_get (dict : DictValue) (old : Workspace) (now : Time) (f : Field) :
    (edited dict old now).get f = (f.read dict).getD (({} : Workspace).get f) := by
  rw [← Workspace.fromDict_get]
  cases f <;> rfl

/-- An edit changes what its dictionary says exactly when the fields without a key have their defaults. -/
lemma edited_iff {dict : DictValue} {old : Workspace} {now : Time} :
    EditedBy dict old (edited dict old now) ↔
      ∀ f : Field, DictValue.find dict f.key = none → old.get f = ({} : Workspace).get f := by
  refine ⟨fun h f absent => ?_, fun h f => ⟨fun absent => ?_, fun v hv => ?_⟩⟩
  · rw [← (h f).1 absent, edited_get, Field.read_of_absent absent, Option.getD_none]
  · rw [edited_get, Field.read_of_absent absent, Option.getD_none, h f absent]
  · rw [edited_get, hv, Option.getD_some]

/-- An edit in the WebUI changes only what the form sent exactly when the stored workspace has the default
in every field whose key is absent. -/
theorem update_frame_iff {store : WorkspaceStore} {dict : DictValue} {old : Workspace}
    (h : store.workspaces[(Workspace.fromDict dict).id]? = some old) (callbackId : Value)
    (now storeNow : Time) :
    (∃ store' reply new,
      handleUpdateWorkspace store [callbackId, .dict dict] now storeNow = some (store', reply) ∧
      store'.workspaces[(Workspace.fromDict dict).id]? = some new ∧ EditedBy dict old new) ↔
    ∀ f : Field, DictValue.find dict f.key = none → old.get f = ({} : Workspace).get f := by
  obtain ⟨store', hs, get⟩ := handleUpdateWorkspace_dict h callbackId now storeNow
  have stored := get (Workspace.fromDict dict).id
  rw [if_pos rfl] at stored
  rw [← @edited_iff _ dict old storeNow]
  refine ⟨?_, fun e => ⟨store', _, _, hs, stored, e⟩⟩
  rintro ⟨s, reply, new, hs', hn, e⟩
  obtain ⟨rfl, -⟩ := Prod.mk.inj (Option.some.inj (hs.symm.trans hs'))
  cases hn.symm.trans stored
  exact e

/-- The form of the page keeps a workspace exactly when the fields it does not send have defaults. -/
theorem form_edited_iff {dict : DictValue} {old : Workspace} {now : Time}
    (form : ∀ f : Field, DictValue.find dict f.key = none ↔ f ∉ formFields) :
    EditedBy dict old (edited dict old now) ↔
      ∀ f ∈ [Field.color, .defaultTabTitle, .notes, .fingerprintSeed, .gpuVendor, .gpuRenderer, .humanize,
        .humanPreset, .launchArgs], old.get f = ({} : Workspace).get f := by
  rw [edited_iff]
  refine forall_congr' fun f => ?_
  rw [form f]
  cases f <;> simp [formFields]

end

/-- A stored workspace with notes. -/
def withNotes : WorkspaceStore :=
  { workspaces := (∅ : WorkspaceMap).insert "a" { id := "a", notes := "n" } }

/-- An edit that sends the notes along. -/
theorem update_frame_notes : ∃ store' reply new,
    handleUpdateWorkspace withNotes
      [.string "cb", .dict [(kIdKey, .string "a"), (kNotesKey, .string "m")]] ⟨1⟩ ⟨2⟩ =
      some (store', reply) ∧
    store'.workspaces["a"]? = some new ∧
    EditedBy [(kIdKey, .string "a"), (kNotesKey, .string "m")] { id := "a", notes := "n" } new := by
  have stored : withNotes.workspaces[(Workspace.fromDict [(kIdKey, .string "a"),
      (kNotesKey, .string "m")]).id]? = some { id := "a", notes := "n" } := by decide
  refine (update_frame_iff stored _ _ _).mpr fun f => ?_
  cases f <;> decide

/-- An edit of the name loses the notes. -/
theorem update_frame_fails :
    ¬ ∀ (store : WorkspaceStore) (dict : DictValue) (old : Workspace) (callbackId : Value)
      (now storeNow : Time), store.workspaces[(Workspace.fromDict dict).id]? = some old →
      ∃ store' reply new,
        handleUpdateWorkspace store [callbackId, .dict dict] now storeNow = some (store', reply) ∧
        store'.workspaces[(Workspace.fromDict dict).id]? = some new ∧ EditedBy dict old new := by
  intro h
  obtain ⟨store', reply, new, hs, hn, e⟩ := h withNotes [(kIdKey, .string "a"), (kNameKey, .string "w")]
    { id := "a", notes := "n" } (.string "cb") ⟨1⟩ ⟨2⟩ (by decide)
  cases hs
  have lost := (e .notes).1 (by decide)
  cases hn
  exact absurd lost (by decide)

end PureCloak.WebUI
