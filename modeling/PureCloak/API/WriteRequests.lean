import PureCloak.API.WorkspaceApiHandler
import PureCloak.Profiles.Restoring

/-!
# What a write request takes from its body and answers

`ApplyBodyToWorkspace` has its own list of keys beside that of `FromDict`, and leaves three of them out
(`body_agrees_iff`). The response to a create shows what the store holds. The response to an update is made from the
copy that was passed to the store, which sets `updated_at` in its own record only (`write_truthful_iff`).
-/

namespace PureCloak.API
open PureCloak.Base PureCloak.Profiles PureCloak.Launcher Machine

/-! ## The fields of a body -/

/-- The fields that `ApplyBodyToWorkspace` does not look for. -/
def ignoredFields : List Field :=
  [.fingerprintSeed, .launchArgs, .tags]

/-- An ignored field is kept. -/
lemma applyBody_get_ignored (ws : Workspace) (body : DictValue) {f : Field} (ignored : f ∈ ignoredFields) :
    (applyBodyToWorkspace ws body).get f = ws.get f := by
  simp only [ignoredFields, List.mem_cons, List.not_mem_nil, or_false] at ignored
  rcases ignored with rfl | rfl | rfl <;> rfl

/-- The other fields come from the body, or else are kept. -/
lemma applyBody_get (ws : Workspace) (body : DictValue) {f : Field} (applied : f ∉ ignoredFields) :
    (applyBodyToWorkspace ws body).get f = (f.read body).getD (ws.get f) := by
  cases f with
  | fingerprintSeed | launchArgs | tags => exact absurd (by decide) applied
  | _ =>
    simp only [applyBodyToWorkspace, Workspace.get, Field.read, Field.key, DictValue.findString, DictValue.findInt,
      DictValue.findBool, Option.map_bind, Function.comp_def, kNameKey, kColorKey, kDefaultTabTitleKey, kNotesKey,
      kUserAgentKey, kScreenWidthKey, kScreenHeightKey, kGpuVendorKey, kGpuRendererKey, kHardwareConcurrencyKey,
      kPlatformKey, kColorSchemeKey, kProxyKey, kTimezoneKey, kLocaleKey, kGeoipKey, kHumanizeKey, kHumanPresetKey,
      kHeadlessKey, kClipboardSyncKey, kAutoLaunchKey]
    cases DictValue.find body _ with
    | none => rfl
    | some v => cases v <;> rfl

section
variable [TimeLib]

/-- Every configurable field comes from the body as `FromDict` reads it, or else is kept. -/
def BodyAgrees (ws : Workspace) (body : DictValue) : Prop :=
  ∀ f : Field, (applyBodyToWorkspace ws body).get f =
    if (f.read body).isSome then (Workspace.fromDict body).get f else ws.get f

/-- What `FromDict` gives for a field that the dictionary has. -/
lemma fromDict_get_of_read {body : DictValue} {f : Field} {v : FieldValue} (h : f.read body = some v) :
    (Workspace.fromDict body).get f = v := by
  rw [Workspace.fromDict_get, h, Option.getD_some]

/-- The two lists of keys agree on a body exactly when it changes none of the ignored fields. -/
theorem body_agrees_iff (ws : Workspace) (body : DictValue) :
    BodyAgrees ws body ↔ ∀ f ∈ ignoredFields, ∀ v, f.read body = some v → v = ws.get f := by
  refine ⟨?_, ?_⟩
  · intro agrees f ignored v read
    have same := agrees f
    rw [applyBody_get_ignored ws body ignored, read, Option.isSome_some, if_pos rfl, fromDict_get_of_read read] at same
    exact same.symm
  · intro unchanged f
    by_cases ignored : f ∈ ignoredFields
    · rw [applyBody_get_ignored ws body ignored]
      cases read : f.read body with
      | none => rfl
      | some v =>
        rw [Option.isSome_some, if_pos rfl, fromDict_get_of_read read]
        exact (unchanged f ignored v read).symm
    · rw [applyBody_get ws body ignored]
      cases read : f.read body with
      | none => rfl
      | some v =>
        rw [Option.isSome_some, if_pos rfl, fromDict_get_of_read read]
        rfl

end

/-- A body with arguments for the launch. -/
def argsBody : DictValue :=
  [(kLaunchArgsKey, .list [.string "--headless"])]

/-- They are ignored. -/
theorem body_agrees_fails : ¬ BodyAgrees {} argsBody := by
  intro agrees
  exact absurd (agrees .launchArgs) (by decide)

/-! ## The data of a response -/

/-- A request that writes a workspace. -/
inductive WriteRequest where
  | post (body : DictValue)
  | put (wsId : String) (body : DictValue)

/-- The task that the handler of a request posts to the UI sequence. -/
def WriteRequest.handle : WriteRequest → Except RequestError UiTask
  | .post body => handleCreateWorkspace body
  | .put wsId body => .ok (.updateWorkspace wsId body)

/-- The id of the workspace that a success response is about. -/
def WriteRequest.wsId (data : DictValue) : WriteRequest → Option String
  | .post _ => DictValue.findString data kIdKey
  | .put wsId _ => some wsId

section
variable [TimeLib]

/-- The data of a success response are those of the workspace that the store holds after the task. -/
def Truthful (env : Env) (store : WorkspaceStore) (w : World) (basic stored : Drawn) (r : WriteRequest) : Prop :=
  ∀ task data, r.handle = .ok task →
    (task.run env store w basic stored).2.2 = some (.workspace (some data)) →
    ∃ id, r.wsId data = some id ∧
      ((task.run env store w basic stored).1.getWorkspace id).map Workspace.toDict = some data

/-- An update is made in the millisecond in which the workspace was updated before. -/
def SameUpdateText (store : WorkspaceStore) (now : Time) : WriteRequest → Prop
  | .post _ => True
  | .put wsId _ => ∀ old, store.getWorkspace wsId = some old → timeToString now = timeToString old.updatedAt

/-- The time of the last update is in the record. -/
lemma findString_updatedAt_toDict (ws : Workspace) :
    DictValue.findString ws.toDict kUpdatedAtKey = some (timeToString ws.updatedAt) := by
  rw [DictValue.findString, Workspace.find_toDict]
  rfl

/-- The dictionary of a workspace shows the time of its update by the text only. -/
lemma toDict_updatedAt_eq_iff (ws : Workspace) (now : Time) :
    ({ ws with updatedAt := now } : Workspace).toDict = ws.toDict ↔
      timeToString now = timeToString ws.updatedAt := by
  refine ⟨?_, ?_⟩
  · intro same
    have found := congrArg (DictValue.findString · kUpdatedAtKey) same
    simp only [findString_updatedAt_toDict] at found
    exact Option.some.inj found
  · intro text
    simp only [Workspace.toDict, Workspace.fields, text]

/-- A created workspace is answered as it is stored. -/
lemma truthful_post (env : Env) (store : WorkspaceStore) (w : World) (basic stored : Drawn) (body : DictValue) :
    Truthful env store w basic stored (.post body) := by
  intro task data handled response
  obtain ⟨name, type, rfl⟩ : ∃ name type, task = .createWorkspace name type body := by
    rw [WriteRequest.handle, handleCreateWorkspace] at handled
    split at handled
    · cases handled
    · split_ifs at handled
      cases handled
      exact ⟨_, _, rfl⟩
  obtain rfl := Option.some.inj (Response.workspace.inj (Option.some.inj response))
  refine ⟨_, findString_id_toDict _, ?_⟩
  rw [WorkspaceStore.getWorkspace]
  show ((WorkspaceStore.createWorkspace _ _ _ _ _).1.workspaces[_]?).map Workspace.toDict = _
  rw [WorkspaceStore.createWorkspace_get, if_pos rfl]
  rfl

/-- What an update of a workspace stores and answers. -/
lemma run_updateWorkspace (env : Env) {store : WorkspaceStore} (w : World) (basic stored : Drawn) {wsId : String}
    (body : DictValue) {old : Workspace} (there : store.getWorkspace wsId = some old) (id : old.id = wsId) :
    let r := (UiTask.updateWorkspace wsId body).run env store w basic stored
    let ws := applyBodyToWorkspace old body
    r.2.2 = some (.workspace (some ws.toDict)) ∧
      r.1.getWorkspace wsId = some { ws with updatedAt := stored.now } := by
  have sameId : (applyBodyToWorkspace old body).id = wsId := id
  have found : store.workspaces[(applyBodyToWorkspace old body).id]? = some old := sameId.symm ▸ there
  have success : (store.updateWorkspace (applyBodyToWorkspace old body) stored.now).2 = true := by
    rw [WorkspaceStore.updateWorkspace, found]
  have run : (UiTask.updateWorkspace wsId body).run env store w basic stored =
      ((store.updateWorkspace (applyBodyToWorkspace old body) stored.now).1, w,
        some (.workspace (some (applyBodyToWorkspace old body).toDict))) := by
    rw [UiTask.run, there]
    dsimp only
    rw [success, if_pos rfl]
  intro r ws
  refine ⟨congrArg (·.2.2) run, ?_⟩
  show r.1.workspaces[wsId]? = some { ws with updatedAt := stored.now }
  rw [show r.1 = (store.updateWorkspace ws stored.now).1 from congrArg (·.1) run,
    WorkspaceStore.updateWorkspace_get, if_pos sameId, show store.workspaces[wsId]? = some old from there]
  rfl

/-- The response to a write shows what the store holds, exactly when it is one to a create or to an update in the same
millisecond as the one before. -/
theorem write_truthful_iff {tr} {store : WorkspaceStore} (run : Run WorkspaceStore.step {} tr store) (env : Env)
    (w : World) (basic stored : Drawn) (r : WriteRequest) :
    Truthful env store w basic stored r ↔ SameUpdateText store stored.now r := by
  cases r with
  | post body => exact iff_of_true (truthful_post env store w basic stored body) trivial
  | put wsId body =>
    have keys := keyId_of_run run
    cases there : store.getWorkspace wsId with
    | none =>
      apply iff_of_true
      · intro task data handled response
        cases handled
        rw [UiTask.run, there] at response
        cases response
      · intro old found
        cases there.symm.trans found
    | some old =>
      obtain ⟨answers, holds⟩ := run_updateWorkspace env w basic stored body there (keys wsId old there)
      have shown := toDict_updatedAt_eq_iff (applyBodyToWorkspace old body) stored.now
      rw [show (applyBodyToWorkspace old body).updatedAt = old.updatedAt from rfl] at shown
      refine ⟨?_, ?_⟩
      · intro truthful old' found
        cases there.symm.trans found
        obtain ⟨id, idOf, same⟩ := truthful _ _ rfl answers
        cases idOf
        rw [holds, Option.map_some, Option.some.injEq] at same
        exact shown.mp same
      · intro text task data handled response
        cases handled
        cases answers.symm.trans response
        refine ⟨wsId, rfl, ?_⟩
        rw [holds, Option.map_some, shown.mpr (text old there)]

end

/-- A workspace is created. -/
def createdOnce : List StoreOp := [
  .create { name := "w" } "a" ⟨91234, by decide, by decide⟩ ⟨13426387200123456⟩]

/-- What is drawn for a request at a time. -/
def drawnAt (now : Time) : Drawn :=
  ⟨"b", ⟨91234, by decide, by decide⟩, now⟩

/-- An update in the same millisecond. -/
theorem write_truthful_iff_millisecond :
    ∃ s, Run WorkspaceStore.step {} (trace WorkspaceStore.step {} createdOnce) s ∧
      Truthful bareEnv s {} (drawnAt ⟨13426387200123457⟩) (drawnAt ⟨13426387200123458⟩) (.put "a" []) := by
  obtain ⟨s, ex, updated⟩ : ∃ s, exec WorkspaceStore.step {} createdOnce = some s ∧
      (s.getWorkspace "a").map (·.updatedAt) = some ⟨13426387200123456⟩ := ⟨_, rfl, rfl⟩
  have run := Run.of_exec ex
  refine ⟨s, run, (write_truthful_iff run bareEnv {} _ _ (.put "a" [])).mpr ?_⟩
  intro old found
  rw [found] at updated
  have last : old.updatedAt = ⟨13426387200123456⟩ := Option.some.inj updated
  rw [last]
  decide

/-- An update in a later millisecond is answered with the time of the creation. -/
theorem write_truthful_fails :
    ∃ s, Run WorkspaceStore.step {} (trace WorkspaceStore.step {} createdOnce) s ∧
      ¬ Truthful bareEnv s {} (drawnAt ⟨13426387200123457⟩) (drawnAt ⟨13426387200987654⟩) (.put "a" []) := by
  obtain ⟨s, ex, updated, id⟩ : ∃ s, exec WorkspaceStore.step {} createdOnce = some s ∧
      (s.getWorkspace "a").map (·.updatedAt) = some ⟨13426387200123456⟩ ∧
      (s.getWorkspace "a").map (·.id) = some "a" := ⟨_, rfl, rfl, rfl⟩
  refine ⟨s, Run.of_exec ex, ?_⟩
  intro truthful
  obtain ⟨old, there, updated⟩ := Option.map_eq_some_iff.mp updated
  rw [there] at id
  obtain ⟨answers, holds⟩ := run_updateWorkspace bareEnv {} (drawnAt ⟨13426387200123457⟩)
    (drawnAt ⟨13426387200987654⟩) [] there (Option.some.inj id)
  obtain ⟨_, idOf, same⟩ := truthful _ _ rfl answers
  cases idOf
  rw [holds] at same
  have text := (toDict_updatedAt_eq_iff (applyBodyToWorkspace old []) _).mp (Option.some.inj same)
  rw [show (applyBodyToWorkspace old []).updatedAt = old.updatedAt from rfl, updated] at text
  exact absurd text (by decide)

end PureCloak.API
