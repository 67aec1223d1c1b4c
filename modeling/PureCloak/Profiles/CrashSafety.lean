import PureCloak.Base.Json
import PureCloak.Profiles.Persistence

/-!
# The file after a crash

`workspaces.json` as bytes. A write truncates the file and then appends the bytes of the text, so a
process that dies while it writes leaves the old bytes or a prefix of the new ones. `after_crash`
says what the next session loads in each case. `unreadable_as_absent` compares a session on a file
that is not readable with one that finds no file: they are the same until a write replaces the file.
-/

namespace PureCloak.Profiles
open PureCloak.Base
open Machine

/-- The bytes of `workspaces.json`, if it exists. -/
abbrev File := Option Bytes

/-- Where a process dies during `base::WriteFile`: before it truncates the file, or after some bytes. -/
inductive Cut where
  | beforeTruncation
  | after (n : Nat)

/-- `base::WriteFile`, as far as it gets. -/
def writeFile (file : File) (json : Bytes) : Cut → File
  | .beforeTruncation => file
  | .after n => some (json.take n)

section
variable [JsonLib]

/-- The value that a file parses to. -/
def fileValue (file : File) : Option Value :=
  file.bind JsonLib.parse

/-- `WriteWorkspacesFile`, as far as it gets; `dirReady` tells whether the directory of the file exists
or could be created. -/
def writeWorkspacesFile (dirReady : Bool) (file : File) (dict : DictValue) (cut : Cut) : File :=
  if dirReady then
    match JsonLib.write dict with
    | none => file
    | some json => writeFile file json cut
  else file

/-- `ReadWorkspacesFile` finds a dictionary in the file. -/
def Readable (file : File) : Prop :=
  (readWorkspacesFile (fileValue file)).isSome

end

/-! ## A file that is not readable -/

section
variable [TimeLib]

/-- Every write that is posted is one of a snapshot of a map. -/
def WritesSnapshots (s : WorkspaceStore) : Prop :=
  ∀ data, .write data ∈ s.fileTasks → ∃ m, data = snapshot m

/-- The two sessions differ at most in the file, as long as no write has replaced it. -/
structure AsAbsent (disk0 : Option Value) (s s' : Session) : Prop where
  store : s'.store = s.store
  replies : s'.replies = s.replies
  disk : (s.disk = disk0 ∧ s'.disk = none) ∨
    (s'.disk = s.disk ∧ ∃ m, s.disk = some (.dict (snapshot m)))
  writes : WritesSnapshots s.store

/-- Calls post writes of snapshots only. -/
lemma WritesSnapshots.apply {s : WorkspaceStore} (h : WritesSnapshots s) {op : StoreOp}
    (client : op.byClient) : WritesSnapshots (s.apply op) := by
  intro data hd
  by_cases hs : op.Saves s
  · rw [apply_saves hs, List.mem_append, List.mem_singleton] at hd
    obtain hd | hd := hd
    · exact h data hd
    · cases hd
      exact ⟨_, rfl⟩
  · rw [apply_of_not_saves client hs] at hd
    exact h data hd

/-- A step on a file that is not readable is a step without a file. -/
lemma AsAbsent.step {disk0 : Option Value} (unreadable : readWorkspacesFile disk0 = none)
    {s s' t : Session} {e : SessionEvent} (h : AsAbsent disk0 s s') (st : s.step e = some t) :
    ∃ t', s'.step e = some t' ∧ AsAbsent disk0 t t' := by
  obtain ⟨store', disk', replies'⟩ := s'
  obtain ⟨rfl, rfl, disk, writes⟩ := h
  cases e with
  | call op =>
    obtain ⟨client, ⟨⟩⟩ := Option.ite_none_right_eq_some.mp st
    exact ⟨_, if_pos client, rfl, rfl, disk, writes.apply client⟩
  | runFile =>
    obtain ⟨task, tasks, ht, hstore, hdisk, hreplies⟩ := step_runFile st
    have tail : WritesSnapshots { s.store with fileTasks := tasks } :=
      fun data hd => writes data (ht ▸ List.mem_cons_of_mem _ hd)
    cases task with
    | read =>
      simp only [Session.step, ht, Option.some.injEq] at st ⊢
      subst st
      refine ⟨_, rfl, rfl, ?_, disk, tail⟩
      -- both read tasks reply the same
      obtain ⟨rfl, rfl⟩ | ⟨rfl, -⟩ := disk
      · rw [unreadable]
        rfl
      · rfl
    | write data =>
      simp only [Session.step, ht, Option.some.injEq] at st ⊢
      subst st
      obtain ⟨m, rfl⟩ := writes data (ht ▸ List.mem_cons_self)
      exact ⟨_, rfl, rfl, rfl, .inr ⟨rfl, m, rfl⟩, tail⟩
  | deliver =>
    obtain ⟨dict, replies, hr, rfl⟩ := step_deliver st
    simp only [Session.step, hr, Option.some.injEq] at st ⊢
    refine ⟨_, rfl, rfl, rfl, disk, ?_⟩
    rwa [WritesSnapshots, WorkspaceStore.onInitData_fileTasks]

end

section
variable [TimeLib] [JsonLib]

/-- The map of a session that has loaded a file. -/
def loaded (file : File) : WorkspaceMap :=
  (WorkspaceStore.onInitData {} (readWorkspacesFile (fileValue file))).workspaces

/-- A file is loaded as the records of a map, as persisted. -/
def Loads (file : File) (m : WorkspaceMap) : Prop :=
  ∀ k : String, (loaded file)[k]? = m[k]?.map Workspace.persisted

/-- What the next session loads when the process dies while it replaces the file of `m` by that of `m'`,
whose text is `json'`: the old map if the file was not truncated, and otherwise the new one if the file
is readable, as it is once all bytes are written, and nothing if it is not. -/
def AfterCrash (m m' : WorkspaceMap) (json' : Bytes) (dirReady : Bool) (cut : Cut) (file : File) :
    Prop :=
  match dirReady, cut with
  | true, .after n =>
    (Readable file → Loads file m') ∧ (¬ Readable file → loaded file = ∅) ∧
      (json'.length ≤ n → Readable file)
  | _, _ => Loads file m

/-! ## What the next session loads -/

/-- The file of a map loads that map. -/
lemma loads_of_snapshot {file : File} {m : WorkspaceMap} (hk : KeyId m)
    (h : fileValue file = some (.dict (snapshot m))) : Loads file m := by
  intro k
  rw [loaded, h, onInitData_of_empty rfl]
  show (loadFast ∅ (storedList (some (snapshot m))))[k]? = _
  rw [storedList_snapshot]
  exact loadFast_serialize hk k

/-- A file that is not readable is loaded as an empty map. -/
lemma loaded_of_not_readable {file : File} (h : ¬ Readable file) : loaded file = ∅ := by
  rw [Readable, Bool.not_eq_true, Option.isSome_eq_false_iff, Option.isNone_iff_eq_none] at h
  rw [loaded, h]
  rfl

/-- A readable prefix of the text of a map is the text of that map. -/
lemma fileValue_of_readable_take (ends : ObjectsEnd) {m : WorkspaceMap} {json : Bytes} {n : Nat}
    (rt : RoundTrips (snapshot m) json) (h : Readable (some (json.take n))) :
    fileValue (some (json.take n)) = some (.dict (snapshot m)) := by
  obtain ⟨d, hd⟩ := Option.isSome_iff_exists.mp h
  obtain ⟨v, hv, dict⟩ := Option.bind_eq_some_iff.mp hd
  have parsed : JsonLib.parse (json.take n) = some v := hv
  have is_dict : v = .dict d := by
    cases v <;> cases dict
    rfl
  have full : JsonLib.parse (json.take n ++ json.drop n) = some (.dict (snapshot m)) := by
    rw [List.take_append_drop]
    exact rt.2
  have same := ends _ _ d _ (is_dict ▸ parsed) full
  exact hv.trans (by rw [is_dict, same])

/-- What the next session loads after a crash. -/
lemma after_crash (ends : ObjectsEnd) {m m' : WorkspaceMap} (hk : KeyId m) (hk' : KeyId m')
    {json json' : Bytes} (rt : RoundTrips (snapshot m) json) (rt' : RoundTrips (snapshot m') json')
    (dirReady : Bool) (cut : Cut) :
    AfterCrash m m' json' dirReady cut
      (writeWorkspacesFile dirReady (some json) (snapshot m') cut) := by
  have old : Loads (some json) m := loads_of_snapshot hk rt.2
  cases dirReady with
  | false => exact old
  | true =>
    simp only [writeWorkspacesFile, rt'.1, if_pos]
    cases cut with
    | beforeTruncation => exact old
    | after n =>
      refine ⟨fun h => ?_, loaded_of_not_readable, fun len => ?_⟩
      · exact loads_of_snapshot hk' (fileValue_of_readable_take ends rt' h)
      · rw [writeFile, List.take_of_length_le len, Readable]
        simp [fileValue, rt'.2, readWorkspacesFile, Value.getIfDict]

/-- A session on a file that is not readable goes like one that finds no file. -/
lemma unreadable_as_absent {file : File} (h : ¬ Readable file) {es : List SessionEvent} {s : Session}
    (ex : exec Session.step (Session.start (fileValue file)) es = some s) :
    ∃ s', exec Session.step (Session.start none) es = some s' ∧ AsAbsent (fileValue file) s s' := by
  rw [Readable, Bool.not_eq_true, Option.isSome_eq_false_iff, Option.isNone_iff_eq_none] at h
  have start : AsAbsent (fileValue file) (Session.start (fileValue file)) (Session.start none) := by
    refine ⟨rfl, rfl, .inl ⟨rfl, rfl⟩, fun data hd => ?_⟩
    simp [Session.start, WorkspaceStore.init] at hd
  exact exec_simulation (fun _ _ _ _ => AsAbsent.step h) start ex

/-- After a crash during a write the next session loads the old map, the new one or nothing; and a file
that is not readable is taken as absent, until a write replaces it. -/
theorem crash_safety (ends : ObjectsEnd) :
    (∀ m m' json json' dirReady cut, KeyId m → KeyId m' → RoundTrips (snapshot m) json →
      RoundTrips (snapshot m') json' → AfterCrash m m' json' dirReady cut
        (writeWorkspacesFile dirReady (some json) (snapshot m') cut)) ∧
    (∀ file es s, ¬ Readable file →
      exec Session.step (Session.start (fileValue file)) es = some s →
      ∃ s', exec Session.step (Session.start none) es = some s' ∧
        AsAbsent (fileValue file) s s') :=
  ⟨fun _ _ _ _ dirReady cut hk hk' rt rt' => after_crash ends hk hk' rt rt' dirReady cut,
    fun _ _ _ h ex => unreadable_as_absent h ex⟩

end

/-- A map with one workspace. -/
def single (ws : Workspace) : WorkspaceMap :=
  (∅ : WorkspaceMap).insert ws.id ws

/-- The map of one workspace has its id as key. -/
lemma keyId_single (ws : Workspace) : KeyId (single ws) := by
  intro k w hw
  rw [single, KeyedMap.get_insert] at hw
  split at hw
  case isTrue e =>
    cases hw
    exact e
  case isFalse => simp at hw

/-- A stored workspace, before an update of its seed and after it. -/
def beforeUpdate : WorkspaceMap := single { id := "a", fingerprintSeed := 23456 }
def afterUpdate : WorkspaceMap := single { id := "a", fingerprintSeed := 34567 }

/-- JSON, on the files of the two maps. -/
instance updateJson : JsonLib := tableJson [snapshot beforeUpdate, snapshot afterUpdate]

/-- The text of a map. -/
def textOf (m : WorkspaceMap) : Bytes := (prettyPrint (snapshot m)).getD []

/-- Both texts have 448 bytes, and they differ. -/
lemma texts : (prettyPrint (snapshot beforeUpdate)).map List.length = some 448 ∧
    (prettyPrint (snapshot afterUpdate)).map List.length = some 448 ∧
    prettyPrint (snapshot beforeUpdate) ≠ prettyPrint (snapshot afterUpdate) := by
  decide +kernel

/-- The JSON library writes both maps with this length. -/
lemma updateJson_length {d : DictValue} (hd : d ∈ [snapshot beforeUpdate, snapshot afterUpdate]) :
    (prettyPrint d).map List.length = some 448 := by
  obtain rfl | rfl : d = snapshot beforeUpdate ∨ d = snapshot afterUpdate := by simpa using hd
  · exact texts.1
  · exact texts.2.1

/-- No text of the table goes on after an object. -/
lemma updateJson_objectsEnd : ObjectsEnd :=
  tableJson_objectsEnd (n := 448) fun _ => updateJson_length

/-- Both maps are read back. -/
lemma updateJson_roundTrips {m : WorkspaceMap}
    (hm : snapshot m ∈ [snapshot beforeUpdate, snapshot afterUpdate]) :
    RoundTrips (snapshot m) (textOf m) := by
  refine tableJson_roundTrips (by simpa using texts.2.2) hm ?_
  obtain ⟨json, text, -⟩ := Option.map_eq_some_iff.mp (updateJson_length hm)
  rw [textOf, text, Option.getD_some]

/-- The theorem at the update, when it dies with the file truncated and nothing written. -/
theorem crash_safety_update :
    AfterCrash beforeUpdate afterUpdate (textOf afterUpdate) true (.after 0)
      (writeWorkspacesFile true (some (textOf beforeUpdate)) (snapshot afterUpdate) (.after 0)) :=
  (crash_safety updateJson_objectsEnd).1 _ _ _ _ _ _ (keyId_single _) (keyId_single _)
    (updateJson_roundTrips (by simp)) (updateJson_roundTrips (by simp))

/-- An empty file is not readable. -/
lemma not_readable_empty : ¬ Readable (some []) := by
  have unparsable : JsonLib.parse ([] : Bytes) = none := by
    refine Option.map_eq_none_iff.mpr (List.find?_eq_none.mpr fun d hd => ?_)
    have len := updateJson_length hd
    intro e
    simp [of_decide_eq_true e] at len
  simp [Readable, fileValue, unparsable, readWorkspacesFile]

/-- Nothing is loaded from the truncated file, so neither the old map nor the new one is; and the next
session replaces it by a file that omits its workspace. -/
theorem crash_safety_fails :
    (¬ ∀ [JsonLib], ObjectsEnd → ∀ m m' json json' cut, KeyId m → KeyId m' →
      RoundTrips (snapshot m) json → RoundTrips (snapshot m') json' →
      Loads (writeWorkspacesFile true (some json) (snapshot m') cut) m ∨
      Loads (writeWorkspacesFile true (some json) (snapshot m') cut) m') ∧
    (¬ ∀ [JsonLib], ObjectsEnd → ∀ m json n, KeyId m → RoundTrips (snapshot m) json →
      ¬ Readable (some (json.take n)) → ∀ es s d,
      exec Session.step (Session.start (fileValue (some (json.take n)))) es = some s →
      s.disk = some (.dict d) → ∀ id ∈ m, ∃ ws ∈ records (storedList (some d)), ws.id = id) := by
  have rt := updateJson_roundTrips (m := beforeUpdate) (by simp)
  have rt' := updateJson_roundTrips (m := afterUpdate) (by simp)
  refine ⟨fun h => ?_, fun h => ?_⟩
  · have torn : writeWorkspacesFile true (some (textOf beforeUpdate)) (snapshot afterUpdate)
        (.after 0) = some [] := by
      rw [writeWorkspacesFile, if_pos rfl, rt'.1]
      rfl
    have nothing := loaded_of_not_readable not_readable_empty
    have bad := h updateJson_objectsEnd beforeUpdate afterUpdate _ _ (.after 0) (keyId_single _)
      (keyId_single _) rt rt'
    rw [torn, Loads, Loads, nothing] at bad
    obtain bad | bad := bad
    · simpa [beforeUpdate, single] using bad "a"
    · simpa [afterUpdate, single] using bad "a"
  · have bad := h updateJson_objectsEnd beforeUpdate _ 0 (keyId_single _) rt not_readable_empty
      [.call .flush, .runFile, .runFile] _ (snapshot ∅) rfl rfl "a" (by simp [beforeUpdate, single])
    rw [storedList_snapshot] at bad
    obtain ⟨ws, hws, -⟩ := bad
    simp [serialize, records] at hws

end PureCloak.Profiles
