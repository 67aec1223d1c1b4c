import PureCloak.Profiles.Restoring

/-!
# Records and lists of records

The codec on single records, and the two paths of `OnInitData` on one list. A workspace survives `ToDict` and
`FromDict` without its runtime fields and with times in milliseconds, and so does what `FromDict` makes of any
dictionary (`records_restored`). The fast path keeps the last record of an id and the merge path the first one;
`paths_agree_iff` says on which lists this makes no difference.
-/

namespace PureCloak.Profiles
open PureCloak.Base

section
variable [TimeLib]

/-! ## Single records -/

/-- The texts of the two times are parsed as the times that they show. -/
def Workspace.TimesParseBack (ws : Workspace) : Prop :=
  ParsesBack ws.createdAt ∧ ParsesBack ws.updatedAt

/-- The record of a workspace is read back as what is restored. -/
lemma Workspace.fromDict_toDict_restored {ws : Workspace} (times : ws.TimesParseBack) :
    Workspace.fromDict ws.toDict = ws.restored :=
  ws.fromDict_toDict.trans (Workspace.persisted_eq_restored times.1 times.2)

/-- `FromDict` sets no runtime field, so that only the times of its result are cut. -/
lemma Workspace.restored_fromDict (dict : DictValue) :
    (Workspace.fromDict dict).restored =
      { Workspace.fromDict dict with
        createdAt := truncated (Workspace.fromDict dict).createdAt
        updatedAt := truncated (Workspace.fromDict dict).updatedAt } :=
  rfl

/-- A workspace is read back without its runtime fields and with times in milliseconds, and what was read from a
dictionary is read back as it is, up to this. -/
theorem records_restored :
    (∀ ws : Workspace, ws.TimesParseBack → Workspace.fromDict ws.toDict = ws.restored) ∧
      ∀ dict : DictValue, (Workspace.fromDict dict).TimesParseBack →
        Workspace.fromDict (Workspace.fromDict dict).toDict =
          { Workspace.fromDict dict with
            createdAt := truncated (Workspace.fromDict dict).createdAt
            updatedAt := truncated (Workspace.fromDict dict).updatedAt } := by
  refine ⟨?_, ?_⟩
  · intro ws times
    exact Workspace.fromDict_toDict_restored times
  · intro dict times
    rw [Workspace.fromDict_toDict_restored times, Workspace.restored_fromDict]

end

/-- A workspace that runs, and was never created. -/
def timed : Workspace :=
  { id := "a", name := "w", cdpUrl := "http://127.0.0.1:9333", updatedAt := ⟨13426387200123456⟩ }

/-- A dictionary with a key of the wrong type and a time. -/
def mistyped : DictValue :=
  [(kCreatedAtKey, .string "2026-06-20T00:00:00.123Z"), (kNameKey, .integer 1)]

/-- A workspace with times, and a record with a type of another kind. -/
theorem records_restored_timed :
    Workspace.fromDict timed.toDict = timed.restored ∧
      Workspace.fromDict (Workspace.fromDict mistyped).toDict =
        { Workspace.fromDict mistyped with
          createdAt := truncated (Workspace.fromDict mistyped).createdAt
          updatedAt := truncated (Workspace.fromDict mistyped).updatedAt } := by
  obtain ⟨record, dictionary⟩ := records_restored
  refine ⟨record timed ⟨?_, ?_⟩, dictionary mistyped ⟨?_, ?_⟩⟩
  · intro notNull
    exact absurd rfl notNull
  · exact fun _ => by decide
  · exact fun _ => by decide
  · intro notNull
    exact absurd rfl notNull

section
variable [TimeLib]

/-! ## Lists of records -/

/-- For the ids that are not in memory, a load leaves what the fast path makes of the list alone. -/
def PathsAgree (s : WorkspaceStore) (list : ListValue) : Prop :=
  ∀ id ∉ s.workspaces, ∀ dict, DictValue.findList dict kWorkspacesKey = some list →
    (s.onInitData (some dict)).workspaces[id]? = (loadFast ∅ list)[id]?

/-- The first and the last record of an id are the same. -/
def FirstIsLast (list : ListValue) (id : String) : Prop :=
  (records list).find? (·.id = id) = (records list).reverse.find? (·.id = id)

/-- The last record of an id is loaded. -/
lemma loadFast_empty_get (list : ListValue) (id : String) :
    (loadFast ∅ list)[id]? = (records list).reverse.find? (·.id = id) := by
  rw [loadFast, KeyedMap.get_foldl_insert, Std.ExtTreeMap.getElem?_empty, Option.or_none]

/-- A load of an id that is not in memory. -/
lemma onInitData_get_new {s : WorkspaceStore} {dict : DictValue} {list : ListValue} {id : String}
    (absent : id ∉ s.workspaces) (found : DictValue.findList dict kWorkspacesKey = some list) :
    (s.onInitData (some dict)).workspaces[id]? = supplied s.workspaces list id := by
  rw [WorkspaceStore.onInitData_get, KeyedMap.get_eq_none_iff.mpr absent, Option.none_or, storedList,
    Option.bind_some, found, Option.getD_some]

omit [TimeLib] in
/-- Every list is the list of workspaces of a dictionary. -/
lemma findList_single (list : ListValue) :
    DictValue.findList [(kWorkspacesKey, .list list)] kWorkspacesKey = some list :=
  rfl

/-- The paths agree exactly when the store is empty, or no id that is not in memory has records that differ in the
first and the last place. -/
theorem paths_agree_iff (s : WorkspaceStore) (list : ListValue) :
    PathsAgree s list ↔ s.workspaces.isEmpty ∨ ∀ id ∉ s.workspaces, FirstIsLast list id := by
  refine ⟨?_, ?_⟩
  · intro agree
    by_cases empty : s.workspaces.isEmpty
    · exact .inl empty
    · refine .inr fun id absent => ?_
      have same := agree id absent _ (findList_single list)
      rwa [onInitData_get_new absent (findList_single list), loadFast_empty_get, supplied, if_neg empty] at same
  · intro h id absent dict found
    rw [onInitData_get_new absent found, loadFast_empty_get, supplied]
    split_ifs with empty
    · rfl
    · obtain isEmpty | firstIsLast := h
      · exact absurd isEmpty empty
      · exact firstIsLast id absent

end

/-- A list with two records of one id. -/
def repeated : ListValue := [
  .dict [(kIdKey, .string "a"), (kNameKey, .string "first")],
  .dict [(kIdKey, .string "a"), (kNameKey, .string "second")]]

/-- The merge path takes the first one, the fast path the second one. -/
theorem paths_agree_fails :
    ¬ PathsAgree (WorkspaceStore.apply {} (.create { name := "w" } "b" ⟨90123, by decide, by decide⟩ ⟨1⟩))
      repeated := by
  intro agree
  have same := congrArg (Option.map Workspace.name) (agree "a" (by decide) _ (findList_single repeated))
  exact absurd same (by decide)

end PureCloak.Profiles
