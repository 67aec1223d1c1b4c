import PureCloak.Content.StoragePartition

/-!
# Partition names

`BuildPartitionName` joins a workspace and a profile id with a separator that both may contain. Two pairs get one name
exactly when one of the workspaces goes on, after the separator, where the other one ends
(`buildPartitionName_eq_iff`), and then resolutions for them return one partition (`partition_identifies_iff`).
-/

namespace PureCloak.Content
open Machine

/-- A resolution in a fingerprint workspace, with the profile that it finds and the partition that it returns. -/
inductive Resolves (b : Browser) : BrowserEvent → String → String → StoragePartitionConfig → Prop where
  | forSite {tab w} :
    fingerprintWorkspace b.context = some w →
    Resolves b (.resolveForSite tab) w (foundProfile b (.resolveForSite tab))
      (getStoragePartitionConfigForSite b.context).1
  | resolve {tab hasWebContents w} :
    fingerprintWorkspace b.context = some w →
    Resolves b (.resolve tab hasWebContents) w (foundProfile b (.resolve tab hasWebContents))
      (getStoragePartitionConfig b.context b.data (if hasWebContents then some tab else none)).1

/-- The second workspace is the first one, the separator and a rest, and the first profile is what the rest and the
second profile are joined to. -/
def Continues (w p w' p' : String) : Prop :=
  p ≠ "" ∧ ∃ rest, w' = w ++ kProfilePartitionSeparator ++ rest ∧ p = buildPartitionName rest p'

/-- Two identities that have one name. -/
def Collides (w p w' p' : String) : Prop :=
  (w ≠ "" ∧ Continues w p w' p') ∨ (w' ≠ "" ∧ Continues w' p' w p)

/-- A name is the workspace and the profile, with a hash sign between them. -/
lemma toList_buildPartitionName {p : String} (hp : p ≠ "") (w : String) :
    (buildPartitionName w p).toList = w.toList ++ '#' :: p.toList := by
  rw [buildPartitionName, if_neg hp, String.toList_append, String.toList_append, List.append_assoc]
  rfl

/-- Where one name is split in two ways, the longer workspace continues the shorter one. -/
lemma continues_of_append {w p w' p' : String} (hp : p ≠ "") (hp' : p' ≠ "") {rest : List Char}
    (hw : w'.toList = w.toList ++ rest) (h : '#' :: p.toList = rest ++ '#' :: p'.toList) :
    (w = w' ∧ p = p') ∨ Continues w p w' p' := by
  cases rest with
  | nil =>
    left
    rw [List.append_nil] at hw
    exact ⟨String.toList_inj.mp hw.symm, String.toList_inj.mp (List.cons.inj h).2⟩
  | cons c rest =>
    right
    obtain ⟨rfl, chars⟩ := List.cons_eq_cons.mp h
    refine ⟨hp, String.ofList rest, ?_, ?_⟩
    · apply String.toList_inj.mp
      rw [hw, String.toList_append, String.toList_append, String.toList_ofList, List.append_assoc]
      rfl
    · apply String.toList_inj.mp
      rw [toList_buildPartitionName hp', String.toList_ofList]
      exact chars

/-- Names that continue each other are one. -/
lemma buildPartitionName_of_continues {w p w' p' : String} (h : Continues w p w' p') :
    buildPartitionName w p = buildPartitionName w' p' := by
  obtain ⟨hp, rest, rfl, e⟩ := h
  apply String.toList_inj.mp
  rw [toList_buildPartitionName hp, e]
  by_cases hp' : p' = ""
  · rw [buildPartitionName, if_pos hp', buildPartitionName, if_pos hp', String.toList_append,
      String.toList_append, List.append_assoc]
    rfl
  · rw [toList_buildPartitionName hp', toList_buildPartitionName hp', String.toList_append, String.toList_append]
    simp only [List.append_assoc]
    rfl

/-- When two identities have one name. -/
lemma buildPartitionName_eq_iff {w p w' p' : String} :
    buildPartitionName w p = buildPartitionName w' p' ↔
      (w = w' ∧ p = p') ∨ Continues w p w' p' ∨ Continues w' p' w p := by
  constructor
  · intro h
    by_cases hp : p = ""
    · by_cases hp' : p' = ""
      · rw [buildPartitionName, if_pos hp, buildPartitionName, if_pos hp'] at h
        exact .inl ⟨h, hp.trans hp'.symm⟩
      · rw [buildPartitionName, if_pos hp, buildPartitionName, if_neg hp'] at h
        refine .inr (.inr ⟨hp', p', h, ?_⟩)
        rw [buildPartitionName, if_pos hp]
    · by_cases hp' : p' = ""
      · rw [buildPartitionName, if_neg hp, buildPartitionName, if_pos hp'] at h
        refine .inr (.inl ⟨hp, p, h.symm, ?_⟩)
        rw [buildPartitionName, if_pos hp']
      · have chars := congrArg String.toList h
        rw [toList_buildPartitionName hp, toList_buildPartitionName hp'] at chars
        obtain ⟨rest, hw, e⟩ | ⟨rest, hw, e⟩ := List.append_eq_append_iff.mp chars
        · rcases continues_of_append hp hp' hw e with same | continues
          · exact .inl same
          · exact .inr (.inl continues)
        · rcases continues_of_append hp' hp hw e with same | continues
          · exact .inl ⟨same.1.symm, same.2.symm⟩
          · exact .inr (.inr continues)
  · intro h
    rcases h with ⟨rfl, rfl⟩ | continues | continues
    · rfl
    · exact buildPartitionName_of_continues continues
    · exact (buildPartitionName_of_continues continues).symm

/-- Then the workspaces differ. -/
lemma Continues.ne {w p w' p' : String} (h : Continues w p w' p') : w ≠ w' := by
  obtain ⟨-, rest, rfl, -⟩ := h
  intro e
  have length := congrArg (fun s => s.toList.length) e
  simp [kProfilePartitionSeparator] at length

/-- A workspace that is set has a name. -/
lemma fingerprintWorkspace_ne_empty {bc : BrowserContext} {w : String} (h : fingerprintWorkspace bc = some w) :
    w ≠ "" := by
  unfold fingerprintWorkspace at h
  split_ifs at h with normal
  cases h
  exact fun e => normal (.inl e)

/-- What a resolution returns. -/
lemma Resolves.config {b : Browser} {e : BrowserEvent} {w p : String} {c : StoragePartitionConfig}
    (h : Resolves b e w p c) : c = configFor b.context.offTheRecord w p ∧ w ≠ "" := by
  cases h with
  | forSite found =>
    exact ⟨(getStoragePartitionConfigForSite_eq b.context).2 w found, fingerprintWorkspace_ne_empty found⟩
  | resolve found =>
    exact ⟨(getStoragePartitionConfig_eq b _ _).2 w found, fingerprintWorkspace_ne_empty found⟩

/-- A resolution for a tab that was given a profile. -/
lemma run_identity {b : Browser} {w : String} (p : String) (hw : w ≠ "") (idle : b.context.activeProfile = none) :
    ∃ tr b' u, Run Browser.step b tr b' ∧ (u, .resolve 0 true) ∈ tr ∧
      Resolves u (.resolve 0 true) w p (configFor b.context.offTheRecord w p) ∧
      b'.context.activeProfile = none ∧ b'.context.offTheRecord = b.context.offTheRecord := by
  let b1 : Browser := { b with context := setWorkspace b.context w .kFingerprint }
  let b2 : Browser := { b1 with
    data := setProfile b1.data 0 p
    openedFor := Function.update b1.openedFor 0 p }
  have context : b2.context = { b.context with controller := some ⟨w, .kFingerprint⟩ } := if_pos hw
  have found : fingerprintWorkspace b2.context = some w := by
    rw [context]
    simp [fingerprintWorkspace, getWorkspace, getWorkspaceType, hw]
  have profile : getProfile b2.data 0 = p := by
    show (setProfile b1.data 0 p 0).getD "" = p
    rw [setProfile]
    split_ifs with empty
    · rw [Function.update_self]
      exact empty.symm
    · rw [Function.update_self]
      rfl
  have finds : foundProfile b2 (.resolve 0 true) = p := by
    show (if true = true ∧ getProfile b2.data 0 ≠ "" then getProfile b2.data 0
      else b2.context.activeProfile.getD "") = p
    rw [profile, context, idle]
    split_ifs with some_profile
    · rfl
    · rw [Option.getD_none]
      exact (not_not.mp fun ne => some_profile ⟨rfl, ne⟩).symm
  obtain ⟨offTheRecord, config⟩ := getStoragePartitionConfig_eq b2 0 true
  have record : b2.context.offTheRecord = b.context.offTheRecord := by rw [context]
  have resolves : Resolves b2 (.resolve 0 true) w (foundProfile b2 (.resolve 0 true))
      (getStoragePartitionConfig b2.context b2.data (if true then some 0 else none)).1 := .resolve found
  rw [config w found, finds] at resolves
  have run : Run Browser.step b [(b, .setWorkspace w .kFingerprint), (b1, .setProfile 0 p), (b2, .resolve 0 true)]
      (b2.resolved 0 (getStoragePartitionConfig b2.context b2.data (some 0))) :=
    .snoc (.snoc (.snoc .nil rfl) rfl) rfl
  refine ⟨_, _, b2, run, by simp, ?_, ?_, offTheRecord.trans record⟩
  · rw [context] at resolves
    exact resolves
  · show (getStoragePartitionConfig b2.context b2.data (some 0)).2.activeProfile = none
    rw [context]
    unfold getStoragePartitionConfig consumeActiveProfile
    simp only [idle]
    split_ifs <;> rfl

/-- Resolutions for two identities never return one partition, exactly when the identities do not collide. -/
theorem partition_identifies_iff (w p w' p' : String) :
    (∀ (bc : BrowserContext) tr t, Run Browser.step { context := bc } tr t →
      ∀ b e b' e' c c', (b, e) ∈ tr → (b', e') ∈ tr → Resolves b e w p c → Resolves b' e' w' p' c' →
        c = c' → w = w' ∧ p = p') ↔
      ¬ Collides w p w' p' := by
  constructor
  · intro identifies collides
    have ne : w ≠ "" ∧ w' ≠ "" ∧ w ≠ w' ∧ buildPartitionName w p = buildPartitionName w' p' := by
      rcases collides with ⟨hw, continues⟩ | ⟨hw', continues⟩
      · refine ⟨hw, ?_, continues.ne, buildPartitionName_of_continues continues⟩
        obtain ⟨-, rest, rfl, -⟩ := continues
        simp [kProfilePartitionSeparator]
      · refine ⟨?_, hw', continues.ne.symm, (buildPartitionName_of_continues continues).symm⟩
        obtain ⟨-, rest, rfl, -⟩ := continues
        simp [kProfilePartitionSeparator]
    obtain ⟨hw, hw', workspaces, names⟩ := ne
    obtain ⟨tr, b, u, r, hu, resolves, idle, offTheRecord⟩ := run_identity (b := { context := {} }) p hw rfl
    obtain ⟨tr', b', u', r', hu', resolves', -, -⟩ := run_identity p' hw' idle
    rw [offTheRecord, configFor, ← names, ← configFor] at resolves'
    have same := identifies {} _ _ (r.append r') u _ u' _ _ _ (List.mem_append_left _ hu)
      (List.mem_append_right _ hu') resolves resolves' rfl
    exact workspaces same.1
  · intro apart bc tr t r b e b' e' c c' hb hb' resolves resolves' same
    obtain ⟨config, hw⟩ := resolves.config
    obtain ⟨config', hw'⟩ := resolves'.config
    rw [config, config'] at same
    rcases buildPartitionName_eq_iff.mp (congrArg StoragePartitionConfig.partitionName same) with
      equal | continues | continues
    · exact equal
    · exact absurd (.inl ⟨hw, continues⟩) apart
    · exact absurd (.inr ⟨hw', continues⟩) apart

/-- Two identities in one partition. -/
def collidingTabs : List BrowserEvent := [
  .setWorkspace "a" .kFingerprint, .setProfile 0 "b", .resolve 0 true,
  .setWorkspace "a#b" .kFingerprint, .setProfile 1 "", .resolve 1 true]

/-- The profile "b" of the workspace "a" shares its partition with the workspace "a#b". -/
theorem partition_identifies_fails :
    ∃ b, Run Browser.step { context := {} } (trace Browser.step { context := {} } collidingTabs) b ∧
      b.resolutions.map (fun r => (r.workspace, r.profile, r.config)) =
        [("a", "b", ⟨"purecloak", "a#b", false⟩), ("a#b", "", ⟨"purecloak", "a#b", false⟩)] :=
  ⟨_, Run.of_exec rfl, by decide⟩

end PureCloak.Content
