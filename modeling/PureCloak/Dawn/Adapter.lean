import Mathlib.Data.List.Perm.Basic
import PureCloak.Common.Seed

/-!
# The features of an adapter

The two ways in which a page learns what features an adapter has, with the noise of the patch. `APIGetFeatures` takes
the features that belong to one backend out of the list of the adapter, in place: the last item goes where one was, and
the count goes down. What is left is the list without them, in some order (`removeBackendFeatures_spec`).

`APIHasFeature` hides the same features and shows one more, which the list has only where the adapter has it
(`viewsAgree_iff`).
-/

namespace PureCloak.Dawn
open PureCloak.Common

/-- `wgpu::FeatureName`; the patch names four of them. -/
inductive FeatureName
  | textureCompressionBC
  | adapterPropertiesD3D
  | adapterPropertiesVk
  | adapterPropertiesMetal
  | other (value : Nat)
deriving DecidableEq

/-- The features that tell the backend. -/
def FeatureName.isBackend (f : FeatureName) : Bool :=
  f = adapterPropertiesD3D ∨ f = adapterPropertiesVk ∨ f = adapterPropertiesMetal

/-- `AdapterBase::APIHasFeature`. -/
def apiHasFeature (process : PureCloakSeed) (supported : List FeatureName) (feature : FeatureName) : Bool :=
  if process.noiseEnabled then
    if feature = .textureCompressionBC then true
    else if feature.isBackend then false
    else decide (feature ∈ supported)
  else decide (feature ∈ supported)

/-- `SupportedFeatures`: the memory of the list, and how many items of it count. -/
structure SupportedFeatures where
  features : List FeatureName
  featureCount : Nat
  fits : featureCount ≤ features.length

namespace SupportedFeatures

/-- `ToSupportedFeatures`. -/
def ofList (supported : List FeatureName) : SupportedFeatures where
  features := supported
  featureCount := supported.length
  fits := Nat.le_refl _

/-- The items that count. -/
def live (s : SupportedFeatures) : List FeatureName :=
  s.features.take s.featureCount

/-- A read, which has to be of one of them. -/
def read (s : SupportedFeatures) (i : Nat) : Option FeatureName :=
  if i < s.featureCount then s.features[i]? else none

def write (s : SupportedFeatures) (i : Nat) (f : FeatureName) : SupportedFeatures :=
  { s with
    features := s.features.set i f
    fits := by rw [List.length_set]; exact s.fits }

/-- `featureCount--`. -/
def shrink (s : SupportedFeatures) : SupportedFeatures :=
  { s with
    featureCount := s.featureCount - 1
    fits := Nat.le_trans (Nat.sub_le _ 1) s.fits }

/-- The loop of `APIGetFeatures`, from an index on. -/
def removeBackendFeatures (s : SupportedFeatures) (i : Nat) : Option SupportedFeatures :=
  if i < s.featureCount then
    (s.read i).bind fun f =>
      if f.isBackend then
        if i < s.featureCount - 1 then
          (s.read (s.featureCount - 1)).bind fun last => (s.write i last).shrink.removeBackendFeatures i
        else s.shrink.removeBackendFeatures i
      else s.removeBackendFeatures (i + 1)
  else some s
termination_by s.featureCount - i
decreasing_by
  · show s.featureCount - 1 - i < s.featureCount - i
    omega
  · show s.featureCount - 1 - i < s.featureCount - i
    omega
  · omega

end SupportedFeatures

/-- `AdapterBase::APIGetFeatures`. -/
def apiGetFeatures (process : PureCloakSeed) (supported : List FeatureName) : Option (List FeatureName) :=
  if process.noiseEnabled then
    ((SupportedFeatures.ofList supported).removeBackendFeatures 0).map SupportedFeatures.live
  else some supported

/-! ## The loop -/

/-- An item that is overwritten with another one. -/
lemma set_perm {α : Type} {l : List α} {i : Nat} {f : α} (hf : l[i]? = some f) (a : α) :
    (f :: l.set i a).Perm (a :: l) := by
  obtain ⟨hi, rfl⟩ := List.getElem?_eq_some_iff.mp hf
  have kept : (a :: l.eraseIdx i).Perm (l.set i a) := by
    have perm := List.getElem_cons_eraseIdx_perm (l := l.set i a) (n := i) (by rw [List.length_set]; exact hi)
    rw [List.getElem_set_self, List.eraseIdx_set_eq] at perm
    exact perm
  calc (l[i] :: l.set i a).Perm (l[i] :: a :: l.eraseIdx i) := kept.symm.cons _
    _ |>.Perm (a :: l[i] :: l.eraseIdx i) := .swap _ _ _
    _ |>.Perm (a :: l) := (List.getElem_cons_eraseIdx_perm hi).cons a

namespace SupportedFeatures

variable {s : SupportedFeatures} {i : Nat} {f : FeatureName}

/-- As many features are live as are counted. -/
lemma live_length (s : SupportedFeatures) : s.live.length = s.featureCount := by
  rw [live, List.length_take]
  exact Nat.min_eq_left s.fits

/-- A live feature is read. -/
lemma read_eq (hf : s.live[i]? = some f) : s.read i = some f := by
  have hi : i < s.featureCount := by
    rw [← live_length]
    exact (List.getElem?_eq_some_iff.mp hf).1
  rw [read, if_pos hi, ← hf, live, List.getElem?_take_of_lt hi]

/-- The items without the last one. -/
lemma shrink_live (s : SupportedFeatures) : s.shrink.live = s.live.dropLast := by
  rw [List.dropLast_eq_take, live_length, live, live, List.take_take, Nat.min_eq_left (Nat.sub_le _ _)]
  rfl

/-- A feature is written among the live ones. -/
lemma write_live (s : SupportedFeatures) (i : Nat) (f : FeatureName) : (s.write i f).live = s.live.set i f :=
  List.take_set

/-- The last live feature. -/
lemma live_eq_concat {last : FeatureName} (hlast : s.live[s.featureCount - 1]? = some last) :
    s.live = s.live.dropLast ++ [last] := by
  have nonempty : s.live ≠ [] := by
    intro empty
    rw [empty] at hlast
    exact absurd hlast.symm (Option.some_ne_none _)
  rw [← live_length, ← List.getLast?_eq_getElem?, List.getLast?_eq_some_getLast nonempty] at hlast
  rw [← Option.some.inj hlast]
  exact (List.dropLast_append_getLast nonempty).symm

/-- The last item goes where one was. -/
lemma swap_perm {last : FeatureName} (hf : s.live[i]? = some f) (hlast : s.live[s.featureCount - 1]? = some last)
    (before : i < s.featureCount - 1) : s.live.Perm (f :: (s.write i last).shrink.live) := by
  have parts := live_eq_concat hlast
  have size : s.live.dropLast.length = s.featureCount - 1 := by rw [List.length_dropLast, live_length]
  have rest : (s.write i last).shrink.live = s.live.dropLast.set i last := by
    rw [shrink_live, write_live, List.dropLast_eq_take, List.dropLast_eq_take, List.length_set, List.take_set]
  have here : s.live.dropLast[i]? = some f := by
    rw [parts, List.getElem?_append_left (by omega)] at hf
    exact hf
  rw [rest]
  calc s.live.Perm (last :: s.live.dropLast) := by
        conv_lhs => rw [parts]
        exact List.perm_append_singleton _ _
    _ |>.Perm (f :: s.live.dropLast.set i last) := (set_perm here last).symm

/-- Or the item is the last one. -/
lemma drop_perm (hf : s.live[i]? = some f) (last : ¬ i < s.featureCount - 1) : s.live.Perm (f :: s.shrink.live) := by
  have hi := (List.getElem?_eq_some_iff.mp hf).1
  rw [live_length] at hi
  have here : i = s.featureCount - 1 := by omega
  rw [here] at hf
  rw [shrink_live]
  conv_lhs => rw [live_eq_concat hf]
  exact List.perm_append_singleton _ _

/-- The items before the index stay. -/
lemma swap_before {last : FeatureName} (kept : ∀ f ∈ s.live.take i, f.isBackend = false) :
    ∀ f ∈ (s.write i last).shrink.live.take i, f.isBackend = false := by
  intro f hf
  rw [shrink_live, write_live, List.dropLast_eq_take, List.take_take, List.take_set_of_le (Nat.min_le_left _ _)] at hf
  exact kept f ((List.take_subset_take_left _ (Nat.min_le_left _ _)) hf)

/-- The features before the one that is dropped stay. -/
lemma drop_before (kept : ∀ f ∈ s.live.take i, f.isBackend = false) :
    ∀ f ∈ s.shrink.live.take i, f.isBackend = false := by
  intro f hf
  rw [shrink_live, List.dropLast_eq_take, List.take_take] at hf
  exact kept f ((List.take_subset_take_left _ (Nat.min_le_left _ _)) hf)

/-- A backend feature is not in what is left, and the other ones are not touched. -/
lemma filter_perm {l l' : List FeatureName} (backend : f.isBackend = true) (perm : l.Perm (f :: l')) :
    (l'.filter fun f => !f.isBackend).Perm (l.filter fun f => !f.isBackend) := by
  have filtered := perm.filter fun f => !f.isBackend
  rw [List.filter_cons_of_neg (by rw [backend]; exact Bool.false_ne_true)] at filtered
  exact filtered.symm

/-- The loop ends, it reads items that count only, and what it leaves are the features of no backend. -/
theorem removeBackendFeatures_spec (kept : ∀ f ∈ s.live.take i, f.isBackend = false) :
    ∃ s', s.removeBackendFeatures i = some s' ∧ s'.live.Perm (s.live.filter fun f => !f.isBackend) := by
  -- on what the loop has yet to look at
  induction left : s.featureCount - i using Nat.strongRecOn generalizing s i with
  | ind n ih =>
    rw [removeBackendFeatures]
    by_cases more : i < s.featureCount
    · have in_live : i < s.live.length := by rw [live_length]; exact more
      have hf := List.getElem?_eq_getElem in_live
      rw [if_pos more, read_eq hf, Option.bind_some]
      cases backend : s.live[i].isBackend with
      | true =>
        rw [if_pos rfl]
        by_cases before : i < s.featureCount - 1
        · have hlast := List.getElem?_eq_getElem (l := s.live) (i := s.featureCount - 1) (by rw [live_length]; omega)
          rw [if_pos before, read_eq hlast, Option.bind_some]
          obtain ⟨s', run, perm⟩ := ih _ (by show s.featureCount - 1 - i < n; omega) (swap_before kept) rfl
          exact ⟨s', run, perm.trans (filter_perm backend (swap_perm hf hlast before))⟩
        · rw [if_neg before]
          obtain ⟨s', run, perm⟩ := ih _ (by show s.featureCount - 1 - i < n; omega) (drop_before kept) rfl
          exact ⟨s', run, perm.trans (filter_perm backend (drop_perm hf before))⟩
      | false =>
        rw [if_neg Bool.false_ne_true]
        have kept' : ∀ f ∈ s.live.take (i + 1), f.isBackend = false := by
          intro f hf'
          rw [List.take_add_one, hf, Option.toList_some, List.mem_append, List.mem_singleton] at hf'
          rcases hf' with earlier | rfl
          · exact kept f earlier
          · exact backend
        exact ih _ (by omega) kept' rfl
    · rw [if_neg more]
      refine ⟨s, rfl, ?_⟩
      rw [List.take_of_length_le (by rw [live_length]; omega)] at kept
      rw [List.filter_eq_self.mpr fun f hf => by rw [kept f hf]; rfl]

end SupportedFeatures

/-! ## The two views -/

section
variable (process : PureCloakSeed) (supported : List FeatureName)

/-- The list of `APIGetFeatures` is there, is the one of the adapter without the backend features, and has the features
that `APIHasFeature` tells of. -/
def ViewsAgree : Prop :=
  ∃ features, apiGetFeatures process supported = some features ∧
    features.Perm (supported.filter fun f => !f.isBackend) ∧
    ∀ f, apiHasFeature process supported f = true ↔ f ∈ features

/-- With noise the adapter has the features that are not of a backend. -/
lemma apiGetFeatures_spec (noise : process.noiseEnabled = true) :
    ∃ features, apiGetFeatures process supported = some features ∧
      features.Perm (supported.filter fun f => !f.isBackend) := by
  have start : (SupportedFeatures.ofList supported).live = supported := List.take_length
  obtain ⟨s', run, perm⟩ := SupportedFeatures.removeBackendFeatures_spec (s := .ofList supported) (i := 0)
    fun f hf => absurd hf (by rw [List.take_zero]; exact List.not_mem_nil)
  rw [start] at perm
  refine ⟨s'.live, ?_, perm⟩
  rw [apiGetFeatures, if_pos noise, run]
  rfl

/-- The two views agree on every feature but one. -/
lemma apiHasFeature_iff (noise : process.noiseEnabled = true) {f : FeatureName} :
    apiHasFeature process supported f = true ↔
      f = .textureCompressionBC ∨ f ∈ supported.filter fun f => !f.isBackend := by
  rw [apiHasFeature, if_pos noise, List.mem_filter]
  by_cases compression : f = .textureCompressionBC
  · rw [if_pos compression]
    exact ⟨fun _ => .inl compression, fun _ => rfl⟩
  · rw [if_neg compression]
    cases backend : f.isBackend with
    | true => exact ⟨fun h => absurd h Bool.false_ne_true, fun h => absurd h (by simp [compression])⟩
    | false => simp [compression]

/-- They agree exactly where the adapter has the texture compression. -/
theorem viewsAgree_iff (noise : process.noiseEnabled = true) :
    ViewsAgree process supported ↔ FeatureName.textureCompressionBC ∈ supported := by
  obtain ⟨features, get, perm⟩ := apiGetFeatures_spec process supported noise
  constructor
  · intro ⟨features', get', _, views⟩
    cases get.symm.trans get'
    have listed := perm.mem_iff.mp ((views .textureCompressionBC).mp
      ((apiHasFeature_iff process supported noise).mpr (.inl rfl)))
    exact (List.mem_filter.mp listed).1
  · intro has
    refine ⟨features, get, perm, fun f => ?_⟩
    rw [apiHasFeature_iff process supported noise, perm.mem_iff]
    refine or_iff_right_of_imp fun compression => ?_
    rw [compression]
    exact List.mem_filter.mpr ⟨has, rfl⟩

end

/-- An adapter of Vulkan that has the texture compression. -/
theorem viewsAgree_vulkan : ViewsAgree {} [.adapterPropertiesVk, .other 2, .textureCompressionBC] :=
  (viewsAgree_iff {} [.adapterPropertiesVk, .other 2, .textureCompressionBC] rfl).mpr (by decide)

/-- An adapter of a telephone, without it. -/
theorem viewsAgree_fails : ¬ ∀ process supported,
    process.noiseEnabled = true → List.Nodup supported → ViewsAgree process supported := by
  intro agree
  obtain ⟨features, get, perm, views⟩ := agree {} [.other 14] rfl (by decide)
  have listed := perm.mem_iff.mp ((views .textureCompressionBC).mp rfl)
  exact absurd (List.mem_filter.mp listed).1 (by decide)

end PureCloak.Dawn
