import Mathlib.Logic.Function.Basic
import PureCloak.Library.Machine

/-!
# Storage partitions

`StoragePartitionController`: the workspace and the active profile kept on a `BrowserContext`, the
profile kept on each tab, and the two functions that resolve the storage partition of a site. Neither of
them reads the site, which is therefore left out, and the build flag `IS_PURECLOAK` is set.

`Browser` is a context with its tabs. Beside what the code stores it records the profile that a tab was
opened for, and every resolution that was made in a fingerprint workspace. `isolation_of_guarded` says
that resolutions keep profiles apart in runs where each of them finds the profile of its tab
(`ResolveGuard`).
-/

namespace PureCloak.Content
open Machine

/-! ## The controller -/

/-- `StoragePartitionController::Type`. -/
inductive ControllerType where
  | kNormal
  | kFingerprint
deriving DecidableEq

/-- `StoragePartitionController`. -/
structure StoragePartitionController where
  workspace : String
  type : ControllerType

/-- `content::StoragePartitionConfig`. -/
structure StoragePartitionConfig where
  partitionDomain : String
  partitionName : String
  inMemory : Bool
deriving DecidableEq

/-- The user data of a `BrowserContext`: the controller and `ActiveProfileData`. -/
structure BrowserContext where
  offTheRecord : Bool := false
  controller : Option StoragePartitionController := none
  activeProfile : Option String := none

def kPureCloakDomain := "purecloak"
def kProfilePartitionSeparator := "#"

/-- `StoragePartitionConfig::CreateDefault`. -/
def StoragePartitionConfig.createDefault (bc : BrowserContext) : StoragePartitionConfig :=
  ⟨"", "", bc.offTheRecord⟩

/-- `StoragePartitionConfig::Create`. -/
def StoragePartitionConfig.create (bc : BrowserContext) (domain name : String) (inMemory : Bool) :
    StoragePartitionConfig :=
  ⟨domain, name, inMemory || bc.offTheRecord⟩

/-- `BuildPartitionName`. -/
def buildPartitionName (workspace profileId : String) : String :=
  if profileId = "" then workspace
  else workspace ++ kProfilePartitionSeparator ++ profileId

/-- A tab, which is a `WebContents`. -/
abbrev Tab := Nat

/-- The `ProfileWebContentsData` of the tabs. -/
abbrev ProfileData := Tab → Option String

/-- `SetWorkspace`. -/
def setWorkspace (bc : BrowserContext) (workspace : String) (type : ControllerType) :
    BrowserContext :=
  let bc := { bc with controller := none }
  if workspace ≠ "" then { bc with controller := some ⟨workspace, type⟩ } else bc

/-- `GetWorkspace`. -/
def getWorkspace (bc : BrowserContext) : String :=
  match bc.controller with
  | none => ""
  | some controller => controller.workspace

/-- `GetWorkspaceType`. -/
def getWorkspaceType (bc : BrowserContext) : ControllerType :=
  match bc.controller with
  | none => .kNormal
  | some controller => controller.type

/-- `SetProfile`. -/
def setProfile (data : ProfileData) (webContents : Tab) (profileId : String) : ProfileData :=
  if profileId = "" then Function.update data webContents none
  else Function.update data webContents (some profileId)

/-- `GetProfile`. -/
def getProfile (data : ProfileData) (webContents : Tab) : String :=
  (data webContents).getD ""

/-- `SetActiveProfile`. -/
def setActiveProfile (bc : BrowserContext) (profileId : String) : BrowserContext :=
  { bc with activeProfile := some profileId }

/-- `ConsumeActiveProfile`; the data is removed, since nothing is left in it. -/
def consumeActiveProfile (bc : BrowserContext) : String × BrowserContext :=
  match bc.activeProfile with
  | none => ("", bc)
  | some profileId => (profileId, { bc with activeProfile := none })

/-- `GetStoragePartitionConfigForSite`. -/
def getStoragePartitionConfigForSite (bc : BrowserContext) :
    StoragePartitionConfig × BrowserContext :=
  let workspace := getWorkspace bc
  if workspace = "" then (.createDefault bc, bc)
  else if getWorkspaceType bc = .kNormal then (.createDefault bc, bc)
  else
    let (profileId, bc) := consumeActiveProfile bc
    (.create bc kPureCloakDomain (buildPartitionName workspace profileId) false, bc)

/-- `GetStoragePartitionConfig`. -/
def getStoragePartitionConfig (bc : BrowserContext) (data : ProfileData) (webContents : Option Tab) :
    StoragePartitionConfig × BrowserContext :=
  let workspace := getWorkspace bc
  if workspace = "" then (.createDefault bc, bc)
  else if getWorkspaceType bc = .kNormal then (.createDefault bc, bc)
  else
    let profileId := (webContents.map (getProfile data)).getD ""
    let (profileId, bc) := if profileId = "" then consumeActiveProfile bc else (profileId, bc)
    (.create bc kPureCloakDomain (buildPartitionName workspace profileId) false, bc)

/-! ## The browser -/

/-- A resolution made for a tab in a fingerprint workspace, with the profile the tab was opened for. -/
structure Resolution where
  tab : Tab
  profile : String
  workspace : String
  config : StoragePartitionConfig
deriving DecidableEq

/-- A context and its tabs; `openedFor` and `resolutions` are not stored by the code. -/
structure Browser where
  context : BrowserContext
  data : ProfileData := fun _ => none
  openedFor : Tab → String := fun _ => ""
  resolutions : List Resolution := []

/-- A step of the browser. A tab is opened for a profile by `createTab`, before which the profile is made
the active one, or by `setProfile`. -/
inductive BrowserEvent where
  | setWorkspace (workspace : String) (type : ControllerType)
  | setActiveProfile (profileId : String)
  | createTab (tab : Tab) (profileId : String)
  | setProfile (tab : Tab) (profileId : String)
  | resolveForSite (tab : Tab)
  | resolve (tab : Tab) (hasWebContents : Bool)

/-- The workspace that resolutions see, if it is a fingerprint workspace. -/
def fingerprintWorkspace (bc : BrowserContext) : Option String :=
  if getWorkspace bc = "" ∨ getWorkspaceType bc = .kNormal then none else some (getWorkspace bc)

/-- A resolution is made for a tab, and kept if it is one in a fingerprint workspace. -/
def Browser.resolved (b : Browser) (tab : Tab) (r : StoragePartitionConfig × BrowserContext) :
    Browser :=
  { b with
    context := r.2
    resolutions := b.resolutions ++
      ((fingerprintWorkspace b.context).map fun w => ⟨tab, b.openedFor tab, w, r.1⟩).toList }

/-- One step of the browser. -/
def Browser.step (b : Browser) : BrowserEvent → Option Browser
  | .setWorkspace workspace type =>
    some { b with context := Content.setWorkspace b.context workspace type }
  | .setActiveProfile profileId =>
    some { b with context := Content.setActiveProfile b.context profileId }
  | .createTab tab profileId =>
    some { b with
      data := Function.update b.data tab none
      openedFor := Function.update b.openedFor tab profileId }
  | .setProfile tab profileId =>
    some { b with
      data := Content.setProfile b.data tab profileId
      openedFor := Function.update b.openedFor tab profileId }
  | .resolveForSite tab => some (b.resolved tab (getStoragePartitionConfigForSite b.context))
  | .resolve tab hasWebContents =>
    some (b.resolved tab (getStoragePartitionConfig b.context b.data
      (if hasWebContents then some tab else none)))

/-- Tabs of different profiles never share a partition, and the tabs of one profile do, in each
workspace. -/
def Isolated (b : Browser) : Prop :=
  ∀ r ∈ b.resolutions, ∀ r' ∈ b.resolutions,
    (r.profile ≠ "" → r'.profile ≠ "" → r.profile ≠ r'.profile → r.config ≠ r'.config) ∧
    (r.profile = r'.profile → r.workspace = r'.workspace → r.config = r'.config)

/-- No name of a partition of the one workspace is one of the other: neither of the two names goes on after
the separator where the other one ends. -/
def Unambiguous (w w' : String) : Prop :=
  w = w' ∨ (¬ (w ++ kProfilePartitionSeparator).toList <+: w'.toList ∧
    ¬ (w' ++ kProfilePartitionSeparator).toList <+: w.toList)

/-- The profile that a resolution finds. -/
def foundProfile (b : Browser) : BrowserEvent → String
  | .resolveForSite _ => b.context.activeProfile.getD ""
  | .resolve tab hasWebContents =>
    if hasWebContents = true ∧ getProfile b.data tab ≠ "" then getProfile b.data tab
    else b.context.activeProfile.getD ""
  | _ => ""

/-- A resolution in a fingerprint workspace finds the profile of its tab, and the name of the workspace is
not to be confused with one in which a resolution was made. -/
def ResolveGuard (b : Browser) (e : BrowserEvent) : Prop :=
  match e with
  | .resolveForSite tab | .resolve tab _ =>
    ∀ w ∈ fingerprintWorkspace b.context,
      foundProfile b e = b.openedFor tab ∧ ∀ r ∈ b.resolutions, Unambiguous w r.workspace
  | _ => True

instance (w w' : String) : Decidable (Unambiguous w w') :=
  inferInstanceAs (Decidable (_ ∨ _))

instance (b : Browser) (e : BrowserEvent) : Decidable (ResolveGuard b e) :=
  match e with
  | .resolveForSite tab => inferInstanceAs (Decidable (∀ w ∈ fingerprintWorkspace b.context,
      foundProfile b (.resolveForSite tab) = b.openedFor tab ∧
        ∀ r ∈ b.resolutions, Unambiguous w r.workspace))
  | .resolve tab has => inferInstanceAs (Decidable (∀ w ∈ fingerprintWorkspace b.context,
      foundProfile b (.resolve tab has) = b.openedFor tab ∧
        ∀ r ∈ b.resolutions, Unambiguous w r.workspace))
  | .setWorkspace .. | .setActiveProfile _ | .createTab .. | .setProfile .. =>
    inferInstanceAs (Decidable True)

/-! ## Names -/

/-- A separator occurs in a name that goes on where another one ends. -/
lemma prefix_of_append_eq {w w' p p' : List Char} {c : Char}
    (h : w ++ c :: p = w' ++ c :: p') (hw : w ≠ w') : w ++ [c] <+: w' ∨ w' ++ [c] <+: w := by
  obtain ⟨rest, rfl, hr⟩ | ⟨rest, rfl, hr⟩ := List.append_eq_append_iff.mp h
  · cases rest with
    | nil => simp at hw
    | cons d rest =>
      obtain ⟨rfl, -⟩ := List.cons_eq_cons.mp hr
      exact .inl ⟨rest, by simp⟩
  · cases rest with
    | nil => simp at hw
    | cons d rest =>
      obtain ⟨rfl, -⟩ := List.cons_eq_cons.mp hr
      exact .inr ⟨rest, by simp⟩

/-- Different profiles have different names, unless the workspaces are ambiguous. -/
lemma buildPartitionName_ne {w w' p p' : String} (un : Unambiguous w w') (hp : p ≠ "") (hp' : p' ≠ "")
    (ne : p ≠ p') : buildPartitionName w p ≠ buildPartitionName w' p' := by
  intro e
  rw [buildPartitionName, buildPartitionName, if_neg hp, if_neg hp', ← String.toList_inj] at e
  simp only [String.toList_append, List.append_assoc] at e
  obtain rfl | ⟨un, un'⟩ := un
  · exact ne (String.toList_inj.mp (List.cons.inj (List.append_cancel_left e)).2)
  · by_cases hw : w.toList = w'.toList
    · rw [hw] at e
      exact ne (String.toList_inj.mp (List.cons.inj (List.append_cancel_left e)).2)
    · rw [String.toList_append] at un un'
      exact (prefix_of_append_eq e hw).elim un un'

/-! ## Runs -/

/-- The partition that belongs to a profile of a workspace. -/
def configFor (offTheRecord : Bool) (workspace profile : String) : StoragePartitionConfig :=
  ⟨kPureCloakDomain, buildPartitionName workspace profile, offTheRecord⟩

/-- Every resolution gave the partition of its profile, in workspaces that are not to be confused. -/
structure Resolved (b : Browser) : Prop where
  config : ∀ r ∈ b.resolutions, r.config = configFor b.context.offTheRecord r.workspace r.profile
  names : ∀ r ∈ b.resolutions, ∀ r' ∈ b.resolutions, Unambiguous r.workspace r'.workspace

/-- It does not matter which workspace is named first. -/
lemma Unambiguous.symm {w w' : String} (h : Unambiguous w w') : Unambiguous w' w :=
  h.imp Eq.symm And.symm

/-- Resolutions that gave the partitions of their profiles are isolated. -/
lemma Resolved.isolated {b : Browser} (h : Resolved b) : Isolated b := by
  intro r hr r' hr'
  rw [h.config r hr, h.config r' hr']
  refine ⟨fun hp hp' ne e => ?_, fun hp hw => by rw [hp, hw]⟩
  exact buildPartitionName_ne (h.names r hr r' hr') hp hp' ne
    (congrArg StoragePartitionConfig.partitionName e)

/-- A profile is consumed once. -/
lemma consumeActiveProfile_eq (bc : BrowserContext) :
    (consumeActiveProfile bc).1 = bc.activeProfile.getD "" ∧
      (consumeActiveProfile bc).2.offTheRecord = bc.offTheRecord := by
  unfold consumeActiveProfile
  cases bc.activeProfile <;> exact ⟨rfl, rfl⟩

/-- What the resolution without a tab gives in a fingerprint workspace. -/
lemma getStoragePartitionConfigForSite_eq (bc : BrowserContext) :
    (getStoragePartitionConfigForSite bc).2.offTheRecord = bc.offTheRecord ∧
    ∀ w, fingerprintWorkspace bc = some w →
      (getStoragePartitionConfigForSite bc).1 =
        configFor bc.offTheRecord w (bc.activeProfile.getD "") := by
  obtain ⟨found, offTheRecord⟩ := consumeActiveProfile_eq bc
  unfold getStoragePartitionConfigForSite fingerprintWorkspace
  by_cases h1 : getWorkspace bc = ""
  · simp [h1]
  by_cases h2 : getWorkspaceType bc = .kNormal
  · simp [h1, h2]
  · simp [h1, h2, found, offTheRecord, configFor, StoragePartitionConfig.create]

/-- What the resolution with an optional tab gives in a fingerprint workspace. -/
lemma getStoragePartitionConfig_eq (b : Browser) (tab : Tab) (hasWebContents : Bool) :
    (getStoragePartitionConfig b.context b.data
      (if hasWebContents then some tab else none)).2.offTheRecord = b.context.offTheRecord ∧
    ∀ w, fingerprintWorkspace b.context = some w →
      (getStoragePartitionConfig b.context b.data
        (if hasWebContents then some tab else none)).1 =
        configFor b.context.offTheRecord w (foundProfile b (.resolve tab hasWebContents)) := by
  obtain ⟨found, offTheRecord⟩ := consumeActiveProfile_eq b.context
  unfold getStoragePartitionConfig fingerprintWorkspace foundProfile
  by_cases h1 : getWorkspace b.context = ""
  · simp [h1]
  by_cases h2 : getWorkspaceType b.context = .kNormal
  · simp [h1, h2]
  cases hasWebContents with
  | false => simp [h1, h2, found, offTheRecord, configFor, StoragePartitionConfig.create]
  | true =>
    by_cases h3 : getProfile b.data tab = ""
    · simp [h1, h2, h3, found, offTheRecord, configFor, StoragePartitionConfig.create]
    · simp [h1, h2, h3, configFor, StoragePartitionConfig.create]

/-- A resolution that finds the profile of its tab gives the partition of that profile. -/
lemma Resolved.resolved {b : Browser} (h : Resolved b) {tab : Tab} {profile : String}
    {r : StoragePartitionConfig × BrowserContext}
    (same : r.2.offTheRecord = b.context.offTheRecord)
    (config : ∀ w, fingerprintWorkspace b.context = some w →
      r.1 = configFor b.context.offTheRecord w profile)
    (guard : ∀ w, fingerprintWorkspace b.context = some w →
      profile = b.openedFor tab ∧ ∀ r ∈ b.resolutions, Unambiguous w r.workspace) :
    Resolved (b.resolved tab r) := by
  cases hw : fingerprintWorkspace b.context with
  | none =>
    have e : (b.resolved tab r).resolutions = b.resolutions := by simp [Browser.resolved, hw]
    refine ⟨fun q hq => ?_, fun q hq q' hq' => ?_⟩
    · rw [e] at hq
      exact (h.config q hq).trans (by rw [← same]; rfl)
    · rw [e] at hq hq'
      exact h.names q hq q' hq'
  | some w =>
    obtain ⟨found, un⟩ := guard w hw
    have e : (b.resolved tab r).resolutions =
        b.resolutions ++ [⟨tab, b.openedFor tab, w, r.1⟩] := by simp [Browser.resolved, hw]
    refine ⟨fun q hq => ?_, fun q hq q' hq' => ?_⟩
    · show q.config = configFor r.2.offTheRecord q.workspace q.profile
      rw [same]
      rw [e, List.mem_append, List.mem_singleton] at hq
      obtain hq | rfl := hq
      · exact h.config q hq
      · rw [config w hw, found]
    · rw [e, List.mem_append, List.mem_singleton] at hq hq'
      obtain hq | rfl := hq <;> obtain hq' | rfl := hq'
      · exact h.names q hq q' hq'
      · exact (un q hq).symm
      · exact un q' hq'
      · exact .inl rfl

/-- A guarded step keeps the resolutions at the partitions of their profiles. -/
lemma Resolved.step {b b' : Browser} {e : BrowserEvent} (h : Resolved b) (g : ResolveGuard b e)
    (st : b.step e = some b') : Resolved b' := by
  cases e with
  | setWorkspace workspace type =>
    cases st
    refine ⟨fun r hr => (h.config r hr).trans ?_, h.names⟩
    unfold setWorkspace
    dsimp only
    split <;> rfl
  | setActiveProfile | createTab | setProfile =>
    cases st
    exact ⟨h.config, h.names⟩
  | resolveForSite tab =>
    cases st
    obtain ⟨same, config⟩ := getStoragePartitionConfigForSite_eq b.context
    exact h.resolved same config g
  | resolve tab hasWebContents =>
    cases st
    obtain ⟨same, config⟩ := getStoragePartitionConfig_eq b tab hasWebContents
    exact h.resolved same config g

/-- In runs whose resolutions find the profiles of their tabs, the profiles are isolated in every state. -/
theorem isolation_of_guarded {bc : BrowserContext} {b : Browser} {tr}
    (r : Run Browser.step { context := bc } tr b) (g : Guarded ResolveGuard tr) :
    Always Isolated tr b := by
  have start : Resolved { context := bc } := by
    refine ⟨fun r hr => ?_, fun r hr => ?_⟩ <;> cases hr
  obtain ⟨all, last⟩ := r.always_of_guarded (fun {_ _ _} => Resolved.step) start g
  exact ⟨fun p hp => (all p hp).isolated, last.isolated⟩

/-- Two tabs resolve their own profiles. -/
def twoProfiles : List BrowserEvent := [
  .setWorkspace "ws" .kFingerprint, .setProfile 0 "p", .setProfile 1 "q", .resolve 0 true,
  .resolve 1 true]

/-- Two profiles of one workspace. -/
theorem isolation_of_guarded_two : ∃ b,
    Run Browser.step { context := {} } (trace Browser.step { context := {} } twoProfiles) b ∧
    Always Isolated (trace Browser.step { context := {} } twoProfiles) b := by
  have r : Run Browser.step { context := {} }
      (trace Browser.step { context := {} } twoProfiles) _ := Run.of_exec rfl
  exact ⟨_, r, isolation_of_guarded r (by decide)⟩

/-- Each tab resolves twice, as it does when it goes to another site. -/
def navigating : List BrowserEvent := [
  .setWorkspace "ws" .kFingerprint,
  .setActiveProfile "p", .createTab 0 "p", .resolveForSite 0, .resolveForSite 0,
  .setActiveProfile "q", .createTab 1 "q", .resolveForSite 1, .resolveForSite 1]

/-- The second resolutions of both tabs give the partition of the workspace. -/
theorem isolation_fails :
    ¬ ∀ tr b, Run Browser.step { context := {} } tr b → Always Isolated tr b := by
  intro h
  have r : Run Browser.step { context := {} }
      (trace Browser.step { context := {} } navigating) _ := Run.of_exec rfl
  have bad := (h _ _ r).2 ⟨0, "p", "ws", ⟨"purecloak", "ws", false⟩⟩ (by decide)
    ⟨1, "q", "ws", ⟨"purecloak", "ws", false⟩⟩ (by decide)
  exact bad.1 (by decide) (by decide) (by decide) rfl

end PureCloak.Content
