import PureCloak.Content.StoragePartition

/-!
# The active profile

`SetActiveProfile` leaves a profile id on the context, and the next resolution that needs one takes it away. `Observed`
is a browser with what an observer notes of that: the call of `SetActiveProfile` whose profile waits, and the partitions
that were named after a profile that was taken. No call is used twice, but `SetWorkspace` leaves the profile where it
is: a profile is used in its own workspace only as long as none waits when `SetWorkspace` is called, and where one does
it may still be used elsewhere (`active_profile_stays`).
-/

namespace PureCloak.Content
open Machine

/-- A call of `SetActiveProfile`, with the workspace that was set and the number of calls of `SetWorkspace` before
it. -/
structure ActiveCall where
  number : Nat
  profile : String
  workspace : String
  settings : Nat
deriving DecidableEq

/-- A partition that was named after the active profile of a call. -/
structure ActiveUse where
  call : ActiveCall
  workspace : String
  settings : Nat
  config : StoragePartitionConfig
deriving DecidableEq

/-- A browser, with the notes of an observer. -/
structure Observed where
  browser : Browser
  /-- The calls of `SetActiveProfile` and of `SetWorkspace` so far. -/
  calls : Nat := 0
  settings : Nat := 0
  /-- The call whose profile waits. -/
  waiting : Option ActiveCall := none
  uses : List ActiveUse := []

/-- What a resolution returns, if it takes the active profile. -/
def takes (b : Browser) : BrowserEvent → Option StoragePartitionConfig
  | .resolveForSite _ =>
    if (fingerprintWorkspace b.context).isSome then some (getStoragePartitionConfigForSite b.context).1 else none
  | .resolve tab hasWebContents =>
    if (fingerprintWorkspace b.context).isSome ∧ (hasWebContents = true → getProfile b.data tab = "") then
      some (getStoragePartitionConfig b.context b.data (if hasWebContents then some tab else none)).1
    else none
  | _ => none

/-- The use of a call by a resolution; an empty id appears in no name. -/
def Observed.use (o : Observed) (config : StoragePartitionConfig) (call : ActiveCall) : Option ActiveUse :=
  if call.profile = "" then none else some ⟨call, getWorkspace o.browser.context, o.settings, config⟩

/-- What the observer notes. -/
def Observed.note (o : Observed) (e : BrowserEvent) (b : Browser) : Observed :=
  match e with
  | .setWorkspace .. => { o with browser := b, settings := o.settings + 1 }
  | .setActiveProfile profileId =>
    { o with
      browser := b
      calls := o.calls + 1
      waiting := some ⟨o.calls, profileId, getWorkspace o.browser.context, o.settings⟩ }
  | _ =>
    match takes o.browser e with
    | none => { o with browser := b }
    | some config =>
      { o with browser := b, waiting := none, uses := o.uses ++ (o.waiting.bind (o.use config)).toList }

/-- One step of the browser. -/
def Observed.step (o : Observed) (e : BrowserEvent) : Option Observed :=
  (o.browser.step e).map (o.note e)

/-- Every profile that was given in a workspace is used in this workspace, before another one is set. -/
def StaysWithin (o : Observed) : Prop :=
  ∀ u ∈ o.uses, u.call.workspace ≠ "" → u.workspace = u.call.workspace ∧ u.settings = u.call.settings

/-- No active profile that was given in a workspace waits when `SetWorkspace` is called. -/
def SetsGuard (o : Observed) : BrowserEvent → Prop
  | .setWorkspace _ _ => ∀ call ∈ o.waiting, call.profile = "" ∨ call.workspace = ""
  | _ => True

instance (o : Observed) : ∀ e, Decidable (SetsGuard o e)
  | .setWorkspace _ _ => inferInstanceAs (Decidable (∀ call ∈ o.waiting, call.profile = "" ∨ call.workspace = ""))
  | .setActiveProfile _ | .createTab _ _ | .setProfile _ _ | .resolveForSite _ | .resolve _ _ => .isTrue trivial

/-! ## What the notes say about the context -/

/-- The notes are about the profile on the context, and no call was used twice. -/
structure Noted (o : Observed) : Prop where
  profile : o.browser.context.activeProfile = o.waiting.map (·.profile)
  number : ∀ call ∈ o.waiting, call.number < o.calls ∧ ∀ u ∈ o.uses, u.call.number ≠ call.number
  since : ∀ call ∈ o.waiting, call.settings ≤ o.settings
  workspace : ∀ call ∈ o.waiting, call.settings = o.settings → call.workspace = getWorkspace o.browser.context
  used : ∀ u ∈ o.uses, u.call.number < o.calls
  once : (o.uses.map (·.call.number)).Nodup
  /-- The partition is that of the profile and the workspace. -/
  config : ∀ u ∈ o.uses, u.config = configFor o.browser.context.offTheRecord u.workspace u.call.profile

/-- A workspace for fingerprints is one with a name and a type other than normal. -/
lemma fingerprintWorkspace_isSome {bc : BrowserContext} :
    (fingerprintWorkspace bc).isSome ↔ getWorkspace bc ≠ "" ∧ getWorkspaceType bc ≠ .kNormal := by
  unfold fingerprintWorkspace
  split_ifs with normal
  · simpa [imp_iff_or_not, or_comm] using normal
  · simpa using normal

/-- It is the one that is set. -/
lemma fingerprintWorkspace_eq {bc : BrowserContext} (h : (fingerprintWorkspace bc).isSome) :
    fingerprintWorkspace bc = some (getWorkspace bc) := by
  obtain ⟨named, type⟩ := fingerprintWorkspace_isSome.mp h
  exact if_neg fun normal => normal.elim named type

/-- The active profile is taken off the context, and nothing else changes. -/
lemma consumeActiveProfile_context (bc : BrowserContext) :
    (consumeActiveProfile bc).2 = { bc with activeProfile := none } := by
  unfold consumeActiveProfile
  split
  · next none =>
    rw [← none]
  · rfl

/-- Which resolutions without a tab take the active profile. -/
lemma getStoragePartitionConfigForSite_context (bc : BrowserContext) :
    (getStoragePartitionConfigForSite bc).2 =
      if (fingerprintWorkspace bc).isSome then { bc with activeProfile := none } else bc := by
  unfold getStoragePartitionConfigForSite
  by_cases named : getWorkspace bc = ""
  · simp [fingerprintWorkspace, named]
  by_cases type : getWorkspaceType bc = .kNormal
  · simp [fingerprintWorkspace, named, type]
  · simp [fingerprintWorkspace, named, type, consumeActiveProfile_context]

/-- Which resolutions with an optional tab take the active profile. -/
lemma getStoragePartitionConfig_context (bc : BrowserContext) (data : ProfileData) (tab : Tab) (hasWebContents : Bool) :
    (getStoragePartitionConfig bc data (if hasWebContents then some tab else none)).2 =
      if (fingerprintWorkspace bc).isSome ∧ (hasWebContents = true → getProfile data tab = "") then
        { bc with activeProfile := none }
      else bc := by
  unfold getStoragePartitionConfig
  by_cases named : getWorkspace bc = ""
  · simp [fingerprintWorkspace, named]
  by_cases type : getWorkspaceType bc = .kNormal
  · simp [fingerprintWorkspace, named, type]
  cases hasWebContents with
  | false => simp [fingerprintWorkspace, named, type, consumeActiveProfile_context]
  | true =>
    by_cases profile : getProfile data tab = ""
    · simp [fingerprintWorkspace, named, type, profile, consumeActiveProfile_context]
    · simp [fingerprintWorkspace, named, type, profile]

/-- A resolution that takes the active profile is named after it, and leaves none. -/
lemma takes_spec {b b' : Browser} {e : BrowserEvent} {config : StoragePartitionConfig} (st : b.step e = some b')
    (h : takes b e = some config) :
    config = configFor b.context.offTheRecord (getWorkspace b.context) (b.context.activeProfile.getD "") ∧
      b'.context = { b.context with activeProfile := none } := by
  cases e with
  | setWorkspace | setActiveProfile | createTab | setProfile => cases h
  | resolveForSite tab =>
    cases st
    obtain ⟨fingerprint, eq⟩ := Option.ite_none_right_eq_some.mp h
    cases eq
    refine ⟨(getStoragePartitionConfigForSite_eq b.context).2 _ (fingerprintWorkspace_eq fingerprint), ?_⟩
    exact (getStoragePartitionConfigForSite_context b.context).trans (if_pos fingerprint)
  | resolve tab hasWebContents =>
    cases st
    obtain ⟨taken, eq⟩ := Option.ite_none_right_eq_some.mp h
    cases eq
    constructor
    · have found : foundProfile b (.resolve tab hasWebContents) = b.context.activeProfile.getD "" :=
        if_neg fun h => h.2 (taken.2 h.1)
      rw [← found]
      exact (getStoragePartitionConfig_eq b tab hasWebContents).2 _ (fingerprintWorkspace_eq taken.1)
    · exact (getStoragePartitionConfig_context b.context b.data tab hasWebContents).trans (if_pos taken)

/-- The other resolutions leave the context as it is, and so do the steps of the tabs. -/
lemma context_of_not_takes {b b' : Browser} {e : BrowserEvent} (st : b.step e = some b') (h : takes b e = none)
    (setting : ∀ workspace type, e ≠ .setWorkspace workspace type)
    (active : ∀ profileId, e ≠ .setActiveProfile profileId) : b'.context = b.context := by
  cases e with
  | setWorkspace workspace type => exact absurd rfl (setting workspace type)
  | setActiveProfile profileId => exact absurd rfl (active profileId)
  | createTab | setProfile =>
    cases st
    rfl
  | resolveForSite tab =>
    cases st
    have kept : ¬ (fingerprintWorkspace b.context).isSome := fun fingerprint => by
      rw [takes, if_pos fingerprint] at h
      cases h
    exact (getStoragePartitionConfigForSite_context b.context).trans (if_neg kept)
  | resolve tab hasWebContents =>
    cases st
    have kept : ¬ ((fingerprintWorkspace b.context).isSome ∧
        (hasWebContents = true → getProfile b.data tab = "")) := fun taken => by
      rw [takes, if_pos taken] at h
      cases h
    exact (getStoragePartitionConfig_context b.context b.data tab hasWebContents).trans (if_neg kept)

/-! ## Runs -/

/-- What a step does to the context, and what is noted of it. -/
inductive Noting (o : Observed) : BrowserEvent → Observed → Prop where
  | setting {workspace type b} :
    b.context = setWorkspace o.browser.context workspace type →
    Noting o (.setWorkspace workspace type) { o with browser := b, settings := o.settings + 1 }
  | active {profileId b} :
    b.context = setActiveProfile o.browser.context profileId →
    Noting o (.setActiveProfile profileId) { o with
      browser := b
      calls := o.calls + 1
      waiting := some ⟨o.calls, profileId, getWorkspace o.browser.context, o.settings⟩ }
  | idle {e b} : takes o.browser e = none → b.context = o.browser.context → Noting o e { o with browser := b }
  | taken {e b config} :
    takes o.browser e = some config →
    config = configFor o.browser.context.offTheRecord (getWorkspace o.browser.context)
      (o.browser.context.activeProfile.getD "") →
    b.context = { o.browser.context with activeProfile := none } →
    Noting o e { o with
      browser := b
      waiting := none
      uses := o.uses ++ (o.waiting.bind (o.use config)).toList }

/-- Every step is noted as `Noting` says. -/
lemma Observed.step_noting {o o' : Observed} {e : BrowserEvent} (st : o.step e = some o') : Noting o e o' := by
  obtain ⟨b, browser, rfl⟩ := Option.map_eq_some_iff.mp st
  cases e with
  | setWorkspace workspace type =>
    cases browser
    exact .setting rfl
  | setActiveProfile profileId =>
    cases browser
    exact .active rfl
  | createTab tab profileId => exact .idle rfl (context_of_not_takes browser rfl nofun nofun)
  | setProfile tab profileId => exact .idle rfl (context_of_not_takes browser rfl nofun nofun)
  | resolveForSite tab =>
    simp only [Observed.note]
    cases found : takes o.browser (.resolveForSite tab) with
    | none => exact .idle found (context_of_not_takes browser found nofun nofun)
    | some config => exact .taken found (takes_spec browser found).1 (takes_spec browser found).2
  | resolve tab hasWebContents =>
    simp only [Observed.note]
    cases found : takes o.browser (.resolve tab hasWebContents) with
    | none => exact .idle found (context_of_not_takes browser found nofun nofun)
    | some config => exact .taken found (takes_spec browser found).1 (takes_spec browser found).2

/-- A use takes the call that waits, with the workspace that is set. -/
lemma Observed.mem_use {o : Observed} {config : StoragePartitionConfig} {u : ActiveUse}
    (h : u ∈ (o.waiting.bind (o.use config)).toList) :
    ∃ call ∈ o.waiting, call.profile ≠ "" ∧ u = ⟨call, getWorkspace o.browser.context, o.settings, config⟩ := by
  obtain ⟨call, waits, use⟩ := Option.bind_eq_some_iff.mp (Option.mem_toList.mp h)
  obtain ⟨named, eq⟩ := Option.ite_none_left_eq_some.mp use
  exact ⟨call, waits, named, (Option.some.inj eq).symm⟩

/-- The call that waits is used. -/
lemma Observed.use_mem {o : Observed} {config : StoragePartitionConfig} {call : ActiveCall} (waits : call ∈ o.waiting)
    (named : call.profile ≠ "") :
    ⟨call, getWorkspace o.browser.context, o.settings, config⟩ ∈ (o.waiting.bind (o.use config)).toList := by
  rw [Option.mem_def.mp waits, Option.bind_some, Observed.use, if_neg named]
  exact List.mem_singleton_self _

/-- `SetWorkspace` leaves the active profile. -/
lemma setWorkspace_context (bc : BrowserContext) (workspace : String) (type : ControllerType) :
    (setWorkspace bc workspace type).offTheRecord = bc.offTheRecord ∧
      (setWorkspace bc workspace type).activeProfile = bc.activeProfile := by
  unfold setWorkspace
  dsimp only
  split <;> exact ⟨rfl, rfl⟩

/-- Every step keeps the notes. -/
lemma Noted.step {o o' : Observed} {e : BrowserEvent} (h : Noted o) (st : o.step e = some o') : Noted o' := by
  cases Observed.step_noting st with
  | @setting workspace type b context =>
    obtain ⟨record, profile⟩ := setWorkspace_context o.browser.context workspace type
    rw [← context] at record profile
    refine ⟨profile.trans h.profile, h.number, ?_, ?_, h.used, h.once, ?_⟩
    · intro call waits
      exact Nat.le_succ_of_le (h.since call waits)
    · intro call waits same
      have since := h.since call waits
      rw [same] at since
      exact absurd since (Nat.not_succ_le_self _)
    · rw [record]
      exact h.config
  | active context =>
    refine ⟨?_, ?_, ?_, ?_, ?_, h.once, ?_⟩
    · rw [context]
      rfl
    · intro call waits
      cases waits
      exact ⟨Nat.lt_succ_self _, fun u hu => (h.used u hu).ne⟩
    · intro call waits
      cases waits
      exact le_rfl
    · intro call waits _
      cases waits
      rw [context]
      rfl
    · intro u hu
      exact Nat.lt_succ_of_lt (h.used u hu)
    · rw [context]
      exact h.config
  | idle _ context =>
    refine ⟨?_, h.number, h.since, ?_, h.used, h.once, ?_⟩
    · rw [context]
      exact h.profile
    · rw [context]
      exact h.workspace
    · rw [context]
      exact h.config
  | @taken _ b config _ named context =>
    refine ⟨?_, nofun, nofun, nofun, ?_, ?_, ?_⟩
    · rw [context]
      rfl
    · intro u hu
      rcases List.mem_append.mp hu with old | new
      · exact h.used u old
      · obtain ⟨call, waits, -, rfl⟩ := Observed.mem_use new
        exact (h.number call waits).1
    · rw [List.map_append, List.nodup_append]
      refine ⟨h.once, ?_, ?_⟩
      · cases o.waiting.bind (o.use config) with
        | none => exact List.nodup_nil
        | some u => exact List.pairwise_singleton _ _
      · intro n hn m hm
        obtain ⟨u, hu, rfl⟩ := List.mem_map.mp hn
        obtain ⟨v, hv, rfl⟩ := List.mem_map.mp hm
        obtain ⟨call, waits, -, rfl⟩ := Observed.mem_use hv
        exact (h.number call waits).2 u hu
    · intro u hu
      rw [context]
      rcases List.mem_append.mp hu with old | new
      · exact h.config u old
      · obtain ⟨call, waits, -, rfl⟩ := Observed.mem_use new
        rw [h.profile, Option.mem_def.mp waits] at named
        exact named

/-- The active profile that waits was given since the last call of `SetWorkspace`. -/
def Fresh (o : Observed) : Prop :=
  ∀ call ∈ o.waiting, call.profile ≠ "" → call.workspace ≠ "" → call.settings = o.settings

/-- Only a call of `SetWorkspace` makes a profile that waits an old one. -/
lemma Fresh.step {o o' : Observed} {e : BrowserEvent} (h : Fresh o) (guard : SetsGuard o e)
    (st : o.step e = some o') : Fresh o' := by
  cases Observed.step_noting st with
  | setting context =>
    intro call waits named given
    exact absurd (guard call waits) (not_or.mpr ⟨named, given⟩)
  | active context =>
    intro call waits _ _
    cases waits
    rfl
  | idle _ _ => exact h
  | taken _ _ _ => exact nofun

/-- A profile that was given since then is used in its own workspace. -/
lemma Noted.stays_within_step {o o' : Observed} {e : BrowserEvent} (h : Noted o) (fresh : Fresh o)
    (within : StaysWithin o) (st : o.step e = some o') : StaysWithin o' := by
  cases Observed.step_noting st with
  | setting context => exact within
  | active context => exact within
  | idle _ _ => exact within
  | taken _ _ _ =>
    intro u hu given
    rcases List.mem_append.mp hu with old | new
    · exact within u old given
    · obtain ⟨call, waits, named, rfl⟩ := Observed.mem_use new
      have same := fresh call waits named given
      exact ⟨(h.workspace call waits same).symm, same.symm⟩

/-- A fingerprint workspace is set, and a site is resolved in it. -/
def resolvesElsewhere : List BrowserEvent := [.setWorkspace "b" .kFingerprint, .resolveForSite 0]

/-- A profile that waits when `SetWorkspace` is called may be used after it. -/
lemma Noted.leaks {o o' : Observed} {e : BrowserEvent} (h : Noted o) (st : o.step e = some o')
    (unguarded : ¬ SetsGuard o e) :
    ∃ o'', exec Observed.step o' resolvesElsewhere = some o'' ∧ ¬ StaysWithin o'' := by
  cases e with
  | setWorkspace workspace type =>
    obtain ⟨call, waits, named, given⟩ : ∃ call ∈ o.waiting, call.profile ≠ "" ∧ call.workspace ≠ "" := by
      simpa [SetsGuard] using unguarded
    cases st
    refine ⟨_, rfl, fun within => ?_⟩
    -- the profile is named in a workspace that was set later than its own
    have late : o.settings + 1 + 1 = call.settings :=
      (within _ (List.mem_append_right o.uses
        (Observed.use_mem (o := { o with browser := _, settings := o.settings + 1 + 1 }) waits named)) given).2
    have since := h.since call waits
    omega
  | setActiveProfile | createTab | setProfile | resolveForSite | resolve => exact absurd trivial unguarded

/-- A browser with a new context. -/
def Observed.start (offTheRecord : Bool) (data : ProfileData) : Observed :=
  { browser := { context := { offTheRecord }, data } }

/-- At first nothing waits. -/
lemma noted_start (offTheRecord : Bool) (data : ProfileData) : Noted (.start offTheRecord data) :=
  ⟨rfl, nofun, nofun, nofun, nofun, List.nodup_nil, nofun⟩

/-- In every run no call is used twice, and a use is in the partition of the profile. The profiles are used in their
own workspaces as long as none waits when `SetWorkspace` is called; where one does, the run may go on with a use
elsewhere. -/
theorem active_profile_stays {offTheRecord : Bool} {data : ProfileData} {tr : List (Observed × BrowserEvent)}
    {o : Observed} (r : Run Observed.step (.start offTheRecord data) tr o) :
    (o.uses.map (·.call.number)).Nodup ∧
      (∀ u ∈ o.uses, u.config = configFor o.browser.context.offTheRecord u.workspace u.call.profile) ∧
      (Guarded SetsGuard tr → Always StaysWithin tr o) ∧
      ∀ e o', o.step e = some o' → ¬ SetsGuard o e →
        ∃ o'', exec Observed.step o' resolvesElsewhere = some o'' ∧ ¬ StaysWithin o'' := by
  have noted := r.invariant Noted.step (noted_start offTheRecord data)
  refine ⟨noted.once, noted.config, fun guarded => ?_, fun e o' st unguarded => noted.leaks st unguarded⟩
  have kept : Always (fun o => Noted o ∧ Fresh o ∧ StaysWithin o) tr o :=
    r.always_of_guarded
      (fun h guard st => ⟨h.1.step st, h.2.1.step guard st, h.1.stays_within_step h.2.1 h.2.2 st⟩)
      ⟨noted_start offTheRecord data, nofun, nofun⟩ guarded
  exact kept.imp fun _ h => h.2.2

/-- A profile that is used where it was given, and one that waits. -/
def profilesAtHome : List BrowserEvent := [
  .setWorkspace "a" .kFingerprint, .setActiveProfile "p", .resolveForSite 0, .resolveForSite 0, .setActiveProfile "q"]

/-- The profile "p" is used once, in the workspace "a"; if the workspace was changed then, "q" would be used in
another one. -/
theorem active_profile_stays_at_home :
    ∃ o, Run Observed.step (.start false fun _ => none)
        (trace Observed.step (.start false fun _ => none) profilesAtHome) o ∧
      o.uses.map (fun u => (u.call.profile, u.config)) = [("p", ⟨"purecloak", "a#p", false⟩)] ∧
      Always StaysWithin (trace Observed.step (.start false fun _ => none) profilesAtHome) o ∧
      ∃ o' o'', o.step (.setWorkspace "" .kNormal) = some o' ∧
        exec Observed.step o' resolvesElsewhere = some o'' ∧ ¬ StaysWithin o'' := by
  have r : Run Observed.step (.start false fun _ => none)
    (trace Observed.step (.start false fun _ => none) profilesAtHome) _ := Run.of_exec rfl
  obtain ⟨_, _, stays, leaks⟩ := active_profile_stays r
  obtain ⟨o'', goes_on, leak⟩ := leaks (.setWorkspace "" .kNormal) _ rfl (by decide)
  exact ⟨_, r, by decide, stays (by decide), _, o'', rfl, goes_on, leak⟩

/-- A profile that was given in another workspace than the one that it is used in. -/
def profileAbroad : List BrowserEvent := [
  .setWorkspace "a" .kFingerprint, .setActiveProfile "p", .setWorkspace "b" .kFingerprint, .resolveForSite 0]

/-- The profile "p" was given in "a", and is used in "b". -/
theorem active_profile_leaks :
    ∃ o, Run Observed.step (.start false fun _ => none)
        (trace Observed.step (.start false fun _ => none) profileAbroad) o ∧
      o.uses.map (fun u => (u.call.profile, u.call.workspace, u.config)) =
        [("p", "a", ⟨"purecloak", "b#p", false⟩)] ∧ ¬ StaysWithin o := by
  refine ⟨_, Run.of_exec rfl, by decide, ?_⟩
  intro within
  have stays := (within _ (List.mem_singleton_self _) (by decide)).1
  exact absurd stays (by decide)

end PureCloak.Content
