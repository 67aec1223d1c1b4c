import PureCloak.Common.Seed

/-!
# Initializing a second time

`InitializeFromCommandLine` on an object that was initialized before, with another command line. It sets every member
anew but one: the storage quota is only set where the command line has a number for it, and nothing resets it first
(`initialize_eq`). So the second command line decides alone where it has one, or where the first left the quota at what
a new object has (`reinitialize_iff`).
-/

namespace PureCloak.Common
open PureCloak.Base

/-- The storage quota of a command line that has a number for it. -/
def quotaSwitch (cmd : CommandLine) : Option Int32 :=
  let str := getSwitch cmd kFingerprintStorageQuota ""
  if str ≠ "" ∧ (stringToInt str).2 then some (stringToInt str).1 else none

namespace PureCloakSeed

/-- The quota is the number of the switch, or what it was. -/
lemma getIntSwitch_quota (cmd : CommandLine) (quota : Int32) :
    getIntSwitch cmd kFingerprintStorageQuota quota = (quotaSwitch cmd).getD quota := by
  rw [getIntSwitch, quotaSwitch]
  split_ifs <;> rfl

/-- Two objects that are initialized with one command line differ in the storage quota at most. -/
theorem initialize_eq (self other : PureCloakSeed) (cmd : CommandLine) :
    self.initializeFromCommandLine cmd =
      { other.initializeFromCommandLine cmd with storageQuotaMb := (quotaSwitch cmd).getD self.storageQuotaMb } := by
  rw [← getIntSwitch_quota]
  rfl

/-- So it is after the initialization. -/
lemma initialize_quota (self : PureCloakSeed) (cmd : CommandLine) :
    (self.initializeFromCommandLine cmd).storageQuotaMb = (quotaSwitch cmd).getD self.storageQuotaMb :=
  getIntSwitch_quota cmd self.storageQuotaMb

/-- When the command line alone decides. -/
theorem initialize_same_iff (self other : PureCloakSeed) (cmd : CommandLine) :
    self.initializeFromCommandLine cmd = other.initializeFromCommandLine cmd ↔
      (quotaSwitch cmd).isSome ∨ self.storageQuotaMb = other.storageQuotaMb := by
  constructor
  · intro same
    have quota := congrArg storageQuotaMb same
    rw [initialize_quota, initialize_quota] at quota
    cases number : quotaSwitch cmd with
    | some q => exact .inl rfl
    | none =>
      rw [number] at quota
      exact .inr quota
  · intro alone
    rw [initialize_eq self other cmd, ← initialize_quota]
    have quota : (self.initializeFromCommandLine cmd).storageQuotaMb =
        (other.initializeFromCommandLine cmd).storageQuotaMb := by
      rw [initialize_quota, initialize_quota]
      rcases alone with number | same
      · obtain ⟨q, hq⟩ := Option.isSome_iff_exists.mp number
        rw [hq]; rfl
      · rw [same]
    rw [quota]

/-- A second command line makes of the object what it makes of a new one exactly where it has a storage quota, or the
first had none but that of a new object. -/
theorem reinitialize_iff (c₁ c₂ : CommandLine) :
    (initializeFromCommandLine {} c₁).initializeFromCommandLine c₂ = initializeFromCommandLine {} c₂ ↔
      (quotaSwitch c₂).isSome ∨ (quotaSwitch c₁).getD 500 = 500 := by
  rw [initialize_same_iff, initialize_quota]

/-- The quota of the first command line is still there after the second. -/
theorem reinitialize_remembers :
    ¬ ∀ c₁ c₂, (initializeFromCommandLine {} c₁).initializeFromCommandLine c₂ = initializeFromCommandLine {} c₂ := by
  intro forgets
  have quota := congrArg storageQuotaMb
    (forgets (CommandLine.appendSwitchASCII { program := "chrome" } kFingerprintStorageQuota "700")
      { program := "chrome" })
  exact absurd quota (by decide)

end PureCloakSeed

end PureCloak.Common
