import PureCloak.Base.CommandLine

/-!
# The fingerprint of a process

`PureCloakSeed`, the fingerprint configuration of a process, and its initialization from the switches of
the command line, whose names are in `purecloak_switches.cc`. The lock around it is left out.
-/

namespace PureCloak.Common
open PureCloak.Base

/-! ## Switches -/

def kFingerprint := "fingerprint"
def kFingerprintPlatform := "fingerprint-platform"
def kFingerprintGpuVendor := "fingerprint-gpu-vendor"
def kFingerprintGpuRenderer := "fingerprint-gpu-renderer"
def kFingerprintHardwareConcurrency := "fingerprint-hardware-concurrency"
def kFingerprintDeviceMemory := "fingerprint-device-memory"
def kFingerprintScreenWidth := "fingerprint-screen-width"
def kFingerprintScreenHeight := "fingerprint-screen-height"
def kFingerprintTaskbarHeight := "fingerprint-taskbar-height"
def kFingerprintBrand := "fingerprint-brand"
def kFingerprintBrandVersion := "fingerprint-brand-version"
def kFingerprintPlatformVersion := "fingerprint-platform-version"
def kFingerprintWebrtcIp := "fingerprint-webrtc-ip"
def kFingerprintFontsDir := "fingerprint-fonts-dir"
def kFingerprintLocation := "fingerprint-location"
def kFingerprintStorageQuota := "fingerprint-storage-quota"
def kFingerprintNoise := "fingerprint-noise"
def kFingerprintTimezone := "fingerprint-timezone"
def kFingerprintLocale := "fingerprint-locale"

/-! ## Defaults -/

/-- `DefaultScreenWidth`. -/
def defaultScreenWidth (platform : String) : Int32 :=
  if platform = "macos" then 1440 else 1920

/-- `DefaultScreenHeight`. -/
def defaultScreenHeight (platform : String) : Int32 :=
  if platform = "macos" then 900 else 1080

/-- `DefaultTaskbarHeight`. -/
def defaultTaskbarHeight (platform : String) : Int32 :=
  if platform = "windows" then 48
  else if platform = "macos" then 95
  else 0

/-- `DefaultHardwareConcurrency`. -/
def defaultHardwareConcurrency (platform : String) : Int32 :=
  if platform = "android" then 4
  else if platform = "ios" then 4
  else 8

/-- `DefaultDeviceMemory`. -/
def defaultDeviceMemory (platform : String) : Int32 :=
  if platform = "android" then 4
  else if platform = "ios" then 3
  else 8

/-! ## Initialization -/

/-- `PureCloakSeed`. -/
structure PureCloakSeed where
  seed : Int32 := 0
  platform : String := ""
  gpuVendor : String := ""
  gpuRenderer : String := ""
  hardwareConcurrency : Int32 := 8
  deviceMemory : Int32 := 8
  screenWidth : Int32 := 1920
  screenHeight : Int32 := 1080
  taskbarHeight : Int32 := 0
  brand : String := ""
  brandVersion : String := ""
  platformVersion : String := ""
  webrtcIp : String := ""
  fontsDir : String := ""
  location : String := ""
  timezone : String := ""
  locale : String := ""
  storageQuotaMb : Int32 := 500
  noiseEnabled : Bool := true
deriving DecidableEq

/-- The lambda `get_switch`. -/
def getSwitch (cmd : CommandLine) (name defaultVal : String) : String :=
  if cmd.hasSwitch name then cmd.getSwitchValueASCII name else defaultVal

/-- A switch that is a whole number, or else a default. -/
def getIntSwitch (cmd : CommandLine) (name : String) (defaultVal : Int32) : Int32 :=
  let str := getSwitch cmd name ""
  if str ≠ "" ∧ (stringToInt str).2 then (stringToInt str).1 else defaultVal

/-- `InitializeFromCommandLine`. -/
def PureCloakSeed.initializeFromCommandLine (self : PureCloakSeed) (cmd : CommandLine) :
    PureCloakSeed :=
  let seedStr := cmd.getSwitchValueASCII kFingerprint
  let platform := getSwitch cmd kFingerprintPlatform "windows"
  { seed := if seedStr ≠ "" then (stringToInt seedStr).1 else 0
    platform := platform
    gpuVendor := getSwitch cmd kFingerprintGpuVendor ""
    gpuRenderer := getSwitch cmd kFingerprintGpuRenderer ""
    hardwareConcurrency :=
      getIntSwitch cmd kFingerprintHardwareConcurrency (defaultHardwareConcurrency platform)
    deviceMemory := getIntSwitch cmd kFingerprintDeviceMemory (defaultDeviceMemory platform)
    screenWidth := getIntSwitch cmd kFingerprintScreenWidth (defaultScreenWidth platform)
    screenHeight := getIntSwitch cmd kFingerprintScreenHeight (defaultScreenHeight platform)
    taskbarHeight := getIntSwitch cmd kFingerprintTaskbarHeight (defaultTaskbarHeight platform)
    brand := getSwitch cmd kFingerprintBrand ""
    brandVersion := getSwitch cmd kFingerprintBrandVersion ""
    platformVersion := getSwitch cmd kFingerprintPlatformVersion ""
    webrtcIp := getSwitch cmd kFingerprintWebrtcIp ""
    fontsDir := getSwitch cmd kFingerprintFontsDir ""
    location := getSwitch cmd kFingerprintLocation ""
    timezone := getSwitch cmd kFingerprintTimezone ""
    locale := getSwitch cmd kFingerprintLocale ""
    -- not reset when the switch is missing
    storageQuotaMb := getIntSwitch cmd kFingerprintStorageQuota self.storageQuotaMb
    noiseEnabled := cmd.getSwitchValueASCII kFingerprintNoise ≠ "false" }

end PureCloak.Common
