import PureCloak.Base.Value
import PureCloak.Base.Time

/-!
# Workspaces

The record `Workspace` of `workspace.h` and its functions from `workspace.cc`: the conversion to and from
a JSON dictionary and the helpers that create one. What `GenerateId` and `GenerateSeed` draw is given by
the caller: an id is any string, and a seed is a `GeneratedSeed`, one of the values that the uniform
distribution of `GenerateSeed` ranges over.
-/

namespace PureCloak.Profiles
open PureCloak.Base

/-- `ProfileTag`. -/
structure ProfileTag where
  tag : String := ""
  color : String := ""
deriving DecidableEq

/-- `Workspace::Type`. -/
inductive WorkspaceType where
  | kNormal
  | kFingerprint
deriving DecidableEq

/-- `Workspace`. -/
structure Workspace where
  id : String := ""
  name : String := ""
  type : WorkspaceType := .kNormal
  color : UInt32 := 0xFF6366F1
  defaultTabTitle : String := ""
  notes : String := ""
  fingerprintSeed : Int32 := 0
  userAgent : String := ""
  screenWidth : Int32 := 1920
  screenHeight : Int32 := 1080
  gpuVendor : String := ""
  gpuRenderer : String := ""
  hardwareConcurrency : Int32 := 0
  platform : String := ""
  colorScheme : String := ""
  proxy : String := ""
  timezone : String := ""
  locale : String := ""
  geoip : Bool := false
  humanize : Bool := false
  humanPreset : String := ""
  headless : Bool := false
  clipboardSync : Bool := true
  launchArgs : List String := []
  autoLaunch : Bool := false
  tags : List ProfileTag := []
  userDataDir : String := ""
  status : String := ""
  cdpUrl : String := ""
  createdAt : Time := Time.null
  updatedAt : Time := Time.null
deriving DecidableEq

/-! ## Keys -/

def kIdKey := "id"
def kNameKey := "name"
def kTypeKey := "type"
def kColorKey := "color"
def kDefaultTabTitleKey := "default_tab_title"
def kNotesKey := "notes"
def kFingerprintSeedKey := "fingerprint_seed"
def kUserAgentKey := "user_agent"
def kScreenWidthKey := "screen_width"
def kScreenHeightKey := "screen_height"
def kGpuVendorKey := "gpu_vendor"
def kGpuRendererKey := "gpu_renderer"
def kHardwareConcurrencyKey := "hardware_concurrency"
def kPlatformKey := "platform"
def kColorSchemeKey := "color_scheme"
def kProxyKey := "proxy"
def kTimezoneKey := "timezone"
def kLocaleKey := "locale"
def kGeoipKey := "geoip"
def kHumanizeKey := "humanize"
def kHumanPresetKey := "human_preset"
def kHeadlessKey := "headless"
def kClipboardSyncKey := "clipboard_sync"
def kLaunchArgsKey := "launch_args"
def kAutoLaunchKey := "auto_launch"
def kTagKey := "tag"
def kTagColorKey := "color"
def kTagsKey := "tags"
def kCreatedAtKey := "created_at"
def kUpdatedAtKey := "updated_at"

/-! ## Serialization -/

/-- `ProfileTag::ToDict`. -/
def ProfileTag.toDict (t : ProfileTag) : DictValue :=
  DictValue.ofFields [(kTagKey, some (.string t.tag)), (kTagColorKey, some (.string t.color))]

/-- `ProfileTag::FromDict`. -/
def ProfileTag.fromDict (dict : DictValue) : ProfileTag where
  tag := (DictValue.findString dict kTagKey).getD ""
  color := (DictValue.findString dict kTagColorKey).getD ""

/-- `Workspace::TypeToString`. -/
def WorkspaceType.toString : WorkspaceType → String
  | .kNormal => "normal"
  | .kFingerprint => "fingerprint"

/-- `Workspace::StringToType`. -/
def WorkspaceType.ofString (str : String) : WorkspaceType :=
  if str = "fingerprint" then .kFingerprint else .kNormal

/-- A string that is written only when it is not empty. -/
def unlessEmpty (s : String) : Option Value :=
  if s = "" then none else some (.string s)

section
variable [TimeLib]

/-- The `Set` calls of `Workspace::ToDict` in their order; `none` where the call is skipped. -/
def Workspace.fields (ws : Workspace) : List (String × Option Value) := [
  (kIdKey, some (.string ws.id)),
  (kNameKey, some (.string ws.name)),
  (kTypeKey, some (.string ws.type.toString)),
  (kColorKey, some (.integer ws.color.toInt32)),
  (kDefaultTabTitleKey, unlessEmpty ws.defaultTabTitle),
  (kNotesKey, unlessEmpty ws.notes),
  (kFingerprintSeedKey, some (.integer ws.fingerprintSeed)),
  (kUserAgentKey, unlessEmpty ws.userAgent),
  (kScreenWidthKey, some (.integer ws.screenWidth)),
  (kScreenHeightKey, some (.integer ws.screenHeight)),
  (kGpuVendorKey, unlessEmpty ws.gpuVendor),
  (kGpuRendererKey, unlessEmpty ws.gpuRenderer),
  (kHardwareConcurrencyKey,
    if ws.hardwareConcurrency ≠ 0 then some (.integer ws.hardwareConcurrency) else none),
  (kPlatformKey, unlessEmpty ws.platform),
  (kColorSchemeKey, unlessEmpty ws.colorScheme),
  (kProxyKey, unlessEmpty ws.proxy),
  (kTimezoneKey, unlessEmpty ws.timezone),
  (kLocaleKey, unlessEmpty ws.locale),
  (kGeoipKey, some (.boolean ws.geoip)),
  (kHumanizeKey, some (.boolean ws.humanize)),
  (kHumanPresetKey, unlessEmpty ws.humanPreset),
  (kHeadlessKey, some (.boolean ws.headless)),
  (kClipboardSyncKey, some (.boolean ws.clipboardSync)),
  (kAutoLaunchKey, some (.boolean ws.autoLaunch)),
  (kLaunchArgsKey, some (.list (ws.launchArgs.map .string))),
  (kTagsKey, some (.list (ws.tags.map fun t => .dict t.toDict))),
  (kCreatedAtKey, some (.string (timeToString ws.createdAt))),
  (kUpdatedAtKey, some (.string (timeToString ws.updatedAt)))]

/-- `Workspace::ToDict`. -/
def Workspace.toDict (ws : Workspace) : DictValue :=
  DictValue.ofFields ws.fields

/-- `Workspace::FromDict`. -/
def Workspace.fromDict (dict : DictValue) : Workspace :=
  let ws : Workspace := {}
  let findString := DictValue.findString dict
  let findInt := DictValue.findInt dict
  let findBool := DictValue.findBool dict
  let findList := DictValue.findList dict
  { ws with
    id := (findString kIdKey).getD ws.id
    name := (findString kNameKey).getD ws.name
    type := ((findString kTypeKey).map WorkspaceType.ofString).getD ws.type
    color := ((findInt kColorKey).map Int32.toUInt32).getD ws.color
    defaultTabTitle := (findString kDefaultTabTitleKey).getD ws.defaultTabTitle
    notes := (findString kNotesKey).getD ws.notes
    fingerprintSeed := (findInt kFingerprintSeedKey).getD ws.fingerprintSeed
    userAgent := (findString kUserAgentKey).getD ws.userAgent
    screenWidth := (findInt kScreenWidthKey).getD ws.screenWidth
    screenHeight := (findInt kScreenHeightKey).getD ws.screenHeight
    gpuVendor := (findString kGpuVendorKey).getD ws.gpuVendor
    gpuRenderer := (findString kGpuRendererKey).getD ws.gpuRenderer
    hardwareConcurrency := (findInt kHardwareConcurrencyKey).getD ws.hardwareConcurrency
    platform := (findString kPlatformKey).getD ws.platform
    colorScheme := (findString kColorSchemeKey).getD ws.colorScheme
    proxy := (findString kProxyKey).getD ws.proxy
    timezone := (findString kTimezoneKey).getD ws.timezone
    locale := (findString kLocaleKey).getD ws.locale
    geoip := (findBool kGeoipKey).getD ws.geoip
    humanize := (findBool kHumanizeKey).getD ws.humanize
    humanPreset := (findString kHumanPresetKey).getD ws.humanPreset
    headless := (findBool kHeadlessKey).getD ws.headless
    clipboardSync := (findBool kClipboardSyncKey).getD ws.clipboardSync
    autoLaunch := (findBool kAutoLaunchKey).getD ws.autoLaunch
    launchArgs := ((findList kLaunchArgsKey).map (·.filterMap Value.getIfString)).getD ws.launchArgs
    tags := ((findList kTagsKey).map
      (·.filterMap fun item => item.getIfDict.map ProfileTag.fromDict)).getD ws.tags
    createdAt := ((findString kCreatedAtKey).map timeFromString).getD ws.createdAt
    updatedAt := ((findString kUpdatedAtKey).map timeFromString).getD ws.updatedAt }

end

/-! ## Creation -/

/-- A value of `GenerateSeed`, whose distribution is uniform on 10000..99999. -/
structure GeneratedSeed where
  seed : Int32
  lower : 10000 ≤ seed
  upper : seed ≤ 99999

/-- A generated seed is never the value 0 that stands for no seed. -/
lemma GeneratedSeed.ne_zero (g : GeneratedSeed) : g.seed ≠ 0 := by
  intro e
  exact absurd (e ▸ g.lower) (by decide)

/-- What the functions that make a workspace draw and read: a fresh id, a fresh seed and the clock. -/
structure Drawn where
  id : String
  seed : GeneratedSeed
  now : Time

/-- `Workspace::CreateBasic`, given the id and the seed it draws and the time it reads. -/
def Workspace.createBasic (name : String) (type : WorkspaceType) (newId : String)
    (newSeed : GeneratedSeed) (now : Time) : Workspace where
  id := newId
  name := name
  type := type
  fingerprintSeed := newSeed.seed
  screenWidth := 1920
  screenHeight := 1080
  platform := "windows"
  clipboardSync := true
  humanPreset := "default"
  color := 0xFF6366F1
  createdAt := now
  updatedAt := now

end PureCloak.Profiles
