import PureCloak.Profiles.Workspace

/-!
# The workspace record codec

What `Workspace::ToDict` and `Workspace::FromDict` do field by field. The fields a user configures are
the values of `Field`; `Field.read` reads one out of a dictionary the way `FromDict` does, and
`Workspace.fromDict_get` says that `FromDict` takes every field from there or else from a default
`Workspace`. In the other direction `Workspace.fromDict_toDict` says that a record survives the round
trip up to `Workspace.persisted`: the runtime fields are dropped and the two times are what their
text gives back.
-/

namespace PureCloak.Profiles
open PureCloak.Base

/-! ## Fields -/

/-- The user-configurable fields: all keys of `FromDict` but `id`, `type` and the two times. -/
inductive Field where
  | name | color | defaultTabTitle | notes | fingerprintSeed | userAgent | screenWidth | screenHeight
  | gpuVendor | gpuRenderer | hardwareConcurrency | platform | colorScheme | proxy | timezone | locale
  | geoip | humanize | humanPreset | headless | clipboardSync | launchArgs | autoLaunch | tags
deriving DecidableEq

/-- The value of a field. -/
inductive FieldValue where
  | string (s : String)
  | int (i : Int32)
  | color (c : UInt32)
  | bool (b : Bool)
  | strings (l : List String)
  | tags (l : List ProfileTag)
deriving DecidableEq

/-- The dictionary key of a field. -/
def Field.key : Field → String
  | .name => kNameKey
  | .color => kColorKey
  | .defaultTabTitle => kDefaultTabTitleKey
  | .notes => kNotesKey
  | .fingerprintSeed => kFingerprintSeedKey
  | .userAgent => kUserAgentKey
  | .screenWidth => kScreenWidthKey
  | .screenHeight => kScreenHeightKey
  | .gpuVendor => kGpuVendorKey
  | .gpuRenderer => kGpuRendererKey
  | .hardwareConcurrency => kHardwareConcurrencyKey
  | .platform => kPlatformKey
  | .colorScheme => kColorSchemeKey
  | .proxy => kProxyKey
  | .timezone => kTimezoneKey
  | .locale => kLocaleKey
  | .geoip => kGeoipKey
  | .humanize => kHumanizeKey
  | .humanPreset => kHumanPresetKey
  | .headless => kHeadlessKey
  | .clipboardSync => kClipboardSyncKey
  | .launchArgs => kLaunchArgsKey
  | .autoLaunch => kAutoLaunchKey
  | .tags => kTagsKey

/-- The value a workspace has in a field. -/
def Workspace.get (ws : Workspace) : Field → FieldValue
  | .name => .string ws.name
  | .color => .color ws.color
  | .defaultTabTitle => .string ws.defaultTabTitle
  | .notes => .string ws.notes
  | .fingerprintSeed => .int ws.fingerprintSeed
  | .userAgent => .string ws.userAgent
  | .screenWidth => .int ws.screenWidth
  | .screenHeight => .int ws.screenHeight
  | .gpuVendor => .string ws.gpuVendor
  | .gpuRenderer => .string ws.gpuRenderer
  | .hardwareConcurrency => .int ws.hardwareConcurrency
  | .platform => .string ws.platform
  | .colorScheme => .string ws.colorScheme
  | .proxy => .string ws.proxy
  | .timezone => .string ws.timezone
  | .locale => .string ws.locale
  | .geoip => .bool ws.geoip
  | .humanize => .bool ws.humanize
  | .humanPreset => .string ws.humanPreset
  | .headless => .bool ws.headless
  | .clipboardSync => .bool ws.clipboardSync
  | .launchArgs => .strings ws.launchArgs
  | .autoLaunch => .bool ws.autoLaunch
  | .tags => .tags ws.tags

/-- A JSON value taken as the value of a field, if it has the type the field wants. -/
def Field.ofValue : Field → Value → Option FieldValue
  | .color, v => v.getIfInt.map fun i => .color i.toUInt32
  | .fingerprintSeed, v | .screenWidth, v | .screenHeight, v | .hardwareConcurrency, v =>
    v.getIfInt.map .int
  | .geoip, v | .humanize, v | .headless, v | .clipboardSync, v | .autoLaunch, v =>
    v.getIfBool.map .bool
  | .launchArgs, v => v.getIfList.map fun l => .strings (l.filterMap Value.getIfString)
  | .tags, v => v.getIfList.map fun l =>
    .tags (l.filterMap fun item => item.getIfDict.map ProfileTag.fromDict)
  | _, v => v.getIfString.map .string

/-- The value a dictionary gives for a field, if the key is there with the right type. -/
def Field.read (f : Field) (dict : DictValue) : Option FieldValue :=
  (DictValue.find dict f.key).bind f.ofValue

/-- A field that is not in the record is not read. -/
lemma Field.read_of_absent {f : Field} {dict : DictValue} (h : DictValue.find dict f.key = none) :
    f.read dict = none := by
  simp [Field.read, h]

/-- `FromDict` takes each configurable field from the dictionary or else from a default record. -/
lemma Workspace.fromDict_get [TimeLib] (dict : DictValue) (f : Field) :
    (Workspace.fromDict dict).get f = (f.read dict).getD (({} : Workspace).get f) := by
  cases f <;>
    simp only [Workspace.fromDict, Workspace.get, Field.read, Field.key,
      DictValue.findString, DictValue.findInt, DictValue.findBool, DictValue.findList,
      Option.map_bind, Function.comp_def] <;>
    cases DictValue.find dict _ with
    | none => rfl
    | some v => cases v <;> rfl

/-! ## Round trip -/

/-- A text that is left out when it is empty. -/
lemma getD_unlessEmpty (s : String) : ((unlessEmpty s).bind Value.getIfString).getD "" = s := by
  unfold unlessEmpty
  split
  case isTrue e => exact e.symm
  case isFalse => rfl

/-- A number that is left out when it is zero. -/
lemma getD_unlessZero (i : Int32) :
    ((if i ≠ 0 then some (Value.integer i) else none).bind Value.getIfInt).getD 0 = i := by
  split
  case isTrue => rfl
  case isFalse e => exact (not_not.mp e).symm

/-- The type is read back from its name. -/
lemma WorkspaceType.ofString_toString (type : WorkspaceType) :
    WorkspaceType.ofString type.toString = type := by
  cases type <;> rfl

/-- A tag is read back. -/
lemma ProfileTag.fromDict_toDict (t : ProfileTag) : ProfileTag.fromDict t.toDict = t := by
  have nd : ([(kTagKey, some (Value.string t.tag)), (kTagColorKey, some (Value.string t.color))].map
      Prod.fst).Nodup := by
    show List.Nodup [kTagKey, kTagColorKey]
    decide
  simp only [ProfileTag.fromDict, ProfileTag.toDict, DictValue.findString, DictValue.find_ofFields nd]
  rfl

/-- The texts of a list are read back. -/
lemma filterMap_getIfString (l : List String) :
    (l.map Value.string).filterMap Value.getIfString = l := by
  rw [List.filterMap_map]
  exact List.filterMap_some

/-- The tags of a list are read back. -/
lemma filterMap_tags (l : List ProfileTag) :
    (l.map fun t => Value.dict t.toDict).filterMap
      (fun item => item.getIfDict.map ProfileTag.fromDict) = l := by
  rw [List.filterMap_map]
  have e : ((fun item : Value => item.getIfDict.map ProfileTag.fromDict) ∘
      fun t : ProfileTag => Value.dict t.toDict) = some := by
    funext t
    exact congrArg some t.fromDict_toDict
  rw [e]
  exact List.filterMap_some

section
variable [TimeLib]

/-- What a record is after it was written and read back. -/
def Workspace.persisted (ws : Workspace) : Workspace :=
  { ws with
    userDataDir := ""
    status := ""
    cdpUrl := ""
    createdAt := timeFromString (timeToString ws.createdAt)
    updatedAt := timeFromString (timeToString ws.updatedAt) }

/-- No key is written twice. -/
lemma Workspace.fields_nodup (ws : Workspace) : (ws.fields.map Prod.fst).Nodup := by
  show List.Nodup [kIdKey, kNameKey, kTypeKey, kColorKey, kDefaultTabTitleKey, kNotesKey,
    kFingerprintSeedKey, kUserAgentKey, kScreenWidthKey, kScreenHeightKey, kGpuVendorKey,
    kGpuRendererKey, kHardwareConcurrencyKey, kPlatformKey, kColorSchemeKey, kProxyKey, kTimezoneKey,
    kLocaleKey, kGeoipKey, kHumanizeKey, kHumanPresetKey, kHeadlessKey, kClipboardSyncKey,
    kAutoLaunchKey, kLaunchArgsKey, kTagsKey, kCreatedAtKey, kUpdatedAtKey]
  decide

/-- What `ToDict` leaves under a key. -/
lemma Workspace.find_toDict (ws : Workspace) (key : String) :
    DictValue.find ws.toDict key = (ws.fields.lookup key).join :=
  DictValue.find_ofFields ws.fields_nodup key

/-- A record read back from its dictionary is the record as persisted. -/
theorem Workspace.fromDict_toDict (ws : Workspace) :
    Workspace.fromDict ws.toDict = ws.persisted := by
  simp only [Workspace.fromDict, DictValue.findString, DictValue.findInt, DictValue.findBool,
    DictValue.findList, Workspace.find_toDict]
  have hw := getD_unlessZero ws.hardwareConcurrency
  have ty := ws.type.ofString_toString
  have args := filterMap_getIfString ws.launchArgs
  have tags := filterMap_tags ws.tags
  unfold Workspace.persisted
  -- the four fields above are closed from the context, the others are plain or omitted strings
  congr 1
  all_goals first
    | rfl
    | exact getD_unlessEmpty _

end

end PureCloak.Profiles
