import PureCloak.Base.Json
import PureCloak.Profiles.Workspace
import Mathlib.Tactic.SplitIfs

/-!
# The commands of a workspace

`GenerateCDPCommands` of `ProfileCDPInjector`, which writes the settings of a workspace as commands for the debugging
protocol: a method with parameters. What the commands of a workspace say are its `settings`
(`callOf_generateCDPCommands`), and of each kind of setting some workspaces have those that are there, in their order
(`paramsOf_settings`).
-/

namespace PureCloak.Content
open PureCloak.Base PureCloak.Profiles

namespace ProfileCDPInjector

/-! ## The commands -/

/-- `MakeCommand`. -/
def makeCommand (method : String) (params : DictValue) : DictValue :=
  DictValue.ofFields [("method", some (.string method)), ("params", some (.dict params))]

/-- `MakeScreenOverride`. -/
def makeScreenOverride (width height : Int32) : DictValue :=
  makeCommand "Emulation.setDeviceMetricsOverride" (DictValue.ofFields [
    ("width", some (.integer width)), ("height", some (.integer height)),
    ("deviceScaleFactor", some (.integer 1)), ("mobile", some (.boolean false))])

/-- `MakeTimezoneOverride`. -/
def makeTimezoneOverride (timezone : String) : DictValue :=
  makeCommand "Emulation.setTimezoneOverride" (DictValue.ofFields [("timezoneId", some (.string timezone))])

/-- `MakeDarkModeOverride`. -/
def makeDarkModeOverride (enabled : Bool) : DictValue :=
  makeCommand "Emulation.setAutoDarkModeOverride" (DictValue.ofFields [("enabled", some (.boolean enabled))])

/-- `MakeScriptInjection`. -/
def makeScriptInjection (source : String) : DictValue :=
  makeCommand "Page.addScriptToEvaluateOnNewDocument" (DictValue.ofFields [("source", some (.string source))])

/-- `GenerateCDPCommands`; the text of the script is given. -/
def generateCDPCommands (generateInjectionScript : Workspace → Bool → String) (workspace : Workspace) :
    List DictValue :=
  let injectionScript := generateInjectionScript workspace true
  (if workspace.screenWidth > 0 ∧ workspace.screenHeight > 0 then
    [makeScreenOverride workspace.screenWidth workspace.screenHeight] else []) ++
  (if workspace.timezone ≠ "" then [makeTimezoneOverride workspace.timezone] else []) ++
  (if workspace.colorScheme = "dark" then [makeDarkModeOverride true]
    else if workspace.colorScheme = "light" then [makeDarkModeOverride false] else []) ++
  (if injectionScript ≠ "" then [makeScriptInjection injectionScript] else [])

end ProfileCDPInjector

/-! ## What is in a command -/

/-- The method and the parameters of a command. -/
def callOf (command : DictValue) : Option (String × DictValue) :=
  (command.findString "method").bind fun method =>
    ((command.find "params").bind Value.getIfDict).map fun params => (method, params)

/-- The parameters of the commands with a method. -/
def paramsOf (method : String) (commands : List DictValue) : List DictValue :=
  ((commands.filterMap callOf).filter fun call => call.1 = method).map Prod.snd

/-- The settings that are sent. -/
inductive Setting where
  | screen
  | timezone
  | darkMode
  | script
deriving DecidableEq

namespace Setting

/-- The method that sets it. -/
def method : Setting → String
  | .screen => "Emulation.setDeviceMetricsOverride"
  | .timezone => "Emulation.setTimezoneOverride"
  | .darkMode => "Emulation.setAutoDarkModeOverride"
  | .script => "Page.addScriptToEvaluateOnNewDocument"

/-- The parameters for a workspace, if it has the setting: a size, a timezone, a color scheme that is dark or light, a
script that is not empty. -/
def params (generateInjectionScript : Workspace → Bool → String) (workspace : Workspace) : Setting → Option DictValue
  | .screen =>
    if workspace.screenWidth > 0 ∧ workspace.screenHeight > 0 then
      some (DictValue.ofFields [("width", some (.integer workspace.screenWidth)),
        ("height", some (.integer workspace.screenHeight)), ("deviceScaleFactor", some (.integer 1)),
        ("mobile", some (.boolean false))])
    else none
  | .timezone =>
    if workspace.timezone ≠ "" then some (DictValue.ofFields [("timezoneId", some (.string workspace.timezone))])
    else none
  | .darkMode =>
    if workspace.colorScheme = "dark" then some (DictValue.ofFields [("enabled", some (.boolean true))])
    else if workspace.colorScheme = "light" then some (DictValue.ofFields [("enabled", some (.boolean false))])
    else none
  | .script =>
    let injectionScript := generateInjectionScript workspace true
    if injectionScript ≠ "" then some (DictValue.ofFields [("source", some (.string injectionScript))]) else none

/-- What is sent for a setting of a workspace. -/
def call (generateInjectionScript : Workspace → Bool → String) (workspace : Workspace) (setting : Setting) :
    Option (String × DictValue) :=
  (setting.params generateInjectionScript workspace).map fun params => (setting.method, params)

end Setting

/-- The settings of a workspace, in the order in which they are sent. -/
def settings (generateInjectionScript : Workspace → Bool → String) (workspace : Workspace) :
    List (String × DictValue) :=
  [Setting.screen, .timezone, .darkMode, .script].flatMap fun setting =>
    (setting.call generateInjectionScript workspace).toList

namespace ProfileCDPInjector

/-- What a command was made of. -/
lemma callOf_makeCommand (method : String) (params : DictValue) :
    callOf (makeCommand method params) = some (method, params) := by
  have fresh : ([("method", some (.string method)), ("params", some (.dict params))].map
      (Prod.fst (β := Option Value))).Nodup := by simp
  unfold callOf DictValue.findString makeCommand
  rw [DictValue.find_ofFields fresh, DictValue.find_ofFields fresh]
  rfl

/-- The id of a command is not part of what it says. -/
lemma callOf_id (command : DictValue) (id : Value) : callOf (command.set "id" id) = callOf command := by
  have other : ∀ key, key ≠ "id" → DictValue.find (command.set "id" id) key = command.find key := by
    intro key ne
    rw [DictValue.find_set, if_neg ne]
  unfold callOf DictValue.findString
  rw [other "method" (by decide), other "params" (by decide)]

/-- A command that is there or not. -/
lemma callOf_optional {c : Prop} [Decidable c] (method : String) (params : DictValue) :
    (if c then [makeCommand method params] else []).map callOf =
      ((if c then some params else none).map (Prod.mk method)).toList.map some := by
  split_ifs
  · exact congrArg (fun call => [call]) (callOf_makeCommand method params)
  · rfl

/-- The commands of a workspace say its settings. -/
lemma callOf_generateCDPCommands (generateInjectionScript : Workspace → Bool → String) (workspace : Workspace) :
    (generateCDPCommands generateInjectionScript workspace).map callOf =
      (settings generateInjectionScript workspace).map some := by
  have darkMode : (if workspace.colorScheme = "dark" then [makeDarkModeOverride true]
      else if workspace.colorScheme = "light" then [makeDarkModeOverride false] else []).map callOf =
      (((if workspace.colorScheme = "dark" then some (DictValue.ofFields [("enabled", some (.boolean true))])
        else if workspace.colorScheme = "light" then some (DictValue.ofFields [("enabled", some (.boolean false))])
        else none).map (Prod.mk "Emulation.setAutoDarkModeOverride")).toList).map some := by
    split_ifs
    · exact congrArg (fun call => [call]) (callOf_makeCommand _ _)
    · exact congrArg (fun call => [call]) (callOf_makeCommand _ _)
    · rfl
  rw [generateCDPCommands, settings]
  simp only [List.map_append, List.flatMap_cons, List.flatMap_nil, List.append_nil, List.append_assoc]
  congr 1
  · exact callOf_optional _ _
  · congr 1
    · exact callOf_optional _ _
    · congr 1
      exact callOf_optional _ _

/-- The parameters of the calls with a method. -/
lemma paramsOf_eq {commands : List DictValue} {calls : List (String × DictValue)}
    (made : commands.map callOf = calls.map some) (method : String) :
    paramsOf method commands = (calls.filter fun call => call.1 = method).map Prod.snd := by
  have found : commands.filterMap callOf = calls := by
    have there := congrArg (List.filterMap id) made
    rw [List.filterMap_map, List.filterMap_map] at there
    exact there.trans List.filterMap_some
  rw [paramsOf, found]

/-- The settings differ in their methods. -/
lemma method_inj (setting setting' : Setting) : setting.method = setting'.method ↔ setting = setting' := by
  cases setting <;> cases setting' <;> decide

variable {generateInjectionScript : Workspace → Bool → String}

/-- Of a workspace, a method has the parameters of its setting. -/
lemma filter_settings (setting : Setting) (workspace : Workspace) :
    ((settings generateInjectionScript workspace).filter fun call => call.1 = setting.method).map Prod.snd =
      (setting.params generateInjectionScript workspace).toList := by
  have each (other : Setting) :
      ((other.call generateInjectionScript workspace).toList.filter fun call => call.1 = setting.method).map Prod.snd =
        if other = setting then (setting.params generateInjectionScript workspace).toList else [] := by
    rw [Setting.call]
    by_cases own : other = setting
    · subst own
      rw [if_pos rfl]
      cases other.params generateInjectionScript workspace with
      | none => rfl
      | some params => simp
    · rw [if_neg own]
      have differ : ¬ other.method = setting.method := (method_inj other setting).not.mpr own
      cases other.params generateInjectionScript workspace with
      | none => rfl
      | some params => simp [differ]
  rw [settings]
  simp only [List.flatMap_cons, List.flatMap_nil, List.append_nil, List.filter_append, List.map_append, each]
  cases setting <;> simp

end ProfileCDPInjector

end PureCloak.Content
