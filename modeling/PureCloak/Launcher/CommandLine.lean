import PureCloak.Common.Seed
import PureCloak.Profiles.Workspace

/-!
# The command line of a workspace

`BuildCommandLine` of `workspace_launcher.cc`, and what the process it starts finds on it. The process
initializes its `PureCloakSeed` from the `--fingerprint` switches, and none of the switches that
`BuildCommandLine` appends is one of these (`buildCommandLine_switches`), so the only ones that arrive
are those among the launch arguments of the workspace. `launch_reaches_iff` says what the process has
to find there for its fingerprint to be the one of the workspace.
-/

namespace PureCloak.Launcher
open PureCloak.Base PureCloak.Common PureCloak.Profiles

/-- `BuildCommandLine`, given the path of the executable. -/
def buildCommandLine (exePath : String) (ws : Workspace) (userDataDir : String) (cdpPort : Int) :
    CommandLine :=
  let cmd : CommandLine := { program := exePath }
  let cmd := cmd.appendSwitchASCII "user-data-dir" userDataDir
  let cmd := cmd.appendSwitchASCII "remote-debugging-port" (numberToString cdpPort)
  let cmd := cmd.appendSwitch "no-first-run"
  let cmd := cmd.appendSwitch "no-default-browser-check"
  let cmd := cmd.appendSwitchASCII "disable-features" "Translate"
  let cmd := if ws.userAgent ≠ "" then cmd.appendSwitchASCII "user-agent" ws.userAgent else cmd
  let cmd :=
    if ws.screenWidth > 0 ∧ ws.screenHeight > 0 then
      cmd.appendSwitchASCII "window-size"
        (numberToString ws.screenWidth.toInt ++ "," ++ numberToString ws.screenHeight.toInt)
    else cmd
  let cmd := if ws.proxy ≠ "" then cmd.appendSwitchASCII "proxy-server" ws.proxy else cmd
  let cmd := if ws.locale ≠ "" then cmd.appendSwitchASCII "accept-lang" ws.locale else cmd
  let cmd := if ws.headless then cmd.appendSwitchASCII "headless" "new" else cmd
  let cmd := cmd.appendSwitchASCII "force-webrtc-ip-handling-policy" "disable_non_proxied_udp"
  let cmd := ws.launchArgs.foldl CommandLine.appendArg cmd
  cmd.appendArg "about:blank"

/-- The keys of the switches of `BuildCommandLine`. -/
def launchKeys : List String := [
  "user-data-dir", "remote-debugging-port", "no-first-run", "no-default-browser-check",
  "disable-features", "user-agent", "window-size", "proxy-server", "accept-lang", "headless",
  "force-webrtc-ip-handling-policy"]

/-! ## What is on the command line -/

/-- The arguments are appended in their order. -/
lemma foldl_appendArg (cmd : CommandLine) (args : List String) :
    args.foldl CommandLine.appendArg cmd = { cmd with args := cmd.args ++ args } := by
  induction args generalizing cmd with
  | nil => simp
  | cons arg args ih => simp [ih, CommandLine.appendArg]

/-- A command line to which only switches with the keys above were appended. -/
structure Switches (cmd : CommandLine) : Prop where
  keys : ∀ s ∈ cmd.switches, s.1 ∈ launchKeys
  args : cmd.args = []

/-- A switch of the launcher is appended. -/
lemma Switches.append {cmd : CommandLine} (h : Switches cmd) {key : String} (hk : key ∈ launchKeys)
    (value : String) : Switches (cmd.appendSwitchASCII key value) := by
  refine ⟨fun s hs => ?_, h.args⟩
  obtain hs | hs := List.mem_append.mp hs
  · exact h.keys s hs
  · rw [List.mem_singleton.mp hs]
    exact hk

/-- A switch of the launcher is appended, or not. -/
lemma Switches.append_if {cmd : CommandLine} (h : Switches cmd) {key : String}
    (hk : key ∈ launchKeys) (c : Prop) [Decidable c] (value : String) :
    Switches (if c then cmd.appendSwitchASCII key value else cmd) := by
  split
  · exact h.append hk value
  · exact h

/-- `BuildCommandLine` appends switches with the keys above, then the launch arguments and a page. -/
lemma buildCommandLine_eq (exePath : String) (ws : Workspace) (userDataDir : String)
    (cdpPort : Int) :
    (∀ s ∈ (buildCommandLine exePath ws userDataDir cdpPort).switches, s.1 ∈ launchKeys) ∧
    (buildCommandLine exePath ws userDataDir cdpPort).args = ws.launchArgs ++ ["about:blank"] := by
  have h : Switches { program := exePath } := ⟨fun s hs => (by cases hs), rfl⟩
  have h := h.append (by decide : "user-data-dir" ∈ launchKeys) userDataDir
  have h := h.append (by decide : "remote-debugging-port" ∈ launchKeys) (numberToString cdpPort)
  have h := h.append (by decide : "no-first-run" ∈ launchKeys) ""
  have h := h.append (by decide : "no-default-browser-check" ∈ launchKeys) ""
  have h := h.append (by decide : "disable-features" ∈ launchKeys) "Translate"
  have h := h.append_if (by decide : "user-agent" ∈ launchKeys) (ws.userAgent ≠ "") ws.userAgent
  have h := h.append_if (by decide : "window-size" ∈ launchKeys)
    (ws.screenWidth > 0 ∧ ws.screenHeight > 0)
    (numberToString ws.screenWidth.toInt ++ "," ++ numberToString ws.screenHeight.toInt)
  have h := h.append_if (by decide : "proxy-server" ∈ launchKeys) (ws.proxy ≠ "") ws.proxy
  have h := h.append_if (by decide : "accept-lang" ∈ launchKeys) (ws.locale ≠ "") ws.locale
  have h := h.append_if (by decide : "headless" ∈ launchKeys) (ws.headless = true) "new"
  have h := h.append (by decide : "force-webrtc-ip-handling-policy" ∈ launchKeys)
    "disable_non_proxied_udp"
  rw [buildCommandLine, foldl_appendArg]
  refine ⟨h.keys, ?_⟩
  show _ ++ ws.launchArgs ++ ["about:blank"] = _
  rw [List.append_left_inj]
  exact congrArg (· ++ ws.launchArgs) h.args

/-! ## What the process finds -/

/-- What the launch arguments of a workspace have under a switch; a value that is not ASCII is empty. -/
def argString (ws : Workspace) (key defaultVal : String) : String :=
  match (CommandLine.argSwitches ws.launchArgs).reverse.lookup key with
  | none => defaultVal
  | some value => if isStringASCII value then value else ""

/-- The same for a switch that is a whole number. -/
def argInt (ws : Workspace) (key : String) (defaultVal : Int32) : Int32 :=
  let str := argString ws key ""
  if str ≠ "" ∧ (stringToInt str).2 then (stringToInt str).1 else defaultVal

/-- The command line that the process started for a workspace reads. -/
def childCommandLine (exePath : String) (ws : Workspace) (userDataDir : String) (cdpPort : Int) :
    CommandLine :=
  .fromArgv (buildCommandLine exePath ws userDataDir cdpPort).argv

/-- The page to open is no switch. -/
lemma argSwitches_page (args : List String) :
    CommandLine.argSwitches (args ++ ["about:blank"]) = CommandLine.argSwitches args := by
  suffices h : ∀ cmd : CommandLine,
      (cmd.appendSwitchesAndArguments (args ++ ["about:blank"])).switches =
        (cmd.appendSwitchesAndArguments args).switches from h _
  induction args with
  | nil => intro cmd; rfl
  | cons arg args ih =>
    intro cmd
    rw [List.cons_append, CommandLine.appendSwitchesAndArguments,
      CommandLine.appendSwitchesAndArguments]
    split
    · rfl
    · split
      · exact ih _
      · exact ih _

/-- Under a key the process finds what the launch arguments have, or else the switch. -/
lemma childCommandLine_switchValue (exePath : String) (ws : Workspace) (userDataDir : String)
    (cdpPort : Int) (key : String) :
    (childCommandLine exePath ws userDataDir cdpPort).switchValue key =
      ((CommandLine.argSwitches ws.launchArgs).reverse.lookup key).or
        (((buildCommandLine exePath ws userDataDir cdpPort).switchValue key).map
          CommandLine.trimEnd) := by
  obtain ⟨keys, args⟩ := buildCommandLine_eq exePath ws userDataDir cdpPort
  have plain : ∀ k ∈ launchKeys, CommandLine.PlainKey k := by decide
  rw [childCommandLine, CommandLine.fromArgv_switchValue (fun s hs => plain _ (keys s hs)), args,
    argSwitches_page]

/-- Under a key that is not appended the process finds what the launch arguments have. -/
lemma childCommandLine_getSwitch {exePath : String} {ws : Workspace} {userDataDir : String}
    {cdpPort : Int} {key : String} (absent : key ∉ launchKeys) (defaultVal : String) :
    getSwitch (childCommandLine exePath ws userDataDir cdpPort) key defaultVal =
      argString ws key defaultVal := by
  have none_appended : (buildCommandLine exePath ws userDataDir cdpPort).switchValue key = none := by
    rw [CommandLine.switchValue, List.lookup_eq_none_iff]
    intro s hs
    have ne : s.1 ≠ key := by
      rintro rfl
      exact absent ((buildCommandLine_eq exePath ws userDataDir cdpPort).1 s (List.mem_reverse.mp hs))
    simpa using ne.symm
  have value := childCommandLine_switchValue exePath ws userDataDir cdpPort key
  rw [none_appended, Option.map_none, Option.or_none] at value
  unfold getSwitch CommandLine.hasSwitch CommandLine.getSwitchValueASCII argString
  rw [value]
  cases (CommandLine.argSwitches ws.launchArgs).reverse.lookup key <;> rfl

/-- The fingerprint of the process that is started for a workspace. -/
def childSeed (self : PureCloakSeed) (exePath : String) (ws : Workspace) (userDataDir : String)
    (cdpPort : Int) : PureCloakSeed :=
  self.initializeFromCommandLine (childCommandLine exePath ws userDataDir cdpPort)

/-- The fingerprint of a process is that of a workspace, in the seed and in every field that the workspace
sets. -/
structure Reaches (ws : Workspace) (child : PureCloakSeed) : Prop where
  seed : child.seed = ws.fingerprintSeed
  platform : ws.platform ≠ "" → child.platform = ws.platform
  gpuVendor : ws.gpuVendor ≠ "" → child.gpuVendor = ws.gpuVendor
  gpuRenderer : ws.gpuRenderer ≠ "" → child.gpuRenderer = ws.gpuRenderer
  hardwareConcurrency :
    ws.hardwareConcurrency ≠ 0 → child.hardwareConcurrency = ws.hardwareConcurrency
  screenWidth : 0 < ws.screenWidth → child.screenWidth = ws.screenWidth
  screenHeight : 0 < ws.screenHeight → child.screenHeight = ws.screenHeight
  timezone : ws.timezone ≠ "" → child.timezone = ws.timezone
  locale : ws.locale ≠ "" → child.locale = ws.locale

/-- The launch arguments of a workspace carry its fingerprint: each field is what its switch among them
says, or the default of the receiver where it has none. -/
structure ArgsCarry (ws : Workspace) : Prop where
  seed : (if argString ws kFingerprint "" ≠ "" then (stringToInt (argString ws kFingerprint "")).1
    else 0) = ws.fingerprintSeed
  platform : ws.platform ≠ "" → argString ws kFingerprintPlatform "windows" = ws.platform
  gpuVendor : ws.gpuVendor ≠ "" → argString ws kFingerprintGpuVendor "" = ws.gpuVendor
  gpuRenderer : ws.gpuRenderer ≠ "" → argString ws kFingerprintGpuRenderer "" = ws.gpuRenderer
  hardwareConcurrency : ws.hardwareConcurrency ≠ 0 →
    argInt ws kFingerprintHardwareConcurrency
      (defaultHardwareConcurrency (argString ws kFingerprintPlatform "windows")) =
      ws.hardwareConcurrency
  screenWidth : 0 < ws.screenWidth →
    argInt ws kFingerprintScreenWidth
      (defaultScreenWidth (argString ws kFingerprintPlatform "windows")) = ws.screenWidth
  screenHeight : 0 < ws.screenHeight →
    argInt ws kFingerprintScreenHeight
      (defaultScreenHeight (argString ws kFingerprintPlatform "windows")) = ws.screenHeight
  timezone : ws.timezone ≠ "" → argString ws kFingerprintTimezone "" = ws.timezone
  locale : ws.locale ≠ "" → argString ws kFingerprintLocale "" = ws.locale

section
variable (self : PureCloakSeed) (exePath : String) (ws : Workspace) (userDataDir : String)
  (cdpPort : Int)

/-- A number that the launcher does not set comes from the arguments of the workspace. -/
lemma childCommandLine_getIntSwitch {key : String} (absent : key ∉ launchKeys) (defaultVal : Int32) :
    getIntSwitch (childCommandLine exePath ws userDataDir cdpPort) key defaultVal =
      argInt ws key defaultVal := by
  rw [getIntSwitch, argInt, childCommandLine_getSwitch absent]

/-- The seed is read without looking whether the switch is there, which makes no difference. -/
lemma childCommandLine_getSwitchValueASCII {key : String} (absent : key ∉ launchKeys) :
    (childCommandLine exePath ws userDataDir cdpPort).getSwitchValueASCII key =
      argString ws key "" := by
  rw [← childCommandLine_getSwitch absent, getSwitch]
  split
  case isTrue => rfl
  case isFalse h =>
    rw [CommandLine.hasSwitch, Bool.not_eq_true, Option.isSome_eq_false_iff,
      Option.isNone_iff_eq_none] at h
    rw [CommandLine.getSwitchValueASCII, h]
    rfl

/-- The seed is the number of its switch. -/
lemma initializeFromCommandLine_seed (cmd : CommandLine) :
    (self.initializeFromCommandLine cmd).seed =
      if cmd.getSwitchValueASCII kFingerprint ≠ "" then
        (stringToInt (cmd.getSwitchValueASCII kFingerprint)).1
      else 0 := rfl

/-- The seed of the process is the one among the launch arguments, or none. -/
lemma childSeed_seed : (childSeed self exePath ws userDataDir cdpPort).seed =
    if argString ws kFingerprint "" ≠ "" then (stringToInt (argString ws kFingerprint "")).1
    else 0 := by
  rw [childSeed, initializeFromCommandLine_seed,
    childCommandLine_getSwitchValueASCII exePath ws userDataDir cdpPort (by decide)]

/-- The fingerprint of the process is that of the workspace exactly when the launch arguments of the
workspace carry it: `BuildCommandLine` passes none of it. -/
theorem launch_reaches_iff :
    Reaches ws (childSeed self exePath ws userDataDir cdpPort) ↔ ArgsCarry ws := by
  have seed := childSeed_seed self exePath ws userDataDir cdpPort
  have platform : (childSeed self exePath ws userDataDir cdpPort).platform =
      argString ws kFingerprintPlatform "windows" := childCommandLine_getSwitch (by decide) _
  have gpuVendor : (childSeed self exePath ws userDataDir cdpPort).gpuVendor =
      argString ws kFingerprintGpuVendor "" := childCommandLine_getSwitch (by decide) _
  have gpuRenderer : (childSeed self exePath ws userDataDir cdpPort).gpuRenderer =
      argString ws kFingerprintGpuRenderer "" := childCommandLine_getSwitch (by decide) _
  have hardware : (childSeed self exePath ws userDataDir cdpPort).hardwareConcurrency =
      argInt ws kFingerprintHardwareConcurrency
        (defaultHardwareConcurrency (argString ws kFingerprintPlatform "windows")) := by
    rw [← platform]
    exact childCommandLine_getIntSwitch exePath ws userDataDir cdpPort (by decide) _
  have width : (childSeed self exePath ws userDataDir cdpPort).screenWidth =
      argInt ws kFingerprintScreenWidth
        (defaultScreenWidth (argString ws kFingerprintPlatform "windows")) := by
    rw [← platform]
    exact childCommandLine_getIntSwitch exePath ws userDataDir cdpPort (by decide) _
  have height : (childSeed self exePath ws userDataDir cdpPort).screenHeight =
      argInt ws kFingerprintScreenHeight
        (defaultScreenHeight (argString ws kFingerprintPlatform "windows")) := by
    rw [← platform]
    exact childCommandLine_getIntSwitch exePath ws userDataDir cdpPort (by decide) _
  have timezone : (childSeed self exePath ws userDataDir cdpPort).timezone =
      argString ws kFingerprintTimezone "" := childCommandLine_getSwitch (by decide) _
  have locale : (childSeed self exePath ws userDataDir cdpPort).locale =
      argString ws kFingerprintLocale "" := childCommandLine_getSwitch (by decide) _
  refine ⟨fun h => ?_, fun h => ?_⟩
  · exact ⟨seed ▸ h.seed, fun c => platform ▸ h.platform c, fun c => gpuVendor ▸ h.gpuVendor c,
      fun c => gpuRenderer ▸ h.gpuRenderer c, fun c => hardware ▸ h.hardwareConcurrency c,
      fun c => width ▸ h.screenWidth c, fun c => height ▸ h.screenHeight c,
      fun c => timezone ▸ h.timezone c, fun c => locale ▸ h.locale c⟩
  · exact ⟨seed.trans h.seed, fun c => platform.trans (h.platform c),
      fun c => gpuVendor.trans (h.gpuVendor c), fun c => gpuRenderer.trans (h.gpuRenderer c),
      fun c => hardware.trans (h.hardwareConcurrency c), fun c => width.trans (h.screenWidth c),
      fun c => height.trans (h.screenHeight c), fun c => timezone.trans (h.timezone c),
      fun c => locale.trans (h.locale c)⟩

/-- Where the launch arguments have no seed, the process has none either. -/
theorem childSeed_seed_of_bare
    (h : (CommandLine.argSwitches ws.launchArgs).reverse.lookup kFingerprint = none) :
    (childSeed self exePath ws userDataDir cdpPort).seed = 0 := by
  rw [childSeed_seed, argString, h]
  rfl

end

/-- A workspace with a seed and nothing else. -/
theorem launch_reaches_fails :
    ¬ ∀ (self : PureCloakSeed) (exePath : String) (ws : Workspace) (userDataDir : String)
      (cdpPort : Int), Reaches ws (childSeed self exePath ws userDataDir cdpPort) := by
  intro h
  exact absurd (h {} "purecloak" { fingerprintSeed := 12345 } "/tmp/w" 9333).seed (by decide)

end PureCloak.Launcher
