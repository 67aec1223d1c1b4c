import PureCloak.Launcher.CommandLine

/-!
# The switches that isolate a workspace

The user data directory, the debugging port, the proxy and the WebRTC policy of a workspace are switches of its
process. `BuildCommandLine` appends the launch arguments of the workspace behind them, where the process reads them as
switches too, and of several switches with one key the last one counts. `switches_kept_iff` says for which workspaces
the process finds the values that the manager has set.
-/

namespace PureCloak.Launcher
open PureCloak.Base PureCloak.Profiles

/-- The switches that a process needs to have as the manager sets them. -/
def isolationKeys : List String :=
  ["user-data-dir", "remote-debugging-port", "proxy-server", "force-webrtc-ip-handling-policy"]

/-- The process that is started for a workspace finds the isolation switches as the manager has set them. -/
def SwitchesKept (exePath : String) (ws : Workspace) (userDataDir : String) (cdpPort : Int) : Prop :=
  ∀ key ∈ isolationKeys, (childCommandLine exePath ws userDataDir cdpPort).switchValue key =
    (buildCommandLine exePath ws userDataDir cdpPort).switchValue key

/-- The launch arguments of a workspace leave a switch as it is: the last one with its key among them has the same
value, or there is none and no blank ends the value, which would be trimmed. -/
def ArgsLeave (ws : Workspace) (key : String) (value : Option String) : Prop :=
  match (CommandLine.argSwitches ws.launchArgs).reverse.lookup key with
  | some arg => value = some arg
  | none => ∀ v ∈ value, CommandLine.trimEnd v = v

/-! ## What the manager sets -/

/-- A switch that is appended has its value. -/
lemma switchValue_append (cmd : CommandLine) (key value k : String) :
    (cmd.appendSwitchASCII key value).switchValue k =
      if k = key then some value else cmd.switchValue k := by
  rw [CommandLine.switchValue, CommandLine.appendSwitchASCII, List.reverse_append]
  show List.lookup k ((key, value) :: cmd.switches.reverse) = _
  rw [List.lookup_cons]
  split
  case h_1 e => rw [if_pos (eq_of_beq e), Option.some.injEq]
  case h_2 ne => rw [if_neg (by simpa using ne), CommandLine.switchValue]

/-- Appending another switch makes no difference. -/
lemma switchValue_append_ne {key k : String} (ne : k ≠ key) (cmd : CommandLine) (value : String) :
    (cmd.appendSwitchASCII key value).switchValue k = cmd.switchValue k := by
  rw [switchValue_append, if_neg ne]

/-- Another switch keeps its value. -/
lemma switchValue_append_if {key k : String} (ne : k ≠ key) (c : Prop) [Decidable c]
    (cmd : CommandLine) (value : String) :
    (if c then cmd.appendSwitchASCII key value else cmd).switchValue k = cmd.switchValue k := by
  split
  · exact switchValue_append_ne ne cmd value
  · rfl

section
variable (exePath : String) (ws : Workspace) (userDataDir : String) (cdpPort : Int)

/-- The values of the isolation switches. -/
lemma buildCommandLine_switchValue :
    (buildCommandLine exePath ws userDataDir cdpPort).switchValue "user-data-dir" = some userDataDir ∧
    (buildCommandLine exePath ws userDataDir cdpPort).switchValue "remote-debugging-port" =
      some (numberToString cdpPort) ∧
    (buildCommandLine exePath ws userDataDir cdpPort).switchValue "proxy-server" =
      (if ws.proxy ≠ "" then some ws.proxy else none) ∧
    (buildCommandLine exePath ws userDataDir cdpPort).switchValue "force-webrtc-ip-handling-policy" =
      some "disable_non_proxied_udp" := by
  -- arguments are no switches
  have no_switch (cmd : CommandLine) (args : List String) (key : String) :
      ({ cmd with args := cmd.args ++ args }.appendArg "about:blank").switchValue key =
        cmd.switchValue key := rfl
  have none_set (key : String) : ({ program := exePath } : CommandLine).switchValue key = none := rfl
  simp only [buildCommandLine, foldl_appendArg, no_switch]
  refine ⟨?_, ?_, ?_, ?_⟩
  · simp (disch := decide) only [switchValue_append_ne, switchValue_append_if, CommandLine.appendSwitch]
    rw [switchValue_append, if_pos rfl]
  · simp (disch := decide) only [switchValue_append_ne, switchValue_append_if, CommandLine.appendSwitch]
    rw [switchValue_append, if_pos rfl]
  · simp (disch := decide) only [switchValue_append_ne, switchValue_append_if]
    split
    · rw [switchValue_append, if_pos rfl]
    · simp (disch := decide) only [switchValue_append_ne, switchValue_append_if,
        CommandLine.appendSwitch, none_set]
  · rw [switchValue_append, if_pos rfl]

/-! ## What the process finds -/

/-- A switch arrives as it was set exactly when the launch arguments leave it as it is. -/
lemma switchValue_kept_iff (key : String) :
    (childCommandLine exePath ws userDataDir cdpPort).switchValue key =
        (buildCommandLine exePath ws userDataDir cdpPort).switchValue key ↔
      ArgsLeave ws key ((buildCommandLine exePath ws userDataDir cdpPort).switchValue key) := by
  rw [childCommandLine_switchValue, ArgsLeave]
  generalize (buildCommandLine exePath ws userDataDir cdpPort).switchValue key = set
  cases (CommandLine.argSwitches ws.launchArgs).reverse.lookup key with
  | some arg => exact eq_comm
  | none =>
    cases set with
    | none => simp
    | some v => simp

/-- The isolation switches arrive as they were set exactly when the launch arguments of the workspace leave each
of them as it is. -/
theorem switches_kept_iff :
    SwitchesKept exePath ws userDataDir cdpPort ↔
      ArgsLeave ws "user-data-dir" (some userDataDir) ∧
      ArgsLeave ws "remote-debugging-port" (some (numberToString cdpPort)) ∧
      ArgsLeave ws "proxy-server" (if ws.proxy ≠ "" then some ws.proxy else none) ∧
      ArgsLeave ws "force-webrtc-ip-handling-policy" (some "disable_non_proxied_udp") := by
  obtain ⟨dir, port, proxy, policy⟩ := buildCommandLine_switchValue exePath ws userDataDir cdpPort
  rw [← dir, ← port, ← proxy, ← policy]
  simp only [← switchValue_kept_iff]
  simp only [SwitchesKept, isolationKeys, List.forall_mem_cons, List.not_mem_nil, false_imp_iff,
    implies_true, and_true]

end

/-- A launch argument gives the process another user data directory. -/
theorem switches_kept_fails :
    ¬ ∀ exePath ws userDataDir cdpPort, SwitchesKept exePath ws userDataDir cdpPort := by
  intro h
  have dir := h "purecloak" { launchArgs := ["--user-data-dir=/x"] } "/tmp/w" 9333 "user-data-dir"
    (by decide)
  have leaves := (switchValue_kept_iff _ _ _ _ _).mp dir
  rw [(buildCommandLine_switchValue _ _ _ _).1] at leaves
  -- the argument has the key of the switch
  have same : some "/tmp/w" = some "/x" := leaves
  exact absurd same (by decide)

end PureCloak.Launcher
