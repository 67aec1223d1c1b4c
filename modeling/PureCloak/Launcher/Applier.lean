import PureCloak.Base.Value
import PureCloak.Profiles.Workspace

/-!
# The profile applier

`WorkspaceProfileApplier`: it polls the CDP endpoint of a launched workspace, sends the commands of the
workspace when the endpoint is there, and starts over when the connection is lost. A method gives the
applier after it and what it does to the outside, in order, as `ApplierEffect`: tasks that it posts
to the thread pool, sockets that it closes and runs of its callback. The command texts are kept as the
dictionaries they are written from.
-/

namespace PureCloak.Launcher
open PureCloak.Base PureCloak.Profiles

/-- `WorkspaceProfileApplier`. -/
structure Applier where
  cdpPort : Int := 0
  pollTimer : Bool := false
  healthTimer : Bool := false
  pollRetriesLeft : Int := 0
  commandsStarted : Bool := false
  pendingCommandJsons : List DictValue := []
  pendingCallback : Bool := false
  cdpSocket : Int := -1
  savedCommandJsons : List DictValue := []

/-- What a method of the applier does to the outside. -/
inductive ApplierEffect where
  /-- `CDPWebSocketClient::IsCDPAvailable` is posted, with `OnCDPCheckResult` as the reply. -/
  | isCDPAvailable (port : Int)
  /-- `CDPWebSocketClient::SendCommands` is posted, with `OnCommandsSent` as the reply. -/
  | sendCommands (port : Int) (commands : List DictValue)
  | close (fd : Int)
  | runCallback (success : Bool)
  /-- The callback is run when it has been moved away, which ends the browser. -/
  | runNullCallback

/-- `"Page.enable"`, which goes before the other commands. -/
def pageEnable : DictValue :=
  DictValue.ofFields [("id", some (.integer 0)), ("method", some (.string "Page.enable")),
    ("params", some (.dict []))]

/-- The commands of `GenerateCommandBatch` with their ids, from 1 on. -/
def commandBatch (generate : Workspace → List DictValue) (workspaces : List Workspace) :
    List DictValue :=
  (workspaces.flatMap generate).mapIdx fun i command =>
    DictValue.set command "id" (.integer (Int32.ofNat (i + 1)))

namespace Applier

/-- Running `pending_callback_`. -/
def runPendingCallback (a : Applier) (success : Bool) : Applier × List ApplierEffect :=
  if a.pendingCallback then ({ a with pendingCallback := false }, [.runCallback success])
  else (a, [.runNullCallback])

/-- `Apply` on a running workspace with a CDP port; `generate` is `GenerateCDPCommands`. -/
def apply (a : Applier) (generate : Workspace → List DictValue) (cdpPort : Int)
    (workspaces : List Workspace) : Applier × List ApplierEffect :=
  if workspaces.isEmpty then (a, [.runCallback true])
  else
    let a := { a with
      pendingCommandJsons := pageEnable :: (a.pendingCommandJsons ++ commandBatch generate workspaces) }
    ({ a with
      cdpPort := cdpPort
      pendingCallback := true
      pollRetriesLeft := 30
      pollTimer := true }, [])

/-- `OnPollTick`. -/
def onPollTick (a : Applier) : Applier × List ApplierEffect :=
  (a, [.isCDPAvailable a.cdpPort])

/-- `OnCDPCheckResult`. -/
def onCDPCheckResult (a : Applier) (available : Bool) : Applier × List ApplierEffect :=
  if a.commandsStarted then (a, [])
  else if available then
    let a := { a with commandsStarted := true, pollTimer := false }
    let a := { a with savedCommandJsons := a.pendingCommandJsons }
    ({ a with pendingCommandJsons := [] }, [.sendCommands a.cdpPort a.pendingCommandJsons])
  else
    let a := { a with pollRetriesLeft := a.pollRetriesLeft - 1 }
    if a.pollRetriesLeft ≤ 0 then
      let a := { a with commandsStarted := true, pollTimer := false }
      a.runPendingCallback false
    else (a, [])

/-- `OnCommandsSent`. -/
def onCommandsSent (a : Applier) (fd : Int) : Applier × List ApplierEffect :=
  let a := if fd ≥ 0 then { a with cdpSocket := fd, healthTimer := true } else a
  a.runPendingCallback (fd ≥ 0)

/-- Closing the socket, if there is one. -/
def closeSocket (a : Applier) : Applier × List ApplierEffect :=
  if a.cdpSocket ≥ 0 then ({ a with cdpSocket := -1 }, [.close a.cdpSocket]) else (a, [])

/-- `ReconnectCDP`. -/
def reconnectCDP (a : Applier) : Applier × List ApplierEffect :=
  let a := { a with healthTimer := false }
  let (a, effects) := a.closeSocket
  ({ a with
    pendingCommandJsons := a.savedCommandJsons
    commandsStarted := false
    pollRetriesLeft := 60
    pollTimer := true }, effects)

/-- `OnHealthCheck`; `hungUp` tells whether `poll` fails or reports a hang-up. -/
def onHealthCheck (a : Applier) (hungUp : Bool) : Applier × List ApplierEffect :=
  if a.cdpSocket < 0 then ({ a with healthTimer := false }, [])
  else if hungUp then a.reconnectCDP
  else (a, [])

/-- The destructor. -/
def destroy (a : Applier) : List ApplierEffect :=
  a.closeSocket.2

/-- What a check of the endpoint does when it comes back: it is ignored, it starts `SendCommands`, it is the last
one, or there are more to come. -/
lemma onCDPCheckResult_cases (a : Applier) (available : Bool) :
    (a.commandsStarted = true ∧ a.onCDPCheckResult available = (a, [])) ∨
    (a.commandsStarted = false ∧ available = true ∧ a.onCDPCheckResult available =
      ({ a with
        commandsStarted := true
        pollTimer := false
        savedCommandJsons := a.pendingCommandJsons
        pendingCommandJsons := [] }, [.sendCommands a.cdpPort a.pendingCommandJsons])) ∨
    (a.commandsStarted = false ∧ available = false ∧ a.pollRetriesLeft ≤ 1 ∧ a.onCDPCheckResult available =
      { a with
        pollRetriesLeft := a.pollRetriesLeft - 1
        commandsStarted := true
        pollTimer := false }.runPendingCallback false) ∨
    (a.commandsStarted = false ∧ available = false ∧ 1 < a.pollRetriesLeft ∧ a.onCDPCheckResult available =
      ({ a with pollRetriesLeft := a.pollRetriesLeft - 1 }, [])) := by
  unfold onCDPCheckResult
  cases started : a.commandsStarted with
  | true => exact .inl ⟨rfl, if_pos rfl⟩
  | false =>
    rw [if_neg Bool.false_ne_true]
    cases available with
    | true => exact .inr (.inl ⟨rfl, rfl, if_pos rfl⟩)
    | false =>
      rw [if_neg Bool.false_ne_true]
      by_cases last : a.pollRetriesLeft - 1 ≤ 0
      · exact .inr (.inr (.inl ⟨rfl, rfl, by omega, if_pos last⟩))
      · refine .inr (.inr (.inr ⟨rfl, rfl, by omega, ?_⟩))
        rw [← started]
        exact if_neg last

end Applier

end PureCloak.Launcher
