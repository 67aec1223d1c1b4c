import PureCloak.Base.FilePath
import PureCloak.Launcher.Applier
import PureCloak.Launcher.CommandLine
import PureCloak.Library.KeyedMap
import PureCloak.Library.Machine

/-!
# The launcher and its surroundings

`RunningWorkspaceManager`, the watchdog and the appliers on the UI sequence, together with what they work
on: the tasks that they have posted to the thread pool, which runs them in any order, the replies that
have been posted back, which arrive in any order, the processes that were launched, and the ports
that are taken. `World.step` is one step of all of them. What is decided outside is in the event: the result of a task,
whether a launch succeeds, when a timer fires, when a process listens or exits.

Observers are left out; they are told of what was done. A process keeps its number here when it is
dead, and `workspaceId` is the workspace it was launched for, which only the statements read.
-/

namespace PureCloak.Launcher
open PureCloak.Base PureCloak.Common PureCloak.Profiles

def kMinCdpPort : Int := 9333
def kMaxCdpPort : Int := 9352
def kMaxConcurrentWorkspaces : Nat := 10

/-- `RunningWorkspace::Status`. -/
inductive Status where
  | kStarting
  | kRunning
  | kStopped
  | kCrashed
deriving DecidableEq

/-- The workspace is being started or runs. -/
def Status.running (s : Status) : Bool :=
  s = .kRunning || s = .kStarting

/-- The number of a process. -/
abbrev Pid := Nat

/-- `RunningWorkspace`; `process` is `none` when it is not valid. -/
structure RunningWorkspace where
  workspaceId : String
  type : WorkspaceType
  process : Option Pid
  userDataDir : String
  cdpPort : Int
  cdpUrl : String
  status : Status
  launchedAt : Time
deriving DecidableEq

/-- A launched process. -/
structure Process where
  workspaceId : String
  argv : List String
  alive : Bool := true
  terminateRequested : Bool := false
  listening : Bool := false
deriving DecidableEq

/-- A task on the thread pool. The tasks of an applier carry the id of its workspace and the number that
tells it from later appliers of that workspace. -/
inductive PoolTask where
  | prepareUserDataDir (ws : Workspace) (userDataDir : String) (cdpPort : Int)
  | deletePathRecursively (dir : String)
  | isCDPAvailable (workspaceId : String) (applier : Nat) (port : Int)
  | sendCommands (workspaceId : String) (applier : Nat) (port : Int) (commands : List DictValue)

/-- A reply posted to the UI sequence. -/
inductive Reply where
  | continueStart (ws : Workspace) (userDataDir : String) (cdpPort : Int)
  | onCDPCheckResult (workspaceId : String) (applier : Nat) (available : Bool)
  | onCommandsSent (workspaceId : String) (applier : Nat) (fd : Int)

/-- What a caller of `Start` is told. -/
inductive StartAnswer where
  | running (ws : RunningWorkspace)
  | error (text : String)

/-- What the manager reads from the system, and the command generator. -/
structure Env where
  /-- `DIR_TEMP`. -/
  tempDir : Option String
  /-- `FILE_EXE`. -/
  exePath : Option String
  generateCDPCommands : Workspace → List DictValue

/-- No paths and no commands. -/
def bareEnv : Env where
  tempDir := none
  exePath := none
  generateCDPCommands _ := []

/-- The manager, its watchdog and appliers, and their surroundings. -/
structure World where
  workspaces : Std.ExtTreeMap String RunningWorkspace := ∅
  appliers : Std.ExtTreeMap String (Nat × Applier) := ∅
  watched : Std.ExtTreeMap String Bool := ∅
  watchdogTimer : Bool := false
  /-- The processes that were launched, by their numbers. -/
  processes : List Process := []
  pool : List PoolTask := []
  replies : List Reply := []
  /-- The ports of the range that other programs have bound. -/
  foreignPorts : List Int := []
  /-- What the callers of `Start` have been told. -/
  answers : List StartAnswer := []
  /-- The sockets that were closed. -/
  closed : List Int := []
  /-- The number of the next applier. -/
  nextApplier : Nat := 0
  /-- A callback was run after it had been moved away. -/
  crashed : Bool := false

/-! ## Processes and ports -/

/-- The port that a process is told to listen on. -/
def Process.debugPort (p : Process) : Int :=
  (stringToInt ((CommandLine.fromArgv p.argv).getSwitchValueASCII "remote-debugging-port")).1.toInt

/-- The process listens on a port. -/
def Process.listensOn (p : Process) (port : Int) : Bool :=
  p.alive && p.listening && p.debugPort == port

/-- The process runs and has not been asked to terminate. -/
def Process.live (p : Process) : Bool :=
  p.alive && !p.terminateRequested

/-- A socket can be bound to the port. -/
def portFree (processes : List Process) (foreignPorts : List Int) (port : Int) : Bool :=
  !foreignPorts.contains port && !processes.any (·.listensOn port)

/-- The ports that `FindAvailablePort` tries. -/
def cdpPorts : List Int :=
  (List.range (kMaxCdpPort - kMinCdpPort + 1).toNat).map (kMinCdpPort + ·)

/-- `FindAvailablePort`. -/
def findAvailablePort (w : World) : Int :=
  (cdpPorts.find? (portFree w.processes w.foreignPorts)).getD 0

/-- `Process::Terminate` on a valid process. -/
def terminate (processes : List Process) (process : Option Pid) : List Process :=
  match process with
  | none => processes
  | some pid => processes.modify pid fun p => { p with terminateRequested := true }

/-! ## The manager -/

namespace World
variable (env : Env)

/-- `GetWorkspaceBaseDir`. -/
def workspaceBaseDir : String :=
  appendPath (env.tempDir.getD "/tmp") "purecloak"

/-- `GetChromeExecutablePath`. -/
def chromeExecutablePath : String :=
  env.exePath.getD "purecloak"

/-- The user data directory of a workspace. -/
def userDataDir (id : String) : String :=
  appendPath (workspaceBaseDir env) ("ws_" ++ id)

/-- A caller of `Start` is answered. -/
def answer (w : World) (a : StartAnswer) : World :=
  { w with answers := w.answers ++ [a] }

/-- What an applier of a workspace does to the outside. -/
def runEffect (id : String) (applier : Nat) (w : World) : ApplierEffect → World
  | .isCDPAvailable port => { w with pool := w.pool ++ [.isCDPAvailable id applier port] }
  | .sendCommands port commands =>
    { w with pool := w.pool ++ [.sendCommands id applier port commands] }
  | .close fd => { w with closed := w.closed ++ [fd] }
  -- the callback of the manager writes to the log
  | .runCallback _ => w
  | .runNullCallback => { w with crashed := true }

/-- An applier after a method, and what the method did. -/
def updateApplier (w : World) (id : String) (applier : Nat) (r : Applier × List ApplierEffect) :
    World :=
  r.2.foldl (runEffect id applier)
    { w with appliers := w.appliers.insert id (applier, r.1) }

/-- The appliers that are destroyed close their sockets. -/
def destroyApplier (w : World) (id : String) (a : Nat × Applier) : World :=
  a.2.destroy.foldl (runEffect id a.1) w

/-- The entry of a workspace that counts as running in `Start`. -/
def activeEntry (w : World) (id : String) : Option RunningWorkspace :=
  w.workspaces[id]?.filter fun r => r.status ≠ .kStopped ∧ r.status ≠ .kCrashed

/-- `Start`. -/
def start (w : World) (ws : Workspace) : World :=
  match w.activeEntry ws.id with
  | some r => w.answer (.running r)
  | none =>
    if w.workspaces.size ≥ kMaxConcurrentWorkspaces then
      w.answer (.error "Maximum concurrent workspaces reached")
    else
      let cdpPort := findAvailablePort w
      if cdpPort = 0 then w.answer (.error "No available CDP port")
      else { w with pool := w.pool ++ [.prepareUserDataDir ws (userDataDir env ws.id) cdpPort] }

/-- The entry that `ContinueStart` makes for a process. -/
def newEntry (ws : Workspace) (userDataDir : String) (cdpPort : Int) (pid : Pid) (now : Time) :
    RunningWorkspace where
  workspaceId := ws.id
  type := ws.type
  process := some pid
  userDataDir := userDataDir
  cdpPort := cdpPort
  cdpUrl := "http://127.0.0.1:" ++ numberToString cdpPort
  status := .kRunning
  launchedAt := now

/-- The process that `ContinueStart` launches. -/
def newProcess (ws : Workspace) (userDataDir : String) (cdpPort : Int) : Process where
  workspaceId := ws.id
  argv := (buildCommandLine (chromeExecutablePath env) ws userDataDir cdpPort).argv

/-- `ContinueStart`, with a launch that succeeds or not. -/
def continueStart (w : World) (ws : Workspace) (userDataDir : String) (cdpPort : Int)
    (launches : Bool) (now : Time) : World :=
  if !launches then w.answer (.error "Failed to launch subprocess")
  else
    let entry := newEntry ws userDataDir cdpPort w.processes.length now
    let applier := (({} : Applier).apply env.generateCDPCommands cdpPort [ws]).1
    let old := w.appliers[ws.id]?
    let w := { w with
      processes := w.processes ++ [newProcess env ws userDataDir cdpPort]
      workspaces := w.workspaces.insert ws.id entry
      -- the watchdog starts watching
      watched := w.watched.insert ws.id true
      watchdogTimer := true
      appliers := w.appliers.insert ws.id (w.nextApplier, applier)
      nextApplier := w.nextApplier + 1 }
    -- the applier that was there is destroyed
    let w := old.elim w (w.destroyApplier ws.id)
    w.answer (.running entry)

/-- `WorkspaceLauncherWatchdog::StopWatching`. -/
def stopWatching (w : World) (id : String) : World :=
  let watched := w.watched.erase id
  { w with watched := watched, watchdogTimer := if watched.isEmpty then false else w.watchdogTimer }

/-- The deletion of a user data directory is posted, if it has one. -/
def postDelete (w : World) (dir : String) : World :=
  if dir ≠ "" then { w with pool := w.pool ++ [.deletePathRecursively dir] } else w

/-- `Stop`. -/
def stop (w : World) (id : String) : World :=
  match w.workspaces[id]? with
  | none => w
  | some r =>
    let w := w.stopWatching id
    let w := { w with processes := terminate w.processes r.process }
    let w := w.postDelete r.userDataDir
    let w := w.appliers[id]?.elim w (w.destroyApplier id)
    { w with appliers := w.appliers.erase id, workspaces := w.workspaces.erase id }

/-- One round of the loop of `StopAll`. -/
def stopEntry (w : World) (r : RunningWorkspace) : World :=
  { w with processes := terminate w.processes r.process }.postDelete r.userDataDir

/-- `StopAll`. -/
def stopAll (w : World) : World :=
  let w := { w with watched := ∅, watchdogTimer := false }
  let w := (w.workspaces.toList.map Prod.snd).foldl stopEntry w
  let w := w.appliers.toList.foldl (fun w a => w.destroyApplier a.1 a.2) w
  { w with appliers := ∅, workspaces := ∅ }

/-- `IsRunning`. -/
def isRunning (w : World) (id : String) : Bool :=
  match w.workspaces[id]? with
  | none => false
  | some r => r.status.running

/-- `RunningCount`. -/
def runningCount (w : World) : Nat :=
  w.workspaces.toList.countP fun p => p.2.status.running

/-- The change of the entry in `NotifyStatusChanged`. -/
def notifyStatusChanged (w : World) (id : String) (status : Status) : World :=
  match w.workspaces[id]? with
  | none => w
  | some r => { w with workspaces := w.workspaces.insert id { r with status := status } }

/-- `WorkspaceLauncherWatchdog::CheckProcess`. -/
def checkProcess (w : World) (id : String) : World :=
  match w.workspaces[id]? with
  | none => w.stopWatching id
  | some r =>
    match r.process.bind (w.processes[·]?) with
    -- not valid
    | none => (w.stopWatching id).notifyStatusChanged id .kCrashed
    | some p =>
      if p.alive then w
      else if r.status = .kStopped then w.stopWatching id
      else (w.stopWatching id).notifyStatusChanged id .kCrashed

/-- `WorkspaceLauncherWatchdog::OnPoll`. -/
def onPoll (w : World) : World :=
  (w.watched.toList.filter Prod.snd).foldl (fun w p => w.checkProcess p.1) w

/-! ## Steps -/

/-- The result of a task on the thread pool. -/
inductive TaskResult where
  | done
  | available (b : Bool)
  | fd (n : Int)

/-- A step of the world. -/
inductive Event where
  | start (ws : Workspace)
  | stop (id : String)
  | stopAll
  | watchdogPoll
  | pollTick (id : String)
  | healthCheck (id : String) (hungUp : Bool)
  /-- The thread pool runs one of its tasks. -/
  | runTask (i : Nat) (result : TaskResult)
  /-- One of the replies arrives; `launches` and `now` are for `ContinueStart`. -/
  | arrive (i : Nat) (launches : Bool) (now : Time)
  | processListens (pid : Pid)
  | processExits (pid : Pid)
  | bindPort (port : Int)
  | releasePort (port : Int)

/-- The reply to a task, if it has one. -/
def taskReply : PoolTask → TaskResult → Option (Option Reply)
  | .prepareUserDataDir ws dir port, .done => some (some (.continueStart ws dir port))
  | .deletePathRecursively _, .done => some none
  | .isCDPAvailable id applier _, .available b => some (some (.onCDPCheckResult id applier b))
  | .sendCommands id applier _ _, .fd n => some (some (.onCommandsSent id applier n))
  | _, _ => none

/-- The applier that a weak pointer of a reply still refers to. -/
def weakApplier (w : World) (id : String) (applier : Nat) : Option Applier :=
  (w.appliers[id]?.filter fun a => a.1 = applier).map Prod.snd

/-- A reply arrives. -/
def arrived (w : World) (launches : Bool) (now : Time) : Reply → World
  | .continueStart ws dir port => continueStart env w ws dir port launches now
  | .onCDPCheckResult id applier b =>
    (w.weakApplier id applier).elim w fun a => w.updateApplier id applier (a.onCDPCheckResult b)
  | .onCommandsSent id applier fd =>
    (w.weakApplier id applier).elim w fun a => w.updateApplier id applier (a.onCommandsSent fd)

/-- One step of the world; after a crash there is none. -/
def step (w : World) (e : Event) : Option World :=
  if w.crashed then none
  else
    match e with
    | .start ws => some (start env w ws)
    | .stop id => some (w.stop id)
    | .stopAll => some w.stopAll
    | .watchdogPoll => if w.watchdogTimer then some w.onPoll else none
    | .pollTick id => do
      let (n, a) ← w.appliers[id]?
      if a.pollTimer then some (w.updateApplier id n a.onPollTick) else none
    | .healthCheck id hungUp => do
      let (n, a) ← w.appliers[id]?
      if a.healthTimer then some (w.updateApplier id n (a.onHealthCheck hungUp)) else none
    | .runTask i result => do
      let reply ← taskReply (← w.pool[i]?) result
      some { w with pool := w.pool.eraseIdx i, replies := w.replies ++ reply.toList }
    | .arrive i launches now => do
      let reply ← w.replies[i]?
      some (arrived env { w with replies := w.replies.eraseIdx i } launches now reply)
    | .processListens pid => do
      let p ← w.processes[pid]?
      if p.alive && portFree w.processes w.foreignPorts p.debugPort then
        some { w with processes := w.processes.modify pid fun p => { p with listening := true } }
      else none
    | .processExits pid =>
      some { w with processes := w.processes.modify pid fun p => { p with alive := false } }
    | .bindPort port =>
      if portFree w.processes w.foreignPorts port then
        some { w with foreignPorts := port :: w.foreignPorts }
      else none
    | .releasePort port => some { w with foreignPorts := w.foreignPorts.filter (· ≠ port) }

/-! ## What a step does -/

/-- The steps by their kinds. A reply to an applier either finds it or is dropped. -/
inductive Does (w : World) : Event → World → Prop where
  | start (ws : Workspace) : Does w (.start ws) (start env w ws)
  | stop (id : String) : Does w (.stop id) (w.stop id)
  | stopAll : Does w .stopAll w.stopAll
  | watchdogPoll : Does w .watchdogPoll w.onPoll
  | pollTick {id n a} :
    w.appliers[id]? = some (n, a) →
    a.pollTimer →
    Does w (.pollTick id) (w.updateApplier id n a.onPollTick)
  | healthCheck {id n a} (hungUp : Bool) :
    w.appliers[id]? = some (n, a) →
    a.healthTimer →
    Does w (.healthCheck id hungUp) (w.updateApplier id n (a.onHealthCheck hungUp))
  | runTask {i t result reply} :
    w.pool[i]? = some t →
    taskReply t result = some reply →
    Does w (.runTask i result)
      { w with pool := w.pool.eraseIdx i, replies := w.replies ++ reply.toList }
  | continueStart {i ws dir port} (launches : Bool) (now : Time) :
    w.replies[i]? = some (.continueStart ws dir port) →
    Does w (.arrive i launches now)
      (continueStart env { w with replies := w.replies.eraseIdx i } ws dir port launches now)
  | dropped {i reply} (launches : Bool) (now : Time) :
    w.replies[i]? = some reply →
    (∀ ws dir port, reply ≠ .continueStart ws dir port) →
    Does w (.arrive i launches now) { w with replies := w.replies.eraseIdx i }
  | onCDPCheckResult {i id n a b} (launches : Bool) (now : Time) :
    w.replies[i]? = some (.onCDPCheckResult id n b) →
    w.appliers[id]? = some (n, a) →
    Does w (.arrive i launches now)
      (updateApplier { w with replies := w.replies.eraseIdx i } id n (a.onCDPCheckResult b))
  | onCommandsSent {i id n a fd} (launches : Bool) (now : Time) :
    w.replies[i]? = some (.onCommandsSent id n fd) →
    w.appliers[id]? = some (n, a) →
    Does w (.arrive i launches now)
      (updateApplier { w with replies := w.replies.eraseIdx i } id n (a.onCommandsSent fd))
  | processListens {pid p} :
    w.processes[pid]? = some p →
    p.alive →
    portFree w.processes w.foreignPorts p.debugPort →
    Does w (.processListens pid)
      { w with processes := w.processes.modify pid fun p => { p with listening := true } }
  | processExits (pid : Pid) :
    Does w (.processExits pid)
      { w with processes := w.processes.modify pid fun p => { p with alive := false } }
  | bindPort (port : Int) : Does w (.bindPort port) { w with foreignPorts := port :: w.foreignPorts }
  | releasePort (port : Int) :
    Does w (.releasePort port) { w with foreignPorts := w.foreignPorts.filter (· ≠ port) }

/-- The applier that a weak pointer points to. -/
lemma weakApplier_eq_some {w : World} {id : String} {n : Nat} {a : Applier} :
    w.weakApplier id n = some a ↔ w.appliers[id]? = some (n, a) := by
  simp [weakApplier, Option.filter_eq_some_iff]

variable {env}

/-- A reply that arrives is handled. -/
lemma does_arrive {w : World} {i : Nat} {reply : Reply} (h : w.replies[i]? = some reply)
    (launches : Bool) (now : Time) :
    Does env w (.arrive i launches now)
      (arrived env { w with replies := w.replies.eraseIdx i } launches now reply) := by
  cases reply with
  | continueStart ws dir port => exact .continueStart launches now h
  | onCDPCheckResult id n b =>
    rw [arrived]
    cases ha : weakApplier { w with replies := w.replies.eraseIdx i } id n with
    | none => exact .dropped launches now h (by simp)
    | some a =>
      have ha := weakApplier_eq_some.mp ha
      exact .onCDPCheckResult launches now h ha
  | onCommandsSent id n fd =>
    rw [arrived]
    cases ha : weakApplier { w with replies := w.replies.eraseIdx i } id n with
    | none => exact .dropped launches now h (by simp)
    | some a =>
      have ha := weakApplier_eq_some.mp ha
      exact .onCommandsSent launches now h ha

/-- Every step is one of the steps that `Does` lists. -/
lemma does_of_step {w w' : World} {e : Event} (st : step env w e = some w') : Does env w e w' := by
  have st := (Option.ite_none_left_eq_some.mp st).2
  cases e with
  | start ws =>
    cases st
    exact .start ws
  | stop id =>
    cases st
    exact .stop id
  | stopAll =>
    cases st
    exact .stopAll
  | watchdogPoll =>
    obtain ⟨_, st⟩ := Option.ite_none_right_eq_some.mp st
    cases st
    exact .watchdogPoll
  | pollTick id =>
    obtain ⟨⟨n, a⟩, ha, st⟩ := Option.bind_eq_some_iff.mp st
    obtain ⟨timer, st⟩ := Option.ite_none_right_eq_some.mp st
    cases st
    exact .pollTick ha timer
  | healthCheck id hungUp =>
    obtain ⟨⟨n, a⟩, ha, st⟩ := Option.bind_eq_some_iff.mp st
    obtain ⟨timer, st⟩ := Option.ite_none_right_eq_some.mp st
    cases st
    exact .healthCheck hungUp ha timer
  | runTask i result =>
    obtain ⟨t, ht, st⟩ := Option.bind_eq_some_iff.mp st
    obtain ⟨reply, hr, st⟩ := Option.bind_eq_some_iff.mp st
    cases st
    exact .runTask ht hr
  | arrive i launches now =>
    obtain ⟨reply, hr, st⟩ := Option.bind_eq_some_iff.mp st
    cases st
    exact does_arrive hr launches now
  | processListens pid =>
    obtain ⟨p, hp, st⟩ := Option.bind_eq_some_iff.mp st
    obtain ⟨listens, st⟩ := Option.ite_none_right_eq_some.mp st
    cases st
    obtain ⟨alive, free⟩ := Bool.and_eq_true_iff.mp listens
    exact .processListens hp alive free
  | processExits pid =>
    cases st
    exact .processExits pid
  | bindPort port =>
    obtain ⟨_, st⟩ := Option.ite_none_right_eq_some.mp st
    cases st
    exact .bindPort port
  | releasePort port =>
    cases st
    exact .releasePort port

end World

end PureCloak.Launcher
