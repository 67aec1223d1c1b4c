import PureCloak.Launcher.Applier
import PureCloak.Library.Machine
import Mathlib.Data.List.Perm.Basic

/-!
# Runs of one applier

A `WorkspaceProfileApplier` after one `Apply`, with the tasks that it has posted to the thread pool, which may
run in any order and at any time, and the replies that come back, which may arrive late. What is decided
outside is in the event; `send` says what `SendCommands` returns at an endpoint, or that it ends the browser.

The applier is in one of four phases (`Phase`): it polls, a `SendCommands` call is under way, the connection
is kept and watched, or it is done. After a callback that was run when it had been moved away the machine goes
on, so that what holds of its runs holds with any number of reconnects.
-/

namespace PureCloak.Launcher
open PureCloak.Base PureCloak.Profiles Machine

namespace Session

/-- A task on the thread pool. -/
inductive Task where
  | isCDPAvailable (port : Int)
  | sendCommands (port : Int) (commands : List DictValue)

/-- A reply to the applier. -/
inductive Reply where
  | onCDPCheckResult (available : Bool)
  | onCommandsSent (fd : Int)

/-- A step of the applier or of the thread pool. -/
inductive Event (τ : Type*) where
  | pollTick
  | healthCheck (hungUp : Bool)
  | checkAvailable (i : Nat) (available : Bool)
  | sendCommands (i : Nat) (endpoint : τ)
  | reply (i : Nat)

end Session

/-- An applier and what it has under way. The number of reconnects and the `SendCommands` calls that were made,
with the endpoints they met, are read by the statements only. -/
structure Session (τ : Type*) where
  applier : Applier := {}
  tasks : List Session.Task := []
  replies : List Session.Reply := []
  callbacks : List Bool := []
  nullCallbacks : Nat := 0
  reconnects : Nat := 0
  executed : List (List DictValue × τ) := []

namespace Session
variable {τ : Type*}

/-- What the applier does to the outside. -/
def runEffect (s : Session τ) : ApplierEffect → Session τ
  | .isCDPAvailable port => { s with tasks := s.tasks ++ [.isCDPAvailable port] }
  | .sendCommands port commands => { s with tasks := s.tasks ++ [.sendCommands port commands] }
  | .close _ => s
  | .runCallback success => { s with callbacks := s.callbacks ++ [success] }
  | .runNullCallback => { s with nullCallbacks := s.nullCallbacks + 1 }

/-- The applier after a method, and what the method did. -/
def update (s : Session τ) (r : Applier × List ApplierEffect) : Session τ :=
  r.2.foldl runEffect { s with applier := r.1 }

/-- A new applier after `Apply`. -/
def start (generate : Workspace → List DictValue) (cdpPort : Int) (workspaces : List Workspace) :
    Session τ :=
  update {} (({} : Applier).apply generate cdpPort workspaces)

/-- `ReconnectCDP` is called by a health check. -/
def countReconnect (s : Session τ) (hungUp : Bool) : Session τ :=
  if s.applier.cdpSocket ≥ 0 ∧ hungUp then { s with reconnects := s.reconnects + 1 } else s

/-- One step. -/
def step (send : τ → Int → List DictValue → Option Int) (s : Session τ) : Event τ → Option (Session τ)
  | .pollTick => if s.applier.pollTimer then some (s.update s.applier.onPollTick) else none
  | .healthCheck hungUp =>
    if s.applier.healthTimer then
      some ((s.countReconnect hungUp).update (s.applier.onHealthCheck hungUp))
    else none
  | .checkAvailable i available =>
    match s.tasks[i]? with
    | some (.isCDPAvailable _) => some { s with
        tasks := s.tasks.eraseIdx i
        replies := s.replies ++ [.onCDPCheckResult available] }
    | _ => none
  | .sendCommands i endpoint =>
    match s.tasks[i]? with
    | some (.sendCommands port commands) =>
      (send endpoint port commands).map fun fd => { s with
        tasks := s.tasks.eraseIdx i
        replies := s.replies ++ [.onCommandsSent fd]
        executed := s.executed ++ [(commands, endpoint)] }
    | _ => none
  | .reply i =>
    match s.replies[i]? with
    | some (.onCDPCheckResult available) =>
      some (update { s with replies := s.replies.eraseIdx i } (s.applier.onCDPCheckResult available))
    | some (.onCommandsSent fd) =>
      some (update { s with replies := s.replies.eraseIdx i } (s.applier.onCommandsSent fd))
    | none => none

/-! ## What a step does -/

variable {send : τ → Int → List DictValue → Option Int}

/-- The steps by their kinds. -/
inductive Does (send : τ → Int → List DictValue → Option Int) (s : Session τ) : Event τ → Session τ → Prop where
  | pollTick : s.applier.pollTimer → Does send s .pollTick (s.update s.applier.onPollTick)
  | healthCheck (hungUp : Bool) :
    s.applier.healthTimer →
    Does send s (.healthCheck hungUp) ((s.countReconnect hungUp).update (s.applier.onHealthCheck hungUp))
  | checkAvailable {i port} (available : Bool) :
    s.tasks[i]? = some (.isCDPAvailable port) →
    Does send s (.checkAvailable i available)
      { s with tasks := s.tasks.eraseIdx i, replies := s.replies ++ [.onCDPCheckResult available] }
  | sendCommands {i port commands endpoint fd} :
    s.tasks[i]? = some (.sendCommands port commands) →
    send endpoint port commands = some fd →
    Does send s (.sendCommands i endpoint)
      { s with
        tasks := s.tasks.eraseIdx i
        replies := s.replies ++ [.onCommandsSent fd]
        executed := s.executed ++ [(commands, endpoint)] }
  | onCDPCheckResult {i available} :
    s.replies[i]? = some (.onCDPCheckResult available) →
    Does send s (.reply i)
      (update { s with replies := s.replies.eraseIdx i } (s.applier.onCDPCheckResult available))
  | onCommandsSent {i fd} :
    s.replies[i]? = some (.onCommandsSent fd) →
    Does send s (.reply i) (update { s with replies := s.replies.eraseIdx i } (s.applier.onCommandsSent fd))

/-- Every step is one of the steps that `Does` lists. -/
lemma does_of_step {s t : Session τ} {e : Event τ} (st : step send s e = some t) : Does send s e t := by
  cases e with
  | pollTick =>
    simp only [step, Option.ite_none_right_eq_some, Option.some.injEq] at st
    obtain ⟨timer, rfl⟩ := st
    exact .pollTick timer
  | healthCheck hungUp =>
    simp only [step, Option.ite_none_right_eq_some, Option.some.injEq] at st
    obtain ⟨timer, rfl⟩ := st
    exact .healthCheck hungUp timer
  | checkAvailable i available =>
    simp only [step] at st
    split at st
    case h_1 port task =>
      cases st
      exact .checkAvailable available task
    case h_2 => cases st
  | sendCommands i endpoint =>
    simp only [step] at st
    split at st
    case h_1 port commands task =>
      obtain ⟨fd, sent, eq⟩ := Option.map_eq_some_iff.mp st
      cases eq
      exact .sendCommands task sent
    case h_2 => cases st
  | reply i =>
    simp only [step] at st
    split at st
    case h_1 available reply =>
      cases st
      exact .onCDPCheckResult reply
    case h_2 fd reply =>
      cases st
      exact .onCommandsSent reply
    case h_3 => cases st

/-! ## Phases -/

def Task.isSend : Task → Bool
  | .isCDPAvailable _ => false
  | .sendCommands _ _ => true

def Reply.isSent : Reply → Bool
  | .onCDPCheckResult _ => false
  | .onCommandsSent _ => true

/-- How many calls of `SendCommands` are in flight. -/
def inFlight (s : Session τ) : Nat :=
  s.tasks.countP Task.isSend + s.replies.countP Reply.isSent

/-- What an applier is doing, after some reconnects and with some `SendCommands` calls in flight; `full` are its
commands. -/
inductive Phase (full : List DictValue) (a : Applier) (reconnects : Nat) : Nat → Prop where
  | polling :
    a.commandsStarted = false →
    a.healthTimer = false →
    a.pendingCommandJsons = full →
    a.pendingCallback = (reconnects == 0) →
    Phase full a reconnects 0
  | sending :
    a.commandsStarted = true →
    a.pollTimer = false →
    a.healthTimer = false →
    a.savedCommandJsons = full →
    a.pendingCallback = (reconnects == 0) →
    Phase full a reconnects 1
  | connected :
    a.commandsStarted = true →
    a.pollTimer = false →
    0 ≤ a.cdpSocket →
    a.savedCommandJsons = full →
    a.pendingCallback = false →
    Phase full a reconnects 0
  | done :
    a.commandsStarted = true →
    a.pollTimer = false →
    a.healthTimer = false →
    a.pendingCallback = false →
    Phase full a reconnects 0

/-- What holds in every run. -/
structure Inv (full : List DictValue) (s : Session τ) : Prop where
  phase : Phase full s.applier s.reconnects s.inFlight
  tasks : ∀ port commands, .sendCommands port commands ∈ s.tasks → commands = full
  executed : ∀ call ∈ s.executed, call.1 = full
  callbacks : s.callbacks.length = if s.applier.pendingCallback then 0 else 1

/-- One element less to count, if it counts. -/
lemma countP_eraseIdx {α : Type*} {p : α → Bool} {l : List α} {i : Nat} {a : α} (h : l[i]? = some a) :
    l.countP p = (l.eraseIdx i).countP p + if p a then 1 else 0 := by
  obtain ⟨lt, rfl⟩ := List.getElem?_eq_some_iff.mp h
  rw [← List.countP_cons]
  exact ((List.getElem_cons_eraseIdx_perm lt).countP_eq p).symm

/-- A session after the callback of its applier was run, or run when empty. -/
lemma update_runPendingCallback (s : Session τ) (a : Applier) (success : Bool) :
    s.update (a.runPendingCallback success) =
      if a.pendingCallback then
        { s with applier := { a with pendingCallback := false }, callbacks := s.callbacks ++ [success] }
      else { s with applier := a, nullCallbacks := s.nullCallbacks + 1 } := by
  unfold Applier.runPendingCallback
  split_ifs <;> rfl

/-- A tick of the poll timer keeps the invariant. -/
lemma Inv.pollTick {full : List DictValue} {s : Session τ} (h : Inv full s) :
    Inv full (s.update s.applier.onPollTick) where
  phase := by
    have count : (s.update s.applier.onPollTick).inFlight = s.inFlight := by
      show (s.tasks ++ [Task.isCDPAvailable _]).countP Task.isSend + _ = _
      rw [List.countP_append]
      rfl
    rw [count]
    exact h.phase
  tasks port commands hc := by
    have hc : .sendCommands port commands ∈ s.tasks ++ [Task.isCDPAvailable _] := hc
    rcases List.mem_append.mp hc with hc | hc
    · exact h.tasks port commands hc
    · cases List.mem_singleton.mp hc
  executed := h.executed
  callbacks := h.callbacks

/-- A check of the endpoint keeps the invariant. -/
lemma Inv.checkAvailable {full : List DictValue} {s : Session τ} (h : Inv full s) {i : Nat} {port : Int}
    (task : s.tasks[i]? = some (.isCDPAvailable port)) (available : Bool) :
    Inv full { s with tasks := s.tasks.eraseIdx i, replies := s.replies ++ [.onCDPCheckResult available] } where
  phase := by
    have count : (s.tasks.eraseIdx i).countP Task.isSend +
        (s.replies ++ [Reply.onCDPCheckResult available]).countP Reply.isSent = s.inFlight := by
      rw [inFlight, countP_eraseIdx (p := Task.isSend) task, List.countP_append]
      rfl
    show Phase full s.applier s.reconnects (_ + _)
    rw [count]
    exact h.phase
  tasks port commands hc := h.tasks port commands (List.mem_of_mem_eraseIdx hc)
  executed := h.executed
  callbacks := h.callbacks

/-- A call of `SendCommands` keeps the invariant. -/
lemma Inv.sendCommands {full : List DictValue} {s : Session τ} (h : Inv full s) {i : Nat} {port : Int}
    {commands : List DictValue} (task : s.tasks[i]? = some (.sendCommands port commands)) (endpoint : τ)
    (fd : Int) :
    Inv full { s with
      tasks := s.tasks.eraseIdx i
      replies := s.replies ++ [.onCommandsSent fd]
      executed := s.executed ++ [(commands, endpoint)] } where
  phase := by
    have count : (s.tasks.eraseIdx i).countP Task.isSend +
        (s.replies ++ [Reply.onCommandsSent fd]).countP Reply.isSent = s.inFlight := by
      rw [inFlight, countP_eraseIdx (p := Task.isSend) task, List.countP_append]
      show _ + (_ + 1) = _ + 1 + _
      omega
    show Phase full s.applier s.reconnects (_ + _)
    rw [count]
    exact h.phase
  tasks port commands hc := h.tasks port commands (List.mem_of_mem_eraseIdx hc)
  executed call hc := by
    have hc : call ∈ s.executed ++ [(commands, endpoint)] := hc
    rcases List.mem_append.mp hc with hc | hc
    · exact h.executed call hc
    · obtain rfl := List.mem_singleton.mp hc
      exact h.tasks port commands (List.mem_of_getElem? task)
  callbacks := h.callbacks

/-- The health check runs only while a connection is kept. -/
lemma Inv.connected_of_timer {full : List DictValue} {s : Session τ} (h : Inv full s)
    (timer : s.applier.healthTimer = true) :
    0 ≤ s.applier.cdpSocket ∧ s.applier.pendingCallback = false := by
  obtain ⟨phase, _, _, _⟩ := h
  generalize s.inFlight = n at phase
  cases phase with
  | polling _ health | sending _ _ health | done _ _ health => cases timer.symm.trans health
  | connected _ _ socket _ callback => exact ⟨socket, callback⟩

/-- A health check that finds a hang-up reconnects, and does nothing else. -/
lemma update_healthCheck {s : Session τ} (socket : 0 ≤ s.applier.cdpSocket) (hungUp : Bool) :
    (s.countReconnect hungUp).update (s.applier.onHealthCheck hungUp) =
      if hungUp then
        { s with
          reconnects := s.reconnects + 1
          applier := { s.applier with
            healthTimer := false
            cdpSocket := -1
            pendingCommandJsons := s.applier.savedCommandJsons
            commandsStarted := false
            pollRetriesLeft := 60
            pollTimer := true } }
      else s := by
  have open_socket : ¬ s.applier.cdpSocket < 0 := Int.not_lt.mpr socket
  cases hungUp with
  | false => simp [countReconnect, Applier.onHealthCheck, open_socket, update]
  | true =>
    simp [countReconnect, Applier.onHealthCheck, open_socket, update, Applier.reconnectCDP, Applier.closeSocket,
      socket, runEffect]

/-- A health check keeps the invariant. -/
lemma Inv.healthCheck {full : List DictValue} {s : Session τ} (h : Inv full s)
    (timer : s.applier.healthTimer = true) (hungUp : Bool) :
    Inv full ((s.countReconnect hungUp).update (s.applier.onHealthCheck hungUp)) := by
  rw [update_healthCheck (h.connected_of_timer timer).1]
  split_ifs
  · obtain ⟨phase, tasks, executed, callbacks⟩ := h
    refine ⟨?_, tasks, executed, callbacks⟩
    show Phase full _ (s.reconnects + 1) s.inFlight
    generalize s.inFlight = n at phase
    cases phase with
    | polling _ health | sending _ _ health | done _ _ health => cases timer.symm.trans health
    | connected _ _ _ saved callback => exact .polling rfl rfl saved callback
  · exact h

/-- The applier after its callback was run with a result or run when empty. -/
lemma Inv.runPendingCallback {full : List DictValue} {s : Session τ} {a : Applier} {success : Bool}
    (tasks : ∀ port commands, .sendCommands port commands ∈ s.tasks → commands = full)
    (executed : ∀ call ∈ s.executed, call.1 = full)
    (callbacks : s.callbacks.length = if a.pendingCallback then 0 else 1)
    (phase : ∀ b : Applier, b = { a with pendingCallback := false } → Phase full b s.reconnects s.inFlight) :
    Inv full (s.update (a.runPendingCallback success)) := by
  rw [update_runPendingCallback]
  split_ifs with pending
  · refine ⟨phase _ rfl, tasks, executed, ?_⟩
    show (s.callbacks ++ [success]).length = 1
    rw [List.length_append, callbacks, if_pos pending]
    rfl
  · have same : { a with pendingCallback := false } = a := by
      rw [Bool.not_eq_true] at pending
      rw [← pending]
    refine ⟨phase a same.symm, tasks, executed, ?_⟩
    show s.callbacks.length = _
    rw [callbacks]

/-- A check of the endpoint comes back. -/
lemma Inv.onCDPCheckResult {full : List DictValue} {s : Session τ} (h : Inv full s) {i : Nat} {available : Bool}
    (reply : s.replies[i]? = some (.onCDPCheckResult available)) :
    Inv full (update { s with replies := s.replies.eraseIdx i } (s.applier.onCDPCheckResult available)) := by
  obtain ⟨phase, tasks, executed, callbacks⟩ := h
  have count : inFlight { s with replies := s.replies.eraseIdx i } = s.inFlight := by
    rw [inFlight, inFlight, countP_eraseIdx (p := Reply.isSent) reply]
    rfl
  rcases s.applier.onCDPCheckResult_cases available with
    ⟨_, eq⟩ | ⟨waiting, _, eq⟩ | ⟨waiting, _, _, eq⟩ | ⟨waiting, _, _, eq⟩
  all_goals rw [eq]
  · exact ⟨by rw [← count] at phase; exact phase, tasks, executed, callbacks⟩
  all_goals
    generalize s.inFlight = n at phase count
    cases phase with
    | sending started | connected started | done started => cases waiting.symm.trans started
    | polling _ health pending callback => ?_
  · refine ⟨?_, ?_, executed, callbacks⟩
    · have one : (s.tasks ++ [Task.sendCommands s.applier.cdpPort s.applier.pendingCommandJsons]).countP
          Task.isSend + (s.replies.eraseIdx i).countP Reply.isSent = 1 := by
        rw [List.countP_append]
        unfold inFlight at count
        dsimp only at count
        show _ + 1 + _ = 1
        omega
      have sending : Phase full { s.applier with
          commandsStarted := true
          pollTimer := false
          savedCommandJsons := s.applier.pendingCommandJsons
          pendingCommandJsons := [] } s.reconnects 1 := .sending rfl rfl health pending callback
      rw [← one] at sending
      exact sending
    · intro port commands hc
      have hc : .sendCommands port commands ∈
          s.tasks ++ [Task.sendCommands s.applier.cdpPort s.applier.pendingCommandJsons] := hc
      rcases List.mem_append.mp hc with hc | hc
      · exact tasks port commands hc
      · cases List.mem_singleton.mp hc
        exact pending
  · refine Inv.runPendingCallback tasks executed callbacks ?_
    rintro b rfl
    rw [count]
    exact .done rfl rfl health rfl
  · refine ⟨?_, tasks, executed, callbacks⟩
    show Phase full _ s.reconnects (inFlight { s with replies := s.replies.eraseIdx i })
    rw [count]
    exact .polling waiting health pending callback

/-- `SendCommands` has returned: the connection is kept, or the applier is done. -/
lemma Inv.onCommandsSent {full : List DictValue} {s : Session τ} (h : Inv full s) {i : Nat} {fd : Int}
    (reply : s.replies[i]? = some (.onCommandsSent fd)) :
    Inv full (update { s with replies := s.replies.eraseIdx i } (s.applier.onCommandsSent fd)) := by
  obtain ⟨phase, tasks, executed, callbacks⟩ := h
  have count : inFlight { s with replies := s.replies.eraseIdx i } + 1 = s.inFlight := by
    rw [inFlight, inFlight, countP_eraseIdx (p := Reply.isSent) reply]
    rfl
  generalize flying : s.inFlight = n at phase count
  cases phase with
  | sending started poll health saved callback =>
    have none_left := Nat.succ.inj count
    unfold Applier.onCommandsSent
    dsimp only
    split_ifs with opened
    · refine Inv.runPendingCallback tasks executed callbacks ?_
      rintro b rfl
      rw [none_left]
      exact .connected started poll opened saved rfl
    · refine Inv.runPendingCallback tasks executed callbacks ?_
      rintro b rfl
      rw [none_left]
      exact .done started poll health rfl
  | _ => cases count

/-- Every step keeps the invariant. -/
lemma Inv.step {full : List DictValue} {s t : Session τ} {e : Event τ} (h : Inv full s)
    (st : step send s e = some t) : Inv full t := by
  cases does_of_step st with
  | pollTick => exact h.pollTick
  | healthCheck hungUp timer => exact h.healthCheck timer hungUp
  | checkAvailable available task => exact h.checkAvailable task available
  | sendCommands task _ => exact h.sendCommands task _ _
  | onCDPCheckResult reply => exact h.onCDPCheckResult reply
  | onCommandsSent reply => exact h.onCommandsSent reply

/-! ## Runs -/

/-- The whole configuration: `Page.enable` and the commands of the workspaces. -/
def fullCommands (generate : Workspace → List DictValue) (workspaces : List Workspace) : List DictValue :=
  pageEnable :: commandBatch generate workspaces

/-- After `Apply` it holds. -/
lemma inv_start {generate : Workspace → List DictValue} {workspaces : List Workspace}
    (some_workspace : workspaces ≠ []) (cdpPort : Int) :
    Inv (fullCommands generate workspaces) (start (τ := τ) generate cdpPort workspaces) := by
  have nonempty : workspaces.isEmpty = false := List.isEmpty_eq_false_iff.mpr some_workspace
  unfold start Applier.apply
  rw [nonempty]
  refine ⟨.polling rfl rfl rfl rfl, ?_, ?_, rfl⟩
  · intro port commands hc
    cases hc
  · intro call hc
    cases hc

/-- With no workspace to apply the callback was run at once, and there is nothing to come. -/
lemma run_start_nil {generate : Workspace → List DictValue} {cdpPort : Int} {tr : List (Session τ × Event τ)}
    {t : Session τ} (r : Run (step send) (start generate cdpPort []) tr t) :
    tr = [] ∧ t = { callbacks := [true] } := by
  induction r with
  | nil => exact ⟨rfl, rfl⟩
  | snoc _ st ih =>
    rw [ih.2] at st
    rename_i e u _
    cases e <;> cases st

/-- It holds in every run. -/
lemma inv_of_run {generate : Workspace → List DictValue} {cdpPort : Int} {workspaces : List Workspace}
    {tr : List (Session τ × Event τ)} {t : Session τ}
    (r : Run (step send) (start generate cdpPort workspaces) tr t) (some_workspace : workspaces ≠ []) :
    Inv (fullCommands generate workspaces) t :=
  r.invariant Inv.step (inv_start some_workspace cdpPort)

/-- The ids of the commands are their places. -/
lemma ids_fullCommands (generate : Workspace → List DictValue) (workspaces : List Workspace) :
    (fullCommands generate workspaces).map (DictValue.findInt · "id") =
      (List.range (fullCommands generate workspaces).length).map fun i => some (Int32.ofNat i) := by
  apply List.ext_getElem
  · simp
  · intro i h1 h2
    rw [List.getElem_map, List.getElem_map, List.getElem_range]
    cases i with
    | zero => rfl
    | succ i =>
      have bound : i < (workspaces.flatMap generate).length := by
        simpa [fullCommands, commandBatch] using h1
      have bound' : i + 1 < (fullCommands generate workspaces).length := by simpa using h1
      have command : (fullCommands generate workspaces)[i + 1] =
          DictValue.set (workspaces.flatMap generate)[i] "id" (.integer (Int32.ofNat (i + 1))) := by
        simp [fullCommands, commandBatch]
      rw [command, DictValue.findInt, DictValue.find_set, if_pos rfl]
      rfl

/-- Every `SendCommands` call gets the whole configuration, and no two are in flight. -/
theorem sendCommands_whole {generate : Workspace → List DictValue} {cdpPort : Int} {workspaces : List Workspace}
    {tr : List (Session τ × Event τ)} {t : Session τ}
    (r : Run (step send) (start generate cdpPort workspaces) tr t) :
    (∀ port commands, .sendCommands port commands ∈ t.tasks → commands = fullCommands generate workspaces) ∧
      (∀ call ∈ t.executed, call.1 = fullCommands generate workspaces) ∧
      t.inFlight ≤ 1 ∧
      (fullCommands generate workspaces).map (DictValue.findInt · "id") =
        (List.range (fullCommands generate workspaces).length).map fun i => some (Int32.ofNat i) := by
  have ids := ids_fullCommands generate workspaces
  by_cases empty : workspaces = []
  · subst empty
    rw [(run_start_nil r).2]
    refine ⟨?_, ?_, Nat.zero_le 1, ids⟩
    · intro port commands hc
      cases hc
    · intro call hc
      cases hc
  · obtain ⟨phase, tasks, executed, _⟩ := inv_of_run r empty
    refine ⟨tasks, executed, ?_, ids⟩
    generalize t.inFlight = n at phase
    cases phase with
    | sending => exact Nat.le_refl 1
    | _ => exact Nat.zero_le 1

/-- A connection that is kept, lost, and made again. -/
def reconnecting : List (Event Int) := [
  .pollTick, .checkAvailable 0 true, .reply 0, .sendCommands 0 3, .reply 0, .healthCheck true,
  .pollTick, .checkAvailable 0 true, .reply 0, .sendCommands 0 4]

/-- The command for the timezone of a workspace. -/
def timezoneCommand (ws : Workspace) : List DictValue :=
  [DictValue.ofFields [("method", some (.string "Emulation.setTimezoneOverride")),
    ("params", some (.dict [("timezoneId", .string ws.timezone)]))]]

/-- Two workspaces with timezones. -/
def twoTimezones : List Workspace :=
  [{ id := "a", timezone := "Asia/Tokyo" }, { id := "b", timezone := "Europe/Paris" }]

/-- Two workspaces with timezones, and a reconnect. -/
theorem sendCommands_whole_reconnecting : ∃ t : Session Int,
    Run (step fun fd _ _ => some fd) (start timezoneCommand 9333 twoTimezones)
      (trace (step fun fd _ _ => some fd) (start timezoneCommand 9333 twoTimezones) reconnecting) t ∧
    t.executed.length = 2 ∧ t.reconnects = 1 ∧
      (∀ call ∈ t.executed, call.1 = fullCommands timezoneCommand twoTimezones) ∧
      (fullCommands timezoneCommand twoTimezones).map (DictValue.findInt · "id") = [some 0, some 1, some 2] := by
  have r : Run (step fun fd _ _ => some fd) (start timezoneCommand 9333 twoTimezones)
    (trace (step fun fd _ _ => some fd) _ reconnecting) _ := Run.of_exec rfl
  exact ⟨_, r, rfl, rfl, (sendCommands_whole r).2.1, (sendCommands_whole r).2.2.2⟩

/-! ## The callback -/

/-- The first attempt is over: it timed out, or its `SendCommands` call has come back. -/
def FirstAttemptOver (s : Session τ) : Prop :=
  s.reconnects > 0 ∨ (s.applier.commandsStarted = true ∧ s.inFlight = 0)

/-- The step ends a round: `SendCommands` comes back, or the last check of the endpoint does, without success. -/
def endsRound (s : Session τ) : Event τ → Bool
  | .reply i =>
    match s.replies[i]? with
    | some (.onCommandsSent _) => true
    | some (.onCDPCheckResult available) =>
      !s.applier.commandsStarted && !available && s.applier.pollRetriesLeft ≤ 1
    | none => false
  | _ => false

/-- The callback has not been run more than once, and it has been run when the first attempt is over. -/
lemma Inv.callbacks_of_attempted {full : List DictValue} {s : Session τ} (h : Inv full s)
    (attempted : FirstAttemptOver s) :
    s.callbacks.length = 1 := by
  obtain ⟨phase, _, _, callbacks⟩ := h
  have consumed : s.applier.pendingCallback = false := by
    generalize count : s.inFlight = n at phase
    cases phase with
    | polling started _ _ callback =>
      rcases attempted with again | ⟨started', _⟩
      · rw [callback]
        exact beq_false_of_ne (Nat.ne_of_gt again)
      · cases started.symm.trans started'
    | sending _ _ _ _ callback =>
      rcases attempted with again | ⟨_, idle⟩
      · rw [callback]
        exact beq_false_of_ne (Nat.ne_of_gt again)
      · cases count.symm.trans idle
    | connected _ _ _ _ callback | done _ _ _ callback => exact callback
  rw [callbacks, consumed]
  rfl

/-- A callback that is run without having been given is counted. -/
lemma nullCallbacks_runPendingCallback (s : Session τ) (a : Applier) (success : Bool) :
    (s.update (a.runPendingCallback success)).nullCallbacks =
      s.nullCallbacks + if a.pendingCallback then 0 else 1 := by
  rw [update_runPendingCallback]
  split_ifs <;> rfl

/-- A check of the endpoint runs an empty callback when it is the last one of a reconnect, and fails. -/
lemma Inv.nullCallbacks_onCDPCheckResult {full : List DictValue} {s : Session τ} (h : Inv full s)
    (none_yet : s.nullCallbacks = 0) {i : Nat} {available : Bool}
    (reply : s.replies[i]? = some (.onCDPCheckResult available)) :
    (update { s with replies := s.replies.eraseIdx i } (s.applier.onCDPCheckResult available)).nullCallbacks = 0 ↔
      (endsRound s (.reply i : Event τ) → s.reconnects = 0) := by
  have ends : endsRound s (.reply i : Event τ) = true ↔
      s.applier.commandsStarted = false ∧ available = false ∧ s.applier.pollRetriesLeft ≤ 1 := by
    simp [endsRound, reply, and_assoc]
  rw [ends]
  rcases s.applier.onCDPCheckResult_cases available with
    ⟨started, eq⟩ | ⟨_, found, eq⟩ | ⟨waiting, missing, last, eq⟩ | ⟨_, _, more, eq⟩
  all_goals rw [eq]
  · exact iff_of_true none_yet fun h => absurd (h.1.symm.trans started) Bool.false_ne_true
  · exact iff_of_true none_yet fun h => absurd (h.2.1.symm.trans found) Bool.false_ne_true
  · have callback : s.applier.pendingCallback = (s.reconnects == 0) := by
      have phase := h.phase
      generalize s.inFlight = n at phase
      cases phase with
      | polling _ _ _ callback => exact callback
      | sending started | connected started | done started => cases waiting.symm.trans started
    rw [nullCallbacks_runPendingCallback]
    show s.nullCallbacks + (if s.applier.pendingCallback then 0 else 1) = 0 ↔ _
    rw [none_yet, callback]
    simp [waiting, missing, last]
  · exact iff_of_true none_yet fun h => absurd h.2.2 (Int.not_le.mpr more)

/-- The end of a `SendCommands` call runs an empty callback when it is that of a reconnect. -/
lemma Inv.nullCallbacks_onCommandsSent {full : List DictValue} {s : Session τ} (h : Inv full s)
    (none_yet : s.nullCallbacks = 0) {i : Nat} {fd : Int} (reply : s.replies[i]? = some (.onCommandsSent fd)) :
    (update { s with replies := s.replies.eraseIdx i } (s.applier.onCommandsSent fd)).nullCallbacks = 0 ↔
      (endsRound s (.reply i : Event τ) → s.reconnects = 0) := by
  have ends : endsRound s (.reply i : Event τ) = true := by
    simp only [endsRound, reply]
  rw [ends, eq_self, true_imp_iff]
  have flying : 1 ≤ s.inFlight := by
    rw [inFlight, countP_eraseIdx (p := Reply.isSent) reply]
    exact Nat.le_add_left 1 _
  have phase := h.phase
  generalize s.inFlight = n at phase flying
  cases phase with
  | sending _ _ _ _ callback =>
    unfold Applier.onCommandsSent
    rw [nullCallbacks_runPendingCallback]
    have same : (if fd ≥ 0 then { s.applier with cdpSocket := fd, healthTimer := true } else
        s.applier).pendingCallback = (s.reconnects == 0) := by
      split_ifs <;> exact callback
    rw [same]
    show s.nullCallbacks + _ = 0 ↔ _
    rw [none_yet]
    simp
  | _ => cases flying

/-- A step runs an empty callback exactly when it ends a round of a reconnect. -/
lemma Inv.nullCallbacks_iff {full : List DictValue} {s t : Session τ} {e : Event τ} (h : Inv full s)
    (none_yet : s.nullCallbacks = 0) (st : Session.step send s e = some t) :
    t.nullCallbacks = 0 ↔ (endsRound s e → s.reconnects = 0) := by
  cases does_of_step st with
  | pollTick => exact iff_of_true none_yet fun h => absurd h Bool.false_ne_true
  | healthCheck hungUp timer =>
    refine iff_of_true ?_ fun h => absurd h Bool.false_ne_true
    rw [update_healthCheck (h.connected_of_timer timer).1]
    split_ifs <;> exact none_yet
  | checkAvailable available task => exact iff_of_true none_yet fun h => absurd h Bool.false_ne_true
  | sendCommands task sent => exact iff_of_true none_yet fun h => absurd h Bool.false_ne_true
  | onCDPCheckResult reply => exact h.nullCallbacks_onCDPCheckResult none_yet reply
  | onCommandsSent reply => exact h.nullCallbacks_onCommandsSent none_yet reply

/-- After `Apply` none was. -/
lemma nullCallbacks_start {generate : Workspace → List DictValue} {cdpPort : Int} {workspaces : List Workspace} :
    (start (τ := τ) generate cdpPort workspaces).nullCallbacks = 0 := by
  unfold start Applier.apply
  split_ifs <;> rfl

/-- The callback is never run when empty and exactly once when the first attempt is over, exactly in the runs
in which no reconnect round ends. -/
theorem callback_once_iff {generate : Workspace → List DictValue} {cdpPort : Int} {workspaces : List Workspace}
    {tr : List (Session τ × Event τ)} {t : Session τ}
    (r : Run (step send) (start generate cdpPort workspaces) tr t) :
    Always (fun s => s.nullCallbacks = 0 ∧ (FirstAttemptOver s → s.callbacks.length = 1)) tr t ↔
      Guarded (fun s e => endsRound s e → s.reconnects = 0) tr := by
  by_cases empty : workspaces = []
  · subst empty
    obtain ⟨rfl, rfl⟩ := run_start_nil r
    simp [Always, Guarded]
  · have first : Inv (fullCommands generate workspaces) (start (τ := τ) generate cdpPort workspaces) :=
      inv_start empty cdpPort
    apply r.always_iff Inv.step (fun h none_yet st => ?_) first ⟨nullCallbacks_start, first.callbacks_of_attempted⟩
    rw [← h.nullCallbacks_iff none_yet.1 st]
    exact ⟨fun both => both.1, fun zero => ⟨zero, (h.step st).callbacks_of_attempted⟩⟩

/-- One reconnect after a call that succeeded. -/
theorem callback_once_iff_reconnecting : ∃ (tr : List (Session Int × Event Int)) (t : Session Int),
    Run (step fun fd _ _ => some fd) (start (fun _ => []) 9333 [{ id := "a" }]) tr t ∧ t.reconnects = 1 ∧
      Always (fun s => s.nullCallbacks = 0 ∧ (FirstAttemptOver s → s.callbacks.length = 1)) tr t := by
  have r : Run (step fun fd _ _ => some fd) (start (fun _ => []) 9333 [{ id := "a" }])
    (trace (step fun fd _ _ => some fd) _ reconnecting) _ := Run.of_exec rfl
  exact ⟨_, _, r, rfl, (callback_once_iff r).mpr (by decide)⟩

/-- A connection that is made again runs the callback that was moved away. -/
theorem callback_once_fails : ∃ (tr : List (Session Int × Event Int)) (t : Session Int),
    Run (step fun fd _ _ => some fd) (start (fun _ => []) 9333 [{ id := "a" }]) tr t ∧
      t.callbacks = [true] ∧ t.nullCallbacks = 1 :=
  ⟨_, _, Run.of_exec (rfl : exec (step fun fd _ _ => some fd) _ (reconnecting ++ [.reply 0]) = some _), rfl, rfl⟩

end Session

end PureCloak.Launcher
