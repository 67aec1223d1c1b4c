import PureCloak.Content.CommandPipeline
import PureCloak.Launcher.ApplierRuns

/-!
# What the applier reports

The callback of `Apply` is told what the first `SendCommands` call returned (`Reports`). That call succeeds
whatever the endpoint answers, so that what it reports as applied is applied exactly when the endpoint answers every
command in time (`applied_iff`).
-/

namespace PureCloak.Launcher.Session
open PureCloak.Base PureCloak.Content PureCloak.Profiles Machine

variable {τ : Type*} {send : τ → Int → List DictValue → Option Int}

/-- What the replies and the callback tell of the `SendCommands` calls. -/
structure Reports (send : τ → Int → List DictValue → Option Int) (cdpPort : Int) (full : List DictValue)
    (s : Session τ) : Prop where
  port : s.applier.cdpPort = cdpPort
  tasks : ∀ port commands, .sendCommands port commands ∈ s.tasks → port = cdpPort
  /-- Before the callback is run there has been one call at most. -/
  first : s.applier.pendingCallback = true →
    s.executed.length + s.tasks.countP Task.isSend ≤ if s.applier.commandsStarted then 1 else 0
  replies : ∀ fd, .onCommandsSent fd ∈ s.replies →
    ∃ e, s.executed.getLast? = some (full, e) ∧ send e cdpPort full = some fd
  callbacks : true ∈ s.callbacks →
    ∃ e fd, s.executed.head? = some (full, e) ∧ send e cdpPort full = some fd ∧ 0 ≤ fd

/-- A tick of the poll timer reports nothing. -/
lemma Reports.pollTick {cdpPort : Int} {full : List DictValue} {s : Session τ} (h : Reports send cdpPort full s) :
    Reports send cdpPort full (s.update s.applier.onPollTick) where
  port := h.port
  tasks port commands hc := by
    have hc : .sendCommands port commands ∈ s.tasks ++ [Task.isCDPAvailable _] := hc
    rcases List.mem_append.mp hc with hc | hc
    · exact h.tasks port commands hc
    · cases List.mem_singleton.mp hc
  first pending := by
    have count : (s.tasks ++ [Task.isCDPAvailable s.applier.cdpPort]).countP Task.isSend =
        s.tasks.countP Task.isSend := by
      rw [List.countP_append]
      rfl
    show s.executed.length + (s.tasks ++ [Task.isCDPAvailable _]).countP Task.isSend ≤ _
    rw [count]
    exact h.first pending
  replies := h.replies
  callbacks := h.callbacks

/-- Nor does a check of the endpoint. -/
lemma Reports.checkAvailable {cdpPort : Int} {full : List DictValue} {s : Session τ}
    (h : Reports send cdpPort full s) {i : Nat} {port : Int} (task : s.tasks[i]? = some (.isCDPAvailable port))
    (available : Bool) :
    Reports send cdpPort full
      { s with tasks := s.tasks.eraseIdx i, replies := s.replies ++ [.onCDPCheckResult available] } where
  port := h.port
  tasks port commands hc := h.tasks port commands (List.mem_of_mem_eraseIdx hc)
  first pending := by
    have first := h.first pending
    rw [countP_eraseIdx (p := Task.isSend) task] at first
    exact first
  replies fd hr := by
    have hr : .onCommandsSent fd ∈ s.replies ++ [Reply.onCDPCheckResult available] := hr
    rcases List.mem_append.mp hr with hr | hr
    · exact h.replies fd hr
    · cases List.mem_singleton.mp hr
  callbacks := h.callbacks

/-- No reply of `SendCommands` is there while a call is waiting. -/
lemma Inv.not_replied {full : List DictValue} {s : Session τ} (h : Inv full s) {i : Nat} {port : Int}
    {commands : List DictValue} (task : s.tasks[i]? = some (.sendCommands port commands)) (fd : Int) :
    .onCommandsSent fd ∉ s.replies := by
  intro hr
  have replied : 0 < s.replies.countP Reply.isSent := List.countP_pos_iff.mpr ⟨_, hr, rfl⟩
  have waiting : 0 < s.tasks.countP Task.isSend :=
    List.countP_pos_iff.mpr ⟨_, List.mem_of_getElem? task, rfl⟩
  have two : 2 ≤ s.inFlight := Nat.add_le_add waiting replied
  obtain ⟨phase, _, _, _⟩ := h
  generalize s.inFlight = n at phase two
  cases phase <;> omega

/-- A call of `SendCommands` has its result on the way. -/
lemma Reports.sendCommands {cdpPort : Int} {full : List DictValue} {s : Session τ}
    (h : Reports send cdpPort full s) (inv : Inv full s) {i : Nat} {port : Int} {commands : List DictValue}
    {endpoint : τ} {fd : Int} (task : s.tasks[i]? = some (.sendCommands port commands))
    (sent : send endpoint port commands = some fd) :
    Reports send cdpPort full { s with
      tasks := s.tasks.eraseIdx i
      replies := s.replies ++ [.onCommandsSent fd]
      executed := s.executed ++ [(commands, endpoint)] } := by
  obtain rfl := inv.tasks port commands (List.mem_of_getElem? task)
  obtain rfl := h.tasks port commands (List.mem_of_getElem? task)
  refine ⟨h.port, fun port' commands' hc => h.tasks port' commands' (List.mem_of_mem_eraseIdx hc), ?_, ?_, ?_⟩
  · intro pending
    have first := h.first pending
    rw [countP_eraseIdx (p := Task.isSend) task] at first
    show (s.executed ++ [_]).length + _ ≤ _
    rw [List.length_append, Nat.add_assoc, Nat.add_comm _ (List.countP _ _)]
    exact first
  · intro fd' hr
    have hr : .onCommandsSent fd' ∈ s.replies ++ [Reply.onCommandsSent fd] := hr
    rcases List.mem_append.mp hr with hr | hr
    · exact absurd hr (inv.not_replied task fd')
    · cases List.mem_singleton.mp hr
      exact ⟨endpoint, List.getLast?_concat, sent⟩
  · intro applied
    obtain ⟨e, fd', head, called, nonneg⟩ := h.callbacks applied
    refine ⟨e, fd', ?_, called, nonneg⟩
    show (s.executed ++ [_]).head? = _
    rw [List.head?_append, head]
    rfl

/-- A health check reports nothing. -/
lemma Reports.healthCheck {cdpPort : Int} {full : List DictValue} {s : Session τ}
    (h : Reports send cdpPort full s) (inv : Inv full s) (timer : s.applier.healthTimer = true) (hungUp : Bool) :
    Reports send cdpPort full ((s.countReconnect hungUp).update (s.applier.onHealthCheck hungUp)) := by
  obtain ⟨socket, callback⟩ := inv.connected_of_timer timer
  rw [update_healthCheck socket]
  split_ifs
  · refine ⟨h.port, h.tasks, fun pending => ?_, h.replies, h.callbacks⟩
    cases pending.symm.trans callback
  · exact h

/-- A reply that is no result of `SendCommands` arrives. -/
lemma Reports.eraseIdx {cdpPort : Int} {full : List DictValue} {s : Session τ} (h : Reports send cdpPort full s)
    (i : Nat) : Reports send cdpPort full { s with replies := s.replies.eraseIdx i } :=
  ⟨h.port, h.tasks, h.first, fun fd hr => h.replies fd (List.mem_of_mem_eraseIdx hr), h.callbacks⟩

/-- The callback is run, with a result that the first call bears out. -/
lemma Reports.runPendingCallback {cdpPort : Int} {full : List DictValue} {s : Session τ} {a : Applier}
    {success : Bool} (h : Reports send cdpPort full { s with applier := a })
    (told : a.pendingCallback = true → success = true →
      ∃ e fd, s.executed.head? = some (full, e) ∧ send e cdpPort full = some fd ∧ 0 ≤ fd) :
    Reports send cdpPort full (s.update (a.runPendingCallback success)) := by
  rw [update_runPendingCallback]
  split_ifs with pending
  · refine ⟨h.port, h.tasks, fun again => absurd again Bool.false_ne_true, h.replies, fun applied => ?_⟩
    have applied : true ∈ s.callbacks ++ [success] := applied
    rcases List.mem_append.mp applied with applied | applied
    · exact h.callbacks applied
    · exact told pending (List.mem_singleton.mp applied).symm
  · exact ⟨h.port, h.tasks, h.first, h.replies, h.callbacks⟩

/-- The result of a check goes on to the commands, or reports a failure. -/
lemma Reports.onCDPCheckResult {cdpPort : Int} {full : List DictValue} {s : Session τ}
    (h : Reports send cdpPort full s) (i : Nat) (available : Bool) :
    Reports send cdpPort full
      (update { s with replies := s.replies.eraseIdx i } (s.applier.onCDPCheckResult available)) := by
  have left := h.eraseIdx i
  rcases s.applier.onCDPCheckResult_cases available with
    ⟨_, eq⟩ | ⟨waiting, _, eq⟩ | ⟨waiting, _, _, eq⟩ | ⟨waiting, _, _, eq⟩
  all_goals rw [eq]
  · exact left
  · refine ⟨h.port, ?_, ?_, left.replies, h.callbacks⟩
    · intro port commands hc
      have hc : .sendCommands port commands ∈
          s.tasks ++ [Task.sendCommands s.applier.cdpPort s.applier.pendingCommandJsons] := hc
      rcases List.mem_append.mp hc with hc | hc
      · exact h.tasks port commands hc
      · cases List.mem_singleton.mp hc
        exact h.port
    · intro pending
      have first := h.first pending
      rw [waiting, if_neg Bool.false_ne_true] at first
      show s.executed.length +
        (s.tasks ++ [Task.sendCommands s.applier.cdpPort s.applier.pendingCommandJsons]).countP Task.isSend ≤ 1
      rw [List.countP_append]
      show _ + (_ + 1) ≤ 1
      omega
  · refine Reports.runPendingCallback ⟨h.port, h.tasks, fun pending => ?_, left.replies, h.callbacks⟩ ?_
    · have first := h.first pending
      rw [waiting, if_neg Bool.false_ne_true] at first
      exact first.trans (Nat.zero_le 1)
    · intro _ success
      cases success
  · exact ⟨h.port, h.tasks, h.first, left.replies, h.callbacks⟩

/-- The reply of `SendCommands` is reported. -/
lemma Reports.onCommandsSent {cdpPort : Int} {full : List DictValue} {s : Session τ}
    (h : Reports send cdpPort full s) {i : Nat} {fd : Int} (reply : s.replies[i]? = some (.onCommandsSent fd)) :
    Reports send cdpPort full
      (update { s with replies := s.replies.eraseIdx i } (s.applier.onCommandsSent fd)) := by
  have left := h.eraseIdx i
  obtain ⟨e, last, sent⟩ := h.replies fd (List.mem_of_getElem? reply)
  unfold Applier.onCommandsSent
  have told (pending : s.applier.pendingCallback = true) (nonneg : 0 ≤ fd) :
      ∃ e fd, s.executed.head? = some (full, e) ∧ send e cdpPort full = some fd ∧ 0 ≤ fd := by
    refine ⟨e, fd, ?_, sent, nonneg⟩
    have first := h.first pending
    have one : s.executed.length ≤ 1 := by
      split_ifs at first <;> omega
    generalize s.executed = calls at last one
    cases calls with
    | nil => cases last
    | cons call rest =>
      obtain rfl : rest = [] := List.length_eq_zero_iff.mp (Nat.le_zero.mp (Nat.le_of_succ_le_succ one))
      exact last
  dsimp only
  split_ifs with opened
  · exact Reports.runPendingCallback ⟨h.port, h.tasks, h.first, left.replies, h.callbacks⟩
      fun pending _ => told pending opened
  · refine Reports.runPendingCallback left fun _ success => ?_
    exact absurd (of_decide_eq_true success) opened

/-- Every step keeps what is reported. -/
lemma Reports.step {cdpPort : Int} {full : List DictValue} {s t : Session τ} {e : Event τ}
    (h : Reports send cdpPort full s) (inv : Inv full s) (st : Session.step send s e = some t) :
    Reports send cdpPort full t := by
  cases does_of_step st with
  | pollTick => exact h.pollTick
  | healthCheck hungUp timer => exact h.healthCheck inv timer hungUp
  | checkAvailable available task => exact h.checkAvailable task available
  | sendCommands task sent => exact h.sendCommands inv task sent
  | @onCDPCheckResult i available _ => exact h.onCDPCheckResult i available
  | onCommandsSent reply => exact h.onCommandsSent reply

/-! ## Applied means applied -/

/-- `SendCommands` at an endpoint, on commands that `write` gives as bytes. -/
def sender [JSONReader] (write : DictValue → Bytes) (e : Endpoint) (port : Int) (commands : List DictValue) :
    Option Int :=
  (sendCommands e port (commands.map write)).map Outcome.result

/-- Every command has met a response that is no error. -/
def AppliedOn [JSONReader] (commandJsons : List Bytes) (o : Outcome) : Prop :=
  ∀ json ∈ commandJsons, ∃ message ∈ o.received, Applies json message

/-- After `Apply` nothing was reported. -/
lemma reports_start {generate : Workspace → List DictValue} {workspaces : List Workspace}
    (some_workspace : workspaces ≠ []) (cdpPort : Int) :
    Reports send cdpPort (fullCommands generate workspaces) (start generate cdpPort workspaces) := by
  have nonempty : workspaces.isEmpty = false := List.isEmpty_eq_false_iff.mpr some_workspace
  unfold start Applier.apply
  rw [nonempty]
  refine ⟨rfl, ?_, fun _ => Nat.le_refl 0, ?_, ?_⟩
  · intro port commands hc
    cases hc
  · intro fd hr
    cases hr
  · intro applied
    cases applied

/-- What a run reports comes from the first call. -/
lemma reports_of_run {generate : Workspace → List DictValue} {cdpPort : Int} {workspaces : List Workspace}
    {tr : List (Session τ × Event τ)} {t : Session τ}
    (r : Run (Session.step send) (start generate cdpPort workspaces) tr t) (some_workspace : workspaces ≠ []) :
    Reports send cdpPort (fullCommands generate workspaces) t := by
  have both : Inv (fullCommands generate workspaces) t ∧
      Reports send cdpPort (fullCommands generate workspaces) t :=
    r.invariant (I := fun s => Inv (fullCommands generate workspaces) s ∧
      Reports send cdpPort (fullCommands generate workspaces) s)
      (fun h st => ⟨h.1.step st, h.2.step h.1 st⟩)
      ⟨inv_start some_workspace cdpPort, reports_start some_workspace cdpPort⟩
  exact both.2

/-- `SendCommands` returns a file descriptor only when every command was applied, exactly at the targets that answer
every command without an error in time: those that send frames, however they arrive and with pauses in between, and any
other ones, by the messages on their stream. And so it is for the callback that is run with `true`. -/
theorem applied_iff [JSONReader] :
    (∀ (e : Endpoint) (port : Int) (commandJsons : List Bytes) (sock : Socket) (bursts : List Burst),
      AllSent e port commandJsons sock → sock.inbound = streamOf bursts →
      ((∀ o, sendCommands e port commandJsons = some o → 0 ≤ o.result → AppliedOn commandJsons o) ↔
        AnsweredInTime commandJsons (messagesOf bursts (20 * commandJsons.length)))) ∧
    (∀ (e : Endpoint) (port : Int) (commandJsons : List Bytes),
      (∀ o, sendCommands e port commandJsons = some o → 0 ≤ o.result → AppliedOn commandJsons o) ↔
        ∀ sock, AllSent e port commandJsons sock →
          AnsweredInTime commandJsons (readFrames (20 * commandJsons.length) sock.inbound).1) ∧
    ∀ (write : DictValue → Bytes) (generate : Workspace → List DictValue) (cdpPort : Int)
      (workspaces : List Workspace) (tr : List (Session Endpoint × Event Endpoint)) (t : Session Endpoint),
      Run (Session.step (sender write)) (start generate cdpPort workspaces) tr t → workspaces ≠ [] →
      true ∈ t.callbacks →
      let commandJsons := (fullCommands generate workspaces).map write
      ∃ e o sock, t.executed.head? = some (fullCommands generate workspaces, e) ∧
        sendCommands e cdpPort commandJsons = some o ∧ 0 ≤ o.result ∧ AllSent e cdpPort commandJsons sock ∧
        (AppliedOn commandJsons o ↔
          AnsweredInTime commandJsons (readFrames (20 * commandJsons.length) sock.inbound).1) := by
  refine ⟨?_, sendCommands_applied_iff, ?_⟩
  · intro e port commandJsons sock bursts sent stream
    have messages := congrArg Prod.fst (readFrames_streamOf bursts (20 * commandJsons.length))
    have enough : 20 * commandJsons.length ≤ (messagesOf bursts (20 * commandJsons.length)).length := by
      simp [messagesOf]
    have applied := applied_of_allSent_iff sent enough
    rw [stream, messages] at applied
    exact applied
  · intro write generate cdpPort workspaces tr t r some_workspace applied
    obtain ⟨e, fd, head, called, nonneg⟩ := (reports_of_run r some_workspace).callbacks applied
    obtain ⟨o, run, rfl⟩ := Option.map_eq_some_iff.mp called
    obtain ⟨sock, sent⟩ := allSent_of_sendCommands run nonneg
    refine ⟨e, o, sock, head, run, nonneg, sent, ?_⟩
    rw [← applied_of_allSent_iff sent (Nat.le_refl _)]
    constructor
    · rintro applied o' run' -
      cases run.symm.trans run'
      exact applied
    · exact fun applied => applied o run nonneg

/-- One check of the endpoint and one call of `SendCommands`. -/
def applying (segs : List Bytes) : List (Event Endpoint) := [
  .pollTick, .checkAvailable 0 true, .reply 0, .sendCommands 0 (pageEndpoint segs), .reply 0]

/-- An event, a pause, and the response to `Page.enable`. -/
def eventAndResponse : List Burst := [
  ⟨[eventFrame], [[129], [1, 101]], by decide, by decide, by decide⟩,
  ⟨[responseFrame 0], [[129, 1, 48]], by decide, by decide, by decide⟩]

/-- `Page.enable` is answered, with an event before the response. -/
theorem applied_iff_answered :
    (∃ (t : Session Endpoint) (e : Endpoint) (o : Outcome) (sock : Socket),
      t.executed.head? = some (fullCommands (fun _ => []) [{ id := "a" }], e) ∧
        @sendCommands pageReader e 9333 [utf8 "0"] = some o ∧ 0 ≤ o.result ∧
        @AllSent pageReader e 9333 [utf8 "0"] sock ∧
        (@AppliedOn pageReader [utf8 "0"] o ↔
          @AnsweredInTime pageReader [utf8 "0"] (readFrames 20 sock.inbound).1)) ∧
    ((∀ o, @sendCommands pageReader (pageEndpoint (streamOf eventAndResponse)) 9333 [utf8 "0"] = some o →
        0 ≤ o.result → @AppliedOn pageReader [utf8 "0"] o) ↔
      @AnsweredInTime pageReader [utf8 "0"] (messagesOf eventAndResponse 20)) := by
  constructor
  · have commands : (fullCommands (fun _ => []) [{ id := "a" }]).map (fun _ => utf8 "0") = [utf8 "0"] := rfl
    rw [← commands]
    obtain ⟨t, tr, r, applied⟩ : ∃ t tr,
        Run (Session.step (@sender pageReader fun _ => utf8 "0")) (start (fun _ => []) 9333 [{ id := "a" }]) tr t ∧
          true ∈ t.callbacks :=
      ⟨_, _, Run.of_exec (rfl : exec _ _ (applying (streamOf eventAndResponse)) = some _), by decide⟩
    exact ⟨t, (@applied_iff pageReader).2.2 _ _ _ _ _ _ r (List.cons_ne_nil _ _) applied⟩
  · obtain ⟨sock, sent, inbound⟩ : ∃ sock,
        @AllSent pageReader (pageEndpoint (streamOf eventAndResponse)) 9333 [utf8 "0"] sock ∧
          sock.inbound = streamOf eventAndResponse := ⟨_, ⟨rfl, by decide⟩, rfl⟩
    exact (@applied_iff pageReader).1 _ 9333 [utf8 "0"] sock eventAndResponse sent inbound

/-- The only response is an error, and a file descriptor is returned. -/
theorem applied_fails : ∃ o,
    @sendCommands pageReader (pageEndpoint [[129, 2, 48, 48]]) 9333 [utf8 "0"] = some o ∧ 0 ≤ o.result ∧
      ¬ @AppliedOn pageReader [utf8 "0"] o := by
  obtain ⟨o, sent, opened, heard⟩ : ∃ o,
      @sendCommands pageReader (pageEndpoint [[129, 2, 48, 48]]) 9333 [utf8 "0"] = some o ∧
        0 ≤ o.result ∧ o.received = [utf8 "00"] := ⟨_, rfl, by decide, by decide⟩
  refine ⟨o, sent, opened, fun applied => ?_⟩
  obtain ⟨message, received, id, dict, _, read, _, fine⟩ := applied _ (List.mem_singleton_self _)
  rw [heard] at received
  cases List.mem_singleton.mp received
  cases read
  cases fine

end PureCloak.Launcher.Session
