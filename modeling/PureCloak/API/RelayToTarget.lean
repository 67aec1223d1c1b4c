import Mathlib.Data.List.Flatten
import Mathlib.Data.List.TakeDrop
import PureCloak.API.HalfOpen
import PureCloak.API.RelaySessions
import PureCloak.Library.WebSocketFrame

/-!
# From the client to the target

What the proxy writes to the socket of a target is the upgrade request and then the messages of the client as they are,
as far as the target has accepted the upgrade when they come and the socket takes them in one call.
`relays_messages_iff` says when these are the frames that the target is to read.
-/

namespace PureCloak.API
open PureCloak.Base PureCloak.Content PureCloak.Profiles PureCloak.Launcher Machine WebSocket

/-- What the socket has taken of a call of `Write`. -/
def taken : Bytes × IOResult Nat → Bytes
  | (data, .done n) => data.take n
  | (_, .pending) | (_, .failed) => []

/-- The bytes that were written to a socket. -/
def TargetSocket.written (t : TargetSocket) : Bytes :=
  t.writes.flatMap taken

/-- What was given to `Write` after the upgrade request. -/
def ProxySession.sent (session : ProxySession) : List Bytes :=
  (session.target.map fun t => t.writes.tail.map Prod.fst).getD []

namespace Relay
variable {r r' : Relay} {e : RelayEvent} {conn : Int} {session session' : ProxySession}

/-- The message that a step brings from the client of a connection. -/
def message (conn : Int) : RelayEvent → Option Bytes
  | .api (.webSocketMessage c data _) => if c = conn then some data else none
  | _ => none

/-- The messages that the client of a connection has sent. -/
def messages (conn : Int) (tr : List (Relay × RelayEvent)) : List Bytes :=
  tr.filterMap fun p => message conn p.2

/-- The step calls `Write` on the socket of a connection. -/
def Writes (r : Relay) (conn : Int) : RelayEvent → Prop
  | .api (.webSocketMessage c _ _) => c = conn ∧ ∃ session ∈ r.session conn, session.handshakeComplete
  | .onTargetConnected c results => c = conn ∧ results.connect = .done ()
  | _ => False

/-- No `Write` is issued while another is pending. -/
def NoOverlap (conn : Int) (tr : List (Relay × RelayEvent)) : Prop :=
  ∀ p ∈ tr, p.1.Writes conn p.2 → ∀ t ∈ p.1.target conn, ∀ w ∈ t.writes, w.2 ≠ .pending

/-- The target has accepted the upgrade, and no `Write` is pending. -/
structure Settled (r : Relay) (conn : Int) (session : ProxySession) (socket : TargetSocket) : Prop where
  there : r.session conn = some session
  target : session.target = some socket
  complete : session.handshakeComplete
  idle : ∀ w ∈ socket.writes, w.2 ≠ .pending

/-- The upgrade request was written, and after it a masked frame for each of the messages. -/
def Framed (session : ProxySession) (socket : TargetSocket) (messages : List Bytes) : Prop :=
  ∃ frames : List Frame, (∀ f ∈ frames, f.fin ∧ f.mask.isSome) ∧ frames.map (·.payload) = messages ∧
    socket.written = session.handshake ++ Frame.encodeAll frames

/-! ## What is given to the socket -/

/-- Reading from the target sends nothing to it. -/
lemma sent_afterReads {results : List (IOResult Bytes)} (h : session.afterReads results = some (some session')) :
    session'.sent = session.sent := by
  obtain ⟨-, n, -, target⟩ := ProxySession.afterReads_keeps h
  unfold ProxySession.sent
  rw [target, Option.map_map]
  rfl

/-- A target that is connected was sent nothing yet. -/
lemma sent_onConnected {results : SocketResults} {port : Int} (socket : session.target = some { port := port })
    (h : session.onConnected results = some (some session')) : session'.sent = [] := by
  unfold ProxySession.onConnected at h
  split_ifs at h
  · cases h
  · rw [sent_afterReads h]
    unfold ProxySession.sent ProxySession.wrote
    rw [socket]
    rfl

/-- So is a target that is about to be connected. -/
lemma sent_connectsTo {results : SocketResults} {port : Int}
    (h : session.connectsTo port results = some (some session')) : session'.sent = [] := by
  unfold ProxySession.connectsTo at h
  dsimp only at h
  split_ifs at h with pending
  · cases h
    rfl
  · have target : (session.connects { port := port, connecting := results.connect = .pending }).target =
        some { port := port } := by
      rw [ProxySession.connects, decide_eq_false pending]
    exact sent_onConnected target h

/-- A message is sent, or it is not. -/
lemma sent_forwards {data : Bytes} {result : IOResult Nat} (stage : session.Stage)
    (h : session.forwards data result = some session') :
    session'.sent = session.sent ∨ session'.sent = session.sent ++ [data] := by
  unfold ProxySession.forwards at h
  split_ifs at h with relays
  · cases h
    right
    cases stage with
    | waits _ incomplete | connects _ incomplete =>
      rw [incomplete] at relays
      cases relays.1
    | relays target _ writes _ =>
      obtain ⟨first, rest, writes⟩ := writes
      unfold ProxySession.sent ProxySession.wrote
      simp only [target, Option.map_some, Option.getD_some, writes, List.cons_append, List.tail_cons, List.map_append,
        List.map_cons, List.map_nil]
  · cases h
    exact .inl rfl

/-- The result of a write does not change the bytes. -/
lemma map_fst_modify (writes : List (Bytes × IOResult Nat)) (i : Nat) (result : IOResult Nat) :
    (writes.modify i fun w => (w.1, result)).map Prod.fst = writes.map Prod.fst := by
  induction writes generalizing i with
  | nil => simp
  | cons w writes ih =>
    cases i with
    | zero => rfl
    | succ i =>
      rw [List.modify_succ_cons, List.map_cons, List.map_cons, ih]

/-- A completed write sends nothing more. -/
lemma sent_writes {i : Nat} {result : IOResult Nat} : (session.writes i result).sent = session.sent := by
  unfold ProxySession.sent ProxySession.writes
  cases session.target with
  | none => rfl
  | some t =>
    simp only [Option.map_some, Option.getD_some, List.map_tail, map_fst_modify]

/-- A turn gives at most its message to the socket. -/
lemma Orderly.sent_of_turn (o : r.Orderly) (enabled : r.Enabled e) (turn : r.Turn conn e (some session')) :
    session'.sent = [] ∨ ∃ session, r.session conn = some session ∧
      (session'.sent = session.sent ∨ ∃ data, message conn e = some data ∧ session'.sent = session.sent ++ [data]) := by
  generalize after : some session' = s at turn
  cases turn with
  | other | refused => exact .inr ⟨session', after.symm, .inl rfl⟩
  | accepted =>
    cases after
    exact .inl rfl
  | @message data result =>
    obtain ⟨session, there, forwards⟩ := Option.bind_eq_some_iff.mp after.symm
    refine .inr ⟨session, there, ?_⟩
    exact (sent_forwards (o.stage conn session there) forwards).imp_right fun sent => ⟨data, if_pos rfl, sent⟩
  | connects waits elim =>
    obtain ⟨session, -, connects⟩ := exists_of_elim (elim.trans (congrArg some after.symm))
    exact .inl (sent_connectsTo connects)
  | disconnects | closed => cases after
  | connected elim =>
    obtain ⟨session, there, connected⟩ := exists_of_elim (elim.trans (congrArg some after.symm))
    obtain ⟨t, target, connecting⟩ := (Option.any_eq_true _ _).mp enabled.1
    rw [Relay.target, there, Option.bind_some] at target
    exact .inl (sent_onConnected ((o.stage conn session there).target_of_connecting target connecting).1 connected)
  | read elim =>
    obtain ⟨session, there, after⟩ := exists_of_elim (elim.trans (congrArg some after.symm))
    refine .inr ⟨session, there, .inl ?_⟩
    rw [sent_afterReads after]
    unfold ProxySession.sent ProxySession.reads
    rw [Option.map_map]
    rfl
  | written =>
    obtain ⟨session, there, rfl⟩ := Option.map_eq_some_iff.mp after.symm
    exact .inr ⟨session, there, .inl sent_writes⟩

/-- The messages of a run and of one more step. -/
lemma messages_snoc (tr : List (Relay × RelayEvent)) (r : Relay) (e : RelayEvent) :
    messages conn (tr ++ [(r, e)]) = messages conn tr ++ (message conn e).toList := by
  unfold messages
  cases brings : message conn e <;> simp [brings]

/-! ## What the socket takes -/

/-- What is taken of a write is part of it. -/
lemma taken_sublist (w : Bytes × IOResult Nat) : (taken w).Sublist w.1 := by
  obtain ⟨data, result⟩ := w
  cases result with
  | done n => exact List.take_sublist n data
  | pending | failed => exact List.nil_sublist data

/-- What was written is no longer than what was to be written. -/
lemma length_written_le (t : TargetSocket) : t.written.length ≤ (t.writes.map Prod.fst).flatten.length := by
  rw [← List.flatMap_def]
  exact (List.Sublist.flatMap_right t.writes fun w _ => taken_sublist w).length_le

/-- The request for the upgrade is not empty. -/
lemma handshake_ne_nil (session : ProxySession) : session.handshake ≠ [] := by
  unfold ProxySession.handshake utf8
  intro empty
  simp [String.toList_append] at empty

/-! ## Runs -/

section
variable [TimeLib] [JSONReader] {env : Env} {apiToken : String} {store : WorkspaceStore} {manager : World}
  {tr : List (Relay × RelayEvent)}

/-- What is given to a socket after the upgrade request are messages of the client. -/
lemma sent_sublist (run : Run (Relay.step env) (.start apiToken store manager) tr r)
    (there : r.session conn = some session) : session.sent.Sublist (messages conn tr) := by
  induction run generalizing session with
  | nil => simp [start, Relay.session] at there
  | @snoc tr r e r' run st ih =>
    have orderly : r.Orderly := run.invariant Orderly.step (orderly_start apiToken store manager)
    have after := step_after orderly.toSetUp st
    have turn := turn_of_next (after.session conn)
    rw [there] at turn
    rw [messages_snoc]
    rcases orderly.sent_of_turn after.enabled turn with empty | ⟨session, before, same | ⟨data, message, sent⟩⟩
    · rw [empty]
      exact List.nil_sublist _
    · rw [same]
      exact (ih before).trans (List.sublist_append_left _ _)
    · rw [sent, message]
      exact (ih before).append_right _

omit [TimeLib] [JSONReader] in
/-- What a settled session has given to its socket. -/
lemma Settled.writes {socket : TargetSocket} (orderly : r.Orderly) (settled : r.Settled conn session socket) :
    ∃ result rest, socket.writes = (session.handshake, result) :: rest ∧ session.sent = rest.map Prod.fst := by
  cases orderly.stage conn session settled.there with
  | waits _ incomplete | connects _ incomplete =>
    rw [settled.complete] at incomplete
    cases incomplete
  | relays target _ writes _ =>
    cases target.symm.trans settled.target
    obtain ⟨result, rest, writes⟩ := writes
    refine ⟨result, rest, writes, ?_⟩
    unfold ProxySession.sent
    rw [target, Option.map_some, Option.getD_some, writes]
    rfl

/-- The upgrade request is followed by the messages in masked frames only if there is no message: the frames would be
longer than all that was given to the socket. -/
lemma Settled.messages_eq_nil {socket : TargetSocket}
    (run : Run (Relay.step env) (.start apiToken store manager) tr r) (settled : r.Settled conn session socket)
    (framed : Framed session socket (messages conn tr)) : messages conn tr = [] := by
  have orderly : r.Orderly := run.invariant Orderly.step (orderly_start apiToken store manager)
  obtain ⟨frames, masked, payloads, written⟩ := framed
  obtain ⟨result, rest, writes, sent⟩ := settled.writes orderly
  have upper := length_written_le socket
  have given := (sent_sublist run settled.there).flatten.length_le
  have lower := Frame.length_encodeAll_of_mask fun f hf => (masked f hf).2
  rw [writes, List.map_cons, List.flatten_cons, List.length_append, ← sent, written, List.length_append] at upper
  rw [payloads] at lower
  dsimp only at upper
  have none : frames = [] := List.eq_nil_of_length_eq_zero (by omega)
  rw [← payloads, none]
  rfl

/-- Without messages one `Write` is called. -/
lemma noOverlap_of_messages (run : Run (Relay.step env) (.start apiToken store manager) tr r)
    (silent : messages conn tr = []) : NoOverlap conn tr := by
  intro p hp writes t target w hw
  obtain ⟨tr1, _, _, rfl, r1, st, _⟩ := run.split hp
  obtain ⟨u, e⟩ := p
  have orderly : u.Orderly := r1.invariant Orderly.step (orderly_start apiToken store manager)
  cases e with
  | api e =>
    cases e with
    | webSocketMessage c data result =>
      have brought : message conn (.api (.webSocketMessage c data result)) = some data := if_pos writes.1
      simp [messages, List.filterMap_append, brought] at silent
    | httpRequest | webSocketRequest | runUiTask | runApiTask => cases writes
  | onTargetConnected c results =>
    obtain ⟨rfl, -⟩ := writes
    -- the socket has just been connected
    obtain ⟨t', target', connecting⟩ := (Option.any_eq_true _ _).mp (step_after orderly.toSetUp st).enabled.1
    cases (Option.mem_def.mp target).symm.trans target'
    obtain ⟨session, there, socket⟩ := Option.bind_eq_some_iff.mp target'
    rw [((orderly.stage c session there).target_of_connecting socket connecting).2.2] at hw
    cases hw
  | manager | onClose | onTargetRead | onTargetWritten => cases writes

omit [TimeLib] [JSONReader] in
/-- What a socket has taken, where the upgrade request is all that was given to it. -/
lemma written_eq_iff {socket : TargetSocket} {result : IOResult Nat}
    (writes : socket.writes = [(session.handshake, result)]) :
    socket.written = session.handshake ↔
      ∃ n, socket.writes.head? = some (session.handshake, .done n) ∧ session.handshake.length ≤ n := by
  rw [TargetSocket.written, writes, List.flatMap_cons, List.flatMap_nil, List.append_nil, List.head?_cons]
  cases result with
  | done n =>
    rw [taken, List.take_eq_self_iff session.handshake]
    constructor
    · intro all
      exact ⟨n, rfl, all⟩
    · intro all
      obtain ⟨m, eq, all⟩ := all
      cases eq
      exact all
  | pending | failed =>
    refine iff_of_false (handshake_ne_nil session).symm ?_
    intro all
    obtain ⟨m, eq, -⟩ := all
    cases eq

/-- The target reads the upgrade request and the frames of the messages, written one after the other, exactly when
there is no message and the socket takes the whole request at once. -/
theorem relays_messages_iff {socket : TargetSocket}
    (run : Run (Relay.step env) (.start apiToken store manager) tr r) (settled : r.Settled conn session socket) :
    NoOverlap conn tr ∧ Framed session socket (messages conn tr) ↔
      messages conn tr = [] ∧
        ∃ n, socket.writes.head? = some (session.handshake, .done n) ∧ session.handshake.length ≤ n := by
  have orderly : r.Orderly := run.invariant Orderly.step (orderly_start apiToken store manager)
  obtain ⟨result, rest, writes, sent⟩ := settled.writes orderly
  -- without messages the upgrade request is all that is given to the socket
  have only : messages conn tr = [] → socket.writes = [(session.handshake, result)] := by
    intro silent
    have none := sent_sublist run settled.there
    rw [silent, sent, List.sublist_nil, List.map_eq_nil_iff] at none
    rw [writes, none]
  constructor
  · intro h
    obtain ⟨-, framed⟩ := h
    have silent := settled.messages_eq_nil run framed
    obtain ⟨frames, -, payloads, written⟩ := framed
    rw [silent, List.map_eq_nil_iff] at payloads
    rw [payloads, Frame.encodeAll_nil, List.append_nil] at written
    exact ⟨silent, (written_eq_iff (only silent)).mp written⟩
  · intro h
    obtain ⟨silent, all⟩ := h
    refine ⟨noOverlap_of_messages run silent, [], nofun, silent.symm, ?_⟩
    rw [Frame.encodeAll_nil, List.append_nil]
    exact (written_eq_iff (only silent)).mpr all

end

/-- A connection to the target of the workspace "a", which accepts the upgrade. -/
def acceptedUpgrade : List RelayEvent :=
  WorkspaceApiHandler.upgradeEvents.dropLast.map .api ++
    [.api (.runApiTask { connect := .done (), write := .done 165, reads := [.pending] }),
      .onTargetRead 1 (.done (utf8 "HTTP/1.1 101 Switching Protocols\r\n\r\n")) [.pending]]

/-- The bytes of two texts. -/
lemma length_utf8_append (a b : String) : (utf8 (a ++ b)).length = (utf8 a).length + (utf8 b).length := by
  rw [utf8_append, List.length_append]

/-- The length of the request for the browser itself, part by part. -/
lemma length_handshake {session : ProxySession} (browser : session.subpath = "") :
    session.handshake.length = 165 := by
  have get : (utf8 "GET ").length = 4 := by decide +kernel
  have path : (utf8 "/devtools/browser").length = 17 := by decide +kernel
  have host : (utf8 " HTTP/1.1\r\nHost: 127.0.0.1:\r\nUpgrade: websocket\r\n").length = 49 := by decide +kernel
  have connection : (utf8 "Connection: Upgrade\r\nSec-WebSocket-Key: ").length = 40 := by decide +kernel
  have key : (utf8 kWebSocketKey).length = 24 := by decide +kernel
  have version : (utf8 "\r\nSec-WebSocket-Version: 13\r\n\r\n").length = 31 := by decide +kernel
  rw [ProxySession.handshake, if_pos browser]
  simp only [length_utf8_append, get, path, host, connection, key, version]

/-- A client that is silent, and a socket that takes the whole request. -/
theorem relays_messages_iff_silent :
    ∃ r session socket, Run relayStep relayStart (trace relayStep relayStart acceptedUpgrade) r ∧
      r.Settled 1 session socket ∧ NoOverlap 1 (trace relayStep relayStart acceptedUpgrade) ∧
      Framed session socket (messages 1 (trace relayStep relayStart acceptedUpgrade)) := by
  obtain ⟨r, session, socket, ex, settled, first, browser⟩ : ∃ r session socket,
      exec relayStep relayStart acceptedUpgrade = some r ∧ r.Settled 1 session socket ∧
        socket.writes.head? = some (session.handshake, .done 165) ∧ session.subpath = "" :=
    ⟨_, _, _, rfl, ⟨rfl, rfl, by decide, by decide⟩, rfl, rfl⟩
  have written := (@relays_messages_iff r 1 session utcCalendar (tableReader []) _ _ _ _ _ socket (Run.of_exec ex)
    settled).mpr ⟨rfl, 165, first, (length_handshake browser).le⟩
  exact ⟨r, session, socket, Run.of_exec ex, settled, written⟩

/-- A message after the upgrade. -/
def firstMessage : List RelayEvent :=
  acceptedUpgrade ++ [.api (.webSocketMessage 1 (utf8 "x") (.done 1))]

/-- The message is written as it is, without a frame. -/
theorem relays_messages_fails :
    ∃ r session socket, Run relayStep relayStart (trace relayStep relayStart firstMessage) r ∧
      r.Settled 1 session socket ∧ socket.written = session.handshake ++ utf8 "x" ∧
      ¬ Framed session socket (messages 1 (trace relayStep relayStart firstMessage)) := by
  obtain ⟨r, session, socket, ex, settled, writes, browser⟩ : ∃ r session socket,
      exec relayStep relayStart firstMessage = some r ∧ r.Settled 1 session socket ∧
        socket.writes = [(session.handshake, .done 165), (utf8 "x", .done 1)] ∧ session.subpath = "" :=
    ⟨_, _, _, rfl, ⟨rfl, rfl, by decide, by decide⟩, rfl, rfl⟩
  have written : socket.written = session.handshake ++ utf8 "x" := by
    have whole := length_handshake browser
    rw [TargetSocket.written, writes, List.flatMap_cons, List.flatMap_cons, List.flatMap_nil, taken, taken,
      List.take_of_length_le whole.le]
    rfl
  refine ⟨r, session, socket, Run.of_exec ex, settled, written, fun framed => ?_⟩
  have silent := @Settled.messages_eq_nil r 1 session utcCalendar (tableReader []) _ _ _ _ _ socket (Run.of_exec ex)
    settled framed
  cases silent

end Relay

end PureCloak.API
