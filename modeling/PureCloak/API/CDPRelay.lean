import PureCloak.API.Authentication

/-!
# The CDP relay

The handler as `WorkspaceApiServer::Start` sets it up, with the clients that are connected to it and the sockets of the
targets: `set_server` is called on the handler only, so that its proxy has no server. `Relay.step` is one step of all of
them. The server calls the handler for connections as `HttpServer` does: a connection is upgraded once, messages come
after that, and nothing comes after the client has closed it.
-/

namespace PureCloak.API
open PureCloak.Base PureCloak.Content PureCloak.Profiles PureCloak.Launcher Machine

namespace ProxySession

/-- After the socket was connected. -/
def connected (session : ProxySession) : ProxySession :=
  { session with target := session.target.map fun t => { t with connecting := false } }

/-- After a read that was outstanding has completed. -/
def reads (session : ProxySession) : ProxySession :=
  { session with target := session.target.map fun t => { t with reads := t.reads - 1 } }

/-- After a call of `Write` that was pending has completed. -/
def writes (i : Nat) (result : IOResult Nat) (session : ProxySession) : ProxySession :=
  { session with
    target := session.target.map fun t => { t with writes := t.writes.modify i fun w => (w.1, result) } }

/-- A connected session is the same. -/
lemma number_connected (session : ProxySession) : session.connected.number = session.number :=
  rfl

/-- A session that reads is the same. -/
lemma number_reads (session : ProxySession) : session.reads.number = session.number :=
  rfl

/-- A session that has written is the same. -/
lemma number_writes (i : Nat) (result : IOResult Nat) (session : ProxySession) :
    (session.writes i result).number = session.number :=
  rfl

end ProxySession

/-- The handler as it is set up, and the connections that their clients have closed. -/
structure Relay where
  handler : WorkspaceApiHandler
  gone : List Int := []

/-- The calls of the server and the turns of the sequences, what the manager does, and the callbacks of the sockets of
the targets. -/
inductive RelayEvent where
  | api (e : ApiEvent)
  | manager (e : World.Event)
  | onClose (conn : Int)
  | onTargetConnected (conn : Int) (results : SocketResults)
  /-- An outstanding read completes; the others are the results of reads that are called then. -/
  | onTargetRead (conn : Int) (result : IOResult Bytes) (results : List (IOResult Bytes))
  | onTargetWritten (conn : Int) (i : Nat) (result : IOResult Nat)

namespace Relay

/-- The session of a connection. -/
def session (r : Relay) (conn : Int) : Option ProxySession :=
  r.handler.proxy.sessions[conn]?

/-- The socket of a connection. -/
def target (r : Relay) (conn : Int) : Option TargetSocket :=
  (r.session conn).bind (·.target)

/-- A WebSocket connection that was accepted, and was closed by neither side. -/
def IsOpen (r : Relay) (conn : Int) : Prop :=
  conn ∈ r.handler.accepted ∧ conn ∉ r.gone ∧ conn ∉ r.handler.proxy.closed

/-- What the server and the sockets can do. -/
def Enabled (r : Relay) : RelayEvent → Prop
  | .api (.webSocketRequest conn _) => conn ∉ r.handler.accepted ∧ conn ∉ r.gone
  | .api (.webSocketMessage conn _ _) => r.IsOpen conn
  | .api _ | .manager _ => True
  | .onClose conn => conn ∉ r.gone
  | .onTargetConnected conn results =>
    (r.target conn).any (·.connecting) ∧ results.connect ≠ .pending ∧ results.reads.all fitsBuffer
  | .onTargetRead conn result results =>
    (r.target conn).any (0 < ·.reads) ∧ result ≠ .pending ∧ (result :: results).all fitsBuffer
  | .onTargetWritten conn i result =>
    (r.target conn).any (fun t => (t.writes[i]?).any (·.2 = .pending)) ∧ result ≠ .pending

instance (r : Relay) (conn : Int) : Decidable (r.IsOpen conn) :=
  inferInstanceAs (Decidable (_ ∧ _))

instance (r : Relay) (e : RelayEvent) : Decidable (r.Enabled e) :=
  match e with
  | .api (.webSocketRequest _ _) | .api (.webSocketMessage _ _ _) | .onTargetConnected _ _ | .onTargetRead _ _ _
  | .onTargetWritten _ _ _ => inferInstanceAs (Decidable (_ ∧ _))
  | .onClose _ => inferInstanceAs (Decidable (_ ∉ _))
  | .api (.httpRequest _ _) | .api (.runUiTask _ _ _) | .api (.runApiTask _) | .manager _ =>
    inferInstanceAs (Decidable True)

/-- The proxy after a step. -/
def withProxy (r : Relay) (p : CDPProxyHandler) : Relay :=
  { r with handler := { r.handler with proxy := p } }

/-- One step. -/
def step [TimeLib] [JSONReader] (env : Env) (r : Relay) (e : RelayEvent) : Option Relay :=
  if r.Enabled e then
    let p := r.handler.proxy
    match e with
    | .api e => (r.handler.step env e).map fun h => { r with handler := h }
    | .manager e => (r.handler.manager.step env e).map fun w => { r with handler := { r.handler with manager := w } }
    | .onClose conn => some { r.withProxy (p.onClientDisconnect conn) with gone := conn :: r.gone }
    | .onTargetConnected conn results =>
      let p := p.updateSession conn ProxySession.connected ProxySession.number_connected
      (p.onTargetConnected conn results).map r.withProxy
    | .onTargetRead conn result results =>
      let p := p.updateSession conn ProxySession.reads ProxySession.number_reads
      let (p, calls) := p.onTargetRead conn result
      (p.startTargetReads results calls).map r.withProxy
    | .onTargetWritten conn i result =>
      some (r.withProxy (p.updateSession conn (ProxySession.writes i result) (ProxySession.number_writes i result)))
  else none

/-- In an empty map no session has a number. -/
lemma numbered_empty (conn : Int) (session : ProxySession)
    (h : (∅ : Std.ExtTreeMap Int ProxySession)[conn]? = some session) : session.number < 0 := by
  simp at h

/-- As `WorkspaceApiServer::Start` sets up the handler. -/
def start (apiToken : String) (store : WorkspaceStore) (manager : World) : Relay where
  handler :=
    { apiToken, store, manager, server := true, proxy := { server := false, numbered := numbered_empty } }

end Relay

end PureCloak.API
