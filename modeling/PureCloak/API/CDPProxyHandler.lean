import PureCloak.Content.CDPWebSocketClient
import PureCloak.Library.KeyedMap

/-!
# CDP proxy

`CDPProxyHandler` relays between a client of the API and the CDP endpoint of a workspace. What a call on the
socket of a target returns is chosen outside. `StartTargetRead`, `OnTargetRead` and `ForwardToClient` call each other
as long as reads return at once; here `onTargetRead` and `forwardToClient` say which calls of `StartTargetRead` they
make, and `startTargetReads` makes them in their order.

The pointer that such a call holds is the number of its session, so that a call for a session that is gone is seen.
The callbacks of writes only log.
-/

namespace PureCloak.API
open PureCloak.Base PureCloak.Content

/-- What a call on a socket returns. -/
inductive IOResult (α : Type) where
  | pending
  | done (a : α)
  | failed
deriving DecidableEq

/-- What the calls on the socket of a target return while a task runs; each call of `Read` takes the next one. -/
structure SocketResults where
  connect : IOResult Unit := .pending
  write : IOResult Nat := .pending
  reads : List (IOResult Bytes) := []

/-- The socket of a target, with what was given to `Write` and the number of reads that are outstanding. -/
structure TargetSocket where
  port : Int
  connecting : Bool := false
  writes : List (Bytes × IOResult Nat) := []
  reads : Nat := 0
deriving DecidableEq

/-- `ProxySession`, under the id of the connection of its client. -/
structure ProxySession where
  number : Nat
  subpath : String := ""
  target : Option TargetSocket := none
  handshakeComplete : Bool := false
deriving DecidableEq

/-- `CDPProxyHandler`; `server` says whether `set_server` was called. -/
structure CDPProxyHandler where
  server : Bool := false
  sessions : Std.ExtTreeMap Int ProxySession := ∅
  /-- The number of the next session. -/
  nextSession : Nat := 0
  /-- What was given to `SendOverWebSocket`. -/
  toClient : List (Int × Bytes) := []
  /-- The connections that were closed. -/
  closed : List Int := []
  /-- A session was used after it was destroyed. -/
  crashed : Bool := false
  numbered : ∀ (conn : Int) (session : ProxySession),
    sessions[conn]? = some session → session.number < nextSession := by simp

/-- `kWebSocketKey`. -/
def kWebSocketKey : String := "dGhlIHNhbXBsZSBub25jZQ=="

/-- The length of `read_buffer`. -/
def readBufferSize : Nat := 4096

/-- A read has room in the buffer. -/
def fitsBuffer : IOResult Bytes → Bool
  | .done data => data.length ≤ readBufferSize
  | _ => true

namespace ProxySession

/-- After a call of `Write`. -/
def wrote (data : Bytes) (result : IOResult Nat) (session : ProxySession) : ProxySession :=
  { session with target := session.target.map fun t => { t with writes := t.writes ++ [(data, result)] } }

/-- After a call of `Read` that did not return at once. -/
def waits (session : ProxySession) : ProxySession :=
  { session with target := session.target.map fun t => { t with reads := t.reads + 1 } }

/-- With a socket. -/
def connects (socket : TargetSocket) (session : ProxySession) : ProxySession :=
  { session with target := some socket }

/-- With the handshake complete. -/
def completes (session : ProxySession) : ProxySession :=
  { session with handshakeComplete := true }

/-- A write to the target is one of the same session. -/
lemma number_wrote (data : Bytes) (result : IOResult Nat) (session : ProxySession) :
    (session.wrote data result).number = session.number :=
  rfl

/-- A session that waits for its upgrade is the same. -/
lemma number_waits (session : ProxySession) : session.waits.number = session.number :=
  rfl

/-- A session that connects is the same. -/
lemma number_connects (socket : TargetSocket) (session : ProxySession) :
    (session.connects socket).number = session.number :=
  rfl

/-- A session whose handshake is complete is the same. -/
lemma number_completes (session : ProxySession) : session.completes.number = session.number :=
  rfl

/-- The request of `SendHandshake`. -/
def handshake (session : ProxySession) : Bytes :=
  let path := if session.subpath = "" then "/devtools/browser" else session.subpath
  utf8 ("GET " ++ path ++ " HTTP/1.1\r\nHost: 127.0.0.1:\r\nUpgrade: websocket\r\n" ++
    "Connection: Upgrade\r\nSec-WebSocket-Key: " ++ kWebSocketKey ++ "\r\nSec-WebSocket-Version: 13\r\n\r\n")

end ProxySession

namespace CDPProxyHandler

/-! ## Sessions -/

/-- `CreateSession`, with the subpath that `HandleWebSocketUpgrade` gives to the session. -/
def createSession (p : CDPProxyHandler) (conn : Int) (subpath : String) : CDPProxyHandler :=
  { p with
    sessions := p.sessions.insert conn { number := p.nextSession, subpath := subpath }
    nextSession := p.nextSession + 1
    numbered := by
      intro other session h
      rw [KeyedMap.get_insert] at h
      split_ifs at h
      · cases h
        exact Nat.lt_succ_self _
      · exact Nat.lt_succ_of_lt (p.numbered other session h) }

/-- A connection is closed. -/
def close (p : CDPProxyHandler) (conn : Int) : CDPProxyHandler :=
  { p with closed := p.closed ++ [conn] }

/-- A session is taken out. -/
def erase (p : CDPProxyHandler) (conn : Int) : CDPProxyHandler :=
  { p with
    sessions := p.sessions.erase conn
    numbered := by
      intro other session h
      rw [KeyedMap.get_erase] at h
      split_ifs at h
      exact p.numbered other session h }

/-- `DestroySession`, where `HttpServer::Close` closes the connection and does not call the proxy
(`destroySessionWith_of_closes`). -/
def destroySession (p : CDPProxyHandler) (conn : Int) : CDPProxyHandler :=
  { p with
    closed := if p.server ∧ conn ∈ p.sessions then p.closed ++ [conn] else p.closed
    sessions := p.sessions.erase conn
    numbered := by
      intro other session h
      rw [KeyedMap.get_erase] at h
      split_ifs at h
      exact p.numbered other session h }

/-- A change of a session through the pointer to it. -/
def updateSession (p : CDPProxyHandler) (conn : Int) (f : ProxySession → ProxySession)
    (same : ∀ session, (f session).number = session.number) : CDPProxyHandler :=
  { p with
    sessions := p.sessions.modify conn f
    numbered := by
      intro other session h
      rw [KeyedMap.get_modify] at h
      split_ifs at h
      · obtain ⟨old, before, rfl⟩ := Option.map_eq_some_iff.mp h
        rw [same]
        exact p.numbered other old before
      · exact p.numbered other session h }

/-- A call of `Write` on the socket of a session. -/
def wrote (p : CDPProxyHandler) (conn : Int) (data : Bytes) (result : IOResult Nat) : CDPProxyHandler :=
  p.updateSession conn (ProxySession.wrote data result) (ProxySession.number_wrote data result)

section
variable {p : CDPProxyHandler} {conn other : Int}

@[simp]
lemma get_createSession {subpath : String} :
    (p.createSession conn subpath).sessions[other]? =
      if conn = other then some { number := p.nextSession, subpath := subpath } else p.sessions[other]? :=
  KeyedMap.get_insert ..

@[simp]
lemma get_destroySession :
    (p.destroySession conn).sessions[other]? = if conn = other then none else p.sessions[other]? :=
  KeyedMap.get_erase ..

@[simp]
lemma get_updateSession {f : ProxySession → ProxySession} {same} :
    (p.updateSession conn f same).sessions[other]? =
      if conn = other then p.sessions[other]?.map f else p.sessions[other]? :=
  KeyedMap.get_modify ..

@[simp]
lemma get_wrote {data : Bytes} {result : IOResult Nat} :
    (p.wrote conn data result).sessions[other]? =
      if conn = other then p.sessions[other]?.map (ProxySession.wrote data result) else p.sessions[other]? :=
  get_updateSession

end

/-- `OnClientDisconnect`. -/
def onClientDisconnect (p : CDPProxyHandler) (conn : Int) : CDPProxyHandler :=
  p.destroySession conn

/-! ### The close of a server -/

/-- `DestroySession` with the `Close` of some server, which may call the proxy before it returns; nothing, where the
iterator that is then erased is gone. -/
def destroySessionWith (closes : CDPProxyHandler → Int → CDPProxyHandler) (p : CDPProxyHandler) (conn : Int) :
    Option CDPProxyHandler :=
  if conn ∈ p.sessions then
    let p := if p.server then closes p conn else p
    if conn ∈ p.sessions then some (p.erase conn) else none
  else some p

section
variable {closes : CDPProxyHandler → Int → CDPProxyHandler} {p : CDPProxyHandler} {conn : Int}

/-- A server whose `Close` does not call the proxy. -/
lemma destroySessionWith_of_closes (quiet : ∀ p conn, closes p conn = p.close conn) :
    p.destroySessionWith closes conn = some (p.destroySession conn) := by
  rw [destroySessionWith]
  by_cases there : conn ∈ p.sessions
  · rw [if_pos there]
    cases server : p.server with
    | true =>
      have closed : (if p.server = true ∧ conn ∈ p.sessions then p.closed ++ [conn] else p.closed) = p.closed ++ [conn] :=
        if_pos ⟨server, there⟩
      rw [if_pos rfl, quiet]
      dsimp only
      rw [if_pos (by exact there), destroySession]
      simp only [closed]
      rfl
    | false =>
      have closed : (if p.server = true ∧ conn ∈ p.sessions then p.closed ++ [conn] else p.closed) = p.closed :=
        if_neg fun closes => Bool.false_ne_true (server.symm.trans closes.1)
      rw [if_neg Bool.false_ne_true]
      dsimp only
      rw [if_pos there, destroySession]
      simp only [closed]
      rfl
  · have absent : p.sessions.erase conn = p.sessions := KeyedMap.erase_of_get_eq_none (KeyedMap.get_eq_none_iff.mpr there)
    have closed : (if p.server = true ∧ conn ∈ p.sessions then p.closed ++ [conn] else p.closed) = p.closed :=
      if_neg fun closes => there closes.2
    rw [if_neg there, destroySession]
    simp only [closed, absent]

/-- A server whose `Close` calls `OnClose`, and that `OnClientDisconnect`, before it returns: the session is gone when
its iterator is erased. -/
lemma destroySessionWith_of_calls_back (calls : ∀ p conn, closes p conn = (p.close conn).erase conn)
    (server : p.server = true) (there : conn ∈ p.sessions) : p.destroySessionWith closes conn = none := by
  have gone : conn ∉ (p.sessions.erase conn) := by
    rw [← KeyedMap.get_eq_none_iff, KeyedMap.get_erase, if_pos rfl]
  rw [destroySessionWith, if_pos there, if_pos server, calls]
  exact if_neg gone

end

/-! ## From the target to the client -/

/-- `ForwardToClient`, with the call of `StartTargetRead` that it makes. -/
def forwardToClient (p : CDPProxyHandler) (conn : Int) (data : Bytes) : CDPProxyHandler × List (Int × Nat) :=
  if !p.server then (p, [])
  else
    let p := { p with toClient := p.toClient ++ [(conn, data)] }
    match p.sessions[conn]? with
    | none => (p, [])
    | some session => (p, [(conn, session.number)])

/-- `OnTargetRead`, with the calls of `StartTargetRead` that it makes. -/
def onTargetRead (p : CDPProxyHandler) (conn : Int) (result : IOResult Bytes) :
    CDPProxyHandler × List (Int × Nat) :=
  match p.sessions[conn]?, result with
  | none, _ | _, .pending => (p, [])
  | _, .failed | _, .done [] => (p.destroySession conn, [])
  | some session, .done data =>
    if session.handshakeComplete then p.forwardToClient conn data
    else if (findBytes (utf8 "101 Switching Protocols") data).isSome then
      let p := p.updateSession conn ProxySession.completes ProxySession.number_completes
      let data :=
        match findBytes headEnd data with
        | some n => data.drop (n + 4)
        | none => []
      let (p, calls) := if data.isEmpty then (p, []) else p.forwardToClient conn data
      (p, calls ++ [(conn, session.number)])
    else if (findBytes (utf8 "HTTP/1.1") data).isSome ∧ (findBytes (utf8 "101") data).isNone then
      (p.destroySession conn, [])
    -- a part of the head
    else (p, [(conn, session.number)])

/-- `StartTargetRead`, for each of the calls that are still to be made. -/
def startTargetReads : List (IOResult Bytes) → List (Int × Nat) → CDPProxyHandler → Option CDPProxyHandler
  | [], [], p => some p
  | [], _ :: _, _ => none
  | _ :: _, [], _ => none
  | result :: results, (conn, number) :: calls, p =>
    match (p.sessions[conn]?.filter (·.number = number)).bind (·.target) with
    | none => some { p with crashed := true }
    | some _ =>
      if result = .pending then
        startTargetReads results calls (p.updateSession conn ProxySession.waits ProxySession.number_waits)
      else
        let (p, more) := p.onTargetRead conn result
        startTargetReads results (more ++ calls) p

/-! ## Connecting -/

/-- `SendHandshake`. -/
def sendHandshake (p : CDPProxyHandler) (conn : Int) (session : ProxySession) (results : SocketResults) :
    Option CDPProxyHandler :=
  let p := p.wrote conn session.handshake results.write
  if results.write = .failed then some (p.destroySession conn)
  else p.startTargetReads results.reads [(conn, session.number)]

/-- `OnTargetConnected`. -/
def onTargetConnected (p : CDPProxyHandler) (conn : Int) (results : SocketResults) : Option CDPProxyHandler :=
  match p.sessions[conn]? with
  | none => some p
  | some session =>
    if results.connect ≠ .done () then some (p.destroySession conn) else p.sendHandshake conn session results

/-- `ConnectToTarget`. -/
def connectToTarget (p : CDPProxyHandler) (conn port : Int) (results : SocketResults) :
    Option CDPProxyHandler :=
  if conn ∉ p.sessions then some p
  else
    let pending : Bool := results.connect = .pending
    let socket : TargetSocket := { port := port, connecting := pending }
    let p := p.updateSession conn (ProxySession.connects socket) (ProxySession.number_connects socket)
    if pending then some p else p.onTargetConnected conn results

/-! ## From the client to the target -/

/-- `ForwardToTarget`. -/
def forwardToTarget (p : CDPProxyHandler) (conn : Int) (data : Bytes) (result : IOResult Nat) :
    CDPProxyHandler :=
  match p.sessions[conn]?.bind (·.target) with
  | none => p
  | some _ =>
    let p := p.wrote conn data result
    if result = .failed then p.destroySession conn else p

/-- `OnWebSocketMessage`. -/
def onWebSocketMessage (p : CDPProxyHandler) (conn : Int) (data : Bytes) (result : IOResult Nat) :
    CDPProxyHandler :=
  match p.sessions[conn]? with
  | none => p
  | some session => if !session.handshakeComplete then p else p.forwardToTarget conn data result

end CDPProxyHandler

end PureCloak.API
