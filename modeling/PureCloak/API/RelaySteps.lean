import PureCloak.API.CDPRelay

/-!
# Steps of the relay

Without a server the proxy sends nothing to a client, and calls no read after something that it would have sent.
`Relay.next` says what a step makes of the session of one connection, and `Relay.step_after` that this is so.
-/

namespace PureCloak.API
open PureCloak.Base PureCloak.Content PureCloak.Profiles PureCloak.Launcher Machine

/-! ## Sessions whose clients are sent nothing -/

/-- The target has accepted the upgrade. -/
def answers (data : Bytes) : Bool :=
  (findBytes (utf8 "101 Switching Protocols") data).isSome

/-- The target has refused the upgrade. -/
def refuses (data : Bytes) : Bool :=
  (findBytes (utf8 "HTTP/1.1") data).isSome && (findBytes (utf8 "101") data).isNone

/-- What is behind the first blank line of a read. -/
def leftover (data : Bytes) : Bytes :=
  match findBytes headEnd data with
  | some n => data.drop (n + 4)
  | none => []

namespace ProxySession

/-- After a read has completed, with whether there is another one; without a server nothing is forwarded. -/
def onRead (session : ProxySession) : IOResult Bytes → Option (ProxySession × Bool)
  | .pending => some (session, false)
  | .failed | .done [] => none
  | .done data =>
    if session.handshakeComplete then some (session, false)
    else if answers data then some (session.completes, true)
    else if refuses data then none
    else some (session, true)

/-- After the reads that a call of `StartTargetRead` leads to, if they have these results. -/
def afterReads : List (IOResult Bytes) → ProxySession → Option (Option ProxySession)
  | [], _ => none
  | result :: results, session =>
    if result = .pending then if results = [] then some (some session.waits) else none
    else
      match session.onRead result with
      | none => if results = [] then some none else none
      | some (session, again) =>
        if again then session.afterReads results else if results = [] then some (some session) else none

/-- What `afterReads` says, by the results of the reads. -/
inductive Reads : ProxySession → List (IOResult Bytes) → Option ProxySession → Prop where
  | waits {session : ProxySession} : Reads session [.pending] (some session.waits)
  | ends {session : ProxySession} {result : IOResult Bytes} :
    result = .failed ∨ result = .done [] →
    Reads session [result] none
  -- what is not sent is the last that is read
  | relays {session : ProxySession} {data : Bytes} :
    session.handshakeComplete = true →
    data ≠ [] →
    Reads session [.done data] (some session)
  | answered {session : ProxySession} {data : Bytes} {results : List (IOResult Bytes)} {s : Option ProxySession} :
    session.handshakeComplete = false →
    data ≠ [] →
    answers data →
    Reads session.completes results s →
    Reads session (.done data :: results) s
  | refused {session : ProxySession} {data : Bytes} :
    session.handshakeComplete = false →
    data ≠ [] →
    ¬ answers data →
    refuses data →
    Reads session [.done data] none
  | head {session : ProxySession} {data : Bytes} {results : List (IOResult Bytes)} {s : Option ProxySession} :
    session.handshakeComplete = false →
    data ≠ [] →
    ¬ answers data →
    ¬ refuses data →
    Reads session results s →
    Reads session (.done data :: results) s

/-- The reads of a session are those that the step makes. -/
lemma reads_of_afterReads {session : ProxySession} {results : List (IOResult Bytes)} {s : Option ProxySession}
    (h : session.afterReads results = some s) : session.Reads results s := by
  induction results generalizing session with
  | nil => cases h
  | cons result results ih =>
    unfold afterReads at h
    match result with
    | .pending =>
      rw [if_pos rfl] at h
      split_ifs at h with last
      cases h
      rw [last]
      exact .waits
    | .failed | .done [] =>
      simp only [reduceCtorEq, if_false, onRead] at h
      split_ifs at h with last
      cases h
      rw [last]
      exact .ends (by simp)
    | .done (byte :: data) =>
      simp only [reduceCtorEq, if_false, onRead] at h
      cases complete : session.handshakeComplete with
      | true =>
        simp only [complete, if_true, Bool.false_eq_true, if_false] at h
        split_ifs at h with last
        cases h
        rw [last]
        exact .relays complete (List.cons_ne_nil _ _)
      | false =>
        simp only [complete, Bool.false_eq_true, if_false] at h
        by_cases answered : answers (byte :: data)
        · simp only [if_pos answered, if_true] at h
          exact .answered complete (List.cons_ne_nil _ _) answered (ih h)
        by_cases refused : refuses (byte :: data)
        · simp only [if_neg answered, if_pos refused] at h
          split_ifs at h with last
          cases h
          rw [last]
          exact .refused complete (List.cons_ne_nil _ _) answered refused
        · simp only [if_neg answered, if_neg refused, if_true] at h
          exact .head complete (List.cons_ne_nil _ _) answered refused (ih h)

/-- After `OnTargetConnected`. -/
def onConnected (session : ProxySession) (results : SocketResults) : Option (Option ProxySession) :=
  if results.connect ≠ .done () ∨ results.write = .failed then some none
  else (session.wrote session.handshake results.write).afterReads results.reads

/-- After `ConnectToTarget`. -/
def connectsTo (session : ProxySession) (port : Int) (results : SocketResults) : Option (Option ProxySession) :=
  let session := session.connects { port := port, connecting := results.connect = .pending }
  if results.connect = .pending then some (some session) else session.onConnected results

/-- After `OnWebSocketMessage`. -/
def forwards (session : ProxySession) (data : Bytes) (result : IOResult Nat) : Option ProxySession :=
  if session.handshakeComplete ∧ session.target.isSome then
    if result = .failed then none else some (session.wrote data result)
  else some session

end ProxySession

namespace CDPProxyHandler
variable {p p1 p2 : CDPProxyHandler} {conn : Int} {session : ProxySession} {s s1 s2 : Option ProxySession}

/-- One session has changed, and nothing else. -/
structure Becomes (p : CDPProxyHandler) (conn : Int) (s : Option ProxySession) (p' : CDPProxyHandler) : Prop where
  here : p'.sessions[conn]? = s
  other : ∀ other, other ≠ conn → p'.sessions[other]? = p.sessions[other]?
  server : p'.server = false
  toClient : p'.toClient = p.toClient
  closed : p'.closed = p.closed

/-- Nothing happens to a session that is left alone. -/
lemma Becomes.refl (null : p.server = false) : p.Becomes conn p.sessions[conn]? p :=
  ⟨rfl, fun _ _ => rfl, null, rfl, rfl⟩

/-- What happens to a session in two steps. -/
lemma Becomes.trans (h1 : p.Becomes conn s1 p1) (h2 : p1.Becomes conn s2 p2) : p.Becomes conn s2 p2 where
  here := h2.here
  other other ne := (h2.other other ne).trans (h1.other other ne)
  server := h2.server
  toClient := h2.toClient.trans h1.toClient
  closed := h2.closed.trans h1.closed

/-- A change of one session. -/
lemma becomes_updateSession (null : p.server = false) (conn : Int) {f : ProxySession → ProxySession}
    (same : ∀ session, (f session).number = session.number) :
    p.Becomes conn (p.sessions[conn]?.map f) (p.updateSession conn f same) where
  here := by rw [get_updateSession, if_pos rfl]
  other other ne := by rw [get_updateSession, if_neg ne.symm]
  server := null
  toClient := rfl
  closed := rfl

/-- A session that is there is changed. -/
lemma becomes_of_get (null : p.server = false) (there : p.sessions[conn]? = some session)
    {f : ProxySession → ProxySession} (same : ∀ session, (f session).number = session.number) :
    p.Becomes conn (some (f session)) (p.updateSession conn f same) := by
  have update := becomes_updateSession null conn same
  rwa [there] at update

/-- A session that is created. -/
lemma becomes_createSession (null : p.server = false) (conn : Int) (subpath : String) :
    p.Becomes conn (some { number := p.nextSession, subpath := subpath }) (p.createSession conn subpath) where
  here := by rw [get_createSession, if_pos rfl]
  other other ne := by rw [get_createSession, if_neg ne.symm]
  server := null
  toClient := rfl
  closed := rfl

/-- A session is destroyed, and its client is not told. -/
lemma becomes_destroySession (null : p.server = false) (conn : Int) : p.Becomes conn none (p.destroySession conn) where
  here := by rw [get_destroySession, if_pos rfl]
  other other ne := by rw [get_destroySession, if_neg ne.symm]
  server := null
  toClient := rfl
  closed := if_neg fun h => Bool.false_ne_true (null.symm.trans h.1)

/-- Data for the client leaves the sessions as they are. -/
lemma forwardToClient_sessions (p : CDPProxyHandler) (conn : Int) (data : Bytes) :
    (p.forwardToClient conn data).1.sessions = p.sessions := by
  rw [forwardToClient]
  dsimp only
  split_ifs
  · rfl
  · split
    · rfl
    · rfl

/-- A read while there is a session. -/
lemma onTargetRead_done {data : Bytes} (there : p.sessions[conn]? = some session) (some_bytes : data ≠ []) :
    p.onTargetRead conn (.done data) =
      if session.handshakeComplete then p.forwardToClient conn data
      else if answers data then
        let p := p.updateSession conn ProxySession.completes ProxySession.number_completes
        let (p, calls) := if (leftover data).isEmpty then (p, []) else p.forwardToClient conn (leftover data)
        (p, calls ++ [(conn, session.number)])
      else if refuses data then (p.destroySession conn, [])
      else (p, [(conn, session.number)]) := by
  cases data with
  | nil => exact absurd rfl some_bytes
  | cons byte data =>
    unfold onTargetRead
    rw [there]
    simp only [refuses, Bool.and_eq_true]
    rfl

/-- Without a session a read does nothing. -/
lemma onTargetRead_gone (gone : p.sessions[conn]? = none) (result : IOResult Bytes) :
    p.onTargetRead conn result = (p, []) := by
  unfold onTargetRead
  rw [gone]

/-- A read that is pending does nothing. -/
lemma onTargetRead_pending (p : CDPProxyHandler) (conn : Int) : p.onTargetRead conn .pending = (p, []) := by
  unfold onTargetRead
  cases p.sessions[conn]? with
  | none => rfl
  | some => rfl

/-- A read that fails or ends destroys the session. -/
lemma onTargetRead_ends {result : IOResult Bytes} (there : p.sessions[conn]? = some session)
    (ends : result = .failed ∨ result = .done []) : p.onTargetRead conn result = (p.destroySession conn, []) := by
  rcases ends with rfl | rfl
  · unfold onTargetRead
    rw [there]
  · unfold onTargetRead
    rw [there]

/-- Without a server nothing is forwarded to the client. -/
lemma forwardToClient_of_null (null : p.server = false) (data : Bytes) : p.forwardToClient conn data = (p, []) :=
  if_pos (by rw [null]; rfl)

/-- What `OnTargetRead` does, and whether it calls a read. -/
lemma onTargetRead_of_null (null : p.server = false) (there : p.sessions[conn]? = some session)
    (result : IOResult Bytes) :
    p.Becomes conn ((session.onRead result).map Prod.fst) (p.onTargetRead conn result).1 ∧
      (p.onTargetRead conn result).2 =
        if (session.onRead result).any Prod.snd then [(conn, session.number)] else [] := by
  have same : p.Becomes conn (some session) p := there ▸ Becomes.refl null
  match result with
  | .pending =>
    rw [onTargetRead_pending]
    exact ⟨same, rfl⟩
  | .failed =>
    rw [onTargetRead_ends there (.inl rfl)]
    exact ⟨becomes_destroySession null conn, rfl⟩
  | .done [] =>
    rw [onTargetRead_ends there (.inr rfl)]
    exact ⟨becomes_destroySession null conn, rfl⟩
  | .done (byte :: data) =>
    rw [onTargetRead_done there (List.cons_ne_nil _ _)]
    unfold ProxySession.onRead
    by_cases complete : session.handshakeComplete = true
    · simp only [if_pos complete, forwardToClient_of_null null]
      exact ⟨same, rfl⟩
    by_cases answered : answers (byte :: data) = true
    · have completes := becomes_of_get null there ProxySession.number_completes
      simp only [if_neg complete, if_pos answered, forwardToClient_of_null completes.server, ite_self]
      exact ⟨completes, rfl⟩
    by_cases refused : refuses (byte :: data) = true
    · simp only [if_neg complete, if_neg answered, if_pos refused]
      exact ⟨becomes_destroySession null conn, rfl⟩
    · simp only [if_neg complete, if_neg answered, if_neg refused]
      exact ⟨same, rfl⟩

/-- A read leaves the socket and the number of a session, if it leaves the session. -/
lemma onRead_keeps {result : IOResult Bytes} {session' : ProxySession} {again : Bool}
    (h : session.onRead result = some (session', again)) :
    session'.number = session.number ∧ session'.target = session.target := by
  unfold ProxySession.onRead at h
  split at h
  · cases h
    exact ⟨rfl, rfl⟩
  · cases h
  · cases h
  · split_ifs at h <;> cases h <;> exact ⟨rfl, rfl⟩

/-- What a read that has completed leads to, where the reads that it leads to are known. -/
lemma read_of_reads {result : IOResult Bytes} {results : List (IOResult Bytes)} (null : p.server = false)
    (there : p.sessions[conn]? = some session) (socket : session.target.isSome) (completed : result ≠ .pending)
    (reads : ∀ {p : CDPProxyHandler} {session : ProxySession}, p.server = false →
      p.sessions[conn]? = some session → session.target.isSome →
      p.startTargetReads results [(conn, session.number)] = some p1 →
      ∃ s, session.afterReads results = some s ∧ p.Becomes conn s p1)
    (ran : (p.onTargetRead conn result).1.startTargetReads results (p.onTargetRead conn result).2 = some p1) :
    ∃ s, session.afterReads (result :: results) = some s ∧ p.Becomes conn s p1 := by
  obtain ⟨becomes, calls⟩ := onTargetRead_of_null null there result
  rw [calls] at ran
  cases read : session.onRead result with
  | none =>
    rw [read] at becomes ran
    cases results with
    | nil =>
      cases ran
      exact ⟨none, by simp [ProxySession.afterReads, completed, read], becomes⟩
    | cons => cases ran
  | some next =>
    obtain ⟨session', again⟩ := next
    obtain ⟨number, same⟩ := onRead_keeps read
    rw [read] at becomes ran
    cases again with
    | false =>
      cases results with
      | nil =>
        cases ran
        exact ⟨some session', by simp [ProxySession.afterReads, completed, read], becomes⟩
      | cons => cases ran
    | true =>
      rw [Option.any_some, if_pos rfl, ← number] at ran
      obtain ⟨s, after, rest⟩ := reads becomes.server becomes.here (by rw [same]; exact socket) ran
      exact ⟨s, by simp [ProxySession.afterReads, completed, read, after], becomes.trans rest⟩

/-- What `StartTargetRead` leads to. -/
lemma startTargetReads_of_null {results : List (IOResult Bytes)} (null : p.server = false)
    (there : p.sessions[conn]? = some session) (socket : session.target.isSome)
    (ran : p.startTargetReads results [(conn, session.number)] = some p1) :
    ∃ s, session.afterReads results = some s ∧ p.Becomes conn s p1 := by
  induction results generalizing p session with
  | nil => cases ran
  | cons result results ih =>
    obtain ⟨t, target⟩ := Option.isSome_iff_exists.mp socket
    have holds : (p.sessions[conn]?.filter (·.number = session.number)).bind (·.target) = some t := by
      rw [there, Option.filter_some, if_pos (decide_eq_true rfl), Option.bind_some, target]
    unfold startTargetReads at ran
    simp only [holds] at ran
    by_cases pending : result = .pending
    · rw [if_pos pending] at ran
      cases results with
      | nil =>
        cases ran
        refine ⟨some session.waits, by rw [ProxySession.afterReads, if_pos pending, if_pos rfl], ?_⟩
        exact becomes_of_get null there ProxySession.number_waits
      | cons => cases ran
    · rw [if_neg pending, List.append_nil] at ran
      exact read_of_reads null there socket pending ih ran

/-- What a read that was outstanding leads to. -/
lemma read_of_null {result : IOResult Bytes} {results : List (IOResult Bytes)} (null : p.server = false)
    (there : p.sessions[conn]? = some session) (socket : session.target.isSome) (completed : result ≠ .pending)
    (ran : (p.onTargetRead conn result).1.startTargetReads results (p.onTargetRead conn result).2 = some p1) :
    ∃ s, session.afterReads (result :: results) = some s ∧ p.Becomes conn s p1 :=
  read_of_reads null there socket completed startTargetReads_of_null ran

/-- What `OnTargetConnected` does. -/
lemma onTargetConnected_of_null {results : SocketResults} (null : p.server = false)
    (there : p.sessions[conn]? = some session) (socket : session.target.isSome)
    (ran : p.onTargetConnected conn results = some p1) :
    ∃ s, session.onConnected results = some s ∧ p.Becomes conn s p1 := by
  unfold onTargetConnected at ran
  simp only [there] at ran
  by_cases connected : results.connect = .done ()
  · have wrote : p.Becomes conn (some (session.wrote session.handshake results.write))
        (p.wrote conn session.handshake results.write) :=
      becomes_of_get null there (ProxySession.number_wrote session.handshake results.write)
    rw [if_neg (not_not_intro connected), sendHandshake] at ran
    by_cases failed : results.write = .failed
    · rw [if_pos failed] at ran
      cases ran
      refine ⟨none, if_pos (.inr failed), ?_⟩
      exact wrote.trans (becomes_destroySession wrote.server conn)
    · rw [if_neg failed] at ran
      have socket' : (session.wrote session.handshake results.write).target.isSome := by
        rw [ProxySession.wrote, Option.isSome_map]
        exact socket
      obtain ⟨s, after, rest⟩ := startTargetReads_of_null wrote.server wrote.here socket' ran
      refine ⟨s, ?_, wrote.trans rest⟩
      rw [ProxySession.onConnected, if_neg (not_or.mpr ⟨not_not_intro connected, failed⟩)]
      exact after
  · rw [if_pos connected] at ran
    cases ran
    exact ⟨none, if_pos (.inl connected), becomes_destroySession null conn⟩

/-- What `ConnectToTarget` does. -/
lemma connectToTarget_of_null {port : Int} {results : SocketResults} (null : p.server = false)
    (ran : p.connectToTarget conn port results = some p1) :
    ∃ s, (p.sessions[conn]?.elim (some none) fun session => session.connectsTo port results) = some s ∧
      p.Becomes conn s p1 := by
  unfold connectToTarget at ran
  cases there : p.sessions[conn]? with
  | none =>
    rw [if_pos (KeyedMap.get_eq_none_iff.mp there)] at ran
    cases ran
    exact ⟨none, rfl, there ▸ Becomes.refl null⟩
  | some session =>
    have member : ¬ conn ∉ p.sessions := fun out => by
      rw [KeyedMap.get_eq_none_iff.mpr out] at there
      cases there
    rw [if_neg member] at ran
    dsimp only at ran
    have update := becomes_of_get null there
      (ProxySession.number_connects { port := port, connecting := decide (results.connect = .pending) })
    by_cases pending : results.connect = .pending
    · rw [if_pos (decide_eq_true pending)] at ran
      cases ran
      refine ⟨_, ?_, update⟩
      simp only [Option.elim, ProxySession.connectsTo, if_pos pending]
    · rw [if_neg (by rw [decide_eq_false pending]; exact Bool.false_ne_true)] at ran
      obtain ⟨s, after, rest⟩ := onTargetConnected_of_null update.server update.here rfl ran
      refine ⟨s, ?_, update.trans rest⟩
      simp only [Option.elim, ProxySession.connectsTo, if_neg pending]
      exact after

/-- What `OnWebSocketMessage` does. -/
lemma onWebSocketMessage_of_null (null : p.server = false) (conn : Int) (data : Bytes) (result : IOResult Nat) :
    p.Becomes conn (p.sessions[conn]?.bind fun session => session.forwards data result)
      (p.onWebSocketMessage conn data result) := by
  unfold onWebSocketMessage
  cases there : p.sessions[conn]? with
  | none =>
    have same : p.Becomes conn none p := there ▸ Becomes.refl null
    exact same
  | some session =>
    have same : p.Becomes conn (some session) p := there ▸ Becomes.refl null
    rw [Option.bind_some, ProxySession.forwards]
    cases complete : session.handshakeComplete with
    | false =>
      simp only [complete, Bool.false_eq_true, false_and, if_false, Bool.not_false, if_true]
      exact same
    | true =>
      cases socket : session.target with
      | none => simpa [complete, forwardToTarget, there, socket] using same
      | some t =>
        have update := becomes_of_get null there (ProxySession.number_wrote data result)
        simp only [complete, forwardToTarget, there, socket, Option.bind_some, Option.isSome_some, and_self, if_true,
          Bool.not_true, Bool.false_eq_true, if_false]
        by_cases failed : result = .failed
        · rw [if_pos failed, if_pos failed]
          exact update.trans (becomes_destroySession update.server conn)
        · rw [if_neg failed, if_neg failed]
          exact update

end CDPProxyHandler

/-! ## What a step does -/

/-- The connection that a task on the UI sequence is about. -/
def UiThreadTask.conn : UiThreadTask → Option Int
  | .findTarget conn _ => some conn
  | .handle _ | .importWorkspaces _ => none

/-- The connection that a task on the API sequence is about. -/
def ApiThreadTask.conn : ApiThreadTask → Int
  | .connectToTarget conn _ | .onClientDisconnect conn => conn

namespace Relay
variable {r r' : Relay} {e : RelayEvent} {conn : Int}

/-- The tasks that wait for a connection. -/
def waiting (r : Relay) (conn : Int) : Nat :=
  (r.handler.uiTasks.filterMap UiThreadTask.conn).count conn + (r.handler.apiTasks.map ApiThreadTask.conn).count conn

/-- The connection that a step accepts. -/
def accepts : RelayEvent → List Int
  | .api (.webSocketRequest conn info) => if (cdpEndpoint (parsePath info.path)).isSome then [conn] else []
  | _ => []

/-- The connection that is closed by its client. -/
def closes : RelayEvent → List Int
  | .onClose conn => [conn]
  | _ => []

/-- The connection whose last task is run. -/
def finishes (r : Relay) : RelayEvent → List Int
  | .api (.runApiTask _) => (r.handler.apiTasks.head?.map ApiThreadTask.conn).toList
  | _ => []

/-- The session of a connection after a step, if the sockets have as many results as the step asks for. -/
def next (r : Relay) (conn : Int) : RelayEvent → Option (Option ProxySession)
  | .api (.webSocketRequest c info) =>
    match cdpEndpoint (parsePath info.path) with
    | none => some (r.session conn)
    | some (_, subpath) =>
      some (if c = conn then some { number := r.handler.proxy.nextSession, subpath := subpath } else r.session conn)
  | .api (.webSocketMessage c data result) =>
    some (if c = conn then (r.session conn).bind fun session => session.forwards data result else r.session conn)
  | .api (.runApiTask results) =>
    match r.handler.apiTasks.head? with
    | none => none
    | some (.connectToTarget c port) =>
      if c = conn then (r.session conn).elim (some none) fun session => session.connectsTo port results
      else some (r.session conn)
    | some (.onClientDisconnect c) => some (if c = conn then none else r.session conn)
  | .onClose c => some (if c = conn then none else r.session conn)
  | .onTargetConnected c results =>
    if c = conn then (r.session conn).elim (some none) fun session => session.connected.onConnected results
    else some (r.session conn)
  | .onTargetRead c result results =>
    if c = conn then (r.session conn).elim (some none) fun session => session.reads.afterReads (result :: results)
    else some (r.session conn)
  | .onTargetWritten c i result =>
    some (if c = conn then (r.session conn).map (ProxySession.writes i result) else r.session conn)
  | .api (.httpRequest _ _) | .api (.runUiTask _ _ _) | .manager _ => some (r.session conn)

/-- The handler has a server, and its proxy has none and has sent nothing. -/
structure SetUp (r : Relay) : Prop where
  server : r.handler.server = true
  proxy : r.handler.proxy.server = false
  toClient : r.handler.proxy.toClient = []
  closed : r.handler.proxy.closed = []

/-- A step of a handler that is set up so. -/
structure After (r : Relay) (e : RelayEvent) (r' : Relay) : Prop where
  enabled : r.Enabled e
  setUp : r'.SetUp
  session : ∀ conn, r.next conn e = some (r'.session conn)
  accepted : r'.handler.accepted = r.handler.accepted ++ accepts e
  gone : r'.gone = closes e ++ r.gone
  waiting : ∀ conn, r'.waiting conn + (r.finishes e).count conn = r.waiting conn + (accepts e).count conn

/-- A step that changes one session. -/
lemma session_of_becomes {p : CDPProxyHandler} {c : Int} {s : Option ProxySession}
    (h : r.handler.proxy.Becomes c s p) (same : r'.handler.proxy = p) (conn : Int) :
    r'.session conn = if c = conn then s else r.session conn := by
  unfold session
  rw [same]
  split_ifs with here
  · rw [← here]
    exact h.here
  · exact h.other conn (Ne.symm here)

/-- The setting is kept by a step that changes one session. -/
lemma setUp_of_becomes {p : CDPProxyHandler} {c : Int} {s : Option ProxySession} (h : r.SetUp)
    (becomes : r.handler.proxy.Becomes c s p) (same : r'.handler.proxy = p)
    (server : r'.handler.server = r.handler.server) : r'.SetUp := by
  refine ⟨server.trans h.server, ?_, ?_, ?_⟩ <;> rw [same]
  · exact becomes.server
  · exact becomes.toClient.trans h.toClient
  · exact becomes.closed.trans h.closed

/-- A step that leaves the proxy and the tasks of connections as they are. -/
lemma After.quiet {h : WorkspaceApiHandler} (setUp : r.SetUp) (proxy : h.proxy = r.handler.proxy)
    (server : h.server = r.handler.server) (accepted : h.accepted = r.handler.accepted)
    (uiTasks : h.uiTasks.filterMap UiThreadTask.conn = r.handler.uiTasks.filterMap UiThreadTask.conn)
    (apiTasks : h.apiTasks = r.handler.apiTasks) (enabled : r.Enabled e)
    (next : ∀ conn, r.next conn e = some (r.session conn)) (accepts : accepts e = []) (closes : closes e = [])
    (finishes : r.finishes e = []) : r.After e { r with handler := h } where
  enabled := enabled
  setUp := by
    refine ⟨server.trans setUp.server, ?_, ?_, ?_⟩ <;> rw [proxy]
    · exact setUp.proxy
    · exact setUp.toClient
    · exact setUp.closed
  session conn := by
    refine (next conn).trans (congrArg some ?_)
    unfold Relay.session
    rw [proxy]
  accepted := by rw [accepts, List.append_nil, accepted]
  gone := by rw [closes, List.nil_append]
  waiting conn := by
    rw [accepts, finishes, Relay.waiting, Relay.waiting, uiTasks, apiTasks]

/-- A step that changes one session and nothing else. -/
lemma After.of_becomes {p : CDPProxyHandler} {c : Int} {s : Option ProxySession} (setUp : r.SetUp)
    (becomes : r.handler.proxy.Becomes c s p) (enabled : r.Enabled e)
    (next : ∀ conn, r.next conn e = some (if c = conn then s else r.session conn)) (accepts : accepts e = [])
    (closes : closes e = []) (finishes : r.finishes e = []) : r.After e (r.withProxy p) where
  enabled := enabled
  setUp := setUp_of_becomes setUp becomes rfl rfl
  session conn := by
    have after : (r.withProxy p).session conn = _ := session_of_becomes becomes rfl conn
    exact (next conn).trans (congrArg some after.symm)
  accepted := by
    rw [accepts, List.append_nil]
    rfl
  gone := by
    rw [closes, List.nil_append]
    rfl
  waiting conn := by
    rw [accepts, finishes]
    rfl

/-- No task of a request is about a connection. -/
lemma filterMap_conn_task [JSONReader] (route : Route) : route.task.toList.filterMap UiThreadTask.conn = [] := by
  unfold Route.task
  split
  · split <;> rfl
  · rfl
  · rfl
  · rfl
  · rfl
  · split <;> rfl
  · rfl

/-- Where there is a target there is a session. -/
lemma exists_session {p : TargetSocket → Bool} (h : (r.target conn).any p) :
    ∃ session, r.session conn = some session ∧ session.target.isSome := by
  obtain ⟨t, target, -⟩ := (Option.any_eq_true _ _).mp h
  obtain ⟨session, there, socket⟩ := Option.bind_eq_some_iff.mp target
  exact ⟨session, there, by rw [socket]; rfl⟩

variable [TimeLib] [JSONReader] {env : Env}

omit [JSONReader] in
/-- The lookup of a target. -/
lemma findTarget_after {h : WorkspaceApiHandler} {tasks : List UiThreadTask} {c : Int} {wsId : String}
    {basic stored : Drawn} {imported : Nat → Drawn} (setUp : r.SetUp)
    (waits : r.handler.uiTasks = .findTarget c wsId :: tasks)
    (enabled : r.Enabled (.api (.runUiTask basic stored imported)))
    (ran : WorkspaceApiHandler.runUiTask env { r.handler with uiTasks := tasks } basic stored imported
      (.findTarget c wsId) = h) : r.After (.api (.runUiTask basic stored imported)) { r with handler := h } := by
  -- the task comes back, whatever the lookup finds
  obtain ⟨task, same, about⟩ : ∃ task : ApiThreadTask,
      h = { r.handler with uiTasks := tasks, apiTasks := r.handler.apiTasks ++ [task] } ∧ task.conn = c := by
    rw [← ran]
    unfold WorkspaceApiHandler.runUiTask
    dsimp only
    split
    · exact ⟨.onClientDisconnect c, rfl, rfl⟩
    · split_ifs
      · exact ⟨.onClientDisconnect c, rfl, rfl⟩
      · exact ⟨.connectToTarget c _, rfl, rfl⟩
  rw [same]
  have proxy : r.handler.proxy.Becomes c _ r.handler.proxy := .refl setUp.proxy
  refine ⟨enabled, setUp_of_becomes setUp proxy rfl rfl, fun _ => rfl, (List.append_nil _).symm, rfl, ?_⟩
  intro conn
  simp only [waiting, finishes, accepts, waits, List.map_append, List.count_append, List.map_cons, List.map_nil, about,
    List.filterMap_cons, UiThreadTask.conn, List.count_cons, List.count_nil]
  omega

omit [TimeLib] [JSONReader] in
/-- The task that comes back. -/
lemma apiTask_after {h : WorkspaceApiHandler} {task : ApiThreadTask} {tasks : List ApiThreadTask}
    {results : SocketResults} (setUp : r.SetUp) (waits : r.handler.apiTasks = task :: tasks)
    (enabled : r.Enabled (.api (.runApiTask results)))
    (ran : WorkspaceApiHandler.runApiTask { r.handler with apiTasks := tasks } results task = some h) :
    r.After (.api (.runApiTask results)) { r with handler := h } := by
  obtain ⟨p, s, same, becomes, next⟩ : ∃ p s, h = { r.handler with apiTasks := tasks, proxy := p } ∧
      r.handler.proxy.Becomes task.conn s p ∧ ∀ conn, r.next conn (.api (.runApiTask results)) =
        some (if task.conn = conn then s else r.session conn) := by
    cases task with
    | connectToTarget c port =>
      obtain ⟨p, connects, rfl⟩ := Option.map_eq_some_iff.mp ran
      obtain ⟨s, after, becomes⟩ :=
        CDPProxyHandler.connectToTarget_of_null (p := r.handler.proxy) setUp.proxy connects
      refine ⟨p, s, rfl, becomes, ?_⟩
      intro conn
      simp only [next, waits, List.head?_cons, ApiThreadTask.conn]
      by_cases here : c = conn
      · rw [if_pos here, ← here]
        exact after.trans (congrArg some (if_pos rfl).symm)
      · rw [if_neg here]
        exact congrArg some (if_neg here).symm
    | onClientDisconnect c =>
      cases ran
      refine ⟨_, none, rfl, CDPProxyHandler.becomes_destroySession setUp.proxy c, ?_⟩
      intro conn
      simp only [next, waits, List.head?_cons, ApiThreadTask.conn]
      rfl
  rw [same]
  refine ⟨enabled, setUp_of_becomes setUp becomes rfl rfl, ?_, (List.append_nil _).symm, rfl, ?_⟩
  · intro conn
    exact (next conn).trans (congrArg some (session_of_becomes becomes rfl conn).symm)
  · intro conn
    simp only [waiting, finishes, accepts, waits, List.head?_cons, Option.map_some, Option.toList_some, List.map_cons,
      List.count_cons, List.count_nil]
    omega

omit [TimeLib] [JSONReader] in
/-- A connection is upgraded. -/
lemma webSocketRequest_after {c : Int} {info : HttpServerRequestInfo} (setUp : r.SetUp)
    (enabled : r.Enabled (.api (.webSocketRequest c info))) :
    r.After (.api (.webSocketRequest c info)) { r with handler := r.handler.onWebSocketRequest c info } := by
  unfold WorkspaceApiHandler.onWebSocketRequest
  cases endpoint : cdpEndpoint (parsePath info.path) with
  | none =>
    refine .quiet setUp rfl rfl rfl rfl rfl enabled ?_ ?_ rfl rfl
    · intro conn
      simp only [next, endpoint]
    · simp only [accepts, endpoint, Option.isSome_none, Bool.false_eq_true, if_false]
  | some found =>
    obtain ⟨wsId, subpath⟩ := found
    have becomes := CDPProxyHandler.becomes_createSession setUp.proxy c subpath
    have accepted : accepts (.api (.webSocketRequest c info)) = [c] := by
      simp only [accepts, endpoint, Option.isSome_some, if_true]
    exact {
      enabled := enabled
      setUp := setUp_of_becomes setUp becomes rfl rfl
      session := fun conn => by
        simp only [next, endpoint]
        exact congrArg some (session_of_becomes becomes rfl conn).symm
      accepted := by
        rw [accepted]
        exact if_pos setUp.server
      gone := rfl
      waiting := fun conn => by
        rw [accepted]
        simp only [waiting, finishes, List.filterMap_append, List.count_append]
        simp only [List.filterMap_cons, UiThreadTask.conn, List.filterMap_nil, List.count_nil]
        omega }

/-- What every step does. -/
theorem step_after (setUp : r.SetUp) (st : r.step env e = some r') : r.After e r' := by
  unfold step at st
  split_ifs at st with enabled
  cases e with
  | manager e =>
    obtain ⟨w, -, rfl⟩ := Option.map_eq_some_iff.mp st
    exact .quiet setUp rfl rfl rfl rfl rfl enabled (fun _ => rfl) rfl rfl rfl
  | onClose c =>
    cases st
    have becomes := CDPProxyHandler.becomes_destroySession setUp.proxy c
    exact {
      enabled := enabled
      setUp := setUp_of_becomes setUp becomes rfl rfl
      session := fun conn => congrArg some (session_of_becomes becomes rfl conn).symm
      accepted := (List.append_nil _).symm
      gone := rfl
      waiting := fun conn => rfl }
  | onTargetConnected c results =>
    obtain ⟨p, ran, rfl⟩ := Option.map_eq_some_iff.mp st
    obtain ⟨session, there, socket⟩ := exists_session enabled.1
    have connected := CDPProxyHandler.becomes_of_get setUp.proxy there ProxySession.number_connected
    obtain ⟨s, after, becomes⟩ := CDPProxyHandler.onTargetConnected_of_null connected.server connected.here
      (by rw [ProxySession.connected, Option.isSome_map]; exact socket) ran
    refine .of_becomes setUp (connected.trans becomes) enabled ?_ rfl rfl rfl
    intro conn
    rw [next]
    split_ifs with here
    · rw [← here, there]
      exact after
    · rfl
  | onTargetRead c result results =>
    obtain ⟨p, ran, rfl⟩ := Option.map_eq_some_iff.mp st
    obtain ⟨session, there, socket⟩ := exists_session enabled.1
    have completed := CDPProxyHandler.becomes_of_get setUp.proxy there ProxySession.number_reads
    obtain ⟨s, after, becomes⟩ := CDPProxyHandler.read_of_null completed.server completed.here
      (by rw [ProxySession.reads, Option.isSome_map]; exact socket) enabled.2.1 ran
    refine .of_becomes setUp (completed.trans becomes) enabled ?_ rfl rfl rfl
    intro conn
    rw [next]
    split_ifs with here
    · rw [← here, there]
      exact after
    · rfl
  | onTargetWritten c i result =>
    cases st
    have becomes := CDPProxyHandler.becomes_updateSession setUp.proxy c (ProxySession.number_writes i result)
    refine .of_becomes setUp becomes enabled ?_ rfl rfl rfl
    intro conn
    rw [next]
    split_ifs with here
    · rw [← here]
      rfl
    · rfl
  | api e =>
    obtain ⟨h, ran, rfl⟩ := Option.map_eq_some_iff.mp st
    cases e with
    | httpRequest c info =>
      cases ran
      refine .quiet setUp rfl rfl rfl ?_ rfl enabled (fun _ => rfl) rfl rfl rfl
      unfold WorkspaceApiHandler.onHttpRequest
      rw [List.filterMap_append, filterMap_conn_task, List.append_nil]
    | webSocketRequest c info =>
      cases ran
      exact webSocketRequest_after setUp enabled
    | webSocketMessage c data result =>
      cases ran
      have becomes := CDPProxyHandler.onWebSocketMessage_of_null setUp.proxy c data result
      refine .of_becomes setUp becomes enabled ?_ rfl rfl rfl
      intro conn
      rw [next]
      split_ifs with here
      · rw [← here]
        rfl
      · rfl
    | runUiTask basic stored imported =>
      cases waits : r.handler.uiTasks with
      | nil =>
        simp only [WorkspaceApiHandler.step, waits] at ran
        cases ran
      | cons task tasks =>
        simp only [WorkspaceApiHandler.step, waits] at ran
        cases task with
        | handle task =>
          cases ran
          refine .quiet setUp rfl rfl rfl ?_ rfl enabled (fun _ => rfl) rfl rfl rfl
          rw [waits]
          rfl
        | importWorkspaces items =>
          cases ran
          refine .quiet setUp rfl rfl rfl ?_ rfl enabled (fun _ => rfl) rfl rfl rfl
          rw [waits]
          rfl
        | findTarget c wsId =>
          exact findTarget_after setUp waits enabled (Option.some.inj ran)
    | runApiTask results =>
      cases waits : r.handler.apiTasks with
      | nil =>
        simp only [WorkspaceApiHandler.step, waits] at ran
        cases ran
      | cons task tasks =>
        simp only [WorkspaceApiHandler.step, waits] at ran
        split_ifs at ran
        exact apiTask_after setUp waits enabled ran

/-! ## The turns of a connection -/

omit [TimeLib] [JSONReader]

/-- The connection that a step is about. -/
def about (r : Relay) : RelayEvent → Option Int
  | .api (.webSocketRequest c _) | .api (.webSocketMessage c _ _) | .onClose c | .onTargetConnected c _
  | .onTargetRead c _ _ | .onTargetWritten c _ _ => some c
  | .api (.runApiTask _) => r.handler.apiTasks.head?.map ApiThreadTask.conn
  | .api (.httpRequest _ _) | .api (.runUiTask _ _ _) | .manager _ => none

/-- What `next` says, by the steps that are about the connection. -/
inductive Turn (r : Relay) (conn : Int) : RelayEvent → Option ProxySession → Prop where
  | other {e : RelayEvent} : r.about e ≠ some conn → Turn r conn e (r.session conn)
  | refused {info : HttpServerRequestInfo} :
    accepts (.api (.webSocketRequest conn info)) = [] →
    Turn r conn (.api (.webSocketRequest conn info)) (r.session conn)
  | accepted {info : HttpServerRequestInfo} {number : Nat} {subpath : String} :
    accepts (.api (.webSocketRequest conn info)) = [conn] →
    Turn r conn (.api (.webSocketRequest conn info)) (some { number := number, subpath := subpath })
  | message {data : Bytes} {result : IOResult Nat} :
    Turn r conn (.api (.webSocketMessage conn data result))
      ((r.session conn).bind fun session => session.forwards data result)
  | connects {results : SocketResults} {port : Int} {s : Option ProxySession} :
    r.handler.apiTasks.head? = some (.connectToTarget conn port) →
    ((r.session conn).elim (some none) fun session => session.connectsTo port results) = some s →
    Turn r conn (.api (.runApiTask results)) s
  | disconnects {results : SocketResults} :
    r.handler.apiTasks.head? = some (.onClientDisconnect conn) →
    Turn r conn (.api (.runApiTask results)) none
  | closed : Turn r conn (.onClose conn) none
  | connected {results : SocketResults} {s : Option ProxySession} :
    ((r.session conn).elim (some none) fun session => session.connected.onConnected results) = some s →
    Turn r conn (.onTargetConnected conn results) s
  | read {result : IOResult Bytes} {results : List (IOResult Bytes)} {s : Option ProxySession} :
    ((r.session conn).elim (some none) fun session => session.reads.afterReads (result :: results)) = some s →
    Turn r conn (.onTargetRead conn result results) s
  | written {i : Nat} {result : IOResult Nat} :
    Turn r conn (.onTargetWritten conn i result) ((r.session conn).map (ProxySession.writes i result))

/-- A step about another connection. -/
lemma Turn.of_ne {s : Option ProxySession} {c : Int} (about : r.about e = some c) (ne : c ≠ conn)
    (same : s = r.session conn) : r.Turn conn e s := by
  rw [same]
  apply Turn.other
  rw [about]
  exact fun h => ne (Option.some.inj h)

/-- A turn of the session that the event is about, if the event takes place. -/
lemma Turn.of_ite {s : Option ProxySession} {f : Option (Option ProxySession)} {c : Int} (about : r.about e = some c)
    (h : (if c = conn then f else some (r.session conn)) = some s) (here : c = conn → f = some s → r.Turn conn e s) :
    r.Turn conn e s := by
  split_ifs at h with same
  · exact here same h
  · exact .of_ne about same (Option.some.inj h).symm

/-- A turn of the session that the event is about, or none. -/
lemma Turn.of_some_ite {s a : Option ProxySession} {c : Int} (about : r.about e = some c)
    (h : some (if c = conn then a else r.session conn) = some s) (here : c = conn → r.Turn conn e a) :
    r.Turn conn e s := by
  split_ifs at h with same
  · cases h
    exact here same
  · exact .of_ne about same (Option.some.inj h).symm

/-- The next state of a session comes from one of its turns. -/
lemma turn_of_next {s : Option ProxySession} (h : r.next conn e = some s) : r.Turn conn e s := by
  cases e with
  | manager e =>
    cases h
    exact .other nofun
  | onClose c =>
    apply Turn.of_some_ite rfl h
    rintro rfl
    exact .closed
  | onTargetConnected c results =>
    apply Turn.of_ite rfl h
    rintro rfl ran
    exact .connected ran
  | onTargetRead c result results =>
    apply Turn.of_ite rfl h
    rintro rfl ran
    exact .read ran
  | onTargetWritten c i result =>
    apply Turn.of_some_ite rfl h
    rintro rfl
    exact .written
  | api e =>
    cases e with
    | httpRequest | runUiTask =>
      cases h
      exact .other nofun
    | webSocketMessage c data result =>
      apply Turn.of_some_ite rfl h
      rintro rfl
      exact .message
    | webSocketRequest c info =>
      cases endpoint : cdpEndpoint (parsePath info.path) with
      | none =>
        simp only [next, endpoint] at h
        cases h
        by_cases here : c = conn
        · subst here
          exact .refused (by simp [accepts, endpoint])
        · exact .of_ne rfl here rfl
      | some found =>
        simp only [next, endpoint] at h
        apply Turn.of_some_ite rfl h
        rintro rfl
        exact .accepted (by simp [accepts, endpoint])
    | runApiTask results =>
      cases waits : r.handler.apiTasks.head? with
      | none =>
        simp only [next, waits] at h
        cases h
      | some task =>
        simp only [next, waits] at h
        have about : r.about (.api (.runApiTask results)) = some task.conn := by
          rw [Relay.about, waits, Option.map_some]
        cases task with
        | connectToTarget c port =>
          apply Turn.of_ite about h
          rintro rfl ran
          exact .connects waits ran
        | onClientDisconnect c =>
          apply Turn.of_some_ite about h
          rintro rfl
          exact .disconnects waits

end Relay

end PureCloak.API
