import PureCloak.API.UpgradeDetection

/-!
# Reads from the targets

With a server, `StartTargetRead` is called again by `OnTargetRead` and by `ForwardToClient`, which `OnTargetRead` calls
too. `reads_once_iff` says in which runs of the proxy a session has at most one read outstanding on its socket, and
exactly one from its request on: those in which nothing comes behind the head of a response to the upgrade in the read
that is taken for it, since both functions read on then.
-/

namespace PureCloak.API
open PureCloak.Base PureCloak.Content Machine

/-- The calls of the server and of `ConnectToTarget`, and the callbacks of the sockets. -/
inductive ProxyEvent where
  | createSession (conn : Int) (subpath : String)
  | connectToTarget (conn port : Int) (results : SocketResults)
  | onTargetConnected (conn : Int) (results : SocketResults)
  /-- An outstanding read completes; the others are the results of reads that are called then. -/
  | onTargetRead (conn : Int) (result : IOResult Bytes) (results : List (IOResult Bytes))
  | onTargetWritten (conn : Int) (i : Nat) (result : IOResult Nat)
  | onWebSocketMessage (conn : Int) (data : Bytes) (result : IOResult Nat)
  | onClientDisconnect (conn : Int)

/-- The results of the calls of `Read` in a step and of the read that it is the callback of, with the connection. -/
def ProxyEvent.targetReads : ProxyEvent → Option (Int × List (IOResult Bytes))
  | .connectToTarget conn _ results | .onTargetConnected conn results =>
    if results.connect = .done () ∧ results.write ≠ .failed then some (conn, results.reads) else none
  | .onTargetRead conn result results => some (conn, result :: results)
  | .createSession _ _ | .onTargetWritten _ _ _ | .onWebSocketMessage _ _ _ | .onClientDisconnect _ => none

/-- Nothing is behind the head in the read that is taken for the answer. -/
def comesAlone : Bool → List (IOResult Bytes) → Bool
  | true, _ | false, [] => true
  | false, .done data :: results => if answers data then (leftover data).isEmpty else comesAlone false results
  | false, .pending :: results | false, .failed :: results => comesAlone false results

/-- After the handshake it does not matter what comes together. -/
lemma comesAlone_complete (results : List (IOResult Bytes)) : comesAlone true results = true := by
  cases results with
  | nil => rfl
  | cons => rfl

namespace CDPProxyHandler

/-- The socket of a connection. -/
def target (p : CDPProxyHandler) (conn : Int) : Option TargetSocket :=
  p.sessions[conn]?.bind (·.target)

/-- What the sockets can do. -/
def Enabled (p : CDPProxyHandler) : ProxyEvent → Prop
  | .onTargetConnected conn results => (p.target conn).any (·.connecting) ∧ results.connect ≠ .pending
  | .onTargetRead conn result _ => (p.target conn).any (0 < ·.reads) ∧ result ≠ .pending
  | .onTargetWritten conn i result =>
    (p.target conn).any (fun t => (t.writes[i]?).any (·.2 = .pending)) ∧ result ≠ .pending
  | .createSession _ _ | .connectToTarget _ _ _ | .onWebSocketMessage _ _ _ | .onClientDisconnect _ => True

instance (p : CDPProxyHandler) (e : ProxyEvent) : Decidable (p.Enabled e) :=
  match e with
  | .onTargetConnected _ _ | .onTargetRead _ _ _ | .onTargetWritten _ _ _ => inferInstanceAs (Decidable (_ ∧ _))
  | .createSession _ _ | .connectToTarget _ _ _ | .onWebSocketMessage _ _ _ | .onClientDisconnect _ =>
    inferInstanceAs (Decidable True)

/-- One step. -/
def step (p : CDPProxyHandler) (e : ProxyEvent) : Option CDPProxyHandler :=
  if p.Enabled e then
    match e with
    | .createSession conn subpath => some (p.createSession conn subpath)
    | .connectToTarget conn port results => p.connectToTarget conn port results
    | .onTargetConnected conn results =>
      (p.updateSession conn ProxySession.connected ProxySession.number_connected).onTargetConnected conn results
    | .onTargetRead conn result results =>
      let (p, calls) := (p.updateSession conn ProxySession.reads ProxySession.number_reads).onTargetRead conn result
      p.startTargetReads results calls
    | .onTargetWritten conn i result =>
      some (p.updateSession conn (ProxySession.writes i result) (ProxySession.number_writes i result))
    | .onWebSocketMessage conn data result => some (p.onWebSocketMessage conn data result)
    | .onClientDisconnect conn => some (p.onClientDisconnect conn)
  else none

/-- The handler after `set_server`. -/
def serving : CDPProxyHandler where
  server := true
  numbered := Relay.numbered_empty

/-! ## Calls -/

/-- The calls of `StartTargetRead` in `startTargetReads`, each with the handler before it. -/
def readCalls : List (IOResult Bytes) → List (Int × Nat) → CDPProxyHandler → List (CDPProxyHandler × Int × Nat)
  | result :: results, (conn, number) :: calls, p =>
    (p, conn, number) ::
      if result = .pending then
        readCalls results calls (p.updateSession conn ProxySession.waits ProxySession.number_waits)
      else
        let (p, more) := p.onTargetRead conn result
        readCalls results (more ++ calls) p
  | [], _, _ | _ :: _, [], _ => []

/-- The calls in `OnTargetConnected`. -/
def connectedCalls (p : CDPProxyHandler) (conn : Int) (results : SocketResults) : List (CDPProxyHandler × Int × Nat) :=
  match p.sessions[conn]? with
  | none => []
  | some session =>
    if results.connect = .done () ∧ results.write ≠ .failed then
      readCalls results.reads [(conn, session.number)] (p.wrote conn session.handshake results.write)
    else []

/-- The calls in a step. -/
def calls (p : CDPProxyHandler) : ProxyEvent → List (CDPProxyHandler × Int × Nat)
  | .connectToTarget conn port results =>
    if results.connect = .pending then []
    else
      let socket : TargetSocket := { port := port }
      (p.updateSession conn (ProxySession.connects socket) (ProxySession.number_connects socket)).connectedCalls conn
        results
  | .onTargetConnected conn results =>
    (p.updateSession conn ProxySession.connected ProxySession.number_connected).connectedCalls conn results
  | .onTargetRead conn result results =>
    let (p, calls) := (p.updateSession conn ProxySession.reads ProxySession.number_reads).onTargetRead conn result
    readCalls results calls p
  | .createSession _ _ | .onTargetWritten _ _ _ | .onWebSocketMessage _ _ _ | .onClientDisconnect _ => []

/-! ## What is claimed of them -/

/-- The call is made with a session of the handler, which has no read outstanding, and no socket has two of them. -/
structure Fresh (p : CDPProxyHandler) (conn : Int) (number : Nat) : Prop where
  session : ∃ session t, p.sessions[conn]? = some session ∧ session.number = number ∧ session.target = some t ∧
    t.reads = 0
  once : ∀ conn, ∀ t ∈ p.target conn, t.reads ≤ 1

/-- Every call in a step. -/
def CallsFresh (p : CDPProxyHandler) (e : ProxyEvent) : Prop :=
  ∀ call ∈ p.calls e, call.1.Fresh call.2.1 call.2.2

/-- A socket that is connected, so that the request was sent on it, has one outstanding read, and another one none. -/
def OneRead (p : CDPProxyHandler) (conn : Int) : Prop :=
  ∀ t ∈ p.target conn, t.reads = if t.connecting then 0 else 1

/-- The response to the upgrade comes alone in its read. -/
def Spared (p : CDPProxyHandler) (e : ProxyEvent) : Prop :=
  ∀ reads ∈ e.targetReads, ∀ session ∈ p.sessions[reads.1]?,
    comesAlone session.handshakeComplete reads.2 = true

instance (p : CDPProxyHandler) (e : ProxyEvent) : Decidable (p.Spared e) :=
  inferInstanceAs (Decidable (∀ reads ∈ e.targetReads, ∀ session ∈ p.sessions[reads.1]?,
    comesAlone session.handshakeComplete reads.2 = true))

/-- What a run keeps. -/
structure ReadsOnce (p : CDPProxyHandler) : Prop where
  server : p.server = true
  one : ∀ conn, p.OneRead conn

/-! ## One read -/

section
variable {p p' : CDPProxyHandler} {conn other : Int} {session : ProxySession} {result : IOResult Bytes}
  {results : List (IOResult Bytes)}

/-- Data for a client that is there starts one read. -/
lemma forwardToClient_calls (server : p.server = true) (there : p.sessions[conn]? = some session) (data : Bytes) :
    (p.forwardToClient conn data).2 = [(conn, session.number)] := by
  rw [forwardToClient, server]
  dsimp only
  rw [if_neg (by decide), there]

/-- Forwarding keeps the server. -/
lemma forwardToClient_server (p : CDPProxyHandler) (conn : Int) (data : Bytes) :
    (p.forwardToClient conn data).1.server = p.server := by
  rw [forwardToClient]
  dsimp only
  split_ifs
  · rfl
  · split
    · rfl
    · rfl

/-- A read leaves the other sessions. -/
lemma onTargetRead_frame (p : CDPProxyHandler) (conn : Int) (result : IOResult Bytes) :
    (p.onTargetRead conn result).1.server = p.server ∧
    ∀ other, other ≠ conn → (p.onTargetRead conn result).1.sessions[other]? = p.sessions[other]? := by
  have destroys : (p.destroySession conn).server = p.server ∧
      ∀ other, other ≠ conn → (p.destroySession conn).sessions[other]? = p.sessions[other]? :=
    ⟨rfl, fun other ne => get_destroySession.trans (if_neg ne.symm)⟩
  let completed := p.updateSession conn ProxySession.completes ProxySession.number_completes
  have completes : completed.server = p.server ∧
      ∀ other, other ≠ conn → completed.sessions[other]? = p.sessions[other]? :=
    ⟨rfl, fun other ne => get_updateSession.trans (if_neg ne.symm)⟩
  cases there : p.sessions[conn]? with
  | none =>
    rw [onTargetRead_gone there]
    exact ⟨rfl, fun _ _ => rfl⟩
  | some session =>
    match result with
    | .pending =>
      rw [onTargetRead_pending]
      exact ⟨rfl, fun _ _ => rfl⟩
    | .failed =>
      rw [onTargetRead_ends there (.inl rfl)]
      exact destroys
    | .done [] =>
      rw [onTargetRead_ends there (.inr rfl)]
      exact destroys
    | .done (byte :: data) =>
      rw [onTargetRead_done there (List.cons_ne_nil _ _)]
      split_ifs with complete answered left
      · rw [forwardToClient_server, forwardToClient_sessions]
        exact ⟨rfl, fun _ _ => rfl⟩
      · exact completes
      · dsimp only
        rw [forwardToClient_server, forwardToClient_sessions]
        exact completes
      · exact destroys
      · exact ⟨rfl, fun _ _ => rfl⟩

/-- What a read that has completed leads to, with the calls of `StartTargetRead`. -/
inductive Leads (conn : Int) (session : ProxySession) (result : IOResult Bytes)
    (next : CDPProxyHandler × List (Int × Nat)) : Prop where
  | ends :
    next.1.sessions[conn]? = none →
    next.2 = [] →
    comesAlone session.handshakeComplete [result] = true →
    Leads conn session result next
  | reads {session' : ProxySession} :
    next.1.sessions[conn]? = some session' →
    session'.number = session.number →
    session'.target = session.target →
    next.2 = [(conn, session.number)] →
    (∀ results, comesAlone session.handshakeComplete (result :: results) =
      comesAlone session'.handshakeComplete results) →
    Leads conn session result next
  | readsTwice {session' : ProxySession} :
    next.1.sessions[conn]? = some session' →
    session'.number = session.number →
    next.2 = [(conn, session.number), (conn, session.number)] →
    (∀ results, comesAlone session.handshakeComplete (result :: results) = false) →
    Leads conn session result next

/-- A completed read leads to one read of the same session, or to its end. -/
lemma onTargetRead_leads (server : p.server = true) (there : p.sessions[conn]? = some session)
    (completed : result ≠ .pending) : Leads conn session result (p.onTargetRead conn result) := by
  have gone : (p.destroySession conn).sessions[conn]? = none := get_destroySession.trans (if_pos rfl)
  have none_behind : comesAlone session.handshakeComplete [.failed] = true ∧
      comesAlone session.handshakeComplete [.done []] = true := by
    cases session.handshakeComplete with
    | true => exact ⟨rfl, rfl⟩
    | false => exact ⟨rfl, rfl⟩
  match result with
  | .pending => exact absurd rfl completed
  | .failed =>
    rw [onTargetRead_ends there (.inl rfl)]
    exact .ends gone rfl none_behind.1
  | .done [] =>
    rw [onTargetRead_ends there (.inr rfl)]
    exact .ends gone rfl none_behind.2
  | .done (byte :: data) =>
    rw [onTargetRead_done there (List.cons_ne_nil _ _)]
    cases complete : session.handshakeComplete with
    | true =>
      -- `ForwardToClient` reads on, and `OnTargetRead` leaves it at that
      have still : (p.forwardToClient conn (byte :: data)).1.sessions[conn]? = some session := by
        rw [forwardToClient_sessions]
        exact there
      refine .reads still rfl rfl (forwardToClient_calls server there _) fun results => ?_
      rw [complete, comesAlone_complete, comesAlone_complete]
    | false =>
      cases answered : answers (byte :: data) with
      | true =>
        have completes : (p.updateSession conn ProxySession.completes ProxySession.number_completes).sessions[conn]? =
            some session.completes := by
          rw [get_updateSession, if_pos rfl, there]
          rfl
        cases left : leftover (byte :: data) with
        | nil =>
          refine .reads completes rfl rfl rfl fun results => ?_
          rw [complete, comesAlone, if_pos answered, left]
          exact (comesAlone_complete results).symm
        | cons first rest =>
          -- both read on
          let p' := p.updateSession conn ProxySession.completes ProxySession.number_completes
          have still : (p'.forwardToClient conn (first :: rest)).1.sessions[conn]? = some session.completes := by
            rw [forwardToClient_sessions]
            exact completes
          refine .readsTwice still rfl ?_ fun results => ?_
          · have once := forwardToClient_calls (p := p') server completes (first :: rest)
            exact congrArg (· ++ [(conn, session.number)]) once
          · rw [complete, comesAlone, if_pos answered, left]
            rfl
      | false =>
        cases refused : refuses (byte :: data) with
        | true =>
          refine .ends gone rfl ?_
          rw [complete, comesAlone, answered]
          rfl
        | false =>
          refine .reads there rfl rfl rfl fun results => ?_
          rw [complete, comesAlone, answered]
          rfl

/-! ## All the reads that one leads to -/

/-- The target of a connection is that of its session. -/
lemma target_eq (there : p.sessions[conn]? = some session) : p.target conn = session.target :=
  congrArg (·.bind (·.target)) there

/-- What is read of a connection depends on its session alone. -/
lemma OneRead.congr (one : p.OneRead other) (same : p'.sessions[other]? = p.sessions[other]?) : p'.OneRead other := by
  rw [OneRead, target, same]
  exact one

/-- No socket has more than one read. -/
lemma OneRead.le (one : p.OneRead conn) {t : TargetSocket} (socket : t ∈ p.target conn) : t.reads ≤ 1 := by
  rw [one t socket]
  split_ifs
  · exact Nat.zero_le 1
  · exact Nat.le_refl 1

/-- The session is connected and has no read outstanding, and the others have theirs. -/
structure Reading (p : CDPProxyHandler) (conn : Int) (session : ProxySession) : Prop where
  server : p.server = true
  there : p.sessions[conn]? = some session
  idle : ∃ t, session.target = some t ∧ t.connecting = false ∧ t.reads = 0
  others : ∀ other, other ≠ conn → p.OneRead other

/-- The session that reads is the one that is there. -/
lemma Reading.fresh (reading : p.Reading conn session) : p.Fresh conn session.number := by
  obtain ⟨t, socket, _, none⟩ := reading.idle
  refine ⟨⟨session, t, reading.there, rfl, socket, none⟩, fun other t' socket' => ?_⟩
  by_cases same : other = conn
  · rw [same, target_eq reading.there, socket] at socket'
    cases socket'
    rw [none]
    exact Nat.zero_le 1
  · exact (reading.others other same).le socket'

/-- A read is called, and waits. -/
lemma Reading.waits (reading : p.Reading conn session) :
    ReadsOnce (p.updateSession conn ProxySession.waits ProxySession.number_waits) := by
  refine ⟨reading.server, fun other => ?_⟩
  by_cases same : conn = other
  · rw [← same]
    intro t socket
    obtain ⟨before, old, connected, none⟩ := reading.idle
    rw [target, get_updateSession, if_pos rfl, reading.there, Option.map_some, Option.bind_some, ProxySession.waits,
      old] at socket
    cases socket
    dsimp only
    rw [connected, none]
    rfl
  · exact (reading.others other (Ne.symm same)).congr (get_updateSession.trans (if_neg same))

/-- A read has completed, and another one is called. -/
lemma Reading.next {session' : ProxySession} (reading : p.Reading conn session)
    (there : (p.onTargetRead conn result).1.sessions[conn]? = some session') (same : session'.target = session.target) :
    (p.onTargetRead conn result).1.Reading conn session' := by
  obtain ⟨server, others⟩ := onTargetRead_frame p conn result
  refine ⟨server.trans reading.server, there, ?_, fun other ne => (reading.others other ne).congr (others other ne)⟩
  rw [same]
  exact reading.idle

/-- The session is gone. -/
lemma Reading.gone (reading : p.Reading conn session) (server : p'.server = p.server)
    (gone : p'.sessions[conn]? = none) (others : ∀ other, other ≠ conn → p'.sessions[other]? = p.sessions[other]?) :
    ReadsOnce p' := by
  refine ⟨server.trans reading.server, fun other => ?_⟩
  by_cases same : other = conn
  · rw [same, OneRead, target, gone]
    intro t socket
    cases socket
  · exact (reading.others other same).congr (others other same)

/-- Without calls nothing is started. -/
lemma startTargetReads_none (ran : p.startTargetReads results [] = some p') : results = [] ∧ p' = p := by
  cases results with
  | nil =>
    cases ran
    exact ⟨rfl, rfl⟩
  | cons => cases ran

/-- A call with a session that can be read. -/
lemma startTargetReads_fresh {number : Nat} {calls : List (Int × Nat)} (fresh : p.Fresh conn number) :
    p.startTargetReads (result :: results) ((conn, number) :: calls) =
      if result = .pending then
        (p.updateSession conn ProxySession.waits ProxySession.number_waits).startTargetReads results calls
      else (p.onTargetRead conn result).1.startTargetReads results ((p.onTargetRead conn result).2 ++ calls) := by
  obtain ⟨session, t, there, same, socket, _⟩ := fresh.session
  have holds : (p.sessions[conn]?.filter (·.number = number)).bind (·.target) = some t := by
    rw [there, Option.filter_some, if_pos (decide_eq_true same), Option.bind_some, socket]
  conv_lhs => unfold startTargetReads
  simp only [holds]

/-- Two calls for a session are one too many: a read is outstanding when the second one is made, or the session is
gone, or the first one has led to two more. -/
lemma not_fresh_twice {number : Nat} {calls : List (Int × Nat)} (server : p.server = true)
    (ran : p.startTargetReads results ((conn, number) :: (conn, number) :: calls) = some p') :
    ¬ ∀ call ∈ readCalls results ((conn, number) :: (conn, number) :: calls) p, call.1.Fresh call.2.1 call.2.2 := by
  intro fresh
  induction results generalizing p calls with
  | nil => cases ran
  | cons result results ih =>
    rw [readCalls, List.forall_mem_cons] at fresh
    obtain ⟨first, later⟩ := fresh
    rw [startTargetReads_fresh first] at ran
    obtain ⟨session, t, there, rfl, socket, none⟩ := first.session
    have not_next {p : CDPProxyHandler} (ran : p.startTargetReads results ((conn, session.number) :: calls) = some p')
        (fresh : ∀ call ∈ readCalls results ((conn, session.number) :: calls) p, call.1.Fresh call.2.1 call.2.2) :
        p.Fresh conn session.number := by
      cases results with
      | nil => cases ran
      | cons =>
        rw [readCalls] at fresh
        exact fresh _ List.mem_cons_self
    by_cases pending : result = .pending
    -- the first call waits, so that the second one finds a read outstanding
    · rw [if_pos pending] at ran later
      obtain ⟨session', t', there', _, socket', idle⟩ := (not_next ran later).session
      rw [get_updateSession, if_pos rfl, there] at there'
      cases there'
      rw [ProxySession.waits, socket] at socket'
      cases socket'
      cases idle
    · rw [if_neg pending] at ran later
      dsimp only at later
      have server' := (onTargetRead_frame p conn result).1.trans server
      cases onTargetRead_leads server there pending with
      | ends gone calls_eq =>
        -- the second call is for a session that is gone
        rw [calls_eq] at ran later
        obtain ⟨_, _, there', _⟩ := (not_next ran later).session
        cases gone.symm.trans there'
      | reads _ _ _ calls_eq =>
        rw [calls_eq] at ran later
        exact ih server' ran later
      | readsTwice _ _ calls_eq =>
        rw [calls_eq] at ran later
        exact ih server' ran later

/-- From a call for a session that is connected, all the calls are as claimed exactly where the response comes alone,
and then every session has its read again. -/
lemma Reading.calls_iff (reading : p.Reading conn session)
    (ran : p.startTargetReads results [(conn, session.number)] = some p') :
    ((∀ call ∈ readCalls results [(conn, session.number)] p, call.1.Fresh call.2.1 call.2.2) ↔
      comesAlone session.handshakeComplete results = true) ∧
    (comesAlone session.handshakeComplete results = true → ReadsOnce p') := by
  induction results generalizing p session with
  | nil => cases ran
  | cons result results ih =>
    rw [startTargetReads_fresh reading.fresh] at ran
    rw [readCalls, List.forall_mem_cons, and_iff_right reading.fresh]
    by_cases pending : result = .pending
    · rw [if_pos pending] at ran
      obtain ⟨rfl, rfl⟩ := startTargetReads_none ran
      rw [pending, if_pos rfl]
      have alone : comesAlone session.handshakeComplete [.pending] = true := by
        cases session.handshakeComplete with
        | true => rfl
        | false => rfl
      exact ⟨iff_of_true (List.forall_mem_nil _) alone, fun _ => reading.waits⟩
    · rw [if_neg pending] at ran ⊢
      dsimp only
      cases onTargetRead_leads reading.server reading.there pending with
      | ends gone calls_eq alone =>
        rw [calls_eq] at ran ⊢
        obtain ⟨rfl, rfl⟩ := startTargetReads_none ran
        obtain ⟨server, others⟩ := onTargetRead_frame p conn result
        exact ⟨iff_of_true (List.forall_mem_nil _) alone, fun _ => reading.gone server gone others⟩
      | reads there number socket calls_eq alone =>
        rw [calls_eq, ← number] at ran ⊢
        rw [alone]
        exact ih (reading.next there socket) ran
      | readsTwice _ _ calls_eq not_alone =>
        rw [calls_eq] at ran ⊢
        rw [not_alone]
        have server := (onTargetRead_frame p conn result).1.trans reading.server
        exact ⟨iff_of_false (not_fresh_twice server ran) Bool.false_ne_true, fun h => absurd h Bool.false_ne_true⟩

/-! ## Steps -/

/-- With the session that reads gone, the others have one read each. -/
lemma Reading.destroys (reading : p.Reading conn session) : ReadsOnce (p.destroySession conn) :=
  reading.gone rfl (get_destroySession.trans (if_pos rfl)) fun _ ne => get_destroySession.trans (if_neg ne.symm)

/-- `OnTargetConnected` and what it leads to. -/
lemma Reading.connected_iff {results : SocketResults} (reading : p.Reading conn session)
    (ran : p.onTargetConnected conn results = some p') :
    ((∀ call ∈ p.connectedCalls conn results, call.1.Fresh call.2.1 call.2.2) ↔
      (results.connect = .done () ∧ results.write ≠ .failed →
        comesAlone session.handshakeComplete results.reads = true)) ∧
    ((results.connect = .done () ∧ results.write ≠ .failed →
      comesAlone session.handshakeComplete results.reads = true) → ReadsOnce p') := by
  have wrote : (p.wrote conn session.handshake results.write).Reading conn
      (session.wrote session.handshake results.write) := by
    obtain ⟨t, socket, connected, none⟩ := reading.idle
    refine ⟨reading.server, ?_, ?_, fun other ne => (reading.others other ne).congr (get_wrote.trans (if_neg ne.symm))⟩
    · rw [get_wrote, if_pos rfl, reading.there]
      rfl
    · rw [ProxySession.wrote, socket]
      exact ⟨_, rfl, connected, none⟩
  unfold onTargetConnected at ran
  rw [connectedCalls]
  simp only [reading.there] at ran ⊢
  by_cases connected : results.connect = .done ()
  · rw [if_neg (not_not_intro connected), sendHandshake] at ran
    by_cases failed : results.write = .failed
    · rw [if_pos failed] at ran
      cases ran
      rw [if_neg (fun h => h.2 failed)]
      exact ⟨iff_of_true (List.forall_mem_nil _) fun h => absurd failed h.2, fun _ => wrote.destroys⟩
    · rw [if_neg failed] at ran
      rw [if_pos ⟨connected, failed⟩, forall_prop_of_true ⟨connected, failed⟩]
      exact wrote.calls_iff ran
  · rw [if_pos connected] at ran
    cases ran
    rw [if_neg (fun h => connected h.1)]
    exact ⟨iff_of_true (List.forall_mem_nil _) fun h => absurd h.1 connected, fun _ => reading.destroys⟩

/-- A change of one session. -/
lemma ReadsOnce.changes (once : ReadsOnce p) (conn : Int) (server : p'.server = p.server) (here : p'.OneRead conn)
    (others : ∀ other, other ≠ conn → p'.sessions[other]? = p.sessions[other]?) : ReadsOnce p' := by
  refine ⟨server.trans once.server, fun other => ?_⟩
  by_cases same : other = conn
  · rw [same]
    exact here
  · exact (once.one other).congr (others other same)

/-- The sockets that are read and connected stay so. -/
lemma ReadsOnce.updates (once : ReadsOnce p) {f : ProxySession → ProxySession}
    {same : ∀ session, (f session).number = session.number}
    (keeps : ∀ (session : ProxySession), ∀ t ∈ (f session).target, ∃ t' ∈ session.target,
      t.connecting = t'.connecting ∧ t.reads = t'.reads) : ReadsOnce (p.updateSession conn f same) := by
  refine once.changes conn rfl ?_ fun other ne => get_updateSession.trans (if_neg ne.symm)
  intro t socket
  rw [target, get_updateSession, if_pos rfl] at socket
  cases there : p.sessions[conn]? with
  | none =>
    rw [there] at socket
    cases socket
  | some session =>
    rw [there] at socket
    obtain ⟨t', socket', connecting, reads⟩ := keeps session t socket
    rw [connecting, reads]
    exact once.one conn t' ((target_eq there).symm ▸ socket')

/-- So it is with the end of any session. -/
lemma ReadsOnce.destroys (once : ReadsOnce p) (conn : Int) : ReadsOnce (p.destroySession conn) := by
  refine once.changes conn rfl ?_ fun _ ne => get_destroySession.trans (if_neg ne.symm)
  intro t socket
  rw [target, get_destroySession, if_pos rfl] at socket
  cases socket

/-- A new session has no read. -/
lemma ReadsOnce.creates (once : ReadsOnce p) (conn : Int) (subpath : String) :
    ReadsOnce (p.createSession conn subpath) := by
  refine once.changes conn rfl ?_ fun _ ne => get_createSession.trans (if_neg ne.symm)
  intro t socket
  rw [target, get_createSession, if_pos rfl] at socket
  cases socket

/-- A write to the target starts no read. -/
lemma ReadsOnce.wrote (once : ReadsOnce p) (conn : Int) (data : Bytes) (result : IOResult Nat) :
    ReadsOnce (p.wrote conn data result) := by
  refine once.updates fun session t socket => ?_
  obtain ⟨t', socket', rfl⟩ := Option.map_eq_some_iff.mp socket
  exact ⟨t', socket', rfl, rfl⟩

/-- A completed write starts no read. -/
lemma ReadsOnce.written (once : ReadsOnce p) (conn : Int) (i : Nat) (result : IOResult Nat) :
    ReadsOnce (p.updateSession conn (ProxySession.writes i result) (ProxySession.number_writes i result)) := by
  refine once.updates fun session t socket => ?_
  obtain ⟨t', socket', rfl⟩ := Option.map_eq_some_iff.mp socket
  exact ⟨t', socket', rfl, rfl⟩

/-- A message of the client starts no read. -/
lemma ReadsOnce.messages (once : ReadsOnce p) (conn : Int) (data : Bytes) (result : IOResult Nat) :
    ReadsOnce (p.onWebSocketMessage conn data result) := by
  rw [onWebSocketMessage]
  split
  · exact once
  · split_ifs
    · exact once
    · rw [forwardToTarget]
      split
      · exact once
      · dsimp only
        split_ifs
        · exact (once.wrote conn data result).destroys conn
        · exact once.wrote conn data result

/-- A session gets a socket that is connected. -/
lemma ReadsOnce.reading (once : ReadsOnce p) {f : ProxySession → ProxySession}
    {same : ∀ session, (f session).number = session.number} (there : p.sessions[conn]? = some session)
    (idle : ∃ t, (f session).target = some t ∧ t.connecting = false ∧ t.reads = 0) :
    (p.updateSession conn f same).Reading conn (f session) := by
  refine ⟨once.server, ?_, idle, fun other ne => (once.one other).congr (get_updateSession.trans (if_neg ne.symm))⟩
  rw [get_updateSession, if_pos rfl, there]
  rfl

/-- What an event reads is spared when it comes alone, unless the event reads nothing. -/
lemma spared_iff {e : ProxyEvent} {c : Prop} [Decidable c] {reads : List (IOResult Bytes)}
    (h : e.targetReads = if c then some (conn, reads) else none) (there : p.sessions[conn]? = some session) :
    p.Spared e ↔ (c → comesAlone session.handshakeComplete reads = true) := by
  rw [Spared, h]
  by_cases holds : c
  · rw [if_pos holds, forall_prop_of_true holds]
    refine ⟨fun spared => spared _ rfl session there, ?_⟩
    intro alone _ same session' there'
    cases same
    cases there.symm.trans there'
    exact alone
  · rw [if_neg holds]
    exact iff_of_true (fun _ none => by cases none) fun h => absurd h holds

/-- Where there is no session nothing is read. -/
lemma spared_of_gone {e : ProxyEvent} (h : ∀ reads ∈ e.targetReads, reads.1 = conn) (gone : p.sessions[conn]? = none) :
    p.Spared e := by
  intro reads found session there
  rw [h reads found, gone] at there
  cases there

/-- The steps without a call of `StartTargetRead`. -/
lemma step_quiet {e : ProxyEvent} (quiet : e.targetReads = none) (none : p.calls e = []) (once : ReadsOnce p') :
    (p.CallsFresh e ↔ p.Spared e) ∧ (p.Spared e → ReadsOnce p') := by
  rw [CallsFresh, none, Spared, quiet]
  refine ⟨iff_of_true (List.forall_mem_nil _) fun _ found => ?_, fun _ => once⟩
  cases found

/-- The step that connects. -/
lemma step_connectToTarget {port : Int} {results : SocketResults} (once : ReadsOnce p)
    (ran : p.connectToTarget conn port results = some p') :
    (p.CallsFresh (.connectToTarget conn port results) ↔ p.Spared (.connectToTarget conn port results)) ∧
    (p.Spared (.connectToTarget conn port results) → ReadsOnce p') := by
  unfold connectToTarget at ran
  rw [CallsFresh, calls]
  cases there : p.sessions[conn]? with
  | none =>
    rw [if_pos (KeyedMap.get_eq_none_iff.mp there)] at ran
    cases ran
    have spared : p.Spared (.connectToTarget conn port results) := by
      refine spared_of_gone ?_ there
      intro reads found
      rw [ProxyEvent.targetReads] at found
      split_ifs at found
      · cases found
        rfl
      · cases found
    refine ⟨iff_of_true ?_ spared, fun _ => once⟩
    split_ifs
    · exact List.forall_mem_nil _
    · dsimp only
      rw [connectedCalls, get_updateSession, if_pos rfl, there]
      exact List.forall_mem_nil _
  | some session =>
    have member : ¬ conn ∉ p.sessions := fun out => by
      rw [KeyedMap.get_eq_none_iff.mpr out] at there
      cases there
    rw [if_neg member] at ran
    dsimp only at ran
    rw [spared_iff rfl there]
    by_cases pending : results.connect = .pending
    · rw [if_pos (decide_eq_true pending)] at ran
      cases ran
      rw [if_pos pending]
      have not_connected : ¬ (results.connect = .done () ∧ results.write ≠ .failed) := by
        rw [pending]
        intro h
        cases h.1
      refine ⟨iff_of_true (List.forall_mem_nil _) fun h => absurd h not_connected, fun _ => ?_⟩
      refine once.changes conn rfl ?_ fun _ ne => get_updateSession.trans (if_neg ne.symm)
      intro t socket
      rw [target, get_updateSession, if_pos rfl, there] at socket
      cases socket
      rw [pending]
      rfl
    · rw [decide_eq_false pending, if_neg Bool.false_ne_true] at ran
      rw [if_neg pending]
      exact (once.reading there ⟨{ port := port }, rfl, rfl, rfl⟩).connected_iff ran

/-- The step in which the connection is made. -/
lemma step_onTargetConnected {results : SocketResults} (once : ReadsOnce p)
    (connecting : (p.target conn).any (·.connecting))
    (ran : (p.updateSession conn ProxySession.connected ProxySession.number_connected).onTargetConnected conn results =
      some p') :
    (p.CallsFresh (.onTargetConnected conn results) ↔ p.Spared (.onTargetConnected conn results)) ∧
    (p.Spared (.onTargetConnected conn results) → ReadsOnce p') := by
  obtain ⟨t, socket, connecting⟩ := (Option.any_eq_true ..).mp connecting
  obtain ⟨session, there, socket'⟩ := Option.bind_eq_some_iff.mp socket
  have none := once.one conn t socket
  rw [if_pos connecting] at none
  rw [CallsFresh, calls, spared_iff rfl there]
  refine (once.reading there ?_).connected_iff ran
  rw [ProxySession.connected, socket']
  exact ⟨_, rfl, rfl, none⟩

/-- The step in which a read completes. -/
lemma step_onTargetRead (once : ReadsOnce p) (outstanding : (p.target conn).any (0 < ·.reads))
    (completed : result ≠ .pending)
    (ran : ((p.updateSession conn ProxySession.reads ProxySession.number_reads).onTargetRead conn
      result).1.startTargetReads results ((p.updateSession conn ProxySession.reads
      ProxySession.number_reads).onTargetRead conn result).2 = some p') :
    (p.CallsFresh (.onTargetRead conn result results) ↔ p.Spared (.onTargetRead conn result results)) ∧
    (p.Spared (.onTargetRead conn result results) → ReadsOnce p') := by
  obtain ⟨t, socket, outstanding⟩ := (Option.any_eq_true ..).mp outstanding
  obtain ⟨session, there, socket'⟩ := Option.bind_eq_some_iff.mp socket
  have one := once.one conn t socket
  have connected : t.connecting = false := by
    cases connecting : t.connecting with
    | false => rfl
    | true =>
      rw [connecting, if_pos rfl] at one
      rw [one] at outstanding
      cases outstanding
  rw [connected, if_neg Bool.false_ne_true] at one
  have reading : (p.updateSession conn ProxySession.reads ProxySession.number_reads).Reading conn session.reads := by
    refine once.reading there ?_
    rw [ProxySession.reads, socket']
    refine ⟨_, rfl, connected, ?_⟩
    dsimp only
    rw [one]
  -- the callback does what a call of a read does that returns at once
  have same : (p.updateSession conn ProxySession.reads ProxySession.number_reads).startTargetReads (result :: results)
      [(conn, session.reads.number)] = some p' := by
    rw [startTargetReads_fresh reading.fresh, if_neg completed, List.append_nil]
    exact ran
  have result_iff := reading.calls_iff same
  rw [readCalls, List.forall_mem_cons, and_iff_right reading.fresh, if_neg completed] at result_iff
  dsimp only at result_iff
  rw [List.append_nil] at result_iff
  rw [CallsFresh, calls, spared_iff (if_pos trivial).symm there, forall_prop_of_true trivial]
  exact result_iff

/-- What a step does to the reads. -/
lemma step_iff {e : ProxyEvent} (once : ReadsOnce p) (st : p.step e = some p') :
    (p.CallsFresh e ↔ p.Spared e) ∧ (p.Spared e → ReadsOnce p') := by
  unfold step at st
  split_ifs at st with enabled
  cases e with
  | createSession conn subpath =>
    cases st
    exact step_quiet rfl rfl (once.creates conn subpath)
  | connectToTarget conn port results => exact step_connectToTarget once st
  | onTargetConnected conn results => exact step_onTargetConnected once enabled.1 st
  | onTargetRead conn result results => exact step_onTargetRead once enabled.1 enabled.2 st
  | onTargetWritten conn i result =>
    cases st
    exact step_quiet rfl rfl (once.written conn i result)
  | onWebSocketMessage conn data result =>
    cases st
    exact step_quiet rfl rfl (once.messages conn data result)
  | onClientDisconnect conn =>
    cases st
    exact step_quiet rfl rfl (once.destroys conn)

/-- A proxy that serves nobody yet. -/
lemma readsOnce_serving : ReadsOnce serving := by
  refine ⟨rfl, fun conn t socket => ?_⟩
  have empty : serving.sessions[conn]? = none := Std.ExtTreeMap.getElem?_empty
  rw [target, empty] at socket
  cases socket

/-- Every session has one read at a time, and one from its request on, exactly in the runs in which the responses to
the upgrade come alone. -/
theorem reads_once_iff {tr : List (CDPProxyHandler × ProxyEvent)} (run : Run step serving tr p) :
    Guarded CallsFresh tr ∧ Always (fun p => ∀ conn, p.OneRead conn) tr p ↔ Guarded Spared tr := by
  have keep {p p' : CDPProxyHandler} {e : ProxyEvent} (once : ReadsOnce p) (spared : p.Spared e)
      (st : p.step e = some p') : ReadsOnce p' := (step_iff once st).2 spared
  have guarded := run.guarded_iff keep (fun once st => (step_iff once st).1) readsOnce_serving
  refine ⟨fun claimed => guarded.mp claimed.1, fun spared => ⟨guarded.mpr spared, ?_⟩⟩
  exact (run.always_of_guarded keep readsOnce_serving spared).imp fun _ once => once.one

end

/-- A client connects, and the target accepts the upgrade, with these bytes behind the head, before other reads. -/
def acceptedWith (behind : Bytes) (results : List (IOResult Bytes)) : List ProxyEvent :=
  [.createSession 1 "", .connectToTarget 1 9222 {
    connect := .done ()
    write := .done 165
    reads := .done (utf8 "HTTP/1.1 101 Switching Protocols\r\n\r\n" ++ behind) :: results }]

/-- A frame comes at once after the head, and then the target closes. -/
def acceptedAlone : List ProxyEvent :=
  acceptedWith [] [.done [129, 0], .pending] ++ [.onTargetRead 1 (.done []) []]

/-- A response that comes alone. -/
theorem reads_once_accepted : ∃ p, Run step serving (trace step serving acceptedAlone) p ∧
    Guarded CallsFresh (trace step serving acceptedAlone) ∧
    Always (fun p => ∀ conn, p.OneRead conn) (trace step serving acceptedAlone) p := by
  have ends : (exec step serving acceptedAlone).isSome := by decide +kernel
  obtain ⟨p, ex⟩ := Option.isSome_iff_exists.mp ends
  have run := Run.of_exec ex
  exact ⟨p, run, (reads_once_iff run).mpr (by decide +kernel)⟩

/-- With a byte behind the head two reads are outstanding, or the session is read after it was destroyed. -/
theorem reads_once_fails :
    (¬ ∀ tr p, Run step serving tr p → Guarded CallsFresh tr ∧ Always (fun p => ∀ conn, p.OneRead conn) tr p) ∧
    (exec step serving (acceptedWith [129] [.done [], .pending])).any (·.crashed) = true := by
  constructor
  · intro h
    have twice : (exec step serving (acceptedWith [129] [.pending, .pending])).any
        (fun p => (p.target 1).any fun t => !t.connecting && t.reads == 2) = true := by
      decide +kernel
    obtain ⟨p, ex, twice⟩ := (Option.any_eq_true ..).mp twice
    obtain ⟨t, socket, both⟩ := (Option.any_eq_true ..).mp twice
    rw [Bool.and_eq_true, Bool.not_eq_true'] at both
    have one := (h _ p (Run.of_exec ex)).2.2 1 t socket
    rw [both.1, eq_of_beq both.2] at one
    cases one
  · decide +kernel

end CDPProxyHandler

end PureCloak.API
