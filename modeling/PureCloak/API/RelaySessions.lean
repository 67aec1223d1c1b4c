import PureCloak.API.RelaySteps

/-!
# The sessions of the relay

A session first waits for its workspace to be looked up, then its socket connects, and then it relays. While a task
waits for a connection, its session has no socket, and a connection has one such task in its life
(`Relay.Orderly`), so that no socket is ever replaced.
-/

namespace PureCloak.API
open PureCloak.Base PureCloak.Content PureCloak.Profiles PureCloak.Launcher Machine

/-- How far a session has come. -/
inductive ProxySession.Stage : ProxySession → Prop where
  | waits {session : ProxySession} :
    session.target = none →
    session.handshakeComplete = false →
    Stage session
  | connects {session : ProxySession} {port : Int} :
    session.target = some { port := port, connecting := true } →
    session.handshakeComplete = false →
    Stage session
  | relays {session : ProxySession} {t : TargetSocket} :
    session.target = some t →
    t.connecting = false →
    (∃ result rest, t.writes = (session.handshake, result) :: rest) →
    t.reads ≤ 1 →
    Stage session

namespace ProxySession
variable {session session' : ProxySession}

/-- Reads leave a session with one that is outstanding, or none. -/
lemma afterReads_keeps {results : List (IOResult Bytes)} (h : session.afterReads results = some (some session')) :
    session'.subpath = session.subpath ∧
      ∃ n ≤ 1, session'.target = session.target.map fun t => { t with reads := t.reads + n } := by
  have reads := reads_of_afterReads h
  clear h
  generalize after : some session' = s at reads
  induction reads with
  | waits =>
    cases after
    exact ⟨rfl, 1, le_rfl, rfl⟩
  | ends | refused => cases after
  | relays =>
    cases after
    refine ⟨rfl, 0, Nat.zero_le _, ?_⟩
    simp
  | answered _ _ _ _ ih | head _ _ _ _ _ ih => exact ih after

/-- A session that has sent its request is on one of the stages after the reads. -/
lemma Stage.afterReads {results : List (IOResult Bytes)} {t : TargetSocket} (socket : session.target = some t)
    (connected : t.connecting = false) (writes : ∃ result rest, t.writes = (session.handshake, result) :: rest)
    (idle : t.reads = 0)
    (h : session.afterReads results = some (some session')) : session'.Stage := by
  obtain ⟨subpath, n, le, target⟩ := afterReads_keeps h
  rw [socket, Option.map_some] at target
  have request : session'.handshake = session.handshake := by
    unfold handshake
    rw [subpath]
  refine .relays target connected ?_ ?_
  · rw [request]
    exact writes
  · show t.reads + n ≤ 1
    rw [idle, Nat.zero_add]
    exact le

/-- A target that is connected is on a stage. -/
lemma Stage.onConnected {results : SocketResults} {port : Int} (socket : session.target = some { port := port })
    (h : session.onConnected results = some (some session')) : session'.Stage := by
  unfold ProxySession.onConnected at h
  split_ifs at h
  · cases h
  · have wrote : (session.wrote session.handshake results.write).target =
        some { port := port, writes := [(session.handshake, results.write)] } := by
      unfold wrote
      rw [socket]
      rfl
    exact Stage.afterReads wrote rfl ⟨results.write, [], rfl⟩ rfl h

/-- A target that is about to be connected is on a stage. -/
lemma Stage.connectsTo {results : SocketResults} {port : Int} (complete : session.handshakeComplete = false)
    (h : session.connectsTo port results = some (some session')) : session'.Stage := by
  unfold ProxySession.connectsTo at h
  dsimp only at h
  split_ifs at h with pending
  · cases h
    have target : (session.connects { port := port, connecting := results.connect = .pending }).target =
        some { port := port, connecting := true } := by
      rw [ProxySession.connects, decide_eq_true pending]
    exact .connects target complete
  · have target : (session.connects { port := port, connecting := results.connect = .pending }).target =
        some { port := port } := by
      rw [ProxySession.connects, decide_eq_false pending]
    exact Stage.onConnected target h

/-- A message leaves the session on its stage. -/
lemma Stage.forwards {data : Bytes} {result : IOResult Nat} (stage : session.Stage)
    (h : session.forwards data result = some session') : session'.Stage := by
  unfold ProxySession.forwards at h
  split_ifs at h with relays
  · cases h
    cases stage with
    | waits _ incomplete | connects _ incomplete =>
      rw [incomplete] at relays
      cases relays.1
    | @relays t socket connected writes reads =>
      obtain ⟨first, rest, writes⟩ := writes
      have target : (session.wrote data result).target =
          some { t with writes := t.writes ++ [(data, result)] } := by
        unfold wrote
        rw [socket]
        rfl
      refine .relays target connected ⟨first, rest ++ [(data, result)], ?_⟩ reads
      show t.writes ++ _ = _
      rw [writes]
      rfl
  · cases h
    exact stage

/-- A completed write leaves the session on its stage. -/
lemma Stage.writes {i : Nat} {result : IOResult Nat} (stage : session.Stage) : (session.writes i result).Stage := by
  cases stage with
  | waits socket incomplete =>
    refine .waits ?_ incomplete
    unfold ProxySession.writes
    rw [socket]
    rfl
  | @connects port socket incomplete =>
    have target : (session.writes i result).target = some { port := port, connecting := true } := by
      unfold ProxySession.writes
      simp [socket]
    exact .connects target incomplete
  | @relays t socket connected writes reads =>
    obtain ⟨first, rest, writes⟩ := writes
    have target : (session.writes i result).target =
        some { t with writes := t.writes.modify i fun w => (w.1, result) } := by
      unfold ProxySession.writes
      rw [socket]
      rfl
    rw [writes] at target
    cases i with
    | zero => exact .relays target connected ⟨result, rest, rfl⟩ reads
    | succ i => exact .relays target connected ⟨first, rest.modify i fun w => (w.1, result), rfl⟩ reads

/-- The stage of a session whose socket connects. -/
lemma Stage.target_of_connecting {t : TargetSocket} (stage : session.Stage) (socket : session.target = some t)
    (connecting : t.connecting) :
    session.connected.target = some { port := t.port } ∧ session.handshakeComplete = false ∧ t.writes = [] := by
  cases stage with
  | waits none => rw [none] at socket; cases socket
  | connects target incomplete =>
    rw [target] at socket
    cases socket
    unfold connected
    rw [target]
    exact ⟨rfl, incomplete, rfl⟩
  | relays target connected =>
    rw [target] at socket
    cases socket
    rw [connected] at connecting
    cases connecting

/-- The stage of a session with a read that is outstanding. -/
lemma Stage.target_of_reads {t : TargetSocket} (stage : session.Stage) (socket : session.target = some t)
    (reads : 0 < t.reads) :
    t.connecting = false ∧ (∃ result rest, t.writes = (session.handshake, result) :: rest) ∧ t.reads = 1 ∧
      session.reads.target = some { t with reads := 0 } := by
  cases stage with
  | waits none => rw [none] at socket; cases socket
  | connects target =>
    rw [target] at socket
    cases socket
    cases reads
  | relays target connected writes one =>
    rw [target] at socket
    cases socket
    have outstanding : t.reads = 1 := Nat.le_antisymm one reads
    refine ⟨connected, writes, outstanding, ?_⟩
    unfold ProxySession.reads
    rw [target, Option.map_some, outstanding]

end ProxySession

namespace Relay
variable {r r' : Relay} {e : RelayEvent} {conn : Int} {session session' : ProxySession}

/-- Sessions are in their stages, and a task that waits for a connection is the only one that it ever has. -/
structure Orderly (r : Relay) : Prop extends r.SetUp where
  stage : ∀ conn session, r.session conn = some session → session.Stage
  fresh : ∀ conn session, r.session conn = some session → 0 < r.waiting conn → session.target = none
  once : ∀ conn, r.waiting conn ≤ 1
  stranger : ∀ conn, conn ∉ r.handler.accepted → r.session conn = none ∧ r.waiting conn = 0

/-- What is left comes from a session that was there. -/
lemma exists_of_elim {f : ProxySession → Option (Option ProxySession)} {s : Option ProxySession}
    (h : s.elim (some none) f = some (some session')) :
    ∃ session, s = some session ∧ f session = some (some session') := by
  cases s with
  | none => cases h
  | some session => exact ⟨session, rfl, h⟩

/-- The first task of the queue waits for its connection. -/
lemma count_head (r : Relay) (results : SocketResults) {task : ApiThreadTask}
    (waits : r.handler.apiTasks.head? = some task) :
    (r.finishes (.api (.runApiTask results))).count task.conn = 1 ∧ 0 < r.waiting task.conn := by
  constructor
  · rw [finishes, waits]
    simp
  · obtain ⟨tasks, e⟩ := List.head?_eq_some_iff.mp waits
    rw [waiting, e]
    simp

/-- A session that is there after a turn is in its stage. -/
lemma Orderly.stage_of_turn (o : r.Orderly) (enabled : r.Enabled e) (turn : r.Turn conn e (some session')) :
    session'.Stage := by
  generalize after : some session' = s at turn
  cases turn with
  | other | refused => exact o.stage conn session' after.symm
  | accepted =>
    cases after
    exact .waits rfl rfl
  | message =>
    obtain ⟨session, there, forwards⟩ := Option.bind_eq_some_iff.mp after.symm
    exact (o.stage conn session there).forwards forwards
  | connects waits elim =>
    obtain ⟨session, there, connects⟩ := exists_of_elim (elim.trans (congrArg some after.symm))
    have none := o.fresh conn session there (r.count_head {} waits).2
    cases o.stage conn session there with
    | waits _ incomplete => exact .connectsTo incomplete connects
    | connects target | relays target =>
      rw [none] at target
      cases target
  | disconnects | closed => cases after
  | connected elim =>
    obtain ⟨session, there, connected⟩ := exists_of_elim (elim.trans (congrArg some after.symm))
    obtain ⟨t, target, connecting⟩ := (Option.any_eq_true _ _).mp enabled.1
    rw [Relay.target, there, Option.bind_some] at target
    exact .onConnected ((o.stage conn session there).target_of_connecting target connecting).1 connected
  | read elim =>
    obtain ⟨session, there, after⟩ := exists_of_elim (elim.trans (congrArg some after.symm))
    obtain ⟨t, target, reads⟩ := (Option.any_eq_true _ _).mp enabled.1
    rw [Relay.target, there, Option.bind_some] at target
    obtain ⟨connected, writes, -, target⟩ :=
      (o.stage conn session there).target_of_reads target (of_decide_eq_true reads)
    exact .afterReads target connected writes rfl after
  | written =>
    obtain ⟨session, there, rfl⟩ := Option.map_eq_some_iff.mp after.symm
    exact (o.stage conn session there).writes

/-- A session for which a task still waits has no socket yet. -/
lemma Orderly.fresh_of_turn (o : r.Orderly) (enabled : r.Enabled e) (turn : r.Turn conn e (some session'))
    (waits : 0 < r.waiting conn) (unfinished : (r.finishes e).count conn = 0) : session'.target = none := by
  generalize after : some session' = s at turn
  cases turn with
  | other | refused => exact o.fresh conn session' after.symm waits
  | accepted =>
    cases after
    rfl
  | message =>
    obtain ⟨session, there, forwards⟩ := Option.bind_eq_some_iff.mp after.symm
    have none := o.fresh conn session there waits
    rw [ProxySession.forwards, none, if_neg (fun h => Bool.false_ne_true h.2)] at forwards
    cases forwards
    exact none
  | connects head => exact absurd ((r.count_head _ head).1.symm.trans unfinished) Nat.one_ne_zero
  | disconnects | closed => cases after
  | connected | read =>
    obtain ⟨t, target, -⟩ := (Option.any_eq_true _ _).mp enabled.1
    obtain ⟨session, there, socket⟩ := Option.bind_eq_some_iff.mp target
    rw [o.fresh conn session there waits] at socket
    cases socket
  | written =>
    obtain ⟨session, there, rfl⟩ := Option.map_eq_some_iff.mp after.symm
    rw [ProxySession.writes, o.fresh conn session there waits]
    rfl

/-- A connection is accepted once. -/
lemma accepts_eq_of_count (enabled : r.Enabled e) (accepted : (accepts e).count conn ≠ 0) :
    conn ∉ r.handler.accepted ∧ accepts e = [conn] ∧ ∃ info, e = .api (.webSocketRequest conn info) := by
  have member : conn ∈ accepts e := List.count_pos_iff.mp (Nat.pos_of_ne_zero accepted)
  cases e with
  | api e =>
    cases e with
    | webSocketRequest c info =>
      by_cases endpoint : (cdpEndpoint (parsePath info.path)).isSome
      · have one : accepts (.api (.webSocketRequest c info)) = [c] := if_pos endpoint
        rw [one, List.mem_singleton] at member
        subst member
        exact ⟨enabled.1, one, info, rfl⟩
      · rw [accepts, if_neg endpoint] at member
        cases member
    | httpRequest | webSocketMessage | runUiTask | runApiTask => cases member
  | manager | onClose | onTargetConnected | onTargetRead | onTargetWritten => cases member

/-- A request that is accepted makes a session. -/
lemma Turn.of_accepts {s : Option ProxySession} {info : HttpServerRequestInfo}
    (turn : r.Turn conn (.api (.webSocketRequest conn info)) s)
    (accepted : accepts (.api (.webSocketRequest conn info)) = [conn]) :
    ∃ number subpath, s = some { number := number, subpath := subpath } := by
  cases turn with
  | other ne => exact absurd rfl ne
  | refused none =>
    rw [accepted] at none
    cases none
  | accepted => exact ⟨_, _, rfl⟩

/-- Only an upgrade makes a session. -/
lemma Turn.of_none {s : Option ProxySession} (turn : r.Turn conn e s) (absent : r.session conn = none)
    (out : conn ∉ accepts e) : s = none := by
  cases turn with
  | other | refused => exact absent
  | accepted one =>
    rw [one] at out
    exact absurd (List.mem_singleton_self conn) out
  | message | written =>
    rw [absent]
    rfl
  | disconnects | closed => rfl
  | connects _ elim | connected elim | read elim =>
    rw [absent] at elim
    exact (Option.some.inj elim).symm

/-- Every step keeps the order. -/
lemma Orderly.after (o : r.Orderly) (after : r.After e r') : r'.Orderly where
  toSetUp := after.setUp
  stage conn session there := by
    have turn := turn_of_next (after.session conn)
    rw [there] at turn
    exact o.stage_of_turn after.enabled turn
  fresh conn session there waits := by
    have turn := turn_of_next (after.session conn)
    rw [there] at turn
    have balance := after.waiting conn
    have once := o.once conn
    by_cases accepted : (accepts e).count conn = 0
    · exact o.fresh_of_turn after.enabled turn (by omega) (by omega)
    · obtain ⟨-, one, info, rfl⟩ := accepts_eq_of_count after.enabled accepted
      obtain ⟨number, subpath, eq⟩ := turn.of_accepts one
      cases eq
      rfl
  once conn := by
    have balance := after.waiting conn
    have once := o.once conn
    by_cases accepted : (accepts e).count conn = 0
    · omega
    · obtain ⟨stranger, one, -⟩ := accepts_eq_of_count after.enabled accepted
      rw [one, List.count_singleton_self, (o.stranger conn stranger).2] at balance
      omega
  stranger conn out := by
    rw [after.accepted, List.mem_append, not_or] at out
    have balance := after.waiting conn
    obtain ⟨absent, idle⟩ := o.stranger conn out.1
    rw [List.count_eq_zero.mpr out.2, idle] at balance
    exact ⟨(turn_of_next (after.session conn)).of_none absent out.2, by omega⟩

/-- A proxy begins in order. -/
lemma orderly_start (apiToken : String) (store : WorkspaceStore) (manager : World) :
    (start apiToken store manager).Orderly where
  server := rfl
  proxy := rfl
  toClient := rfl
  closed := rfl
  stage conn session there := by simp [start, Relay.session] at there
  fresh conn session there := by simp [start, Relay.session] at there
  once conn := Nat.zero_le _
  stranger conn _ := ⟨by simp [start, Relay.session], rfl⟩

variable [TimeLib] [JSONReader] {env : Env}

/-- Every step keeps it in order. -/
lemma Orderly.step (o : r.Orderly) (st : r.step env e = some r') : r'.Orderly :=
  o.after (step_after o.toSetUp st)

end Relay

end PureCloak.API
