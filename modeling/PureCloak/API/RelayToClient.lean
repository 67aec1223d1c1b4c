import PureCloak.API.RelayToTarget

/-!
# From the target to the client

The proxy reads from the target until it has something to send, and since it has no server it then neither sends it nor
reads on. `relays_frames_iff` says for which segments of the stream the reads go on: none may follow the one with the
response to the upgrade, and the client gets its messages if there are none.
-/

namespace PureCloak.API
open PureCloak.Base PureCloak.Content PureCloak.Profiles PureCloak.Launcher Machine WebSocket

/-- The bytes of a read. -/
def IOResult.data : IOResult Bytes → Option Bytes
  | .done data => some data
  | .pending | .failed => none

/-- The reads go on after these segments, where the target has accepted the upgrade before them or not. -/
def continues : Bool → List Bytes → Bool
  | _, [] => true
  | true, _ :: _ => false
  | false, data :: segments =>
    if answers data then continues true segments else !refuses data && continues false segments

namespace Relay
variable {r r' : Relay} {e : RelayEvent} {conn : Int} {session session' : ProxySession}

/-- The results of the reads on the socket of a connection in a step. -/
def results (r : Relay) (conn : Int) : RelayEvent → List (IOResult Bytes)
  | .api (.runApiTask results) =>
    match r.handler.apiTasks.head? with
    | some (.connectToTarget c _) =>
      if c = conn ∧ (r.session conn).isSome ∧ results.connect = .done () ∧ results.write ≠ .failed then results.reads
      else []
    | some (.onClientDisconnect _) | none => []
  | .onTargetConnected c results =>
    if c = conn ∧ results.connect = .done () ∧ results.write ≠ .failed then results.reads else []
  | .onTargetRead c result results => if c = conn then result :: results else []
  | _ => []

/-- The reads on the socket of a connection. -/
def reads (conn : Int) (tr : List (Relay × RelayEvent)) : List (IOResult Bytes) :=
  tr.flatMap fun p => p.1.results conn p.2

/-- The segments in which the stream of the target was read. -/
def segments (conn : Int) (tr : List (Relay × RelayEvent)) : List Bytes :=
  (reads conn tr).filterMap IOResult.data

/-- What was sent to a client. -/
def sentTo (r : Relay) (conn : Int) : List Bytes :=
  (r.handler.proxy.toClient.filter (·.1 = conn)).map Prod.snd

/-- The target is read, and neither side has closed or failed. -/
structure Undisturbed (conn : Int) (tr : List (Relay × RelayEvent)) (r : Relay) : Prop where
  reading : reads conn tr ≠ []
  target : ∀ result ∈ reads conn tr, result ≠ .failed ∧ result ≠ .done []
  client : conn ∉ r.gone
  writes : ∀ p ∈ tr, ∀ data, p.2 ≠ .api (.webSocketMessage conn data .failed)

/-! ## Reads -/

/-- What goes on after some segments. -/
lemma continues_append (complete : Bool) (segments segments' : List Bytes) :
    continues complete (segments ++ segments') =
      (continues complete segments && continues (complete || segments.any answers) segments') := by
  induction segments generalizing complete with
  | nil => simp [continues]
  | cons data segments ih =>
    cases complete with
    | true => rfl
    | false =>
      rw [List.cons_append, continues, continues, ih, ih, List.any_cons]
      cases answers data <;> simp [Bool.and_assoc]

/-- What counts for the reads of a session: whether the target has accepted the upgrade, whether the socket is being
connected and how many reads are outstanding. -/
def pump (session : ProxySession) : Bool × Option (Bool × Nat) :=
  (session.handshakeComplete, session.target.map fun t => (t.connecting, t.reads))

/-- A read is outstanding as long as the segments let the reads go on. -/
def Pumps (complete : Bool) (segments : List Bytes) (s : Option (Bool × Option (Bool × Nat))) : Prop :=
  if continues complete segments then s = some (complete || segments.any answers, some (false, 1))
  else ∀ p ∈ s, ∀ t ∈ p.2, t = (false, 0)

/-- The data of some results. -/
lemma filterMap_data_cons (data : Bytes) (results : List (IOResult Bytes)) :
    (IOResult.done data :: results).filterMap IOResult.data = data :: results.filterMap IOResult.data :=
  rfl

/-- The reads that a call of `StartTargetRead` leads to. -/
lemma pumps_of_reads {results : List (IOResult Bytes)} {s : Option ProxySession} (reads : session.Reads results s)
    (idle : (pump session).2 = some (false, 0)) (goes : ∀ result ∈ results, result ≠ .failed ∧ result ≠ .done []) :
    Pumps session.handshakeComplete (results.filterMap IOResult.data) (s.map pump) := by
  induction reads with
  | @waits session =>
    refine (if_pos rfl).mpr ?_
    obtain ⟨t, target, eq⟩ := Option.map_eq_some_iff.mp idle
    obtain ⟨connecting, none⟩ := Prod.mk.inj eq
    rw [Option.map_some, pump, ProxySession.waits, target, Option.map_some, Option.map_some, connecting, none]
    simp [IOResult.data]
  | ends result =>
    obtain ⟨failed, closed⟩ := goes _ List.mem_cons_self
    exact (result.elim failed closed).elim
  | @relays session data complete bytes =>
    refine (if_neg (by simp [IOResult.data, complete, continues])).mpr ?_
    intro p same t target
    cases same
    exact Option.some.inj ((Option.mem_def.mp target).symm.trans idle)
  | @answered session data results s complete bytes answered _ ih =>
    have rest : Pumps true (results.filterMap IOResult.data) (s.map pump) :=
      ih idle fun result member => goes result (List.mem_cons_of_mem _ member)
    rw [complete, filterMap_data_cons]
    unfold Pumps at rest ⊢
    simpa [continues, answered] using rest
  | @refused session data complete bytes answered refused =>
    refine (if_neg ?_).mpr nofun
    simp [IOResult.data, complete, continues, answered, refused]
  | @head session data results s complete bytes answered refused _ ih =>
    have rest := ih idle fun result member => goes result (List.mem_cons_of_mem _ member)
    rw [complete] at rest
    rw [complete, filterMap_data_cons]
    unfold Pumps at rest ⊢
    simpa [continues, answered, refused] using rest

/-- The reads after a socket was connected. -/
lemma pumps_of_onConnected {results : SocketResults} {port : Int} {s : Option ProxySession}
    (target : session.target = some { port := port }) (incomplete : session.handshakeComplete = false)
    (connect : results.connect = .done ()) (write : results.write ≠ .failed)
    (goes : ∀ result ∈ results.reads, result ≠ .failed ∧ result ≠ .done [])
    (h : session.onConnected results = some s) :
    results.reads ≠ [] ∧ Pumps false (results.reads.filterMap IOResult.data) (s.map pump) := by
  rw [ProxySession.onConnected, if_neg (not_or.mpr ⟨not_not_intro connect, write⟩)] at h
  constructor
  · intro none
    rw [none] at h
    cases h
  · have idle : (pump (session.wrote session.handshake results.write)).2 = some (false, 0) := by
      rw [pump, ProxySession.wrote, target]
      rfl
    have pumps := pumps_of_reads (ProxySession.reads_of_afterReads h) idle goes
    have same : (session.wrote session.handshake results.write).handshakeComplete = false := incomplete
    rw [same] at pumps
    exact pumps

/-! ## Steps -/

/-- What the reads so far have left. -/
structure Pumping (conn : Int) (tr : List (Relay × RelayEvent)) (r : Relay) : Prop where
  before : reads conn tr = [] → ∀ p ∈ (r.session conn).map pump, ∀ t ∈ p.2, t.1 = true
  settled : reads conn tr ≠ [] → r.waiting conn = 0 ∧ conn ∈ r.handler.accepted
  pumps : reads conn tr ≠ [] → Pumps false (segments conn tr) ((r.session conn).map pump)

/-- A step about another connection reads nothing of this one. -/
lemma results_of_about {r : Relay} (ne : r.about e ≠ some conn) : r.results conn e = [] := by
  cases e with
  | manager | onClose | onTargetWritten => rfl
  | onTargetConnected c results =>
    have other : c ≠ conn := fun same => ne (congrArg some same)
    rw [Relay.results, if_neg fun h => other h.1]
  | onTargetRead c result results =>
    have other : c ≠ conn := fun same => ne (congrArg some same)
    rw [Relay.results, if_neg other]
  | api e =>
    cases e with
    | httpRequest | webSocketRequest | webSocketMessage | runUiTask => rfl
    | runApiTask results =>
      unfold Relay.results
      dsimp only
      split
      · next c port waits =>
        have other : c ≠ conn := fun same => ne (by simp [Relay.about, waits, ApiThreadTask.conn, same])
        rw [if_neg fun h => other h.1]
      · rfl
      · rfl

/-- The reads of a run and of one more step. -/
lemma reads_snoc (tr : List (Relay × RelayEvent)) (r : Relay) (e : RelayEvent) :
    reads conn (tr ++ [(r, e)]) = reads conn tr ++ r.results conn e := by
  simp [reads]

/-- The segments of a run and of one more step. -/
lemma segments_snoc (tr : List (Relay × RelayEvent)) (r : Relay) (e : RelayEvent) :
    segments conn (tr ++ [(r, e)]) = segments conn tr ++ (r.results conn e).filterMap IOResult.data := by
  rw [segments, reads_snoc, List.filterMap_append, segments]

variable {tr : List (Relay × RelayEvent)}

/-- A connection that has no tasks any more gets none. -/
lemma settled_after (after : r.After e r') (settled : r.waiting conn = 0 ∧ conn ∈ r.handler.accepted) :
    r'.waiting conn = 0 ∧ conn ∈ r'.handler.accepted := by
  have balance := after.waiting conn
  have none : (accepts e).count conn = 0 := by
    by_contra accepted
    exact (accepts_eq_of_count after.enabled accepted).1 settled.2
  constructor
  · omega
  · rw [after.accepted]
    exact List.mem_append_left _ settled.2

/-- A step without reads, which leaves what counts for them. -/
lemma Pumping.quiet (h : Pumping conn tr r) (after : r.After e r') (none : r.results conn e = [])
    (same : (r'.session conn).map pump = (r.session conn).map pump) : Pumping conn (tr ++ [(r, e)]) r' := by
  refine ⟨?_, ?_, ?_⟩ <;> rw [reads_snoc, none, List.append_nil]
  · rw [same]
    exact h.before
  · exact fun begun => settled_after after (h.settled begun)
  · rw [same, segments_snoc, none, List.filterMap_nil, List.append_nil]
    exact h.pumps

/-- A step without reads, before there were any. -/
lemma pumping_silent (none : reads conn tr = []) (silent : r.results conn e = [])
    (idle : ∀ p ∈ (r'.session conn).map pump, ∀ t ∈ p.2, t.1 = true) : Pumping conn (tr ++ [(r, e)]) r' := by
  have still : reads conn (tr ++ [(r, e)]) = [] := by rw [reads_snoc, none, silent, List.append_nil]
  exact ⟨fun _ => idle, fun begun => absurd still begun, fun begun => absurd still begun⟩

/-- The socket was connected, and the first reads follow unless it failed. -/
lemma pumping_connected {results : SocketResults} {port : Int} (none : reads conn tr = [])
    (settled : r'.waiting conn = 0 ∧ conn ∈ r'.handler.accepted) (target : session.target = some { port := port })
    (incomplete : session.handshakeComplete = false) (ran : session.onConnected results = some (r'.session conn))
    (eq : r.results conn e =
      if results.connect = .done () ∧ results.write ≠ .failed then results.reads else [])
    (goes : ∀ result ∈ r.results conn e, result ≠ .failed ∧ result ≠ .done []) : Pumping conn (tr ++ [(r, e)]) r' := by
  by_cases connects : results.connect = .done () ∧ results.write ≠ .failed
  · rw [if_pos connects] at eq
    rw [eq] at goes
    obtain ⟨some, pumps⟩ := pumps_of_onConnected target incomplete connects.1 connects.2 goes ran
    have begun : segments conn tr = [] := by rw [segments, none, List.filterMap_nil]
    refine ⟨?_, ?_, ?_⟩ <;> rw [reads_snoc, none, List.nil_append, eq]
    · exact fun none => absurd none some
    · exact fun _ => settled
    · rw [segments_snoc, begun, List.nil_append, eq]
      exact fun _ => pumps
  · rw [if_neg connects] at eq
    apply pumping_silent none eq
    have failed : results.connect ≠ .done () ∨ results.write = .failed := by
      rw [not_and_or, not_not] at connects
      exact connects
    rw [ProxySession.onConnected, if_pos failed] at ran
    rw [← Option.some.inj ran]
    intro p eq
    cases eq

/-- With a target a connection is accepted, and nothing waits for it. -/
lemma Orderly.settled_of_target (o : r.Orderly) {t : TargetSocket} (target : r.target conn = some t) :
    r.waiting conn = 0 ∧ conn ∈ r.handler.accepted := by
  obtain ⟨session, there, socket⟩ := Option.bind_eq_some_iff.mp target
  constructor
  · by_contra waits
    rw [o.fresh conn session there (Nat.pos_of_ne_zero waits)] at socket
    cases socket
  · by_contra out
    rw [(o.stranger conn out).1] at there
    cases there

/-- A message to the target does not change what is pumped. -/
lemma pump_forwards {data : Bytes} {result : IOResult Nat} (written : result ≠ .failed) (s : Option ProxySession) :
    (s.bind fun session => session.forwards data result).map pump = s.map pump := by
  cases s with
  | none => rfl
  | some session =>
    rw [Option.bind_some, ProxySession.forwards, if_neg written]
    split_ifs
    · rw [Option.map_some, Option.map_some, pump, pump, ProxySession.wrote, Option.map_map]
      rfl
    · rfl

/-- Nor does a completed write. -/
lemma pump_writes {i : Nat} {result : IOResult Nat} (s : Option ProxySession) :
    (s.map (ProxySession.writes i result)).map pump = s.map pump := by
  cases s with
  | none => rfl
  | some session =>
    rw [Option.map_some, Option.map_some, Option.map_some, pump, pump, ProxySession.writes, Option.map_map]
    rfl

/-- Segments that follow on others. -/
lemma pumps_append {complete : Bool} {segments segments' : List Bytes} {s : Option (Bool × Option (Bool × Nat))}
    (goes : continues complete segments) (h : Pumps (complete || segments.any answers) segments' s) :
    Pumps complete (segments ++ segments') s := by
  unfold Pumps at h ⊢
  rw [continues_append, goes, Bool.true_and, List.any_append, ← Bool.or_assoc]
  exact h

/-- The task that connects the socket is run. -/
lemma Pumping.connects {results : SocketResults} {port : Int} (o : r.Orderly) (h : Pumping conn tr r)
    (after : r.After (.api (.runApiTask results)) r')
    (head : r.handler.apiTasks.head? = some (.connectToTarget conn port))
    (elim : ((r.session conn).elim (some none) fun session => session.connectsTo port results) =
      some (r'.session conn))
    (goes : ∀ result ∈ r.results conn (.api (.runApiTask results)), result ≠ .failed ∧ result ≠ .done []) :
    Pumping conn (tr ++ [(r, .api (.runApiTask results))]) r' := by
  have waits : 0 < r.waiting conn := (r.count_head results head).2
  have none : reads conn tr = [] := by
    by_contra begun
    exact waits.ne' (h.settled begun).1
  have settled : r'.waiting conn = 0 ∧ conn ∈ r'.handler.accepted := by
    have balance := after.waiting conn
    have once := o.once conn
    have finished : (r.finishes (.api (.runApiTask results))).count conn = 1 := (r.count_head results head).1
    have accepted : conn ∈ r.handler.accepted := by
      by_contra out
      exact waits.ne' (o.stranger conn out).2
    rw [after.accepted]
    exact ⟨by simp only [accepts, List.count_nil] at balance; omega, List.mem_append_left _ accepted⟩
  cases there : r.session conn with
  | none =>
    rw [there] at elim
    apply pumping_silent none
    · simp [Relay.results, head, there]
    · rw [← Option.some.inj elim]
      intro p eq
      cases eq
  | some session =>
    have eq : r.results conn (.api (.runApiTask results)) =
        if results.connect = .done () ∧ results.write ≠ .failed then results.reads else [] := by
      simp [Relay.results, head, there]
    rw [there] at elim
    have incomplete : session.handshakeComplete = false := by
      cases o.stage conn session there with
      | waits _ incomplete | connects _ incomplete => exact incomplete
      | relays target =>
        rw [o.fresh conn session there waits] at target
        cases target
    simp only [Option.elim, ProxySession.connectsTo] at elim
    split_ifs at elim with pending
    · apply pumping_silent none
      · rw [eq, if_neg]
        rw [pending]
        intro connects
        cases connects.1
      · rw [← Option.some.inj elim]
        intro p eq t target
        cases eq
        cases target
        exact decide_eq_true pending
    · have target : (session.connects { port := port, connecting := results.connect = .pending }).target =
          some { port := port } := by
        rw [ProxySession.connects, decide_eq_false pending]
      exact pumping_connected none settled target incomplete elim eq goes

/-- A read that was outstanding has completed. -/
lemma Pumping.read {result : IOResult Bytes} {results : List (IOResult Bytes)} (o : r.Orderly) (h : Pumping conn tr r)
    (after : r.After (.onTargetRead conn result results) r')
    (elim : ((r.session conn).elim (some none) fun session => session.reads.afterReads (result :: results)) =
      some (r'.session conn))
    (goes : ∀ result' ∈ r.results conn (.onTargetRead conn result results), result' ≠ .failed ∧ result' ≠ .done []) :
    Pumping conn (tr ++ [(r, .onTargetRead conn result results)]) r' := by
  obtain ⟨t, target, outstanding⟩ := (Option.any_eq_true _ _).mp after.enabled.1
  obtain ⟨session, there, socket⟩ := Option.bind_eq_some_iff.mp target
  obtain ⟨connected, -, one, idle⟩ :=
    (o.stage conn session there).target_of_reads socket (of_decide_eq_true outstanding)
  have begun : reads conn tr ≠ [] := by
    intro none
    have before := h.before none
    simp [there, pump, socket, connected] at before
  have pumps := h.pumps begun
  simp only [there, Option.map_some, pump, socket, connected, one, Pumps] at pumps
  split_ifs at pumps with continues
  · have complete : session.handshakeComplete = (false || (segments conn tr).any answers) :=
      (Prod.mk.inj (Option.some.inj pumps)).1
    have new : r.results conn (.onTargetRead conn result results) = result :: results := if_pos rfl
    rw [new] at goes
    rw [there] at elim
    have rest := pumps_of_reads (ProxySession.reads_of_afterReads elim) (by rw [pump, idle, connected]; rfl) goes
    have kept : session.reads.handshakeComplete = session.handshakeComplete := rfl
    rw [kept, complete] at rest
    refine ⟨?_, fun _ => settled_after after (h.settled begun), fun _ => ?_⟩
    · rw [reads_snoc]
      exact fun none => absurd (List.append_eq_nil_iff.mp none).1 begun
    · rw [segments_snoc, new]
      exact pumps_append continues rest
  · simp at pumps

/-- Every undisturbed step leaves what the segments say. -/
lemma Pumping.step (o : r.Orderly) (h : Pumping conn tr r) (after : r.After e r')
    (goes : ∀ result ∈ r.results conn e, result ≠ .failed ∧ result ≠ .done []) (client : e ≠ .onClose conn)
    (writes : ∀ data, e ≠ .api (.webSocketMessage conn data .failed)) : Pumping conn (tr ++ [(r, e)]) r' := by
  have turn := turn_of_next (after.session conn)
  have enabled := after.enabled
  generalize same : r'.session conn = s at turn
  cases turn with
  | other ne => exact h.quiet after (results_of_about ne) (by rw [same])
  | refused => exact h.quiet after rfl (by rw [same])
  | accepted one =>
    apply pumping_silent _ rfl
    · rw [same]
      intro p eq t target
      cases eq
      cases target
    · by_contra begun
      exact enabled.1 (h.settled begun).2
  | @message data result =>
    refine h.quiet after rfl ?_
    rw [same]
    exact pump_forwards (fun failed => writes data (by rw [failed])) _
  | @connects results port _ head elim =>
    rw [← same] at elim
    exact h.connects o after head elim goes
  | disconnects head =>
    have none : reads conn tr = [] := by
      by_contra begun
      exact (r.count_head {} head).2.ne' (h.settled begun).1
    apply pumping_silent none
    · simp [Relay.results, head]
    · rw [same]
      intro p eq
      cases eq
  | closed => exact absurd rfl client
  | @connected results _ elim =>
    obtain ⟨t, target, connecting⟩ := (Option.any_eq_true _ _).mp enabled.1
    obtain ⟨session, there, socket⟩ := Option.bind_eq_some_iff.mp target
    obtain ⟨connected, incomplete, -⟩ := (o.stage conn session there).target_of_connecting socket connecting
    have none : reads conn tr = [] := by
      by_contra begun
      have pumps := h.pumps begun
      simp only [there, Option.map_some, pump, socket, Pumps] at pumps
      split_ifs at pumps
      · simp [connecting] at pumps
      · simp [connecting] at pumps
    rw [there] at elim
    rw [← same] at elim
    refine pumping_connected none (settled_after after (o.settled_of_target target)) connected incomplete elim ?_ goes
    simp [Relay.results]
  | @read result results _ elim =>
    rw [← same] at elim
    exact h.read o after elim goes
  | written =>
    refine h.quiet after rfl ?_
    rw [same]
    exact pump_writes _

/-! ## Runs -/

section
variable [TimeLib] [JSONReader] {env : Env} {apiToken : String} {store : WorkspaceStore} {manager : World}

/-- What the reads of a run have left, as long as neither side has closed or failed. -/
lemma pumping_of_run (run : Run (Relay.step env) (.start apiToken store manager) tr r)
    (goes : ∀ result ∈ reads conn tr, result ≠ .failed ∧ result ≠ .done []) (client : conn ∉ r.gone)
    (writes : ∀ p ∈ tr, ∀ data, p.2 ≠ .api (.webSocketMessage conn data .failed)) : Pumping conn tr r := by
  induction run with
  | nil =>
    refine ⟨fun _ => ?_, fun begun => absurd rfl begun, fun begun => absurd rfl begun⟩
    simp [start, Relay.session]
  | @snoc tr r e r' run st ih =>
    have orderly : r.Orderly := run.invariant Orderly.step (orderly_start apiToken store manager)
    have after := step_after orderly.toSetUp st
    rw [reads_snoc] at goes
    rw [after.gone, List.mem_append, not_or] at client
    have pumping := ih (fun result member => goes result (List.mem_append_left _ member)) client.2
      (fun p member => writes p (List.mem_append_left _ member))
    apply pumping.step orderly after
    · exact fun result member => goes result (List.mem_append_right _ member)
    · intro closed
      rw [closed] at client
      exact client.1 (List.mem_singleton_self conn)
    · exact fun data => writes _ List.mem_concat_self data

/-- A read is outstanding and the client has got the messages of the frames that were read, exactly when the segments
let the reads go on and the frames carry no message; this is so for every stream of a response and frames. -/
theorem relays_frames_iff (run : Run (Relay.step env) (.start apiToken store manager) tr r)
    (undisturbed : Undisturbed conn tr r) (head : Bytes) (frames : List Frame) :
    (∃ t ∈ r.target conn, 0 < t.reads) ∧
        ((segments conn tr).flatten = head ++ Frame.encodeAll frames → r.sentTo conn = Frame.messages frames) ↔
      continues false (segments conn tr) ∧
        ((segments conn tr).flatten = head ++ Frame.encodeAll frames → Frame.messages frames = []) := by
  have orderly : r.Orderly := run.invariant Orderly.step (orderly_start apiToken store manager)
  have pumps := (pumping_of_run run undisturbed.target undisturbed.client undisturbed.writes).pumps undisturbed.reading
  have sent : r.sentTo conn = [] := by
    rw [sentTo, orderly.toClient]
    rfl
  have reads : (∃ t ∈ r.target conn, 0 < t.reads) ↔ continues false (segments conn tr) := by
    unfold Pumps at pumps
    split_ifs at pumps with goes
    · refine iff_of_true ?_ goes
      obtain ⟨session, there, eq⟩ := Option.map_eq_some_iff.mp pumps
      obtain ⟨t, socket, eq⟩ := Option.map_eq_some_iff.mp (Prod.mk.inj eq).2
      refine ⟨t, Option.bind_eq_some_iff.mpr ⟨session, there, socket⟩, ?_⟩
      rw [(Prod.mk.inj eq).2]
      exact Nat.one_pos
    · refine iff_of_false (fun waits => ?_) goes
      obtain ⟨t, target, outstanding⟩ := waits
      obtain ⟨session, there, socket⟩ := Option.bind_eq_some_iff.mp target
      have none := pumps (pump session) (by rw [there]; rfl) (t.connecting, t.reads) (by rw [pump, socket]; rfl)
      rw [(Prod.mk.inj none).2] at outstanding
      cases outstanding
  rw [reads, sent, eq_comm (a := [])]

end

/-- No message of the client fails to be written. -/
lemma writes_trace {events : List RelayEvent} (h : ∀ e ∈ events, ∀ data, e ≠ .api (.webSocketMessage 1 data .failed)) :
    ∀ p ∈ trace relayStep relayStart events, ∀ data, p.2 ≠ .api (.webSocketMessage 1 data .failed) :=
  Guarded.trace h relayStart

/-- The response to the upgrade. -/
def upgradeResponse : Bytes :=
  utf8 "HTTP/1.1 101 Switching Protocols\r\n\r\n"

/-- A target that answers the upgrade and sends nothing. -/
theorem relays_frames_iff_silent :
    ∃ r, Run relayStep relayStart (trace relayStep relayStart acceptedUpgrade) r ∧
      Undisturbed 1 (trace relayStep relayStart acceptedUpgrade) r ∧
      (segments 1 (trace relayStep relayStart acceptedUpgrade)).flatten = upgradeResponse ++ Frame.encodeAll [] ∧
      (∃ t ∈ r.target 1, 0 < t.reads) ∧ r.sentTo 1 = Frame.messages [] := by
  obtain ⟨r, ex, reading, goes, client⟩ : ∃ r, exec relayStep relayStart acceptedUpgrade = some r ∧
      reads 1 (trace relayStep relayStart acceptedUpgrade) ≠ [] ∧
      (∀ result ∈ reads 1 (trace relayStep relayStart acceptedUpgrade), result ≠ .failed ∧ result ≠ .done []) ∧
      1 ∉ r.gone := ⟨_, rfl, by decide, by decide, by decide⟩
  have undisturbed : Undisturbed 1 (trace relayStep relayStart acceptedUpgrade) r :=
    ⟨reading, goes, client, writes_trace (by simp [acceptedUpgrade, WorkspaceApiHandler.upgradeEvents])⟩
  have stream : (segments 1 (trace relayStep relayStart acceptedUpgrade)).flatten =
      upgradeResponse ++ Frame.encodeAll [] := by decide +kernel
  have relays := (@relays_frames_iff r 1 _ utcCalendar (tableReader []) _ _ _ _ (Run.of_exec ex) undisturbed
    upgradeResponse []).mpr ⟨by decide +kernel, fun _ => rfl⟩
  exact ⟨r, Run.of_exec ex, undisturbed, stream, relays.1, relays.2 stream⟩

/-- A frame with the text "x". -/
def textFrame : Frame where
  fin := true
  opcode := opText
  mask := none
  payload := utf8 "x"
  bounded := by decide

/-- The frame comes after the response. -/
def textAfterUpgrade : List RelayEvent :=
  acceptedUpgrade ++ [.onTargetRead 1 (.done textFrame.encode) []]

/-- The message is not sent to the client, and the reads stop. -/
theorem relays_frames_fails :
    ∃ r, Run relayStep relayStart (trace relayStep relayStart textAfterUpgrade) r ∧
      Undisturbed 1 (trace relayStep relayStart textAfterUpgrade) r ∧
      (segments 1 (trace relayStep relayStart textAfterUpgrade)).flatten =
        upgradeResponse ++ Frame.encodeAll [textFrame] ∧
      Frame.messages [textFrame] = [utf8 "x"] ∧ r.sentTo 1 = [] ∧ ¬ ∃ t ∈ r.target 1, 0 < t.reads := by
  obtain ⟨r, ex, reading, goes, client, sent, idle⟩ : ∃ r, exec relayStep relayStart textAfterUpgrade = some r ∧
      reads 1 (trace relayStep relayStart textAfterUpgrade) ≠ [] ∧
      (∀ result ∈ reads 1 (trace relayStep relayStart textAfterUpgrade), result ≠ .failed ∧ result ≠ .done []) ∧
      1 ∉ r.gone ∧ r.sentTo 1 = [] ∧ ¬ ∃ t ∈ r.target 1, 0 < t.reads :=
    ⟨_, rfl, by decide, by decide, by decide, by decide, by decide⟩
  refine ⟨r, Run.of_exec ex, ⟨reading, goes, client, writes_trace ?_⟩, by decide +kernel, by decide, sent, idle⟩
  simp [textAfterUpgrade, acceptedUpgrade, WorkspaceApiHandler.upgradeEvents]

end Relay

end PureCloak.API
