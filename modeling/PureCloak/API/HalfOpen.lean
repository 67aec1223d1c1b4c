import PureCloak.API.RelaySteps

/-!
# Half-open relays

A session that is destroyed should take the connection of its client with it, and the proxy has no server to close it
with. `no_half_open_iff` says that a client is connected exactly as long as it has a session in those runs where no
session ends from the side of its target.
-/

namespace PureCloak.API
open PureCloak.Base PureCloak.Profiles PureCloak.Launcher Machine

/-- The results of reads end a session, whose target has accepted the upgrade or not. -/
def readsEnd : Bool → List (IOResult Bytes) → Bool
  | _, [] | _, .pending :: _ => false
  | _, .failed :: _ => true
  | complete, .done data :: results =>
    if data = [] then true
    else if complete then false
    else if answers data then readsEnd true results
    else refuses data || readsEnd false results

/-- The results of a connection end a session. -/
def connectEnds (complete : Bool) (results : SocketResults) : Bool :=
  results.connect ≠ .done () || results.write = .failed || readsEnd complete results.reads

namespace Relay
variable {r r' : Relay} {e : RelayEvent} {c : Int}

/-- The step ends a session from the side of its target. -/
def EndsSession (r : Relay) : RelayEvent → Prop
  | .api (.webSocketMessage conn _ result) =>
    result = .failed ∧ (r.session conn).any fun session => session.handshakeComplete && session.target.isSome
  | .api (.runApiTask results) =>
    match r.handler.apiTasks.head? with
    | none => False
    -- the workspace is not running
    | some (.onClientDisconnect conn) => (r.session conn).isSome
    | some (.connectToTarget conn _) =>
      results.connect ≠ .pending ∧ (r.session conn).any fun session => connectEnds session.handshakeComplete results
  | .onTargetConnected conn results => (r.session conn).any fun session => connectEnds session.handshakeComplete results
  | .onTargetRead conn result results =>
    (r.session conn).any fun session => readsEnd session.handshakeComplete (result :: results)
  | .api (.httpRequest _ _) | .api (.webSocketRequest _ _) | .api (.runUiTask _ _ _) | .manager _ | .onClose _
  | .onTargetWritten _ _ _ => False

instance (r : Relay) (e : RelayEvent) : Decidable (r.EndsSession e) :=
  match e with
  | .api (.webSocketMessage _ _ _) => inferInstanceAs (Decidable (_ ∧ _))
  | .api (.runApiTask results) =>
    match waits : r.handler.apiTasks.head? with
    | none => isFalse (by simp [EndsSession, waits])
    | some (.onClientDisconnect conn) =>
      decidable_of_iff ((r.session conn).isSome = true) (by simp [EndsSession, waits])
    | some (.connectToTarget conn port) =>
      decidable_of_iff (results.connect ≠ .pending ∧
        (r.session conn).any (fun session => connectEnds session.handshakeComplete results) = true)
        (by simp [EndsSession, waits])
  | .onTargetConnected _ _ | .onTargetRead _ _ _ => inferInstanceAs (Decidable (_ = true))
  | .api (.httpRequest _ _) | .api (.webSocketRequest _ _) | .api (.runUiTask _ _ _) | .manager _ | .onClose _
  | .onTargetWritten _ _ _ => inferInstanceAs (Decidable False)

/-- A client is connected exactly as long as it has a session. -/
def NoHalfOpen (r : Relay) : Prop :=
  ∀ conn, r.IsOpen conn ↔ (r.session conn).isSome

/-! ## Ends of sessions -/

/-- A session ends with its reads. -/
lemma afterReads_eq_none_iff {session : ProxySession} {results : List (IOResult Bytes)} {s : Option ProxySession}
    (h : session.afterReads results = some s) : s = none ↔ readsEnd session.handshakeComplete results := by
  have reads := ProxySession.reads_of_afterReads h
  clear h
  induction reads with
  | waits => cases ProxySession.handshakeComplete _ <;> simp [readsEnd]
  | ends result =>
    rcases result with rfl | rfl <;> cases ProxySession.handshakeComplete _ <;> simp [readsEnd]
  | relays complete bytes => simp [complete, bytes, readsEnd]
  | answered complete bytes answered _ ih =>
    refine Iff.trans ih ?_
    simp [complete, bytes, answered, readsEnd, ProxySession.completes]
  | refused complete bytes answered refused => simp [complete, bytes, answered, refused, readsEnd]
  | head complete bytes answered refused _ ih =>
    refine Iff.trans ih ?_
    simp [complete, bytes, answered, refused, readsEnd]

/-- It ends when it is connected. -/
lemma onConnected_eq_none_iff {session : ProxySession} {results : SocketResults} {s : Option ProxySession}
    (h : session.onConnected results = some s) : s = none ↔ connectEnds session.handshakeComplete results := by
  unfold ProxySession.onConnected at h
  unfold connectEnds
  split_ifs at h with ended
  · cases h
    rcases ended with connect | write
    · simp [connect]
    · simp [write]
  · obtain ⟨connect, write⟩ := not_or.mp ended
    rw [not_not] at connect
    have reads := afterReads_eq_none_iff h
    rw [show (session.wrote session.handshake results.write).handshakeComplete = session.handshakeComplete from rfl]
      at reads
    simpa [connect, write] using reads

/-- It ends when it connects. -/
lemma connectsTo_eq_none_iff {session : ProxySession} {port : Int} {results : SocketResults}
    {s : Option ProxySession} (h : session.connectsTo port results = some s) :
    s = none ↔ (results.connect ≠ .pending && connectEnds session.handshakeComplete results) := by
  unfold ProxySession.connectsTo at h
  dsimp only at h
  split_ifs at h with pending
  · cases h
    simp [pending]
  · have ends := onConnected_eq_none_iff h
    rw [ends]
    simp [pending, ProxySession.connects]

/-! ## Steps -/

/-- Where one session may have changed, all are there as before exactly when this one is. -/
lemma isSome_iff_of_other (other : ∀ conn, c ≠ conn → r'.session conn = r.session conn) :
    (∀ conn, (r'.session conn).isSome ↔ (r.session conn).isSome) ↔
      ((r'.session c).isSome ↔ (r.session c).isSome) := by
  constructor
  · intro same
    exact same c
  · intro same conn
    by_cases here : c = conn
    · rw [← here]
      exact same
    · rw [other conn here]

/-- The step of a session that is there, by what it makes of it. -/
lemma isSome_iff_of_elim {f : ProxySession → Option (Option ProxySession)} {p : ProxySession → Bool}
    (after : ∀ conn, (if c = conn then (r.session conn).elim (some none) f else some (r.session conn)) =
      some (r'.session conn))
    (ends : ∀ {session s}, f session = some s → (s = none ↔ p session)) :
    (∀ conn, (r'.session conn).isSome ↔ (r.session conn).isSome) ↔ ¬ (r.session c).any p := by
  have other : ∀ conn, c ≠ conn → r'.session conn = r.session conn := by
    intro conn ne
    have same := after conn
    rw [if_neg ne] at same
    exact (Option.some.inj same).symm
  have here := after c
  rw [if_pos rfl] at here
  rw [isSome_iff_of_other other]
  cases there : r.session c with
  | none =>
    rw [there] at here
    rw [← Option.some.inj here]
    simp
  | some session =>
    rw [there] at here
    rw [Option.any_some, ← ends here]
    cases r'.session c <;> simp

/-- Steps that neither accept nor close a connection leave all sessions there exactly when they end none. -/
lemma isSome_iff_of_after (after : r.After e r') (accepts : accepts e = []) (closes : closes e = []) :
    (∀ conn, (r'.session conn).isSome ↔ (r.session conn).isSome) ↔ ¬ r.EndsSession e := by
  have next := after.session
  cases e with
  | manager e =>
    have same : ∀ conn, r.session conn = r'.session conn := fun conn => Option.some.inj (next conn)
    simp [same, EndsSession]
  | onClose conn => cases closes
  | onTargetConnected c results => exact isSome_iff_of_elim next onConnected_eq_none_iff
  | onTargetRead c result results => exact isSome_iff_of_elim next afterReads_eq_none_iff
  | onTargetWritten c i result =>
    have other : ∀ conn, c ≠ conn → r'.session conn = r.session conn := fun conn ne =>
      (Option.some.inj (next conn)).symm.trans (if_neg ne)
    have here : r'.session c = (r.session c).map (ProxySession.writes i result) :=
      (Option.some.inj (next c)).symm.trans (if_pos rfl)
    rw [isSome_iff_of_other other, here, Option.isSome_map]
    simp [EndsSession]
  | api e =>
    cases e with
    | httpRequest | runUiTask =>
      have same : ∀ conn, r.session conn = r'.session conn := fun conn => Option.some.inj (next conn)
      simp [same, EndsSession]
    | webSocketRequest c info =>
      cases endpoint : cdpEndpoint (parsePath info.path) with
      | some found => simp [Relay.accepts, endpoint] at accepts
      | none =>
        have same : ∀ conn, r.session conn = r'.session conn := by
          intro conn
          have after := next conn
          simp only [Relay.next, endpoint] at after
          exact Option.some.inj after
        simp [same, EndsSession]
    | webSocketMessage c data result =>
      have other : ∀ conn, c ≠ conn → r'.session conn = r.session conn := fun conn ne =>
        (Option.some.inj (next conn)).symm.trans (if_neg ne)
      have here : r'.session c = (r.session c).bind fun session => session.forwards data result :=
        (Option.some.inj (next c)).symm.trans (if_pos rfl)
      rw [isSome_iff_of_other other, here, EndsSession]
      cases r.session c with
      | none => simp
      | some session =>
        rw [Option.bind_some, Option.any_some, ProxySession.forwards]
        split_ifs with relays failed <;> simp_all
    | runApiTask results =>
      cases waits : r.handler.apiTasks.head? with
      | none =>
        have absent := next 0
        simp only [Relay.next, waits] at absent
        cases absent
      | some task =>
        simp only [Relay.next, waits] at next
        cases task with
        | connectToTarget c port =>
          rw [isSome_iff_of_elim next connectsTo_eq_none_iff]
          simp only [EndsSession, waits]
          cases r.session c <;> simp
        | onClientDisconnect c =>
          have other : ∀ conn, c ≠ conn → r'.session conn = r.session conn := fun conn ne =>
            (Option.some.inj (next conn)).symm.trans (if_neg ne)
          have here : r'.session c = none := (Option.some.inj (next c)).symm.trans (if_pos rfl)
          rw [isSome_iff_of_other other, here]
          simp only [EndsSession, waits]
          simp

/-- A connection is open after a step when it was accepted and neither closed nor gone. -/
lemma isOpen_iff_of_after (after : r.After e r') {conn : Int} :
    r'.IsOpen conn ↔ (conn ∈ r.handler.accepted ∨ conn ∈ accepts e) ∧ conn ∉ closes e ∧ conn ∉ r.gone := by
  rw [IsOpen, after.accepted, after.gone, after.setUp.closed, List.mem_append, List.mem_append, not_or]
  simp

/-- Of the accepted connections those are open that are not gone. -/
lemma SetUp.isOpen_iff (setUp : r.SetUp) {conn : Int} :
    r.IsOpen conn ↔ conn ∈ r.handler.accepted ∧ conn ∉ r.gone := by
  simp [IsOpen, setUp.closed]

/-- A client that closes its connection loses its session. -/
lemma SetUp.no_half_open_onClose (setUp : r.SetUp) (open_ : r.NoHalfOpen) (after : r.After (.onClose c) r') :
    r'.NoHalfOpen := by
  intro conn
  have session : r'.session conn = if c = conn then none else r.session conn :=
    (Option.some.inj (after.session conn)).symm
  rw [isOpen_iff_of_after after, session]
  have before := open_ conn
  rw [setUp.isOpen_iff] at before
  split_ifs with here
  · simp [closes, here]
  · rw [← before]
    simp [accepts, closes, Ne.symm here]

/-- A client whose connection is accepted gets a session. -/
lemma SetUp.no_half_open_accepted {info : HttpServerRequestInfo} (setUp : r.SetUp) (open_ : r.NoHalfOpen)
    (after : r.After (.api (.webSocketRequest c info)) r')
    (accepted : accepts (.api (.webSocketRequest c info)) ≠ []) : r'.NoHalfOpen := by
  intro conn
  cases endpoint : cdpEndpoint (parsePath info.path) with
  | none => simp [accepts, endpoint] at accepted
  | some found =>
    obtain ⟨wsId, subpath⟩ := found
    have session := after.session conn
    simp only [Relay.next, endpoint] at session
    rw [isOpen_iff_of_after after, ← Option.some.inj session]
    have before := open_ conn
    rw [setUp.isOpen_iff] at before
    have fresh : c ∉ r.handler.accepted ∧ c ∉ r.gone := after.enabled
    split_ifs with here
    · simp [accepts, closes, endpoint, ← here, fresh.2]
    · rw [← before]
      simp [accepts, closes, endpoint, Ne.symm here]

/-- Where all clients have their sessions, they have them after a step exactly when it ends none from the side of
the target. -/
lemma SetUp.no_half_open_step (setUp : r.SetUp) (open_ : r.NoHalfOpen) (after : r.After e r') :
    r'.NoHalfOpen ↔ ¬ r.EndsSession e := by
  by_cases accepted : accepts e = []
  · by_cases closed : closes e = []
    · rw [← isSome_iff_of_after after accepted closed]
      apply forall_congr'
      intro conn
      rw [isOpen_iff_of_after after, accepted, closed, ← open_ conn, setUp.isOpen_iff]
      simp [iff_comm]
    · cases e with
      | onClose c => exact iff_of_true (setUp.no_half_open_onClose open_ after) id
      | api | manager | onTargetConnected | onTargetRead | onTargetWritten => exact absurd rfl closed
  · cases e with
    | api e =>
      cases e with
      | webSocketRequest c info => exact iff_of_true (setUp.no_half_open_accepted open_ after accepted) id
      | httpRequest | webSocketMessage | runUiTask | runApiTask => exact absurd rfl accepted
    | manager | onClose | onTargetConnected | onTargetRead | onTargetWritten => exact absurd rfl accepted

/-! ## Runs -/

/-- A proxy begins set up. -/
lemma setUp_start (apiToken : String) (store : WorkspaceStore) (manager : World) :
    (start apiToken store manager).SetUp :=
  ⟨rfl, rfl, rfl, rfl⟩

/-- At first no connection is half open. -/
lemma no_half_open_start (apiToken : String) (store : WorkspaceStore) (manager : World) :
    (start apiToken store manager).NoHalfOpen := by
  intro conn
  simp [start, IsOpen, session]

/-- Clients are connected exactly as long as they have their sessions, in the runs where no session ends from the side
of the target. -/
theorem no_half_open_iff [TimeLib] [JSONReader] {env : Env} {apiToken : String} {store : WorkspaceStore}
    {manager : World} {tr : List (Relay × RelayEvent)}
    (run : Run (Relay.step env) (.start apiToken store manager) tr r) :
    Always NoHalfOpen tr r ↔ Guarded (fun r e => ¬ r.EndsSession e) tr := by
  apply run.always_iff (I := SetUp) _ _ (setUp_start apiToken store manager) (no_half_open_start apiToken store manager)
  · intro u e v setUp st
    exact (step_after setUp st).setUp
  · intro u e v setUp open_ st
    exact setUp.no_half_open_step open_ (step_after setUp st)

/-- The relay while the workspace "a" runs. -/
def relayStart : Relay :=
  start "t" {} WorkspaceApiHandler.guardedHandler.manager

/-- A step where no body can be parsed. -/
abbrev relayStep : Relay → RelayEvent → Option Relay :=
  @Relay.step utcCalendar (tableReader []) bareEnv

/-- An upgrade to the CDP endpoint of a workspace, and the tasks that follow. -/
def upgradeTo (wsId : String) : List RelayEvent :=
  [.api (.webSocketRequest 1 (.bare "GET" ("/api/workspaces/" ++ wsId ++ "/cdp"))),
    .api (.runUiTask WorkspaceApiHandler.anyDrawn WorkspaceApiHandler.anyDrawn fun _ => WorkspaceApiHandler.anyDrawn),
    .api (.runApiTask {})]

/-- The client of a workspace that runs is connected, and has a session. -/
theorem no_half_open_iff_running :
    ∃ r, Run relayStep relayStart (trace relayStep relayStart (upgradeTo "a")) r ∧ r.IsOpen 1 ∧
      Always NoHalfOpen (trace relayStep relayStart (upgradeTo "a")) r := by
  obtain ⟨r, ex, isOpen⟩ : ∃ r, exec relayStep relayStart (upgradeTo "a") = some r ∧ r.IsOpen 1 :=
    ⟨_, rfl, by decide⟩
  have guarded : Guarded (fun r e => ¬ EndsSession r e) (trace relayStep relayStart (upgradeTo "a")) := by
    decide
  have always := @no_half_open_iff r utcCalendar (tableReader []) _ _ _ _ _ (Run.of_exec ex)
  exact ⟨r, Run.of_exec ex, isOpen, always.mpr guarded⟩

/-- The workspace "b" does not run: the client stays connected, without a session. -/
theorem no_half_open_fails :
    ∃ r, Run relayStep relayStart (trace relayStep relayStart (upgradeTo "b")) r ∧ r.handler.Idle ∧
      r.IsOpen 1 ∧ ¬ (r.session 1).isSome ∧ ¬ r.NoHalfOpen := by
  obtain ⟨r, ex, idle, isOpen, ended⟩ : ∃ r, exec relayStep relayStart (upgradeTo "b") = some r ∧
      r.handler.Idle ∧ r.IsOpen 1 ∧ ¬ (r.session 1).isSome := ⟨_, rfl, ⟨rfl, rfl⟩, by decide, by decide⟩
  exact ⟨r, Run.of_exec ex, idle, isOpen, ended, fun open_ => ended ((open_ 1).mp isOpen)⟩

end Relay

end PureCloak.API
