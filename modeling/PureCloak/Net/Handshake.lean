import PureCloak.Net.DoLoop

/-!
# Runs of the handshake

What holds in every run of a caller that keeps to the rules of the interface (`Conforms`): `Phase` says what the socket,
its caller and the TCP connection are at in relation to each other, `Does` what a step can do then, and `Kept.step`
turns what the parts of a step keep into an invariant.
-/

namespace PureCloak.Net
open Machine

/-! ## Phases -/

/-- A call that the interface allows: one connect call, and no read or write before it or while it is not completed,
nor two of a kind at a time. -/
def Conforms (w : World) : Event → Prop
  | .connect _ _ _ | .connectAsync _ _ => w.caller.path = none
  | .read _ _ => w.caller.path ≠ none ∧ w.caller.connecting = false ∧ w.caller.reading = false
  | .write _ _ => w.caller.path ≠ none ∧ w.caller.connecting = false ∧ w.caller.writing = false
  | _ => True

instance (w : World) : (e : Event) → Decidable (Conforms w e)
  | .connect _ _ _ | .connectAsync _ _ => inferInstanceAs (Decidable (_ = _))
  | .read _ _ | .write _ _ => inferInstanceAs (Decidable (_ ∧ _))
  | .close | .turn _ | .udpReads _ | .udpWrites _ | .tcpCompletes _ | .udpReadCompletes _
  | .udpWriteCompletes _ => isTrue trivial

/-- The process goes on, and nothing is to be done for the relay. -/
structure Live (w : World) : Prop where
  aborted : w.aborted = false
  reading : w.caller.reading = false
  userReadCallback : w.userReadCallback = none
  udpReading : w.udpReading = false
  udpWriting : w.udpWriting = none

/-- Nothing is going on. -/
structure Calm (w : World) : Prop extends Live w where
  control : w.control = .idle
  connecting : w.caller.connecting = false
  writing : w.caller.writing = false
  userConnectCallback : w.userConnectCallback = none
  userWriteCallback : w.userWriteCallback = none
  tcpPending : w.tcpPending = none
  udpConnected : w.udpConnected = false

/-- The handshake is going on, for the write or for the connect call that has started it. -/
structure Busy (w : World) : Prop extends Live w where
  side :
    (w.caller.path = some .sync ∧ w.caller.connecting = false ∧ w.caller.writing = true ∧
      w.userConnectCallback = none ∧ ∃ callback, w.userWriteCallback = some callback) ∨
    (w.caller.path = some .async ∧ w.caller.connecting = true ∧ w.caller.writing = false ∧
      w.userWriteCallback = none ∧ ∃ callback, w.userConnectCallback = some callback)

/-- The frame of a loop belongs to the call that has started the handshake. -/
def Frame.Fits (w : World) : Frame → Prop
  | .connectAsync _ => w.caller.path = some .async
  | .write _ _ => w.caller.path = some .sync
  | .onIOComplete => True

/-- No connection was started. -/
structure Untouched (w : World) : Prop where
  tcpSocket : w.tcpSocket = false
  writeBuf : w.writeBuf = none
  readBuf : w.readBuf = none
  sent : w.sent = []
  received : w.received = []

/-- What a socket is at. -/
inductive Phase (w : World) : Prop where
  | fresh :
    Calm w →
    w.caller.path = none →
    w.nextState = .STATE_NONE →
    Untouched w →
    Phase w
  | ready :
    Calm w →
    w.caller.path = some .sync →
    w.nextState = .STATE_TCP_CONNECT →
    Untouched w →
    Phase w
  | looping {frame rv} :
    Busy w →
    w.control = .doLoop frame rv →
    frame.Fits w →
    w.tcpPending = none →
    Steady w rv →
    Phase w
  | waiting {op} :
    Busy w →
    w.control = .idle →
    Waiting w op →
    Phase w
  | ended :
    Calm w →
    w.caller.path ≠ none →
    w.nextState = .STATE_NONE →
    Phase w
  | dead :
    w.aborted = true →
    w.control = .idle →
    Phase w

/-- What a step can do. -/
inductive Does (w : World) : Event → World → Prop where
  | opens {address localAddress reports} :
    w.caller.path = none →
    Does w (.connect address OK localAddress) { w with
      caller := { w.caller with path := some .sync }
      targetAddress := address
      udpSocket := true
      localAddress := localAddress
      nextState := .STATE_TCP_CONNECT
      reports := reports }
  | opensNot {address opened localAddress reports} :
    w.caller.path = none →
    Does w (.connect address opened localAddress) { w with
      caller := { w.caller with path := some .sync }
      targetAddress := address
      udpSocket := true
      reports := reports }
  | connectsAsync {address callback} :
    w.caller.path = none →
    Does w (.connectAsync address callback) { w with
      caller := { w.caller with path := some .async, connecting := true }
      targetAddress := address
      userConnectCallback := some callback
      nextState := .STATE_TCP_CONNECT
      control := .doLoop (.connectAsync callback) OK
      fired := w.fired ++ [.connectAsyncCallback] }
  | reads {bufLen callback fired reports} :
    (w.caller.writing = false → fired = w.fired) →
    (w.caller.writing = true → fired ≠ []) →
    Does w (.read bufLen callback) { w with fired := fired, reports := reports }
  | writesNot {payload callback reports} :
    Does w (.write payload callback) { w with reports := reports }
  | parks {payload callback} :
    Calm w →
    w.nextState = .STATE_TCP_CONNECT →
    w.caller.path = some .sync →
    Untouched w →
    Does w (.write payload callback) { w with
      caller := { w.caller with writing := true }
      writeBuf := some { data := buildUDPEncapsulatedPacket w.targetAddress payload }
      userWriteCallback := some callback
      control := .doLoop (.write payload callback) OK }
  | closes :
    w.control = .idle →
    Does w .close w.close
  | completes {answer op w1 rv} :
    w.tcpPending = some op →
    w.nextState.pendingOp = some op →
    ({ w with tcpPending := none } : World).tcpDone op answer = some (w1, rv) →
    Does w (.tcpCompletes answer) { w1 with control := .doLoop .onIOComplete rv }
  | goesOn {answer frame rv w1 rv1} :
    w.control = .doLoop frame rv →
    w.nextState ≠ .STATE_CONNECTED →
    w.doLoopBody rv answer = some (w1, rv1) →
    Turned w rv w1 rv1 →
    rv1 ≠ ERR_IO_PENDING →
    w1.nextState ≠ .STATE_NONE →
    Does w (.turn answer) { w1 with control := .doLoop frame rv1 }
  | waits {answer frame rv w1 reports} :
    w.control = .doLoop frame rv →
    w.nextState ≠ .STATE_CONNECTED →
    w.doLoopBody rv answer = some (w1, ERR_IO_PENDING) →
    Turned w rv w1 ERR_IO_PENDING →
    Does w (.turn answer) { w1 with control := .idle, reports := reports }
  | ends {answer frame rv w1 rv1 writeBuf reports} :
    w.control = .doLoop frame rv →
    w.nextState ≠ .STATE_CONNECTED →
    w.doLoopBody rv answer = some (w1, rv1) →
    Turned w rv w1 rv1 →
    w1.nextState = .STATE_NONE →
    Does w (.turn answer) { w1 with
      control := .idle
      userConnectCallback := none
      userWriteCallback := none
      writeBuf := writeBuf
      caller := { w1.caller with connecting := false, writing := false }
      reports := reports }
  | dies {answer frame rv} :
    w.control = .doLoop frame rv →
    w.nextState = .STATE_CONNECTED →
    Does w (.turn answer) ({ w with nextState := .STATE_NONE }.abort .notReached)

/-! ## Steps -/

/-- A call that is over at once leaves what the caller has outstanding as it was. -/
lemma complete_writing {c : Caller} {callback : Callback} (h : c.writing = false) :
    ({ c with writing := true } : Caller).complete (.write callback) = c := by
  cases c
  cases h
  rfl

/-- A callback of `Read` does not end the connect call. -/
lemma complete_reading {c : Caller} {callback : Callback} (h : c.reading = false) :
    ({ c with reading := true } : Caller).complete (.read callback) = c := by
  cases c
  cases h
  rfl

/-- The connect call tells its result. -/
lemma returns_connect (w : World) (rv : Int) :
    w.returns .connect rv = { w with reports := w.reports ++ [.returned .connect rv] } := by
  simp only [World.returns, Caller.complete, ite_self]

/-- A read before the socket is connected is refused. -/
lemma does_read {w : World} {bufLen : Nat} {callback : Callback} (reading : w.caller.reading = false)
    (userReadCallback : w.userReadCallback = none) (udpConnected : w.udpConnected = false)
    (side : w.caller.writing = true ↔ w.userWriteCallback ≠ none) :
    Does w (.read bufLen callback) (w.read bufLen callback) := by
  have refused : w.read bufLen callback = { w with
      fired := if w.userWriteCallback = none then w.fired else w.fired ++ [.readNotWriting]
      reports := w.reports ++ [.returned (.read callback) ERR_SOCKET_NOT_CONNECTED] } := by
    simp only [World.read, World.dcheck, userReadCallback, if_true]
    split
    · simp [udpConnected, World.returns, complete_reading reading]
    · simp [udpConnected, World.returns, complete_reading reading]
  rw [refused]
  apply Does.reads
  · intro not_writing
    rw [if_pos]
    by_contra ne
    rw [side.mpr ne] at not_writing
    cases not_writing
  · intro writing
    rw [if_neg (side.mp writing)]
    simp

/-- A write that finds nothing going on is refused, or it starts the handshake. -/
lemma does_write {w : World} {payload : List UInt8} {callback : Callback} (calm : Calm w)
    (h : w.nextState = .STATE_NONE ∨
      w.nextState = .STATE_TCP_CONNECT ∧ w.caller.path = some .sync ∧ Untouched w) :
    Does w (.write payload callback) (w.write payload callback) := by
  have completed : ({ w.caller with writing := true } : Caller).complete (.write callback) = w.caller :=
    complete_writing calm.writing
  simp only [World.write, dcheck_true calm.userReadCallback, dcheck_true calm.userWriteCallback]
  split
  · simp only [World.returns, completed]
    exact .writesNot
  · rw [if_pos (by simp [calm.udpConnected])]
    obtain none | ⟨ready, path, untouched⟩ := h
    · rw [if_pos none]
      simp only [World.returns, completed]
      exact .writesNot
    · have going : w.nextState ≠ .STATE_NONE := by simp [ready]
      rw [if_neg going, World.doLoop, dcheck_true going]
      exact .parks calm ready path untouched

/-- Where `DoLoop` returns to while an operation is going on, the caller is told so, or no one is. -/
lemma afterDoLoop_pending (w : World) (frame : Frame) : ∃ reports,
    w.afterDoLoop ERR_IO_PENDING frame = { w with reports := reports } := by
  cases frame with
  | connectAsync callback => exact ⟨w.reports ++ [.returned (.connectAsync callback) ERR_IO_PENDING], rfl⟩
  | write payload callback => exact ⟨w.reports ++ [.returned (.write callback) ERR_IO_PENDING], rfl⟩
  | onIOComplete => exact ⟨w.reports, rfl⟩

/-- When `DoLoop` has failed, the call that has started the handshake is completed. -/
lemma afterDoLoop_failed {w : World} {frame : Frame} {rv : Int} (busy : Busy w) (fits : frame.Fits w)
    (not_pending : rv ≠ ERR_IO_PENDING) (not_ok : rv ≠ OK) : ∃ writeBuf reports,
    w.afterDoLoop rv frame = { w with
      userConnectCallback := none
      userWriteCallback := none
      writeBuf := writeBuf
      caller := { w.caller with connecting := false, writing := false }
      reports := reports } := by
  obtain ⟨path, connecting, writing, userConnectCallback, callback, userWriteCallback⟩ |
    ⟨path, connecting, writing, userWriteCallback, callback, userConnectCallback⟩ := busy.side
  · cases frame with
    | connectAsync => cases path.symm.trans fits
    | write payload callback =>
      refine ⟨none, w.reports ++ [.returned (.write callback) rv], ?_⟩
      simp [World.afterDoLoop, World.returns, Caller.complete, not_pending, not_ok, connecting,
        userConnectCallback]
    | onIOComplete =>
      refine ⟨none, w.reports ++ [.ran (.write callback) rv], ?_⟩
      simp [World.afterDoLoop, World.run, Caller.complete, not_pending, not_ok, connecting,
        userConnectCallback, userWriteCallback]
  · cases frame with
    | connectAsync callback =>
      refine ⟨w.writeBuf, w.reports ++ [.returned (.connectAsync callback) rv], ?_⟩
      simp [World.afterDoLoop, World.returns, Caller.complete, not_pending, writing,
        userWriteCallback]
    | write => cases path.symm.trans fits
    | onIOComplete =>
      refine ⟨w.writeBuf, w.reports ++ [.ran (.connectAsync callback) rv], ?_⟩
      simp [World.afterDoLoop, World.doCallback, World.dcheck, World.run, Caller.complete, not_pending,
        writing, userConnectCallback, userWriteCallback]

/-- Who is waiting for the handshake stays the same while it goes on. -/
lemma SameCaller.busy {w w1 : World} (same : SameCaller w w1) (busy : Busy w) : Busy w1 := by
  obtain ⟨⟨aborted, reading, userReadCallback, udpReading, udpWriting⟩, side⟩ := busy
  refine ⟨⟨?_, ?_, ?_, ?_, ?_⟩, ?_⟩
  · rw [same.aborted, aborted]
  · rw [same.caller, reading]
  · rw [same.userReadCallback, userReadCallback]
  · rw [same.udpReading, udpReading]
  · rw [same.udpWriting, udpWriting]
  · rw [same.caller, same.userConnectCallback, same.userWriteCallback]
    exact side

/-- A frame fits the same caller. -/
lemma SameCaller.fits {w w1 : World} {frame : Frame} (same : SameCaller w w1) (fits : frame.Fits w) :
    frame.Fits w1 := by
  cases frame with
  | connectAsync => exact same.path.trans fits
  | write => exact same.path.trans fits
  | onIOComplete => trivial

/-- A turn of the loop is one of the steps of a busy socket. -/
lemma does_turn {w w' : World} {frame : Frame} {rv : Int} {answer : Answer} (busy : Busy w)
    (control : w.control = .doLoop frame rv) (fits : frame.Fits w) (none_pending : w.tcpPending = none)
    (s : Steady w rv) (st : w.turn frame rv answer = some w') : Does w (.turn answer) w' := by
  obtain ⟨⟨w1, rv1⟩, body, rfl⟩ := Option.map_eq_some_iff.mp st
  have turned := turned_of_body s body
  cases Classical.em (w.nextState = .STATE_CONNECTED) with
  | inl connected =>
    simp only [World.doLoopBody, connected] at body
    cases quiet_inv body
    exact .dies control connected
  | inr ne =>
    have same := turned.sameCaller ne
    dsimp only
    rw [if_neg (by simp [same.aborted, busy.aborted])]
    cases turned.outcome s ne none_pending with
    | waits pending waiting =>
      cases pending
      obtain ⟨reports, eq⟩ := afterDoLoop_pending { w1 with control := .idle } frame
      rw [if_neg (fun h => h.1 rfl), eq]
      have did : Does w (.turn answer) { w1 with control := .idle, reports := reports } :=
        .waits control ne body turned
      exact did
    | goesOn _ steady =>
      rw [if_pos ⟨steady.notPending, steady.going⟩]
      exact .goesOn control ne body turned steady.notPending steady.going
    | ends not_pending not_ok none_next =>
      have busy1 : Busy { w1 with control := .idle } := { same.busy busy with }
      obtain ⟨writeBuf, reports, eq⟩ := afterDoLoop_failed busy1 (same.fits fits) not_pending not_ok
      rw [if_neg (fun h => h.2 none_next), eq]
      have did : Does w (.turn answer) { w1 with
          control := .idle
          userConnectCallback := none
          userWriteCallback := none
          writeBuf := writeBuf
          caller := { w1.caller with connecting := false, writing := false }
          reports := reports } := .ends control ne body turned none_next
      exact did

/-- Only a socket that was not aborted takes a step. -/
lemma alive_of_step {w w' : World} {e : Event} (st : w.step e = some w') : w.aborted = false := by
  rw [Bool.eq_false_iff]
  intro dead
  simp [World.step, dead] at st

/-- A step of a socket that nothing is going on with. -/
lemma does_of_calm {w w' : World} {e : Event} (calm : Calm w) (conforms : Conforms w e)
    (h : w.nextState = .STATE_NONE ∨
      w.nextState = .STATE_TCP_CONNECT ∧ w.caller.path = some .sync ∧ Untouched w)
    (first : w.caller.path = none → w.nextState = .STATE_NONE) (st : w.step e = some w') :
    Does w e w' := by
  simp only [World.step, calm.aborted, calm.control] at st
  cases e with
  | connect address opened localAddress =>
    cases st
    simp only [World.connect, dcheck_true (first conforms)]
    split
    · rw [returns_connect]
      exact .opensNot conforms
    case isFalse ok =>
      cases not_not.mp ok
      exact .opens conforms
  | connectAsync address callback =>
    cases st
    have no_callback : ¬ w.userConnectCallback ≠ none := not_not.mpr calm.userConnectCallback
    simp only [World.connectAsync, dcheck_true (first conforms), dcheck_false no_callback, World.doLoop]
    rw [dcheck_true (by simp)]
    exact .connectsAsync conforms
  | read bufLen callback =>
    cases st
    exact does_read calm.reading calm.userReadCallback calm.udpConnected
      (by simp [calm.writing, calm.userWriteCallback])
  | write payload callback =>
    cases st
    exact does_write calm h
  | close =>
    cases st
    exact .closes calm.control
  | tcpCompletes answer => simp [World.stepIdle, calm.tcpPending] at st
  | udpReadCompletes answer => simp [World.stepIdle, calm.udpReading] at st
  | udpWriteCompletes rv => simp [World.stepIdle, calm.udpWriting] at st
  | turn | udpReads | udpWrites => cases st

/-- A step of a socket that waits for the TCP connection. -/
lemma does_of_waiting {w w' : World} {e : Event} {op : TcpOp} (busy : Busy w) (control : w.control = .idle)
    (waiting : Waiting w op) (conforms : Conforms w e) (st : w.step e = some w') : Does w e w' := by
  have path : w.caller.path ≠ none := by
    obtain h | h := busy.side
    · simp [h.1]
    · simp [h.1]
  have state := waiting.state
  simp only [World.step, busy.aborted, control] at st
  cases e with
  | connect | connectAsync => exact absurd conforms path
  | read bufLen callback =>
    cases st
    apply does_read busy.reading busy.userReadCallback waiting.udpConnected
    obtain ⟨_, _, writing, _, callback, some⟩ | ⟨_, _, writing, none, _⟩ := busy.side
    · simp [writing, some]
    · simp [writing, none]
  | write payload callback =>
    obtain ⟨_, not_connecting, not_writing⟩ := conforms
    obtain ⟨_, _, writing, _⟩ | ⟨_, connecting, _⟩ := busy.side
    · cases writing.symm.trans not_writing
    · cases connecting.symm.trans not_connecting
  | close =>
    cases st
    exact .closes control
  | tcpCompletes answer =>
    simp only [World.stepIdle, waiting.pending] at st
    obtain ⟨⟨w1, rv⟩, done, rfl⟩ := Option.map_eq_some_iff.mp st
    have going : w1.nextState ≠ .STATE_NONE := by
      rw [(tcpDone_inv done).nextState]
      exact State.ne_of_pendingOp state rfl
    dsimp only
    rw [World.onIOComplete, dcheck_true going, World.doLoop, dcheck_true going]
    exact .completes waiting.pending state done
  | udpReadCompletes answer => simp [World.stepIdle, busy.udpReading] at st
  | udpWriteCompletes rv => simp [World.stepIdle, busy.udpWriting] at st
  | turn | udpReads | udpWrites => cases st

/-- Every step is one of the steps that `Does` lists. -/
theorem does_of_step {w w' : World} {e : Event} (ph : Phase w) (conforms : Conforms w e)
    (st : w.step e = some w') : Does w e w' := by
  cases ph with
  | fresh calm _ none => exact does_of_calm calm conforms (.inl none) (fun _ => none) st
  | ready calm path ready untouched =>
    refine does_of_calm calm conforms (.inr ⟨ready, path, untouched⟩) ?_ st
    intro no_path
    cases path.symm.trans no_path
  | looping busy control fits none_pending s =>
    simp only [World.step, busy.aborted, control] at st
    cases e with
    | turn answer => exact does_turn busy control fits none_pending s st
    | _ => cases st
  | waiting busy control waiting => exact does_of_waiting busy control waiting conforms st
  | ended calm _ none => exact does_of_calm calm conforms (.inl none) (fun _ => none) st
  | dead aborted => simp [World.step, aborted] at st

/-- A busy socket was connected by some path. -/
lemma Busy.path_ne {w : World} (busy : Busy w) : w.caller.path ≠ none := by
  obtain h | h := busy.side
  · simp [h.1]
  · simp [h.1]

/-- Before the connect call nothing has happened. -/
lemma Phase.of_fresh {w : World} (ph : Phase w) (alive : w.aborted = false) (path : w.caller.path = none) :
    Calm w ∧ w.nextState = .STATE_NONE ∧ Untouched w := by
  cases ph with
  | fresh calm _ none untouched => exact ⟨calm, none, untouched⟩
  | ready _ sync => cases path.symm.trans sync
  | looping busy | waiting busy => exact absurd path busy.path_ne
  | ended _ ne => exact absurd path ne
  | dead dead => cases alive.symm.trans dead

/-- In the loop the socket is busy and steady. -/
lemma Phase.of_loop {w : World} {frame : Frame} {rv : Int} (ph : Phase w) (alive : w.aborted = false)
    (control : w.control = .doLoop frame rv) :
    Busy w ∧ frame.Fits w ∧ w.tcpPending = none ∧ Steady w rv := by
  cases ph with
  | fresh calm | ready calm | ended calm => cases control.symm.trans calm.control
  | looping busy control' fits none_pending s =>
    cases control.symm.trans control'
    exact ⟨busy, fits, none_pending, s⟩
  | waiting _ idle => cases control.symm.trans idle
  | dead dead => cases alive.symm.trans dead

/-- With an operation outstanding the socket is busy and waiting. -/
lemma Phase.of_pending {w : World} {op : TcpOp} (ph : Phase w) (alive : w.aborted = false)
    (pending : w.tcpPending = some op) : Busy w ∧ w.control = .idle ∧ Waiting w op := by
  cases ph with
  | fresh calm | ready calm | ended calm => cases pending.symm.trans calm.tcpPending
  | looping _ _ _ none_pending => cases pending.symm.trans none_pending
  | waiting busy idle waiting =>
    cases pending.symm.trans waiting.pending
    exact ⟨busy, idle, waiting⟩
  | dead dead => cases alive.symm.trans dead

/-- What fired and what the caller was told is of no account. -/
lemma Phase.of_reports {w : World} (ph : Phase w) (fired : List Assertion) (reports : List Report) :
    Phase { w with fired := fired, reports := reports } := by
  cases ph with
  | fresh calm path none untouched => exact .fresh { calm with } path none { untouched with }
  | ready calm path ready untouched => exact .ready { calm with } path ready { untouched with }
  | @looping frame rv busy control fits none_pending s =>
    have fits' : frame.Fits { w with fired := fired, reports := reports } := by cases frame <;> exact fits
    exact .looping { busy with } control fits' none_pending { s with }
  | waiting busy idle waiting => exact .waiting { busy with } idle { waiting with }
  | ended calm path none => exact .ended { calm with } path none
  | dead dead idle => exact .dead dead idle

/-- A closed socket that had nothing to do for the relay is calm. -/
lemma calm_close {w : World} (aborted : w.aborted = false) (control : w.control = .idle) :
    Calm w.close := by
  constructor
  · constructor
    all_goals first | exact aborted | rfl
  · exact control
  all_goals rfl

/-- The loop starts with the connection to the proxy. -/
lemma steady_first {w : World} (first : w.nextState = .STATE_TCP_CONNECT) (noSocket : w.tcpSocket = false)
    (udpConnected : w.udpConnected = false) : Steady w OK := by
  constructor
  · decide
  · intro _
    rfl
  · intro _
    exact noSocket
  all_goals simp [first, State.pendingOp, udpConnected]

/-- The phases are kept by every step of a run that conforms to the interface. -/
theorem phase_step {w w' : World} {e : Event} (ph : Phase w) (conforms : Conforms w e)
    (st : w.step e = some w') : Phase w' := by
  have alive := alive_of_step st
  cases does_of_step ph conforms st with
  | opens path =>
    obtain ⟨calm, none, untouched⟩ := ph.of_fresh alive path
    exact .ready { calm with } rfl rfl { untouched with }
  | opensNot path =>
    obtain ⟨calm, none, untouched⟩ := ph.of_fresh alive path
    exact .ended { calm with } (by simp) none
  | connectsAsync path =>
    obtain ⟨calm, none, untouched⟩ := ph.of_fresh alive path
    exact .looping ⟨{ calm with }, .inr ⟨rfl, rfl, calm.writing, calm.userWriteCallback, _, rfl⟩⟩ rfl rfl
      calm.tcpPending (steady_first rfl untouched.tcpSocket calm.udpConnected)
  | reads => exact ph.of_reports _ _
  | writesNot => exact ph.of_reports _ _
  | parks calm ready path untouched =>
    exact .looping ⟨{ calm with }, .inl ⟨path, calm.connecting, rfl, calm.userConnectCallback, _, rfl⟩⟩ rfl
      path calm.tcpPending (steady_first ready untouched.tcpSocket calm.udpConnected)
  | closes control =>
    have calm := calm_close alive control
    cases path : w.caller.path with
    | none =>
      obtain ⟨_, _, untouched⟩ := ph.of_fresh alive path
      exact .fresh calm path rfl { untouched with tcpSocket := rfl }
    | some p =>
      refine .ended calm ?_ rfl
      simp [World.close, path]
  | completes pending state done =>
    obtain ⟨busy, _, waiting⟩ := ph.of_pending alive pending
    have done := tcpDone_inv done
    have busy1 := done.sameCaller.busy { busy with }
    obtain ⟨steady, pending1⟩ := steady_of_tcpDone done state waiting.writeBuf waiting.readBuf
      waiting.udpConnected
    exact .looping { busy1 with } rfl trivial pending1 { steady with }
  | goesOn control ne _ turned not_pending going =>
    obtain ⟨busy, fits, none_pending, s⟩ := ph.of_loop alive control
    have same := turned.sameCaller ne
    cases turned.outcome s ne none_pending with
    | waits pending => exact absurd pending not_pending
    | goesOn none_pending steady =>
      have busy1 := same.busy busy
      refine .looping { busy1 with } rfl ?_ none_pending { steady with }
      exact same.fits fits
    | ends _ _ none_next => exact absurd none_next going
  | waits control ne _ turned =>
    obtain ⟨busy, fits, none_pending, s⟩ := ph.of_loop alive control
    cases turned.outcome s ne none_pending with
    | waits _ waiting =>
      have busy1 := (turned.sameCaller ne).busy busy
      exact .waiting { busy1 with } rfl { waiting with }
    | goesOn _ steady => exact absurd rfl steady.notPending
    | ends not_pending => exact absurd rfl not_pending
  | ends control ne _ turned none_next =>
    obtain ⟨busy, fits, none_pending, s⟩ := ph.of_loop alive control
    have busy1 := (turned.sameCaller ne).busy busy
    cases turned.outcome s ne none_pending with
    | waits _ waiting => exact absurd none_next (State.ne_of_pendingOp waiting.state rfl)
    | goesOn _ steady => exact absurd none_next steady.going
    | ends _ _ _ none_pending udpConnected =>
      refine .ended ?_ busy1.path_ne none_next
      exact { busy1 with
        control := rfl
        connecting := rfl
        writing := rfl
        userConnectCallback := rfl
        userWriteCallback := rfl
        tcpPending := none_pending
        udpConnected := udpConnected }
  | dies => exact .dead rfl rfl

/-- A fresh socket is in the first phase. -/
lemma phase_fresh (proxy : IPEndPoint) : Phase (fresh proxy) := by
  refine .fresh ?_ rfl rfl ?_
  · constructor
    · constructor
      all_goals rfl
    all_goals rfl
  · constructor
    all_goals rfl

/-! ## Invariants of the handshake -/

/-- What the handshake is about. -/
structure Talk where
  path : Option Path
  writing : Bool
  nextState : State
  writeBuf : Option DrainableIOBuffer
  readBuf : Option GrowableIOBuffer
  sent : List UInt8
  received : List UInt8

def World.talk (w : World) : Talk where
  path := w.caller.path
  writing := w.caller.writing
  nextState := w.nextState
  writeBuf := w.writeBuf
  readBuf := w.readBuf
  sent := w.sent
  received := w.received

/-- Nothing was said, and no write is going on. -/
structure Talk.New (t : Talk) : Prop where
  writing : t.writing = false
  writeBuf : t.writeBuf = none
  readBuf : t.readBuf = none
  sent : t.sent = []
  received : t.received = []

/-- The number of bytes that were written or read and are not accounted for in the buffers. -/
def World.uncounted (w : World) : Nat :=
  match w.control with
  | .doLoop _ rv => rv.toNat
  | _ => 0

/-- Between turns all bytes are counted. -/
lemma uncounted_idle {w : World} (h : w.control = .idle) : w.uncounted = 0 := by
  rw [World.uncounted, h]

/-- In the loop the result is not counted yet. -/
lemma uncounted_doLoop {w : World} {frame : Frame} {rv : Int} (h : w.control = .doLoop frame rv) :
    w.uncounted = rv.toNat := by
  rw [World.uncounted, h]

/-- Where no result is to be handled, all is accounted for. -/
lemma Phase.uncounted {w : World} (ph : Phase w) (h : w.nextState.complete = false) :
    w.uncounted = 0 := by
  cases ph with
  | fresh calm | ready calm | ended calm => exact uncounted_idle calm.control
  | looping _ control _ _ s =>
    rw [uncounted_doLoop control, s.ok h]
    rfl
  | waiting _ idle => exact uncounted_idle idle
  | dead _ idle => exact uncounted_idle idle

/-- What an operation keeps when it is done, it keeps when it is started. -/
lemma Started.keeps {I : Talk → Nat → Prop}
    (done : ∀ {w w1 : World} {op : TcpOp} {rv : Int}, w.nextState.pendingOp = some op →
      TcpDone w op w1 rv → I w.talk 0 → I w1.talk rv.toNat)
    {w w1 : World} {op : TcpOp} {rv : Int} (started : Started w op w1 rv)
    (state : w.nextState.pendingOp = some op) (h : I w.talk 0) : I w1.talk rv.toNat := by
  cases started with
  | pending => exact h
  | done op_done => exact done state op_done h

/-- What each part of a step must keep of an invariant of the handshake. -/
structure Kept (I : Talk → Nat → Prop) : Prop where
  opens (t : Talk) (p : Option Path) : t.New → I { t with path := p, nextState := .STATE_TCP_CONNECT } 0
  opensNot (t : Talk) (p : Option Path) : t.New → t.nextState = .STATE_NONE → I { t with path := p } 0
  parks (t : Talk) (packet : DrainableIOBuffer) : t.path = some .sync →
    t.nextState = .STATE_TCP_CONNECT → packet.remaining.head? = some 0x00 → I t 0 →
    I { t with writing := true, writeBuf := some packet } 0
  turns {w w1 : World} {rv rv1 : Int} : Busy w → Steady w rv → w.nextState ≠ .STATE_CONNECTED →
    Turned w rv w1 rv1 → I w.talk rv.toNat → I w1.talk rv1.toNat
  done {w w1 : World} {op : TcpOp} {rv : Int} : w.nextState.pendingOp = some op → TcpDone w op w1 rv →
    I w.talk 0 → I w1.talk rv.toNat
  stops (t : Talk) (n : Nat) (writing : Bool) (writeBuf : Option DrainableIOBuffer) : I t n →
    I { t with nextState := .STATE_NONE, writing := writing, writeBuf := writeBuf } 0

/-- An invariant that the parts of a step keep is kept by the steps. -/
theorem Kept.step {I : Talk → Nat → Prop} (k : Kept I) {w w' : World} {e : Event} (ph : Phase w)
    (conforms : Conforms w e) (st : w.step e = some w') (h : I w.talk w.uncounted) :
    I w'.talk w'.uncounted := by
  have alive := alive_of_step st
  have zero {w' : World} (idle : w'.control = .idle) (i : I w'.talk 0) : I w'.talk w'.uncounted := by
    rw [uncounted_idle idle]
    exact i
  have new (path : w.caller.path = none) : w.talk.New := by
    obtain ⟨calm, _, untouched⟩ := ph.of_fresh alive path
    exact ⟨calm.writing, untouched.writeBuf, untouched.readBuf, untouched.sent, untouched.received⟩
  cases does_of_step ph conforms st with
  | opens path =>
    obtain ⟨calm, _⟩ := ph.of_fresh alive path
    exact zero calm.control (k.opens w.talk _ (new path))
  | opensNot path =>
    obtain ⟨calm, none, _⟩ := ph.of_fresh alive path
    exact zero calm.control (k.opensNot w.talk _ (new path) none)
  | connectsAsync path => exact k.opens w.talk _ (new path)
  | reads => exact h
  | writesNot => exact h
  | parks calm ready path =>
    rw [uncounted_idle calm.control] at h
    exact k.parks w.talk _ path ready rfl h
  | closes idle => exact zero idle (k.stops w.talk _ _ _ h)
  | completes pending state done =>
    obtain ⟨_, idle, _⟩ := ph.of_pending alive pending
    rw [uncounted_idle idle] at h
    have after := k.done (w := { w with tcpPending := none }) state (tcpDone_inv done) h
    exact after
  | goesOn control ne _ turned =>
    obtain ⟨busy, _, _, s⟩ := ph.of_loop alive control
    rw [uncounted_doLoop control] at h
    have after := k.turns busy s ne turned h
    exact after
  | waits control ne _ turned =>
    obtain ⟨busy, _, _, s⟩ := ph.of_loop alive control
    rw [uncounted_doLoop control] at h
    have after := k.turns busy s ne turned h
    exact zero rfl after
  | @ends _ _ _ w1 _ writeBuf _ control ne _ turned none_next =>
    obtain ⟨busy, _, _, s⟩ := ph.of_loop alive control
    rw [uncounted_doLoop control] at h
    have after := k.turns busy s ne turned h
    have stopped := k.stops w1.talk _ false writeBuf after
    rw [← none_next] at stopped
    exact zero rfl stopped
  | dies => exact zero rfl (k.stops w.talk _ _ _ h)

end PureCloak.Net
