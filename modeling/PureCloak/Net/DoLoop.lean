import PureCloak.Net.Socks5UdpClientSocket

/-!
# The loop of the handshake

What an operation of the TCP connection can do (`TcpDone`), what a turn of `DoLoop` can do when the socket has what
the state needs (`Turned`), and where that leads (`Turned.outcome`).
-/

namespace PureCloak.Net

/-! ## Stages -/

/-- The handshake has two stages; in each one a message is written and a reply is read. -/
inductive Stage where
  | greet
  | associate

namespace Stage

def message : Stage → List UInt8
  | greet => kSocks5GreetData
  | associate => buildUDPAssociateWriteBuffer

/-- The capacity of the buffer that the reply is read into first. -/
def capacity : Stage → Nat
  | greet => 2
  | associate => 5

/-- What was sent before the stage. -/
def before : Stage → List UInt8
  | greet => []
  | associate => kSocks5GreetData

/-- What was received before the stage. -/
def heard : Stage → List UInt8
  | greet => []
  | associate => [0x05, 0x00]

def write : Stage → State
  | greet => .STATE_GREET_WRITE
  | associate => .STATE_UDP_ASSOCIATE_WRITE

def writeComplete : Stage → State
  | greet => .STATE_GREET_WRITE_COMPLETE
  | associate => .STATE_UDP_ASSOCIATE_WRITE_COMPLETE

def read : Stage → State
  | greet => .STATE_GREET_READ
  | associate => .STATE_UDP_ASSOCIATE_READ

def readComplete : Stage → State
  | greet => .STATE_GREET_READ_COMPLETE
  | associate => .STATE_UDP_ASSOCIATE_READ_COMPLETE

end Stage

/-- The operation of the TCP connection whose result a state handles. -/
def State.pendingOp : State → Option TcpOp
  | .STATE_TCP_CONNECT_COMPLETE => some .connect
  | .STATE_GREET_WRITE_COMPLETE | .STATE_UDP_ASSOCIATE_WRITE_COMPLETE => some .write
  | .STATE_GREET_READ_COMPLETE | .STATE_UDP_ASSOCIATE_READ_COMPLETE => some .read
  | _ => none

/-- A state with an operation outstanding is not one without. -/
lemma State.ne_of_pendingOp {s t : State} {op : TcpOp} (h : s.pendingOp = some op)
    (none : t.pendingOp = none) : s ≠ t := by
  rintro rfl
  cases h.symm.trans none

/-- Only one state waits for the connection. -/
lemma State.of_connect {s : State} (h : s.pendingOp = some .connect) :
    s = .STATE_TCP_CONNECT_COMPLETE := by
  cases s <;> first | rfl | cases h

/-- The states that wait for a write complete the write of a stage. -/
lemma State.of_write {s : State} (h : s.pendingOp = some .write) : ∃ g : Stage, s = g.writeComplete := by
  cases s <;> first | cases h; done | exact ⟨.greet, rfl⟩ | exact ⟨.associate, rfl⟩

/-- The states that wait for a read complete the read of a stage. -/
lemma State.of_read {s : State} (h : s.pendingOp = some .read) : ∃ g : Stage, s = g.readComplete := by
  cases s <;> first | cases h; done | exact ⟨.greet, rfl⟩ | exact ⟨.associate, rfl⟩

/-- A state handles a result. -/
def State.complete (s : State) : Bool :=
  s.pendingOp.isSome || s = .STATE_UDP_CONNECT_COMPLETE

/-! ## What the TCP connection does -/

/-- An operation of the TCP connection is done. -/
inductive TcpDone (w : World) : TcpOp → World → Int → Prop where
  | connect {rv} :
    rv ≠ ERR_IO_PENDING →
    TcpDone w .connect w rv
  | write {b rv} :
    w.writeBuf = some b →
    rv ≠ ERR_IO_PENDING →
    rv ≤ b.remaining.length →
    TcpDone w .write { w with sent := w.sent ++ b.remaining.take rv.toNat } rv
  | failed {rv} :
    rv < 0 →
    rv ≠ ERR_IO_PENDING →
    TcpDone w .read w rv
  | read {b data} :
    w.readBuf = some b →
    data.length ≤ b.remainingCapacity →
    TcpDone w .read { w with received := w.received ++ data, readBuf := some (b.put data) } data.length

/-- An operation of the TCP connection is started: it is done, or it will be. -/
inductive Started (w : World) (op : TcpOp) : World → Int → Prop where
  | pending : Started w op { w with tcpPending := some op } ERR_IO_PENDING
  | done {w1 rv} :
    TcpDone w op w1 rv →
    Started w op w1 rv

/-- What the completion of an operation may have done. -/
lemma tcpDone_inv {w w1 : World} {op : TcpOp} {answer : Answer} {rv : Int}
    (h : w.tcpDone op answer = some (w1, rv)) : TcpDone w op w1 rv := by
  cases op with
  | connect =>
    cases answer with
    | result rv =>
      simp only [World.tcpDone] at h
      split at h
      · cases h
      · cases h
        exact .connect ‹_›
    | _ => cases h
  | write =>
    cases answer with
    | result rv =>
      simp only [World.tcpDone] at h
      split at h
      · cases h
      case h_2 b hb =>
        split at h
        · cases h
        case isFalse fits =>
          cases h
          obtain ⟨ne, le⟩ := not_or.mp fits
          exact .write hb ne (Int.not_lt.mp le)
    | _ => cases h
  | read =>
    cases answer with
    | result rv =>
      simp only [World.tcpDone] at h
      split at h
      case isTrue neg =>
        cases h
        exact .failed neg.1 neg.2
      · cases h
    | bytes data =>
      simp only [World.tcpDone] at h
      split at h
      · cases h
      case h_2 b hb =>
        split at h
        case isTrue fits =>
          cases h
          exact .read hb fits
        · cases h
    | _ => cases h

/-- What the start of an operation may have done. -/
lemma started_inv {w w1 : World} {op : TcpOp} {answer : Answer} {rv : Int}
    (h : w.tcp op answer = some (w1, rv)) : Started w op w1 rv := by
  cases answer with
  | pending =>
    cases h
    exact .pending
  | _ => exact .done (tcpDone_inv h)

/-- A completed operation does not report that it is pending. -/
lemma TcpDone.not_pending {w w1 : World} {op : TcpOp} {rv : Int} (h : TcpDone w op w1 rv) :
    rv ≠ ERR_IO_PENDING := by
  cases h with
  | connect ne => exact ne
  | write _ ne => exact ne
  | failed _ ne => exact ne
  | read =>
    show _ ≠ (-1 : Int)
    omega

/-! ## What a turn does -/

/-- What the socket has when the loop comes to a state. -/
structure Steady (w : World) (rv : Int) : Prop where
  notPending : rv ≠ ERR_IO_PENDING
  ok : w.nextState.complete = false → rv = OK
  noSocket : w.nextState = .STATE_TCP_CONNECT → w.tcpSocket = false
  writeBuf : w.nextState.pendingOp = some .write → ∃ b, w.writeBuf = some b
  readBuf : w.nextState.pendingOp = some .read → ∃ b, w.readBuf = some b
  udpFailed : w.nextState = .STATE_UDP_CONNECT_COMPLETE → rv ≠ OK
  udpConnected : w.udpConnected = true → w.nextState = .STATE_CONNECTED
  going : w.nextState ≠ .STATE_NONE

/-- The body of the loop, for a socket that has what it needs. -/
inductive Turned (w : World) (rv : Int) : World → Int → Prop where
  | connects {w1 rv1} :
    w.nextState = .STATE_TCP_CONNECT →
    Started { w with nextState := .STATE_TCP_CONNECT_COMPLETE, tcpSocket := true } .connect w1 rv1 →
    Turned w rv w1 rv1
  | connected :
    w.nextState = .STATE_TCP_CONNECT_COMPLETE →
    Turned w rv { w with nextState := .STATE_GREET_WRITE } OK
  | writes {w1 rv1} (g : Stage) :
    w.nextState = g.write →
    Started { w with
      writeBuf := some (w.writeBuf.getD { data := g.message })
      nextState := g.writeComplete } .write w1 rv1 →
    Turned w rv w1 rv1
  | wrotePart {b} (g : Stage) :
    w.nextState = g.writeComplete →
    w.writeBuf = some b →
    b.remaining.drop rv.toNat ≠ [] →
    Turned w rv { w with writeBuf := some (b.didConsume rv.toNat), nextState := g.write } OK
  | wrote {b} (g : Stage) :
    w.nextState = g.writeComplete →
    w.writeBuf = some b →
    b.remaining.drop rv.toNat = [] →
    Turned w rv { w with writeBuf := none, nextState := g.read } OK
  | reads {w1 rv1} (g : Stage) :
    w.nextState = g.read →
    Started { w with
      nextState := g.readComplete
      readBuf := some (w.readBuf.getD { capacity := g.capacity }) } .read w1 rv1 →
    Turned w rv w1 rv1
  | greetedPart {b} :
    w.nextState = .STATE_GREET_READ_COMPLETE →
    0 < rv →
    w.readBuf = some b →
    0 < (b.advance rv.toNat).remainingCapacity →
    Turned w rv { w with readBuf := some (b.advance rv.toNat), nextState := .STATE_GREET_READ } OK
  | greeted {b} :
    w.nextState = .STATE_GREET_READ_COMPLETE →
    0 < rv →
    w.readBuf = some b →
    (b.advance rv.toNat).remainingCapacity = 0 →
    (b.advance rv.toNat).spanBeforeOffset.getD 0 0 = kSOCKS5Version →
    (b.advance rv.toNat).spanBeforeOffset.getD 1 0 = 0x00 →
    Turned w rv { w with readBuf := none, nextState := .STATE_UDP_ASSOCIATE_WRITE } OK
  | repliedPart {b capacity} :
    w.nextState = .STATE_UDP_ASSOCIATE_READ_COMPLETE →
    0 < rv →
    w.readBuf = some b →
    parseReply w.socksProxyAddress (b.advance rv.toNat) = .incomplete capacity →
    Turned w rv { w with
      readBuf := some { b.advance rv.toNat with capacity := capacity }
      nextState := .STATE_UDP_ASSOCIATE_READ } OK
  | replied {b address} :
    w.nextState = .STATE_UDP_ASSOCIATE_READ_COMPLETE →
    0 < rv →
    w.readBuf = some b →
    parseReply w.socksProxyAddress (b.advance rv.toNat) = .relay address →
    Turned w rv { w with
      relayAddress := address, readBuf := none, nextState := .STATE_UDP_CONNECT } OK
  | udpConnects {localAddress} :
    w.nextState = .STATE_UDP_CONNECT →
    Turned w rv { w with
      udpSocket := true
      localAddress := localAddress
      udpConnected := true
      socksHandshakeComplete := true
      nextState := .STATE_CONNECTED } OK
  | udpFails {rv1} :
    w.nextState = .STATE_UDP_CONNECT →
    rv1 ≠ OK →
    rv1 ≠ ERR_IO_PENDING →
    Turned w rv { w with nextState := .STATE_UDP_CONNECT_COMPLETE, udpSocket := true } rv1
  | failed {readBuf rv1} :
    w.nextState.complete = true →
    rv1 ≠ OK →
    rv1 ≠ ERR_IO_PENDING →
    Turned w rv { w with nextState := .STATE_NONE, readBuf := readBuf } rv1
  | notReached :
    w.nextState = .STATE_CONNECTED →
    Turned w rv ({ w with nextState := .STATE_NONE }.abort .notReached) rv

/-- An assertion that holds leaves no trace. -/
lemma dcheck_true {w : World} {a : Assertion} {c : Prop} [Decidable c] (h : c) : w.dcheck a c = w :=
  if_pos h

/-- An assertion that fails is noted. -/
lemma dcheck_false {w : World} {a : Assertion} {c : Prop} [Decidable c] (h : ¬ c) :
    w.dcheck a c = { w with fired := w.fired ++ [a] } :=
  if_neg h

/-- A step that calls nothing takes no answer. -/
lemma quiet_inv {r r1 : World × Int} {answer : Answer} (h : World.quiet r answer = some r1) : r = r1 := by
  cases answer with
  | none => exact Option.some.inj h
  | _ => cases h

/-- After the write of a stage a write is outstanding. -/
lemma Stage.pendingOp_writeComplete (g : Stage) : g.writeComplete.pendingOp = some .write := by
  cases g <;> rfl

/-- After the read of a stage a read is outstanding. -/
lemma Stage.pendingOp_readComplete (g : Stage) : g.readComplete.pendingOp = some .read := by
  cases g <;> rfl

/-- The write of a stage does not complete it. -/
lemma Stage.complete_write (g : Stage) : g.write.complete = false := by
  cases g <;> rfl

/-- Nor does its read. -/
lemma Stage.complete_read (g : Stage) : g.read.complete = false := by
  cases g <;> rfl

/-- No bytes come with a state that handles no result. -/
lemma Steady.toNat {w : World} {rv : Int} (s : Steady w rv) (h : w.nextState.complete = false) :
    rv.toNat = 0 := by
  rw [s.ok h]
  rfl

/-- A write that completes fails, goes on with what is left, or goes on to the read of its stage. -/
lemma turned_writeMessageComplete {w w1 : World} {rv rv1 : Int} (g : Stage) {s : Steady w rv}
    (hs : w.nextState = g.writeComplete)
    (h : ({ w with nextState := .STATE_NONE } : World).writeMessageComplete g.write g.read rv =
      (w1, rv1)) : Turned w rv w1 rv1 := by
  have op : w.nextState.pendingOp = some .write := hs ▸ g.pendingOp_writeComplete
  have complete : w.nextState.complete = true := by simp [State.complete, op]
  simp only [World.writeMessageComplete] at h
  split at h
  case isTrue neg =>
    cases h
    exact .failed complete (Int.ne_of_lt neg) s.notPending
  case isFalse nonneg =>
    split at h
    case h_1 null =>
      obtain ⟨b, hb⟩ := s.writeBuf op
      cases hb.symm.trans null
    case h_2 b hb =>
      rw [DrainableIOBuffer.didConsume_remaining] at h
      split at h
      case isTrue done =>
        cases h
        exact .wrote g hs hb done
      case isFalse part =>
        cases h
        exact .wrotePart g hs hb part

/-- A reply to the greeting fails, is read on, or is taken. -/
lemma turned_doGreetReadComplete {w w1 : World} {rv rv1 : Int} {s : Steady w rv}
    (hs : w.nextState = .STATE_GREET_READ_COMPLETE)
    (h : ({ w with nextState := .STATE_NONE } : World).doGreetReadComplete rv = (w1, rv1)) :
    Turned w rv w1 rv1 := by
  have op : w.nextState.pendingOp = some .read := hs ▸ rfl
  have complete : w.nextState.complete = true := by simp [State.complete, op]
  obtain ⟨b, hb⟩ := s.readBuf op
  simp only [World.doGreetReadComplete, hb] at h
  split at h
  case isTrue neg =>
    cases h
    exact .failed complete (Int.ne_of_lt neg) s.notPending
  case isFalse nonneg =>
    split at h
    case isTrue eof =>
      cases h
      exact .failed complete (by decide) (by decide)
    case isFalse ne =>
      have pos : 0 < rv := by omega
      split at h
      case isTrue more =>
        cases h
        exact .greetedPart hs pos hb more
      case isFalse full =>
        split at h
        · cases h
          exact .failed complete (by decide) (by decide)
        case isFalse version =>
          split at h
          · cases h
            exact .failed complete (by decide) (by decide)
          case isFalse method =>
            cases h
            exact .greeted hs pos hb (by omega) (not_not.mp version) (not_not.mp method)

/-- A reply to the request fails, is read on, or names the relay. -/
lemma turned_doUDPAssociateReadComplete {w w1 : World} {rv rv1 : Int} {s : Steady w rv}
    (hs : w.nextState = .STATE_UDP_ASSOCIATE_READ_COMPLETE)
    (h : ({ w with nextState := .STATE_NONE } : World).doUDPAssociateReadComplete rv = (w1, rv1)) :
    Turned w rv w1 rv1 := by
  have op : w.nextState.pendingOp = some .read := hs ▸ rfl
  have complete : w.nextState.complete = true := by simp [State.complete, op]
  obtain ⟨b, hb⟩ := s.readBuf op
  simp only [World.doUDPAssociateReadComplete, hb] at h
  split at h
  case isTrue neg =>
    cases h
    exact .failed complete (Int.ne_of_lt neg) s.notPending
  case isFalse nonneg =>
    split at h
    case isTrue eof =>
      cases h
      exact .failed complete (by decide) (by decide)
    case isFalse ne =>
      have pos : 0 < rv := by omega
      cases hp : parseReply w.socksProxyAddress (b.advance rv.toNat) with
      | incomplete capacity =>
        rw [hp] at h
        cases h
        exact .repliedPart hs pos hb hp
      | rejected =>
        rw [hp] at h
        cases h
        exact .failed complete (by decide) (by decide)
      | relay address =>
        rw [hp] at h
        cases h
        exact .replied hs pos hb hp

/-- The connection to the relay fails or is made. -/
lemma turned_doUDPConnect {w w1 : World} {rv rv1 : Int} {answer : Answer}
    (hs : w.nextState = .STATE_UDP_CONNECT)
    (h : ({ w with nextState := .STATE_NONE } : World).doUDPConnect answer = some (w1, rv1)) :
    Turned w rv w1 rv1 := by
  cases answer with
  | udp opened connected localAddress =>
    simp only [World.doUDPConnect] at h
    split at h
    · cases h
    case isFalse ne =>
      obtain ⟨ne_opened, ne_connected⟩ := not_or.mp ne
      split at h
      case isTrue failed =>
        cases h
        exact .udpFails hs failed ne_opened
      case isFalse =>
        split at h
        case isTrue failed =>
          cases h
          exact .udpFails hs failed ne_connected
        case isFalse =>
          cases h
          exact .udpConnects hs
  | _ => cases h

/-- What a turn of the loop can do. -/
theorem turned_of_body {w w1 : World} {rv rv1 : Int} {answer : Answer} (s : Steady w rv)
    (h : w.doLoopBody rv answer = some (w1, rv1)) : Turned w rv w1 rv1 := by
  have ok (hc : w.nextState.complete = false) (a : Assertion) :
      ({ w with nextState := .STATE_NONE } : World).dcheck a (rv = OK) =
        { w with nextState := .STATE_NONE } := dcheck_true (s.ok hc)
  cases hs : w.nextState with
  | STATE_NONE => exact absurd hs s.going
  | STATE_TCP_CONNECT =>
    simp only [World.doLoopBody, hs, World.doTCPConnect] at h
    rw [ok (by rw [hs]; rfl), dcheck_true (s.noSocket hs)] at h
    exact .connects hs (started_inv h)
  | STATE_TCP_CONNECT_COMPLETE =>
    simp only [World.doLoopBody, hs] at h
    have h := quiet_inv h
    simp only [World.doTCPConnectComplete] at h
    split at h
    case isTrue failed =>
      cases h
      exact .failed (by rw [hs]; rfl) (by decide) (by decide)
    case isFalse =>
      cases h
      exact .connected hs
  | STATE_GREET_WRITE =>
    simp only [World.doLoopBody, hs] at h
    rw [ok (by rw [hs]; rfl)] at h
    exact .writes .greet hs (started_inv h)
  | STATE_GREET_WRITE_COMPLETE =>
    simp only [World.doLoopBody, hs] at h
    exact turned_writeMessageComplete (s := s) .greet hs (quiet_inv h)
  | STATE_GREET_READ =>
    simp only [World.doLoopBody, hs] at h
    rw [ok (by rw [hs]; rfl)] at h
    exact .reads .greet hs (started_inv h)
  | STATE_GREET_READ_COMPLETE =>
    simp only [World.doLoopBody, hs] at h
    exact turned_doGreetReadComplete (s := s) hs (quiet_inv h)
  | STATE_UDP_ASSOCIATE_WRITE =>
    simp only [World.doLoopBody, hs] at h
    rw [ok (by rw [hs]; rfl)] at h
    exact .writes .associate hs (started_inv h)
  | STATE_UDP_ASSOCIATE_WRITE_COMPLETE =>
    simp only [World.doLoopBody, hs] at h
    exact turned_writeMessageComplete (s := s) .associate hs (quiet_inv h)
  | STATE_UDP_ASSOCIATE_READ =>
    simp only [World.doLoopBody, hs] at h
    rw [ok (by rw [hs]; rfl)] at h
    exact .reads .associate hs (started_inv h)
  | STATE_UDP_ASSOCIATE_READ_COMPLETE =>
    simp only [World.doLoopBody, hs] at h
    exact turned_doUDPAssociateReadComplete (s := s) hs (quiet_inv h)
  | STATE_UDP_CONNECT =>
    simp only [World.doLoopBody, hs] at h
    rw [ok (by rw [hs]; rfl)] at h
    exact turned_doUDPConnect hs h
  | STATE_UDP_CONNECT_COMPLETE =>
    simp only [World.doLoopBody, hs] at h
    cases quiet_inv h
    exact .failed (by rw [hs]; rfl) (s.udpFailed hs) s.notPending
  | STATE_CONNECTED =>
    simp only [World.doLoopBody, hs] at h
    cases quiet_inv h
    exact .notReached hs

/-- Two worlds that differ in the handshake only. -/
structure SameCaller (w w1 : World) : Prop where
  aborted : w1.aborted = w.aborted
  fired : w1.fired = w.fired
  control : w1.control = w.control
  caller : w1.caller = w.caller
  userConnectCallback : w1.userConnectCallback = w.userConnectCallback
  userReadCallback : w1.userReadCallback = w.userReadCallback
  userWriteCallback : w1.userWriteCallback = w.userWriteCallback
  udpReading : w1.udpReading = w.udpReading
  udpWriting : w1.udpWriting = w.udpWriting

/-- The same caller has the same path. -/
lemma SameCaller.path {w w1 : World} (same : SameCaller w w1) : w1.caller.path = w.caller.path :=
  congrArg Caller.path same.caller

/-- A completed operation leaves the caller alone. -/
lemma TcpDone.sameCaller {w w1 : World} {op : TcpOp} {rv : Int} (h : TcpDone w op w1 rv) :
    SameCaller w w1 := by
  cases h <;> constructor <;> rfl

/-- A completed operation leaves the next state as it was. -/
lemma TcpDone.nextState {w w1 : World} {op : TcpOp} {rv : Int} (h : TcpDone w op w1 rv) :
    w1.nextState = w.nextState := by
  cases h <;> rfl

/-- The start of an operation leaves the caller alone. -/
lemma Started.sameCaller {w w1 : World} {op : TcpOp} {rv : Int} (h : Started w op w1 rv) :
    SameCaller w w1 := by
  cases h with
  | pending => constructor <;> rfl
  | done h => exact h.sameCaller

/-- The start of an operation leaves the next state as it was. -/
lemma Started.nextState {w w1 : World} {op : TcpOp} {rv : Int} (h : Started w op w1 rv) :
    w1.nextState = w.nextState := by
  cases h with
  | pending => rfl
  | done h => exact h.nextState

/-- A turn of the loop that does not connect leaves the caller alone. -/
lemma Turned.sameCaller {w w1 : World} {rv rv1 : Int} (h : Turned w rv w1 rv1)
    (ne : w.nextState ≠ .STATE_CONNECTED) : SameCaller w w1 := by
  cases h with
  | connects _ h => exact { h.sameCaller with }
  | writes _ _ h => exact { h.sameCaller with }
  | reads _ _ h => exact { h.sameCaller with }
  | notReached e => exact absurd e ne
  | _ => constructor <;> rfl

/-- What the socket has while an operation of the TCP connection is going on. -/
structure Waiting (w : World) (op : TcpOp) : Prop where
  pending : w.tcpPending = some op
  state : w.nextState.pendingOp = some op
  writeBuf : op = .write → ∃ b, w.writeBuf = some b
  readBuf : op = .read → ∃ b, w.readBuf = some b
  udpConnected : w.udpConnected = false

/-- After a turn an operation is going on, or the loop goes on, or it has failed. -/
inductive Outcome (w : World) (rv : Int) : Prop where
  | waits {op} :
    rv = ERR_IO_PENDING →
    Waiting w op →
    Outcome w rv
  | goesOn :
    w.tcpPending = none →
    Steady w rv →
    Outcome w rv
  | ends :
    rv ≠ ERR_IO_PENDING →
    rv ≠ OK →
    w.nextState = .STATE_NONE →
    w.tcpPending = none →
    w.udpConnected = false →
    Outcome w rv

/-- When an operation is done, the loop comes to the state that handles its result. -/
lemma steady_of_tcpDone {w w1 : World} {op : TcpOp} {rv : Int} (h : TcpDone w op w1 rv)
    (state : w.nextState.pendingOp = some op) (writeBuf : op = .write → ∃ b, w.writeBuf = some b)
    (readBuf : op = .read → ∃ b, w.readBuf = some b) (udpConnected : w.udpConnected = false) :
    Steady w1 rv ∧ w1.tcpPending = w.tcpPending := by
  have complete : w.nextState.complete = true := by simp [State.complete, state]
  have not_none : w.nextState ≠ .STATE_NONE := State.ne_of_pendingOp state rfl
  have not_udp : w.nextState ≠ .STATE_UDP_CONNECT_COMPLETE := State.ne_of_pendingOp state rfl
  have not_first : w.nextState ≠ .STATE_TCP_CONNECT := State.ne_of_pendingOp state rfl
  have done := h.not_pending
  cases h with
  | connect =>
    refine ⟨?_, rfl⟩
    constructor
    all_goals simp_all
  | write hb =>
    refine ⟨?_, rfl⟩
    constructor
    all_goals simp_all
  | failed =>
    refine ⟨?_, rfl⟩
    constructor
    all_goals simp_all
  | read hb =>
    refine ⟨?_, rfl⟩
    constructor
    all_goals simp_all

/-- An operation that was started has either failed or is pending, with its buffer. -/
lemma outcome_of_started {w w1 : World} {op : TcpOp} {rv : Int} (h : Started w op w1 rv)
    (none_pending : w.tcpPending = none) (state : w.nextState.pendingOp = some op)
    (writeBuf : op = .write → ∃ b, w.writeBuf = some b)
    (readBuf : op = .read → ∃ b, w.readBuf = some b) (udpConnected : w.udpConnected = false) :
    Outcome w1 rv := by
  cases h with
  | pending => exact .waits rfl ⟨rfl, state, writeBuf, readBuf, udpConnected⟩
  | done h =>
    obtain ⟨steady, pending⟩ := steady_of_tcpDone h state writeBuf readBuf udpConnected
    exact .goesOn (pending.trans none_pending) steady

/-- A state that handles no result comes with the result `OK`. -/
lemma steady_of_next {w : World} (h : w.nextState.complete = false) (going : w.nextState ≠ .STATE_NONE)
    (first : w.nextState ≠ .STATE_TCP_CONNECT)
    (udpConnected : w.udpConnected = true → w.nextState = .STATE_CONNECTED) : Steady w OK := by
  obtain ⟨no_op, not_udp⟩ := Bool.or_eq_false_iff.mp h
  constructor
  · decide
  · intro _
    rfl
  · intro e
    exact absurd e first
  · intro op
    rw [op] at no_op
    cases no_op
  · intro op
    rw [op] at no_op
    cases no_op
  · intro e
    exact absurd e (of_decide_eq_false not_udp)
  · exact udpConnected
  · exact going

/-- A turn of the loop ends in one of the outcomes. -/
theorem Turned.outcome {w w1 : World} {rv rv1 : Int} (h : Turned w rv w1 rv1) (s : Steady w rv)
    (ne : w.nextState ≠ .STATE_CONNECTED) (none_pending : w.tcpPending = none) :
    Outcome w1 rv1 := by
  have udpConnected : w.udpConnected = false := by
    rw [Bool.eq_false_iff]
    exact fun e => ne (s.udpConnected e)
  have next {w' : World} (pending : w'.tcpPending = w.tcpPending)
      (udp : w'.udpConnected = w.udpConnected) (h : w'.nextState.complete = false)
      (going : w'.nextState ≠ .STATE_NONE) (first : w'.nextState ≠ .STATE_TCP_CONNECT) :
      Outcome w' OK := by
    refine .goesOn (pending.trans none_pending) (steady_of_next h going first ?_)
    intro e
    rw [udp, udpConnected] at e
    cases e
  cases h with
  | connects _ h => exact outcome_of_started h none_pending rfl (by simp) (by simp) udpConnected
  | connected => exact next rfl rfl rfl (by simp) (by simp)
  | writes g _ h =>
    exact outcome_of_started h none_pending g.pendingOp_writeComplete (fun _ => ⟨_, rfl⟩) (by simp)
      udpConnected
  | wrotePart g => cases g <;> exact next rfl rfl rfl (by simp [Stage.write]) (by simp [Stage.write])
  | wrote g => cases g <;> exact next rfl rfl rfl (by simp [Stage.read]) (by simp [Stage.read])
  | reads g _ h =>
    exact outcome_of_started h none_pending g.pendingOp_readComplete (by simp) (fun _ => ⟨_, rfl⟩)
      udpConnected
  | greetedPart => exact next rfl rfl rfl (by simp) (by simp)
  | greeted => exact next rfl rfl rfl (by simp) (by simp)
  | repliedPart => exact next rfl rfl rfl (by simp) (by simp)
  | replied => exact next rfl rfl rfl (by simp) (by simp)
  | udpConnects =>
    exact .goesOn none_pending (steady_of_next rfl (by simp) (by simp) (fun _ => rfl))
  | udpFails _ not_ok not_pending =>
    refine .goesOn none_pending ?_
    constructor
    all_goals simp_all [State.complete, State.pendingOp]
  | failed _ not_ok not_pending => exact .ends not_pending not_ok rfl none_pending udpConnected
  | notReached e => exact absurd e ne

end PureCloak.Net
