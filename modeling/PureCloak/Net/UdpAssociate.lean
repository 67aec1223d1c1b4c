import Mathlib.Data.List.GetD
import PureCloak.Net.Handshake

/-!
# The replies of the proxy

What has been read of the two replies at each state of the handshake (`Reading`), and what follows for the reply to
`UDP ASSOCIATE`.
-/

namespace PureCloak.Net
open Machine

/-- The type of the address in a reply. -/
def replyType (data : List UInt8) : UInt8 :=
  data.getD 3 0

/-- Which part of the reply the buffer is for. The reply to `UDP ASSOCIATE` is read up to its fifth byte first, and when
the type of its address is a domain name it never gets further. -/
def Stage.Wants : Stage → GrowableIOBuffer → Prop
  | greet, b => b.capacity = 2
  | associate, b =>
    (b.offset < 5 ∧ b.capacity = 5) ∨ (b.offset = 5 ∧ b.capacity = 5 ∧ replyType b.data = 0x03) ∨
    (5 ≤ b.offset ∧ b.capacity = 11 ∧ replyType b.data = 0x01) ∨
    (5 ≤ b.offset ∧ b.capacity = 23 ∧ replyType b.data = 0x04)

/-- A reply is read into a buffer; the last `n` bytes in it are not counted yet. -/
structure Stage.Reads (g : Stage) (b : GrowableIOBuffer) (received : List UInt8) (n : Nat) : Prop where
  received : received = g.heard ++ b.data
  counted : b.data.length = b.offset + n
  fits : b.data.length ≤ b.capacity
  wants : g.Wants b

/-- A reply that the socket takes for a complete one. -/
def TakenForComplete (data : List UInt8) : Prop :=
  (replyType data = 0x01 ∧ 11 ≤ data.length) ∨ (replyType data = 0x04 ∧ 23 ≤ data.length)

/-- What has been read at a state of the handshake. -/
def Reading (t : Talk) (n : Nat) : Prop :=
  match t.nextState with
  | .STATE_TCP_CONNECT | .STATE_TCP_CONNECT_COMPLETE
  | .STATE_GREET_WRITE | .STATE_GREET_WRITE_COMPLETE => t.readBuf = none ∧ t.received = []
  | .STATE_GREET_READ | .STATE_GREET_READ_COMPLETE =>
    Stage.greet.Reads (t.readBuf.getD { capacity := 2 }) t.received n
  | .STATE_UDP_ASSOCIATE_WRITE | .STATE_UDP_ASSOCIATE_WRITE_COMPLETE =>
    t.readBuf = none ∧ t.received = [0x05, 0x00]
  | .STATE_UDP_ASSOCIATE_READ | .STATE_UDP_ASSOCIATE_READ_COMPLETE =>
    Stage.associate.Reads (t.readBuf.getD { capacity := 5 }) t.received n
  | .STATE_UDP_CONNECT | .STATE_UDP_CONNECT_COMPLETE | .STATE_CONNECTED =>
    ∃ data, t.received = [0x05, 0x00] ++ data ∧ TakenForComplete data
  | .STATE_NONE => True

/-! ## Reading into the buffer -/

/-- The type of the address stays when more is read. -/
lemma replyType_append {data more : List UInt8} (h : 5 ≤ data.length) :
    replyType (data ++ more) = replyType data := by
  rw [replyType, replyType, List.getD_append _ _ _ _ (by omega)]

/-- Bytes that fit are put behind those that were read. -/
lemma Stage.Reads.put {g : Stage} {b : GrowableIOBuffer} {received data : List UInt8}
    (h : g.Reads b received 0) (fits : data.length ≤ b.remainingCapacity) :
    g.Reads (b.put data) (received ++ data) data.length := by
  have all : b.data.take b.offset = b.data := List.take_of_length_le (by rw [h.counted, Nat.add_zero])
  have length := h.counted
  have le := h.fits
  rw [GrowableIOBuffer.remainingCapacity] at fits
  constructor
  · rw [h.received, GrowableIOBuffer.put, all, List.append_assoc]
  · rw [GrowableIOBuffer.put, all, List.length_append, length, Nat.add_zero]
  · rw [GrowableIOBuffer.put, all, List.length_append]
    show _ ≤ b.capacity
    omega
  · have wants := h.wants
    cases g with
    | greet => exact wants
    | associate =>
      have same (five : 5 ≤ b.offset) : replyType (b.put data).data = replyType b.data := by
        rw [GrowableIOBuffer.put, all]
        exact replyType_append (by omega)
      obtain ⟨lt, cap⟩ | ⟨eq, cap, type⟩ | ⟨le, cap, type⟩ | ⟨le, cap, type⟩ := wants
      · exact .inl ⟨lt, cap⟩
      · exact .inr (.inl ⟨eq, cap, (same (by omega)).trans type⟩)
      · exact .inr (.inr (.inl ⟨le, cap, (same le).trans type⟩))
      · exact .inr (.inr (.inr ⟨le, cap, (same le).trans type⟩))

/-- The span before the offset is all that was read when all of it is counted. -/
lemma Stage.Reads.span {g : Stage} {b : GrowableIOBuffer} {received : List UInt8} {n : Nat}
    (h : g.Reads b received n) : (b.advance n).spanBeforeOffset = b.data :=
  List.take_of_length_le (Nat.le_of_eq h.counted)

/-! ## Looking at the reply -/

/-- How many bytes are waited for. -/
lemma totalNeeded_eq {data : List UInt8} {size : Nat} (h : addressSize (replyType data) data = some size) :
    (replyType data = 0x01 ∧ totalNeeded (replyType data) size = 11) ∨
    (replyType data = 0x04 ∧ totalNeeded (replyType data) size = 23) ∨ replyType data = 0x03 := by
  unfold addressSize at h
  split at h
  case isTrue v4 =>
    cases h
    exact .inl ⟨v4, by simp [totalNeeded, v4, kIPv4Size, kPortSize]⟩
  case isFalse =>
    split at h
    case isTrue v6 =>
      cases h
      exact .inr (.inl ⟨v6, by simp [totalNeeded, v6, kIPv6Size, kPortSize]⟩)
    case isFalse =>
      split at h
      case isTrue domain => exact .inr (.inr domain)
      case isFalse => cases h

/-- What is made of the bytes: too few for the type of the address, rejected, too few for a domain name, or measured by
what is waited for. -/
lemma parseReply_cases (proxy : IPEndPoint) (b : GrowableIOBuffer) :
    (b.offset < 5 ∧ parseReply proxy b = .incomplete b.capacity) ∨
    parseReply proxy b = .rejected ∨
    (b.offset = 5 ∧ replyType b.spanBeforeOffset = 0x03 ∧ parseReply proxy b = .incomplete b.capacity) ∨
    ∃ size, addressSize (replyType b.spanBeforeOffset) b.spanBeforeOffset = some size ∧ 5 ≤ b.offset ∧
      (replyType b.spanBeforeOffset = 0x03 → 6 ≤ b.offset) ∧
      ((b.offset < totalNeeded (replyType b.spanBeforeOffset) size ∧
          parseReply proxy b = .incomplete (totalNeeded (replyType b.spanBeforeOffset) size)) ∨
        (totalNeeded (replyType b.spanBeforeOffset) size ≤ b.offset ∧
          parseReply proxy b =
            .relay (relayEndPoint proxy (replyType b.spanBeforeOffset) size b.spanBeforeOffset))) := by
  rw [parseReply]
  by_cases short : b.offset < 5
  · exact .inl ⟨short, if_pos short⟩
  · rw [if_neg short]
    dsimp only
    split
    · exact .inr (.inl rfl)
    · split
      · exact .inr (.inl rfl)
      · split
        case isTrue domain => exact .inr (.inr (.inl ⟨by omega, domain.1, rfl⟩))
        case isFalse other =>
          split
          · exact .inr (.inl rfl)
          case h_2 size hs =>
            have six : replyType b.spanBeforeOffset = 0x03 → 6 ≤ b.offset := fun domain =>
              Nat.le_of_not_lt fun lt => other ⟨domain, lt⟩
            split
            case isTrue lt => exact .inr (.inr (.inr ⟨size, hs, by omega, six, .inl ⟨lt, rfl⟩⟩))
            case isFalse enough =>
              exact .inr (.inr (.inr ⟨size, hs, by omega, six, .inr ⟨Nat.le_of_not_lt enough, rfl⟩⟩))

/-- The socket reads on when there are less than five bytes, when the address is a domain name and there are less
than six, or when there are less than it waits for. -/
lemma parseReply_incomplete {proxy : IPEndPoint} {b : GrowableIOBuffer} {capacity : Nat}
    (h : parseReply proxy b = .incomplete capacity) :
    (b.offset < 5 ∧ capacity = b.capacity) ∨
    (b.offset = 5 ∧ replyType b.spanBeforeOffset = 0x03 ∧ capacity = b.capacity) ∨
    (6 ≤ b.offset ∧ replyType b.spanBeforeOffset = 0x03) ∨
    (5 ≤ b.offset ∧ b.offset < capacity ∧
      ((replyType b.spanBeforeOffset = 0x01 ∧ capacity = 11) ∨
        (replyType b.spanBeforeOffset = 0x04 ∧ capacity = 23))) := by
  obtain ⟨short, eq⟩ | eq | ⟨five, domain, eq⟩ | ⟨size, hs, five, six, ⟨lt, eq⟩ | ⟨_, eq⟩⟩ := parseReply_cases proxy b
  · cases h.symm.trans eq
    exact .inl ⟨short, rfl⟩
  · cases h.symm.trans eq
  · cases h.symm.trans eq
    exact .inr (.inl ⟨five, domain, rfl⟩)
  · cases h.symm.trans eq
    obtain ⟨v4, total⟩ | ⟨v6, total⟩ | domain := totalNeeded_eq hs
    · exact .inr (.inr (.inr ⟨five, lt, .inl ⟨v4, total⟩⟩))
    · exact .inr (.inr (.inr ⟨five, lt, .inr ⟨v6, total⟩⟩))
    · exact .inr (.inr (.inl ⟨six domain, domain⟩))
  · cases h.symm.trans eq

/-- A reply that names the relay has as many bytes as are waited for. -/
lemma parseReply_relay {proxy address : IPEndPoint} {b : GrowableIOBuffer}
    (h : parseReply proxy b = .relay address) :
    (6 ≤ b.offset ∧ replyType b.spanBeforeOffset = 0x03) ∨
    (11 ≤ b.offset ∧ replyType b.spanBeforeOffset = 0x01) ∨
    (23 ≤ b.offset ∧ replyType b.spanBeforeOffset = 0x04) := by
  obtain ⟨_, eq⟩ | eq | ⟨_, _, eq⟩ | ⟨size, hs, _, six, ⟨_, eq⟩ | ⟨enough, _⟩⟩ := parseReply_cases proxy b
  · cases h.symm.trans eq
  · cases h.symm.trans eq
  · cases h.symm.trans eq
  · cases h.symm.trans eq
  · obtain ⟨v4, total⟩ | ⟨v6, total⟩ | domain := totalNeeded_eq hs
    · exact .inr (.inl ⟨total ▸ enough, v4⟩)
    · exact .inr (.inr ⟨total ▸ enough, v6⟩)
    · exact .inl ⟨six domain, domain⟩

/-- A reply with a domain name is never read beyond its fifth byte. -/
lemma Stage.Reads.not_domain {b : GrowableIOBuffer} {received : List UInt8} {n : Nat}
    (h : associate.Reads b received n) (six : 6 ≤ b.data.length) : replyType b.data ≠ 0x03 := by
  have fits := h.fits
  intro domain
  obtain ⟨lt, cap⟩ | ⟨eq, cap, _⟩ | ⟨_, _, type⟩ | ⟨_, _, type⟩ := h.wants
  · omega
  · omega
  · exact absurd (domain.symm.trans type) (by decide)
  · exact absurd (domain.symm.trans type) (by decide)

/-- Reading on keeps the buffer as it should be. -/
lemma Stage.Reads.incomplete {proxy : IPEndPoint} {b : GrowableIOBuffer} {received : List UInt8}
    {n capacity : Nat} (h : associate.Reads b received n) (pos : 0 < n)
    (parsed : parseReply proxy (b.advance n) = .incomplete capacity) :
    associate.Reads { b.advance n with capacity := capacity } received 0 := by
  have counted := h.counted
  have fits := h.fits
  have wants := h.wants
  have parsed := parseReply_incomplete parsed
  rw [h.span] at parsed
  have offset : (b.advance n).offset = b.offset + n := rfl
  have same : (b.advance n).capacity = b.capacity := rfl
  -- before the fifth byte the buffer has its first capacity
  have first (lt : b.offset < 5) : b.capacity = 5 := by
    obtain ⟨_, cap⟩ | ⟨eq, _⟩ | ⟨le, _⟩ | ⟨le, _⟩ := wants
    · exact cap
    all_goals omega
  have bounds : b.data.length ≤ capacity ∧
      associate.Wants { b.advance n with capacity := capacity } := by
    obtain ⟨lt, cap⟩ | ⟨five, type, cap⟩ | ⟨six, domain⟩ | ⟨five, lt, v4 | v6⟩ := parsed
    · exact ⟨by omega, .inl ⟨lt, by rw [cap, same, first (by omega)]⟩⟩
    · exact ⟨by omega, .inr (.inl ⟨five, by rw [cap, same, first (by omega)], type⟩)⟩
    · exact absurd domain (h.not_domain (by omega))
    · exact ⟨by omega, .inr (.inr (.inl ⟨five, v4.2, v4.1⟩))⟩
    · exact ⟨by omega, .inr (.inr (.inr ⟨five, v6.2, v6.1⟩))⟩
  exact ⟨h.received, counted, bounds.1, bounds.2⟩

/-- A reply that names the relay is one that is taken for complete. -/
lemma Stage.Reads.relay {proxy address : IPEndPoint} {b : GrowableIOBuffer} {received : List UInt8}
    {n : Nat} (h : associate.Reads b received n)
    (parsed : parseReply proxy (b.advance n) = .relay address) : TakenForComplete b.data := by
  have counted := h.counted
  have parsed := parseReply_relay parsed
  rw [h.span] at parsed
  have offset : (b.advance n).offset = b.offset + n := rfl
  obtain ⟨six, domain⟩ | ⟨eleven, v4⟩ | ⟨enough, v6⟩ := parsed
  · exact absurd domain (h.not_domain (by omega))
  · exact .inl ⟨v4, by omega⟩
  · exact .inr ⟨v6, by omega⟩

/-- Reading on in the first stage. -/
lemma Stage.Reads.more {b : GrowableIOBuffer} {received : List UInt8} {n : Nat}
    (h : greet.Reads b received n) : greet.Reads (b.advance n) received 0 :=
  ⟨h.received, h.counted, h.fits, h.wants⟩

/-- The reply to the greeting has two bytes. -/
lemma Stage.Reads.greeted {b : GrowableIOBuffer} {received : List UInt8} {n : Nat}
    (h : greet.Reads b received n) (full : (b.advance n).remainingCapacity = 0)
    (version : (b.advance n).spanBeforeOffset.getD 0 0 = kSOCKS5Version)
    (method : (b.advance n).spanBeforeOffset.getD 1 0 = 0x00) : received = [0x05, 0x00] := by
  rw [h.span] at version method
  have length : b.data.length = 2 := by
    have wants : b.capacity = 2 := h.wants
    have counted := h.counted
    have fits := h.fits
    simp only [GrowableIOBuffer.remainingCapacity, GrowableIOBuffer.advance] at full
    omega
  obtain ⟨x, y, eq⟩ := List.length_eq_two.mp length
  have received := h.received
  rw [eq] at version method received
  have x_eq : x = 0x05 := version
  have y_eq : y = 0x00 := method
  rw [received, x_eq, y_eq]
  rfl

/-! ## The invariant -/

/-- Before the connection nothing was received. -/
lemma reading_connect {t : Talk} {n : Nat}
    (hs : t.nextState = .STATE_TCP_CONNECT ∨ t.nextState = .STATE_TCP_CONNECT_COMPLETE) :
    Reading t n ↔ t.readBuf = none ∧ t.received = [] := by
  obtain hs | hs := hs <;> simp only [Reading, hs]

/-- While a stage writes, the replies before it were received. -/
lemma reading_write (g : Stage) {t : Talk} {n : Nat}
    (hs : t.nextState = g.write ∨ t.nextState = g.writeComplete) :
    Reading t n ↔ t.readBuf = none ∧ t.received = g.heard := by
  cases g <;> obtain hs | hs := hs <;>
    simp only [Reading, hs, Stage.write, Stage.writeComplete, Stage.heard]

/-- While a stage reads, its buffer has what was received of its reply. -/
lemma reading_read (g : Stage) {t : Talk} {n : Nat}
    (hs : t.nextState = g.read ∨ t.nextState = g.readComplete) :
    Reading t n ↔ g.Reads (t.readBuf.getD { capacity := g.capacity }) t.received n := by
  cases g <;> obtain hs | hs := hs <;>
    simp only [Reading, hs, Stage.read, Stage.readComplete, Stage.capacity]

/-- The buffer for a reply is a new one at first. -/
lemma Stage.reads_new (g : Stage) : g.Reads { capacity := g.capacity } g.heard 0 := by
  constructor
  · exact (List.append_nil _).symm
  · rfl
  · exact Nat.zero_le _
  · cases g with
    | greet => rfl
    | associate => exact .inl ⟨by decide, rfl⟩

/-- An operation that completes keeps the invariant. -/
lemma reading_done {w w1 : World} {op : TcpOp} {rv : Int} (state : w.nextState.pendingOp = some op)
    (done : TcpDone w op w1 rv) (h : Reading w.talk 0) : Reading w1.talk rv.toNat := by
  cases done with
  | connect =>
    have hs := State.of_connect state
    exact (reading_connect (.inr hs)).mpr ((reading_connect (.inr hs)).mp h)
  | write =>
    obtain ⟨g, hs⟩ := State.of_write state
    exact (reading_write g (.inr hs)).mpr ((reading_write g (.inr hs)).mp h)
  | failed neg =>
    rw [Int.toNat_of_nonpos (Int.le_of_lt neg)]
    exact h
  | read hb fits =>
    obtain ⟨g, hs⟩ := State.of_read state
    have reads := (reading_read g (.inr hs)).mp h
    simp only [World.talk, hb, Option.getD_some] at reads
    exact (reading_read g (.inr hs)).mpr (reads.put fits)

/-- A turn of the loop keeps the invariant. -/
lemma reading_turns {w w1 : World} {rv rv1 : Int} (s : Steady w rv) (ne : w.nextState ≠ .STATE_CONNECTED)
    (turned : Turned w rv w1 rv1) (h : Reading w.talk rv.toNat) : Reading w1.talk rv1.toNat := by
  cases turned with
  | connects hs started =>
    have before := (reading_connect (.inl hs)).mp h
    exact started.keeps reading_done rfl ((reading_connect (.inr rfl)).mpr before)
  | connected hs =>
    have before := (reading_connect (.inr hs)).mp h
    exact before
  | writes g hs started =>
    have before := (reading_write g (.inl hs)).mp h
    exact started.keeps reading_done g.pendingOp_writeComplete ((reading_write g (.inr rfl)).mpr before)
  | wrotePart g hs =>
    have before := (reading_write g (.inr hs)).mp h
    exact (reading_write g (.inl rfl)).mpr before
  | wrote g hs =>
    obtain ⟨no_buf, received⟩ := (reading_write g (.inr hs)).mp h
    refine (reading_read g (.inl rfl)).mpr ?_
    simp only [World.talk] at no_buf received
    simp only [World.talk, no_buf, received, Option.getD_none]
    exact g.reads_new
  | reads g hs started =>
    rw [s.toNat (hs ▸ g.complete_read)] at h
    have before := (reading_read g (.inl hs)).mp h
    exact started.keeps reading_done g.pendingOp_readComplete ((reading_read g (.inr rfl)).mpr before)
  | greetedPart hs _ hb =>
    have before := (reading_read .greet (.inr hs)).mp h
    simp only [World.talk, hb, Option.getD_some] at before
    exact before.more
  | greeted hs _ hb full version method =>
    have before := (reading_read .greet (.inr hs)).mp h
    simp only [World.talk, hb, Option.getD_some] at before
    exact ⟨rfl, before.greeted full version method⟩
  | repliedPart hs pos hb parsed =>
    have before := (reading_read .associate (.inr hs)).mp h
    simp only [World.talk, hb, Option.getD_some] at before
    exact before.incomplete (by omega) parsed
  | @replied b address hs _ hb parsed =>
    have before := (reading_read .associate (.inr hs)).mp h
    simp only [World.talk, hb, Option.getD_some] at before
    exact ⟨b.data, before.received, before.relay parsed⟩
  | udpConnects hs =>
    simp only [Reading, World.talk, hs] at h
    exact h
  | udpFails hs =>
    simp only [Reading, World.talk, hs] at h
    exact h
  | failed => trivial
  | notReached e => exact absurd e ne

/-- Every step of the handshake keeps the invariant. -/
theorem reading_kept : Kept Reading where
  opens t p new := ⟨new.readBuf, new.received⟩
  opensNot t p new none := by simp [Reading, none]
  parks t packet path ready _ h := by simpa [Reading, ready] using h
  turns _ := reading_turns
  done := reading_done
  stops t n writing writeBuf h := trivial

/-! ## Runs -/

/-- In a run that conforms to the interface the replies are read as they should be. -/
theorem reading_run {proxy : IPEndPoint} {tr : List (World × Event)} {w : World}
    (r : Run World.step (fresh proxy) tr w) (conforms : Guarded Conforms tr) :
    Phase w ∧ Reading w.talk w.uncounted := by
  refine r.invariant_guarded (I := fun w => Phase w ∧ Reading w.talk w.uncounted) ?_
    ⟨phase_fresh proxy, trivial⟩ conforms
  intro u e v h c st
  exact ⟨phase_step h.1 c st, reading_kept.step h.1 c st h.2⟩

/-- The address in a reply. -/
inductive BoundAddress where
  | ipv4 (bytes : List UInt8) (size : bytes.length = kIPv4Size)
  | ipv6 (bytes : List UInt8) (size : bytes.length = kIPv6Size)
  | domain (name : List UInt8) (nonempty : 1 ≤ name.length) (short : name.length ≤ 255)

def BoundAddress.encoded : BoundAddress → List UInt8
  | .ipv4 bytes _ => 0x01 :: bytes
  | .ipv6 bytes _ => 0x04 :: bytes
  | .domain name _ _ => 0x03 :: name.length.toUInt8 :: name

/-- A success reply with an address and a port. -/
def successReply (address : BoundAddress) (port : UInt16) : List UInt8 :=
  0x05 :: 0x00 :: 0x00 :: (address.encoded ++ [(port >>> 8).toUInt8, port.toUInt8])

/-- The relay that a success reply names; for a domain name it is to be at the address of the proxy. -/
def namedRelay (proxy : IPEndPoint) (address : BoundAddress) (port : UInt16) : IPEndPoint :=
  match address with
  | .ipv4 bytes _ | .ipv6 bytes _ => ⟨⟨bytes⟩, port⟩
  | .domain _ _ _ => ⟨proxy.address, port⟩

/-- The loop has come to connect to the relay, when exactly the reply was read, and it is the relay that the reply
names. -/
structure Arrives (address : BoundAddress) (port : UInt16) (w : World) : Prop where
  state : w.nextState = .STATE_UDP_CONNECT
  received : w.received = [0x05, 0x00] ++ successReply address port
  relay : w.relayAddress = namedRelay w.socksProxyAddress address port

/-- A run comes to connect to the relay. -/
def Reaches (address : BoundAddress) (port : UInt16) (tr : List (World × Event)) (w : World) : Prop :=
  (∃ p ∈ tr, Arrives address port p.1) ∨ Arrives address port w

/-- The number of bytes that the next read asks for. -/
def World.asks (w : World) : Nat :=
  (w.readBuf.getD { capacity := Stage.associate.capacity }).remainingCapacity

def BoundAddress.type : BoundAddress → UInt8
  | .ipv4 _ _ => 0x01
  | .ipv6 _ _ => 0x04
  | .domain _ _ _ => 0x03

/-- The number of bytes after which the socket cannot come further with a reply as it should: all of them, or five if
the address is a domain name. -/
def BoundAddress.limit : BoundAddress → Nat
  | .ipv4 _ _ => 10
  | .ipv6 _ _ => 22
  | .domain _ _ _ => 5

/-- The type of a success reply is that of its address. -/
lemma replyType_successReply (address : BoundAddress) (port : UInt16) :
    replyType (successReply address port) = address.type := by
  cases address <;> rfl

/-- No success reply is taken for complete: with an IP address it is a byte too short. -/
lemma not_takenForComplete (address : BoundAddress) (port : UInt16) :
    ¬ TakenForComplete (successReply address port) := by
  intro complete
  rw [TakenForComplete, replyType_successReply] at complete
  cases address with
  | ipv4 bytes size =>
    simp [BoundAddress.type, successReply, BoundAddress.encoded, size, kIPv4Size] at complete
  | ipv6 bytes size =>
    simp [BoundAddress.type, successReply, BoundAddress.encoded, size, kIPv6Size] at complete
  | domain name => simp [BoundAddress.type] at complete

/-- In no run does the socket arrive with a success reply. -/
lemma not_arrives {proxy : IPEndPoint} {tr : List (World × Event)} {w : World}
    (r : Run World.step (fresh proxy) tr w) (conforms : Guarded Conforms tr) (address : BoundAddress)
    (port : UInt16) : ¬ Arrives address port w := by
  intro arrives
  have reading := (reading_run r conforms).2
  simp only [Reading, World.talk, arrives.state, arrives.received] at reading
  obtain ⟨data, eq, complete⟩ := reading
  rw [← List.append_cancel_left eq] at complete
  exact not_takenForComplete address port complete

/-- Nor has it done so before. -/
lemma not_reaches {proxy : IPEndPoint} {tr : List (World × Event)} {w : World}
    (r : Run World.step (fresh proxy) tr w) (conforms : Guarded Conforms tr) (address : BoundAddress)
    (port : UInt16) : ¬ Reaches address port tr w := by
  rintro (⟨p, hp, arrives⟩ | arrives)
  · obtain ⟨tr1, tr2, u, rfl, r1, _, _⟩ := r.split hp
    exact not_arrives r1 (Guarded.append.mp conforms).1 address port arrives
  · exact not_arrives r conforms address port arrives

/-- The limit of a reply is in it, behind the type of the address. -/
lemma length_take_limit (address : BoundAddress) (port : UInt16) :
    ((successReply address port).take address.limit).length = address.limit := by
  cases address with
  | ipv4 bytes size => simp [successReply, BoundAddress.encoded, BoundAddress.limit, size, kIPv4Size]
  | ipv6 bytes size => simp [successReply, BoundAddress.encoded, BoundAddress.limit, size, kIPv6Size]
  | domain name => simp [successReply, BoundAddress.encoded, BoundAddress.limit]

/-- The type of the address is within the limit. -/
lemma replyType_take_limit (address : BoundAddress) (port : UInt16) :
    replyType ((successReply address port).take address.limit) = address.type := by
  cases address <;> rfl

/-- With the part of a reply that leads no further, the next read asks for one byte beyond the reply, or for nothing if
the address is a domain name. -/
lemma asks_of_reads {b : GrowableIOBuffer} {received : List UInt8} {address : BoundAddress} {port : UInt16}
    (reads : Stage.associate.Reads b received 0)
    (eq : received = [0x05, 0x00] ++ (successReply address port).take address.limit) :
    b.remainingCapacity = if address.type = 0x03 then 0 else 1 := by
  have data : b.data = (successReply address port).take address.limit := by
    rw [reads.received] at eq
    exact List.append_cancel_left eq
  have counted := reads.counted
  have wants := reads.wants
  rw [Stage.Wants, data, replyType_take_limit] at wants
  rw [data, length_take_limit] at counted
  rw [GrowableIOBuffer.remainingCapacity]
  cases address with
  | ipv4 => simp [BoundAddress.type, BoundAddress.limit] at *; omega
  | ipv6 => simp [BoundAddress.type, BoundAddress.limit] at *; omega
  | domain => simp [BoundAddress.type, BoundAddress.limit] at *; omega

/-- No run comes to connect to the relay that the proxy names. When the reply was read, or five bytes of one with a
domain name, the socket reads on, and asks for one byte beyond the reply, or for nothing. -/
theorem reaches_never {proxy : IPEndPoint} {tr : List (World × Event)} {w : World}
    (r : Run World.step (fresh proxy) tr w) (conforms : Guarded Conforms tr) (address : BoundAddress)
    (port : UInt16) :
    ¬ Reaches address port tr w ∧
    (w.nextState = .STATE_UDP_ASSOCIATE_READ →
      w.received = [0x05, 0x00] ++ (successReply address port).take address.limit →
      w.asks = if address.type = 0x03 then 0 else 1) := by
  constructor
  · exact not_reaches r conforms address port
  · intro state received
    obtain ⟨ph, reading⟩ := reading_run r conforms
    rw [ph.uncounted (by rw [state]; rfl)] at reading
    have reads := (reading_read .associate (.inl state)).mp reading
    exact asks_of_reads reads received

/-- The proxy replies with the relay 127.0.0.1:1080. -/
def associates : List Event := [
  .connectAsync ⟨⟨[10, 0, 0, 2]⟩, 443⟩ 1, .turn (.result 0), .turn .none, .turn (.result 3), .turn .none,
  .turn (.bytes [0x05, 0x00]), .turn .none, .turn (.result 10), .turn .none,
  .turn (.bytes [0x05, 0x00, 0x00, 0x01, 127]), .turn .none, .turn (.bytes [0, 0, 1, 0x04, 0x38]), .turn .none,
  .turn .pending]

/-- A handshake that asks for an association and does not reach it. -/
theorem reaches_never_associates : ∃ w,
    Run World.step (fresh ⟨⟨[10, 0, 0, 1]⟩, 1080⟩)
      (trace World.step (fresh ⟨⟨[10, 0, 0, 1]⟩, 1080⟩) associates) w ∧
    ¬ Reaches (.ipv4 [127, 0, 0, 1] rfl) 1080
      (trace World.step (fresh ⟨⟨[10, 0, 0, 1]⟩, 1080⟩) associates) w := by
  have r : Run World.step (fresh ⟨⟨[10, 0, 0, 1]⟩, 1080⟩) (trace World.step _ associates) _ :=
    Run.of_exec rfl
  exact ⟨_, r, (reaches_never r (by decide) _ 1080).1⟩

/-- The reply was read, and the socket waits for a byte more. -/
theorem reaches_fails :
    ¬ ∀ proxy tr w address port, Run World.step (fresh proxy) tr w → Guarded Conforms tr →
      w.received = [0x05, 0x00] ++ successReply address port → w.control = .idle →
      Reaches address port tr w := by
  intro h
  have r : Run World.step (fresh ⟨⟨[10, 0, 0, 1]⟩, 1080⟩) (trace World.step _ associates) _ :=
    Run.of_exec rfl
  have conforms : Guarded Conforms (trace World.step (fresh ⟨⟨[10, 0, 0, 1]⟩, 1080⟩) associates) := by
    decide
  exact not_reaches r conforms _ _
    (h _ _ _ (.ipv4 [127, 0, 0, 1] rfl) 1080 r conforms (by decide) rfl)

end PureCloak.Net
