import PureCloak.Net.UdpAssociate

/-!
# What the proxy is sent

A handshake that `ConnectAsync` has started sends the two messages of the handshake and nothing else (`Sending`). One
that a write has started has the datagram in the buffer when it is to send the greeting, so its first byte is wrong
(`Parked`). `transcript_iff` draws the line.
-/

namespace PureCloak.Net
open Machine

/-- The messages of the handshake. -/
def requests : List UInt8 :=
  kSocks5GreetData ++ buildUDPAssociateWriteBuffer

/-- The messages of the handshake are sent, and the second one not before the proxy has agreed to the first. -/
structure Transcript (sent received : List UInt8) : Prop where
  messages : sent <+: requests
  order : kSocks5GreetData.length < sent.length → [0x05, 0x00] <+: received

/-- The answer to a write that takes bytes. -/
def Answer.TakesBytes : Answer → Prop
  | .result n => 0 < n
  | _ => False

instance : (answer : Answer) → Decidable answer.TakesBytes
  | .result n => inferInstanceAs (Decidable (0 < n))
  | .none | .pending | .bytes _ | .udp _ _ _ => isFalse id

/-- The TCP connection takes bytes. -/
def Takes (w : World) : Event → Prop
  | .turn answer =>
    (w.nextState = .STATE_GREET_WRITE ∨ w.nextState = .STATE_UDP_ASSOCIATE_WRITE) ∧ answer.TakesBytes
  | .tcpCompletes answer => w.tcpPending = some .write ∧ answer.TakesBytes
  | _ => False

instance (w : World) : (e : Event) → Decidable (Takes w e)
  | .turn _ | .tcpCompletes _ => inferInstanceAs (Decidable (_ ∧ _))
  | .connect _ _ _ | .connectAsync _ _ | .read _ _ | .write _ _ | .close | .udpReads _ | .udpWrites _
  | .udpReadCompletes _ | .udpWriteCompletes _ => isFalse id

/-- The TCP connection takes no bytes in a handshake that a write has started. -/
def SendsInOrder (w : World) (e : Event) : Prop :=
  w.caller.path = some .sync → ¬ Takes w e

instance (w : World) (e : Event) : Decidable (SendsInOrder w e) :=
  inferInstanceAs (Decidable (_ → _))

/-! ## Handshakes that `ConnectAsync` has started -/

/-- What is left to be sent of a message. -/
def Talk.unsent (t : Talk) (message : List UInt8) : List UInt8 :=
  (t.writeBuf.getD { data := message }).remaining

/-- What has been sent at a state of the handshake. -/
def Sending (t : Talk) (n : Nat) : Prop :=
  match t.nextState with
  | .STATE_TCP_CONNECT | .STATE_TCP_CONNECT_COMPLETE => t.writeBuf = none ∧ t.sent = []
  | .STATE_GREET_WRITE | .STATE_GREET_WRITE_COMPLETE =>
    t.sent ++ (t.unsent kSocks5GreetData).drop n = kSocks5GreetData
  | .STATE_GREET_READ | .STATE_GREET_READ_COMPLETE => t.writeBuf = none ∧ t.sent = kSocks5GreetData
  | .STATE_UDP_ASSOCIATE_WRITE | .STATE_UDP_ASSOCIATE_WRITE_COMPLETE =>
    t.sent ++ (t.unsent buildUDPAssociateWriteBuffer).drop n = requests
  | .STATE_UDP_ASSOCIATE_READ | .STATE_UDP_ASSOCIATE_READ_COMPLETE =>
    t.writeBuf = none ∧ t.sent = requests
  | _ => True

/-- While a stage writes, its message is sent from where the rest begins. -/
lemma sending_write (g : Stage) {t : Talk} {n : Nat}
    (hs : t.nextState = g.write ∨ t.nextState = g.writeComplete) :
    Sending t n ↔ t.sent ++ (t.unsent g.message).drop n = g.before ++ g.message := by
  cases g <;> obtain hs | hs := hs <;>
    simp only [Sending, hs, Stage.write, Stage.writeComplete, Stage.message, Stage.before, requests,
      List.nil_append]

/-- While a stage reads, its message is all sent. -/
lemma sending_read (g : Stage) {t : Talk} {n : Nat}
    (hs : t.nextState = g.read ∨ t.nextState = g.readComplete) :
    Sending t n ↔ t.writeBuf = none ∧ t.sent = g.before ++ g.message := by
  cases g <;> obtain hs | hs := hs <;>
    simp only [Sending, hs, Stage.read, Stage.readComplete, Stage.message, Stage.before, requests,
      List.nil_append]

/-- The messages of the stages are the requests. -/
lemma Stage.prefix_requests (g : Stage) : g.before ++ g.message <+: requests := by
  cases g with
  | greet => exact List.prefix_append _ _
  | associate => exact List.prefix_rfl

/-- The messages are sent as they should be while one of them is written. -/
lemma transcript_of_writing (g : Stage) {t : Talk} {n : Nat}
    (hs : t.nextState = g.write ∨ t.nextState = g.writeComplete) (sending : Sending t n)
    (reading : Reading t n) : Transcript t.sent t.received := by
  have sent := (sending_write g hs).mp sending
  have received := ((reading_write g hs).mp reading).2
  have part : t.sent <+: g.before ++ g.message := sent ▸ List.prefix_append _ _
  refine ⟨part.trans g.prefix_requests, ?_⟩
  intro second
  cases g with
  | greet =>
    have le : t.sent.length ≤ kSocks5GreetData.length := part.length_le
    omega
  | associate =>
    rw [received]
    exact List.prefix_rfl

/-- Where nothing was sent there is a transcript. -/
lemma Transcript.nil {sent received : List UInt8} (h : sent = []) : Transcript sent received := by
  rw [h]
  exact ⟨List.nil_prefix, fun second => absurd second (by decide)⟩

/-- More is read. -/
lemma Transcript.append {sent received : List UInt8} (h : Transcript sent received) (data : List UInt8) :
    Transcript sent (received ++ data) :=
  ⟨h.messages, fun second => (h.order second).trans (List.prefix_append _ _)⟩

/-- The invariant of a handshake that `ConnectAsync` has started. -/
def Proper (t : Talk) (n : Nat) : Prop :=
  Reading t n ∧ (t.path = some .async → Transcript t.sent t.received ∧ Sending t n)

/-- An operation that completes keeps the invariant. -/
lemma proper_done {w w1 : World} {op : TcpOp} {rv : Int} (state : w.nextState.pendingOp = some op)
    (done : TcpDone w op w1 rv) (h : Proper w.talk 0) : Proper w1.talk rv.toNat := by
  obtain ⟨reading, proper⟩ := h
  have reading1 := reading_done state done reading
  refine ⟨reading1, fun path => ?_⟩
  cases done with
  | connect =>
    obtain ⟨transcript, sending⟩ := proper path
    have hs := State.of_connect state
    simp only [Sending, World.talk, hs] at sending
    refine ⟨transcript, ?_⟩
    simpa only [Sending, World.talk, hs] using sending
  | @write b rv hb _ le =>
    obtain ⟨_, sending⟩ := proper path
    obtain ⟨g, hs⟩ := State.of_write state
    have sent := (sending_write g (.inr hs)).mp sending
    have sending1 : Sending ({ w with sent := w.sent ++ b.remaining.take rv.toNat } : World).talk rv.toNat := by
      refine (sending_write g (.inr hs)).mpr ?_
      simp only [Talk.unsent, World.talk, hb, Option.getD_some, List.drop_zero] at sent
      simp only [Talk.unsent, World.talk, hb, Option.getD_some]
      rw [List.append_assoc, List.take_append_drop, sent]
    exact ⟨transcript_of_writing g (.inr hs) sending1 reading1, sending1⟩
  | failed neg =>
    rw [Int.toNat_of_nonpos (Int.le_of_lt neg)]
    exact proper path
  | @read b data =>
    obtain ⟨transcript, sending⟩ := proper path
    obtain ⟨g, hs⟩ := State.of_read state
    exact ⟨transcript.append data, (sending_read g (.inr hs)).mpr ((sending_read g (.inr hs)).mp sending)⟩

/-- A turn of the loop keeps the invariant. -/
lemma proper_turns {w w1 : World} {rv rv1 : Int} (s : Steady w rv) (ne : w.nextState ≠ .STATE_CONNECTED)
    (turned : Turned w rv w1 rv1) (h : Proper w.talk rv.toNat) : Proper w1.talk rv1.toNat := by
  obtain ⟨reading, proper⟩ := h
  refine ⟨reading_turns s ne turned reading, fun path => ?_⟩
  have same : w1.talk.path = w.talk.path := (turned.sameCaller ne).path
  obtain ⟨transcript, sending⟩ := proper (same ▸ path)
  cases turned with
  | connects hs started =>
    simp only [Sending, World.talk, hs] at sending
    have reading1 := (reading_connect (.inl hs)).mp reading
    exact (started.keeps proper_done rfl
      ⟨(reading_connect (.inr rfl)).mpr reading1, fun _ => ⟨transcript, sending⟩⟩).2 path
  | connected hs =>
    simp only [Sending, World.talk, hs] at sending
    obtain ⟨no_buf, sent⟩ := sending
    refine ⟨transcript, (sending_write .greet (.inl rfl)).mpr ?_⟩
    simp only [Talk.unsent, World.talk, no_buf, sent]
    rfl
  | writes g hs started =>
    rw [s.toNat (hs ▸ g.complete_write)] at sending
    have reading1 := (reading_write g (.inl hs)).mp reading
    have sent := (sending_write g (.inl hs)).mp sending
    exact (started.keeps proper_done g.pendingOp_writeComplete
      ⟨(reading_write g (.inr rfl)).mpr reading1,
        fun _ => ⟨transcript, (sending_write g (.inr rfl)).mpr sent⟩⟩).2 path
  | wrotePart g hs hb =>
    have sent := (sending_write g (.inr hs)).mp sending
    refine ⟨transcript, (sending_write g (.inl rfl)).mpr ?_⟩
    simp only [Talk.unsent, World.talk, hb, Option.getD_some] at sent
    simp only [Talk.unsent, World.talk, Option.getD_some, DrainableIOBuffer.didConsume_remaining]
    exact sent
  | wrote g hs hb empty =>
    have sent := (sending_write g (.inr hs)).mp sending
    refine ⟨transcript, (sending_read g (.inl rfl)).mpr ⟨rfl, ?_⟩⟩
    simp only [Talk.unsent, World.talk, hb, Option.getD_some, empty, List.append_nil] at sent
    exact sent
  | reads g hs started =>
    rw [s.toNat (hs ▸ g.complete_read)] at reading
    have reading1 := (reading_read g (.inl hs)).mp reading
    have sent := (sending_read g (.inl hs)).mp sending
    exact (started.keeps proper_done g.pendingOp_readComplete
      ⟨(reading_read g (.inr rfl)).mpr reading1,
        fun _ => ⟨transcript, (sending_read g (.inr rfl)).mpr sent⟩⟩).2 path
  | greetedPart hs =>
    have sent := (sending_read .greet (.inr hs)).mp sending
    exact ⟨transcript, sent⟩
  | greeted hs =>
    obtain ⟨no_buf, sent⟩ := (sending_read .greet (.inr hs)).mp sending
    refine ⟨transcript, (sending_write .associate (.inl rfl)).mpr ?_⟩
    simp only [World.talk] at no_buf sent
    simp only [Talk.unsent, World.talk, no_buf, sent]
    rfl
  | repliedPart hs =>
    have sent := (sending_read .associate (.inr hs)).mp sending
    exact ⟨transcript, sent⟩
  | replied => exact ⟨transcript, trivial⟩
  | udpConnects => exact ⟨transcript, trivial⟩
  | udpFails => exact ⟨transcript, trivial⟩
  | failed => exact ⟨transcript, trivial⟩
  | notReached e => exact absurd e ne

/-- Every step of the handshake keeps the invariant. -/
theorem proper_kept : Kept Proper where
  opens t p new := by
    refine ⟨reading_kept.opens t p new, fun _ => ⟨?_, new.writeBuf, new.sent⟩⟩
    exact Transcript.nil new.sent
  opensNot t p new none := by
    refine ⟨reading_kept.opensNot t p new none, fun _ => ⟨Transcript.nil new.sent, ?_⟩⟩
    simp [Sending, none]
  parks t packet path ready head h := by
    refine ⟨reading_kept.parks t packet path ready head h.1, fun async => ?_⟩
    cases path.symm.trans async
  turns _ := proper_turns
  done := proper_done
  stops t n writing writeBuf h := ⟨trivial, fun path => ⟨(h.2 path).1, trivial⟩⟩

/-! ## Handshakes that a write has started -/

/-- The buffer holds a datagram; its first byte is none that the handshake sends first. -/
def Parked (t : Talk) : Prop :=
  ∃ b, t.writeBuf = some b ∧ b.remaining.head? = some 0x00

/-- A handshake that a write has started does not come further than to send the datagram. -/
def Stuck (t : Talk) (n : Nat) : Prop :=
  match t.nextState with
  | .STATE_NONE => True
  | .STATE_TCP_CONNECT => t.writing = true → Parked t
  | .STATE_TCP_CONNECT_COMPLETE | .STATE_GREET_WRITE => Parked t
  | .STATE_GREET_WRITE_COMPLETE => Parked t ∧ n = 0
  | _ => False

/-- A stage that is stuck before its write is the greeting, with a datagram in the buffer. -/
lemma parked_of_write (g : Stage) {t : Talk} {n : Nat} (hs : t.nextState = g.write) (h : Stuck t n) :
    g = .greet ∧ Parked t := by
  cases g with
  | greet => simpa only [Stuck, hs, Stage.write, true_and] using h
  | associate => simp only [Stuck, hs, Stage.write] at h

/-- So it is after the write, which has taken nothing. -/
lemma parked_of_writeComplete (g : Stage) {t : Talk} {n : Nat} (hs : t.nextState = g.writeComplete)
    (h : Stuck t n) : g = .greet ∧ Parked t ∧ n = 0 := by
  cases g with
  | greet => simpa only [Stuck, hs, Stage.writeComplete, true_and] using h
  | associate => simp only [Stuck, hs, Stage.writeComplete] at h

/-- A stage that reads is not stuck. -/
lemma not_stuck_of_read (g : Stage) {t : Talk} {n : Nat}
    (hs : t.nextState = g.read ∨ t.nextState = g.readComplete) : ¬ Stuck t n := by
  intro h
  cases g <;> obtain hs | hs := hs <;> simp only [Stuck, hs, Stage.read, Stage.readComplete] at h

/-- The invariant of a handshake that a write has started: nothing was sent, or the datagram. -/
def Lazy (t : Talk) (n : Nat) : Prop :=
  t.path = some .sync → t.sent.head? = some 0x00 ∨ t.sent = [] ∧ Stuck t n

/-- The first byte stays the first one. -/
lemma head?_append_of_head? {l m : List UInt8} {a : UInt8} (h : l.head? = some a) :
    (l ++ m).head? = some a := by
  rw [List.head?_append, h]
  rfl

/-- An operation that completes keeps the invariant. -/
lemma lazy_done {w w1 : World} {op : TcpOp} {rv : Int} (state : w.nextState.pendingOp = some op)
    (done : TcpDone w op w1 rv) (h : Lazy w.talk 0) : Lazy w1.talk rv.toNat := by
  cases done with
  | connect =>
    have hs := State.of_connect state
    simpa only [Lazy, Stuck, World.talk, hs] using h
  | @write b rv hb _ _ =>
    intro path
    obtain sent | ⟨sent, stuck⟩ := h path
    · exact .inl (head?_append_of_head? sent)
    · obtain ⟨g, hs⟩ := State.of_write state
      obtain ⟨rfl, ⟨b', hb', head⟩, _⟩ := parked_of_writeComplete g hs stuck
      cases hb.symm.trans hb'
      simp only [World.talk] at sent
      simp only [Stuck, World.talk, hs, Stage.writeComplete, sent, List.nil_append]
      -- the first byte that is taken is the first of the datagram
      cases rv.toNat with
      | zero => exact .inr ⟨rfl, ⟨b, hb, head⟩, rfl⟩
      | succ k =>
        obtain ⟨rest, eq⟩ := List.head?_eq_some_iff.mp head
        rw [eq]
        exact .inl rfl
  | failed neg =>
    rw [Int.toNat_of_nonpos (Int.le_of_lt neg)]
    exact h
  | read hb =>
    intro path
    obtain sent | ⟨sent, stuck⟩ := h path
    · exact .inl sent
    · obtain ⟨g, hs⟩ := State.of_read state
      exact absurd stuck (not_stuck_of_read g (.inr hs))

/-- A turn of the loop keeps the invariant. -/
lemma lazy_turns {w w1 : World} {rv rv1 : Int} (busy : Busy w) (s : Steady w rv)
    (ne : w.nextState ≠ .STATE_CONNECTED) (turned : Turned w rv w1 rv1) (h : Lazy w.talk rv.toNat) :
    Lazy w1.talk rv1.toNat := by
  intro path
  have same : w1.talk.path = w.talk.path := (turned.sameCaller ne).path
  have h := h (same ▸ path)
  have writing : w.caller.writing = true := by
    obtain ⟨_, _, writing, _⟩ | ⟨async, _⟩ := busy.side
    · exact writing
    · cases (same.symm.trans path).symm.trans async
  cases turned with
  | connects hs started =>
    simp only [Stuck, World.talk, hs] at h
    exact started.keeps lazy_done rfl (fun _ => h.imp_right fun h => ⟨h.1, h.2 writing⟩) path
  | connected hs =>
    simp only [Stuck, World.talk, hs] at h
    exact h
  | writes g hs started =>
    rw [s.toNat (hs ▸ g.complete_write)] at h
    refine started.keeps lazy_done g.pendingOp_writeComplete (fun _ => h.imp_right fun h => ⟨h.1, ?_⟩) path
    obtain ⟨rfl, b, hb, head⟩ := parked_of_write g hs h.2
    have hb : w.writeBuf = some b := hb
    refine ⟨⟨b, ?_, head⟩, rfl⟩
    show some (w.writeBuf.getD _) = some b
    rw [hb]
    rfl
  | wrotePart g hs hb =>
    refine h.imp_right fun h => ⟨h.1, ?_⟩
    obtain ⟨rfl, ⟨b, hb', head⟩, zero⟩ := parked_of_writeComplete g hs h.2
    cases hb.symm.trans hb'
    refine ⟨_, rfl, ?_⟩
    rw [DrainableIOBuffer.didConsume_remaining, zero, List.drop_zero, head]
  | wrote g hs hb empty =>
    -- the datagram is not empty
    refine h.imp_right fun h => ⟨h.1, ?_⟩
    obtain ⟨rfl, ⟨b, hb', head⟩, zero⟩ := parked_of_writeComplete g hs h.2
    cases hb.symm.trans hb'
    rw [zero, List.drop_zero] at empty
    simp [empty] at head
  | reads g hs started =>
    obtain sent | ⟨_, stuck⟩ := h
    · exact started.keeps lazy_done g.pendingOp_readComplete (fun _ => .inl sent) path
    · exact absurd stuck (not_stuck_of_read g (.inl hs))
  | greetedPart hs | greeted hs | repliedPart hs | replied hs | udpConnects hs | udpFails hs =>
    simp only [Stuck, World.talk, hs] at h
    exact h.imp_right fun h => h.2.elim
  | failed => exact h.imp_right fun h => ⟨h.1, trivial⟩
  | notReached e => exact absurd e ne

/-- Every step of the handshake keeps the invariant. -/
theorem lazy_kept : Kept Lazy where
  opens t p new := fun _ => .inr ⟨new.sent, fun writing => by cases new.writing.symm.trans writing⟩
  opensNot t p new none := fun _ => .inr ⟨new.sent, by simp [Stuck, none]⟩
  parks t packet path ready head h := by
    intro _
    obtain sent | ⟨sent, _⟩ := h path
    · exact .inl sent
    · refine .inr ⟨sent, ?_⟩
      simp only [Stuck, ready]
      exact fun _ => ⟨packet, rfl, head⟩
  turns := lazy_turns
  done := lazy_done
  stops t n writing writeBuf h := fun path => (h path).imp_right fun h => ⟨h.1, trivial⟩

/-! ## Runs -/

/-- An operation that writes nothing sends nothing. -/
lemma TcpDone.sent_same {w w1 : World} {op : TcpOp} {rv : Int} (h : TcpDone w op w1 rv)
    (none : op = .write → rv ≤ 0) : w1.sent = w.sent := by
  cases h with
  | @write b =>
    show w.sent ++ b.remaining.take rv.toNat = w.sent
    rw [Int.toNat_of_nonpos (none rfl), List.take_zero, List.append_nil]
  | connect | failed | read => rfl

/-- A write that takes bytes has sent some. -/
lemma TcpDone.sent_ne_nil {w w1 : World} {rv : Int} (h : TcpDone w .write w1 rv) (pos : 0 < rv) :
    w1.sent ≠ [] := by
  cases h with
  | @write b _ _ _ le =>
    apply List.ne_nil_of_length_pos
    rw [List.length_append, List.length_take]
    omega

/-- A start that writes nothing sends nothing. -/
lemma Started.sent_same {w w1 : World} {op : TcpOp} {rv : Int} (h : Started w op w1 rv)
    (none : op = .write → rv ≤ 0) : w1.sent = w.sent := by
  cases h with
  | pending => rfl
  | done done => exact done.sent_same none

/-- A write that is started and takes bytes has sent some. -/
lemma Started.sent_ne_nil {w w1 : World} {rv : Int} (h : Started w .write w1 rv) (pos : 0 < rv) :
    w1.sent ≠ [] := by
  cases h with
  | pending => exact absurd pos (by decide)
  | done done => exact done.sent_ne_nil pos

/-- A write takes bytes exactly with a positive result. -/
lemma takesBytes_iff {w w1 : World} {answer : Answer} {rv : Int}
    (h : w.tcpDone .write answer = some (w1, rv)) : answer.TakesBytes ↔ 0 < rv := by
  cases answer with
  | result n =>
    simp only [World.tcpDone] at h
    split at h
    · cases h
    · split at h
      · cases h
      · cases h
        rfl
  | _ => cases h

/-- A turn that writes a message. -/
lemma takesBytes_iff_of_body {w w1 : World} {rv rv1 : Int} {answer : Answer} (g : Stage)
    (hs : w.nextState = g.write) (body : w.doLoopBody rv answer = some (w1, rv1)) :
    answer.TakesBytes ↔ 0 < rv1 := by
  have tcp : ∃ w' : World, w'.tcp .write answer = some (w1, rv1) := by
    cases g with
    | greet =>
      simp only [World.doLoopBody, hs, Stage.write] at body
      exact ⟨_, body⟩
    | associate =>
      simp only [World.doLoopBody, hs, Stage.write] at body
      exact ⟨_, body⟩
  obtain ⟨w', tcp⟩ := tcp
  cases answer with
  | pending =>
    cases tcp
    exact iff_of_false id (by decide)
  | _ => exact takesBytes_iff (w := w') tcp

/-- What was sent after a step: no less than one byte if the TCP connection takes bytes, else what was sent before. -/
def Grows (w : World) (e : Event) (sent : List UInt8) : Prop :=
  (Takes w e → sent ≠ []) ∧ (¬ Takes w e → sent = w.sent)

/-- A step that takes no bytes leaves what was sent. -/
lemma Grows.same {w : World} {e : Event} {sent : List UInt8} (h : ¬ Takes w e) (same : sent = w.sent) :
    Grows w e sent :=
  ⟨fun takes => absurd takes h, fun _ => same⟩

/-- A turn of the loop sends bytes exactly when the connection takes some. -/
lemma grows_turned {w w1 : World} {rv rv1 : Int} {answer : Answer}
    (body : w.doLoopBody rv answer = some (w1, rv1)) (turned : Turned w rv w1 rv1) :
    Grows w (.turn answer) w1.sent := by
  cases turned with
  | writes g hs started =>
    have iff := takesBytes_iff_of_body g hs body
    constructor
    · intro takes
      exact started.sent_ne_nil (iff.mp takes.2)
    · intro none
      refine started.sent_same (fun _ => Int.not_lt.mp fun pos => none ⟨?_, iff.mpr pos⟩)
      cases g with
      | greet => exact .inl hs
      | associate => exact .inr hs
  | connects hs started => exact .same (by simp [Takes, hs]) (started.sent_same (by simp))
  | reads g hs started =>
    exact .same (by cases g <;> simp [Takes, hs, Stage.read]) (started.sent_same (by simp))
  | wrotePart g hs | wrote g hs =>
    exact .same (by cases g <;> simp [Takes, hs, Stage.writeComplete]) rfl
  | connected hs | greetedPart hs | greeted hs | repliedPart hs | replied hs | udpConnects hs
  | udpFails hs | notReached hs => exact .same (by simp [Takes, hs]) rfl
  | failed complete =>
    refine .same ?_ rfl
    rintro ⟨hs | hs, _⟩
    · rw [hs] at complete
      cases complete
    · rw [hs] at complete
      cases complete

/-- So does every step. -/
lemma grows_step {u v : World} {e : Event} (ph : Phase u) (conforms : Conforms u e)
    (st : u.step e = some v) : Grows u e v.sent := by
  cases does_of_step ph conforms st with
  | opens | opensNot | connectsAsync | reads | writesNot | parks | closes => exact .same id rfl
  | @completes _ op _ _ pending _ done =>
    have sent := tcpDone_inv done
    cases op with
    | write =>
      have iff := takesBytes_iff done
      constructor
      · intro takes
        exact sent.sent_ne_nil (iff.mp takes.2)
      · intro none
        exact sent.sent_same (fun _ => Int.not_lt.mp fun pos => none ⟨pending, iff.mpr pos⟩)
    | connect | read => exact .same (by simp [Takes, pending]) (sent.sent_same (by simp))
  | goesOn _ _ body turned =>
    have grows := grows_turned body turned
    exact grows
  | waits _ _ body turned =>
    have grows := grows_turned body turned
    exact grows
  | ends _ _ body turned =>
    have grows := grows_turned body turned
    exact grows
  | dies _ connected => exact .same (by simp [Takes, connected]) rfl

/-- How the caller has connected does not change. -/
lemma path_step {u v : World} {e : Event} {p : Path} (ph : Phase u) (conforms : Conforms u e)
    (st : u.step e = some v) (path : u.caller.path = some p) : v.caller.path = some p := by
  cases does_of_step ph conforms st with
  | opens none | opensNot none | connectsAsync none => cases path.symm.trans none
  | reads | writesNot | parks | closes | dies => exact path
  | completes _ _ done => exact (tcpDone_inv done).sameCaller.path.trans path
  | goesOn _ ne _ turned => exact (turned.sameCaller ne).path.trans path
  | waits _ ne _ turned => exact (turned.sameCaller ne).path.trans path
  | ends _ ne _ turned => exact (turned.sameCaller ne).path.trans path

/-- No transcript begins with a byte of zero. -/
lemma Transcript.head?_ne {sent received : List UInt8} (h : Transcript sent received) :
    sent.head? ≠ some 0x00 := by
  intro head
  obtain ⟨rest, rfl⟩ := List.head?_eq_some_iff.mp head
  exact absurd (List.cons_prefix_cons.mp h.messages).1 (by decide)

/-- The invariant of the handshakes. -/
structure Speaks (w : World) : Prop where
  phase : Phase w
  proper : Proper w.talk w.uncounted
  later : Lazy w.talk w.uncounted

/-- Every step keeps the invariants. -/
lemma speaks_step {u v : World} {e : Event} (h : Speaks u) (conforms : Conforms u e)
    (st : u.step e = some v) : Speaks v :=
  ⟨phase_step h.phase conforms st, proper_kept.step h.phase conforms st h.proper,
    lazy_kept.step h.phase conforms st h.later⟩

/-- A step keeps the transcript exactly when it sends in order. -/
lemma transcript_step_iff {u v : World} {e : Event} (h : Speaks u) (conforms : Conforms u e)
    (transcript : Transcript u.sent u.received) (st : u.step e = some v) :
    Transcript v.sent v.received ↔ SendsInOrder u e := by
  have next := speaks_step h conforms st
  obtain ⟨taken, same⟩ := grows_step h.phase conforms st
  have alive := alive_of_step st
  cases path : u.caller.path with
  | none =>
    -- nothing is sent before the connect call
    obtain ⟨calm, state, untouched⟩ := h.phase.of_fresh alive path
    refine iff_of_true (.nil ?_) (by simp [SendsInOrder, path])
    rw [same, untouched.sent]
    cases e with
    | turn => simp [Takes, state]
    | tcpCompletes => simp [Takes, calm.tcpPending]
    | _ => exact id
  | some p =>
    have path' := path_step h.phase conforms st path
    cases p with
    | async => exact iff_of_true (next.proper.2 path').1 (by simp [SendsInOrder, path])
    | sync =>
      obtain datagram | ⟨sent, _⟩ := h.later path
      · exact absurd datagram transcript.head?_ne
      · constructor
        · intro transcript' _ takes
          obtain datagram | ⟨sent', _⟩ := next.later path'
          · exact transcript'.head?_ne datagram
          · exact taken takes sent'
        · intro in_order
          refine .nil ?_
          rw [same (in_order path)]
          exact sent

/-- Among the runs that conform to the interface, those in which only the messages of the handshake are sent, in their
order, are the ones in which nothing is sent in a handshake that a write has started. -/
theorem transcript_iff {proxy : IPEndPoint} {tr : List (World × Event)} {w : World}
    (r : Run World.step (fresh proxy) tr w) (conforms : Guarded Conforms tr) :
    Always (fun w => Transcript w.sent w.received) tr w ↔ Guarded SendsInOrder tr := by
  have init : Speaks (fresh proxy) :=
    ⟨phase_fresh proxy, ⟨trivial, fun path => by cases path⟩, fun path => by cases path⟩
  exact r.always_iff_of_guarded speaks_step transcript_step_iff init (.nil rfl) conforms

/-- A socket that associates as it should. -/
theorem transcript_iff_associates : ∃ w,
    Run World.step (fresh ⟨⟨[10, 0, 0, 1]⟩, 1080⟩)
      (trace World.step (fresh ⟨⟨[10, 0, 0, 1]⟩, 1080⟩) associates) w ∧
    Always (fun w => Transcript w.sent w.received)
      (trace World.step (fresh ⟨⟨[10, 0, 0, 1]⟩, 1080⟩) associates) w := by
  have r : Run World.step (fresh ⟨⟨[10, 0, 0, 1]⟩, 1080⟩) (trace World.step _ associates) _ :=
    Run.of_exec rfl
  exact ⟨_, r, (transcript_iff r (by decide)).mpr (by decide)⟩

/-- A caller connects and writes a byte, and the TCP connection takes what it is given. -/
def writesFirst : List Event := [
  .connect ⟨⟨[10, 0, 0, 2]⟩, 443⟩ OK {}, .write [0x01] 7, .turn (.result 0), .turn .none, .turn (.result 11)]

/-- The datagram goes to the proxy in place of the greeting. -/
theorem transcript_fails :
    ¬ ∀ proxy tr w, Run World.step (fresh proxy) tr w → Guarded Conforms tr →
      Always (fun w => Transcript w.sent w.received) tr w := by
  intro h
  have r : Run World.step (fresh ⟨⟨[10, 0, 0, 1]⟩, 1080⟩) (trace World.step _ writesFirst) _ :=
    Run.of_exec rfl
  exact (h _ _ _ r (by decide)).2.head?_ne (by decide)

end PureCloak.Net
