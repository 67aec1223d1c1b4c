import PureCloak.Net.Assertions

/-!
# The first datagram

A write after a synchronous connect starts the handshake and is to be sent to the relay when that has succeeded.
No datagram is ever sent: the loop does not leave the state of a connected socket, it comes to its `NOTREACHED`
(`delivered_never`).
-/

namespace PureCloak.Net
open Machine

/-- A UDP request of RFC 1928: reserved bytes, no fragment, the type of the address, the address, the port in network
order, and the data. -/
inductive Encapsulates (target : IPEndPoint) (payload : List UInt8) : List UInt8 → Prop where
  | ipv4 :
    target.address.bytes.length = 4 →
    Encapsulates target payload (0x00 :: 0x00 :: 0x00 :: 0x01 :: (target.address.bytes ++
      (target.port >>> 8).toUInt8 :: target.port.toUInt8 :: payload))
  | ipv6 :
    target.address.bytes.length = 16 →
    Encapsulates target payload (0x00 :: 0x00 :: 0x00 :: 0x04 :: (target.address.bytes ++
      (target.port >>> 8).toUInt8 :: target.port.toUInt8 :: payload))

/-- The relay has received one datagram, with the payload. -/
def Delivered (target : IPEndPoint) (payload : List UInt8) (w : World) : Prop :=
  ∃ packet, Encapsulates target payload packet ∧ w.datagrams = [packet]

/-- The first write after `Connect` is given a payload, and the handshake that it starts comes to its end: the UDP
socket is opened and connected to the relay. -/
def Succeeds (target : IPEndPoint) (payload : List UInt8) (tr : List (World × Event)) : Prop :=
  ∃ before after callback, tr.map Prod.snd = before ++ .write payload callback :: after ∧
    (∃ localAddress, .connect target OK localAddress ∈ before) ∧
    (∀ earlier callback, .write earlier callback ∉ before) ∧
    ∃ localAddress, .turn (.udp OK OK localAddress) ∈ after

/-! ## Datagrams -/

/-- An operation that completes sends no datagram. -/
lemma TcpDone.datagrams {w w1 : World} {op : TcpOp} {rv : Int} (h : TcpDone w op w1 rv) :
    w1.datagrams = w.datagrams := by
  cases h <;> rfl

/-- An operation that starts sends no datagram. -/
lemma Started.datagrams {w w1 : World} {op : TcpOp} {rv : Int} (h : Started w op w1 rv) :
    w1.datagrams = w.datagrams := by
  cases h with
  | pending => rfl
  | done h => exact h.datagrams

/-- A turn of the loop sends no datagram. -/
lemma Turned.datagrams {w w1 : World} {rv rv1 : Int} (h : Turned w rv w1 rv1) :
    w1.datagrams = w.datagrams := by
  cases h with
  | connects _ h => exact h.datagrams
  | writes _ _ h => exact h.datagrams
  | reads _ _ h => exact h.datagrams
  | _ => rfl

/-- No step sends a datagram. -/
lemma datagrams_step {u v : World} {e : Event} (ph : Phase u) (conforms : Conforms u e)
    (st : u.step e = some v) : v.datagrams = u.datagrams := by
  cases does_of_step ph conforms st with
  | opens | opensNot | connectsAsync | reads | writesNot | parks | closes | dies => rfl
  | completes _ _ done => exact (tcpDone_inv done).datagrams
  | goesOn _ _ _ turned => exact turned.datagrams
  | waits _ _ _ turned => exact turned.datagrams
  | ends _ _ _ turned => exact turned.datagrams

/-- No run of the handshake has sent one. -/
lemma datagrams_run {proxy : IPEndPoint} {tr : List (World × Event)} {w : World}
    (r : Run World.step (fresh proxy) tr w) (conforms : Guarded Conforms tr) :
    Phase w ∧ w.datagrams = [] := by
  refine r.invariant_guarded (I := fun w => Phase w ∧ w.datagrams = []) ?_ ⟨phase_fresh proxy, rfl⟩ conforms
  intro u e v h c st
  exact ⟨phase_step h.1 c st, (datagrams_step h.1 c st).trans h.2⟩

/-! ## The end of the process -/

/-- The process has ended, or the loop goes on with the state of a connected socket. -/
inductive Doomed (w : World) : Prop where
  | dead :
    w.aborted = true →
    Doomed w
  | dying {frame rv} :
    Phase w →
    w.control = .doLoop frame rv →
    w.nextState = .STATE_CONNECTED →
    Doomed w

/-- The turn that connects the UDP socket leads there. -/
lemma doomed_of_udp {u v : World} {localAddress : IPEndPoint} (ph : Phase u)
    (st : u.step (.turn (.udp OK OK localAddress)) = some v) : Doomed v := by
  have conforms : Conforms u (.turn (.udp OK OK localAddress)) := trivial
  have next := phase_step ph conforms st
  cases does_of_step ph conforms st with
  | goesOn _ _ body turned => exact .dying next rfl ((connected_iff body turned).mpr ⟨_, rfl⟩)
  | waits _ _ body =>
    -- the turn is over at once
    have hs := state_of_udp body
    simp only [World.doLoopBody, hs] at body
    cases body
  | ends _ _ body turned none_next => cases none_next.symm.trans ((connected_iff body turned).mpr ⟨_, rfl⟩)
  | dies => exact .dead rfl

/-- There is nothing to be done any more but to end the process. -/
lemma Doomed.keep {u v : World} {e : Event} (h : Doomed u) (st : u.step e = some v) : Doomed v := by
  have alive := alive_of_step st
  cases h with
  | dead dead => cases alive.symm.trans dead
  | dying ph control connected =>
    simp only [World.step, alive, control] at st
    cases e with
    | turn answer =>
      obtain ⟨busy, fits, none_pending, s⟩ := ph.of_loop alive control
      cases does_turn busy control fits none_pending s st with
      | goesOn _ ne | waits _ ne | ends _ ne => exact absurd connected ne
      | dies => exact .dead rfl
    | _ => cases st

/-- After a handshake that has succeeded no datagram is sent, and where the code comes to rest the process has ended. -/
theorem delivered_never {proxy target : IPEndPoint} {payload : List UInt8} {tr : List (World × Event)} {w : World}
    (r : Run World.step (fresh proxy) tr w) (conforms : Guarded Conforms tr)
    (success : Succeeds target payload tr) :
    ¬ Delivered target payload w ∧ (w.control = .idle → w.aborted = true) := by
  constructor
  · intro delivered
    obtain ⟨packet, _, sent⟩ := delivered
    rw [(datagrams_run r conforms).2] at sent
    cases sent
  · intro idle
    obtain ⟨before, after, callback, events, _, _, localAddress, connects⟩ := success
    have mem : Event.turn (.udp OK OK localAddress) ∈ tr.map Prod.snd := by
      rw [events]
      exact List.mem_append_right _ (List.mem_cons_of_mem _ connects)
    obtain ⟨⟨u, e⟩, hp, rfl⟩ := List.mem_map.mp mem
    obtain ⟨tr1, tr2, v, rfl, r1, st, r2⟩ := r.split hp
    have ph := (datagrams_run r1 (Guarded.append.mp conforms).1).1
    have doomed := r2.invariant (I := Doomed) Doomed.keep (doomed_of_udp ph st)
    cases doomed with
    | dead dead => exact dead
    | dying _ control => cases idle.symm.trans control

/-- A caller connects and writes a byte; the proxy, which has got the datagram in place of a greeting, goes along, and
a byte more than its reply is there. -/
def goesAlong : List Event := [
  .connect ⟨⟨[10, 0, 0, 2]⟩, 443⟩ OK {}, .write [0x01] 7, .turn (.result 0), .turn .none, .turn (.result 11),
  .turn .none, .turn .pending, .tcpCompletes (.bytes [0x05, 0x00]), .turn .none, .turn (.result 10), .turn .none,
  .turn (.bytes [0x05, 0x00, 0x00, 0x01, 127]), .turn .none, .turn (.bytes [0, 0, 1, 0x04, 0x38, 0]), .turn .none,
  .turn (.udp OK OK {}), .turn .none]

/-- The handshake of this run succeeds. -/
lemma succeeds_goesAlong : Succeeds ⟨⟨[10, 0, 0, 2]⟩, 443⟩ [0x01]
    (trace World.step (fresh ⟨⟨[10, 0, 0, 1]⟩, 1080⟩) goesAlong) :=
  ⟨goesAlong.take 1, goesAlong.drop 2, 7, rfl, ⟨{}, .head _⟩, by simp [goesAlong], {}, by simp [goesAlong]⟩

/-- A datagram that goes along with the handshake and is not delivered. -/
theorem delivered_never_goesAlong : ∃ w,
    Run World.step (fresh ⟨⟨[10, 0, 0, 1]⟩, 1080⟩)
      (trace World.step (fresh ⟨⟨[10, 0, 0, 1]⟩, 1080⟩) goesAlong) w ∧
    ¬ Delivered ⟨⟨[10, 0, 0, 2]⟩, 443⟩ [0x01] w ∧ w.aborted = true := by
  have r : Run World.step (fresh ⟨⟨[10, 0, 0, 1]⟩, 1080⟩) (trace World.step _ goesAlong) _ :=
    Run.of_exec rfl
  obtain ⟨never, ended⟩ := delivered_never r (by decide) succeeds_goesAlong
  exact ⟨_, r, never, ended rfl⟩

/-- The process ends, and the relay has received nothing. -/
theorem delivered_fails :
    ¬ ∀ proxy tr w target payload, Run World.step (fresh proxy) tr w → Guarded Conforms tr →
      Succeeds target payload tr → w.control = .idle → Delivered target payload w := by
  intro h
  have r : Run World.step (fresh ⟨⟨[10, 0, 0, 1]⟩, 1080⟩) (trace World.step _ goesAlong) _ :=
    Run.of_exec rfl
  obtain ⟨packet, _, sent⟩ := h _ _ _ _ _ r (by decide) succeeds_goesAlong rfl
  cases sent

end PureCloak.Net
