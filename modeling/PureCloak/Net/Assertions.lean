import PureCloak.Net.Handshake

/-!
# The assertions of the socket

`sound_iff` says in which runs no assertion of the socket fires. A successful handshake is never one of them:
`DoUDPConnect` leaves the state `STATE_CONNECTED`, which the loop does not know.
-/

namespace PureCloak.Net
open Machine

/-- No assertion has fired, and the loop does not go on with the state of a connected socket. -/
def Sound (w : World) : Prop :=
  w.fired = [] ∧ ¬ ∃ frame rv, w.control = .doLoop frame rv ∧ w.nextState = .STATE_CONNECTED

/-- The event is no call of `ConnectAsync`, no read while a write is not completed, and does not connect the UDP socket
to the relay. -/
def Spares (w : World) : Event → Prop
  | .connectAsync _ _ => False
  | .read _ _ => w.caller.writing = false
  | .turn (.udp opened connected _) => ¬ (opened = OK ∧ connected = OK)
  | _ => True

instance (w : World) : (e : Event) → Decidable (Spares w e)
  | .connectAsync _ _ => isFalse id
  | .read _ _ => inferInstanceAs (Decidable (w.caller.writing = false))
  | .turn (.udp opened connected _) => inferInstanceAs (Decidable (¬ (opened = OK ∧ connected = OK)))
  | .turn .none | .turn .pending | .turn (.result _) | .turn (.bytes _) => isTrue trivial
  | .connect _ _ _ | .write _ _ | .close | .udpReads _ | .udpWrites _ | .tcpCompletes _
  | .udpReadCompletes _ | .udpWriteCompletes _ => isTrue trivial

/-! ## The turn that connects -/

/-- Only one state asks for the UDP socket to be connected. -/
lemma state_of_udp {w : World} {rv opened connected : Int} {localAddress : IPEndPoint} {r : World × Int}
    (h : w.doLoopBody rv (.udp opened connected localAddress) = some r) :
    w.nextState = .STATE_UDP_CONNECT := by
  cases hs : w.nextState with
  | STATE_UDP_CONNECT => rfl
  | _ =>
    simp only [World.doLoopBody, hs] at h
    cases h

/-- A turn comes to the state of a connected socket exactly when the UDP socket is opened and connected. -/
lemma connected_iff {w w1 : World} {rv rv1 : Int} {answer : Answer}
    (body : w.doLoopBody rv answer = some (w1, rv1)) (turned : Turned w rv w1 rv1) :
    w1.nextState = .STATE_CONNECTED ↔ ∃ localAddress, answer = .udp OK OK localAddress := by
  constructor
  · intro e
    cases turned with
    | connects _ started => cases started.nextState.symm.trans e
    | writes g _ started => cases g <;> cases started.nextState.symm.trans e
    | reads g _ started => cases g <;> cases started.nextState.symm.trans e
    | wrotePart g | wrote g => cases g <;> cases e
    | udpConnects hs =>
      simp only [World.doLoopBody, hs] at body
      cases answer with
      | udp opened connected localAddress =>
        simp only [World.doUDPConnect] at body
        split at body
        · cases body
        · split at body
          · simp at body
          case isFalse opened_ok =>
            split at body
            · simp at body
            case isFalse connected_ok =>
              rw [not_not.mp opened_ok, not_not.mp connected_ok]
              exact ⟨_, rfl⟩
      | _ => cases body
    | _ => cases e
  · rintro ⟨localAddress, rfl⟩
    have hs := state_of_udp body
    simp only [World.doLoopBody, hs] at body
    cases body
    rfl

/-- A turn spares the assertions unless it connects the datagram socket. -/
lemma spares_turn_iff {w : World} {answer : Answer} :
    Spares w (.turn answer) ↔ ¬ ∃ localAddress, answer = .udp OK OK localAddress := by
  cases answer with
  | udp opened connected localAddress => simp [Spares]
  | _ => simp [Spares]

/-- A step keeps them sound exactly when it spares them. -/
lemma sound_step_iff {u v : World} {e : Event} (ph : Phase u) (conforms : Conforms u e) (sound : Sound u)
    (st : u.step e = some v) : Sound v ↔ Spares u e := by
  obtain ⟨fired, not_connected⟩ := sound
  have alive := alive_of_step st
  -- nothing fires where the loop is left
  have idle {w : World} (control : w.control = .idle) (same : w.fired = []) : Sound w :=
    ⟨same, fun ⟨_, _, looping, _⟩ => by cases control.symm.trans looping⟩
  cases does_of_step ph conforms st with
  | opens path =>
    obtain ⟨calm, _⟩ := ph.of_fresh alive path
    exact iff_of_true (idle calm.control fired) trivial
  | opensNot path =>
    obtain ⟨calm, _⟩ := ph.of_fresh alive path
    exact iff_of_true (idle calm.control fired) trivial
  | connectsAsync path =>
    refine iff_of_false ?_ id
    rintro ⟨none_fired, _⟩
    simp at none_fired
  | reads same fires =>
    cases writing : u.caller.writing with
    | false => exact iff_of_true ⟨(same writing).trans fired, not_connected⟩ writing
    | true => exact iff_of_false (fun h => fires writing h.1) (by simp [Spares, writing])
  | writesNot => exact iff_of_true ⟨fired, not_connected⟩ trivial
  | parks calm ready path =>
    refine iff_of_true ⟨fired, ?_⟩ trivial
    rintro ⟨_, _, _, connected⟩
    cases ready.symm.trans connected
  | closes control => exact iff_of_true (idle control fired) trivial
  | completes pending state done =>
    have done := tcpDone_inv done
    refine iff_of_true ⟨done.sameCaller.fired.trans fired, ?_⟩ trivial
    rintro ⟨_, _, _, connected⟩
    exact State.ne_of_pendingOp state rfl (done.nextState.symm.trans connected)
  | goesOn control ne body turned =>
    rw [spares_turn_iff, ← connected_iff body turned]
    constructor
    · rintro ⟨_, h⟩ connected
      exact h ⟨_, _, rfl, connected⟩
    · intro h
      refine ⟨(turned.sameCaller ne).fired.trans fired, ?_⟩
      rintro ⟨_, _, _, connected⟩
      exact h connected
  | waits control ne body turned =>
    rw [spares_turn_iff, ← connected_iff body turned]
    refine iff_of_true (idle rfl ((turned.sameCaller ne).fired.trans fired)) ?_
    obtain ⟨_, _, none_pending, s⟩ := ph.of_loop alive control
    cases turned.outcome s ne none_pending with
    | waits _ waiting => exact State.ne_of_pendingOp waiting.state rfl
    | goesOn _ steady => exact absurd rfl steady.notPending
    | ends not_pending => exact absurd rfl not_pending
  | ends control ne body turned none_next =>
    rw [spares_turn_iff, ← connected_iff body turned]
    refine iff_of_true (idle rfl ((turned.sameCaller ne).fired.trans fired)) ?_
    simp [none_next]
  | dies control connected => exact absurd ⟨_, _, control, connected⟩ not_connected

/-! ## Runs -/

/-- Among the runs that conform to the interface, those in which no assertion fires are the ones without a call of
`ConnectAsync`, without a read during a write, and without a connection to the relay. -/
theorem sound_iff {proxy : IPEndPoint} {tr : List (World × Event)} {w : World}
    (r : Run World.step (fresh proxy) tr w) (conforms : Guarded Conforms tr) :
    Always Sound tr w ↔ Guarded Spares tr := by
  have init : Sound (fresh proxy) := ⟨rfl, fun ⟨_, _, looping, _⟩ => by cases looping⟩
  exact r.always_iff_of_guarded phase_step sound_step_iff (phase_fresh proxy) init conforms

/-- The proxy refuses the connection. -/
def refused : List Event := [
  .connect ⟨⟨[10, 0, 0, 2]⟩, 443⟩ OK {}, .write [0x01] 7, .turn .pending, .tcpCompletes (.result (-102)),
  .turn .none]

/-- A handshake that the proxy refuses. -/
theorem sound_iff_refused : ∃ w,
    Run World.step (fresh ⟨⟨[10, 0, 0, 1]⟩, 1080⟩)
      (trace World.step (fresh ⟨⟨[10, 0, 0, 1]⟩, 1080⟩) refused) w ∧
    Always Sound (trace World.step (fresh ⟨⟨[10, 0, 0, 1]⟩, 1080⟩) refused) w := by
  have r : Run World.step (fresh ⟨⟨[10, 0, 0, 1]⟩, 1080⟩) (trace World.step _ refused) _ :=
    Run.of_exec rfl
  exact ⟨_, r, (sound_iff r (by decide)).mpr (by decide)⟩

/-- `ConnectAsync` asserts that it has a callback before it is given one. -/
theorem sound_fails :
    ¬ ∀ proxy tr w, Run World.step (fresh proxy) tr w → Guarded Conforms tr → Always Sound tr w := by
  intro h
  have r : Run World.step (fresh ⟨⟨[10, 0, 0, 1]⟩, 1080⟩)
      (trace World.step _ [.connectAsync ⟨⟨[10, 0, 0, 2]⟩, 443⟩ 1]) _ := Run.of_exec rfl
  have sound := (h _ _ _ r (by decide)).2
  exact absurd sound.1 (by decide)

end PureCloak.Net
