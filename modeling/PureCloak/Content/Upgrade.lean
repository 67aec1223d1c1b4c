import PureCloak.Content.CommandPipeline
import PureCloak.Library.HttpHead

/-!
# The upgrade to WebSocket

What `WebSocketHandshake` takes for an upgrade, and what it leaves for `ReadFrame`. It should take a head with the
status 101 and an `Upgrade` field, and nothing behind it (`HandshakeExact`). It looks for two words in all that has been
received with the last call of `recv`, which may be more than the head, and what is behind the head is gone
(`webSocketHandshake_headed`); `handshakeExact_iff` says on which streams that makes no difference.
-/

namespace PureCloak.Content
open PureCloak.Base WebSocket Segments HttpHead

/-- A head with the status 101 and the field `Upgrade: websocket`, in any case. -/
def switchingHead (head : Bytes) : Bool :=
  match lines head with
  | status :: fields =>
    isStatus isHttpVersion (ascii "101") status && fields.any (isField (ascii "upgrade") (ascii "websocket"))
  | [] => false

/-- A stream begins with an upgrade. -/
structure Upgrades (head stream : Bytes) : Prop where
  front : Through blankLine head stream
  short : head.length ≤ 8192
  switches : switchingHead head = true

/-- What has been received when the head is whole. -/
def receivedWith (head : Bytes) (inbound : List Bytes) : Bytes :=
  (arrived inbound).take (extent 1024 head.length inbound)

/-- One more read of the head. -/
lemma readHead_step {rounds : Nat} {response : Bytes} {inbound : List Bytes} (missing : ¬ headEnd <:+: response)
    (something : (Segments.read 1024 inbound).1 ≠ []) :
    readHead (rounds + 1) response inbound =
      if 8192 < (response ++ (Segments.read 1024 inbound).1).length then (none, (Segments.read 1024 inbound).2)
      else readHead rounds (response ++ (Segments.read 1024 inbound).1) (Segments.read 1024 inbound).2 := by
  rw [readHead, if_neg (fun found => missing (findBytes_isSome.mp found))]
  exact if_neg (fun empty => something (List.isEmpty_iff.mp empty))

/-- The loop reads to the end of the call that brings the end of the head. -/
lemma readHead_headed {rounds : Nat} {response head : Bytes} {inbound : List Bytes}
    (h : Through headEnd head (response ++ arrived inbound)) (short : response.length ≤ 8192)
    (enough : 8194 ≤ rounds + response.length) :
    (response.length + extent 1024 (head.length - response.length) inbound ≤ 8192 →
      ∃ rest, readHead rounds response inbound =
        (some (response ++ (arrived inbound).take (extent 1024 (head.length - response.length) inbound)), rest) ∧
        After (extent 1024 (head.length - response.length) inbound) inbound rest) ∧
    (8192 < response.length + extent 1024 (head.length - response.length) inbound →
      (readHead rounds response inbound).1 = none) := by
  induction rounds generalizing response inbound with
  | zero => omega
  | succ rounds ih =>
    by_cases whole : head.length ≤ response.length
    · have found : (findBytes headEnd response).isSome :=
        findBytes_isSome.mpr ((h.infix_iff (List.prefix_append _ _)).mpr whole)
      rw [Nat.sub_eq_zero_of_le whole, extent_zero, readHead, if_pos found, List.take_zero, List.append_nil]
      exact ⟨fun _ => ⟨inbound, rfl, .zero inbound⟩, fun long => absurd long (Nat.not_lt_of_le short)⟩
    · have missing : ¬ headEnd <:+: response := fun found => whole ((h.infix_iff (List.prefix_append _ _)).mp found)
      have something : (Segments.read 1024 inbound).1 ≠ [] := by
        intro nothing
        have length := h.front.length_le
        rw [List.length_append, arrived_of_read_nil (by decide) nothing, List.length_nil] at length
        omega
      have one := extent_read (by decide : 0 < 1024) (Nat.sub_pos_of_lt (Nat.lt_of_not_le whole)) something
      obtain ⟨arr, flat⟩ := arrived_read something
      have skipped := read_skip something
      have pos := List.length_pos_iff.mpr something
      rw [readHead_step missing something, one]
      generalize Segments.read 1024 inbound = got at *
      obtain ⟨buf, rest⟩ := got
      dsimp only at one arr flat pos something ⊢
      rw [show head.length - response.length - buf.length = head.length - (response.length + buf.length) from by omega]
      by_cases long : 8192 < (response ++ buf).length
      · rw [if_pos long]
        rw [List.length_append] at long
        exact ⟨fun le => by omega, fun _ => rfl⟩
      · rw [if_neg long]
        obtain ⟨fits, longer⟩ := @ih (response ++ buf) rest
          (by rw [List.append_assoc, ← arr]; exact h) (Nat.le_of_not_lt long)
          (by rw [List.length_append]; omega)
        rw [List.length_append, Nat.add_assoc] at fits longer
        refine ⟨fun le => ?_, longer⟩
        obtain ⟨last, eq, after⟩ := fits le
        refine ⟨last, ?_, ?_⟩
        · rw [eq, arr, List.take_length_add_append, List.append_assoc]
        · have first : After buf.length inbound rest :=
            ⟨skipped, by rw [arr, List.drop_left], by rw [flat, List.drop_left]⟩
          exact first.trans after

/-- Without a head the loop fails. -/
lemma readHead_headless {rounds : Nat} {response : Bytes} {inbound : List Bytes}
    (h : ¬ headEnd <:+: response ++ arrived inbound) : (readHead rounds response inbound).1 = none := by
  induction rounds generalizing response inbound with
  | zero => rfl
  | succ rounds ih =>
    have missing : ¬ headEnd <:+: response := fun found => h (found.trans (List.prefix_append _ _).isInfix)
    by_cases something : (Segments.read 1024 inbound).1 = []
    · rw [readHead, if_neg (fun found => missing (findBytes_isSome.mp found))]
      exact congrArg Prod.fst (if_pos (List.isEmpty_iff.mpr something))
    · rw [readHead_step missing something]
      split_ifs
      · rfl
      · apply ih
        rw [List.append_assoc, ← (arrived_read something).1]
        exact h

/-! ## The handshake -/

/-- The request could be sent. -/
def Socket.requests (s : Socket) (port : Int) (path key : String) : Bool :=
  (s.sendAll (upgradeRequest port path key)).1

/-- When the request is sent, the answer is that of the test on what the loop has read. -/
lemma webSocketHandshake_requests {s : Socket} {port : Int} {path key : String}
    (sent : s.requests port path key = true) :
    (s.webSocketHandshake port path key).1 = ((readHead 8194 [] s.inbound).1.map switchesProtocols).getD false ∧
    (s.webSocketHandshake port path key).2.inbound = (readHead 8194 [] s.inbound).2 := by
  have sent : (s.sendAll (upgradeRequest port path key)).1 = true := sent
  have inbound : (s.sendAll (upgradeRequest port path key)).2.inbound = s.inbound := rfl
  rw [Socket.webSocketHandshake]
  simp only [sent, inbound, Bool.not_true, Bool.false_eq_true, ↓reduceIte, and_self]

/-- A request that cannot be sent is no upgrade. -/
lemma webSocketHandshake_unsent {s : Socket} {port : Int} {path key : String}
    (unsent : ¬ s.requests port path key = true) :
    (s.webSocketHandshake port path key).1 = false := by
  have unsent : (s.sendAll (upgradeRequest port path key)).1 = false := Bool.eq_false_iff.mpr unsent
  rw [Socket.webSocketHandshake]
  simp only [unsent, Bool.not_false, ↓reduceIte]

/-- How much was received is up to the segments. -/
lemma length_receivedWith (head : Bytes) (inbound : List Bytes) :
    (receivedWith head inbound).length = extent 1024 head.length inbound :=
  List.length_take_of_le (extent_le _ _ _)

/-- With a head the answer depends on all that has been received with the end of it, and that is gone. -/
lemma webSocketHandshake_headed {s : Socket} {port : Int} {path key : String} {head : Bytes}
    (sent : s.requests port path key = true) (h : Through blankLine head (arrived s.inbound)) :
    ((s.webSocketHandshake port path key).1 = true ↔
      (receivedWith head s.inbound).length ≤ 8192 ∧ switchesProtocols (receivedWith head s.inbound) = true) ∧
    ((s.webSocketHandshake port path key).1 = true →
      After (receivedWith head s.inbound).length s.inbound (s.webSocketHandshake port path key).2.inbound) := by
  obtain ⟨answer, inbound⟩ := webSocketHandshake_requests sent
  obtain ⟨fits, longer⟩ := @readHead_headed 8194 [] head s.inbound h (Nat.zero_le _) (Nat.le_refl _)
  rw [List.length_nil, Nat.sub_zero, Nat.zero_add] at fits longer
  rw [answer, inbound, length_receivedWith]
  by_cases short : extent 1024 head.length s.inbound ≤ 8192
  · obtain ⟨rest, eq, after⟩ := fits short
    rw [eq]
    exact ⟨⟨fun yes => ⟨short, yes⟩, And.right⟩, fun _ => after⟩
  · rw [longer (Nat.lt_of_not_le short)]
    exact ⟨⟨fun yes => absurd yes Bool.false_ne_true, fun both => absurd both.1 short⟩,
      fun yes => absurd yes Bool.false_ne_true⟩

/-- The handshake succeeds on the streams that begin with an upgrade, and takes that and no more. -/
def HandshakeExact (s : Socket) (port : Int) (path key : String) : Prop :=
  ((s.webSocketHandshake port path key).1 = true ↔
    s.requests port path key = true ∧ ∃ head, Upgrades head (arrived s.inbound)) ∧
  ((s.webSocketHandshake port path key).1 = true →
    ∃ head, Upgrades head (arrived s.inbound) ∧
      After head.length s.inbound (s.webSocketHandshake port path key).2.inbound)

/-- An upgrade comes alone, with the word `Upgrade` in this case of its letters; and with any other head comes too much,
or something in which one of the two words is missing. -/
def ComesClear (inbound : List Bytes) : Prop :=
  ∀ head, Through blankLine head (arrived inbound) →
    if head.length ≤ 8192 ∧ switchingHead head = true then
      receivedWith head inbound = head ∧ utf8 "Upgrade" <:+: head
    else 8192 < (receivedWith head inbound).length ∨ switchesProtocols (receivedWith head inbound) = false

/-- The status of an upgrade is one of the two words. -/
lemma switchingHead_code {head : Bytes} (h : switchingHead head = true) : utf8 "101" <:+: head := by
  obtain ⟨line, more, eq, front⟩ := lines_front head
  rw [switchingHead, eq] at h
  exact (isStatus_code (Bool.and_eq_true_iff.mp h).1).trans front.isInfix

/-- The two words are looked for. -/
lemma switchesProtocols_iff (response : Bytes) :
    switchesProtocols response = true ↔ utf8 "101" <:+: response ∧ utf8 "Upgrade" <:+: response := by
  rw [switchesProtocols, Bool.and_eq_true, findBytes_isSome, findBytes_isSome]

/-- A head that upgrades is taken exactly when nothing came behind it and the word is spelled so. -/
lemma handshakeExact_upgrades {s : Socket} {port : Int} {path key : String} {head : Bytes}
    (sent : s.requests port path key = true) (h : Upgrades head (arrived s.inbound)) :
    HandshakeExact s port path key ↔ receivedWith head s.inbound = head ∧ utf8 "Upgrade" <:+: head := by
  obtain ⟨answer, left⟩ := webSocketHandshake_headed sent h.front
  refine ⟨fun exactly => ?_, fun ⟨alone, word⟩ => ?_⟩
  · have yes := exactly.1.mpr ⟨sent, head, h⟩
    obtain ⟨head', h', after⟩ := exactly.2 yes
    obtain rfl := h.front.unique h'.front
    have received : receivedWith head s.inbound <+: arrived s.inbound := List.take_prefix _ _
    have same : (receivedWith head s.inbound).length = head.length := by
      have lengths := (left yes).length.symm.trans after.length
      have le := received.length_le
      have le' := h.front.front.length_le
      omega
    have alone := (List.prefix_of_prefix_length_le received h.front.front (Nat.le_of_eq same)).eq_of_length same
    exact ⟨alone, alone ▸ ((switchesProtocols_iff _).mp (answer.mp yes).2).2⟩
  · rw [alone] at answer left
    have yes := answer.mpr ⟨h.short, (switchesProtocols_iff _).mpr ⟨switchingHead_code h.switches, word⟩⟩
    exact ⟨⟨fun _ => ⟨sent, head, h⟩, fun _ => yes⟩, fun _ => ⟨head, h, left yes⟩⟩

/-- A stream that begins with no upgrade, or a request that is not sent. -/
lemma handshakeExact_refuses {s : Socket} {port : Int} {path key : String}
    (none_begins : ¬ (s.requests port path key = true ∧ ∃ head, Upgrades head (arrived s.inbound))) :
    HandshakeExact s port path key ↔ (s.webSocketHandshake port path key).1 = false := by
  refine ⟨fun exactly => ?_, fun no => ?_⟩
  · exact Bool.eq_false_iff.mpr fun yes => none_begins (exactly.1.mp yes)
  · rw [HandshakeExact, no]
    exact ⟨⟨fun yes => absurd yes Bool.false_ne_true, fun both => absurd both none_begins⟩,
      fun yes => absurd yes Bool.false_ne_true⟩

/-- The handshake is exact when the request cannot be sent, and else on the streams that come clear. -/
theorem handshakeExact_iff (s : Socket) (port : Int) (path key : String) :
    HandshakeExact s port path key ↔ (s.requests port path key = true → ComesClear s.inbound) := by
  by_cases sent : s.requests port path key = true
  · by_cases found : blankLine <:+: arrived s.inbound
    · obtain ⟨head, front⟩ := exists_through found (by decide)
      obtain ⟨answer, _⟩ := webSocketHandshake_headed sent front
      have only : ComesClear s.inbound ↔ _ :=
        ⟨fun clear => clear head front, fun clear head' front' => front.unique front' ▸ clear⟩
      rw [only]
      split_ifs with upgrade
      · rw [handshakeExact_upgrades sent ⟨front, upgrade.1, upgrade.2⟩]
        exact ⟨fun clear _ => clear, fun clear => clear sent⟩
      · rw [handshakeExact_refuses, Bool.eq_false_iff, Ne, answer, not_and_or, Nat.not_le, Bool.not_eq_true]
        · exact ⟨fun clear _ => clear, fun clear => clear sent⟩
        · intro ⟨_, head', h⟩
          obtain rfl := front.unique h.front
          exact upgrade ⟨h.short, h.switches⟩
    · have no : (s.webSocketHandshake port path key).1 = false := by
        rw [(webSocketHandshake_requests sent).1, @readHead_headless 8194 [] s.inbound found]
        rfl
      refine iff_of_true ((handshakeExact_refuses ?_).mpr no) fun _ head front => absurd front.found found
      intro ⟨_, head, h⟩
      exact found h.front.found
  · refine iff_of_true ((handshakeExact_refuses ?_).mpr (webSocketHandshake_unsent sent)) fun yes => absurd yes sent
    exact fun both => sent both.1

/-- A server whose upgrade comes together with the first bytes of a frame. -/
def eagerServer : Socket :=
  Socket.connect { fd := 8, inbound := [pageHead ++ [129, 0]] }

/-- A server that refuses, with the two words in its head. -/
def refusingServer : Socket :=
  Socket.connect { fd := 8, inbound := [utf8 "HTTP/1.1 426 Upgrade Required\r\nContent-Length: 101\r\n\r\n"] }

/-- The bytes of the frame are gone, and the refusal is taken for an upgrade. -/
theorem handshakeExact_fails :
    ¬ HandshakeExact eagerServer 9333 "/" "" ∧ ¬ HandshakeExact refusingServer 9333 "/" "" := by
  refine ⟨fun exactly => ?_, fun exactly => ?_⟩
  · have upgrades : Upgrades pageHead (arrived eagerServer.inbound) := ⟨by decide, by decide, by decide⟩
    have alone := ((handshakeExact_upgrades (by decide) upgrades).mp exactly).1
    exact absurd alone (by decide)
  · obtain ⟨_, head, upgrades⟩ := exactly.1.mp (by decide)
    have whole : Through blankLine (arrived refusingServer.inbound) (arrived refusingServer.inbound) := by decide
    have refused : switchingHead (arrived refusingServer.inbound) = false := by decide
    rw [whole.unique upgrades.front, upgrades.switches] at refused
    cases refused

end PureCloak.Content
