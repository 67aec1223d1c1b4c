import PureCloak.Content.FrameCodec
import Mathlib.Data.List.Iterate

/-!
# Where calls of `ReadFrame` begin

The calls of `ReadFrame` that `SendCommands` makes follow on one another on the bytes of the server, and where
the stream is a sequence of frames, each should begin at a frame. A call that begins at one leaves the stream
at one when it takes the whole frame or nothing (`atBoundary_next_iff`); it takes a part of it when a call of
`recv` gives nothing in the middle, when it is a close frame with a payload and when the payload is too long.
-/

namespace PureCloak.Content
open PureCloak.Base WebSocket Segments

/-! ## Frame boundaries -/

/-- The stream goes on with one of the frames, or is at its end. -/
def AtBoundary (frames : List Frame) (inbound : List Bytes) : Prop :=
  ∃ k, k ≤ frames.length ∧ inbound.flatten = Frame.encodeAll (frames.drop k)

instance (frames : List Frame) (inbound : List Bytes) : Decidable (AtBoundary frames inbound) :=
  inferInstanceAs (Decidable (∃ k, k ≤ frames.length ∧ _))

/-- The frame at the front arrives whole and is one that `ReadFrame` takes whole, or nothing arrives. -/
def KeepsInStep (frames : List Frame) (inbound : List Bytes) : Prop :=
  arrived inbound = [] ∨
    ∃ k f, frames[k]? = some f ∧ inbound.flatten = Frame.encodeAll (frames.drop k) ∧
      f.encode.length ≤ (arrived inbound).length ∧ Whole f

/-- What a call of `ReadFrame` leaves. -/
def next (inbound : List Bytes) : List Bytes :=
  (readFrame inbound).2

/-- A frame has two bytes at least. -/
lemma two_le_length_encode (f : Frame) : 2 ≤ f.encode.length := by
  rw [Frame.length_encode, Frame.length_header]
  omega

/-- No more is wanted than the frame has. -/
lemma wanted_le (f : Frame) : wanted f ≤ f.encode.length := by
  have two := two_le_length_encode f
  unfold wanted
  split_ifs
  · exact two
  · rw [Frame.length_encode, Frame.length_header]
    omega
  · exact Nat.le_refl _

/-- All bytes are wanted exactly of frames that are read whole. -/
lemma wanted_eq_iff (f : Frame) : wanted f = f.encode.length ↔ Whole f := by
  refine ⟨fun h => ?_, Whole.wanted⟩
  unfold wanted at h
  split_ifs at h with close big
  · refine ⟨?_, fun _ => h.symm⟩
    have empty := (Frame.length_encode_eq_two.mp h.symm).1
    rw [empty]
    exact Nat.zero_le _
  · rw [Frame.length_encode, Frame.length_header] at h
    omega
  · exact ⟨Nat.le_of_not_gt big, fun e => absurd e close⟩

/-- The stream from a frame on. -/
lemma encodeAll_drop {frames : List Frame} {k : Nat} {f : Frame} (h : frames[k]? = some f) :
    Frame.encodeAll (frames.drop k) = f.encode ++ Frame.encodeAll (frames.drop (k + 1)) := by
  obtain ⟨lt, rfl⟩ := List.getElem?_eq_some_iff.mp h
  rw [List.drop_eq_getElem_cons lt, Frame.encodeAll_cons]

/-- There is less of a stream the later it begins. -/
lemma length_encodeAll_antitone (frames : List Frame) {j k : Nat} (h : j ≤ k) :
    (Frame.encodeAll (frames.drop k)).length ≤ (Frame.encodeAll (frames.drop j)).length := by
  obtain ⟨d, rfl⟩ := Nat.exists_eq_add_of_le h
  have parts : frames.drop j = (frames.drop j).take d ++ frames.drop (j + d) := by
    rw [← List.drop_drop, List.take_append_drop]
  rw [parts, Frame.encodeAll_append, List.length_append]
  exact Nat.le_add_left _ _

/-- Nowhere inside of a frame is a boundary. -/
lemma atBoundary_inside {frames : List Frame} {k n : Nat} {f : Frame} {inbound : List Bytes}
    (h : frames[k]? = some f) (le : n ≤ f.encode.length)
    (e : inbound.flatten = (Frame.encodeAll (frames.drop k)).drop n) :
    AtBoundary frames inbound ↔ n = 0 ∨ n = f.encode.length := by
  have klt : k < frames.length := (List.getElem?_eq_some_iff.mp h).1
  have parts := encodeAll_drop h
  have len : inbound.flatten.length + n = f.encode.length + (Frame.encodeAll (frames.drop (k + 1))).length := by
    rw [e, parts, List.length_drop, List.length_append]
    omega
  constructor
  · rintro ⟨j, _, ej⟩
    rw [ej] at len
    rcases Nat.lt_or_ge k j with lt | ge
    · have := length_encodeAll_antitone frames (j := k + 1) lt
      exact .inr (by omega)
    · have := length_encodeAll_antitone frames ge
      rw [parts, List.length_append] at this
      exact .inl (by omega)
  · rintro (rfl | rfl)
    · exact ⟨k, by omega, e⟩
    · refine ⟨k + 1, klt, ?_⟩
      rw [e, parts, List.drop_left]

/-- Two boundaries with the same rest of the stream are one. -/
lemma frame_unique {frames : List Frame} {j k : Nat} {f g : Frame} (hf : frames[j]? = some f)
    (hg : frames[k]? = some g) (e : Frame.encodeAll (frames.drop j) = Frame.encodeAll (frames.drop k)) :
    f = g := by
  have pf := two_le_length_encode f
  have pg := two_le_length_encode g
  have lf := congrArg List.length (encodeAll_drop hf)
  have lg := congrArg List.length (encodeAll_drop hg)
  have le := congrArg List.length e
  rw [List.length_append] at lf lg
  rcases Nat.lt_trichotomy j k with lt | rfl | lt
  · have := length_encodeAll_antitone frames (j := j + 1) lt
    omega
  · exact Option.some.inj (hf.symm.trans hg)
  · have := length_encodeAll_antitone frames (j := k + 1) lt
    omega

/-- A call that finds nothing leaves the stream where it is. -/
lemma next_of_nothing {inbound : List Bytes} (h : arrived inbound = []) :
    (next inbound).flatten = inbound.flatten := by
  have lt : (arrived inbound).length < 2 := by
    rw [h]
    exact Nat.zero_lt_two
  obtain ⟨rest, eq, flat⟩ := readAll_of_lt lt
  have eq : recvAll 2 inbound = (none, rest) := eq
  rw [next, readFrame, eq, flat, h]
  rfl

/-- From one boundary a call goes to another one exactly when it takes the frame whole, or nothing. -/
lemma atBoundary_next_iff {frames : List Frame} {inbound : List Bytes} (h : AtBoundary frames inbound) :
    AtBoundary frames (next inbound) ↔ KeepsInStep frames inbound := by
  by_cases nothing : arrived inbound = []
  · refine iff_of_true ?_ (.inl nothing)
    unfold AtBoundary
    rw [next_of_nothing nothing]
    exact h
  obtain ⟨k, kle, e⟩ := h
  have pos : 0 < (arrived inbound).length := List.length_pos_iff.mpr nothing
  have klt : k < frames.length := by
    rcases Nat.lt_or_eq_of_le kle with lt | rfl
    · exact lt
    · rw [List.drop_length, Frame.encodeAll_nil] at e
      have := (arrived_isPrefix inbound).length_le
      rw [e, List.length_nil] at this
      omega
  have hf : frames[k]? = some frames[k] := List.getElem?_eq_getElem klt
  generalize frames[k] = f at hf
  have le := wanted_le f
  have keeps : KeepsInStep frames inbound ↔ f.encode.length ≤ (arrived inbound).length ∧ Whole f := by
    constructor
    · rintro (nil | ⟨j, g, hg, ej, rest⟩)
      · exact absurd nil nothing
      · rw [frame_unique hf hg (e.symm.trans ej)]
        exact rest
    · exact fun both => .inr ⟨k, f, hf, e, both⟩
  rw [keeps]
  have parts := e.trans (encodeAll_drop hf)
  rcases readFrame_spec parts with ⟨wle, rest, eq, after⟩ | ⟨lt, rest, eq, breaks⟩
  · have eq : next inbound = rest := by rw [next, eq]
    rw [eq, atBoundary_inside hf le (e ▸ after.flatten), wanted_eq_iff]
    have two := two_le_wanted f
    constructor
    · rintro (zero | whole)
      · omega
      · exact ⟨whole.wanted ▸ wle, whole⟩
    · exact fun both => .inr both.2
  · have eq : next inbound = rest := by rw [next, eq]
    rw [eq, atBoundary_inside hf (Nat.le_trans (Nat.le_of_lt lt) le) (e ▸ breaks)]
    constructor
    · rintro (zero | whole) <;> omega
    · rintro ⟨whole, _⟩
      omega

/-- Every call begins at a frame, when all of them but the last keep in step. -/
lemma iterate_atBoundary_iff {frames : List Frame} {inbound : List Bytes} (h : AtBoundary frames inbound) (n : Nat) :
    (∀ s ∈ List.iterate next inbound (n + 1), AtBoundary frames s) ↔
      ∀ s ∈ List.iterate next inbound n, KeepsInStep frames s := by
  induction n generalizing inbound with
  | zero => simp [h]
  | succ n ih =>
    have cons : ∀ m, List.iterate next inbound (m + 1) = inbound :: List.iterate next (next inbound) m :=
      fun _ => rfl
    rw [cons (n + 1), cons n, List.forall_mem_cons, List.forall_mem_cons, ← atBoundary_next_iff h]
    constructor
    · rintro ⟨_, rest⟩
      have here : AtBoundary frames (next inbound) := rest _ (by simp [List.iterate])
      exact ⟨here, (ih here).mp rest⟩
    · rintro ⟨here, rest⟩
      exact ⟨h, (ih here).mpr rest⟩

/-! ## The calls of `SendCommands` -/

/-- What the calls of `ReadFrame` on a socket found before them. -/
def readCalls (trace : List Exchange) : List (List Bytes) :=
  trace.filterMap fun
    | .readFrame inbound _ => some inbound
    | .sendFrame _ _ => none

/-- Between two states of a socket there were some calls of `ReadFrame`. -/
def Reading (s t : Socket) : Prop :=
  ∃ n, t.inbound = next^[n] s.inbound ∧ readCalls t.trace = readCalls s.trace ++ List.iterate next s.inbound n

/-- Nothing is read by doing nothing. -/
lemma Reading.refl (s : Socket) : Reading s s :=
  ⟨0, rfl, (List.append_nil _).symm⟩

/-- Two steps of reading are one. -/
lemma Reading.trans {s t u : Socket} (h1 : Reading s t) (h2 : Reading t u) : Reading s u := by
  obtain ⟨n, in1, calls1⟩ := h1
  obtain ⟨m, in2, calls2⟩ := h2
  refine ⟨n + m, ?_, ?_⟩
  · rw [in2, in1, Nat.add_comm, Function.iterate_add_apply]
  · rw [calls2, calls1, in1, List.append_assoc, List.iterate_add]

/-- Sending reads nothing. -/
lemma reading_sendFrame (s : Socket) (mask : Mask) (payload : Bytes) :
    Reading s (s.sendFrame mask payload).2 := by
  refine ⟨0, rfl, ?_⟩
  rw [sendFrame_trace]
  simp [readCalls]

/-- One call of `ReadFrame`. -/
lemma reading_readFrame (s : Socket) : Reading s s.readFrame.2 := by
  refine ⟨1, rfl, ?_⟩
  simp [Socket.readFrame, readCalls]

/-- The handshake notes no frame. -/
lemma webSocketHandshake_trace (s : Socket) (port : Int) (path key : String) :
    (s.webSocketHandshake port path key).2.trace = s.trace := by
  unfold Socket.webSocketHandshake
  dsimp only
  split_ifs <;> rfl

section
variable [JSONReader]

/-- Waiting for a response only reads frames. -/
lemma reading_awaitResponse (id : Int32) (retries : Nat) (s : Socket) :
    Reading s (awaitResponse id retries s).2 := by
  induction retries generalizing s with
  | zero => exact .refl s
  | succ retries ih =>
    have one := reading_readFrame s
    have more := one.trans (ih s.readFrame.2)
    unfold awaitResponse
    dsimp only
    split_ifs
    · exact more
    · split
      · split_ifs
        · exact one
        · exact more
      · exact more

/-- Sending the commands only reads frames, besides. -/
lemma reading_sendEach (masks : Nat → Mask) (i : Nat) (commands : List (Bytes × Int32)) (s : Socket) :
    Reading s (sendEach masks i commands s).2 := by
  induction commands generalizing i s with
  | nil => exact .refl s
  | cons command commands ih =>
    obtain ⟨json, id⟩ := command
    have sent := reading_sendFrame s (masks i) json
    unfold sendEach
    dsimp only
    split_ifs
    · exact sent
    · exact sent.trans ((reading_awaitResponse id 20 _).trans (ih (i + 1) _))

/-- What `SendCommands` leaves of a connection: the socket as the handshake leaves it, or as the commands do. -/
lemma sendCommands_webSocket {e : Endpoint} {port : Int} {commandJsons : List Bytes} {wsUrl : String}
    {c : Connection} {o : Outcome} {sock : Socket} (page : getPageWebSocketUrl e.page port = some wsUrl)
    (conn : e.webSocket = some c) (run : sendCommands e port commandJsons = some o)
    (left : o.webSocket = some sock) :
    Reading ((Socket.connect c).webSocketHandshake port (pathOfUrl wsUrl) e.key).2 sock := by
  unfold sendCommands at run
  split_ifs at run with empty
  · cases run
    cases left
  obtain ⟨url, hurl, run⟩ := Option.bind_eq_some_iff.mp run
  cases page.symm.trans hurl
  rw [conn] at run
  dsimp only at run
  split_ifs at run
  · cases run
    cases left
  · cases run
    cases left
    exact .refl _
  · cases run
    cases left
    exact reading_sendEach _ _ _ _
  · cases run
    cases left
    exact reading_sendEach _ _ _ _

/-- `SendCommands` reads frame by frame, exactly when every call of `ReadFrame` but the last one takes a frame
whole, or nothing. -/
theorem readFrame_inSync_iff {e : Endpoint} {port : Int} {commandJsons : List Bytes} {frames : List Frame}
    {wsUrl : String} {c : Connection} {sock : Socket}
    (page : getPageWebSocketUrl e.page port = some wsUrl)
    (conn : e.webSocket = some c)
    (stream : ((Socket.connect c).webSocketHandshake port (pathOfUrl wsUrl) e.key).2.inbound.flatten =
      Frame.encodeAll frames)
    (left : (sendCommands e port commandJsons).bind Outcome.webSocket = some sock) :
    (∀ inbound ∈ readCalls sock.trace, AtBoundary frames inbound) ↔
      ∀ inbound ∈ (readCalls sock.trace).dropLast, KeepsInStep frames inbound := by
  obtain ⟨o, run, left⟩ := Option.bind_eq_some_iff.mp left
  obtain ⟨n, _, calls⟩ := sendCommands_webSocket page conn run left
  rw [webSocketHandshake_trace] at calls
  have calls : readCalls sock.trace = List.iterate next _ n := calls
  rw [calls]
  have start : AtBoundary frames _ := ⟨0, Nat.zero_le _, stream⟩
  generalize ((Socket.connect c).webSocketHandshake port (pathOfUrl wsUrl) e.key).2.inbound = inbound at start ⊢
  cases n with
  | zero => simp [List.iterate]
  | succ n =>
    have all_but_last : (List.iterate next inbound (n + 1)).dropLast = List.iterate next inbound n := by
      rw [List.dropLast_eq_take, List.length_iterate, List.take_iterate, Nat.add_sub_cancel,
        Nat.min_eq_left (Nat.le_succ n)]
    rw [all_but_last]
    exact iterate_atBoundary_iff start n

end

/-- A frame that arrives in two parts with a timeout between them. -/
def lateFrame : Frame :=
  ⟨true, opText, none, utf8 "hi", by decide⟩

def lateEndpoint : Endpoint :=
  pageEndpoint [[129, 2], [], utf8 "hi"]

/-- What a run with one command on it leaves. -/
def lateSocket : Option Socket :=
  (@sendCommands pageReader lateEndpoint 9333 [utf8 "0"]).bind Outcome.webSocket

/-- The upgrade of this socket is accepted. -/
lemma lateSocket_isSome : lateSocket.isSome := by
  decide

/-- The second call begins inside of the frame, as the first one does not keep in step. -/
theorem readFrame_inSync_late :
    (∀ inbound ∈ readCalls (lateSocket.get lateSocket_isSome).trace, AtBoundary [lateFrame] inbound) ↔
      ∀ inbound ∈ (readCalls (lateSocket.get lateSocket_isSome).trace).dropLast,
        KeepsInStep [lateFrame] inbound :=
  @readFrame_inSync_iff pageReader lateEndpoint 9333 [utf8 "0"] [lateFrame] pageUrl _ _
    (by decide) rfl (by decide) (Option.some_get lateSocket_isSome).symm

/-- A frame that is too large is not skipped, and the next call reads from its middle. -/
theorem readFrame_outOfSync :
    ¬ ∀ [JSONReader] (e : Endpoint) (port : Int) (commandJsons : List Bytes) (frames : List Frame)
      (wsUrl : String) (c : Connection) (sock : Socket),
      getPageWebSocketUrl e.page port = some wsUrl →
      e.webSocket = some c →
      ((Socket.connect c).webSocketHandshake port (pathOfUrl wsUrl) e.key).2.inbound.flatten =
        Frame.encodeAll frames →
      (sendCommands e port commandJsons).bind Outcome.webSocket = some sock →
      ∀ inbound ∈ readCalls sock.trace, AtBoundary frames inbound := by
  intro all
  have inside : [utf8 "hi"] ∈ readCalls (lateSocket.get lateSocket_isSome).trace := by decide
  have boundary := @all pageReader lateEndpoint 9333 [utf8 "0"] [lateFrame] pageUrl _ _ (by decide) rfl (by decide)
    (Option.some_get lateSocket_isSome).symm _ inside
  exact absurd boundary (by decide)

end PureCloak.Content
