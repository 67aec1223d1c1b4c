import PureCloak.Content.FrameSync
import Mathlib.Data.List.Infix

/-!
# Commands and their responses

`SendCommands` sends the commands one by one and reads frames after each of them, until one is a response with
the id of the command or twenty frames were read. What it hears depends on the stream alone
(`received_sendEach`), and what it returns does not depend on what it hears (`sendEach_success`). That every
command was applied is therefore up to the target: its messages have to come in waits for the commands in which every
command is answered (`AnsweredInTime`). With a server that answers every command in time each command meets its own
response (`sendEach_answered`).
-/

namespace PureCloak.Content
open PureCloak.Base WebSocket Segments

/-- A message that went over a socket. -/
inductive Message where
  | sent (json : Bytes)
  | received (payload : Bytes)
deriving DecidableEq

def Exchange.message : Exchange → Message
  | .sendFrame json _ => .sent json
  | .readFrame _ payload => .received payload

/-- What was read on a socket. -/
def received (trace : List Exchange) : List Bytes :=
  trace.filterMap fun
    | .readFrame _ payload => some payload
    | .sendFrame _ _ => none

/-! ## Waiting for a response -/

section
variable [JSONReader]

/-- The test of the read loop. -/
def isResponse (id : Int32) (message : Bytes) : Bool :=
  !message.isEmpty &&
    match JSONReader.read message with
    | some (.dict dict) => (DictValue.findInt dict "id").getD (-1) = id
    | _ => false

/-- One more frame may be read. -/
lemma awaitResponse_succ (id : Int32) (retries : Nat) (s : Socket) :
    awaitResponse id (retries + 1) s =
      if isResponse id s.readFrame.1 then (true, s.readFrame.2) else awaitResponse id retries s.readFrame.2 := by
  rw [awaitResponse, isResponse]
  dsimp only
  cases he : s.readFrame.1.isEmpty with
  | true => simp
  | false =>
    cases JSONReader.read s.readFrame.1 with
    | none => simp
    | some v => cases v <;> simp

/-- What reading leaves as it is. -/
structure OnlyReads (s t : Socket) : Prop where
  fd : t.fd = s.fd
  sends : t.sends = s.sends
  isOpen : t.isOpen = s.isOpen

omit [JSONReader] in
/-- Two steps that only read are one. -/
lemma OnlyReads.trans {s t u : Socket} (h1 : OnlyReads s t) (h2 : OnlyReads t u) : OnlyReads s u :=
  ⟨h2.fd.trans h1.fd, h2.sends.trans h1.sends, h2.isOpen.trans h1.isOpen⟩

omit [JSONReader] in
/-- `ReadFrame` only reads. -/
lemma onlyReads_readFrame (s : Socket) : OnlyReads s s.readFrame.2 :=
  ⟨rfl, rfl, rfl⟩

/-- So does waiting for a response. -/
lemma onlyReads_awaitResponse (id : Int32) (retries : Nat) (s : Socket) :
    OnlyReads s (awaitResponse id retries s).2 := by
  induction retries generalizing s with
  | zero => exact ⟨rfl, rfl, rfl⟩
  | succ retries ih =>
    rw [awaitResponse_succ]
    split_ifs
    · exact onlyReads_readFrame s
    · exact (onlyReads_readFrame s).trans (ih s.readFrame.2)

/-! ## What is heard -/

/-- How many of the next messages a read loop reads. -/
def readsFor (id : Int32) (retries : Nat) (messages : List Bytes) : Nat :=
  min retries (messages.findIdx (isResponse id) + 1)

/-- What the read loops hear: for each id the next messages up to the first response with it, and at most
twenty. -/
def heard : List Int32 → List Bytes → List Bytes
  | [], _ => []
  | id :: ids, inbound =>
    let (messages, rest) := readFrames (readsFor id 20 (readFrames 20 inbound).1) inbound
    messages ++ heard ids rest

/-- What is received while waiting is the wait for the id. -/
lemma received_awaitResponse (id : Int32) (retries : Nat) (s : Socket) :
    let r := readFrames (readsFor id retries (readFrames retries s.inbound).1) s.inbound
    (awaitResponse id retries s).2.inbound = r.2 ∧
      received (awaitResponse id retries s).2.trace = received s.trace ++ r.1 := by
  induction retries generalizing s with
  | zero => simp [readsFor, readFrames, awaitResponse]
  | succ retries ih =>
    have messages : (readFrames (retries + 1) s.inbound).1 =
        s.readFrame.1 :: (readFrames retries s.readFrame.2.inbound).1 := rfl
    have reads : received s.readFrame.2.trace = received s.trace ++ [s.readFrame.1] := by
      simp [Socket.readFrame, received]
    have more : ∀ n, readFrames (n + 1) s.inbound =
        (s.readFrame.1 :: (readFrames n s.readFrame.2.inbound).1,
          (readFrames n s.readFrame.2.inbound).2) := fun n => rfl
    rw [awaitResponse_succ, messages, readsFor, List.findIdx_cons]
    by_cases response : isResponse id s.readFrame.1
    · rw [if_pos response, response, cond_true, Nat.zero_add, Nat.min_eq_right (Nat.le_add_left 1 retries),
        more 0]
      exact ⟨rfl, reads⟩
    · obtain ⟨rest, heard⟩ := ih s.readFrame.2
      rw [if_neg response, Bool.eq_false_of_not_eq_true response, cond_false, Nat.add_min_add_right, more]
      rw [readsFor] at rest heard
      refine ⟨rest, ?_⟩
      rw [heard, reads, List.append_assoc]
      rfl

/-- The messages that come while a response with an id is waited for: the first response ends the wait, or the
twentieth message does. -/
structure Wait (id : Int32) (messages : List Bytes) : Prop where
  few : messages.length ≤ 20
  first : ∀ message ∈ messages.dropLast, isResponse id message = false
  ends : messages.length = 20 ∨ ∃ message ∈ messages.getLast?, isResponse id message

/-- Of twenty messages, those that a read loop reads make a wait, and no other number of them does. -/
lemma wait_take_iff {id : Int32} {messages : List Bytes} (twenty : messages.length = 20) {n : Nat} (le : n ≤ 20) :
    Wait id (messages.take n) ↔ n = readsFor id 20 messages := by
  have length : (messages.take n).length = n := List.length_take_of_le (by omega)
  have before_last : (messages.take n).dropLast = messages.take (n - 1) := by
    rw [List.dropLast_eq_take, length, List.take_take, Nat.min_eq_left (Nat.sub_le n 1)]
  constructor
  · rintro ⟨_, first, ends⟩
    obtain _ | k := n
    · rcases ends with full | ⟨message, last, _⟩
      · cases full
      · cases last
    have here : k < messages.length := by omega
    have before : k ≤ messages.findIdx (isResponse id) := by
      apply List.le_findIdx_of_not here
      intro j hj
      apply first
      rw [before_last]
      exact List.mem_take_iff_getElem.mpr ⟨j, by omega, rfl⟩
    rw [readsFor]
    rcases ends with full | ⟨message, last, response⟩
    · omega
    · rw [List.getLast?_take, if_neg (Nat.succ_ne_zero k), Nat.add_sub_cancel, List.getElem?_eq_getElem here] at last
      cases last
      have found : messages.findIdx (isResponse id) ≤ k := by
        by_contra lt
        exact absurd response (Bool.eq_false_iff.mp (List.not_of_lt_findIdx (Nat.lt_of_not_le lt)))
      omega
  · intro eq
    rw [readsFor] at eq
    refine ⟨Nat.le_trans (Nat.le_of_eq length) le, ?_, ?_⟩
    · intro message mem
      rw [before_last] at mem
      obtain ⟨j, hj, rfl⟩ := List.mem_take_iff_getElem.mp mem
      exact List.not_of_lt_findIdx (by omega)
    · by_cases found : messages.findIdx (isResponse id) < messages.length
      · obtain rfl : n = messages.findIdx (isResponse id) + 1 := by omega
        refine .inr ⟨_, ?_, List.findIdx_getElem (w := found)⟩
        rw [List.getLast?_take, if_neg (Nat.succ_ne_zero _), Nat.add_sub_cancel, List.getElem?_eq_getElem found]
        rfl
      · exact .inl (by omega)

/-- The frames that are read up to a number are a wait exactly for the number that the loop reads. -/
lemma wait_iff {id : Int32} {n : Nat} {inbound : List Bytes} :
    Wait id (readFrames n inbound).1 ↔ n = readsFor id 20 (readFrames 20 inbound).1 := by
  by_cases le : n ≤ 20
  · rw [← readFrames_take le]
    exact wait_take_iff (length_readFrames 20 inbound) le
  · refine iff_of_false (fun wait => le ?_) (fun eq => le (eq ▸ Nat.min_le_left _ _))
    rw [← length_readFrames n inbound]
    exact wait.few

/-- What the read loops hear are the waits for the ids, one after the other. -/
lemma heard_iff {ids : List Int32} {inbound : List Bytes} {messages : List Bytes} :
    (∃ waits, List.Forall₂ Wait ids waits ∧ waits.flatten = messages ∧
      (readFrames messages.length inbound).1 = messages) ↔ messages = heard ids inbound := by
  induction ids generalizing inbound messages with
  | nil =>
    constructor
    · rintro ⟨waits, all, rfl, _⟩
      cases all
      rfl
    · rintro rfl
      exact ⟨[], .nil, rfl, rfl⟩
  | cons id ids ih =>
    rw [heard]
    generalize hn : readsFor id 20 (readFrames 20 inbound).1 = n
    dsimp only
    constructor
    · rintro ⟨_, all, rfl, read⟩
      cases all with
      | @cons _ wait _ waits first others =>
        rw [List.flatten_cons] at read ⊢
        rw [List.length_append, readFrames_add] at read
        obtain ⟨here, later⟩ := List.append_inj read (length_readFrames _ _)
        rw [← here, wait_iff, hn] at first
        rw [first] at here later
        rw [here]
        exact congrArg (wait ++ ·) (ih.mp ⟨waits, others, rfl, later⟩)
    · intro eq
      obtain ⟨waits, others, flat, read⟩ := (@ih (readFrames n inbound).2).mpr rfl
      refine ⟨(readFrames n inbound).1 :: waits, .cons (wait_iff.mpr hn.symm) others, ?_, ?_⟩
      · rw [List.flatten_cons, flat, eq]
      · rw [eq, List.length_append, length_readFrames, readFrames_add, read]

/-- Every frame is taken by the calls of `send`. -/
def allTaken (masks : Nat → Mask) : Nat → List Bytes → List Nat → Bool
  | _, [], _ => true
  | i, json :: jsons, sends =>
    let r := writeAll (frameBytes (masks i) json) sends
    r.1 && allTaken masks (i + 1) jsons r.2.2

/-- One command is sent and waited for, then the others. -/
lemma sendEach_cons (masks : Nat → Mask) (i : Nat) (json : Bytes) (id : Int32) (commands : List (Bytes × Int32))
    (s : Socket) :
    sendEach masks i ((json, id) :: commands) s =
      if (s.sendFrame (masks i) json).1 then
        sendEach masks (i + 1) commands (awaitResponse id 20 (s.sendFrame (masks i) json).2).2
      else (false, (s.sendFrame (masks i) json).2) := by
  rw [sendEach]
  dsimp only
  cases (s.sendFrame (masks i) json).1 <;> rfl

/-- Whether the commands are sent depends on `send` alone. -/
lemma sendEach_success (masks : Nat → Mask) (i : Nat) (commands : List (Bytes × Int32)) (s : Socket) :
    (sendEach masks i commands s).1 = allTaken masks i (commands.map Prod.fst) s.sends := by
  induction commands generalizing i s with
  | nil => rfl
  | cons command commands ih =>
    obtain ⟨json, id⟩ := command
    rw [sendEach_cons, List.map_cons, allTaken]
    dsimp only
    cases sent : (s.sendFrame (masks i) json).1 with
    | false =>
      rw [sendFrame_success] at sent
      rw [sent]
      rfl
    | true =>
      rw [if_pos rfl, ih, (onlyReads_awaitResponse id 20 _).sends]
      rw [sendFrame_success] at sent
      rw [sent, Bool.true_and, sendFrame_sends]

/-- What is heard while they are sent depends on the stream alone. -/
lemma received_sendEach {masks : Nat → Mask} {i : Nat} {commands : List (Bytes × Int32)} {s : Socket}
    (sent : (sendEach masks i commands s).1 = true) :
    received (sendEach masks i commands s).2.trace =
      received s.trace ++ heard (commands.map Prod.snd) s.inbound := by
  induction commands generalizing i s with
  | nil => exact (List.append_nil _).symm
  | cons command commands ih =>
    obtain ⟨json, id⟩ := command
    rw [sendEach_cons] at sent ⊢
    split_ifs at sent ⊢
    obtain ⟨rest, messages⟩ := received_awaitResponse id 20 (s.sendFrame (masks i) json).2
    have trace : received (s.sendFrame (masks i) json).2.trace = received s.trace := by
      simp [received]
    rw [ih sent, messages, rest, trace, List.append_assoc]
    rfl

/-! ## What is returned -/

/-- The ids that `SendCommands` waits for. -/
def commandIds (commandJsons : List Bytes) : List Int32 :=
  commandJsons.map fun json => (messageId json).getD (-1)

/-- The socket on which the commands go out, where `SendCommands` gets that far. -/
def commandSocket (e : Endpoint) (port : Int) (commandJsons : List Bytes) : Option Socket :=
  match getPageWebSocketUrl e.page port, e.webSocket with
  | some wsUrl, some c =>
    let r := (Socket.connect c).webSocketHandshake port (pathOfUrl wsUrl) e.key
    if commandJsons ≠ [] ∧ wsUrl ≠ "" ∧ r.1 = true then some r.2 else none
  | _, _ => none

/-- `SendCommands` fails before it sends a command, or sends them on that socket. -/
lemma sendCommands_cases (e : Endpoint) (port : Int) (commandJsons : List Bytes) :
    (commandSocket e port commandJsons = none ∧
      ∀ o, sendCommands e port commandJsons = some o → o.result = -1) ∨
    ∃ sock, commandSocket e port commandJsons = some sock ∧ sock.trace = [] ∧
      sendCommands e port commandJsons =
        let r := sendEach e.masks 0 (commandJsons.zip (commandIds commandJsons)) sock
        some (if r.1 then ⟨r.2.fd, some r.2⟩ else ⟨-1, some r.2.close⟩) := by
  unfold commandSocket sendCommands
  by_cases empty : commandJsons = []
  · left
    rw [empty]
    exact ⟨by split <;> simp, fun o run => by cases run; rfl⟩
  have nonempty : ¬ commandJsons.isEmpty = true := by simpa using empty
  rw [if_neg nonempty]
  cases page : getPageWebSocketUrl e.page port with
  | none => exact .inl ⟨rfl, fun o run => by cases run⟩
  | some wsUrl =>
    rw [Option.bind_eq_bind, Option.bind_some]
    by_cases found : wsUrl = ""
    · left
      rw [if_pos found]
      refine ⟨?_, fun o run => by cases run; rfl⟩
      cases e.webSocket with
      | none => rfl
      | some c => exact if_neg fun h => h.2.1 found
    rw [if_neg found]
    cases e.webSocket with
    | none =>
      exact .inl ⟨rfl, fun o run => by cases run; rfl⟩
    | some c =>
      have trace := webSocketHandshake_trace (Socket.connect c) port (pathOfUrl wsUrl) e.key
      dsimp only
      generalize (Socket.connect c).webSocketHandshake port (pathOfUrl wsUrl) e.key = r at trace
      obtain ⟨upgraded, sock⟩ := r
      cases upgraded with
      | false => exact .inl ⟨if_neg fun h => absurd h.2.2 Bool.false_ne_true, fun o run => by cases run; rfl⟩
      | true => exact .inr ⟨sock, if_pos ⟨empty, found, rfl⟩, trace, (apply_ite some _ _ _).symm⟩

/-- What was received on the connection. -/
def Outcome.received (o : Outcome) : List Bytes :=
  (o.webSocket.map fun sock => Content.received sock.trace).getD []

/-- A response to the command that is no error. -/
def Applies (json message : Bytes) : Prop :=
  ∃ id dict, messageId json = some id ∧ JSONReader.read message = some (.dict dict) ∧
    DictValue.findInt dict "id" = some id ∧ DictValue.find dict "error" = none

/-- The messages of a target begin with a wait for each of the commands, and in these waits there is a response to
every command that is no error. -/
def AnsweredInTime (commandJsons messages : List Bytes) : Prop :=
  ∃ waits : List (List Bytes), List.Forall₂ Wait (commandIds commandJsons) waits ∧ waits.flatten <+: messages ∧
    ∀ json ∈ commandJsons, ∃ message ∈ waits.flatten, Applies json message

/-- The waits for some ids have at most twenty messages each. -/
lemma length_waits_le {ids : List Int32} {waits : List (List Bytes)} (all : List.Forall₂ Wait ids waits) :
    waits.flatten.length ≤ 20 * ids.length := by
  induction all with
  | nil => exact Nat.le_refl 0
  | cons wait _ ih =>
    have few := wait.few
    rw [List.flatten_cons, List.length_append, List.length_cons]
    omega

/-- The waits of a stream are what the read loops hear. -/
lemma answeredInTime_iff {commandJsons inbound : List Bytes} {n : Nat} (enough : 20 * commandJsons.length ≤ n) :
    AnsweredInTime commandJsons (readFrames n inbound).1 ↔
      ∀ json ∈ commandJsons, ∃ message ∈ heard (commandIds commandJsons) inbound, Applies json message := by
  constructor
  · rintro ⟨waits, all, front, applied⟩
    have le : waits.flatten.length ≤ n := length_readFrames n inbound ▸ front.length_le
    have read := (List.prefix_iff_eq_take.mp front).symm
    rw [readFrames_take le] at read
    rw [← heard_iff.mp ⟨waits, all, rfl, read⟩]
    exact applied
  · intro applied
    obtain ⟨waits, all, flat, read⟩ := heard_iff.mpr (rfl : heard (commandIds commandJsons) inbound = _)
    rw [← flat] at applied read
    have le : waits.flatten.length ≤ n := by
      refine Nat.le_trans (length_waits_le all) (Nat.le_trans (Nat.le_of_eq ?_) enough)
      rw [commandIds, List.length_map]
    refine ⟨waits, all, List.prefix_iff_eq_take.mpr ?_, applied⟩
    rw [readFrames_take le, read]

/-- All commands are sent: the endpoint has a page target, it accepts the upgrade, and `send` takes every
frame. -/
def AllSent (e : Endpoint) (port : Int) (commandJsons : List Bytes) (sock : Socket) : Prop :=
  commandSocket e port commandJsons = some sock ∧ allTaken e.masks 0 commandJsons sock.sends = true

/-- Where all commands are sent a file descriptor is returned, and what was received is what the read loops
hear. -/
lemma sendCommands_of_allSent {e : Endpoint} {port : Int} {commandJsons : List Bytes} {sock : Socket}
    (sent : AllSent e port commandJsons sock) :
    ∃ o, sendCommands e port commandJsons = some o ∧ 0 ≤ o.result ∧
      o.received = heard (commandIds commandJsons) sock.inbound := by
  have fsts : (commandJsons.zip (commandIds commandJsons)).map Prod.fst = commandJsons :=
    List.map_fst_zip (by simp [commandIds])
  have snds : (commandJsons.zip (commandIds commandJsons)).map Prod.snd = commandIds commandJsons :=
    List.map_snd_zip (by simp [commandIds])
  rcases sendCommands_cases e port commandJsons with ⟨nothing, _⟩ | ⟨sock', ready, fresh, eq⟩
  · cases nothing.symm.trans sent.1
  cases ready.symm.trans sent.1
  have success := sendEach_success e.masks 0 (commandJsons.zip (commandIds commandJsons)) sock
  rw [fsts, sent.2] at success
  have messages := received_sendEach success
  rw [snds, fresh] at messages
  dsimp only at eq
  rw [success, if_pos rfl] at eq
  exact ⟨_, eq, Int.natCast_nonneg _, messages⟩

/-- A file descriptor is returned only where all commands are sent. -/
lemma allSent_of_sendCommands {e : Endpoint} {port : Int} {commandJsons : List Bytes} {o : Outcome}
    (run : sendCommands e port commandJsons = some o) (nonneg : 0 ≤ o.result) :
    ∃ sock, AllSent e port commandJsons sock := by
  rcases sendCommands_cases e port commandJsons with ⟨_, fails⟩ | ⟨sock, ready, _, eq⟩
  · rw [fails o run] at nonneg
    exact absurd nonneg (by decide)
  · refine ⟨sock, ready, ?_⟩
    have success := sendEach_success e.masks 0 (commandJsons.zip (commandIds commandJsons)) sock
    rw [List.map_fst_zip (by simp [commandIds])] at success
    rw [← success]
    rw [eq] at run
    dsimp only at run
    split_ifs at run with sent
    · exact sent
    · cases run
      have nonneg : (0 : Int) ≤ -1 := nonneg
      exact absurd nonneg (by decide)

/-- Where all commands are sent, every command was applied exactly when every command is answered in time. -/
lemma applied_of_allSent_iff {e : Endpoint} {port : Int} {commandJsons : List Bytes} {sock : Socket} {n : Nat}
    (sent : AllSent e port commandJsons sock) (enough : 20 * commandJsons.length ≤ n) :
    (∀ o, sendCommands e port commandJsons = some o → 0 ≤ o.result →
      ∀ json ∈ commandJsons, ∃ message ∈ o.received, Applies json message) ↔
      AnsweredInTime commandJsons (readFrames n sock.inbound).1 := by
  obtain ⟨o, run, nonneg, messages⟩ := sendCommands_of_allSent sent
  rw [answeredInTime_iff enough, ← messages]
  constructor
  · exact fun applied => applied o run nonneg
  · rintro applied o' run' -
    cases run.symm.trans run'
    exact applied

/-- Every command was applied wherever a file descriptor is returned, exactly when every command is answered
without an error in time on all streams on which they are sent. -/
lemma sendCommands_applied_iff (e : Endpoint) (port : Int) (commandJsons : List Bytes) :
    (∀ o, sendCommands e port commandJsons = some o → 0 ≤ o.result →
      ∀ json ∈ commandJsons, ∃ message ∈ o.received, Applies json message) ↔
      ∀ sock, AllSent e port commandJsons sock →
        AnsweredInTime commandJsons (readFrames (20 * commandJsons.length) sock.inbound).1 := by
  constructor
  · exact fun applied sock sent => (applied_of_allSent_iff sent (Nat.le_refl _)).mp applied
  · intro answered o run nonneg
    obtain ⟨sock, sent⟩ := allSent_of_sendCommands run nonneg
    exact (applied_of_allSent_iff sent (Nat.le_refl _)).mpr (answered sock sent) o run nonneg

/-! ## A target that sends frames -/

/-- Some frames that a target sends without a pause, and the segments in which they arrive. -/
structure Burst where
  frames : List Frame
  segs : List Bytes
  whole : ∀ f ∈ frames, Whole f
  gives : ∀ seg ∈ segs, seg ≠ []
  arrives : segs.flatten = Frame.encodeAll frames

/-- The stream of a target that pauses between some bursts for so long that a call of `recv` gives nothing. -/
def streamOf : List Burst → List Bytes
  | [] => []
  | [b] => b.segs
  | b :: bursts => b.segs ++ [] :: streamOf bursts

/-- The messages of these bursts, with an empty one for each pause; after the last burst all are empty. -/
def messagesOf (bursts : List Burst) (silence : Nat) : List Bytes :=
  bursts.flatMap (fun b => b.frames.map delivered ++ [[]]) ++ List.replicate silence []

omit [JSONReader] in
/-- Of an empty stream only empty messages are read. -/
lemma readFrames_nil (n : Nat) : readFrames n [] = (List.replicate n [], []) := by
  induction n with
  | zero => rfl
  | succ n ih =>
    have first : readFrame [] = ([], []) := rfl
    rw [readFrames, first]
    dsimp only
    rw [ih]
    rfl

omit [JSONReader] in
/-- The messages are read one by one. -/
lemma readFrames_streamOf (bursts : List Burst) (silence : Nat) :
    readFrames (messagesOf bursts silence).length (streamOf bursts) = (messagesOf bursts silence, []) := by
  have cons (b : Burst) (bursts : List Burst) : messagesOf (b :: bursts) silence =
      b.frames.map delivered ++ ([] :: messagesOf bursts silence) := by
    simp [messagesOf]
  induction bursts with
  | nil =>
    have empty : messagesOf [] silence = List.replicate silence [] := rfl
    rw [empty, List.length_replicate, streamOf, readFrames_nil]
  | cons b bursts ih =>
    have pause (inbound : List Bytes) : readFrame ([] :: inbound) = ([], inbound) := rfl
    have last : readFrame [] = ([], []) := rfl
    rw [cons, List.length_append, List.length_map, List.length_cons, readFrames_add]
    cases bursts with
    | nil =>
      have burst := readFrames_burst b.whole b.gives b.arrives []
      rw [List.append_nil] at burst
      rw [streamOf, burst]
      dsimp only
      rw [readFrames, last]
      dsimp only
      rw [readFrames_nil, messagesOf]
      simp
    | cons b' bursts =>
      rw [streamOf, readFrames_burst b.whole b.gives b.arrives]
      · dsimp only
        rw [readFrames, pause]
        dsimp only
        rw [ih]
      · exact List.cons_ne_nil b' bursts

/-! ## A server that answers -/

/-- What a server sends for a command. -/
structure Answer where
  others : List Frame
  response : Frame

def Answer.frames (a : Answer) : List Frame :=
  a.others ++ [a.response]

/-- The answer has the response to the command, behind at most 19 other frames. -/
structure Answers (json : Bytes) (a : Answer) : Prop where
  few : a.others.length ≤ 19
  whole : ∀ f ∈ a.frames, f.opcode ≠ opClose ∧ f.payload.length ≤ kMaxWsPayload
  skipped : ∀ f ∈ a.others, delivered f = [] ∨ messageId (delivered f) ≠ messageId json
  text : a.response.opcode ≠ opPing ∧ a.response.opcode ≠ opPong
  nonempty : a.response.payload ≠ []
  answers : ∃ id : Int32, 0 ≤ id.toInt ∧ messageId json = some id ∧ messageId a.response.payload = some id

/-- The messages of a command and its answer, in their order. -/
def exchange (json : Bytes) (a : Answer) : List Message :=
  .sent json :: a.frames.map fun f => .received (delivered f)

/-- A response with an id that is not negative is a message with this id. -/
lemma isResponse_eq {id : Int32} (nonneg : 0 ≤ id.toInt) (message : Bytes) :
    isResponse id message = (!message.isEmpty && messageId message = some id) := by
  have ne : (-1 : Int32) ≠ id := by
    rintro rfl
    exact absurd nonneg (by decide)
  unfold isResponse messageId
  congr 1
  generalize JSONReader.read message = parsed
  match parsed with
  | some (.dict dict) =>
    cases h : DictValue.findInt dict "id" with
    | none => simp [h, ne]
    | some i => simp [h]
  | none => rfl
  | some .none | some (.boolean _) | some (.integer _) | some (.double _) | some (.string _)
  | some (.list _) => rfl

omit [JSONReader] in
/-- A frame that comes whole is taken whole. -/
lemma readFrame_whole {s : Socket} {f : Frame} {tail : Bytes} (w : Whole f)
    (stream : s.inbound.flatten = f.encode ++ tail) (steady : Steady s.inbound) :
    s.readFrame.1 = delivered f ∧ s.readFrame.2.inbound.flatten = tail ∧ Steady s.readFrame.2.inbound := by
  have all : wanted f ≤ (arrived s.inbound).length := by
    rw [steady, stream, w.wanted, List.length_append]
    exact Nat.le_add_right _ _
  rcases readFrame_spec stream with ⟨_, rest, eq, after⟩ | ⟨lt, _⟩
  · rw [w.wanted] at after
    have eq1 : s.readFrame.1 = delivered f := congrArg Prod.fst eq
    have eq2 : s.readFrame.2.inbound = rest := congrArg Prod.snd eq
    rw [eq2]
    exact ⟨eq1, after.tail stream, after.steady steady⟩
  · omega

/-- The read loop ends with the response. -/
lemma awaitResponse_answer {id : Int32} {others : List Frame} {response : Frame} {tail : Bytes} {s : Socket}
    {retries : Nat} (few : others.length < retries) (whole : ∀ f ∈ others ++ [response], Whole f)
    (skipped : ∀ f ∈ others, isResponse id (delivered f) = false)
    (answers : isResponse id (delivered response) = true)
    (stream : s.inbound.flatten = Frame.encodeAll (others ++ [response]) ++ tail)
    (steady : Steady s.inbound) :
    let t := (awaitResponse id retries s).2
    (awaitResponse id retries s).1 = true ∧ t.inbound.flatten = tail ∧ Steady t.inbound ∧
      t.trace.map Exchange.message =
        s.trace.map Exchange.message ++ (others ++ [response]).map fun f => .received (delivered f) := by
  induction others generalizing s retries with
  | nil =>
    obtain ⟨retries, rfl⟩ : ∃ n, retries = n + 1 := Nat.exists_eq_add_one.mpr few
    have stream : s.inbound.flatten = response.encode ++ tail := by simpa using stream
    obtain ⟨eq, rest, st⟩ := readFrame_whole (whole response (by simp)) stream steady
    rw [awaitResponse_succ, eq, if_pos answers]
    refine ⟨rfl, rest, st, ?_⟩
    simp [Socket.readFrame, Exchange.message, ← eq]
  | cons f others ih =>
    obtain ⟨retries, rfl⟩ : ∃ n, retries = n + 1 := Nat.exists_eq_add_one.mpr (Nat.zero_lt_of_lt few)
    rw [List.cons_append, Frame.encodeAll_cons, List.append_assoc] at stream
    obtain ⟨eq, rest, st⟩ := readFrame_whole (whole f (by simp)) stream steady
    have skip : isResponse id (delivered f) = false := skipped f List.mem_cons_self
    obtain ⟨done, rest, st, trace⟩ := ih (s := s.readFrame.2)
      (Nat.lt_of_succ_lt_succ few) (fun g hg => whole g (List.mem_cons_of_mem _ hg))
      (fun g hg => skipped g (List.mem_cons_of_mem _ hg)) rest st
    rw [awaitResponse_succ, eq, skip, if_neg (by decide)]
    refine ⟨done, rest, st, ?_⟩
    rw [trace]
    simp [Socket.readFrame, Exchange.message, ← eq]

/-- The commands and their answers alternate. -/
lemma sendEach_answered (masks : Nat → Mask) (i : Nat) {commandJsons : List Bytes} {answers : List Answer}
    {s : Socket} (all : List.Forall₂ Answers commandJsons answers)
    (takes : ∀ k ∈ s.sends, 0 < k)
    (stream : s.inbound.flatten = Frame.encodeAll (answers.flatMap Answer.frames))
    (steady : Steady s.inbound) :
    let commands := commandJsons.zip (commandJsons.map fun json => (messageId json).getD (-1))
    let t := (sendEach masks i commands s).2
    (sendEach masks i commands s).1 = true ∧ t.fd = s.fd ∧ t.isOpen = s.isOpen ∧ t.inbound.flatten = [] ∧
      t.trace.map Exchange.message =
        s.trace.map Exchange.message ++ (commandJsons.zipWith exchange answers).flatten := by
  induction all generalizing i s with
  | nil => exact ⟨rfl, rfl, rfl, stream, (List.append_nil _).symm⟩
  | @cons json a commandJsons answers ha _ ih =>
    obtain ⟨id, nonneg, command, response⟩ := ha.answers
    obtain ⟨sent, rest⟩ := writeAll_of_pos (frameBytes (masks i) json) takes
    rw [List.flatMap_cons, Frame.encodeAll_append] at stream
    have text : delivered a.response = a.response.payload := by
      obtain ⟨close, small⟩ := ha.whole a.response (by simp [Answer.frames])
      apply if_neg
      rintro (e | e | e | e)
      · exact close e
      · exact absurd small (Nat.not_le_of_gt e)
      · exact ha.text.1 e
      · exact ha.text.2 e
    have skipped : ∀ f ∈ a.others, isResponse id (delivered f) = false := by
      intro f hf
      rw [isResponse_eq nonneg]
      rcases ha.skipped f hf with e | e
      · simp [e]
      · simp [command ▸ e]
    have answers : isResponse id (delivered a.response) = true := by
      rw [isResponse_eq nonneg, text, response]
      simp [ha.nonempty]
    obtain ⟨_, inbound, st, trace⟩ := awaitResponse_answer (s := (s.sendFrame (masks i) json).2)
      (Nat.lt_succ_of_le ha.few : _ < 20) (fun f hf => ⟨(ha.whole f hf).2, fun e => absurd e (ha.whole f hf).1⟩)
      skipped answers stream steady
    have kept := onlyReads_awaitResponse id 20 (s.sendFrame (masks i) json).2
    obtain ⟨done, fd, isOpen, empty, more⟩ := ih (i + 1)
      (s := (awaitResponse id 20 (s.sendFrame (masks i) json).2).2) (kept.sends ▸ rest) inbound st
    simp only [List.map_cons, List.zip_cons_cons, command, Option.getD_some, sendEach_cons, sendFrame_success, sent,
      ↓reduceIte]
    refine ⟨done, fd.trans kept.fd, isOpen.trans kept.isOpen, empty, ?_⟩
    rw [more, trace, sendFrame_trace]
    simp [exchange, Exchange.message, Answer.frames]

/-! ## The handshake -/

omit [JSONReader] in
/-- A text that is found is a part of the other one. -/
lemma findBytes_isSome {pattern text : Bytes} : (findBytes pattern text).isSome ↔ pattern <:+: text := by
  rw [findBytes, List.findIdx?_isSome, List.any_eq_true, List.infix_iff_prefix_suffix]
  constructor
  · rintro ⟨t, ht, hp⟩
    exact ⟨t, List.isPrefixOf_iff_prefix.mp hp, (List.mem_tails _ _).mp ht⟩
  · rintro ⟨t, hp, ht⟩
    exact ⟨t, (List.mem_tails _ _).mpr ht, List.isPrefixOf_iff_prefix.mpr hp⟩

/-- The head of a response that `WebSocketHandshake` takes for a switch of protocols. -/
structure Accepts (head : Bytes) : Prop where
  ends : headEnd <:+: head
  first : ¬ headEnd <:+: head.dropLast
  short : head.length ≤ 8192
  switches : switchesProtocols head = true

omit [JSONReader] in
/-- The head is read and nothing behind it, when it comes on its own. -/
lemma readHead_accepts {head response : Bytes} {headSegs segs : List Bytes} {rounds : Nat} (h : Accepts head)
    (parts : response ++ headSegs.flatten = head) (gives : ∀ seg ∈ headSegs, seg ≠ [])
    (enough : headSegs.flatten.length < rounds) :
    readHead rounds response (headSegs ++ segs) = (some head, segs) := by
  induction rounds generalizing response headSegs with
  | zero => exact absurd enough (Nat.not_lt_zero _)
  | succ rounds ih =>
    rw [readHead]
    cases headSegs with
    | nil =>
      obtain rfl : response = head := by simpa using parts
      rw [if_pos (findBytes_isSome.mpr h.ends)]
      rfl
    | cons seg headSegs =>
      have proper : ¬ headEnd <:+: response := by
        intro found
        have rest : (seg :: headSegs).flatten ≠ [] := by simp [gives seg List.mem_cons_self]
        apply h.first
        rw [← parts, List.dropLast_append_of_ne_nil rest]
        exact found.trans (List.prefix_append _ _).isInfix
      obtain ⟨buf, rest, got, some, others, joined⟩ := Segments.read_of_ne_nil (by decide : 0 < 1024) gives segs
      rw [if_neg (fun found => proper (findBytes_isSome.mp found)), got]
      rw [← joined] at parts enough
      have total := congrArg List.length parts
      have short := h.short
      have pos := List.length_pos_iff.mpr some
      simp only [List.length_append] at total enough
      have fits : ¬ (response ++ buf).length > 8192 := by
        rw [List.length_append]
        omega
      dsimp only
      rw [if_neg (by simpa using some), if_neg fits]
      apply ih
      · rw [← parts, List.append_assoc]
      · exact others
      · omega

omit [JSONReader] in
/-- The handshake with a server that accepts it. -/
lemma webSocketHandshake_accepts {c : Connection} {headSegs segs : List Bytes} (port : Int) (path key : String)
    (takes : ∀ k ∈ c.sends, 0 < k) (parts : c.inbound = headSegs ++ segs) (gives : ∀ seg ∈ headSegs, seg ≠ [])
    (h : Accepts headSegs.flatten) :
    let t := ((Socket.connect c).webSocketHandshake port path key).2
    ((Socket.connect c).webSocketHandshake port path key).1 = true ∧ t.inbound = segs ∧
      (∀ k ∈ t.sends, 0 < k) ∧ t.fd = c.fd ∧ t.isOpen = true := by
  obtain ⟨sent, rest⟩ := writeAll_of_pos (upgradeRequest port path key) takes
  have head : readHead 8194 [] (headSegs ++ segs) = (some headSegs.flatten, segs) :=
    readHead_accepts h rfl gives (Nat.lt_of_le_of_lt h.short (by decide))
  have sent : ((Socket.connect c).sendAll (upgradeRequest port path key)).1 = true := sent
  have inbound : ((Socket.connect c).sendAll (upgradeRequest port path key)).2.inbound = headSegs ++ segs := parts
  rw [Socket.webSocketHandshake]
  simp only [sent, inbound, head, Bool.not_true, Bool.false_eq_true, ↓reduceIte, Option.map_some, Option.getD_some,
    h.switches]
  exact ⟨trivial, trivial, rest, rfl, rfl⟩

/-- With a server that answers every command in time, each command meets its own response; and without a command
nothing is opened, whatever the server does. -/
theorem sendCommands_answered {e : Endpoint} {port : Int} {commandJsons : List Bytes} {wsUrl : String}
    {c : Connection} {headSegs segs : List Bytes} {answers : List Answer}
    (some_command : commandJsons ≠ [])
    (page : getPageWebSocketUrl e.page port = some wsUrl) (found : wsUrl ≠ "")
    (conn : e.webSocket = some c) (takes : ∀ k ∈ c.sends, 0 < k)
    (parts : c.inbound = headSegs ++ segs) (gives : ∀ seg ∈ c.inbound, seg ≠ [])
    (accepts : Accepts headSegs.flatten)
    (all : List.Forall₂ Answers commandJsons answers)
    (stream : segs.flatten = Frame.encodeAll (answers.flatMap Answer.frames)) :
    (∃ sock, sendCommands e port commandJsons = some ⟨c.fd, some sock⟩ ∧ sock.isOpen ∧ sock.fd = c.fd ∧
      sock.inbound.flatten = [] ∧
      sock.trace.map Exchange.message = (commandJsons.zipWith exchange answers).flatten) ∧
    ∀ (e' : Endpoint) (port' : Int), sendCommands e' port' [] = some ⟨-1, none⟩ := by
  refine ⟨?_, fun _ _ => rfl⟩
  obtain ⟨upgraded, inbound, rest, fd, isOpen⟩ := webSocketHandshake_accepts port (pathOfUrl wsUrl) e.key
    takes parts (fun seg hs => gives seg (parts ▸ List.mem_append_left _ hs)) accepts
  have trace := webSocketHandshake_trace (Socket.connect c) port (pathOfUrl wsUrl) e.key
  have steady : Steady segs := steady_of_ne_nil fun seg hs => gives seg (parts ▸ List.mem_append_right _ hs)
  obtain ⟨sent, fd', isOpen', empty, messages⟩ := sendEach_answered e.masks 0
    (s := ((Socket.connect c).webSocketHandshake port (pathOfUrl wsUrl) e.key).2) all rest
    (inbound ▸ stream) (inbound ▸ steady)
  refine ⟨_, ?_, isOpen'.trans isOpen, fd'.trans fd, empty, ?_⟩
  · have nonempty : commandJsons.isEmpty = false := List.isEmpty_eq_false_iff.mpr some_command
    simp only [sendCommands, nonempty, page, conn, Option.bind_eq_bind, Option.bind_some, found, upgraded, sent,
      Bool.false_eq_true, Bool.not_true, ↓reduceIte, Option.pure_def, fd', fd]
  · rw [messages, trace]
    rfl

end

def eventFrame : Frame :=
  ⟨true, opText, none, utf8 "e", by decide⟩

def pingFrame : Frame :=
  ⟨true, opPing, none, [], by decide⟩

def responseFrame (n : Fin 2) : Frame :=
  ⟨true, opText, none, utf8 (toString n), by decide +revert⟩

def pageHead : Bytes :=
  utf8 "HTTP/1.1 101 OK\r\nUpgrade: websocket\r\n\r\n"

/-- This head is accepted. -/
lemma pageHead_accepts : Accepts [pageHead].flatten where
  ends := by decide
  first := by decide
  short := by decide
  switches := by decide

/-- Two commands: an event and a ping come before the response to the first one. -/
theorem sendCommands_answered_two :
    (∃ sock, @sendCommands pageReader (pageEndpoint [[129, 1, 101, 137, 0, 129], [1, 48, 129, 1], [49]]) 9333
        [utf8 "0", utf8 "1"] = some ⟨8, some sock⟩ ∧ sock.isOpen ∧ sock.fd = 8 ∧ sock.inbound.flatten = [] ∧
      sock.trace.map Exchange.message =
        ([utf8 "0", utf8 "1"].zipWith exchange
          [⟨[eventFrame, pingFrame], responseFrame 0⟩, ⟨[], responseFrame 1⟩]).flatten) ∧
    ∀ (e' : Endpoint) (port' : Int), @sendCommands pageReader e' port' [] = some ⟨-1, none⟩ := by
  have first : @Answers pageReader (utf8 "0") ⟨[eventFrame, pingFrame], responseFrame 0⟩ :=
    @Answers.mk pageReader _ _ (by decide) (by decide) (by decide) (by decide) (by decide) ⟨0, by decide⟩
  have second : @Answers pageReader (utf8 "1") ⟨[], responseFrame 1⟩ :=
    @Answers.mk pageReader _ _ (by decide) (by decide) (by decide) (by decide) (by decide) ⟨1, by decide⟩
  exact @sendCommands_answered pageReader (pageEndpoint [[129, 1, 101, 137, 0, 129], [1, 48, 129, 1], [49]]) 9333
    [utf8 "0", utf8 "1"] pageUrl _ [pageHead] [[129, 1, 101, 137, 0, 129], [1, 48, 129, 1], [49]] _
    (by decide) (by decide) (by decide) rfl (by decide) rfl (by decide) pageHead_accepts
    (.cons first (.cons second .nil)) (by decide)

/-- Without a command nothing is opened. -/
theorem sendCommands_nil :
    (@sendCommands pageReader (pageEndpoint []) 9333 []).map Outcome.result = some (-1) :=
  rfl

end PureCloak.Content
