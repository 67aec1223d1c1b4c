import PureCloak.API.RelaySteps
import PureCloak.Content.CommandPipeline
import PureCloak.Library.HttpHead

/-!
# How the relay detects the upgrade

`OnTargetRead` should take the first head of what the target sends for its answer to the upgrade, however the bytes are
cut into reads, and everything behind it for data (`DetectsExactly`). It looks for words in each read by itself.
`detectsExactly_iff` says on which reads that makes no difference: the first one with the words in it has to be the one
in which the head ends.
-/

namespace PureCloak.API
open PureCloak.Base PureCloak.Content HttpHead

/-- What a target sends: the bytes of each read, and the result of the last one if the connection has ended. -/
structure TargetStream where
  segments : List Bytes
  ending : Option (IOResult Bytes) := none
  some_bytes : ∀ segment ∈ segments, segment ≠ []
  ends : ∀ result ∈ ending, result = .failed ∨ result = .done []

namespace TargetStream

/-- The results of the reads. -/
def results (s : TargetStream) : List (IOResult Bytes) :=
  s.segments.map .done ++ s.ending.toList

/-- The bytes of the stream. -/
def bytes (s : TargetStream) : Bytes :=
  s.segments.flatten

end TargetStream

/-- The head of an HTTP/1.1 response with a status code. -/
def hasStatus (code head : Bytes) : Bool :=
  match lines head with
  | line :: _ => isStatus (· == ascii "HTTP/1.1") code line
  | [] => false

/-- The stream begins with a response that switches protocols. -/
def Switches (stream : Bytes) : Prop :=
  ∃ head, Through blankLine head stream ∧ hasStatus (ascii "101") head = true

/-- The stream begins with another response. -/
def Declines (stream : Bytes) : Prop :=
  ∃ head code, Through blankLine head stream ∧ hasStatus code head = true ∧ code.length = 3 ∧
    code.all isDigit = true ∧ code ≠ ascii "101"

namespace CDPProxyHandler

/-- What `OnTargetRead` gives to `ForwardToClient`. -/
def forwards (p : CDPProxyHandler) (conn : Int) : IOResult Bytes → Bytes
  | .done data =>
    match p.sessions[conn]? with
    | none => []
    | some session => if session.handshakeComplete then data else if answers data then leftover data else []
  | _ => []

/-- After the reads have completed one after the other. -/
def afterTargetReads (p : CDPProxyHandler) (conn : Int) (results : List (IOResult Bytes)) : CDPProxyHandler :=
  results.foldl (fun p result => (p.onTargetRead conn result).1) p

/-- What is given to `ForwardToClient` then. -/
def forwardsAll (p : CDPProxyHandler) (conn : Int) : List (IOResult Bytes) → Bytes
  | [] => []
  | result :: results => p.forwards conn result ++ (p.onTargetRead conn result).1.forwardsAll conn results

/-- The handshake is complete before a read or after the last one. -/
inductive Completes (conn : Int) : CDPProxyHandler → List (IOResult Bytes) → Prop where
  | now {p results session} :
    p.sessions[conn]? = some session →
    session.handshakeComplete = true →
    Completes conn p results
  | later {p result results} :
    Completes conn (p.onTargetRead conn result).1 results →
    Completes conn p (result :: results)

/-- The session is destroyed before the handshake is complete. -/
def Destroys (p : CDPProxyHandler) (conn : Int) (results : List (IOResult Bytes)) : Prop :=
  (p.afterTargetReads conn results).sessions[conn]? = none ∧ ¬ Completes conn p results

/-- The upgrade is detected by the first head of the stream, and what is behind it is data. -/
structure DetectsExactly (p : CDPProxyHandler) (conn : Int) (s : TargetStream) : Prop where
  completes : Completes conn p s.results ↔ Switches s.bytes
  forwards : ∀ head, Through blankLine head s.bytes → hasStatus (ascii "101") head = true →
    p.forwardsAll conn s.results = s.bytes.drop head.length
  destroys : p.Destroys conn s.results ↔ Declines s.bytes ∨ s.ending.isSome = true ∧ ¬ Switches s.bytes

end CDPProxyHandler

namespace TargetStream

/-- The first read with one of the words that decide. -/
def decided (s : TargetStream) : List Bytes :=
  s.segments.dropWhile fun segment => !(answers segment || refuses segment)

/-- The reads before it. -/
def undecided (s : TargetStream) : List Bytes :=
  s.segments.takeWhile fun segment => !(answers segment || refuses segment)

/-- The first read with one of the words is right about the stream. If it is taken for the switch of protocols, then its
first blank line is where the head of such a response ends; otherwise there is no such response in front. -/
def ComesClear (s : TargetStream) : Prop :=
  match s.decided with
  | [] => ¬ Switches s.bytes ∧ (Declines s.bytes → s.ending.isSome = true)
  | segment :: _ =>
    if answers segment then
      ∃ n, findBytes headEnd segment = some n ∧
        Through blankLine (s.undecided.flatten ++ segment.take (n + 4)) s.bytes ∧
        hasStatus (ascii "101") (s.undecided.flatten ++ segment.take (n + 4)) = true
    else ¬ Switches s.bytes ∧ (Declines s.bytes ∨ s.ending.isSome = true)

end TargetStream

/-! ## One read -/

namespace CDPProxyHandler
variable {p : CDPProxyHandler} {conn : Int} {session : ProxySession} {data : Bytes}

/-- What is forwarded goes to the client. -/
lemma forwardToClient_toClient (server : p.server = true) :
    (p.forwardToClient conn data).1.toClient = p.toClient ++ [(conn, data)] := by
  rw [forwardToClient, server]
  dsimp only
  rw [if_neg (by decide)]
  split
  · rfl
  · rfl

/-- Only what is forwarded is sent to the client. -/
theorem onTargetRead_toClient (server : p.server = true) (result : IOResult Bytes) :
    (p.onTargetRead conn result).1.toClient =
      p.toClient ++ if p.forwards conn result = [] then [] else [(conn, p.forwards conn result)] := by
  cases there : p.sessions[conn]? with
  | none =>
    have nothing : p.forwards conn result = [] := by
      cases result with
      | done data => rw [forwards, there]
      | _ => rfl
    rw [onTargetRead_gone there, nothing, if_pos rfl, List.append_nil]
  | some session =>
    have nothing (h : p.forwards conn result = []) (same : (p.onTargetRead conn result).1.toClient = p.toClient) :
        (p.onTargetRead conn result).1.toClient =
          p.toClient ++ if p.forwards conn result = [] then [] else [(conn, p.forwards conn result)] := by
      rw [same, if_pos h, List.append_nil]
    match result with
    | .pending => exact nothing rfl (congrArg (·.1.toClient) (onTargetRead_pending p conn))
    | .failed => exact nothing rfl (congrArg (·.1.toClient) (onTargetRead_ends there (.inl rfl)))
    | .done [] =>
      refine nothing ?_ (congrArg (·.1.toClient) (onTargetRead_ends there (.inr rfl)))
      rw [forwards, there]
      dsimp only
      split_ifs
      · rfl
      · rfl
      · rfl
    | .done (byte :: data) =>
      rw [onTargetRead_done there (List.cons_ne_nil _ _), forwards, there]
      by_cases complete : session.handshakeComplete = true
      · simp only [if_pos complete, forwardToClient_toClient server, if_neg (List.cons_ne_nil byte data)]
      by_cases answered : answers (byte :: data) = true
      · simp only [if_neg complete, if_pos answered]
        cases left : leftover (byte :: data) with
        | nil => exact (List.append_nil _).symm
        | cons b rest => exact forwardToClient_toClient server
      · simp only [if_neg complete, if_neg answered, if_pos, List.append_nil]
        split_ifs
        · rfl
        · rfl

/-- The read that is taken for the switch of protocols completes the handshake. -/
lemma onTargetRead_answer (there : p.sessions[conn]? = some session) (some_bytes : data ≠ [])
    (waits : session.handshakeComplete = false) (answer : answers data = true) :
    (p.onTargetRead conn (.done data)).1.sessions[conn]? = some session.completes := by
  have updated : (p.updateSession conn ProxySession.completes ProxySession.number_completes).sessions[conn]? =
      some session.completes := by
    rw [get_updateSession, if_pos rfl, there]
    rfl
  rw [onTargetRead_done there some_bytes, waits, answer]
  dsimp only
  cases left : (leftover data).isEmpty with
  | true => exact updated
  | false => exact (congrArg (·[conn]?) (forwardToClient_sessions _ _ _)).trans updated

/-- The read that is taken for a refusal destroys the session. -/
lemma onTargetRead_refusal (there : p.sessions[conn]? = some session) (some_bytes : data ≠ [])
    (waits : session.handshakeComplete = false) (no_answer : answers data = false) (refused : refuses data = true) :
    (p.onTargetRead conn (.done data)).1.sessions[conn]? = none := by
  rw [onTargetRead_done there some_bytes, waits, no_answer, refused]
  exact (get_destroySession ..).trans (if_pos rfl)

/-- A read without one of the words changes nothing. -/
lemma onTargetRead_undecided (there : p.sessions[conn]? = some session) (some_bytes : data ≠ [])
    (waits : session.handshakeComplete = false) (undecided : (answers data || refuses data) = false) :
    (p.onTargetRead conn (.done data)).1 = p := by
  obtain ⟨no_answer, no_refusal⟩ := Bool.or_eq_false_iff.mp undecided
  rw [onTargetRead_done there some_bytes, waits, no_answer, no_refusal]
  rfl

/-- What is forwarded of a read in the handshake. -/
lemma forwards_waits (there : p.sessions[conn]? = some session) (waits : session.handshakeComplete = false) :
    p.forwards conn (.done data) = if answers data then leftover data else [] := by
  rw [forwards, there]
  dsimp only
  rw [waits]
  rfl

/-! ## Many reads -/

/-- A session in the handshake needs a read to complete it. -/
lemma not_completes_nil (there : p.sessions[conn]? = some session) (waits : session.handshakeComplete = false) :
    ¬ Completes conn p [] := by
  intro completes
  cases completes with
  | now there' complete =>
    cases there.symm.trans there'
    cases waits.symm.trans complete

/-- The reads complete the handshake when those after the first do. -/
lemma completes_cons_iff (there : p.sessions[conn]? = some session) (waits : session.handshakeComplete = false)
    (result : IOResult Bytes) (results : List (IOResult Bytes)) :
    Completes conn p (result :: results) ↔ Completes conn (p.onTargetRead conn result).1 results := by
  refine ⟨fun completes => ?_, .later⟩
  cases completes with
  | now there' complete =>
    cases there.symm.trans there'
    cases waits.symm.trans complete
  | later completes => exact completes

/-- Without a session nothing is read. -/
lemma afterTargetReads_gone (gone : p.sessions[conn]? = none) (results : List (IOResult Bytes)) :
    p.afterTargetReads conn results = p ∧ p.forwardsAll conn results = [] ∧ ¬ Completes conn p results := by
  induction results with
  | nil =>
    refine ⟨rfl, rfl, fun completes => ?_⟩
    cases completes with
    | now there => cases gone.symm.trans there
  | cons result results ih =>
    obtain ⟨after, forwarded, not_complete⟩ := ih
    have same := onTargetRead_gone gone result
    refine ⟨?_, ?_, fun completes => ?_⟩
    · rw [afterTargetReads, List.foldl_cons, same]
      exact after
    · rw [forwardsAll, same, forwarded, List.append_nil]
      cases result with
      | done data => rw [forwards, gone]
      | _ => rfl
    · cases completes with
      | now there => cases gone.symm.trans there
      | later completes =>
        rw [same] at completes
        exact not_complete completes

/-- Once the handshake is complete, all that is read is forwarded. -/
lemma forwardsAll_complete (there : p.sessions[conn]? = some session) (complete : session.handshakeComplete = true)
    {segments : List Bytes} (some_bytes : ∀ segment ∈ segments, segment ≠ []) {ending : Option (IOResult Bytes)}
    (ends : ∀ result ∈ ending, result = .failed ∨ result = .done []) :
    p.forwardsAll conn (segments.map .done ++ ending.toList) = segments.flatten := by
  induction segments generalizing p with
  | nil =>
    cases ending with
    | none => rfl
    | some result =>
      rcases ends result rfl with rfl | rfl
      · rfl
      · show (match p.sessions[conn]? with
          | none => []
          | some session => if session.handshakeComplete then [] else if answers [] then leftover [] else []) ++ [] = []
        rw [there]
        dsimp only
        rw [if_pos complete]
        rfl
  | cons segment segments ih =>
    have next : (p.onTargetRead conn (.done segment)).1.sessions[conn]? = some session := by
      rw [onTargetRead_done there (some_bytes segment List.mem_cons_self), if_pos complete, forwardToClient_sessions]
      exact there
    rw [List.map_cons, List.cons_append, forwardsAll, ih next fun s mem => some_bytes s (List.mem_cons_of_mem _ mem),
      List.flatten_cons, forwards, there]
    dsimp only
    rw [if_pos complete]

/-- The reads that do not decide anything are passed over. -/
lemma onTargetReads_undecided (there : p.sessions[conn]? = some session) (waits : session.handshakeComplete = false)
    {segments : List Bytes} (some_bytes : ∀ segment ∈ segments, segment ≠ [])
    (undecided : ∀ segment ∈ segments, (answers segment || refuses segment) = false) (rest : List (IOResult Bytes)) :
    p.afterTargetReads conn (segments.map .done ++ rest) = p.afterTargetReads conn rest ∧
    p.forwardsAll conn (segments.map .done ++ rest) = p.forwardsAll conn rest ∧
    (Completes conn p (segments.map .done ++ rest) ↔ Completes conn p rest) := by
  induction segments with
  | nil => exact ⟨rfl, rfl, Iff.rfl⟩
  | cons segment segments ih =>
    obtain ⟨after, forwarded, completes⟩ :=
      ih (fun s mem => some_bytes s (List.mem_cons_of_mem _ mem)) fun s mem => undecided s (List.mem_cons_of_mem _ mem)
    have no_word := undecided segment List.mem_cons_self
    have same := onTargetRead_undecided there (some_bytes segment List.mem_cons_self) waits no_word
    refine ⟨?_, ?_, ?_⟩
    · show afterTargetReads (p.onTargetRead conn (.done segment)).1 conn _ = _
      rw [same]
      exact after
    · rw [List.map_cons, List.cons_append, forwardsAll, same, forwarded, forwards_waits there waits,
        (Bool.or_eq_false_iff.mp no_word).1]
      rfl
    · rw [List.map_cons, List.cons_append, completes_cons_iff there waits, same]
      exact completes

/-- What the end of the connection does in the handshake. -/
lemma onTargetReads_ending (there : p.sessions[conn]? = some session) (waits : session.handshakeComplete = false)
    {ending : Option (IOResult Bytes)} (ends : ∀ result ∈ ending, result = .failed ∨ result = .done []) :
    ((p.afterTargetReads conn ending.toList).sessions[conn]? = none ↔ ending.isSome = true) ∧
    ¬ Completes conn p ending.toList := by
  cases ending with
  | none =>
    refine ⟨iff_of_false (fun gone => ?_) (fun some => by cases some), not_completes_nil there waits⟩
    cases there.symm.trans gone
  | some result =>
    have destroyed : (p.onTargetRead conn result).1.sessions[conn]? = none := by
      rw [onTargetRead_ends there (ends result rfl), get_destroySession, if_pos rfl]
    refine ⟨iff_of_true destroyed rfl, ?_⟩
    rw [Option.toList_some, completes_cons_iff there waits]
    exact (afterTargetReads_gone destroyed []).2.2

/-- Nothing in the stream decides. -/
lemma detectsExactly_undecided (there : p.sessions[conn]? = some session) (waits : session.handshakeComplete = false)
    {s : TargetStream} (undecided : ∀ segment ∈ s.segments, (answers segment || refuses segment) = false) :
    p.DetectsExactly conn s ↔ ¬ Switches s.bytes ∧ (Declines s.bytes → s.ending.isSome = true) := by
  obtain ⟨after, _, completes⟩ := onTargetReads_undecided there waits s.some_bytes undecided s.ending.toList
  obtain ⟨destroyed, not_complete⟩ := onTargetReads_ending there waits s.ends
  have not_completes : ¬ Completes conn p s.results := fun h => not_complete (completes.mp h)
  have destroys : p.Destroys conn s.results ↔ s.ending.isSome = true := by
    rw [Destroys, and_iff_left not_completes, TargetStream.results, after]
    exact destroyed
  refine ⟨fun exactly => ?_, fun ⟨no_switch, declines⟩ => ⟨?_, ?_, ?_⟩⟩
  · have no_switch : ¬ Switches s.bytes := fun switches => not_completes (exactly.completes.mpr switches)
    exact ⟨no_switch, fun declines => destroys.mp (exactly.destroys.mpr (.inl declines))⟩
  · exact iff_of_false not_completes no_switch
  · exact fun head front status => absurd ⟨head, front, status⟩ no_switch
  · rw [destroys, and_iff_left no_switch]
    exact ⟨.inr, fun h => h.elim declines id⟩

/-- What is in front of the first read with one of the words is passed over. -/
lemma onTargetReads_decided (there : p.sessions[conn]? = some session) (waits : session.handshakeComplete = false)
    {s : TargetStream} {before more : List Bytes} {segment : Bytes} (segments : s.segments = before ++ segment :: more)
    (undecided : ∀ segment ∈ before, (answers segment || refuses segment) = false) :
    p.afterTargetReads conn s.results =
      (p.onTargetRead conn (.done segment)).1.afterTargetReads conn (more.map .done ++ s.ending.toList) ∧
    p.forwardsAll conn s.results = p.forwards conn (.done segment) ++
      (p.onTargetRead conn (.done segment)).1.forwardsAll conn (more.map .done ++ s.ending.toList) ∧
    (Completes conn p s.results ↔
      Completes conn (p.onTargetRead conn (.done segment)).1 (more.map .done ++ s.ending.toList)) := by
  have some_bytes (segment : Bytes) (mem : segment ∈ before) : segment ≠ [] :=
    s.some_bytes segment (segments ▸ List.mem_append_left _ mem)
  have results : s.results = before.map .done ++ (.done segment :: (more.map .done ++ s.ending.toList)) := by
    rw [TargetStream.results, segments, List.map_append, List.append_assoc]
    rfl
  rw [results, ← completes_cons_iff there waits]
  exact onTargetReads_undecided there waits some_bytes undecided _

/-- A read is taken for a refusal. -/
lemma detectsExactly_refused (there : p.sessions[conn]? = some session) (waits : session.handshakeComplete = false)
    {s : TargetStream} {before more : List Bytes} {segment : Bytes} (segments : s.segments = before ++ segment :: more)
    (undecided : ∀ segment ∈ before, (answers segment || refuses segment) = false)
    (no_answer : answers segment = false) (refused : refuses segment = true) :
    p.DetectsExactly conn s ↔ ¬ Switches s.bytes ∧ (Declines s.bytes ∨ s.ending.isSome = true) := by
  have some_bytes : segment ≠ [] := s.some_bytes segment (segments ▸ List.mem_append_right _ List.mem_cons_self)
  obtain ⟨after, _, completes⟩ := onTargetReads_decided there waits segments undecided
  have destroyed := onTargetRead_refusal there some_bytes waits no_answer refused
  obtain ⟨gone, _, not_later⟩ := afterTargetReads_gone destroyed (more.map .done ++ s.ending.toList)
  have not_completes : ¬ Completes conn p s.results := fun h => not_later (completes.mp h)
  have destroys : p.Destroys conn s.results := by
    refine ⟨?_, not_completes⟩
    rw [after, gone]
    exact destroyed
  refine ⟨fun exactly => ?_, fun ⟨no_switch, declines⟩ => ⟨?_, ?_, ?_⟩⟩
  · have no_switch : ¬ Switches s.bytes := fun switches => not_completes (exactly.completes.mpr switches)
    exact ⟨no_switch, (exactly.destroys.mp destroys).imp id And.left⟩
  · exact iff_of_false not_completes no_switch
  · exact fun head front status => absurd ⟨head, front, status⟩ no_switch
  · exact iff_of_true destroys (declines.imp id fun ended => ⟨ended, no_switch⟩)

/-- The part of a stream that the rest of it is behind. -/
lemma front_eq {head front rest : Bytes} (prefixed : head <+: front ++ rest)
    (behind : rest = (front ++ rest).drop head.length) : head = front := by
  have lengths := congrArg List.length behind
  have le := prefixed.length_le
  rw [List.length_drop] at lengths
  rw [List.length_append] at lengths le
  have same : head.length = front.length := by omega
  exact (List.prefix_of_prefix_length_le prefixed (List.prefix_append front rest) same.le).eq_of_length same

/-- A stream does not begin with two responses. -/
lemma not_declines {stream : Bytes} (switches : Switches stream) : ¬ Declines stream := by
  intro ⟨head, code, front, status, _, _, other⟩
  obtain ⟨head', front', status'⟩ := switches
  obtain rfl := front.unique front'
  rw [hasStatus] at status status'
  generalize lines head = found at status status'
  cases found with
  | nil => cases status
  | cons first _ =>
    dsimp only at status status'
    rw [isStatus, Bool.and_eq_true, Bool.and_eq_true] at status status'
    exact other ((eq_of_beq status.1.2).symm.trans (eq_of_beq status'.1.2))

/-- A read is taken for the switch of protocols. -/
lemma detectsExactly_answered (there : p.sessions[conn]? = some session) (waits : session.handshakeComplete = false)
    {s : TargetStream} {before more : List Bytes} {segment : Bytes} (segments : s.segments = before ++ segment :: more)
    (undecided : ∀ segment ∈ before, (answers segment || refuses segment) = false) (answer : answers segment = true) :
    p.DetectsExactly conn s ↔ ∃ n, findBytes headEnd segment = some n ∧
      Through blankLine (before.flatten ++ segment.take (n + 4)) s.bytes ∧
      hasStatus (ascii "101") (before.flatten ++ segment.take (n + 4)) = true := by
  have some_bytes (segment : Bytes) (mem : segment ∈ s.segments) := s.some_bytes segment mem
  rw [segments] at some_bytes
  obtain ⟨_, forwarded, completes⟩ := onTargetReads_decided there waits segments undecided
  have completed :=
    onTargetRead_answer there (some_bytes segment (List.mem_append_right _ List.mem_cons_self)) waits answer
  have all : p.forwardsAll conn s.results = leftover segment ++ more.flatten := by
    rw [forwarded, forwardsAll_complete completed rfl
      (fun segment mem => some_bytes segment (List.mem_append_right _ (List.mem_cons_of_mem _ mem))) s.ends,
      forwards_waits there waits, if_pos answer]
  have yes : Completes conn p s.results := completes.mpr (.now completed rfl)
  have bytes : s.bytes = before.flatten ++ (segment ++ more.flatten) := by
    rw [TargetStream.bytes, segments, List.flatten_append, List.flatten_cons]
  refine ⟨fun exactly => ?_, fun ⟨n, found, front, status⟩ => ?_⟩
  · obtain ⟨head, front, status⟩ := exactly.completes.mp yes
    have behind := exactly.forwards head front status
    rw [all, bytes] at behind
    have prefixed : head <+: before.flatten ++ (segment ++ more.flatten) := bytes ▸ front.front
    cases found : findBytes headEnd segment with
    | none =>
      rw [leftover, found, ← List.append_assoc] at behind
      rw [← List.append_assoc] at prefixed
      have ends := front.ends
      rw [front_eq prefixed behind] at ends
      have long : headEnd.length ≤ segment.length := by
        have words := (findBytes_isSome.mp answer).length_le
        exact Nat.le_trans (by decide +kernel) words
      have inside : headEnd <:+: segment :=
        (List.suffix_of_suffix_length_le ends (List.suffix_append _ _) long).isInfix
      rw [← findBytes_isSome, found] at inside
      cases inside
    | some n =>
      have same : segment ++ more.flatten = segment.take (n + 4) ++ (segment.drop (n + 4) ++ more.flatten) := by
        rw [← List.append_assoc, List.take_append_drop]
      rw [leftover, found, same, ← List.append_assoc] at behind
      rw [same, ← List.append_assoc] at prefixed
      obtain rfl := front_eq prefixed behind
      exact ⟨n, rfl, front, status⟩
  · have switches : Switches s.bytes := ⟨_, front, status⟩
    refine ⟨iff_of_true yes switches, fun head front' _ => ?_, iff_of_false (fun h => h.2 yes) ?_⟩
    · obtain rfl := front.unique front'
      have same : s.bytes = (before.flatten ++ segment.take (n + 4)) ++ (segment.drop (n + 4) ++ more.flatten) := by
        rw [bytes, List.append_assoc, ← List.append_assoc (segment.take (n + 4)), List.take_append_drop]
      rw [all, leftover, found, same, List.drop_left]
    · exact not_or.mpr ⟨not_declines switches, fun h => h.2 switches⟩

/-- The segment that decides is an answer or a refusal. -/
lemma decided_head {s : TargetStream} {segment : Bytes} {more : List Bytes} (h : s.decided = segment :: more) :
    (answers segment || refuses segment) = true := by
  rw [TargetStream.decided] at h
  have first := List.head?_dropWhile_not (fun segment => !(answers segment || refuses segment)) s.segments
  rw [h] at first
  dsimp only [List.head?_cons] at first
  rwa [Bool.not_eq_false'] at first

/-- The upgrade is detected exactly on the streams that come clear. -/
theorem detectsExactly_iff (there : p.sessions[conn]? = some session) (waits : session.handshakeComplete = false)
    (s : TargetStream) : p.DetectsExactly conn s ↔ s.ComesClear := by
  have parts : s.segments = s.undecided ++ s.decided := List.takeWhile_append_dropWhile.symm
  have undecided (segment : Bytes) (mem : segment ∈ s.undecided) : (answers segment || refuses segment) = false := by
    have passed := List.mem_takeWhile_imp mem
    rw [Bool.not_eq_true'] at passed
    exact passed
  rw [TargetStream.ComesClear]
  cases decided : s.decided with
  | nil =>
    rw [decided, List.append_nil] at parts
    exact detectsExactly_undecided there waits (parts ▸ undecided)
  | cons segment more =>
    rw [decided] at parts
    dsimp only
    split_ifs with answer
    · exact detectsExactly_answered there waits parts undecided answer
    · have no_answer := Bool.eq_false_iff.mpr answer
      have decides := decided_head decided
      rw [no_answer, Bool.false_or] at decides
      exact detectsExactly_refused there waits parts undecided no_answer decides

/-- A session that is created is there. -/
lemma session_createSession (p : CDPProxyHandler) (conn : Int) (subpath : String) :
    (p.createSession conn subpath).sessions[conn]? = some { number := p.nextSession, subpath := subpath } :=
  get_createSession.trans (if_pos rfl)

/-- The head comes in one read, with the first byte of a frame. -/
theorem detectsExactly_clear :
    (({ server := true, numbered := Relay.numbered_empty } : CDPProxyHandler).createSession 1 "").DetectsExactly 1
      ⟨[utf8 "HTTP/1.1 101 Switching Protocols\r\nUpgrade: websocket\r\n\r\n" ++ [129], [1, 65]], none,
        by decide +kernel, fun _ none => nomatch none⟩ := by
  apply (detectsExactly_iff (session_createSession _ 1 "") rfl _).mpr
  refine ⟨52, ?_, ?_, ?_⟩
  · decide +kernel
  · decide +kernel
  · decide +kernel

/-- A head that is cut inside its status code is taken for a refusal, and one with another reason for no answer. -/
theorem detectsExactly_fails :
    ¬ (({ server := true, numbered := Relay.numbered_empty } : CDPProxyHandler).createSession 1 "").DetectsExactly 1
      ⟨[utf8 "HTTP/1.1 10", utf8 "1 Switching Protocols\r\n\r\n"], none,
        by decide +kernel, fun _ none => nomatch none⟩ ∧
    ¬ (({ server := true, numbered := Relay.numbered_empty } : CDPProxyHandler).createSession 1 "").DetectsExactly 1
      ⟨[utf8 "HTTP/1.1 101 Web Socket Protocol Handshake\r\n\r\n"], none,
        by decide +kernel, fun _ none => nomatch none⟩ := by
  constructor
  · intro exactly
    have refused := (detectsExactly_refused (session_createSession _ 1 "") rfl (List.nil_append _).symm
      (List.forall_mem_nil _) (by decide +kernel) (by decide +kernel)).mp exactly
    apply refused.1
    refine ⟨utf8 "HTTP/1.1 101 Switching Protocols\r\n\r\n", ?_, ?_⟩
    · decide +kernel
    · decide +kernel
  · intro exactly
    have undecided := (detectsExactly_undecided (session_createSession _ 1 "") rfl (by decide +kernel)).mp exactly
    apply undecided.1
    refine ⟨utf8 "HTTP/1.1 101 Web Socket Protocol Handshake\r\n\r\n", ?_, ?_⟩
    · decide +kernel
    · decide +kernel

end CDPProxyHandler

end PureCloak.API
