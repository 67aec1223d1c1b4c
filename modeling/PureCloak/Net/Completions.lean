import PureCloak.Net.Datagrams
import PureCloak.Net.Handshake
import Mathlib.Data.List.Nodup

/-!
# The completion of reads and writes

What the caller of a connected socket is told of its calls of `Read` and `Write`: a call is completed by what it
returns, or it returns `ERR_IO_PENDING` and its callback is run later, once (`Completion`). A `Ledger` is a socket with
the calls that were made, each with the length of its buffer. A read that the UDP socket completes at once is
reported before `Read` returns, and a write with the size of the packet in place of that of the payload;
`contract_iff` says in which runs the contract is kept.
-/

namespace PureCloak.Net
open Machine

/-- The call that a report is about. -/
def Report.concerns (call : Call) : Report → Bool
  | .returned other _ | .ran other _ => other = call
  | .stored _ => false

/-- What a call returned is about the call. -/
lemma concerns_returned (call : Call) (rv : Int) : (Report.returned call rv).concerns call = true :=
  decide_eq_true rfl

/-- A callback that ran is about its call. -/
lemma concerns_ran (call : Call) (rv : Int) : (Report.ran call rv).concerns call = true :=
  decide_eq_true rfl

/-- A call of `Read` or `Write`, with the length of its buffer. -/
def Event.call : Event → Option (Call × Nat)
  | .read bufLen callback => some (.read callback, bufLen)
  | .write payload callback => some (.write callback, payload.length)
  | _ => none

/-- A socket, and the calls of `Read` and `Write`. -/
structure Ledger extends World where
  calls : List (Call × Nat) := []

namespace Ledger

/-- What the caller was told of a call. -/
def log (l : Ledger) (call : Call) : List Report :=
  l.reports.filter (·.concerns call)

/-- The call has not returned. -/
def Within (l : Ledger) : Call → Prop
  | .read callback => l.control = .udpRead callback
  | .write callback => ∃ packet later, l.control = .udpWrite (some callback) packet later
  | _ => False

/-- The UDP socket has the callback of the call, or is about to get it. -/
def Awaited (l : Ledger) : Call → Prop
  | .read callback => l.udpReading = true ∧ l.userReadCallback = some callback
  | .write callback =>
    (∃ packet, l.udpWriting = some (packet, some callback)) ∨
      ∃ packet, l.control = .udpWrite none packet (some callback)
  | _ => False

/-- A call is completed by what it returns, or else by its callback after it has returned; between the two it is waiting
for the UDP socket, unless the socket was closed. -/
inductive Completion (l : Ledger) (call : Call) : Prop where
  | within :
    l.log call = [] →
    l.Within call →
    Completion l call
  | returned {rv} :
    rv ≠ ERR_IO_PENDING →
    l.log call = [.returned call rv] →
    Completion l call
  | awaited :
    l.log call = [.returned call ERR_IO_PENDING] →
    l.Awaited call ∨ l.closed = true →
    Completion l call
  | ran {rv} :
    l.log call = [.returned call ERR_IO_PENDING, .ran call rv] →
    Completion l call

/-- A write succeeds with no more bytes than it was given, and a read with the number of those that were stored. -/
def Sized (l : Ledger) : Call × Nat → Prop
  | (.write callback, len) =>
    ∀ rv : Int, .returned (.write callback) rv ∈ l.reports ∨ .ran (.write callback) rv ∈ l.reports → rv ≤ len
  | (.read callback, len) =>
    ∀ rv : Int, 0 ≤ rv →
      .returned (.read callback) rv ∉ l.reports ∧
      (.ran (.read callback) rv ∈ l.reports →
        ∃ stored, [.stored stored, .ran (.read callback) rv] <:+: l.reports ∧ (stored.length : Int) = rv ∧
          stored.length ≤ len)
  | _ => True

/-- The contract of `net::Socket`, for all calls. -/
structure Contract (l : Ledger) : Prop where
  completion : ∀ p ∈ l.calls, l.Completion p.1
  sized : ∀ p ∈ l.calls, l.Sized p

/-- The caller keeps to the interface, and gives every call a callback of its own. -/
def Allowed (l : Ledger) (e : Event) : Prop :=
  Conforms l.toWorld e ∧ ∀ p ∈ e.call.toList, p.1 ∉ l.calls.map Prod.fst

instance (l : Ledger) (e : Event) : Decidable (l.Allowed e) :=
  inferInstanceAs (Decidable (_ ∧ _))

/-- One step of the socket with such a caller. -/
def step (l : Ledger) (e : Event) : Option Ledger :=
  if l.Allowed e then (l.toWorld.step e).map fun w => ⟨w, l.calls ++ e.call.toList⟩ else none

/-- Nothing is outstanding on a connected socket. -/
structure Open (w : World) : Prop where
  aborted : w.aborted = false
  closed : w.closed = false
  udpConnected : w.udpConnected = true
  path : w.caller.path ≠ none
  connecting : w.caller.connecting = false
  tcpPending : w.tcpPending = none
  udpReading : w.udpReading = false
  udpWriting : w.udpWriting = none

/-- A socket that was just connected: by `ConnectAsync`, or in the middle of the first `Write`, before or after it has
returned. -/
inductive Connected (l : Ledger) : Prop where
  | idle :
    Open l.toWorld →
    l.control = .idle →
    l.reports = [] →
    l.calls = [] →
    Connected l
  | inWrite {payload callback} :
    Open l.toWorld →
    l.caller.writing = true →
    l.control = .udpWrite (some callback) (buildUDPEncapsulatedPacket l.targetAddress payload) none →
    l.reports = [] →
    l.calls = [(.write callback, payload.length)] →
    Connected l
  | inOnIOComplete {payload callback} :
    Open l.toWorld →
    l.caller.writing = true →
    -- `write_buf_` holds the packet, which is encapsulated again
    l.control = .udpWrite none (buildUDPEncapsulatedPacket l.targetAddress
      (buildUDPEncapsulatedPacket l.targetAddress payload)) (some callback) →
    l.reports = [.returned (.write callback) ERR_IO_PENDING] →
    l.calls = [(.write callback, payload.length)] →
    Connected l

/-- A result is no more than the length of the write with a callback. -/
def Fits (l : Ledger) (callback : Option Callback) (rv : Int) : Prop :=
  ∀ p ∈ l.calls, callback.map Call.write = some p.1 → rv ≤ p.2

instance (l : Ledger) (callback : Option Callback) (rv : Int) : Decidable (l.Fits callback rv) :=
  inferInstanceAs (Decidable (∀ p ∈ l.calls, callback.map Call.write = some p.1 → rv ≤ p.2))

/-- The UDP socket completes no read at once, reports no write with more bytes than the caller has given, and where the
callback was moved away does not complete it later, or at once. -/
def Spared (l : Ledger) : Event → Prop
  | .udpReads .pending => True
  | .udpReads _ => False
  | .udpWrites rv =>
    match l.control with
    | .udpWrite caller _ callback =>
      l.Fits caller rv ∧ (callback = none → rv ≠ ERR_IO_PENDING) ∧ (caller = none → rv = ERR_IO_PENDING)
    | _ => True
  | .udpWriteCompletes rv =>
    match l.udpWriting with
    | some (_, callback) => l.Fits callback rv
    | none => True
  | _ => True

instance (l : Ledger) : (e : Event) → Decidable (l.Spared e)
  | .udpReads .pending => isTrue trivial
  | .udpReads .none | .udpReads (.result _) | .udpReads (.bytes _) | .udpReads (.udp _ _ _) => isFalse id
  | .udpWrites rv =>
    match h : l.control with
    | .udpWrite caller _ callback =>
      decidable_of_iff
        (l.Fits caller rv ∧ (callback = none → rv ≠ ERR_IO_PENDING) ∧ (caller = none → rv = ERR_IO_PENDING))
        (by rw [Spared, h])
    | .idle | .doLoop _ _ | .udpRead _ => isTrue (by rw [Spared, h]; trivial)
  | .udpWriteCompletes rv =>
    match h : l.udpWriting with
    | some (_, callback) => decidable_of_iff (l.Fits callback rv) (by rw [Spared, h])
    | none => isTrue (by rw [Spared, h]; trivial)
  | .connect _ _ _ | .connectAsync _ _ | .read _ _ | .write _ _ | .close | .turn _ | .tcpCompletes _
  | .udpReadCompletes _ => isTrue trivial

/-! ## Reports -/

/-- New reports are added to the logs of their calls. -/
lemma log_append {l l' : Ledger} {call : Call} {new : List Report} (reports : l'.reports = l.reports ++ new) :
    l'.log call = l.log call ++ new.filter (·.concerns call) := by
  rw [log, reports, List.filter_append]
  rfl

/-- Reports on another call. -/
def Elsewhere (call : Call) (new : List Report) : Prop :=
  ∀ r ∈ new, r.concerns call = false

/-- Reports elsewhere leave a log as it was. -/
lemma log_elsewhere {l l' : Ledger} {call : Call} {new : List Report} (reports : l'.reports = l.reports ++ new)
    (elsewhere : Elsewhere call new) : l'.log call = l.log call := by
  have none_kept : new.filter (·.concerns call) = [] := by
    apply List.filter_eq_nil_iff.mpr
    intro r hr
    rw [elsewhere r hr]
    exact Bool.false_ne_true
  rw [log_append reports, none_kept, List.append_nil]

/-- A report on a call is not among those elsewhere. -/
lemma mem_elsewhere {l l' : Ledger} {call : Call} {new : List Report} {r : Report}
    (reports : l'.reports = l.reports ++ new) (elsewhere : Elsewhere call new) (about : r.concerns call = true)
    (h : r ∈ l'.reports) : r ∈ l.reports := by
  rw [reports] at h
  rcases List.mem_append.mp h with old | added
  · exact old
  · exact absurd ((elsewhere r added).symm.trans about) Bool.false_ne_true

/-- A call that nothing new is said about. -/
lemma Sized.keep {l l' : Ledger} {p : Call × Nat} {new : List Report} (reports : l'.reports = l.reports ++ new)
    (elsewhere : Elsewhere p.1 new) (h : l.Sized p) : l'.Sized p := by
  obtain ⟨call, len⟩ := p
  have back {r : Report} (about : r.concerns call = true) : r ∈ l'.reports → r ∈ l.reports :=
    mem_elsewhere reports elsewhere about
  cases call with
  | write callback =>
    intro rv told
    exact h rv (told.imp (back (concerns_returned _ _)) (back (concerns_ran _ _)))
  | read callback =>
    intro rv nonneg
    obtain ⟨never, counted⟩ := h rv nonneg
    refine ⟨fun told => never (back (concerns_returned _ _) told), fun told => ?_⟩
    obtain ⟨stored, inside, same, le⟩ := counted (back (concerns_ran _ _) told)
    refine ⟨stored, ?_, same, le⟩
    rw [reports]
    exact inside.trans (List.prefix_append _ _).isInfix
  | _ => trivial

/-- The completion of a call is kept while the others are reported on. -/
lemma Completion.keep {l l' : Ledger} {call : Call} {new : List Report} (reports : l'.reports = l.reports ++ new)
    (elsewhere : Elsewhere call new) (within : l.Within call → l'.Within call)
    (awaited : l.Awaited call ∨ l.closed = true → l'.Awaited call ∨ l'.closed = true) (h : l.Completion call) :
    l'.Completion call := by
  have same := log_elsewhere reports elsewhere
  cases h with
  | within told inside => exact .within (same.trans told) (within inside)
  | returned ne told => exact .returned ne (same.trans told)
  | awaited told waits => exact .awaited (same.trans told) (awaited waits)
  | ran told => exact .ran (same.trans told)

/-! ## The invariant -/

/-- What the code is doing fits the calls. -/
inductive Fitting (l : Ledger) : Prop where
  | idle :
    l.control = .idle →
    Fitting l
  | reads {callback len} :
    l.control = .udpRead callback →
    (.read callback, len) ∈ l.calls →
    l.log (.read callback) = [] →
    l.userReadCallback = some callback →
    l.userReadBuf = some len →
    l.caller.reading = true →
    Fitting l
  | writes {callback packet later} :
    l.control = .udpWrite (some callback) packet later →
    .write callback ∈ l.calls.map Prod.fst →
    l.log (.write callback) = [] →
    later = none ∨ later = some callback →
    l.udpWriting = none →
    l.caller.writing = true →
    l.closed = false →
    Fitting l
  | sends {callback packet} :
    l.control = .udpWrite none packet (some callback) →
    .write callback ∈ l.calls.map Prod.fst →
    l.log (.write callback) = [.returned (.write callback) ERR_IO_PENDING] →
    l.udpWriting = none →
    l.caller.writing = true →
    l.closed = false →
    Fitting l

/-- The ledger of a caller to whom the contract was kept. -/
structure Inv (l : Ledger) : Prop extends Contract l where
  aborted : l.aborted = false
  path : l.caller.path ≠ none
  connecting : l.caller.connecting = false
  tcpPending : l.tcpPending = none
  connected : l.closed = false → l.udpConnected = true
  names : (l.calls.map Prod.fst).Nodup
  known : ∀ call, call ∉ l.calls.map Prod.fst → l.log call = []
  fitting : l.Fitting
  reading : l.udpReading = true → ∃ callback len, (.read callback, len) ∈ l.calls ∧
    l.userReadCallback = some callback ∧ l.userReadBuf = some len ∧
    l.log (.read callback) = [.returned (.read callback) ERR_IO_PENDING] ∧ l.caller.reading = true
  writing : ∀ packet later, l.udpWriting = some (packet, later) → ∃ callback,
    later = some callback ∧ .write callback ∈ l.calls.map Prod.fst ∧
    l.log (.write callback) = [.returned (.write callback) ERR_IO_PENDING] ∧ l.caller.writing = true

/-! ## The steps of the socket -/

/-- An assertion changes nothing but what has fired. -/
lemma dcheck_eq (w : World) (a : Assertion) (c : Prop) [Decidable c] :
    ∃ fired, w.dcheck a c = { w with fired := fired } := by
  rw [World.dcheck]
  split_ifs
  · exact ⟨w.fired, rfl⟩
  · exact ⟨_, rfl⟩

/-- What `Read` does, up to assertions. -/
lemma read_eq (w : World) (bufLen : Nat) (callback : Callback) :
    ∃ fired, w.read bufLen callback =
      if w.udpConnected then
        { w with
          fired := fired
          caller := { w.caller with reading := true }
          userReadBuf := some bufLen
          userReadCallback := some callback
          readBuf := some (w.readBuf.getD { capacity := max bufLen 65536 })
          control := .udpRead callback }
      else
        { w with
          fired := fired
          caller := { w.caller with reading := false }
          reports := w.reports ++ [.returned (.read callback) ERR_SOCKET_NOT_CONNECTED] } := by
  obtain ⟨fired1, eq1⟩ := dcheck_eq { w with caller := { w.caller with reading := true } } .readNotReading
    (w.userReadCallback = none)
  obtain ⟨fired2, eq2⟩ := dcheck_eq { w with caller := { w.caller with reading := true }, fired := fired1 }
    .readNotWriting (w.userWriteCallback = none)
  refine ⟨fired2, ?_⟩
  rw [World.read]
  dsimp only
  rw [eq1]
  dsimp only
  rw [eq2]
  cases w.udpConnected <;> rfl

/-- What `Write` does on a connected socket, up to assertions. -/
lemma write_eq {w : World} (payload : List UInt8) (callback : Callback)
    (opened : w.closed = false → w.udpConnected = true) :
    ∃ fired, w.write payload callback =
      if w.closed then
        { w with
          fired := fired
          caller := { w.caller with writing := false }
          reports := w.reports ++ [.returned (.write callback) ERR_CONNECTION_CLOSED] }
      else
        { w with
          fired := fired
          caller := { w.caller with writing := true }
          control :=
            .udpWrite (some callback) (buildUDPEncapsulatedPacket w.targetAddress payload) (some callback) } := by
  obtain ⟨fired1, eq1⟩ := dcheck_eq { w with caller := { w.caller with writing := true } } .writeNotReading
    (w.userReadCallback = none)
  obtain ⟨fired2, eq2⟩ := dcheck_eq { w with caller := { w.caller with writing := true }, fired := fired1 }
    .writeNotWriting (w.userWriteCallback = none)
  refine ⟨fired2, ?_⟩
  rw [World.write]
  dsimp only
  rw [eq1]
  dsimp only
  rw [eq2]
  cases closed : w.closed with
  | true => rfl
  | false =>
    simp only [opened closed]
    rfl

/-- No reports at all are elsewhere. -/
lemma elsewhere_nil (call : Call) : Elsewhere call [] :=
  fun _ h => absurd h List.not_mem_nil

/-- What a call returned is elsewhere for every other call. -/
lemma elsewhere_returned {call other : Call} (ne : other ≠ call) (rv : Int) :
    Elsewhere other [.returned call rv] := by
  intro r hr
  rw [List.mem_singleton.mp hr]
  exact decide_eq_false (Ne.symm ne)

/-- So is a callback that ran. -/
lemma elsewhere_ran {call other : Call} (ne : other ≠ call) (rv : Int) : Elsewhere other [.ran call rv] := by
  intro r hr
  rw [List.mem_singleton.mp hr]
  exact decide_eq_false (Ne.symm ne)

/-- So are bytes that were stored, with the callback that ran for them. -/
lemma elsewhere_stored {call other : Call} (ne : other ≠ call) (stored : List UInt8) (rv : Int) :
    Elsewhere other [.stored stored, .ran call rv] := by
  intro r hr
  rcases List.mem_cons.mp hr with rfl | hr
  · rfl
  · exact elsewhere_ran ne rv r hr

/-- A call that returned has its result in its log. -/
lemma log_returned {l l' : Ledger} {call : Call} {rv : Int} (reports : l'.reports = l.reports ++ [.returned call rv]) :
    l'.log call = l.log call ++ [.returned call rv] := by
  rw [log_append reports]
  simp [Report.concerns]

/-- A callback that ran has its result in its log. -/
lemma log_ran {l l' : Ledger} {call : Call} {rv : Int} (reports : l'.reports = l.reports ++ [.ran call rv]) :
    l'.log call = l.log call ++ [.ran call rv] := by
  rw [log_append reports]
  simp [Report.concerns]

/-- The bytes that were stored are not part of a log. -/
lemma log_stored {l l' : Ledger} {call : Call} {stored : List UInt8} {rv : Int}
    (reports : l'.reports = l.reports ++ [.stored stored, .ran call rv]) :
    l'.log call = l.log call ++ [.ran call rv] := by
  rw [log_append reports]
  simp [Report.concerns]

/-- Nothing has been reported on a call that is new. -/
lemma Inv.unknown {l : Ledger} (inv : l.Inv) {call : Call} {r : Report} (new : call ∉ l.calls.map Prod.fst)
    (about : r.concerns call = true) : r ∉ l.reports := by
  intro hr
  have kept : r ∈ l.log call := List.mem_filter.mpr ⟨hr, about⟩
  rw [inv.known call new] at kept
  exact absurd kept List.not_mem_nil

/-- A step reports on one call, which may be a new one. -/
structure Says (l l' : Ledger) (call : Call) (new : List Report) (added : List (Call × Nat)) : Prop where
  reports : l'.reports = l.reports ++ new
  elsewhere : ∀ other, other ≠ call → Elsewhere other new
  calls : l'.calls = l.calls ++ added
  added : added = [] ∧ call ∈ l.calls.map Prod.fst ∨ ∃ len, added = [(call, len)] ∧ call ∉ l.calls.map Prod.fst
  within : ∀ other, other ≠ call → l.Within other → l'.Within other
  awaited : ∀ other, other ≠ call → l.Awaited other → l'.Awaited other
  closed : l'.closed = l.closed
  connected : l'.udpConnected = l.udpConnected
  aborted : l'.aborted = l.aborted
  path : l'.caller.path = l.caller.path
  connecting : l'.caller.connecting = l.caller.connecting
  tcpPending : l'.tcpPending = l.tcpPending

section
variable {l l' : Ledger} {call : Call} {new : List Report} {added : List (Call × Nat)}

/-- The logs of the other calls are as they were. -/
lemma Says.log (s : Says l l' call new added) {other : Call} (ne : other ≠ call) : l'.log other = l.log other :=
  log_elsewhere s.reports (s.elsewhere other ne)

/-- The earlier calls are still there. -/
lemma Says.old (s : Says l l' call new added) {p : Call × Nat} (h : p ∈ l.calls) : p ∈ l'.calls := by
  rw [s.calls]
  exact List.mem_append_left _ h

/-- So are their names. -/
lemma Says.old_name (s : Says l l' call new added) {other : Call} (h : other ∈ l.calls.map Prod.fst) :
    other ∈ l'.calls.map Prod.fst := by
  obtain ⟨p, hp, rfl⟩ := List.mem_map.mp h
  exact List.mem_map_of_mem (s.old hp)

/-- The call of the step has a name. -/
lemma Says.own (s : Says l l' call new added) : call ∈ l'.calls.map Prod.fst := by
  rcases s.added with ⟨_, known⟩ | ⟨len, rfl, _⟩
  · exact s.old_name known
  · rw [s.calls]
    exact List.mem_map.mpr ⟨(call, len), List.mem_append_right _ List.mem_cons_self, rfl⟩

/-- No name is given twice. -/
lemma Says.names (s : Says l l' call new added) (names : (l.calls.map Prod.fst).Nodup) :
    (l'.calls.map Prod.fst).Nodup := by
  rw [s.calls]
  rcases s.added with ⟨rfl, _⟩ | ⟨len, rfl, fresh⟩
  · rw [List.append_nil]
    exact names
  · rw [List.map_append, List.nodup_append]
    refine ⟨names, List.nodup_singleton _, fun a ha b hb same => fresh ?_⟩
    have last : b = call := List.mem_singleton.mp hb
    exact last ▸ same ▸ ha

/-- An entry of another call was there before. -/
lemma Says.mem_old (s : Says l l' call new added) {p : Call × Nat} (hp : p ∈ l'.calls) (ne : p.1 ≠ call) :
    p ∈ l.calls := by
  rw [s.calls] at hp
  rcases List.mem_append.mp hp with old | last
  · exact old
  · rcases s.added with ⟨rfl, _⟩ | ⟨len, rfl, _⟩
    · exact absurd last List.not_mem_nil
    · exact absurd (congrArg Prod.fst (List.mem_singleton.mp last)) ne

/-- The contract is kept, if it is for the call of the step. -/
lemma Says.contract (s : Says l l' call new added) (h : l.Contract)
    (told : ∀ p ∈ l'.calls, p.1 = call → l'.Completion call ∧ l'.Sized p) : l'.Contract where
  completion p hp := by
    by_cases own : p.1 = call
    · rw [own]
      exact (told p hp own).1
    · have waits (w : l.Awaited p.1 ∨ l.closed = true) : l'.Awaited p.1 ∨ l'.closed = true :=
        w.imp (s.awaited p.1 own) s.closed.trans
      exact (h.completion p (s.mem_old hp own)).keep s.reports (s.elsewhere p.1 own) (s.within p.1 own) waits
  sized p hp := by
    by_cases own : p.1 = call
    · exact (told p hp own).2
    · exact (h.sized p (s.mem_old hp own)).keep s.reports (s.elsewhere p.1 own)

/-- What is logged is about calls that were made. -/
lemma Says.known (s : Says l l' call new added) (known : ∀ call, call ∉ l.calls.map Prod.fst → l.log call = [])
    (other : Call) (unknown : other ∉ l'.calls.map Prod.fst) : l'.log other = [] := by
  have ne : other ≠ call := fun same => unknown (same ▸ s.own)
  rw [s.log ne]
  exact known other fun old => unknown (s.old_name old)

/-- The step leaves the reads alone. -/
structure SameReads (l l' : Ledger) : Prop where
  udpReading : l'.udpReading = l.udpReading
  callback : l'.userReadCallback = l.userReadCallback
  buf : l'.userReadBuf = l.userReadBuf
  waits : l.udpReading = true → l'.caller.reading = l.caller.reading

/-- The step leaves the writes alone. -/
structure SameWrites (l l' : Ledger) : Prop where
  udpWriting : l'.udpWriting = l.udpWriting
  waits : l.udpWriting ≠ none → l'.caller.writing = l.caller.writing

/-- A read that waits goes on waiting, when the step is about another call. -/
lemma Says.reading (s : Says l l' call new added) (inv : l.Inv) (same : SameReads l l')
    (other : ∀ callback, .read callback ∈ l.calls.map Prod.fst → Call.read callback ≠ call)
    (reading : l'.udpReading = true) :
    ∃ callback len, (.read callback, len) ∈ l'.calls ∧
      l'.userReadCallback = some callback ∧ l'.userReadBuf = some len ∧
      l'.log (.read callback) = [.returned (.read callback) ERR_IO_PENDING] ∧ l'.caller.reading = true := by
  rw [same.udpReading] at reading
  obtain ⟨cb, len, mem, set, length, told, outstanding⟩ := inv.reading reading
  refine ⟨cb, len, s.old mem, same.callback.trans set, same.buf.trans length, ?_,
    (same.waits reading).trans outstanding⟩
  rw [s.log (other cb (List.mem_map_of_mem mem))]
  exact told

/-- And so does a write. -/
lemma Says.writing (s : Says l l' call new added) (inv : l.Inv) (same : SameWrites l l')
    (other : ∀ callback, .write callback ∈ l.calls.map Prod.fst → Call.write callback ≠ call) {packet : List UInt8}
    {later : Option Callback} (writing : l'.udpWriting = some (packet, later)) :
    ∃ callback, later = some callback ∧ .write callback ∈ l'.calls.map Prod.fst ∧
      l'.log (.write callback) = [.returned (.write callback) ERR_IO_PENDING] ∧ l'.caller.writing = true := by
  rw [same.udpWriting] at writing
  obtain ⟨cb, rfl, mem, told, outstanding⟩ := inv.writing packet later writing
  have some_write : l.udpWriting ≠ none := fun none => by cases none.symm.trans writing
  refine ⟨cb, rfl, s.old_name mem, ?_, (same.waits some_write).trans outstanding⟩
  rw [s.log (other cb mem)]
  exact told

/-- The invariant is kept, if the call of the step is told what it should be. -/
lemma Says.inv (s : Says l l' call new added) (inv : l.Inv)
    (told : ∀ p ∈ l'.calls, p.1 = call → l'.Completion call ∧ l'.Sized p) (fitting : l'.Fitting)
    (reading : l'.udpReading = true → ∃ callback len, (.read callback, len) ∈ l'.calls ∧
      l'.userReadCallback = some callback ∧ l'.userReadBuf = some len ∧
      l'.log (.read callback) = [.returned (.read callback) ERR_IO_PENDING] ∧ l'.caller.reading = true)
    (writing : ∀ packet later, l'.udpWriting = some (packet, later) → ∃ callback,
      later = some callback ∧ .write callback ∈ l'.calls.map Prod.fst ∧
      l'.log (.write callback) = [.returned (.write callback) ERR_IO_PENDING] ∧ l'.caller.writing = true) : l'.Inv where
  toContract := s.contract inv.toContract told
  aborted := s.aborted.trans inv.aborted
  path := s.path ▸ inv.path
  connecting := s.connecting.trans inv.connecting
  tcpPending := s.tcpPending.trans inv.tcpPending
  connected closed := s.connected.trans (inv.connected (s.closed.symm.trans closed))
  names := s.names inv.names
  known := s.known inv.known
  fitting := fitting
  reading := reading
  writing := writing

end

/-! ## One step -/

/-- A report is in the log of its call. -/
lemma mem_log {l : Ledger} {call : Call} {r : Report} (about : r.concerns call = true) (h : r ∈ l.reports) :
    r ∈ l.log call :=
  List.mem_filter.mpr ⟨h, about⟩

/-- A write that was told nothing but that it waits and a result. -/
lemma Sized.write {l : Ledger} {callback : Callback} {len : Nat} {rv : Int} (le : rv ≤ len)
    (h : ∀ r ∈ l.log (.write callback), r = .returned (.write callback) ERR_IO_PENDING ∨
      r = .returned (.write callback) rv ∨ r = .ran (.write callback) rv) : l.Sized (.write callback, len) := by
  intro rv' told
  have pending : ERR_IO_PENDING ≤ (len : Int) := by
    show -1 ≤ (len : Int)
    omega
  rcases told with returned | ran
  · rcases h _ (mem_log (concerns_returned _ _) returned) with same | same | same
    · cases same
      exact pending
    · cases same
      exact le
    · cases same
  · rcases h _ (mem_log (concerns_ran _ _) ran) with same | same | same
    · cases same
    · cases same
    · cases same
      exact le

/-- A read that has returned with an error, or is waiting. -/
lemma Sized.read {l : Ledger} {callback : Callback} {len : Nat} {rv : Int} (negative : rv < 0)
    (h : l.log (.read callback) = [.returned (.read callback) rv] ∨ l.log (.read callback) = []) :
    l.Sized (.read callback, len) := by
  intro rv' nonneg
  have only {r : Report} (about : r.concerns (.read callback) = true) (hr : r ∈ l.reports) :
      r = .returned (.read callback) rv := by
    have kept := mem_log about hr
    rcases h with one | none
    · exact List.mem_singleton.mp (one ▸ kept)
    · exact absurd (none ▸ kept) List.not_mem_nil
  refine ⟨fun told => ?_, fun told => ?_⟩
  · have same := only (concerns_returned _ _) told
    rw [Report.returned.injEq] at same
    omega
  · cases only (concerns_ran _ _) told

/-- A call has one length. -/
lemma Inv.length_unique {l : Ledger} (inv : l.Inv) {call : Call} {len len' : Nat} (h : (call, len) ∈ l.calls)
    (h' : (call, len') ∈ l.calls) : len = len' := by
  have same := List.inj_on_of_nodup_map inv.names h h' rfl
  exact congrArg Prod.snd same

section
variable {l l' : Ledger} {callback : Callback} {len : Nat} {rv : Int}

/-- A read is refused. -/
lemma Inv.refusesRead (inv : l.Inv) (s : Says l l' (.read callback) [.returned (.read callback) rv]
    [(.read callback, len)]) (new : .read callback ∉ l.calls.map Prod.fst) (not_pending : rv ≠ ERR_IO_PENDING)
    (negative : rv < 0) (control : l'.control = .idle) (reads : SameReads l l') (writes : SameWrites l l') :
    l'.Inv := by
  have told : l'.log (.read callback) = [.returned (.read callback) rv] := by
    rw [log_returned s.reports, inv.known _ new]
    rfl
  refine s.inv inv ?_ (.idle control) ?_ ?_
  · intro (call, size) _ own
    obtain rfl : call = .read callback := own
    exact ⟨.returned not_pending told, .read negative (.inl told)⟩
  · exact s.reading inv reads fun other mem same => new (same ▸ mem)
  · exact fun packet later => s.writing inv writes fun _ _ same => by cases same

/-- A write is refused. -/
lemma Inv.refusesWrite (inv : l.Inv) (s : Says l l' (.write callback) [.returned (.write callback) rv]
    [(.write callback, len)]) (new : .write callback ∉ l.calls.map Prod.fst) (not_pending : rv ≠ ERR_IO_PENDING)
    (negative : rv < 0) (control : l'.control = .idle) (reads : SameReads l l') (writes : SameWrites l l') :
    l'.Inv := by
  have told : l'.log (.write callback) = [.returned (.write callback) rv] := by
    rw [log_returned s.reports, inv.known _ new]
    rfl
  refine s.inv inv ?_ (.idle control) ?_ ?_
  · intro (call, size) _ own
    obtain rfl : call = .write callback := own
    refine ⟨.returned not_pending told, .write (Int.le_trans (Int.le_of_lt negative) (Int.natCast_nonneg _)) ?_⟩
    intro r hr
    exact .inr (.inl (List.mem_singleton.mp (told ▸ hr)))
  · exact s.reading inv reads fun _ _ same => by cases same
  · exact fun packet later => s.writing inv writes fun other mem same => new (same ▸ mem)

/-- A read goes to the UDP socket. -/
lemma Inv.beginsRead (inv : l.Inv) (s : Says l l' (.read callback) [] [(.read callback, len)])
    (new : .read callback ∉ l.calls.map Prod.fst) (idle : l.udpReading = false)
    (control : l'.control = .udpRead callback) (set : l'.userReadCallback = some callback)
    (buf : l'.userReadBuf = some len) (same : l'.udpReading = l.udpReading) (reading : l'.caller.reading = true)
    (writes : SameWrites l l') : l'.Inv := by
  have told : l'.log (.read callback) = [] := by
    rw [log_append s.reports, inv.known _ new]
    rfl
  have mem : (.read callback, len) ∈ l'.calls := by
    rw [s.calls]
    exact List.mem_append_right _ List.mem_cons_self
  refine s.inv inv ?_ (.reads control mem told set buf reading) ?_ ?_
  · intro (call, size) _ own
    obtain rfl : call = .read callback := own
    exact ⟨.within told control, .read (by decide : ERR_IO_PENDING < 0) (.inr told)⟩
  · intro going
    cases idle.symm.trans (same.symm.trans going)
  · exact fun packet later => s.writing inv writes fun _ _ same => by cases same

/-- A write goes to the UDP socket. -/
lemma Inv.beginsWrite {packet : List UInt8} (inv : l.Inv)
    (s : Says l l' (.write callback) [] [(.write callback, len)])
    (new : .write callback ∉ l.calls.map Prod.fst) (idle : l.udpWriting = none)
    (control : l'.control = .udpWrite (some callback) packet (some callback)) (same : l'.udpWriting = l.udpWriting)
    (writing : l'.caller.writing = true) (opened : l'.closed = false) (reads : SameReads l l') : l'.Inv := by
  have told : l'.log (.write callback) = [] := by
    rw [log_append s.reports, inv.known _ new]
    rfl
  refine s.inv inv ?_ (.writes control s.own told (.inr rfl) (same.trans idle) writing opened) ?_ ?_
  · intro (call, size) _ own
    obtain rfl : call = .write callback := own
    refine ⟨.within told ⟨packet, some callback, control⟩, .write (Int.natCast_nonneg size) fun r hr => ?_⟩
    rw [told] at hr
    exact absurd hr List.not_mem_nil
  · exact s.reading inv reads fun _ _ same => by cases same
  · intro packet later going
    cases idle.symm.trans (same.symm.trans going)

/-- A read waits for the UDP socket. -/
lemma Inv.parksRead (inv : l.Inv) (s : Says l l' (.read callback) [.returned (.read callback) ERR_IO_PENDING] [])
    (mem : (.read callback, len) ∈ l.calls) (before : l.log (.read callback) = []) (control : l'.control = .idle)
    (set : l'.userReadCallback = some callback) (buf : l'.userReadBuf = some len) (reading : l'.caller.reading = true)
    (going : l'.udpReading = true) (writes : SameWrites l l') : l'.Inv := by
  have told : l'.log (.read callback) = [.returned (.read callback) ERR_IO_PENDING] := by
    rw [log_returned s.reports, before]
    rfl
  refine s.inv inv ?_ (.idle control) ?_ ?_
  · intro (call, size) _ own
    obtain rfl : call = .read callback := own
    exact ⟨.awaited told (.inl ⟨going, set⟩), .read (by decide : ERR_IO_PENDING < 0) (.inl told)⟩
  · exact fun _ => ⟨callback, len, s.old mem, set, buf, told, reading⟩
  · exact fun packet later => s.writing inv writes fun _ _ same => by cases same

/-- A write returns a result of the UDP socket. -/
lemma Inv.returnsWrite (inv : l.Inv) (s : Says l l' (.write callback) [.returned (.write callback) rv] [])
    (before : l.log (.write callback) = []) (not_pending : rv ≠ ERR_IO_PENDING)
    (fits : ∀ size, (.write callback, size) ∈ l.calls → rv ≤ size) (control : l'.control = .idle)
    (idle : l'.udpWriting = none) (reads : SameReads l l') : l'.Inv := by
  have told : l'.log (.write callback) = [.returned (.write callback) rv] := by
    rw [log_returned s.reports, before]
    rfl
  refine s.inv inv ?_ (.idle control) ?_ ?_
  · intro (call, size) hp own
    obtain rfl : call = .write callback := own
    rw [s.calls, List.append_nil] at hp
    refine ⟨.returned not_pending told, .write (fits size hp) fun r hr => ?_⟩
    exact .inr (.inl (List.mem_singleton.mp (told ▸ hr)))
  · exact s.reading inv reads fun _ _ same => by cases same
  · intro packet later going
    cases idle.symm.trans going

/-- A write waits for the UDP socket, which has its callback. -/
lemma Inv.parksWrite {packet : List UInt8} {new : List Report} (inv : l.Inv) (s : Says l l' (.write callback) new [])
    (told : l'.log (.write callback) = [.returned (.write callback) ERR_IO_PENDING]) (control : l'.control = .idle)
    (going : l'.udpWriting = some (packet, some callback)) (writing : l'.caller.writing = true)
    (reads : SameReads l l') : l'.Inv := by
  refine s.inv inv ?_ (.idle control) ?_ ?_
  · intro (call, size) hp own
    obtain rfl : call = .write callback := own
    refine ⟨.awaited told (.inl (.inl ⟨packet, going⟩)), .write (Int.natCast_nonneg size) fun r hr => ?_⟩
    exact .inl (List.mem_singleton.mp (told ▸ hr))
  · exact s.reading inv reads fun _ _ same => by cases same
  · intro packet' later waiting
    cases going.symm.trans waiting
    exact ⟨callback, rfl, s.own, told, writing⟩

/-- The callback of a write is run. -/
lemma Inv.ranWrite (inv : l.Inv) (s : Says l l' (.write callback) [.ran (.write callback) rv] [])
    (before : l.log (.write callback) = [.returned (.write callback) ERR_IO_PENDING])
    (fits : ∀ size, (.write callback, size) ∈ l.calls → rv ≤ size) (control : l'.control = .idle)
    (idle : l'.udpWriting = none) (reads : SameReads l l') : l'.Inv := by
  have told : l'.log (.write callback) = [.returned (.write callback) ERR_IO_PENDING, .ran (.write callback) rv] := by
    rw [log_ran s.reports, before]
    rfl
  refine s.inv inv ?_ (.idle control) ?_ ?_
  · intro (call, size) hp own
    obtain rfl : call = .write callback := own
    rw [s.calls, List.append_nil] at hp
    refine ⟨.ran told, .write (fits size hp) fun r hr => ?_⟩
    rw [told] at hr
    rcases List.mem_cons.mp hr with rfl | hr
    · exact .inl rfl
    · exact .inr (.inr (List.mem_singleton.mp hr))
  · exact s.reading inv reads fun _ _ same => by cases same
  · intro packet later going
    cases idle.symm.trans going

/-- The callback of a read is run, with what was stored. -/
lemma Inv.ranRead {stored : List UInt8} (inv : l.Inv)
    (s : Says l l' (.read callback) [.stored stored, .ran (.read callback) rv] [])
    (before : l.log (.read callback) = [.returned (.read callback) ERR_IO_PENDING])
    (mem : (.read callback, len) ∈ l.calls) (counts : 0 ≤ rv → (stored.length : Int) = rv)
    (fits : stored.length ≤ len) (control : l'.control = .idle) (idle : l'.udpReading = false)
    (writes : SameWrites l l') : l'.Inv := by
  have told : l'.log (.read callback) = [.returned (.read callback) ERR_IO_PENDING, .ran (.read callback) rv] := by
    rw [log_stored s.reports, before]
    rfl
  refine s.inv inv ?_ (.idle control) ?_ ?_
  · intro (call, size) hp own
    obtain rfl : call = .read callback := own
    rw [s.calls, List.append_nil] at hp
    refine ⟨.ran told, fun rv' nonneg => ⟨fun returned => ?_, fun ran => ?_⟩⟩
    · have kept := mem_log (concerns_returned _ _) returned
      rw [told] at kept
      rcases List.mem_cons.mp kept with same | last
      · cases same
        exact absurd nonneg (by decide)
      · cases List.mem_singleton.mp last
    · have kept := mem_log (concerns_ran _ _) ran
      rw [told] at kept
      rcases List.mem_cons.mp kept with same | last
      · cases same
      · cases List.mem_singleton.mp last
        refine ⟨stored, ?_, counts nonneg, ?_⟩
        · rw [s.reports]
          exact (List.suffix_append _ _).isInfix
        · obtain rfl : size = len := inv.length_unique hp mem
          exact fits
  · intro going
    cases idle.symm.trans going
  · exact fun packet later => s.writing inv writes fun _ _ same => by cases same

end

/-- A step is one of the socket that the caller is allowed. -/
lemma of_step {l v : Ledger} {e : Event} (st : l.step e = some v) :
    l.Allowed e ∧ ∃ w, l.toWorld.step e = some w ∧ v = ⟨w, l.calls ++ e.call.toList⟩ := by
  rw [step] at st
  split_ifs at st with allowed
  obtain ⟨w, moved, eq⟩ := Option.map_eq_some_iff.mp st
  exact ⟨allowed, w, moved, eq.symm⟩

/-- The socket is closed, and drops what it has not completed. -/
lemma Inv.close {l : Ledger} (inv : l.Inv) (control : l.control = .idle) :
    Inv ⟨l.toWorld.close, l.calls⟩ where
  completion p hp := by
    cases inv.completion p hp with
    | within told inside =>
      obtain ⟨call, len⟩ := p
      cases call with
      | read callback => cases control.symm.trans inside
      | write callback =>
        obtain ⟨packet, later, inside⟩ := inside
        cases control.symm.trans inside
      | _ => exact inside.elim
    | returned ne told => exact .returned ne told
    | awaited told _ => exact .awaited told (.inr rfl)
    | ran told => exact .ran told
  sized p hp := by
    exact (inv.sized p hp).keep (List.append_nil _).symm (elsewhere_nil p.1)
  aborted := inv.aborted
  path := inv.path
  connecting := rfl
  tcpPending := rfl
  connected closed := by cases closed
  names := inv.names
  known := inv.known
  fitting := .idle control
  reading going := by cases going
  writing _ _ going := by cases going

/-- A call that waits goes on waiting, where the step is not about it. -/
lemma Awaited.goesOn {l l' : Ledger} {call : Call} (h : l.Awaited call)
    (reads : ∀ callback, call = .read callback → l.udpReading = true → l.userReadCallback = some callback →
      l'.udpReading = true ∧ l'.userReadCallback = some callback)
    (writes : ∀ callback packet, call = .write callback → l.udpWriting = some (packet, some callback) →
      l'.udpWriting = some (packet, some callback))
    (sends : ∀ callback packet, call = .write callback → l.control ≠ .udpWrite none packet (some callback)) :
    l'.Awaited call := by
  cases call with
  | read callback => exact reads callback rfl h.1 h.2
  | write callback =>
    rcases h with ⟨packet, going⟩ | ⟨packet, control⟩
    · exact .inl ⟨packet, writes callback packet rfl going⟩
    · exact absurd control (sends callback packet rfl)
  | _ => exact h.elim

/-- Between steps no call is inside of the code. -/
lemma not_within {l : Ledger} {call : Call} (control : l.control = .idle) : ¬ l.Within call := by
  intro inside
  cases call with
  | read callback => cases control.symm.trans inside
  | write callback =>
    obtain ⟨packet, later, inside⟩ := inside
    cases control.symm.trans inside
  | _ => exact inside

/-- `Read` keeps the invariant. -/
lemma Inv.read {l : Ledger} (inv : l.Inv) (control : l.control = .idle) {bufLen : Nat} {callback : Callback}
    (conforms : Conforms l.toWorld (.read bufLen callback)) (new : .read callback ∉ l.calls.map Prod.fst) :
    Inv ⟨l.toWorld.read bufLen callback, l.calls ++ [(.read callback, bufLen)]⟩ := by
  have silent : ¬ l.udpReading = true := by
    intro going
    obtain ⟨_, _, _, _, _, _, outstanding⟩ := inv.reading going
    cases conforms.2.2.symm.trans outstanding
  have not_sends (cb : Callback) (packet : List UInt8) : l.control ≠ .udpWrite none packet (some cb) := by
    rw [control]
    intro same
    cases same
  obtain ⟨fired, eq⟩ := read_eq l.toWorld bufLen callback
  rw [eq]
  split_ifs
  · refine @Inv.beginsRead l _ callback bufLen inv ⟨?_, ?_, rfl, .inr ⟨bufLen, rfl, new⟩, ?_, ?_, rfl,
      rfl, rfl, rfl, rfl, rfl⟩ new (Bool.not_eq_true _ ▸ silent) rfl rfl rfl rfl rfl ⟨rfl, fun _ => rfl⟩
    · exact (List.append_nil _).symm
    · exact fun other _ => elsewhere_nil other
    · exact fun other _ inside => absurd inside (not_within control)
    · intro other _ waits
      refine waits.goesOn ?_ (fun _ _ _ going => going) fun cb packet _ => not_sends cb packet
      exact fun _ _ going => absurd going silent
  · refine @Inv.refusesRead l _ callback bufLen _ inv ⟨rfl, ?_, rfl, .inr ⟨bufLen, rfl, new⟩, ?_, ?_, rfl,
      rfl, rfl, rfl, rfl, rfl⟩ new ?_ ?_ control ⟨rfl, rfl, rfl, ?_⟩ ⟨rfl, fun _ => rfl⟩
    · exact fun other ne => elsewhere_returned ne _
    · exact fun other _ inside => absurd inside (not_within control)
    · intro other _ waits
      exact waits.goesOn (fun _ _ going set => ⟨going, set⟩) (fun _ _ _ going => going) fun cb packet _ =>
        not_sends cb packet
    · decide
    · decide
    · exact fun going => absurd going silent

/-- `Write` keeps the invariant. -/
lemma Inv.write {l : Ledger} (inv : l.Inv) (control : l.control = .idle) {payload : List UInt8} {callback : Callback}
    (conforms : Conforms l.toWorld (.write payload callback)) (new : .write callback ∉ l.calls.map Prod.fst) :
    Inv ⟨l.toWorld.write payload callback, l.calls ++ [(.write callback, payload.length)]⟩ := by
  have silent : l.udpWriting = none := by
    cases going : l.udpWriting with
    | none => rfl
    | some waiting =>
      obtain ⟨_, _, _, _, outstanding⟩ := inv.writing waiting.1 waiting.2 going
      cases conforms.2.2.symm.trans outstanding
  have not_sends (cb : Callback) (packet : List UInt8) : l.control ≠ .udpWrite none packet (some cb) := by
    rw [control]
    intro same
    cases same
  have goesOn {l' : Ledger} (udpReading : l'.udpReading = l.udpReading)
      (userReadCallback : l'.userReadCallback = l.userReadCallback) (udpWriting : l'.udpWriting = l.udpWriting)
      {other : Call} (waits : l.Awaited other) : l'.Awaited other :=
    waits.goesOn (fun _ _ going set => ⟨udpReading.trans going, userReadCallback.trans set⟩)
      (fun _ _ _ going => udpWriting.trans going) fun cb packet _ => not_sends cb packet
  obtain ⟨fired, eq⟩ := write_eq payload callback inv.connected
  rw [eq]
  split_ifs with closed
  · refine @Inv.refusesWrite l _ callback payload.length _ inv ⟨rfl, ?_, rfl,
      .inr ⟨payload.length, rfl, new⟩, ?_, ?_, rfl, rfl, rfl, rfl, rfl, rfl⟩ new ?_ ?_ control
      ⟨rfl, rfl, rfl, fun _ => rfl⟩ ⟨rfl, ?_⟩
    · exact fun other ne => elsewhere_returned ne _
    · exact fun other _ inside => absurd inside (not_within control)
    · exact fun other _ => goesOn rfl rfl rfl
    · decide
    · decide
    · exact fun going => absurd silent going
  · refine @Inv.beginsWrite l _ callback payload.length _ inv ⟨?_, ?_, rfl,
      .inr ⟨payload.length, rfl, new⟩, ?_, ?_, rfl, rfl, rfl, rfl, rfl, rfl⟩ new silent rfl rfl rfl
      (Bool.not_eq_true _ ▸ closed) ⟨rfl, rfl, rfl, fun _ => rfl⟩
    · exact (List.append_nil _).symm
    · exact fun other _ => elsewhere_nil other
    · exact fun other _ inside => absurd inside (not_within control)
    · intro other _ waits
      apply goesOn _ _ _ waits
      · rfl
      · rfl
      · rfl

/-- What a read can be completed with, and what is stored then. -/
lemma onReadComplete_eq {w : World} {bufLen : Nat} {callback : Callback} (buf : w.userReadBuf = some bufLen)
    (set : w.userReadCallback = some callback) (result : Int) (data : List UInt8) :
    w.onReadComplete result data =
      { w with
        userReadCallback := none
        userReadBuf := none
        readBuf := none
        reports := w.reports ++ [.stored (readResult (some bufLen) result data).2,
          .ran (.read callback) (readResult (some bufLen) result data).1]
        caller := { w.caller with reading := false } } := by
  rw [World.onReadComplete, buf, set]
  show { w with
    userReadCallback := none
    userReadBuf := none
    readBuf := none
    reports := (w.reports ++ [_]) ++ [_]
    caller := { w.caller with reading := false } } = _
  rw [List.append_assoc]
  rfl

/-- What a read stores has the length that it reports, and fits into the buffer. -/
lemma readResult_sized (bufLen : Nat) (result : Int) (data : List UInt8) :
    (0 ≤ (readResult (some bufLen) result data).1 →
      ((readResult (some bufLen) result data).2.length : Int) = (readResult (some bufLen) result data).1) ∧
    (readResult (some bufLen) result data).2.length ≤ bufLen := by
  rw [readResult]
  dsimp only
  split_ifs with positive
  · cases payloadOffset data with
    | none =>
      have failed : ¬ (0 : Int) ≤ ERR_SOCKS_CONNECTION_FAILED := by decide
      exact ⟨fun nonneg => absurd nonneg failed, Nat.zero_le _⟩
    | some offset => exact ⟨fun _ => rfl, List.length_take_le _ _⟩
  · refine ⟨fun nonneg => ?_, Nat.zero_le _⟩
    show (0 : Int) = result
    omega

/-- The UDP socket is done with a read in a way that it can be. -/
lemma of_udpReadDone {w w' : World} {answer : Answer} (done : w.udpReadDone answer = some w') :
    ∃ result data, w' = w.onReadComplete result data := by
  cases answer with
  | result rv =>
    rw [World.udpReadDone] at done
    split_ifs at done
    cases done
    exact ⟨rv, [], rfl⟩
  | bytes data =>
    rw [World.udpReadDone] at done
    split_ifs at done
    cases done
    exact ⟨data.length, data, rfl⟩
  | _ => cases done

/-- A completed read of the UDP socket keeps the invariant. -/
lemma Inv.udpReadCompletes {l : Ledger} {w : World} {answer : Answer} (inv : l.Inv) (control : l.control = .idle)
    (reading : l.udpReading = true) (done : { l.toWorld with udpReading := false }.udpReadDone answer = some w) :
    Inv ⟨w, l.calls⟩ := by
  obtain ⟨callback, len, mem, set, buf, told, outstanding⟩ := inv.reading reading
  obtain ⟨result, data, rfl⟩ := of_udpReadDone done
  rw [onReadComplete_eq (w := { l.toWorld with udpReading := false }) buf set]
  obtain ⟨sized, fits⟩ := readResult_sized len result data
  refine inv.ranRead ⟨rfl, ?_, (List.append_nil _).symm, .inl ⟨rfl, List.mem_map_of_mem mem⟩, ?_, ?_, rfl, rfl, rfl,
    rfl, rfl, rfl⟩ told mem sized fits control rfl ⟨rfl, fun _ => rfl⟩
  · exact fun other ne => elsewhere_stored ne _ _
  · exact fun other _ inside => absurd inside (not_within control)
  · intro other ne waits
    refine waits.goesOn ?_ (fun _ _ _ going => going) ?_
    · intro cb own _ waiting
      rw [set, Option.some.injEq] at waiting
      exact absurd (own.trans (congrArg Call.read waiting.symm)) ne
    · intro cb packet _ sending
      cases control.symm.trans sending

/-- A packet that was taken changes nothing but the datagrams. -/
lemma takePacket_eq (w : World) (packet : List UInt8) (rv : Int) :
    ∃ datagrams, w.takePacket packet rv = { w with datagrams := datagrams } := by
  rw [World.takePacket]
  split_ifs
  · exact ⟨w.datagrams, rfl⟩
  · exact ⟨_, rfl⟩

/-- A completed write of the UDP socket keeps the invariant, if its result fits. -/
lemma Inv.udpWriteCompletes {l : Ledger} {packet : List UInt8} {later : Option Callback} {rv : Int} (inv : l.Inv)
    (control : l.control = .idle) (writing : l.udpWriting = some (packet, later)) (fits : l.Fits later rv) :
    Inv ⟨l.toWorld.udpWriteDone packet later rv, l.calls⟩ := by
  obtain ⟨callback, rfl, mem, told, outstanding⟩ := inv.writing packet later writing
  obtain ⟨datagrams, eq⟩ := takePacket_eq { l.toWorld with udpWriting := none } packet rv
  rw [World.udpWriteDone, eq]
  refine inv.ranWrite ⟨rfl, ?_, (List.append_nil _).symm, .inl ⟨rfl, mem⟩, ?_, ?_, rfl, rfl, rfl, rfl, rfl, rfl⟩ told
    (fun size hp => fits _ hp rfl) control rfl ⟨rfl, rfl, rfl, fun _ => rfl⟩
  · exact fun other ne => elsewhere_ran ne _
  · exact fun other _ inside => absurd inside (not_within control)
  · intro other ne waits
    refine waits.goesOn (fun _ _ going waiting => ⟨going, waiting⟩) ?_ ?_
    · intro cb packet' own going
      rw [writing, Option.some.injEq, Prod.mk.injEq, Option.some.injEq] at going
      exact absurd (own.trans (congrArg Call.write going.2.symm)) ne
    · intro cb packet' _ sending
      cases control.symm.trans sending

/-- A step of a socket that waits for nothing but its caller and the UDP socket. -/
lemma Inv.idle {l v : Ledger} {e : Event} (inv : l.Inv) (control : l.control = .idle) (spared : l.Spared e)
    (st : l.step e = some v) : v.Inv := by
  obtain ⟨⟨conforms, fresh⟩, w, moved, rfl⟩ := of_step st
  simp only [World.step, inv.aborted, control, Bool.false_eq_true, ↓reduceIte] at moved
  cases e with
  | connect address opened localAddress => exact absurd conforms inv.path
  | connectAsync address callback => exact absurd conforms inv.path
  | read bufLen callback =>
    cases moved
    exact inv.read control conforms (fresh _ List.mem_cons_self)
  | write payload callback =>
    cases moved
    exact inv.write control conforms (fresh _ List.mem_cons_self)
  | close =>
    cases moved
    show Inv ⟨_, l.calls ++ []⟩
    rw [List.append_nil]
    exact inv.close control
  | udpReadCompletes answer =>
    rw [World.stepIdle] at moved
    split_ifs at moved with reading
    show Inv ⟨_, l.calls ++ []⟩
    rw [List.append_nil]
    exact inv.udpReadCompletes control reading moved
  | udpWriteCompletes rv =>
    rw [World.stepIdle] at moved
    cases writing : l.udpWriting with
    | none =>
      rw [writing] at moved
      cases moved
    | some waiting =>
      rw [writing] at moved
      dsimp only at moved
      split_ifs at moved
      cases moved
      rw [Spared, writing] at spared
      show Inv ⟨_, l.calls ++ []⟩
      rw [List.append_nil]
      exact inv.udpWriteCompletes control writing spared
  | tcpCompletes answer =>
    rw [World.stepIdle, inv.tcpPending] at moved
    cases moved
  | turn answer => cases moved
  | udpReads answer => cases moved
  | udpWrites rv => cases moved

/-! ## The answers that `Read` and `Write` wait for -/

/-- The UDP socket completes the read later. -/
lemma Inv.reads {l : Ledger} {callback : Callback} {len : Nat} (inv : l.Inv) (control : l.control = .udpRead callback)
    (mem : (.read callback, len) ∈ l.calls) (before : l.log (.read callback) = [])
    (set : l.userReadCallback = some callback) (buf : l.userReadBuf = some len) (reading : l.caller.reading = true) :
    Inv ⟨{ l.toWorld with control := .idle, udpReading := true }.returns (.read callback) ERR_IO_PENDING,
      l.calls⟩ := by
  refine inv.parksRead ⟨rfl, ?_, (List.append_nil _).symm, .inl ⟨rfl, List.mem_map_of_mem mem⟩, ?_, ?_, rfl, rfl, rfl,
    rfl, rfl, rfl⟩ mem before rfl set buf reading rfl ⟨rfl, fun _ => rfl⟩
  · exact fun other ne => elsewhere_returned ne _
  · intro other ne inside
    cases other with
    | read cb =>
      cases control.symm.trans inside
      exact absurd rfl ne
    | write cb =>
      obtain ⟨packet, later, inside⟩ := inside
      cases control.symm.trans inside
    | _ => exact inside
  · intro other ne waits
    refine waits.goesOn (fun _ _ _ waiting => ⟨rfl, waiting⟩) (fun _ _ _ going => going) ?_
    intro cb packet _ sending
    cases control.symm.trans sending

/-- Another call than a write that is going to the UDP socket, where no write waits. -/
lemma waits_elsewhere {l l' : Ledger} {call other : Call} {caller later : Option Callback} {packet : List UInt8}
    (control : l.control = .udpWrite caller packet later) (silent : l.udpWriting = none)
    (own : caller = none → later.map .write = some call) (udpReading : l'.udpReading = l.udpReading)
    (userReadCallback : l'.userReadCallback = l.userReadCallback) (ne : other ≠ call) (waits : l.Awaited other) :
    l'.Awaited other := by
  refine waits.goesOn (fun _ _ going set => ⟨udpReading.trans going, userReadCallback.trans set⟩) ?_ ?_
  · intro cb packet' _ going
    cases silent.symm.trans going
  · intro cb packet' same sending
    cases control.symm.trans sending
    have mine := own rfl
    rw [Option.map_some, Option.some.injEq] at mine
    exact ne (same.trans mine)

/-- While the UDP socket writes for one call, no other one is inside of the code. -/
lemma within_elsewhere {l : Ledger} {other : Call} {caller later : Option Callback} {packet : List UInt8}
    (control : l.control = .udpWrite caller packet later) (ne : caller.map .write ≠ some other) :
    ¬ l.Within other := by
  intro inside
  cases other with
  | read cb => cases control.symm.trans inside
  | write cb =>
    obtain ⟨packet', later', inside⟩ := inside
    cases control.symm.trans inside
    exact ne rfl
  | _ => exact inside

/-- `Write` waits for the UDP socket, or returns its result. -/
lemma Inv.writes {l : Ledger} {callback : Callback} {packet : List UInt8} {later : Option Callback} {rv : Int}
    (inv : l.Inv) (control : l.control = .udpWrite (some callback) packet later)
    (mem : .write callback ∈ l.calls.map Prod.fst) (before : l.log (.write callback) = [])
    (moved : later = none ∨ later = some callback) (silent : l.udpWriting = none) (writing : l.caller.writing = true)
    (fits : l.Fits (some callback) rv) (needed : later = none → rv ≠ ERR_IO_PENDING) :
    Inv ⟨l.toWorld.afterUdpWrite (some callback) packet later rv, l.calls⟩ := by
  have elsewhere (other : Call) (ne : other ≠ .write callback) : ¬ l.Within other := by
    apply within_elsewhere control
    intro same
    exact ne (Option.some.inj same).symm
  by_cases waits : rv = ERR_IO_PENDING
  · obtain rfl : later = some callback := moved.resolve_left fun none => needed none waits
    subst waits
    have told : [Report.returned (.write callback) ERR_IO_PENDING] =
        l.log (.write callback) ++ [.returned (.write callback) ERR_IO_PENDING] := by
      rw [before]
      rfl
    refine @Inv.parksWrite l _ callback _ _ inv ⟨rfl, ?_, (List.append_nil _).symm, .inl ⟨rfl, mem⟩, ?_, ?_, rfl,
      rfl, rfl, rfl, rfl, rfl⟩ ?_ rfl rfl writing ⟨rfl, rfl, rfl, fun _ => rfl⟩
    · exact fun other ne => elsewhere_returned ne _
    · exact fun other ne inside => absurd inside (elsewhere other ne)
    · exact fun other ne => waits_elsewhere control silent (fun none => nomatch none) rfl rfl ne
    · rw [told]
      exact log_returned rfl
  · obtain ⟨datagrams, eq⟩ := takePacket_eq { l.toWorld with control := .idle } packet rv
    have after : l.toWorld.afterUdpWrite (some callback) packet later rv =
        { l.toWorld with
          control := .idle
          datagrams := datagrams
          reports := l.reports ++ [.returned (.write callback) rv]
          caller := { l.caller with writing := false } } := by
      rw [World.afterUdpWrite, if_neg waits, eq]
      dsimp only
      rw [if_neg waits, World.returns, if_neg waits]
      rfl
    rw [after]
    refine @Inv.returnsWrite l _ callback rv inv ⟨rfl, ?_, (List.append_nil _).symm, .inl ⟨rfl, mem⟩, ?_,
      ?_, rfl, rfl, rfl, rfl, rfl, rfl⟩ before waits (fun size hp => fits _ hp rfl) rfl silent
      ⟨rfl, rfl, rfl, fun _ => rfl⟩
    · exact fun other ne => elsewhere_returned ne _
    · exact fun other ne inside => absurd inside (elsewhere other ne)
    · exact fun other ne => waits_elsewhere control silent (fun none => nomatch none) rfl rfl ne

/-- `OnIOComplete` waits for the UDP socket. -/
lemma Inv.sends {l : Ledger} {callback : Callback} {packet : List UInt8} (inv : l.Inv)
    (control : l.control = .udpWrite none packet (some callback)) (mem : .write callback ∈ l.calls.map Prod.fst)
    (told : l.log (.write callback) = [.returned (.write callback) ERR_IO_PENDING]) (silent : l.udpWriting = none)
    (writing : l.caller.writing = true) :
    Inv ⟨l.toWorld.afterUdpWrite none packet (some callback) ERR_IO_PENDING, l.calls⟩ := by
  refine @Inv.parksWrite l _ callback _ [] inv ⟨(List.append_nil _).symm, ?_, (List.append_nil _).symm,
    .inl ⟨rfl, mem⟩, ?_, ?_, rfl, rfl, rfl, rfl, rfl, rfl⟩ told rfl rfl writing ⟨rfl, rfl, rfl, fun _ => rfl⟩
  · exact fun other _ => elsewhere_nil other
  · intro other _ inside
    exact absurd inside (within_elsewhere control fun none => nomatch none)
  · exact fun other ne => waits_elsewhere control silent (fun _ => rfl) rfl rfl ne

/-- A step that is spared keeps the contract, with all that its proof needs. -/
lemma Inv.keep {l v : Ledger} {e : Event} (inv : l.Inv) (spared : l.Spared e) (st : l.step e = some v) : v.Inv := by
  cases inv.fitting with
  | idle control => exact inv.idle control spared st
  | @reads callback len control mem before set buf reading =>
    obtain ⟨_, w, moved, rfl⟩ := of_step st
    simp only [World.step, inv.aborted, control, Bool.false_eq_true, ↓reduceIte] at moved
    cases e with
    | udpReads answer =>
      cases answer with
      | pending =>
        cases moved
        show Inv ⟨_, l.calls ++ []⟩
        rw [List.append_nil]
        exact inv.reads control mem before set buf reading
      | _ => exact absurd spared id
    | _ => cases moved
  | @writes callback packet later control mem before given silent writing opened =>
    obtain ⟨_, w, moved, rfl⟩ := of_step st
    simp only [World.step, inv.aborted, control, Bool.false_eq_true, ↓reduceIte] at moved
    cases e with
    | udpWrites rv =>
      cases moved
      rw [Spared, control] at spared
      obtain ⟨fits, needed, _⟩ := spared
      show Inv ⟨_, l.calls ++ []⟩
      rw [List.append_nil]
      exact inv.writes control mem before given silent writing fits needed
    | _ => cases moved
  | @sends callback packet control mem told silent writing opened =>
    obtain ⟨_, w, moved, rfl⟩ := of_step st
    simp only [World.step, inv.aborted, control, Bool.false_eq_true, ↓reduceIte] at moved
    cases e with
    | udpWrites rv =>
      cases moved
      rw [Spared, control] at spared
      obtain rfl : rv = ERR_IO_PENDING := spared.2.2 rfl
      show Inv ⟨_, l.calls ++ []⟩
      rw [List.append_nil]
      exact inv.sends control mem told silent writing
    | _ => cases moved

/-! ## The steps that break the contract -/

/-- A read that the UDP socket completes at once is reported before it has returned. -/
lemma not_at_once {l l' : Ledger} {callback : Callback} {stored : List UInt8} {result rv : Int}
    (before : l.log (.read callback) = [])
    (reports : l'.reports = l.reports ++
      [.stored stored, .ran (.read callback) result, .returned (.read callback) rv]) :
    ¬ l'.Completion (.read callback) := by
  have told : l'.log (.read callback) = [.ran (.read callback) result, .returned (.read callback) rv] := by
    rw [log_append reports, before]
    simp [Report.concerns]
  intro completion
  cases completion with
  | within none _ => cases told.symm.trans none
  | returned _ one => cases told.symm.trans one
  | awaited one _ => cases told.symm.trans one
  | ran two => cases told.symm.trans two

/-- Where the contract is kept, no read completes at once. -/
lemma Inv.udpReads {l v : Ledger} {answer : Answer} (inv : l.Inv) (kept : v.Contract)
    (st : l.step (.udpReads answer) = some v) : l.Spared (.udpReads answer) := by
  obtain ⟨_, w, moved, rfl⟩ := of_step st
  cases inv.fitting with
  | idle control =>
    simp only [World.step, inv.aborted, control, Bool.false_eq_true, ↓reduceIte] at moved
    cases moved
  | @reads callback len control mem before set buf _ =>
    simp only [World.step, inv.aborted, control, Bool.false_eq_true, ↓reduceIte] at moved
    have refuted {w' : World} (done : { l.toWorld with control := .idle }.udpReadDone answer = some w')
        (same : w'.returns (.read callback) ERR_IO_PENDING = w) : False := by
      obtain ⟨result, data, rfl⟩ := of_udpReadDone done
      rw [onReadComplete_eq (w := { l.toWorld with control := .idle }) buf set] at same
      subst same
      exact not_at_once before (List.append_assoc _ _ _) (kept.completion _ (List.mem_append_left _ mem))
    cases answer with
    | pending => trivial
    | none => cases moved
    | udp => cases moved
    | result rv | bytes data =>
      obtain ⟨w', done, same⟩ := Option.map_eq_some_iff.mp moved
      exact refuted done same
  | writes control | sends control =>
    simp only [World.step, inv.aborted, control, Bool.false_eq_true, ↓reduceIte] at moved
    cases moved

/-- The calls of a kind that a result was told for are at least that long. -/
lemma Contract.fits {l : Ledger} {v : Ledger} {callback : Callback} {rv : Int} (kept : v.Contract)
    (calls : v.calls = l.calls ++ [])
    (told : .returned (.write callback) rv ∈ v.reports ∨ .ran (.write callback) rv ∈ v.reports) :
    l.Fits (some callback) rv := by
  intro (call, len) hp own
  obtain rfl : Call.write callback = call := Option.some.inj own
  have mem : (.write callback, len) ∈ v.calls := by
    rw [calls, List.append_nil]
    exact hp
  exact kept.sized _ mem rv told

/-- A call that has returned `ERR_IO_PENDING` has to wait for something. -/
lemma Completion.waits {l : Ledger} {call : Call} (h : l.Completion call)
    (told : l.log call = [.returned call ERR_IO_PENDING]) : l.Awaited call ∨ l.closed = true := by
  cases h with
  | within none _ => cases told.symm.trans none
  | returned not_pending one =>
    cases told.symm.trans one
    exact absurd rfl not_pending
  | awaited _ waits => exact waits
  | ran two => cases told.symm.trans two

/-- After a write the caller is told what it returned. -/
lemma afterUdpWrite_reports (w : World) (callback : Callback) (packet : List UInt8) (later : Option Callback)
    (rv : Int) :
    (w.afterUdpWrite (some callback) packet later rv).reports = w.reports ++ [.returned (.write callback) rv] := by
  rw [World.afterUdpWrite]
  split_ifs with waits
  · rfl
  · obtain ⟨datagrams, eq⟩ := takePacket_eq { w with control := .idle } packet rv
    rw [eq]
    rfl

/-- Where the contract is kept, what the UDP socket answers to a write fits the write and its callback. -/
lemma Inv.udpWrites {l v : Ledger} {rv : Int} (inv : l.Inv) (kept : v.Contract)
    (st : l.step (.udpWrites rv) = some v) : l.Spared (.udpWrites rv) := by
  obtain ⟨_, w, moved, rfl⟩ := of_step st
  cases inv.fitting with
  | idle control =>
    simp only [World.step, inv.aborted, control, Bool.false_eq_true, ↓reduceIte] at moved
    cases moved
  | reads control =>
    simp only [World.step, inv.aborted, control, Bool.false_eq_true, ↓reduceIte] at moved
    cases moved
  | @writes callback packet later control mem before _ silent _ opened =>
    simp only [World.step, inv.aborted, control, Bool.false_eq_true, ↓reduceIte] at moved
    cases moved
    have reports := afterUdpWrite_reports l.toWorld callback packet later rv
    rw [Spared, control]
    refine ⟨kept.fits rfl (.inl ?_), fun none waits => ?_, (fun none => by cases none)⟩
    · show _ ∈ World.reports _
      rw [reports]
      exact List.mem_append_right _ List.mem_cons_self
    · -- the UDP socket has no callback to run
      subst none waits
      obtain ⟨p, hp, own⟩ := List.mem_map.mp mem
      have completion := kept.completion p (List.mem_append_left _ hp)
      rw [own] at completion
      have told := @log_returned l ⟨_, l.calls ++ []⟩ _ _ reports
      rw [before] at told
      rcases completion.waits told with (⟨_, going⟩ | ⟨_, sending⟩) | closed
      · cases going
      · cases sending
      · cases opened.symm.trans closed
  | @sends callback packet control mem told silent _ opened =>
    simp only [World.step, inv.aborted, control, Bool.false_eq_true, ↓reduceIte] at moved
    cases moved
    rw [Spared, control]
    refine ⟨(fun p _ own => by cases own), (fun none => by cases none), fun _ => ?_⟩
    by_contra done
    -- the callback is dropped with the result
    obtain ⟨p, hp, own⟩ := List.mem_map.mp mem
    have completion := kept.completion p (List.mem_append_left _ hp)
    rw [own] at completion
    obtain ⟨datagrams, eq⟩ := takePacket_eq { l.toWorld with control := .idle } packet rv
    rw [World.afterUdpWrite, if_neg done, eq] at completion
    rcases completion.waits told with (⟨_, going⟩ | ⟨_, sending⟩) | closed
    · cases silent.symm.trans going
    · cases sending
    · cases opened.symm.trans closed

/-- Where the contract is kept, no later result of a write is larger than it was given. -/
lemma Inv.udpWriteCompletes_fits {l v : Ledger} {rv : Int} (inv : l.Inv) (kept : v.Contract)
    (st : l.step (.udpWriteCompletes rv) = some v) : l.Spared (.udpWriteCompletes rv) := by
  obtain ⟨_, w, moved, rfl⟩ := of_step st
  cases inv.fitting with
  | idle control =>
    simp only [World.step, inv.aborted, control, Bool.false_eq_true, ↓reduceIte, World.stepIdle] at moved
    cases writing : l.udpWriting with
    | none =>
      rw [writing] at moved
      cases moved
    | some waiting =>
      obtain ⟨packet, later⟩ := waiting
      rw [writing] at moved
      dsimp only at moved
      split_ifs at moved
      cases moved
      obtain ⟨callback, rfl, _⟩ := inv.writing packet later writing
      rw [Spared, writing]
      refine kept.fits rfl (.inr ?_)
      obtain ⟨datagrams, eq⟩ := takePacket_eq { l.toWorld with udpWriting := none } packet rv
      show _ ∈ World.reports _
      rw [World.udpWriteDone, eq]
      exact List.mem_append_right _ List.mem_cons_self
  | reads control | writes control | sends control =>
    simp only [World.step, inv.aborted, control, Bool.false_eq_true, ↓reduceIte] at moved
    cases moved

/-- A step that keeps the contract is spared. -/
lemma Inv.spared {l v : Ledger} {e : Event} (inv : l.Inv) (kept : v.Contract) (st : l.step e = some v) :
    l.Spared e := by
  cases e with
  | udpReads answer => exact inv.udpReads kept st
  | udpWrites rv => exact inv.udpWrites kept st
  | udpWriteCompletes rv => exact inv.udpWriteCompletes_fits kept st
  | _ => trivial

/-- Nothing waits for the UDP socket. -/
lemma Open.inv {l : Ledger} (o : Open l.toWorld) (contract : l.Contract) (names : (l.calls.map Prod.fst).Nodup)
    (known : ∀ call, call ∉ l.calls.map Prod.fst → l.log call = []) (fitting : l.Fitting) : l.Inv where
  toContract := contract
  aborted := o.aborted
  path := o.path
  connecting := o.connecting
  tcpPending := o.tcpPending
  connected _ := o.udpConnected
  names := names
  known := known
  fitting := fitting
  reading going := by cases o.udpReading.symm.trans going
  writing _ _ going := by cases o.udpWriting.symm.trans going

/-- The invariant holds of a socket that was just connected. -/
lemma Connected.inv {l : Ledger} (connected : l.Connected) : l.Inv := by
  cases connected with
  | idle o control reports calls =>
    have no_call {p : Call × Nat} (hp : p ∈ l.calls) : False := by
      rw [calls] at hp
      exact absurd hp List.not_mem_nil
    refine o.inv ⟨fun p hp => (no_call hp).elim, fun p hp => (no_call hp).elim⟩ ?_ ?_ (.idle control)
    · rw [calls]
      exact List.nodup_nil
    · intro call _
      rw [log, reports]
      rfl
  | @inWrite payload callback o writing control reports calls =>
    have untold (call : Call) : l.log call = [] := by
      rw [log, reports]
      rfl
    have mem : .write callback ∈ l.calls.map Prod.fst := by
      rw [calls]
      exact List.mem_cons_self
    refine o.inv ⟨fun p hp => ?_, fun p hp => ?_⟩ ?_ (fun call _ => untold call)
      (.writes control mem (untold _) (.inl rfl) o.udpWriting writing o.closed)
    · rw [calls] at hp
      cases List.mem_singleton.mp hp
      exact .within (untold _) ⟨_, _, control⟩
    · rw [calls] at hp
      cases List.mem_singleton.mp hp
      refine .write (Int.natCast_nonneg payload.length) fun r hr => ?_
      rw [untold] at hr
      exact absurd hr List.not_mem_nil
    · rw [calls]
      exact List.nodup_singleton _
  | @inOnIOComplete payload callback o writing control reports calls =>
    have told : l.log (.write callback) = [.returned (.write callback) ERR_IO_PENDING] := by
      rw [log, reports]
      simp [Report.concerns]
    have mem : .write callback ∈ l.calls.map Prod.fst := by
      rw [calls]
      exact List.mem_cons_self
    refine o.inv ⟨fun p hp => ?_, fun p hp => ?_⟩ ?_ ?_ (.sends control mem told o.udpWriting writing o.closed)
    · rw [calls] at hp
      cases List.mem_singleton.mp hp
      exact .awaited told (.inl (.inr ⟨_, control⟩))
    · rw [calls] at hp
      cases List.mem_singleton.mp hp
      refine .write (Int.natCast_nonneg payload.length) fun r hr => ?_
      exact .inl (List.mem_singleton.mp (told ▸ hr))
    · rw [calls]
      exact List.nodup_singleton _
    · intro call other
      rw [calls] at other
      have ne : call ≠ .write callback := fun same => other (same ▸ List.mem_cons_self)
      rw [log, reports]
      exact List.filter_eq_nil_iff.mpr fun r hr =>
        (elsewhere_returned ne _ r hr).symm ▸ Bool.false_ne_true

/-- The contract is kept in a run exactly when all its steps are spared. -/
theorem contract_iff {l l' : Ledger} {tr : List (Ledger × Event)} (connected : l.Connected)
    (run : Run step l tr l') : Always Contract tr l' ↔ Guarded Spared tr :=
  run.always_iff_of_kept (fun inv spared st => inv.keep spared st) (fun _ inv => inv.toContract)
    (fun inv kept st => inv.spared kept st) connected.inv

/-- A socket that `ConnectAsync` has connected. -/
def opened : Ledger where
  toWorld := { fresh ⟨⟨[10, 0, 0, 1]⟩, 1080⟩ with
    targetAddress := ⟨⟨[10, 0, 0, 2]⟩, 443⟩
    tcpSocket := true
    udpSocket := true
    udpConnected := true
    socksHandshakeComplete := true
    nextState := .STATE_CONNECTED
    caller := { path := some .async } }

/-- This socket was just connected. -/
lemma connected_opened : Connected opened :=
  .idle ⟨rfl, rfl, rfl, by decide, rfl, rfl, rfl, rfl⟩ rfl rfl rfl

/-- A write, and a read of two bytes. -/
def echo : List Event := [
  .write [0x01, 0x02] 1, .udpWrites ERR_IO_PENDING, .udpWriteCompletes 2, .read 8 2, .udpReads .pending,
  .udpReadCompletes (.bytes [0x00, 0x00, 0x00, 0x01, 10, 0, 0, 2, 0x01, 0xbb, 0x01, 0x02])]

/-- A write and a read, each completed once. -/
theorem contract_iff_echo : ∃ l, Run step opened (trace step opened echo) l ∧
    Always Contract (trace step opened echo) l := by
  have r : Run step opened (trace step opened echo) _ := Run.of_exec rfl
  exact ⟨_, r, (contract_iff connected_opened r).mpr (by decide)⟩

/-- A write of two bytes returns the size of the packet. -/
theorem contract_fails : ¬ ∀ l tr l', Connected l → Run step l tr l' → Always Contract tr l' := by
  intro h
  have r : Run step opened (trace step opened [.write [0x01, 0x02] 1, .udpWrites 12]) _ := Run.of_exec rfl
  have kept := (h _ _ _ connected_opened r).2
  have le := kept.sized (.write 1, 2) (by decide) 12 (.inl (by decide))
  exact absurd le (by decide)

end Ledger

end PureCloak.Net
