import PureCloak.Launcher.ApplierRuns
import PureCloak.Launcher.Applying
import PureCloak.Library.Handles

/-!
# The sockets of the appliers

A socket that `SendCommands` returns goes from the thread pool into a reply and from the reply into the applier,
which closes it when the connection is lost or when it is destroyed itself. A reply whose applier is gone is
dropped, and the socket in it stays open. `Sockets` is the world beside the table that the kernel keeps of these
sockets; a descriptor that is closed may be given out again.

What a step does to the sockets is one equation: the sockets that are held and the one that is returned are those
that are closed, those that are held afterwards, and the one that is dropped (`Accounts.balance`). It needs that
no applier has two `SendCommands` calls under way, or one while it has a socket (`Calls`).
-/

namespace PureCloak.Launcher
open PureCloak.Base PureCloak.Profiles Machine

/-- The socket of an applier. -/
def Applier.socket (a : Applier) : Option Int :=
  if a.cdpSocket ≥ 0 then some a.cdpSocket else none

/-- The socket that a reply brings, with the applier that it is for. -/
def Reply.socket : Reply → Option (Int × String × Nat)
  | .onCommandsSent id applier fd => if fd ≥ 0 then some (fd, id, applier) else none
  | _ => none

/-- The reply is to a `SendCommands` call of an applier. -/
def Reply.answersFor (id : String) (n : Nat) : Reply → Bool
  | .onCommandsSent id' n' _ => id' == id && n' == n
  | _ => false

namespace World

/-- The socket that a step takes from the kernel. -/
def returned (w : World) : Event → Option (Int × String × Nat)
  | .runTask i (.fd n) =>
    match w.pool[i]? with
    | some (.sendCommands id applier _ _) => if n ≥ 0 then some (n, id, applier) else none
    | _ => none
  | _ => none

/-- The socket that `poll` is called on. -/
def polled (w : World) : Event → Option Int
  | .healthCheck id _ => w.appliers[id]?.bind fun a => a.2.socket
  | _ => none

/-- The socket in a reply that arrives when its applier is gone. -/
def dropped (w : World) : Event → Option (Int × String × Nat)
  | .arrive i _ _ => (w.replies[i]?.bind Reply.socket).filter fun x => (w.weakApplier x.2.1 x.2.2).isNone
  | _ => none

end World

/-- The world, and the open sockets that `SendCommands` returned, with the applier each of them is for. -/
structure Sockets where
  world : World := {}
  table : HandleTable Int (String × Nat) := {}

namespace Sockets

/-- One step. The kernel returns no descriptor that is open. -/
def step (env : Env) (s : Sockets) (e : World.Event) : Option Sockets := do
  let w ← World.step env s.world e
  let table := (s.world.polled e).elim s.table s.table.use
  let returned := (s.world.returned e).toList
  let closed := w.closed.drop s.world.closed.length
  if ∃ x ∈ returned, x.1 ∈ table.handles then none
  else some ⟨w, (table.addAll returned).closeAll closed⟩

/-- No socket was closed or used that is not open, and each one that is open is for an applier that is there, or is
in a reply that is to come. -/
structure Owned (s : Sockets) : Prop where
  faults : s.table.faults = 0
  owned : ∀ x ∈ s.table.opened,
    (∃ a, s.world.appliers[x.2.1]? = some (x.2.2, a)) ∨ .onCommandsSent x.2.1 x.2.2 x.1 ∈ s.world.replies

end Sockets

/-! ## Appliers -/

namespace Applier

/-- Where an applier stands with a number of its `SendCommands` calls in flight: it has no socket before they are
made, and none while one is made. -/
structure Stands (a : Applier) (inFlight : Nat) : Prop where
  waiting : a.commandsStarted = false → inFlight = 0 ∧ a.socket = none
  sending : 0 < inFlight → a.socket = none

/-- Fewer tasks on the way are as good. -/
lemma Stands.mono {a : Applier} {k k' : Nat} (h : a.Stands k) (fewer : k' ≤ k) : a.Stands k' where
  waiting idle := ⟨Nat.le_zero.mp ((h.waiting idle).1 ▸ fewer), (h.waiting idle).2⟩
  sending some_call := h.sending (Nat.lt_of_lt_of_le some_call fewer)

/-- The sockets that effects close. -/
def closes (effects : List ApplierEffect) : List Int :=
  effects.filterMap fun
    | .close fd => some fd
    | _ => none

/-- How many `SendCommands` calls effects make. -/
def sends (effects : List ApplierEffect) : Nat :=
  effects.countP fun
    | .sendCommands _ _ => true
    | _ => false

/-- What a method does to the socket of an applier and to its calls: the socket is kept, closed or gained. -/
structure Conserves (a : Applier) (gained : Option Int) (k : Nat) (r : Applier × List ApplierEffect) : Prop where
  sockets : a.socket.toList ++ gained.toList = closes r.2 ++ r.1.socket.toList
  stands : r.1.Stands (k + sends r.2)
  sends : sends r.2 ≤ if k = 0 then 1 else 0

/-- The callback of `Apply` leaves the sockets alone. -/
lemma runPendingCallback_conserves {a : Applier} {k : Nat} (h : a.Stands k) (success : Bool) :
    a.Conserves none k (a.runPendingCallback success) := by
  unfold runPendingCallback
  split_ifs
  · exact ⟨List.append_nil _, ⟨h.waiting, h.sending⟩, Nat.zero_le _⟩
  · exact ⟨List.append_nil _, h, Nat.zero_le _⟩

/-- A tick of the poll timer leaves the sockets alone. -/
lemma conserves_onPollTick {a : Applier} {k : Nat} (h : a.Stands k) : a.Conserves none k a.onPollTick :=
  ⟨List.append_nil _, h, Nat.zero_le _⟩

/-- A health check closes the socket that it gives up. -/
lemma conserves_onHealthCheck {a : Applier} {k : Nat} (h : a.Stands k) (hungUp : Bool) :
    a.Conserves none k (a.onHealthCheck hungUp) := by
  unfold onHealthCheck
  split_ifs with closed
  · exact ⟨List.append_nil _, ⟨h.waiting, h.sending⟩, Nat.zero_le _⟩
  · have connected : a.cdpSocket ≥ 0 := Int.not_lt.mp closed
    have socket : a.socket = some a.cdpSocket := if_pos connected
    have idle : k = 0 := by
      rcases Nat.eq_zero_or_pos k with idle | busy
      · exact idle
      · cases socket.symm.trans (h.sending busy)
    subst idle
    have reconnects : a.reconnectCDP = ({ a with
        healthTimer := false
        cdpSocket := -1
        pendingCommandJsons := a.savedCommandJsons
        commandsStarted := false
        pollRetriesLeft := 60
        pollTimer := true }, [.close a.cdpSocket]) := by
      simp [reconnectCDP, closeSocket, connected]
    rw [reconnects]
    refine ⟨?_, ⟨fun _ => ⟨rfl, rfl⟩, fun _ => rfl⟩, Nat.zero_le _⟩
    rw [socket]
    rfl
  · exact ⟨List.append_nil _, h, Nat.zero_le _⟩

/-- The result of a check leaves the sockets alone. -/
lemma conserves_onCDPCheckResult {a : Applier} {k : Nat} (h : a.Stands k) (available : Bool) :
    a.Conserves none k (a.onCDPCheckResult available) := by
  rcases a.onCDPCheckResult_cases available with
    ⟨_, eq⟩ | ⟨waiting, _, eq⟩ | ⟨waiting, _, _, eq⟩ | ⟨waiting, _, _, eq⟩
  all_goals rw [eq]
  · exact ⟨List.append_nil _, h, Nat.zero_le _⟩
  · obtain ⟨rfl, unconnected⟩ := h.waiting waiting
    exact ⟨List.append_nil _, ⟨fun started => (nomatch started), fun _ => unconnected⟩,
      Nat.le_refl 1⟩
  · have stands : ({ a with
        pollRetriesLeft := a.pollRetriesLeft - 1
        commandsStarted := true
        pollTimer := false } : Applier).Stands k :=
      ⟨fun started => (nomatch started), h.sending⟩
    obtain ⟨sockets, stands, sends⟩ := runPendingCallback_conserves stands false
    exact ⟨sockets, stands, sends⟩
  · exact ⟨List.append_nil _, ⟨h.waiting, h.sending⟩, Nat.zero_le _⟩

/-- The file descriptor that `SendCommands` returned becomes the socket of the applier. -/
lemma conserves_onCommandsSent {a : Applier} (h : a.Stands 1) (fd : Int) :
    a.Conserves (if fd ≥ 0 then some fd else none) 0 (a.onCommandsSent fd) := by
  have unconnected := h.sending Nat.one_pos
  have started : a.commandsStarted ≠ false := fun idle => absurd (h.waiting idle).1 Nat.one_ne_zero
  unfold onCommandsSent
  dsimp only
  split_ifs with opened
  · have stands : ({ a with cdpSocket := fd, healthTimer := true } : Applier).Stands 0 :=
      ⟨fun idle => absurd idle started, fun busy => absurd busy (Nat.lt_irrefl 0)⟩
    obtain ⟨sockets, stands, sends⟩ := runPendingCallback_conserves stands (fd ≥ 0)
    refine ⟨?_, stands, sends⟩
    have socket : ({ a with cdpSocket := fd, healthTimer := true } : Applier).socket = some fd := if_pos opened
    rw [← sockets, unconnected, socket]
    rfl
  · have stands : a.Stands 0 := h.mono (Nat.zero_le 1)
    exact runPendingCallback_conserves stands (fd ≥ 0)

end Applier

namespace World
variable {env : Env}

/-! ## Calls -/

/-- How many calls of `SendCommands` an applier has in flight. -/
def inFlight (w : World) (id : String) (n : Nat) : Nat :=
  w.pool.countP (·.sendsFor id n) + w.replies.countP (·.answersFor id n)

/-- What holds of the calls in flight in every run. -/
structure Calls (w : World) : Prop where
  one : ∀ id n, w.inFlight id n ≤ 1
  appliers : ∀ (id : String) (n : Nat) (a : Applier), w.appliers[id]? = some (n, a) →
    n < w.nextApplier ∧ a.Stands (w.inFlight id n)
  fresh : ∀ id n, w.nextApplier ≤ n → w.inFlight id n = 0

/-- An applier is gone for good, and nothing of it is under way. -/
structure Gone (w : World) (id : String) (n : Nat) : Prop where
  numbered : n < w.nextApplier
  destroyed : ∀ a, w.appliers[id]? ≠ some (n, a)
  idle : w.inFlight id n = 0

/-- The socket of an applier, with the applier. -/
def socketOf (p : String × Nat × Applier) : Option (Int × String × Nat) :=
  p.2.2.socket.map fun fd => (fd, p.1, p.2.1)

/-- The sockets of the appliers. -/
def applierSockets (appliers : Std.ExtTreeMap String (Nat × Applier)) : Multiset (Int × String × Nat) :=
  ↑(appliers.toList.filterMap socketOf)

/-- The sockets in the replies to come. -/
def replySockets (replies : List Reply) : Multiset (Int × String × Nat) :=
  ↑(replies.filterMap Reply.socket)

def heldSockets (w : World) : Multiset (Int × String × Nat) :=
  applierSockets w.appliers + replySockets w.replies

/-- What a step does to sockets and calls. -/
structure Accounts (w : World) (e : Event) (w' : World) : Prop where
  calls : w'.Calls
  gone : ∀ id n, w.Gone id n → w'.Gone id n
  balance : ∃ closing : List (Int × String × Nat), w'.closed = w.closed ++ closing.map Prod.fst ∧
    w.heldSockets + (w.returned e).toList = closing + w'.heldSockets + (w.dropped e).toList

/-! ## Steps that leave the sockets as they are -/

/-- Nothing changes that concerns sockets. -/
structure SameSockets (w w' : World) : Prop where
  appliers : w'.appliers = w.appliers
  nextApplier : w'.nextApplier = w.nextApplier
  closed : w'.closed = w.closed
  replies : w'.replies = w.replies
  pool : ∀ id n, w'.pool.countP (·.sendsFor id n) = w.pool.countP (·.sendsFor id n)

/-- Nothing changes for the sockets when nothing changes. -/
lemma SameSockets.refl (w : World) : SameSockets w w :=
  ⟨rfl, rfl, rfl, rfl, fun _ _ => rfl⟩

/-- Two such steps are one. -/
lemma SameSockets.trans {w w' w'' : World} (h : SameSockets w w') (h' : SameSockets w' w'') :
    SameSockets w w'' where
  appliers := h'.appliers.trans h.appliers
  nextApplier := h'.nextApplier.trans h.nextApplier
  closed := h'.closed.trans h.closed
  replies := h'.replies.trans h.replies
  pool id n := (h'.pool id n).trans (h.pool id n)

/-- So are the steps of a list. -/
lemma SameSockets.foldl {α : Type} {f : World → α → World} (h : ∀ w x, SameSockets w (f w x)) (l : List α)
    (w : World) : SameSockets w (l.foldl f w) := by
  induction l generalizing w with
  | nil => exact .refl w
  | cons x l ih => exact (h w x).trans (ih (f w x))

/-- A task that sends no commands does not matter to the sockets. -/
lemma sameSockets_post (w : World) {t : PoolTask} (ht : ∀ id n, t.sendsFor id n = false) :
    SameSockets w { w with pool := w.pool ++ [t] } := by
  refine ⟨rfl, rfl, rfl, rfl, fun id n => ?_⟩
  rw [List.countP_append, List.countP_singleton, ht, if_neg Bool.false_ne_true]
  rfl

/-- Nor does a deletion. -/
lemma sameSockets_postDelete (w : World) (dir : String) : SameSockets w (w.postDelete dir) := by
  rw [postDelete]
  split
  · exact sameSockets_post w fun _ _ => rfl
  · exact .refl w

/-- Nor a notification. -/
lemma sameSockets_notifyStatusChanged (w : World) (id : String) (status : Status) :
    SameSockets w (w.notifyStatusChanged id status) := by
  rw [notifyStatusChanged]
  split <;> exact ⟨rfl, rfl, rfl, rfl, fun _ _ => rfl⟩

/-- Nor a check of a process. -/
lemma sameSockets_checkProcess (w : World) (id : String) : SameSockets w (w.checkProcess id) := by
  have stopped : SameSockets w (w.stopWatching id) := ⟨rfl, rfl, rfl, rfl, fun _ _ => rfl⟩
  have crashed := stopped.trans (sameSockets_notifyStatusChanged (w.stopWatching id) id .kCrashed)
  rw [checkProcess]
  split
  · exact stopped
  · split
    · exact crashed
    · split_ifs
      · exact .refl w
      · exact stopped
      · exact crashed

/-- Nor does `Start`. -/
lemma sameSockets_start (w : World) (ws : Workspace) : SameSockets w (start env w ws) := by
  rw [start]
  split
  · exact ⟨rfl, rfl, rfl, rfl, fun _ _ => rfl⟩
  · dsimp only
    split_ifs
    · exact ⟨rfl, rfl, rfl, rfl, fun _ _ => rfl⟩
    · exact ⟨rfl, rfl, rfl, rfl, fun _ _ => rfl⟩
    · exact sameSockets_post w fun _ _ => rfl

/-- The commands in flight are as they were. -/
lemma SameSockets.inFlight {w w' : World} (h : SameSockets w w') (id : String) (n : Nat) :
    w'.inFlight id n = w.inFlight id n := by
  rw [World.inFlight, World.inFlight, h.pool, h.replies]

/-- With fewer appliers and calls everything stays in order. -/
lemma Calls.mono {w w' : World} (h : w.Calls) (next : w'.nextApplier = w.nextApplier)
    (appliers : ∀ (id : String) (x : Nat × Applier), w'.appliers[id]? = some x → w.appliers[id]? = some x)
    (flying : ∀ id n, w'.inFlight id n ≤ w.inFlight id n) : w'.Calls where
  one id n := (flying id n).trans (h.one id n)
  appliers id n a ha := by
    obtain ⟨numbered, stands⟩ := h.appliers id n a (appliers id (n, a) ha)
    exact ⟨next ▸ numbered, stands.mono (flying id n)⟩
  fresh id n hn := Nat.le_zero.mp (h.fresh id n (next ▸ hn) ▸ flying id n)

/-- An applier that is gone stays so as long as nothing new is made. -/
lemma Gone.mono {w w' : World} {id : String} {n : Nat} (h : w.Gone id n)
    (next : w'.nextApplier = w.nextApplier)
    (appliers : ∀ (id : String) (x : Nat × Applier), w'.appliers[id]? = some x → w.appliers[id]? = some x)
    (flying : ∀ id n, w'.inFlight id n ≤ w.inFlight id n) : w'.Gone id n :=
  ⟨next ▸ h.numbered, fun a ha => h.destroyed a (appliers id (n, a) ha),
    Nat.le_zero.mp (h.idle ▸ flying id n)⟩

/-- A step that destroys appliers, and closes their sockets. -/
lemma accounts_removed {w w' : World} {e : Event} {c : List (Int × String × Nat)} (calls : w.Calls)
    (returned : w.returned e = none) (dropped : w.dropped e = none) (next : w'.nextApplier = w.nextApplier)
    (replies : w'.replies = w.replies)
    (pool : ∀ id n, w'.pool.countP (·.sendsFor id n) = w.pool.countP (·.sendsFor id n))
    (appliers : ∀ (id : String) (x : Nat × Applier), w'.appliers[id]? = some x → w.appliers[id]? = some x)
    (closed : w'.closed = w.closed ++ c.map Prod.fst)
    (balance : applierSockets w.appliers = c + applierSockets w'.appliers) : Accounts w e w' := by
  have flying (id : String) (n : Nat) : w'.inFlight id n ≤ w.inFlight id n := by
    rw [inFlight, inFlight, pool, replies]
  refine ⟨calls.mono next appliers flying, fun id n g => g.mono next appliers flying, c, closed, ?_⟩
  rw [returned, dropped, heldSockets, heldSockets, balance, replies]
  simp only [Option.toList_none, Multiset.coe_nil, add_zero, add_assoc]

/-- A step that leaves the sockets as they are. -/
lemma SameSockets.accounts {w w' : World} {e : Event} (h : SameSockets w w') (calls : w.Calls)
    (returned : w.returned e = none) (dropped : w.dropped e = none) : Accounts w e w' := by
  refine accounts_removed (c := []) calls returned dropped h.nextApplier h.replies h.pool ?_ ?_ ?_
  · intro id x hx
    exact h.appliers ▸ hx
  · rw [h.closed, List.map_nil, List.append_nil]
  · rw [h.appliers, Multiset.coe_nil, zero_add]

/-! ## Methods of an applier -/

/-- What the effects of an applier change that concerns sockets. -/
lemma foldl_runEffect_sockets (id : String) (n : Nat) (effects : List ApplierEffect) (w : World) :
    (effects.foldl (runEffect id n) w).appliers = w.appliers ∧
    (effects.foldl (runEffect id n) w).nextApplier = w.nextApplier ∧
    (effects.foldl (runEffect id n) w).replies = w.replies ∧
    (effects.foldl (runEffect id n) w).closed = w.closed ++ Applier.closes effects ∧
    ∀ id' n', (effects.foldl (runEffect id n) w).pool.countP (·.sendsFor id' n') =
      w.pool.countP (·.sendsFor id' n') + if id = id' ∧ n = n' then Applier.sends effects else 0 := by
  induction effects generalizing w with
  | nil => exact ⟨rfl, rfl, rfl, (List.append_nil _).symm, fun _ _ => by simp [Applier.sends]⟩
  | cons e effects ih =>
    obtain ⟨appliers, next, replies, closed, pool⟩ := ih (runEffect id n w e)
    cases e with
    | isCDPAvailable port =>
      refine ⟨appliers, next, replies, closed, fun id' n' => ?_⟩
      rw [List.foldl_cons, pool]
      simp [runEffect, Applier.sends, PoolTask.sendsFor]
    | sendCommands port commands =>
      refine ⟨appliers, next, replies, closed, fun id' n' => ?_⟩
      rw [List.foldl_cons, pool]
      simp only [runEffect, Applier.sends, List.countP_append, List.countP_nil, List.countP_cons,
        PoolTask.sendsFor, Bool.and_eq_true, beq_iff_eq]
      split_ifs <;> omega
    | close fd =>
      refine ⟨appliers, next, replies, ?_, pool⟩
      rw [List.foldl_cons, closed]
      exact List.append_assoc w.closed [fd] _
    | runCallback success => exact ⟨appliers, next, replies, closed, pool⟩
    | runNullCallback => exact ⟨appliers, next, replies, closed, pool⟩

/-- The sockets after an applier was put into the map. -/
lemma applierSockets_insert (m : Std.ExtTreeMap String (Nat × Applier)) (id : String) (x : Nat × Applier) :
    applierSockets (m.insert id x) = (socketOf (id, x)).toList + applierSockets (m.erase id) := by
  rw [applierSockets, applierSockets, ← coe_filterMap_cons, Multiset.coe_eq_coe]
  exact (KeyedMap.toList_insert_perm m id x).filterMap socketOf

/-- The sockets of the map with an id, and those without it. -/
lemma applierSockets_erase (m : Std.ExtTreeMap String (Nat × Applier)) (id : String) :
    applierSockets m = (m[id]?.bind fun x => socketOf (id, x)).toList + applierSockets (m.erase id) := by
  cases h : m[id]? with
  | none =>
    rw [KeyedMap.erase_of_get_eq_none h]
    simp
  | some x =>
    rw [Option.bind_some, applierSockets, applierSockets, ← coe_filterMap_cons, Multiset.coe_eq_coe]
    exact (KeyedMap.toList_perm_erase h).filterMap socketOf

/-- The sockets of the replies with one of them, and those without it. -/
lemma replySockets_eraseIdx {replies : List Reply} {i : Nat} {reply : Reply} (h : replies[i]? = some reply) :
    replySockets replies = reply.socket.toList + replySockets (replies.eraseIdx i) :=
  coe_filterMap_eraseIdx Reply.socket h

/-- An applier has changed and has a number of calls in flight; the others are as they were. -/
structure Updates (w w' : World) (id : String) (n : Nat) (a : Applier) (calls : Nat) : Prop where
  appliers : w'.appliers = w.appliers.insert id (n, a)
  nextApplier : w'.nextApplier = w.nextApplier
  current : w'.inFlight id n = calls
  others : ∀ id' n', ¬ (id = id' ∧ n = n') → w'.inFlight id' n' = w.inFlight id' n'

/-- A step of an applier keeps at most one call in flight for each. -/
lemma Updates.calls {w w' : World} {id : String} {n k : Nat} {a a' : Applier} (u : Updates w w' id n a' k)
    (calls : w.Calls) (ha : w.appliers[id]? = some (n, a)) (one : k ≤ 1) (stands : a'.Stands k) : w'.Calls := by
  obtain ⟨numbered, _⟩ := calls.appliers id n a ha
  refine ⟨fun id' n' => ?_, fun id' n' a1 ha1 => ?_, fun id' n' hn => ?_⟩
  · by_cases same : id = id' ∧ n = n'
    · obtain ⟨rfl, rfl⟩ := same
      exact u.current.trans_le one
    · exact (u.others id' n' same).trans_le (calls.one id' n')
  · rw [u.appliers, KeyedMap.get_insert] at ha1
    rw [u.nextApplier]
    split_ifs at ha1 with same
    · subst same
      cases ha1
      rw [u.current]
      exact ⟨numbered, stands⟩
    · rw [u.others id' n' fun h => same h.1]
      exact calls.appliers id' n' a1 ha1
  · rw [u.nextApplier] at hn
    have other : ¬ (id = id' ∧ n = n') := by
      rintro ⟨rfl, rfl⟩
      exact absurd hn (Nat.not_le.mpr numbered)
    exact (u.others id' n' other).trans (calls.fresh id' n' hn)

/-- A step of an applier does not bring back the ones that are gone. -/
lemma Updates.gone {w w' : World} {id id' : String} {n n' k : Nat} {a a' : Applier} (u : Updates w w' id n a' k)
    (ha : w.appliers[id]? = some (n, a)) (gone : w.Gone id' n') : w'.Gone id' n' := by
  have other : ¬ (id = id' ∧ n = n') := by
    rintro ⟨rfl, rfl⟩
    exact gone.destroyed a ha
  refine ⟨u.nextApplier ▸ gone.numbered, fun a1 ha1 => ?_, (u.others id' n' other).trans gone.idle⟩
  rw [u.appliers, KeyedMap.get_insert] at ha1
  split_ifs at ha1 with same
  · cases ha1
    exact other ⟨same, rfl⟩
  · exact gone.destroyed a1 ha1

/-- The sockets of the appliers when one of them is replaced: its own are closed or kept, or gained. -/
lemma applierSockets_conserves {m : Std.ExtTreeMap String (Nat × Applier)} {id : String} {n k : Nat} {a : Applier}
    {gained : Option Int} {r : Applier × List ApplierEffect} (ha : m[id]? = some (n, a))
    (conserves : a.Conserves gained k r) :
    applierSockets m + (gained.map fun fd => (fd, id, n)).toList =
      ((Applier.closes r.2).map fun fd => (fd, id, n)) + applierSockets (m.insert id (n, r.1)) := by
  have tagged (o : Option Int) : (o.map fun fd => (fd, id, n)).toList = o.toList.map fun fd => (fd, id, n) := by
    cases o <;> rfl
  have sockets := congrArg (fun l : List Int => (↑(l.map fun fd => (fd, id, n)) : Multiset (Int × String × Nat)))
    conserves.sockets
  rw [List.map_append, List.map_append, ← Multiset.coe_add, ← Multiset.coe_add] at sockets
  rw [applierSockets_insert, applierSockets_erase m id, ha, Option.bind_some, socketOf, socketOf, tagged, tagged,
    tagged, add_right_comm, sockets, add_assoc]

/-- A method of an applier, with some replies gone; `gained` is the socket that they brought, and `k` calls are
left. -/
lemma accounts_updateApplier {w : World} {e : Event} {id : String} {n k j : Nat} {a : Applier}
    {gained : Option Int} {r : Applier × List ApplierEffect} {replies : List Reply} (calls : w.Calls)
    (ha : w.appliers[id]? = some (n, a)) (conserves : a.Conserves gained k r)
    (left : ∀ id' n', replies.countP (·.answersFor id' n') + (if id = id' ∧ n = n' then j else 0) =
      w.replies.countP (·.answersFor id' n'))
    (flying : w.inFlight id n = k + j)
    (brought : replySockets w.replies = (gained.map fun fd => (fd, id, n)).toList + replySockets replies)
    (returned : w.returned e = none) (dropped : w.dropped e = none) :
    Accounts w e (updateApplier { w with replies := replies } id n r) := by
  obtain ⟨appliers, next, kept, closed, pool⟩ := foldl_runEffect_sockets id n r.2
    { w with replies := replies, appliers := w.appliers.insert id (n, r.1) }
  have post : updateApplier { w with replies := replies } id n r = r.2.foldl (runEffect id n)
    { w with replies := replies, appliers := w.appliers.insert id (n, r.1) } := rfl
  rw [← post] at appliers next kept closed pool
  generalize updateApplier { w with replies := replies } id n r = w' at appliers next kept closed pool
  dsimp only at appliers next kept closed pool
  have total (id' : String) (n' : Nat) : w'.inFlight id' n' + (if id = id' ∧ n = n' then j else 0) =
      w.inFlight id' n' + if id = id' ∧ n = n' then Applier.sends r.2 else 0 := by
    have replied := left id' n'
    rw [inFlight, inFlight, pool, kept]
    omega
  have updates : Updates w w' id n r.1 (k + Applier.sends r.2) := by
    refine ⟨appliers, next, ?_, fun id' n' other => ?_⟩
    · have all := total id n
      rw [if_pos ⟨rfl, rfl⟩, if_pos ⟨rfl, rfl⟩, flying] at all
      omega
    · have all := total id' n'
      rw [if_neg other, if_neg other] at all
      exact all
  have one : k + Applier.sends r.2 ≤ 1 := by
    have before := calls.one id n
    have few := conserves.sends
    rw [flying] at before
    split_ifs at few <;> omega
  refine ⟨updates.calls calls ha one conserves.stands, fun _ _ gone => updates.gone ha gone,
    (Applier.closes r.2).map fun fd => (fd, id, n), ?_, ?_⟩
  · rw [closed, List.map_map]
    exact congrArg (w.closed ++ ·) (List.map_id _).symm
  · rw [returned, dropped, heldSockets, heldSockets, appliers, kept, brought, ← add_assoc,
      applierSockets_conserves ha conserves]
    simp only [Option.toList_none, Multiset.coe_nil, add_zero, add_assoc]

/-! ## Appliers that are destroyed -/

/-- An applier that is destroyed closes its socket. -/
lemma destroyApplier_eq (w : World) (id : String) (a : Nat × Applier) :
    w.destroyApplier id a = { w with closed := w.closed ++ (socketOf (id, a)).toList.map Prod.fst } := by
  rw [destroyApplier, Applier.destroy, Applier.closeSocket, socketOf, Applier.socket]
  split_ifs
  · rfl
  · simp

/-- So does the one that a launch replaces. -/
lemma destroyOld_eq (w : World) (id : String) (old : Option (Nat × Applier)) :
    old.elim w (w.destroyApplier id) =
      { w with closed := w.closed ++ (old.bind fun x => socketOf (id, x)).toList.map Prod.fst } := by
  cases old with
  | none => simp
  | some x => exact destroyApplier_eq w id x

/-- So do all appliers. -/
lemma destroyAppliers_eq (l : List (String × Nat × Applier)) (w : World) :
    l.foldl (fun w a => w.destroyApplier a.1 a.2) w =
      { w with closed := w.closed ++ (l.filterMap socketOf).map Prod.fst } := by
  induction l generalizing w with
  | nil => simp
  | cons x l ih =>
    rw [List.foldl_cons, ih, destroyApplier_eq]
    cases h : socketOf x with
    | none => simp [h]
    | some y => simp [h]

/-- `Stop` closes the socket of the applier of the workspace. -/
lemma accounts_stop {w : World} (calls : w.Calls) (id : String) : Accounts w (.stop id) (w.stop id) := by
  rw [stop]
  split
  case h_1 => exact (SameSockets.refl w).accounts calls rfl rfl
  case h_2 r _ =>
    let w1 : World := { w.stopWatching id with processes := terminate w.processes r.process }
    have unwatched : SameSockets w w1 := ⟨rfl, rfl, rfl, rfl, fun _ _ => rfl⟩
    have same : SameSockets w (w1.postDelete r.userDataDir) :=
      unwatched.trans (sameSockets_postDelete w1 r.userDataDir)
    show Accounts w (.stop id) (let w2 := w1.postDelete r.userDataDir
      let w3 := w2.appliers[id]?.elim w2 (w2.destroyApplier id)
      { w3 with appliers := w3.appliers.erase id, workspaces := w3.workspaces.erase id })
    generalize w1.postDelete r.userDataDir = w2 at same
    dsimp only
    rw [destroyOld_eq]
    refine accounts_removed calls rfl rfl same.nextApplier same.replies same.pool ?_ ?_ ?_
      (c := (w.appliers[id]?.bind fun x => socketOf (id, x)).toList)
    · intro id' x hx
      have hx : (w2.appliers.erase id)[id']? = some x := hx
      rw [KeyedMap.get_erase, same.appliers] at hx
      split_ifs at hx
      exact hx
    · rw [← same.appliers, ← same.closed]
    · rw [applierSockets_erase w.appliers id, ← same.appliers]

/-- `StopAll` closes the sockets of all appliers. -/
lemma accounts_stopAll {w : World} (calls : w.Calls) : Accounts w .stopAll w.stopAll := by
  let w1 : World := { w with watched := ∅, watchdogTimer := false }
  have unwatched : SameSockets w w1 := ⟨rfl, rfl, rfl, rfl, fun _ _ => rfl⟩
  have stopEntry_same (w : World) (r : RunningWorkspace) : SameSockets w (w.stopEntry r) := by
    have terminated : SameSockets w { w with processes := terminate w.processes r.process } :=
      ⟨rfl, rfl, rfl, rfl, fun _ _ => rfl⟩
    exact terminated.trans (sameSockets_postDelete _ r.userDataDir)
  have same := unwatched.trans (SameSockets.foldl stopEntry_same (w1.workspaces.toList.map Prod.snd) w1)
  show Accounts w .stopAll (let w2 := (w1.workspaces.toList.map Prod.snd).foldl stopEntry w1
    let w3 := w2.appliers.toList.foldl (fun w a => w.destroyApplier a.1 a.2) w2
    { w3 with appliers := ∅, workspaces := ∅ })
  generalize (w1.workspaces.toList.map Prod.snd).foldl stopEntry w1 = w2 at same
  dsimp only
  rw [destroyAppliers_eq]
  refine accounts_removed calls rfl rfl same.nextApplier same.replies same.pool ?_ ?_ ?_
    (c := w.appliers.toList.filterMap socketOf)
  · intro id x hx
    have hx : (∅ : Std.ExtTreeMap String (Nat × Applier))[id]? = some x := hx
    simp at hx
  · rw [← same.appliers, ← same.closed]
  · exact (add_zero _).symm

/-- A reply is gone, and the socket in it with it. -/
lemma accounts_dropped {w w' : World} (calls : w.Calls) {i : Nat} {reply : Reply} {launches : Bool} {now : Time}
    (hr : w.replies[i]? = some reply) (dropped : w.dropped (.arrive i launches now) = reply.socket)
    (same : SameSockets { w with replies := w.replies.eraseIdx i } w') :
    Accounts w (.arrive i launches now) w' := by
  have flying (id : String) (n : Nat) : w'.inFlight id n ≤ w.inFlight id n := by
    rw [same.inFlight, inFlight, inFlight, Session.countP_eraseIdx (p := (·.answersFor id n)) hr, ← Nat.add_assoc]
    exact Nat.le_add_right _ _
  have kept (id : String) (x : Nat × Applier) (hx : w'.appliers[id]? = some x) : w.appliers[id]? = some x :=
    same.appliers ▸ hx
  refine ⟨calls.mono same.nextApplier kept flying, fun id n g => g.mono same.nextApplier kept flying, [], ?_, ?_⟩
  · rw [same.closed, List.map_nil, List.append_nil]
  · have out : replySockets w.replies = replySockets (w.replies.eraseIdx i) + reply.socket.toList :=
      (replySockets_eraseIdx hr).trans (add_comm _ _)
    show applierSockets w.appliers + replySockets w.replies + 0 = 0 +
      (applierSockets w'.appliers + replySockets w'.replies) + _
    rw [dropped, same.appliers, same.replies, out, add_zero, zero_add, add_assoc]

/-- A new applier takes the place of the one that was there, whose socket is closed. -/
lemma accounts_launched {w w' : World} {e : Event} {id : String} {a : Applier} (calls : w.Calls)
    (returned : w.returned e = none) (dropped : w.dropped e = none) (unconnected : a.socket = none)
    (appliers : w'.appliers = w.appliers.insert id (w.nextApplier, a))
    (next : w'.nextApplier = w.nextApplier + 1) (flying : ∀ id n, w'.inFlight id n = w.inFlight id n)
    (replies : replySockets w'.replies = replySockets w.replies)
    (closed : w'.closed = w.closed ++ (w.appliers[id]?.bind fun x => socketOf (id, x)).toList.map Prod.fst) :
    Accounts w e w' := by
  have entry {id' : String} {n : Nat} {a' : Applier} (ha : w'.appliers[id']? = some (n, a')) :
      (id' = id ∧ n = w.nextApplier ∧ a' = a) ∨ w.appliers[id']? = some (n, a') := by
    rw [appliers, KeyedMap.get_insert] at ha
    split_ifs at ha with same
    · cases ha
      exact .inl ⟨same.symm, rfl, rfl⟩
    · exact .inr ha
  refine ⟨⟨fun id' n => (flying id' n).trans_le (calls.one id' n), fun id' n a' ha => ?_, fun id' n hn => ?_⟩,
    fun id' n gone => ?_, (w.appliers[id]?.bind fun x => socketOf (id, x)).toList, closed, ?_⟩
  · rw [next, flying]
    rcases entry ha with ⟨rfl, rfl, rfl⟩ | ha
    · refine ⟨Nat.lt_succ_self _, fun _ => ⟨?_, unconnected⟩, fun _ => unconnected⟩
      exact calls.fresh id' w.nextApplier (Nat.le_refl _)
    · obtain ⟨numbered, stands⟩ := calls.appliers id' n a' ha
      exact ⟨Nat.lt_succ_of_lt numbered, stands⟩
  · rw [next] at hn
    exact (flying id' n).trans (calls.fresh id' n (Nat.le_of_succ_le hn))
  · refine ⟨next ▸ Nat.lt_succ_of_lt gone.numbered, fun a' ha => ?_, (flying id' n).trans gone.idle⟩
    rcases entry ha with ⟨_, rfl, _⟩ | ha
    · exact Nat.lt_irrefl _ gone.numbered
    · exact gone.destroyed a' ha
  · have none_new : socketOf (id, (w.nextApplier, a)) = none := by
      rw [socketOf, unconnected]
      rfl
    rw [returned, dropped, heldSockets, heldSockets, appliers, replies, applierSockets_insert,
      applierSockets_erase w.appliers id, none_new]
    simp only [Option.toList_none, Multiset.coe_nil, add_zero, zero_add, add_assoc]

/-- A launch makes a new applier, and closes the socket of the one that was there. -/
lemma accounts_continueStart {w : World} (calls : w.Calls) {i : Nat} {ws : Workspace} {dir : String} {port : Int}
    (launches : Bool) (now : Time) (reply : w.replies[i]? = some (.continueStart ws dir port)) :
    Accounts w (.arrive i launches now)
      (continueStart env { w with replies := w.replies.eraseIdx i } ws dir port launches now) := by
  have dropped : w.dropped (.arrive i launches now) = none := by
    rw [World.dropped, reply]
    rfl
  cases launches with
  | false => exact accounts_dropped calls reply dropped ⟨rfl, rfl, rfl, rfl, fun _ _ => rfl⟩
  | true =>
    let applier := (({} : Applier).apply env.generateCDPCommands port [ws]).1
    let w1 : World := { w with
      replies := w.replies.eraseIdx i
      processes := w.processes ++ [newProcess env ws dir port]
      workspaces := w.workspaces.insert ws.id (newEntry ws dir port w.processes.length now)
      watched := w.watched.insert ws.id true
      watchdogTimer := true
      appliers := w.appliers.insert ws.id (w.nextApplier, applier)
      nextApplier := w.nextApplier + 1 }
    show Accounts w (.arrive i true now) ((w.appliers[ws.id]?.elim w1 (w1.destroyApplier ws.id)).answer
      (.running (newEntry ws dir port w.processes.length now)))
    rw [destroyOld_eq]
    have unconnected : applier.socket = none := rfl
    refine accounts_launched calls rfl dropped unconnected rfl rfl (fun id n => ?_) ?_ rfl
    · show w.pool.countP (·.sendsFor id n) + (w.replies.eraseIdx i).countP (·.answersFor id n) = w.inFlight id n
      rw [inFlight, Session.countP_eraseIdx (p := (·.answersFor id n)) reply]
      rfl
    · exact ((replySockets_eraseIdx reply).trans (zero_add _)).symm

/-! ## Tasks and replies -/

/-- A call of `SendCommands` goes from the thread pool into a reply, and its socket with it. -/
lemma taskReply_spec {w : World} {i : Nat} {t : PoolTask} {result : TaskResult} {reply : Option Reply}
    (ht : w.pool[i]? = some t) (h : taskReply t result = some reply) :
    (∀ id n, t.sendsFor id n = reply.any (·.answersFor id n)) ∧
      w.returned (.runTask i result) = reply.bind Reply.socket := by
  unfold taskReply at h
  unfold returned
  split at h
  all_goals cases h
  · exact ⟨fun _ _ => rfl, rfl⟩
  · exact ⟨fun _ _ => rfl, rfl⟩
  · exact ⟨fun _ _ => rfl, rfl⟩
  · refine ⟨fun _ _ => rfl, ?_⟩
    dsimp only
    rw [ht]
    rfl

/-- A task that runs puts the socket that it opened into its reply. -/
lemma accounts_runTask {w : World} (calls : w.Calls) {i : Nat} {t : PoolTask} {result : TaskResult}
    {reply : Option Reply} (ht : w.pool[i]? = some t) (h : taskReply t result = some reply) :
    Accounts w (.runTask i result)
      { w with pool := w.pool.eraseIdx i, replies := w.replies ++ reply.toList } := by
  obtain ⟨same, returned⟩ := taskReply_spec ht h
  have flying (id : String) (n : Nat) :
      inFlight { w with pool := w.pool.eraseIdx i, replies := w.replies ++ reply.toList } id n ≤
        w.inFlight id n := by
    have counted : reply.toList.countP (·.answersFor id n) = if t.sendsFor id n then 1 else 0 := by
      rw [same]
      cases reply with
      | none => rfl
      | some r => exact List.countP_singleton
    show (w.pool.eraseIdx i).countP (·.sendsFor id n) + (w.replies ++ reply.toList).countP (·.answersFor id n) ≤ _
    rw [inFlight, List.countP_append, counted, Session.countP_eraseIdx (p := (·.sendsFor id n)) ht]
    omega
  refine ⟨calls.mono rfl (fun _ _ h => h) flying, fun id n g => g.mono rfl (fun _ _ h => h) flying, [], ?_, ?_⟩
  · exact (List.append_nil _).symm
  · have more : replySockets (w.replies ++ reply.toList) =
        replySockets w.replies + (reply.bind Reply.socket).toList := by
      rw [replySockets, List.filterMap_append, ← Multiset.coe_add]
      cases reply with
      | none => rfl
      | some r => cases hr : r.socket <;> simp [hr, replySockets]
    show applierSockets w.appliers + replySockets w.replies + _ = 0 +
      (applierSockets w.appliers + replySockets (w.replies ++ reply.toList)) + 0
    rw [returned, more, zero_add, add_zero, add_assoc]

/-- The result of a check moves no socket. -/
lemma accounts_onCDPCheckResult {w : World} (calls : w.Calls) {i : Nat} {id : String} {n : Nat} {a : Applier}
    {available launches : Bool} {now : Time} (hr : w.replies[i]? = some (.onCDPCheckResult id n available))
    (ha : w.appliers[id]? = some (n, a)) :
    Accounts w (.arrive i launches now)
      (updateApplier { w with replies := w.replies.eraseIdx i } id n (a.onCDPCheckResult available)) := by
  obtain ⟨_, stands⟩ := calls.appliers id n a ha
  refine accounts_updateApplier (j := 0) calls ha (Applier.conserves_onCDPCheckResult stands available)
    ?_ rfl ?_ rfl ?_
  · intro id' n'
    rw [Session.countP_eraseIdx (p := (·.answersFor id' n')) hr, ite_self]
    rfl
  · exact replySockets_eraseIdx hr
  · rw [dropped, hr]
    rfl

/-- The reply of `SendCommands` hands its socket to the applier. -/
lemma accounts_onCommandsSent {w : World} (calls : w.Calls) {i : Nat} {id : String} {n : Nat} {a : Applier}
    {fd : Int} {launches : Bool} {now : Time} (hr : w.replies[i]? = some (.onCommandsSent id n fd))
    (ha : w.appliers[id]? = some (n, a)) :
    Accounts w (.arrive i launches now)
      (updateApplier { w with replies := w.replies.eraseIdx i } id n (a.onCommandsSent fd)) := by
  have answers (id' : String) (n' : Nat) :
      (Reply.onCommandsSent id n fd).answersFor id' n' = true ↔ id = id' ∧ n = n' := by
    simp [Reply.answersFor]
  have flying : w.inFlight id n = 1 := by
    apply Nat.le_antisymm (calls.one id n)
    rw [inFlight, Session.countP_eraseIdx (p := (·.answersFor id n)) hr, if_pos ((answers id n).mpr ⟨rfl, rfl⟩),
      ← Nat.add_assoc]
    exact Nat.le_add_left 1 _
  obtain ⟨_, stands⟩ := calls.appliers id n a ha
  rw [flying] at stands
  refine accounts_updateApplier (j := 1) calls ha (Applier.conserves_onCommandsSent stands fd) ?_ flying ?_ rfl ?_
  · intro id' n'
    rw [Session.countP_eraseIdx (p := (·.answersFor id' n')) hr]
    simp only [answers]
  · rw [replySockets_eraseIdx hr, Reply.socket]
    split_ifs <;> rfl
  · have found : w.weakApplier id n = some a := weakApplier_eq_some.mpr ha
    rw [dropped, hr, Option.bind_some, Reply.socket]
    split_ifs
    · simp [found]
    · rfl

/-! ## Steps -/

/-- A reply that arrives is taken off the list and handled. -/
lemma arrived_of_step {w w' : World} {i : Nat} {launches : Bool} {now : Time}
    (st : step env w (.arrive i launches now) = some w') :
    ∃ reply, w.replies[i]? = some reply ∧
      w' = arrived env { w with replies := w.replies.eraseIdx i } launches now reply := by
  have st := (Option.ite_none_left_eq_some.mp st).2
  obtain ⟨reply, hr, st⟩ := Option.bind_eq_some_iff.mp st
  cases st
  exact ⟨reply, hr, rfl⟩

/-- No reply loses a socket but one whose applier is gone. -/
lemma accounts_arrive {w w' : World} (calls : w.Calls) {i : Nat} {launches : Bool} {now : Time}
    (st : step env w (.arrive i launches now) = some w') : Accounts w (.arrive i launches now) w' := by
  obtain ⟨reply, hr, rfl⟩ := arrived_of_step st
  cases reply with
  | continueStart ws dir port => exact accounts_continueStart calls launches now hr
  | onCDPCheckResult id n available =>
    rw [arrived]
    cases ha : weakApplier { w with replies := w.replies.eraseIdx i } id n with
    | none =>
      refine accounts_dropped calls hr ?_ (.refl _)
      rw [dropped, hr]
      rfl
    | some a => exact accounts_onCDPCheckResult calls hr (weakApplier_eq_some.mp ha)
  | onCommandsSent id n fd =>
    rw [arrived]
    cases ha : weakApplier { w with replies := w.replies.eraseIdx i } id n with
    | none =>
      have lost : w.weakApplier id n = none := ha
      refine accounts_dropped calls hr ?_ (.refl _)
      rw [dropped, hr, Option.bind_some, Reply.socket]
      split_ifs
      · simp [lost]
      · rfl
    | some a => exact accounts_onCommandsSent calls hr (weakApplier_eq_some.mp ha)

/-- Every step accounts for all sockets. -/
lemma accounts_of_step {w w' : World} {e : Event} (calls : w.Calls) (st : step env w e = some w') :
    Accounts w e w' := by
  have same {replies : List Reply} (id : String) (n : Nat) (id' : String) (n' : Nat) :
      replies.countP (·.answersFor id' n') + (if id = id' ∧ n = n' then 0 else 0) =
        replies.countP (·.answersFor id' n') := by
    rw [ite_self, Nat.add_zero]
  cases does_of_step st with
  | start ws => exact (sameSockets_start w ws).accounts calls rfl rfl
  | stop id => exact accounts_stop calls id
  | stopAll => exact accounts_stopAll calls
  | watchdogPoll =>
    have checked := SameSockets.foldl (fun w (p : String × Bool) => sameSockets_checkProcess w p.1)
      (w.watched.toList.filter Prod.snd) w
    exact checked.accounts calls rfl rfl
  | @pollTick id n a ha _ =>
    obtain ⟨_, stands⟩ := calls.appliers id n a ha
    exact accounts_updateApplier (j := 0) calls ha (Applier.conserves_onPollTick stands) (same id n) rfl
      (zero_add _).symm rfl rfl
  | @healthCheck id n a hungUp ha _ =>
    obtain ⟨_, stands⟩ := calls.appliers id n a ha
    exact accounts_updateApplier (j := 0) calls ha (Applier.conserves_onHealthCheck stands hungUp) (same id n) rfl
      (zero_add _).symm rfl rfl
  | runTask ht h => exact accounts_runTask calls ht h
  | continueStart | dropped | onCDPCheckResult | onCommandsSent => exact accounts_arrive calls st
  | processListens | processExits | bindPort | releasePort =>
    exact SameSockets.accounts ⟨rfl, rfl, rfl, rfl, fun _ _ => rfl⟩ calls rfl rfl

/-- What is held: by an applier that is there, or by a reply to come. -/
lemma mem_heldSockets {w : World} {fd : Int} {id : String} {n : Nat} :
    (fd, id, n) ∈ w.heldSockets ↔
      (∃ a, w.appliers[id]? = some (n, a) ∧ a.socket = some fd) ∨
        0 ≤ fd ∧ .onCommandsSent id n fd ∈ w.replies := by
  rw [heldSockets, Multiset.mem_add]
  apply or_congr
  · rw [applierSockets, Multiset.mem_coe, List.mem_filterMap]
    constructor
    · rintro ⟨⟨id', n', a⟩, mem, socket⟩
      obtain ⟨fd', found, eq⟩ := Option.map_eq_some_iff.mp socket
      cases eq
      exact ⟨a, Std.ExtTreeMap.mem_toList_iff_getElem?_eq_some.mp mem, found⟩
    · rintro ⟨a, ha, socket⟩
      refine ⟨(id, n, a), Std.ExtTreeMap.mem_toList_iff_getElem?_eq_some.mpr ha, ?_⟩
      rw [socketOf, socket]
      rfl
  · rw [replySockets, Multiset.mem_coe, List.mem_filterMap]
    constructor
    · rintro ⟨reply, mem, socket⟩
      cases reply with
      | onCommandsSent id' n' fd' =>
        simp only [Reply.socket, Option.ite_none_right_eq_some, Option.some.injEq, Prod.mk.injEq] at socket
        obtain ⟨nonneg, rfl, rfl, rfl⟩ := socket
        exact ⟨nonneg, mem⟩
      | _ => cases socket
    · rintro ⟨nonneg, mem⟩
      exact ⟨_, mem, if_pos nonneg⟩

/-- The applier of a socket that is dropped is gone, and nothing of it is under way. -/
lemma gone_of_dropped {w w' : World} {e : Event} {x : Int × String × Nat} (calls : w.Calls)
    (st : step env w e = some w') (h : w.dropped e = some x) : w'.Gone x.2.1 x.2.2 := by
  cases e with
  | arrive i launches now =>
    obtain ⟨reply, hr, rfl⟩ := arrived_of_step st
    rw [dropped, hr, Option.bind_some, Option.filter_eq_some_iff] at h
    obtain ⟨socket, alone⟩ := h
    cases reply with
    | onCommandsSent id n fd =>
      simp only [Reply.socket, Option.ite_none_right_eq_some, Option.some.injEq] at socket
      obtain ⟨_, rfl⟩ := socket
      have alone : weakApplier { w with replies := w.replies.eraseIdx i } id n = none :=
        Option.isNone_iff_eq_none.mp alone
      rw [arrived, alone]
      have answers : (Reply.onCommandsSent id n fd).answersFor id n = true := by
        simp [Reply.answersFor]
      have flying : inFlight { w with replies := w.replies.eraseIdx i } id n + 1 = w.inFlight id n := by
        rw [inFlight, inFlight, Session.countP_eraseIdx (p := (·.answersFor id n)) hr, if_pos answers]
        rfl
      refine ⟨?_, ?_, ?_⟩
      · by_contra fresh
        have idle := calls.fresh id n (Nat.not_lt.mp fresh)
        omega
      · intro a ha
        cases alone.symm.trans (weakApplier_eq_some.mpr ha)
      · have one := calls.one id n
        show inFlight { w with replies := w.replies.eraseIdx i } id n = 0
        omega
    | _ => cases socket
  | _ => cases h

end World

/-! ## Runs -/

namespace Sockets
variable {env : Env}

/-- The table has the sockets that are held and those that were lost. -/
structure Inv (s : Sockets) (lost : Multiset (Int × String × Nat)) : Prop where
  calls : s.world.Calls
  sound : s.table.Sound (s.world.heldSockets + lost)
  gone : ∀ x ∈ lost, s.world.Gone x.2.1 x.2.2

/-- In an empty world nothing is owned. -/
lemma inv_init : Inv {} 0 where
  calls := ⟨fun _ _ => Nat.zero_le 1, by simp, fun _ _ _ => rfl⟩
  sound := ⟨rfl, List.nodup_nil, rfl⟩
  gone := by simp

/-- The socket that is polled is held. -/
lemma Inv.use {s : Sockets} {lost : Multiset (Int × String × Nat)} (h : s.Inv lost) (e : World.Event) :
    (s.world.polled e).elim s.table s.table.use = s.table := by
  cases polled : s.world.polled e with
  | none => rfl
  | some fd =>
    cases e with
    | healthCheck id hungUp =>
      obtain ⟨⟨n, a⟩, ha, socket⟩ := Option.bind_eq_some_iff.mp polled
      have held : (fd, id, n) ∈ s.world.heldSockets := World.mem_heldSockets.mpr (.inl ⟨a, ha, socket⟩)
      exact h.sound.use (Multiset.mem_add.mpr (.inl held))
    | _ => cases polled

/-- Every step keeps the sockets that were not lost. -/
lemma Inv.step {s t : Sockets} {lost : Multiset (Int × String × Nat)} {e : World.Event} (h : s.Inv lost)
    (st : step env s e = some t) : t.Inv (lost + (s.world.dropped e).toList) := by
  obtain ⟨w, stw, st⟩ := Option.bind_eq_some_iff.mp st
  rw [h.use] at st
  obtain ⟨fresh, eq⟩ := Option.ite_none_left_eq_some.mp st
  cases eq
  obtain ⟨calls, gone, closing, closed, balance⟩ := World.accounts_of_step h.calls stw
  have once : ((s.world.returned e).toList.map Prod.fst).Nodup := by
    cases s.world.returned e <;> simp
  have opened := h.sound.addAll once fun x hx already => fresh ⟨x, hx, already⟩
  refine ⟨calls, ?_, fun x hx => ?_⟩
  · have total : s.world.heldSockets + lost + (s.world.returned e).toList =
        closing + (w.heldSockets + (lost + (s.world.dropped e).toList)) := by
      rw [add_right_comm, balance, add_assoc, add_assoc, add_comm _ lost]
    rw [total] at opened
    rw [closed, List.drop_left]
    exact opened.closeAll
  · rcases Multiset.mem_add.mp hx with hx | hx
    · exact gone _ _ (h.gone x hx)
    · rw [Multiset.mem_coe, Option.mem_toList] at hx
      exact World.gone_of_dropped h.calls stw hx

/-- Only a socket that was lost is open without an owner. -/
lemma Inv.owned_iff_lost {s : Sockets} {lost : Multiset (Int × String × Nat)} (h : s.Inv lost) :
    s.Owned ↔ lost = 0 := by
  constructor
  · intro owned
    apply Multiset.eq_zero_of_forall_notMem
    intro x hx
    have gone := h.gone x hx
    have opened : x ∈ s.table.opened := (h.sound.mem_opened x).mpr (Multiset.mem_add.mpr (.inr hx))
    rcases owned.owned x opened with ⟨a, ha⟩ | reply
    · exact gone.destroyed a ha
    · have flying : 0 < s.world.replies.countP (·.answersFor x.2.1 x.2.2) :=
        List.countP_pos_iff.mpr ⟨_, reply, by simp [Reply.answersFor]⟩
      have idle := gone.idle
      rw [World.inFlight] at idle
      omega
  · rintro rfl
    refine ⟨h.sound.faults, fun x hx => ?_⟩
    have held := (h.sound.mem_opened x).mp hx
    rw [add_zero] at held
    rcases World.mem_heldSockets.mp held with ⟨a, ha, _⟩ | ⟨_, reply⟩
    · exact .inl ⟨a, ha⟩
    · exact .inr reply

/-- No socket is ever closed twice, or used when it is closed; and each open one has an owner, exactly in the
runs in which no socket comes back for an applier that is gone. -/
theorem owned_iff {tr : List (Sockets × World.Event)} {t : Sockets} (r : Run (step env) {} tr t) :
    t.table.faults = 0 ∧
      (Always Owned tr t ↔ Guarded (fun s e => s.world.dropped e = none) tr) := by
  have keeps {s t : Sockets} {e : World.Event} (h : ∃ lost, s.Inv lost) (st : step env s e = some t) :
      ∃ lost, t.Inv lost := by
    obtain ⟨lost, h⟩ := h
    exact ⟨_, h.step st⟩
  obtain ⟨_, inv⟩ := r.invariant (I := fun s => ∃ lost, s.Inv lost) keeps ⟨0, inv_init⟩
  refine ⟨inv.sound.faults, ?_⟩
  refine r.always_iff (I := fun s => ∃ lost, s.Inv lost) keeps ?_ ⟨0, inv_init⟩ (inv_init.owned_iff_lost.mpr rfl)
  intro s e t h owned st
  obtain ⟨lost, h⟩ := h
  obtain rfl := h.owned_iff_lost.mp owned
  rw [(h.step st).owned_iff_lost, zero_add]
  cases s.world.dropped e <;> simp

/-- A workspace is launched, gets its commands, loses its connection, and is stopped. -/
def servedAndStopped : List World.Event := World.applied ++ [
  .arrive 0 false ⟨1⟩, .healthCheck "a" false, .healthCheck "a" true, .stop "a"]

/-- A workspace that was served and stopped: nothing is open. -/
theorem owned_iff_stopped : ∃ t : Sockets,
    Run (step bareEnv) {} (trace (step bareEnv) {} servedAndStopped) t ∧ t.table.opened = [] ∧
      Always Owned (trace (step bareEnv) {} servedAndStopped) t := by
  have r : Run (step bareEnv) {} (trace (step bareEnv) {} servedAndStopped) _ := Run.of_exec rfl
  exact ⟨_, r, rfl, (owned_iff r).2.mpr (by decide)⟩

/-- A workspace is stopped while its `SendCommands` call runs. -/
def stoppedEarly : List World.Event := [
  .start { id := "a" }, .runTask 0 .done, .arrive 0 true ⟨1⟩, .pollTick "a", .runTask 0 (.available true),
  .arrive 0 false ⟨1⟩, .stop "a", .runTask 0 (.fd 7), .runTask 0 .done, .arrive 0 false ⟨1⟩]

/-- All posted tasks have run, the applier is gone, and the socket is open. -/
theorem owned_fails : ∃ (tr : List (Sockets × World.Event)) (t : Sockets), Run (step bareEnv) {} tr t ∧
    t.world.pool = [] ∧ t.world.replies = [] ∧ t.world.appliers[("a" : String)]? = none ∧ t.world.closed = [] ∧
      t.table.opened = [(7, "a", 0)] ∧ ¬ t.Owned := by
  have ran : (exec (step bareEnv) {} stoppedEarly).map (fun t => (t.world.pool, t.world.replies,
      t.world.appliers[("a" : String)]?, t.world.closed, t.table.opened)) =
      some ([], [], none, [], [(7, "a", 0)]) := rfl
  obtain ⟨t, ex, eq⟩ := Option.map_eq_some_iff.mp ran
  obtain ⟨pool, replies, appliers, closed, opened⟩ := by simpa only [Prod.mk.injEq] using eq
  refine ⟨_, t, Run.of_exec ex, pool, replies, appliers, closed, opened, fun owned => ?_⟩
  rcases owned.owned (7, "a", 0) (opened ▸ List.mem_singleton_self _) with ⟨a, ha⟩ | reply
  · cases appliers.symm.trans ha
  · rw [replies] at reply
    cases reply

end Sockets

end PureCloak.Launcher
