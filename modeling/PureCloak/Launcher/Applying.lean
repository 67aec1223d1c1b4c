import PureCloak.Launcher.Supervision

/-!
# Whose browser the commands reach

The applier of a workspace keeps the port that its process was launched with, and connects to it again
whenever the connection is lost. It is destroyed when the workspace is stopped or launched again, but not when its
process exits; the port is then free for another workspace, whose process the applier connects to.

A port is in use by a workspace as long as an applier of it may still send commands there, or commands
are on their way (`Addresses`). `Isolated` says that no process of another workspace has such a port; a step
that only narrows what is in use keeps it (`Narrows.isolated`), and so does a launch that is
`LaunchesApart`. `sends_to_own` follows for runs.
-/

namespace PureCloak.Launcher
open PureCloak.Base PureCloak.Profiles Machine

/-- The applier has given up: nothing makes it check its port again. -/
def Applier.retired (a : Applier) : Bool :=
  a.commandsStarted && !a.pollTimer && !a.healthTimer

/-- Whose commands a task sends, and to which port. -/
def PoolTask.recipient : PoolTask → Option (String × Int)
  | .sendCommands id _ port _ => some (id, port)
  | _ => none

/-- The task sends commands for an applier. -/
def PoolTask.sendsFor (id : String) (n : Nat) : PoolTask → Bool
  | .sendCommands id' n' _ _ => id' == id && n' == n
  | _ => false

/-- The reply tells an applier that it is connected. -/
def Reply.connects (id : String) (n : Nat) : Reply → Bool
  | .onCommandsSent id' n' fd => id' == id && n' == n && decide (0 ≤ fd)
  | _ => false

namespace World

/-- An applier may come to send commands: it has not given up, or it will watch a connection that is
being made. -/
def MaySend (w : World) (id : String) (a : Nat × Applier) : Prop :=
  a.2.retired = false ∨ (∃ t ∈ w.pool, t.sendsFor id a.1) ∨ ∃ r ∈ w.replies, r.connects id a.1

instance (w : World) (id : String) (a : Nat × Applier) : Decidable (w.MaySend id a) :=
  inferInstanceAs (Decidable (_ ∨ _ ∨ _))

/-- Commands of a workspace may still be sent to a port. -/
def Addresses (w : World) (id : String) (port : Int) : Prop :=
  (∃ a, w.appliers[id]? = some a ∧ a.2.cdpPort = port ∧ w.MaySend id a) ∨
    ∃ t ∈ w.pool, t.recipient = some (id, port)

/-- No process of another workspace was told to listen on a port that commands of a workspace may
still be sent to. -/
def Isolated (w : World) : Prop :=
  ∀ id port, w.Addresses id port → ∀ p ∈ w.processes, p.alive → p.debugPort = port →
    p.workspaceId = id

/-- The commands that a step sends, by their workspace and port. -/
def sent (w : World) : Event → Option (String × Int)
  | .runTask i _ => w.pool[i]?.bind PoolTask.recipient
  | _ => none

/-- The process that commands are sent to is one of the workspace that they are for. -/
def SendsToOwn (w : World) (e : Event) : Prop :=
  ∀ s ∈ w.sent e, ∀ p ∈ w.processes, p.listensOn s.2 → p.workspaceId = s.1

instance (w : World) (e : Event) : Decidable (w.SendsToOwn e) :=
  inferInstanceAs (Decidable (∀ s ∈ w.sent e, ∀ p ∈ w.processes, _ → _))

/-- A process is launched apart from other workspaces: none of their processes that are alive has the port
that its applier is given, and none of their commands may still be sent to its own port. -/
def LaunchesApart (env : Env) (w : World) (e : Event) : Prop :=
  ∀ l ∈ w.launched e,
    (∀ p ∈ w.processes, p.alive → p.debugPort = l.2.2 → p.workspaceId = l.1.id) ∧
    (∀ x ∈ w.appliers.toList, x.2.2.cdpPort = (newProcess env l.1 l.2.1 l.2.2).debugPort →
      w.MaySend x.1 x.2 → x.1 = l.1.id) ∧
    ∀ t ∈ w.pool, ∀ s ∈ t.recipient, s.2 = (newProcess env l.1 l.2.1 l.2.2).debugPort →
      s.1 = l.1.id

instance (env : Env) (w : World) (e : Event) : Decidable (w.LaunchesApart env e) :=
  inferInstanceAs (Decidable (∀ l ∈ w.launched e, _ ∧ _ ∧ _))

/-! ## Steps that use no more ports -/

/-- A world in which nothing is new that `Isolated` speaks about. -/
structure Narrows (w w' : World) : Prop where
  processes : ∀ p' ∈ w'.processes, p'.alive →
    ∃ p ∈ w.processes, p.alive ∧ p.debugPort = p'.debugPort ∧ p.workspaceId = p'.workspaceId
  addresses : ∀ id port, w'.Addresses id port → w.Addresses id port

/-- Two steps that narrow are one. -/
lemma Narrows.trans {w w' w'' : World} (h : Narrows w w') (h' : Narrows w' w'') : Narrows w w'' where
  processes := by
    intro p'' hp'' alive''
    obtain ⟨p', hp', alive', port', id'⟩ := h'.processes p'' hp'' alive''
    obtain ⟨p, hp, alive, port, id⟩ := h.processes p' hp' alive'
    exact ⟨p, hp, alive, port.trans port', id.trans id'⟩
  addresses id port addr := h.addresses id port (h'.addresses id port addr)

/-- What was isolated stays so in a narrower world. -/
lemma Narrows.isolated {w w' : World} (h : Narrows w w') (iso : w.Isolated) : w'.Isolated := by
  intro id port addr p' hp' alive' port'
  obtain ⟨p, hp, alive, samePort, sameId⟩ := h.processes p' hp' alive'
  rw [← sameId]
  exact iso id port (h.addresses id port addr) p hp alive (samePort.trans port')

/-- With fewer appliers, no new tasks that send commands and fewer replies, no more ports are in use. -/
lemma Addresses.mono {w w' : World} {id : String} {port : Int}
    (appliers : ∀ (id : String) (a : Nat × Applier), w'.appliers[id]? = some a →
      w.appliers[id]? = some a)
    (pool : ∀ t ∈ w'.pool, t ∈ w.pool ∨ t.recipient = none) (replies : w'.replies ⊆ w.replies)
    (h : w'.Addresses id port) : w.Addresses id port := by
  have sending {t : PoolTask} (ht : t ∈ w'.pool) (hs : t.recipient ≠ none) : t ∈ w.pool :=
    (pool t ht).resolve_right hs
  obtain ⟨a, ha, hp, may⟩ | ⟨t, ht, hr⟩ := h
  · refine .inl ⟨a, appliers id a ha, hp, ?_⟩
    obtain active | ⟨t, ht, hs⟩ | ⟨r, hr, hc⟩ := may
    · exact .inl active
    · refine .inr (.inl ⟨t, sending ht ?_, hs⟩)
      cases t with
      | sendCommands => nofun
      | _ => cases hs
    · exact .inr (.inr ⟨r, replies hr, hc⟩)
  · exact .inr ⟨t, sending ht (by simp [hr]), hr⟩

/-- A world with less in it is narrower. -/
lemma Narrows.of_less {w w' : World} (processes : w'.processes = w.processes)
    (appliers : ∀ (id : String) (a : Nat × Applier), w'.appliers[id]? = some a →
      w.appliers[id]? = some a)
    (pool : ∀ t ∈ w'.pool, t ∈ w.pool ∨ t.recipient = none)
    (replies : w'.replies ⊆ w.replies) : Narrows w w' where
  processes := by
    intro p hp alive
    rw [processes] at hp
    exact ⟨p, hp, alive, rfl, rfl⟩
  addresses _ _ h := h.mono appliers pool replies

/-- A world is no wider than itself. -/
lemma Narrows.refl (w : World) : Narrows w w :=
  .of_less rfl (fun _ _ h => h) (fun _ h => .inl h) (fun _ h => h)

/-- The steps of a list narrow, if each does. -/
lemma Narrows.foldl {α : Type} {f : World → α → World} (h : ∀ w x, Narrows w (f w x)) (l : List α)
    (w : World) : Narrows w (l.foldl f w) := by
  induction l generalizing w with
  | nil => exact .refl w
  | cons x l ih => exact (h w x).trans (ih (f w x))

/-- A task is posted that sends no commands. -/
lemma narrows_post (w : World) {t : PoolTask} (ht : t.recipient = none) :
    Narrows w { w with pool := w.pool ++ [t] } := by
  refine .of_less rfl (fun _ _ h => h) ?_ (fun _ h => h)
  intro t' h
  obtain h | h := List.mem_append.mp h
  · exact .inl h
  · rw [List.mem_singleton.mp h]
    exact .inr ht

/-- A change that revives no process narrows. -/
lemma narrows_modify (w : World) (pid : Pid) {f : Process → Process}
    (hf : ∀ p, ((f p).alive → p.alive) ∧ (f p).argv = p.argv ∧ (f p).workspaceId = p.workspaceId) :
    Narrows w { w with processes := w.processes.modify pid f } where
  processes := by
    intro p' hp' alive
    obtain ⟨n, hn⟩ := List.mem_iff_getElem?.mp hp'
    rw [List.getElem?_modify] at hn
    obtain ⟨p, hp, e⟩ := Option.map_eq_some_iff.mp hn
    have mem := List.mem_of_getElem? hp
    split at e
    · subst e
      obtain ⟨ha, hargv, hid⟩ := hf p
      exact ⟨p, mem, ha alive, by simp [Process.debugPort, hargv], hid.symm⟩
    · subst e
      exact ⟨p, mem, alive, rfl, rfl⟩
  addresses _ _ h := h.mono (fun _ _ h => h) (fun _ h => .inl h) (fun _ h => h)

/-- The end of an applier narrows. -/
lemma narrows_destroyApplier (w : World) (id : String) (a : Nat × Applier) :
    Narrows w (w.destroyApplier id a) := by
  rw [destroyApplier, Applier.destroy, Applier.closeSocket]
  split
  · exact .of_less rfl (fun _ _ h => h) (fun _ h => .inl h) (fun _ h => h)
  · exact .refl w

/-- So does the end of the one that a launch replaces. -/
lemma narrows_destroyOld (w : World) (id : String) (old : Option (Nat × Applier)) :
    Narrows w (old.elim w (w.destroyApplier id)) := by
  cases old with
  | none => exact .refl w
  | some a => exact narrows_destroyApplier w id a

/-- A deletion that is posted has no recipient. -/
lemma narrows_postDelete (w : World) (dir : String) : Narrows w (w.postDelete dir) := by
  rw [postDelete]
  split
  · exact narrows_post w rfl
  · exact .refl w

/-- `Terminate` narrows. -/
lemma narrows_terminate (w : World) (process : Option Pid) :
    Narrows w { w with processes := terminate w.processes process } := by
  cases process with
  | none => exact .refl w
  | some pid => exact narrows_modify w pid fun p => ⟨id, rfl, rfl⟩

/-- A world in which only the entries, the watchdog, the answers or what others have bound has changed. -/
lemma narrows_same {w w' : World} (processes : w'.processes = w.processes)
    (appliers : w'.appliers = w.appliers) (pool : w'.pool = w.pool)
    (replies : w'.replies = w.replies) : Narrows w w' := by
  refine .of_less processes ?_ ?_ (replies ▸ List.Subset.refl _)
  · intro id a h
    rwa [appliers] at h
  · intro t h
    exact .inl (pool ▸ h)

/-- So does the end of watching. -/
lemma narrows_stopWatching (w : World) (id : String) : Narrows w (w.stopWatching id) :=
  narrows_same rfl rfl rfl rfl

/-- So does a check of a process. -/
lemma narrows_checkProcess (w : World) (id : String) : Narrows w (w.checkProcess id) := by
  have notified (w : World) (status : Status) : Narrows w (w.notifyStatusChanged id status) := by
    rw [notifyStatusChanged]
    split
    · exact .refl w
    · exact narrows_same rfl rfl rfl rfl
  have unwatched := narrows_stopWatching w id
  rw [checkProcess]
  split
  · exact unwatched
  · split
    · exact unwatched.trans (notified _ _)
    · split
      · exact .refl w
      · split
        · exact unwatched
        · exact unwatched.trans (notified _ _)

/-- `Start` posts a task that has no recipient. -/
lemma narrows_start (env : Env) (w : World) (ws : Workspace) : Narrows w (start env w ws) := by
  rw [start]
  split
  · exact narrows_same rfl rfl rfl rfl
  · split
    · exact narrows_same rfl rfl rfl rfl
    · dsimp only
      split
      · exact narrows_same rfl rfl rfl rfl
      · exact narrows_post w rfl

/-- `Stop` narrows. -/
lemma narrows_stop (w : World) (id : String) : Narrows w (w.stop id) := by
  have erased (w : World) : Narrows w
      { w with appliers := w.appliers.erase id, workspaces := w.workspaces.erase id } := by
    refine .of_less rfl ?_ (fun _ h => .inl h) (fun _ h => h)
    intro id' a h
    rw [KeyedMap.get_erase] at h
    exact (Option.ite_none_left_eq_some.mp h).2
  rw [stop]
  split
  · exact .refl w
  case h_2 r hr =>
    exact (narrows_stopWatching w id).trans <| (narrows_terminate _ r.process).trans <|
      (narrows_postDelete _ r.userDataDir).trans <| (narrows_destroyOld _ id _).trans <| erased _

/-- `StopAll` narrows. -/
lemma narrows_stopAll (w : World) : Narrows w w.stopAll := by
  have cleared (w : World) : Narrows w { w with appliers := ∅, workspaces := ∅ } := by
    refine .of_less rfl ?_ (fun _ h => .inl h) (fun _ h => h)
    intro id a h
    simp at h
  have unwatched : Narrows w { w with watched := ∅, watchdogTimer := false } :=
    narrows_same rfl rfl rfl rfl
  have stopped (w : World) (r : RunningWorkspace) : Narrows w (w.stopEntry r) :=
    (narrows_terminate w r.process).trans (narrows_postDelete _ r.userDataDir)
  exact unwatched.trans <| (Narrows.foldl stopped _ _).trans <|
    (Narrows.foldl (fun w (a : String × Nat × Applier) => narrows_destroyApplier w a.1 a.2) _ _).trans <| cleared _

end World

/-! ## The methods of an applier -/

/-- A method keeps the port, sends commands only to it and not when the applier has given up, and an applier
that has given up goes on only if it is woken. -/
structure Applier.Continues (a : Applier) (woken : Prop) (r : Applier × List ApplierEffect) : Prop where
  port : r.1.cdpPort = a.cdpPort
  sends : ∀ port commands, .sendCommands port commands ∈ r.2 → port = a.cdpPort ∧ a.retired = false
  active : r.1.retired = false → a.retired = false ∨ woken

namespace Applier

/-- An applier has not given up while it has not sent its commands or has a timer. -/
lemma retired_eq_false {a : Applier} :
    a.retired = false ↔ a.commandsStarted = false ∨ a.pollTimer = true ∨ a.healthTimer = true := by
  cases h : a.commandsStarted <;> simp [retired, h, Decidable.imp_iff_not_or]

/-- The callback of `Apply` changes neither the port nor whether the applier has given up. -/
lemma runPendingCallback_keeps (a : Applier) (success : Bool) :
    (a.runPendingCallback success).1.cdpPort = a.cdpPort ∧
    (a.runPendingCallback success).1.retired = a.retired := by
  rw [runPendingCallback]
  split <;> exact ⟨rfl, rfl⟩

/-- It sends no commands. -/
lemma runPendingCallback_sends (a : Applier) (success : Bool) (port : Int)
    (commands : List DictValue) : .sendCommands port commands ∉ (a.runPendingCallback success).2 := by
  rw [runPendingCallback]
  split <;> simp

/-- A tick of the poll timer sends nothing and wakes no applier. -/
lemma continues_onPollTick {a : Applier} : a.Continues False a.onPollTick :=
  ⟨rfl, by simp [onPollTick], .inl⟩

/-- Nor does a health check. -/
lemma continues_onHealthCheck {a : Applier} (h : a.healthTimer) (hungUp : Bool) :
    a.Continues False (a.onHealthCheck hungUp) := by
  have active : a.retired = false := retired_eq_false.mpr (.inr (.inr h))
  rw [onHealthCheck]
  split
  · exact ⟨rfl, by simp, fun _ => .inl active⟩
  · split
    · rw [reconnectCDP, closeSocket]
      dsimp only
      split
      · exact ⟨rfl, by simp, fun _ => .inl active⟩
      · exact ⟨rfl, by simp, fun _ => .inl active⟩
    · exact ⟨rfl, by simp, .inl⟩

/-- The result of a check sends to the port of the applier, and wakes no applier that has given up. -/
lemma continues_onCDPCheckResult (a : Applier) (available : Bool) :
    a.Continues False (a.onCDPCheckResult available) := by
  rw [onCDPCheckResult]
  split
  case isTrue => exact ⟨rfl, by simp, .inl⟩
  case isFalse idle =>
    have active : a.retired = false := retired_eq_false.mpr (.inl (Bool.eq_false_iff.mpr idle))
    split
    · refine ⟨rfl, ?_, fun _ => .inl active⟩
      intro port commands h
      cases List.mem_singleton.mp h
      exact ⟨rfl, active⟩
    · dsimp only
      split
      · exact ⟨(runPendingCallback_keeps _ false).1,
          fun port commands h => absurd h (runPendingCallback_sends _ false port commands),
          fun _ => .inl active⟩
      · exact ⟨rfl, by simp, fun _ => .inl active⟩

/-- The reply of `SendCommands` wakes the applier only with a file descriptor. -/
lemma continues_onCommandsSent (a : Applier) (fd : Int) :
    a.Continues (0 ≤ fd) (a.onCommandsSent fd) := by
  rw [onCommandsSent]
  split
  case isTrue connected =>
    exact ⟨(runPendingCallback_keeps _ _).1,
      fun port commands h => absurd h (runPendingCallback_sends _ _ port commands),
      fun _ => .inr connected⟩
  case isFalse =>
    obtain ⟨port, retired⟩ := runPendingCallback_keeps a (fd ≥ 0)
    exact ⟨port, fun port commands h => absurd h (runPendingCallback_sends _ _ port commands),
      fun h => .inl (retired ▸ h)⟩

end Applier

namespace World

/-- What the effects of an applier change: they post checks and commands. -/
lemma foldl_runEffect (id : String) (n : Nat) (effects : List ApplierEffect) (w : World) :
    (effects.foldl (runEffect id n) w).processes = w.processes ∧
    (effects.foldl (runEffect id n) w).appliers = w.appliers ∧
    (effects.foldl (runEffect id n) w).replies = w.replies ∧
    ∀ t ∈ (effects.foldl (runEffect id n) w).pool, t ∈ w.pool ∨ t.recipient = none ∨
      ∃ port commands, .sendCommands port commands ∈ effects ∧ t = .sendCommands id n port commands := by
  induction effects generalizing w with
  | nil => exact ⟨rfl, rfl, rfl, fun _ h => .inl h⟩
  | cons e effects ih =>
    obtain ⟨processes, appliers, replies, pool⟩ := ih (runEffect id n w e)
    refine ⟨?_, ?_, ?_, ?_⟩
    · exact processes.trans (by cases e <;> rfl)
    · exact appliers.trans (by cases e <;> rfl)
    · exact replies.trans (by cases e <;> rfl)
    · intro t ht
      obtain h | h | ⟨port, commands, he, rfl⟩ := pool t ht
      · cases e with
        | isCDPAvailable port =>
          obtain h | h := List.mem_append.mp h
          · exact .inl h
          · rw [List.mem_singleton.mp h]
            exact .inr (.inl rfl)
        | sendCommands port commands =>
          obtain h | h := List.mem_append.mp h
          · exact .inl h
          · exact .inr (.inr ⟨port, commands, .head _, List.mem_singleton.mp h⟩)
        | close | runCallback | runNullCallback => exact .inl h
      · exact .inr (.inl h)
      · exact .inr (.inr ⟨port, commands, .tail _ he, rfl⟩)

/-- What a step of an applier writes. -/
lemma updateApplier_fields (w : World) (id : String) (n : Nat) (r : Applier × List ApplierEffect) :
    (w.updateApplier id n r).processes = w.processes ∧
    (w.updateApplier id n r).appliers = w.appliers.insert id (n, r.1) ∧
    (w.updateApplier id n r).replies = w.replies ∧
    ∀ t ∈ (w.updateApplier id n r).pool, t ∈ w.pool ∨ t.recipient = none ∨
      ∃ port commands, .sendCommands port commands ∈ r.2 ∧ t = .sendCommands id n port commands :=
  foldl_runEffect id n r.2 { w with appliers := w.appliers.insert id (n, r.1) }

/-- A task that sends for an applier was there, or is of the applier that was not retired. -/
lemma updateApplier_sendsFor {w : World} {id id' : String} {n m : Nat} {a : Applier} {woken : Prop}
    {r : Applier × List ApplierEffect} (h : a.Continues woken r) {t : PoolTask}
    (ht : t ∈ (w.updateApplier id n r).pool) (hs : t.sendsFor id' m) :
    (∃ t ∈ w.pool, t.sendsFor id' m) ∨ id' = id ∧ a.retired = false := by
  obtain old | plain | ⟨port, commands, sent, rfl⟩ := (updateApplier_fields w id n r).2.2.2 t ht
  · exact .inl ⟨t, old, hs⟩
  · cases t with
    | sendCommands => cases plain
    | _ => cases hs
  · refine .inr ⟨?_, (h.sends port commands sent).2⟩
    simp only [PoolTask.sendsFor, Bool.and_eq_true, beq_iff_eq] at hs
    exact hs.1.symm

/-- A method of an applier uses no port that was not in use; an applier that is woken was told by a
reply that was still to come. -/
lemma narrows_updateApplier {w : World} {id : String} {n : Nat} {a : Applier} {woken : Prop}
    {r : Applier × List ApplierEffect} {replies : List Reply} (ha : w.appliers[id]? = some (n, a))
    (h : a.Continues woken r) (fewer : replies ⊆ w.replies)
    (wakes : woken → ∃ reply ∈ w.replies, reply.connects id n) :
    Narrows w (updateApplier { w with replies := replies } id n r) := by
  obtain ⟨processes, appliers, kept, pool⟩ := updateApplier_fields { w with replies := replies } id n r
  have before (active : a.retired = false) : w.Addresses id a.cdpPort :=
    .inl ⟨(n, a), ha, rfl, .inl active⟩
  refine ⟨?_, ?_⟩
  · intro p hp alive
    exact ⟨p, processes ▸ hp, alive, rfl, rfl⟩
  · rintro id' port (⟨x, hx, rfl, may⟩ | ⟨t, ht, hr⟩)
    · rw [appliers, KeyedMap.get_insert] at hx
      rw [MaySend, kept] at may
      split at hx
      case isTrue e =>
        cases e
        cases hx
        rw [show (n, r.1).2.cdpPort = a.cdpPort from h.port]
        obtain active | ⟨t, ht, hs⟩ | ⟨reply, hr, hc⟩ := may
        · obtain active | woken := h.active active
          · exact before active
          · exact .inl ⟨(n, a), ha, rfl, .inr (.inr (wakes woken))⟩
        · obtain old | ⟨-, active⟩ := updateApplier_sendsFor h ht hs
          · exact .inl ⟨(n, a), ha, rfl, .inr (.inl old)⟩
          · exact before active
        · exact .inl ⟨(n, a), ha, rfl, .inr (.inr ⟨reply, fewer hr, hc⟩)⟩
      case isFalse other =>
        refine .inl ⟨x, hx, rfl, ?_⟩
        obtain active | ⟨t, ht, hs⟩ | ⟨reply, hr, hc⟩ := may
        · exact .inl active
        · obtain old | ⟨e, -⟩ := updateApplier_sendsFor h ht hs
          · exact .inr (.inl old)
          · exact absurd e.symm other
        · exact .inr (.inr ⟨reply, fewer hr, hc⟩)
    · obtain old | plain | ⟨port', commands, sent, rfl⟩ := pool t ht
      · exact .inr ⟨t, old, hr⟩
      · rw [plain] at hr
        cases hr
      · cases hr
        obtain ⟨rfl, active⟩ := h.sends port commands sent
        exact before active

/-- A task that has run leaves the reply to it. -/
lemma narrows_runTask {w : World} {i : Nat} {t : PoolTask} {result : TaskResult}
    {reply : Option Reply} (ht : w.pool[i]? = some t) (h : taskReply t result = some reply) :
    Narrows w { w with pool := w.pool.eraseIdx i, replies := w.replies ++ reply.toList } := by
  have connects {id : String} {n : Nat} {r : Reply} (hr : r ∈ reply.toList)
      (hc : r.connects id n) : t.sendsFor id n := by
    rw [Option.mem_toList] at hr
    subst hr
    unfold taskReply at h
    split at h <;> cases h <;> simp_all [Reply.connects, PoolTask.sendsFor]
  refine ⟨fun p hp alive => ⟨p, hp, alive, rfl, rfl⟩, ?_⟩
  rintro id port (⟨a, ha, hp, may⟩ | ⟨t', ht', hr⟩)
  · refine .inl ⟨a, ha, hp, ?_⟩
    obtain active | ⟨t', ht', hs⟩ | ⟨r, hr, hc⟩ := may
    · exact .inl active
    · exact .inr (.inl ⟨t', List.mem_of_mem_eraseIdx ht', hs⟩)
    · obtain hr | hr := List.mem_append.mp hr
      · exact .inr (.inr ⟨r, hr, hc⟩)
      · exact .inr (.inl ⟨t, List.mem_of_getElem? ht, connects hr hc⟩)
  · exact .inr ⟨t', List.mem_of_mem_eraseIdx ht', hr⟩

/-! ## Launches -/

/-- With one more applier, only its port may be newly in use. -/
lemma Addresses.of_insert {w w' : World} {id : String} {x : Nat × Applier}
    (appliers : w'.appliers = w.appliers.insert id x) (pool : w'.pool = w.pool)
    (replies : w'.replies ⊆ w.replies) {id' : String} {port : Int} (h : w'.Addresses id' port) :
    w.Addresses id' port ∨ id' = id ∧ port = x.2.cdpPort := by
  rw [Addresses, appliers, pool] at h
  obtain ⟨a, ha, rfl, may⟩ | sending := h
  · rw [KeyedMap.get_insert] at ha
    split at ha
    case isTrue e =>
      cases ha
      exact .inr ⟨e.symm, rfl⟩
    case isFalse =>
      rw [MaySend, pool] at may
      refine .inl (.inl ⟨a, ha, rfl, ?_⟩)
      obtain active | inFlight | ⟨r, hr, hc⟩ := may
      · exact .inl active
      · exact .inr (.inl inFlight)
      · exact .inr (.inr ⟨r, replies hr, hc⟩)
  · exact .inl (.inr sending)

/-- A launch apart from the others keeps every workspace apart from the others. -/
lemma isolated_launch {env : Env} {w : World} {i : Nat} {ws : Workspace} {dir : String} {port : Int}
    {now : Time} (hr : w.replies[i]? = some (.continueStart ws dir port)) (iso : w.Isolated)
    (apart : w.LaunchesApart env (.arrive i true now)) :
    (continueStart env { w with replies := w.replies.eraseIdx i } ws dir port true now).Isolated := by
  obtain ⟨others, appliers, tasks⟩ := apart (ws, dir, port) (launched_eq_some.mpr ⟨i, now, rfl, hr⟩)
  let w1 : World := { w with
    replies := w.replies.eraseIdx i
    processes := w.processes ++ [newProcess env ws dir port]
    appliers := w.appliers.insert ws.id
      (w.nextApplier, (({} : Applier).apply env.generateCDPCommands port [ws]).1) }
  have isolated : w1.Isolated := by
    intro id q addr p hp alive hq
    have one : w1.appliers = w.appliers.insert ws.id _ := rfl
    obtain old | ⟨rfl, rfl⟩ := Addresses.of_insert one rfl List.eraseIdx_subset addr
    · obtain hp | hp := List.mem_append.mp hp
      · exact iso id q old p hp alive hq
      · cases List.mem_singleton.mp hp
        obtain ⟨a, ha, rfl, may⟩ | ⟨t, ht, hs⟩ := old
        · have hx := Std.ExtTreeMap.mem_toList_iff_getElem?_eq_some.mpr ha
          exact (appliers _ hx hq.symm may).symm
        · exact (tasks t ht (id, q) hs hq.symm).symm
    · obtain hp | hp := List.mem_append.mp hp
      · exact others p hp alive hq
      · cases List.mem_singleton.mp hp
        rfl
  have entered : Narrows w1 { w1 with
      workspaces := w.workspaces.insert ws.id (newEntry ws dir port w.processes.length now)
      watched := w.watched.insert ws.id true
      watchdogTimer := true
      nextApplier := w.nextApplier + 1 } := narrows_same rfl rfl rfl rfl
  have answered (w : World) (a : StartAnswer) : Narrows w (w.answer a) := narrows_same rfl rfl rfl rfl
  exact ((entered.trans (narrows_destroyOld _ ws.id _)).trans (answered _ _)).isolated isolated

/-! ## Runs -/

/-- A step that launches apart keeps the world isolated. -/
lemma isolated_step {env : Env} {w w' : World} {e : Event} (iso : w.Isolated)
    (apart : w.LaunchesApart env e) (st : step env w e = some w') : w'.Isolated := by
  cases does_of_step st with
  | start ws => exact (narrows_start env w ws).isolated iso
  | stop id => exact (narrows_stop w id).isolated iso
  | stopAll => exact (narrows_stopAll w).isolated iso
  | watchdogPoll =>
    have h := Narrows.foldl (fun w (p : String × Bool) => narrows_checkProcess w p.1)
      (w.watched.toList.filter Prod.snd) w
    exact h.isolated iso
  | pollTick ha _ =>
    have h := narrows_updateApplier ha Applier.continues_onPollTick (List.Subset.refl _) nofun
    exact h.isolated iso
  | healthCheck hungUp ha timer =>
    have h := narrows_updateApplier ha (Applier.continues_onHealthCheck timer hungUp)
      (List.Subset.refl _) nofun
    exact h.isolated iso
  | runTask ht hr => exact (narrows_runTask ht hr).isolated iso
  | @continueStart i ws dir port launches now hr =>
    cases launches with
    | false =>
      have h : Narrows w { w with
          replies := w.replies.eraseIdx i
          answers := w.answers ++ [.error "Failed to launch subprocess"] } :=
        .of_less rfl (fun _ _ h => h) (fun _ h => .inl h) (List.eraseIdx_subset)
      exact h.isolated iso
    | true => exact isolated_launch hr iso apart
  | @dropped i =>
    have h : Narrows w { w with replies := w.replies.eraseIdx i } :=
      .of_less rfl (fun _ _ h => h) (fun _ h => .inl h) List.eraseIdx_subset
    exact h.isolated iso
  | @onCDPCheckResult i id n a available _ _ hr ha =>
    have fewer : w.replies.eraseIdx i ⊆ w.replies := List.eraseIdx_subset
    exact (narrows_updateApplier ha (a.continues_onCDPCheckResult available) fewer nofun).isolated iso
  | @onCommandsSent i id n a fd _ _ hr ha =>
    have fewer : w.replies.eraseIdx i ⊆ w.replies := List.eraseIdx_subset
    have wakes (connected : 0 ≤ fd) : ∃ reply ∈ w.replies, reply.connects id n :=
      ⟨_, List.mem_of_getElem? hr, by simp [Reply.connects, connected]⟩
    exact (narrows_updateApplier ha (a.continues_onCommandsSent fd) fewer wakes).isolated iso
  | @processListens pid =>
    have h := narrows_modify w pid (f := fun p => { p with listening := true }) fun p => ⟨id, rfl, rfl⟩
    exact h.isolated iso
  | processExits pid =>
    have h := narrows_modify w pid (f := fun p => { p with alive := false }) fun p => ⟨nofun, rfl, rfl⟩
    exact h.isolated iso
  | bindPort | releasePort =>
    have h : Narrows w _ := narrows_same rfl rfl rfl rfl
    exact h.isolated iso

/-- An empty world is isolated. -/
lemma isolated_init : Isolated {} := by
  intro id port _ p hp
  cases hp

/-- In an isolated world every step sends to its own. -/
lemma Isolated.sendsToOwn {w : World} (iso : w.Isolated) (e : Event) : w.SendsToOwn e := by
  rintro ⟨id, port⟩ hs p hp listens
  cases e with
  | runTask i result =>
    obtain ⟨t, ht, hr⟩ := Option.bind_eq_some_iff.mp hs
    simp only [Process.listensOn, Bool.and_eq_true, beq_iff_eq] at listens
    exact iso id port (.inr ⟨t, List.mem_of_getElem? ht, hr⟩) p hp listens.1.1 listens.2
  | _ => cases hs

/-- In a run in which every process is launched apart from the other workspaces, the commands of a workspace
only reach processes of that workspace. -/
theorem sends_to_own {env : Env} {tr : List (World × Event)} {w : World}
    (r : Run (step env) {} tr w) (apart : Guarded (LaunchesApart env) tr) :
    Guarded SendsToOwn tr := by
  intro p hp
  have all := r.always_of_guarded (I := Isolated) isolated_step isolated_init apart
  exact (all.1 p hp).sendsToOwn p.2

/-- A workspace is launched and gets its commands. -/
def applied : List Event := [
  .start { id := "a" }, .runTask 0 .done, .arrive 0 true ⟨1⟩, .processListens 0,
  .pollTick "a", .runTask 0 (.available true), .arrive 0 false ⟨1⟩, .runTask 0 (.fd 7)]

/-- Another one is launched while the first one runs. -/
def besides : List Event := applied ++ [
  .start { id := "b" }, .runTask 0 .done, .arrive 1 true ⟨2⟩]

/-- The first one exits and another one is launched; the first applier finds its connection lost. -/
def reused : List Event := applied ++ [
  .arrive 0 false ⟨1⟩, .processExits 0, .watchdogPoll,
  .start { id := "b" }, .runTask 0 .done, .arrive 0 true ⟨2⟩, .processListens 1,
  .healthCheck "a" true, .pollTick "a", .runTask 0 (.available true), .arrive 0 false ⟨2⟩,
  .runTask 0 (.fd 8)]

set_option maxRecDepth 2000 in
/-- Two workspaces side by side. -/
theorem sends_to_own_besides : ∃ w,
    Run (step bareEnv) {} (trace (step bareEnv) {} besides) w ∧
    Guarded SendsToOwn (trace (step bareEnv) {} besides) := by
  have r : Run (step bareEnv) {} (trace (step bareEnv) {} besides) _ := Run.of_exec rfl
  exact ⟨_, r, sends_to_own r (by decide)⟩

/-- The commands of the first workspace go to the process of the other one. -/
theorem sends_to_own_fails :
    ¬ ∀ env tr w, Run (step env) {} tr w → Guarded SendsToOwn tr := by
  intro h
  have before : Run (step bareEnv) {} (trace (step bareEnv) {} reused.dropLast) _ := Run.of_exec rfl
  have r := Run.snoc (e := .runTask 0 (.fd 8)) before rfl
  -- the last step of the run is the one that sends to the wrong process
  have last := Guarded.singleton.mp (Guarded.append.mp (h _ _ _ r)).2
  exact absurd last (by decide +kernel)

end World

end PureCloak.Launcher
