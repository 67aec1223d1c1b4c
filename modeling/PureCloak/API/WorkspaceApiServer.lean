import PureCloak.Base.CommandLine
import PureCloak.Library.Machine

/-!
# The life cycle of the API server

`WorkspaceApiServer` with its three members, its port and what was destroyed where. `Start` takes the port 0, which the
member has while the server is not started, for a failure, also when it was asked for; and it keeps a thread that could
not be started. `life_cycle_iff` says that the members are set together, and are destroyed on the API thread, in the
runs without such a call.
-/

namespace PureCloak.API
open PureCloak.Base Machine

def kPureCloakApiPort := "purecloak-api-port"
def kDefaultApiPort : Int32 := 9334

/-- The port that `StartPureCloakApiServer` takes from the command line. -/
def apiPort (cmd : CommandLine) : Int32 :=
  let portStr := cmd.getSwitchValueASCII kPureCloakApiPort
  if portStr ≠ "" then (stringToInt portStr).1 else kDefaultApiPort

/-- A `base::Thread` that was asked to start. -/
inductive ApiThread where
  | running
  | notStarted
deriving DecidableEq

/-- What is destroyed. -/
inductive Served where
  | server
  | handler
deriving DecidableEq

/-- Where it is destroyed: on the API thread, or on the thread of the caller. -/
inductive Destroyer where
  | apiThread
  | caller
deriving DecidableEq

/-- `WorkspaceApiServer`. The objects that were destroyed are written down for the statements, and so is its own end. -/
structure WorkspaceApiServer where
  handler : Bool := false
  server : Bool := false
  thread : Option ApiThread := none
  port : Int32 := 0
  destroyed : List (Served × Destroyer) := []
  gone : Bool := false

namespace WorkspaceApiServer

/-- The object is there. -/
def holds (s : WorkspaceApiServer) : Served → Bool
  | .server => s.server
  | .handler => s.handler

/-- Those of the objects that are there are destroyed, in this order. -/
def destruction (s : WorkspaceApiServer) (objects : List Served) (on : Destroyer) : List (Served × Destroyer) :=
  (objects.filter s.holds).map fun object => (object, on)

/-- Both objects are destroyed. -/
def reset (s : WorkspaceApiServer) (order : List Served) (on : Destroyer) : WorkspaceApiServer :=
  { s with handler := false, server := false, destroyed := s.destroyed ++ s.destruction order on }

/-- The task of `Start` on the API thread. -/
def createServer (s : WorkspaceApiServer) (port : Int32) (binds : Bool) : WorkspaceApiServer :=
  if !binds then
    -- the new handler goes out of scope
    { s with port := 0, destroyed := s.destroyed ++ [(.handler, .apiThread)] }
  else
    { s with
      handler := true
      server := true
      port := port
      destroyed := s.destroyed ++ s.destruction [.handler] .apiThread }

/-- `Start`, with a thread that starts or not and a port that can be bound or not. -/
def start (s : WorkspaceApiServer) (port : Int32) (threadStarts binds : Bool) : WorkspaceApiServer × Bool :=
  if s.server then (s, false)
  else if !threadStarts then ({ s with thread := some .notStarted }, false)
  else
    let s := { s with thread := some .running }.createServer port binds
    if s.port = 0 then ({ s with thread := none }, false) else (s, true)

/-- `Stop`; it waits for a task on the thread, which a thread that was not started never runs. -/
def stop (s : WorkspaceApiServer) : Option WorkspaceApiServer :=
  match s.thread with
  | none => some s
  | some .notStarted => none
  | some .running => some { s.reset [.handler, .server] .apiThread with thread := none, port := 0 }

/-- `~WorkspaceApiServer`; what `Stop` leaves is destroyed with the members. -/
def destroy (s : WorkspaceApiServer) : Option WorkspaceApiServer :=
  s.stop.map fun s => { s.reset [.server, .handler] .caller with thread := none, gone := true }

/-- A call of the owner. -/
inductive Call where
  | start (port : Int32) (threadStarts binds : Bool)
  | stop
  | destroy

/-- The server after a call that returns. -/
def step (s : WorkspaceApiServer) (e : Call) : Option WorkspaceApiServer :=
  if s.gone then none
  else
    match e with
    | .start port threadStarts binds => some (s.start port threadStarts binds).1
    | .stop => s.stop
    | .destroy => s.destroy

/-- The members are set exactly while the server has a port, its objects are destroyed on the API thread only, and a
server without a port can be started on a free one. -/
structure LifeCycle (s : WorkspaceApiServer) : Prop where
  thread : s.thread.isSome ↔ s.port ≠ 0
  server : s.server ↔ s.port ≠ 0
  handler : s.handler ↔ s.port ≠ 0
  onApiThread : ∀ d ∈ s.destroyed, d.2 = .apiThread
  restarts : s.port = 0 → ∀ port, port ≠ 0 → (s.start port true true).2 = true

/-- The calls that keep to this: no thread fails to start, and the port 0 is not bound. -/
def KeepsLifeCycle (s : WorkspaceApiServer) : Call → Prop
  | .start port threadStarts binds => s.server = false → threadStarts = true ∧ ¬ (port = 0 ∧ binds = true)
  | .stop | .destroy => True

instance (s : WorkspaceApiServer) (e : Call) : Decidable (s.KeepsLifeCycle e) :=
  match e with
  | .start .. => inferInstanceAs (Decidable (_ → _))
  | .stop | .destroy => inferInstanceAs (Decidable True)

variable {s t : WorkspaceApiServer}

/-! ## Calls -/

/-- What the thread of the API destroys is destroyed there. -/
lemma onApiThread_destruction {objects : List Served} {d : Served × Destroyer}
    (hd : d ∈ s.destruction objects .apiThread) : d.2 = .apiThread := by
  obtain ⟨object, _, rfl⟩ := List.mem_map.mp hd
  rfl

/-- A server that has a server is not started again. -/
lemma start_of_server (h : s.server = true) (port : Int32) (threadStarts binds : Bool) :
    s.start port threadStarts binds = (s, false) := by
  rw [start, if_pos h]

/-- A thread that does not start leaves no server. -/
lemma start_of_notStarted (h : s.server = false) (port : Int32) (binds : Bool) :
    s.start port false binds = ({ s with thread := some .notStarted }, false) := by
  simp [start, h]

/-- A port that cannot be bound. -/
lemma start_of_not_bound (h : s.server = false) (port : Int32) :
    s.start port true false =
      ({ s with thread := none, port := 0, destroyed := s.destroyed ++ [(.handler, .apiThread)] }, false) := by
  simp [start, createServer, h]

/-- A port that can be bound is a failure if it is 0. -/
lemma start_of_bound (h : s.server = false) (port : Int32) :
    s.start port true true =
      ({ s with
          handler := true
          server := true
          thread := if port = 0 then none else some .running
          port := port
          destroyed := s.destroyed ++ s.destruction [.handler] .apiThread },
        decide (port ≠ 0)) := by
  have destruction : { s with server := false, thread := some ApiThread.running }.destruction [.handler] .apiThread =
      s.destruction [.handler] .apiThread := rfl
  by_cases zero : port = 0 <;> simp [start, createServer, h, zero, destruction]

/-- A server that is not there can be started on a free port. -/
lemma restarts_of_not_server (h : s.server = false) (port : Int32) (ne : port ≠ 0) :
    (s.start port true true).2 = true := by
  rw [start_of_bound h]
  exact decide_eq_true ne

/-! ## Steps -/

/-- Without members and without a port, the server can be started. -/
lemma lifeCycle_of_stopped (thread : s.thread = none) (server : s.server = false) (handler : s.handler = false)
    (port : s.port = 0) (onApiThread : ∀ d ∈ s.destroyed, d.2 = .apiThread) : s.LifeCycle where
  thread := by simp [thread, port]
  server := by simp [server, port]
  handler := by simp [handler, port]
  onApiThread := onApiThread
  restarts _ port' ne := restarts_of_not_server server port' ne

/-- What `Stop` leaves is without members and without a port. -/
lemma LifeCycle.stopped (h : s.LifeCycle) (st : s.stop = some t) :
    t.thread = none ∧ t.server = false ∧ t.handler = false ∧ t.port = 0 ∧ ∀ d ∈ t.destroyed, d.2 = .apiThread := by
  unfold stop at st
  split at st
  case h_1 none =>
    cases st
    have port : s.port = 0 := by simpa [none] using h.thread
    refine ⟨none, ?_, ?_, port, h.onApiThread⟩
    · simpa [port] using h.server
    · simpa [port] using h.handler
  case h_2 => cases st
  case h_3 =>
    cases st
    refine ⟨rfl, rfl, rfl, rfl, ?_⟩
    intro d hd
    rcases List.mem_append.mp hd with old | new
    · exact h.onApiThread d old
    · exact onApiThread_destruction new

/-- A start keeps the life cycle exactly when its thread starts and its port is not 0. -/
lemma LifeCycle.start_iff (h : s.LifeCycle) (port : Int32) (threadStarts binds : Bool) :
    (s.start port threadStarts binds).1.LifeCycle ↔ s.KeepsLifeCycle (.start port threadStarts binds) := by
  cases server : s.server with
  | true =>
    rw [start_of_server server]
    exact iff_of_true h fun absent => absurd (server.symm.trans absent) (by decide)
  | false =>
    have noPort : s.port = 0 := by simpa [server] using h.server
    have noHandler : s.handler = false := by simpa [noPort] using h.handler
    cases threadStarts with
    | false =>
      -- the thread stays
      rw [start_of_notStarted server]
      apply iff_of_false
      · intro after
        simpa [noPort] using after.thread
      · intro keeps
        exact absurd (keeps server).1 (by decide)
    | true =>
      cases binds with
      | false =>
        rw [start_of_not_bound server]
        apply iff_of_true
        · refine lifeCycle_of_stopped rfl server noHandler rfl ?_
          intro d hd
          rcases List.mem_append.mp hd with old | new
          · exact h.onApiThread d old
          · rw [List.mem_singleton.mp new]
        · exact fun _ => ⟨rfl, fun bound => absurd bound.2 (by decide)⟩
      | true =>
        rw [start_of_bound server]
        by_cases zero : port = 0
        · -- the objects stay, without a thread
          apply iff_of_false
          · intro after
            simpa [zero] using after.server
          · intro keeps
            exact (keeps server).2 ⟨zero, rfl⟩
        · apply iff_of_true
          · refine ⟨by simp [zero], by simp [zero], by simp [zero], ?_, fun port' => absurd port' zero⟩
            intro d hd
            rcases List.mem_append.mp hd with old | new
            · exact h.onApiThread d old
            · exact onApiThread_destruction new
          · exact fun _ => ⟨rfl, fun bound => zero bound.1⟩

/-- A step keeps the life cycle exactly when it meets the guard. -/
lemma LifeCycle.step_iff {e : Call} (h : s.LifeCycle) (st : s.step e = some t) :
    t.LifeCycle ↔ s.KeepsLifeCycle e := by
  have st := (Option.ite_none_left_eq_some.mp st).2
  cases e with
  | start port threadStarts binds =>
    cases st
    exact h.start_iff port threadStarts binds
  | stop =>
    obtain ⟨thread, server, handler, port, onApiThread⟩ := h.stopped st
    exact iff_of_true (lifeCycle_of_stopped thread server handler port onApiThread) trivial
  | destroy =>
    obtain ⟨u, stopped, rfl⟩ := Option.map_eq_some_iff.mp st
    obtain ⟨thread, server, handler, port, onApiThread⟩ := h.stopped stopped
    refine iff_of_true (lifeCycle_of_stopped rfl rfl rfl port ?_) trivial
    -- nothing was left
    intro d hd
    simp only [reset, destruction, List.filter_cons, holds, server, handler] at hd
    exact onApiThread d (by simpa using hd)

/-- The members are set together and destroyed on the API thread after every call exactly in the runs in which no
thread fails to start and the port 0 is not bound. -/
theorem life_cycle_iff {tr : List (WorkspaceApiServer × Call)} (r : Run step {} tr s) :
    Always LifeCycle tr s ↔ Guarded KeepsLifeCycle tr := by
  apply r.always_iff (I := fun _ => True) (fun _ _ => trivial) _ trivial
  · exact lifeCycle_of_stopped rfl rfl rfl rfl (by simp)
  · intro u e v _ h st
    exact h.step_iff st

/-- A port is in use, and another one is tried. -/
def otherPort : List Call :=
  [.start 9334 true false, .start 9335 true true, .stop, .destroy]

/-- The server is started on another port. -/
theorem life_cycle_iff_other_port :
    ∃ s, Run step {} (trace step {} otherPort) s ∧ Always LifeCycle (trace step {} otherPort) s := by
  have r : Run step {} (trace step {} otherPort) _ := Run.of_exec rfl
  exact ⟨_, r, (life_cycle_iff r).mpr (by decide)⟩

/-- What is passed for a port on the command line that is no number. -/
def unparsedPort : Int32 :=
  apiPort (.fromArgv ["purecloak", "--purecloak-api-port=abc"])

/-- Both objects are there after `Start`, which returns false for a free port then, and they are destroyed by the
caller. -/
theorem life_cycle_fails :
    ∃ s t, Run step {} (trace step {} [.start unparsedPort true true]) s ∧ s.port = 0 ∧ s.server ∧ ¬ s.LifeCycle ∧
      (s.start 9334 true true).2 = false ∧
      Run step {} (trace step {} [.start unparsedPort true true, .destroy]) t ∧
      (.server, .caller) ∈ t.destroyed := by
  refine ⟨_, _, Run.of_exec rfl, rfl, rfl, ?_, rfl, Run.of_exec rfl, ?_⟩
  · intro h
    exact absurd (h.server.mp rfl) (by decide)
  · decide

end WorkspaceApiServer

end PureCloak.API
