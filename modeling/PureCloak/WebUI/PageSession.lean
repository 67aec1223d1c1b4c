import PureCloak.WebUI.Notifications

/-!
# The page and its handler

`PageSession` is a `PureCloakHandler` with the page that it serves, the store and the manager that both are about, and
what is on the way between the two: the messages that the page has sent, the calls of the handler that the page has not
run yet, and the launches that go on in the thread pool, each with the id of its callback. Both directions keep the
order. `PageSession.step` is one step: the user, the handler on the next message, the end of a launch, the page on the
next call, the manager and the store by themselves or for other callers, and a load of the page, which keeps the handler
or makes a new one.

A response while JavaScript is not allowed is a failed `CHECK`, and nothing comes after one.
-/

namespace PureCloak.WebUI
open PureCloak.Base PureCloak.Profiles PureCloak.Launcher PureCloak.API

/-- A function of the page that the handler calls. -/
inductive Call where
  | webUIResponse (callbackId response : Value)
  | onWorkspaceStatusChange (n : Notification)

/-- A call is run. -/
def Page.run (p : Page) : Call → Page
  | .webUIResponse (.string callbackId) response => p.webUIResponse callbackId response
  -- a name of the table is a string
  | .webUIResponse _ _ => p
  | .onWorkspaceStatusChange n => p.onWorkspaceStatusChange n.workspaceId n.status.toString n.details

/-- The handler, its page, and what is on the way. -/
structure PageSession where
  state : State
  page : Page := .loaded
  javascriptAllowed : Bool := false
  calls : List Call := []
  launches : List (String × Launch) := []
  /-- A `CHECK` has failed. -/
  failed : Bool := false

namespace PageSession

/-- What happens to a session. -/
inductive Event where
  | act (a : Action)
  /-- The handler gets the next message. -/
  | receive (d : Draws)
  /-- The callback of `Start` is run. -/
  | continueStart (i : Nat) (launches : Bool) (now : Time)
  /-- The page runs the next call. -/
  | deliver
  | world (e : World.Event) (now : Time)
  | store (op : StoreOp)
  /-- The page is loaded again, by the same handler or by a new one. -/
  | load (reused : Bool)

/-- The observers are told; the page is, if JavaScript is allowed. -/
def tell (s : PageSession) (told : List Notification) : PageSession :=
  if s.javascriptAllowed then { s with calls := s.calls ++ told.map .onWorkspaceStatusChange } else s

/-- `ResolveJavascriptCallback`. -/
def resolveJavascriptCallback (s : PageSession) (callbackId response : Value) : PageSession :=
  if s.javascriptAllowed then { s with calls := s.calls ++ [.webUIResponse callbackId response] }
  else { s with failed := true }

/-- What a handler leads to. -/
def react (s : PageSession) : Reaction → PageSession
  | .resolve callbackId value => s.resolveJavascriptCallback callbackId value
  | .launch callbackId l => { s with launches := s.launches ++ [(callbackId, l)] }

section
variable [TimeLib] [ValueLib] (env : Env)

/-- The handler gets a message; each handler first calls `AllowJavascript`. -/
def receive (s : PageSession) (m : PageMessage) (d : Draws) : PageSession :=
  match handle env s.state d m.args m.name with
  | none => { s with failed := true }
  | some h => ({ s with state := h.state, javascriptAllowed := true }.tell h.told).react h.reaction

/-- A launch comes to its end. -/
def continueStart (s : PageSession) (callbackId : String) (l : Launch) (launches : Bool) (now : Time) : PageSession :=
  let w := s.state.world
  let answer := w.continueAnswer l.ws l.userDataDir l.cdpPort launches now
  let world := World.continueStart env w l.ws l.userDataDir l.cdpPort launches now
  ({ s with state := { s.state with world := world } }.tell (launchNotifications now w l launches)).resolveJavascriptCallback
    (.string callbackId) (.dict (startResult now answer))

variable (toLowerCase : String → String)

/-- One step. -/
def step (s : PageSession) (e : Event) : Option PageSession :=
  if s.failed then none
  else
    match e with
    | .act a => some { s with page := s.page.act toLowerCase a }
    | .receive d =>
      match s.page.sent with
      | [] => none
      | m :: rest => some ({ s with page := { s.page with sent := rest } }.receive env m d)
    | .continueStart i launches now => do
      let (callbackId, l) ← s.launches[i]?
      return { s with launches := s.launches.eraseIdx i }.continueStart env callbackId l launches now
    | .deliver =>
      match s.calls with
      | [] => none
      | c :: rest => some { s with calls := rest, page := s.page.run c }
    | .world e now => do
      let w ← World.step env s.state.world e
      return { s with state := { s.state with world := w } }.tell (notifications now s.state.world e)
    | .store op => some { s with state := { s.state with store := s.state.store.apply op } }
    | .load reused =>
      some { s with
        page := .loaded
        javascriptAllowed := false
        calls := []
        -- the callbacks of a handler that is gone do nothing
        launches := if reused then s.launches else [] }

end

/-- A session with a page that was just loaded. -/
def start (store : WorkspaceStore) (world : World) : PageSession where
  state := ⟨store, world⟩

/-- Nothing is on the way between the handler and the page. -/
def Quiet (s : PageSession) : Prop :=
  s.page.sent = [] ∧ s.calls = []

instance (s : PageSession) : Decidable s.Quiet :=
  inferInstanceAs (Decidable (s.page.sent = [] ∧ s.calls = []))

end PageSession

end PureCloak.WebUI
