import PureCloak.WebUI.Page
import PureCloak.WebUI.Replies

/-!
# What the page is told of the manager

`lineOf` is what a card has to show: the status of the entry, and the port of one that runs. As long as nobody stops all
workspaces at once, what the manager tells its observers is everything that happens to these lines (`lineOf_step`); the
same holds of the handlers of the page (`lineOf_stop`, `lineOf_continueStart`).
-/

namespace PureCloak.WebUI
open PureCloak.Base PureCloak.Profiles PureCloak.Launcher PureCloak.API

/-- The line of an entry. -/
def entryLine (r : RunningWorkspace) : StatusLine :=
  ⟨r.status, if r.status = .kRunning then some (.integer (Int32.ofInt r.cdpPort)) else none⟩

/-- The line of a workspace. -/
def lineOf (w : World) (id : String) : StatusLine :=
  (w.workspaces[id]?.map entryLine).getD .stopped

/-- The lines for someone who is told of a change. -/
def Notification.shown (lines : String → StatusLine) (n : Notification) : String → StatusLine :=
  fun id => if n.workspaceId = id then statusLine n.details else lines id

/-! ## What the dictionaries show -/

/-- The status of a dictionary is shown as it is. -/
lemma shownStatus_toString {info : DictValue} {status : Status}
    (found : info.findString "status" = some status.toString) : shownStatus info = status := by
  rw [shownStatus, found]
  cases status <;> rfl

/-- A status other than running is shown without a port. -/
lemma statusLine_of_status {info : DictValue} (status : Status)
    (found : info.findString "status" = some status.toString) (idle : status ≠ .kRunning) :
    statusLine info = ⟨status, none⟩ := by
  rw [statusLine, shownStatus_toString found, if_neg idle]

/-- A dictionary without an entry is shown as stopped. -/
lemma statusLine_stopped : statusLine (DictValue.ofFields [("status", some (.string "stopped"))]) = .stopped :=
  statusLine_of_status .kStopped rfl (by decide)

section
variable [ValueLib]

/-- The status of an entry is in its dictionary. -/
lemma findString_status_toDict (r : RunningWorkspace) (now : Time) :
    DictValue.findString (r.toDict now) "status" = some r.status.toString := by
  rw [DictValue.findString, RunningWorkspace.toDict, DictValue.find_ofFields (by simp)]
  rfl

/-- So is its port. -/
lemma find_cdpPort_toDict (r : RunningWorkspace) (now : Time) :
    DictValue.find (r.toDict now) "cdp_port" = some (.integer (Int32.ofInt r.cdpPort)) := by
  rw [RunningWorkspace.toDict, DictValue.find_ofFields (by simp)]
  rfl

/-- The dictionary of an entry. -/
lemma statusLine_toDict (r : RunningWorkspace) (now : Time) : statusLine (r.toDict now) = entryLine r := by
  rw [statusLine, shownStatus_toString (findString_status_toDict r now), find_cdpPort_toDict]
  rfl

/-- `GetStatusDict` shows the line. -/
lemma statusLine_getStatusDict (w : World) (id : String) (now : Time) :
    statusLine (w.getStatusDict id now) = lineOf w id := by
  rw [World.getStatusDict, lineOf]
  cases w.workspaces[id]? with
  | none =>
    have found : DictValue.findString (DictValue.ofFields [("workspace_id", some (.string id)),
        ("status", some (.string "stopped"))]) "status" = some "stopped" := by
      rw [DictValue.findString, DictValue.find_ofFields (by simp)]
      rfl
    exact statusLine_of_status .kStopped found (by decide)
  | some r => exact statusLine_toDict r now

/-- A crash is shown as one. -/
lemma statusLine_crashed (now : Time) (c : StatusChange) (crashed : c.status = .kCrashed) :
    statusLine (onWorkspaceStatusChanged now c).details = ⟨.kCrashed, none⟩ := by
  apply statusLine_of_status
  · rw [onWorkspaceStatusChanged, DictValue.findString, DictValue.find_set, if_pos rfl, crashed]
    rfl
  · decide

end

/-! ## The lines after a step -/

section
variable {w w' : World}

/-- The lines depend on the entries alone. -/
lemma lineOf_congr (same : w'.workspaces = w.workspaces) : lineOf w' = lineOf w := by
  funext id
  rw [lineOf, lineOf, same]

/-- An entry that is erased is shown as stopped. -/
lemma lineOf_erase {id : String} (erased : w'.workspaces = w.workspaces.erase id) (k : String) :
    lineOf w' k = if id = k then .stopped else lineOf w k := by
  rw [lineOf, erased, KeyedMap.get_erase]
  split_ifs
  · rfl
  · rfl

/-- An entry that is made is shown with its line. -/
lemma lineOf_insert {id : String} {r : RunningWorkspace} (inserted : w'.workspaces = w.workspaces.insert id r)
    (k : String) : lineOf w' k = if id = k then entryLine r else lineOf w k := by
  rw [lineOf, inserted, KeyedMap.get_insert]
  split_ifs
  · rfl
  · rfl

/-- Without an entry a workspace is shown as stopped. -/
lemma lineOf_absent {id : String} (absent : id ∉ w.workspaces) : lineOf w id = .stopped := by
  rw [lineOf, Std.ExtTreeMap.getElem?_eq_none absent]
  rfl

/-- The observers are told of a stop, if there was an entry. -/
lemma lineOf_stop (w : World) (id : String) :
    lineOf (w.stop id) = (stopNotifications w id).foldl Notification.shown (lineOf w) := by
  funext k
  rw [lineOf_erase (World.stop_same w id).1, stopNotifications]
  by_cases entry : id ∈ w.workspaces
  · rw [if_pos entry, List.foldl_cons, List.foldl_nil, Notification.shown, onWorkspaceStopped, statusLine_stopped]
  · rw [if_neg entry, List.foldl_nil]
    split_ifs with own
    · exact own ▸ (lineOf_absent entry).symm
    · rfl

variable (env : Env) (now : Time)

/-- `ContinueStart` makes the entry of its launch. -/
lemma continueStart_workspaces (w : World) (l : Launch) :
    (World.continueStart env w l.ws l.userDataDir l.cdpPort true now).workspaces =
      w.workspaces.insert l.ws.id (World.newEntry l.ws l.userDataDir l.cdpPort w.processes.length now) :=
  (World.sameWatch_destroyOld _ l.ws.id _).workspaces

variable [ValueLib]

/-- The observers are told of a launch, if it succeeds. -/
lemma lineOf_continueStart (w : World) (l : Launch) (launches : Bool) :
    lineOf (World.continueStart env w l.ws l.userDataDir l.cdpPort launches now) =
      (launchNotifications now w l launches).foldl Notification.shown (lineOf w) := by
  cases launches with
  | false => exact lineOf_congr rfl
  | true =>
    funext k
    rw [lineOf_insert (continueStart_workspaces env now w l), ← statusLine_toDict _ now]
    rfl

/-- What a check tells the observers is what it does to the line of the workspace. -/
lemma lineOf_checkProcess (o : Observed) (id : String) : ∃ new : List StatusChange,
    (o.checkProcess id).changes = o.changes ++ new ∧
    lineOf (o.checkProcess id).toWorld =
      (new.map (onWorkspaceStatusChanged now)).foldl Notification.shown (lineOf o.toWorld) := by
  rw [Observed.checkProcess]
  cases found : o.workspaces[id]? with
  | none => exact ⟨[], (List.append_nil _).symm, lineOf_congr rfl⟩
  | some r =>
    have crashes : ∃ new : List StatusChange,
        ((o.stopWatching id).notifyStatusChanged id .kCrashed).changes = o.changes ++ new ∧
        lineOf ((o.stopWatching id).notifyStatusChanged id .kCrashed).toWorld =
          (new.map (onWorkspaceStatusChanged now)).foldl Notification.shown (lineOf o.toWorld) := by
      refine ⟨_, rfl, ?_⟩
      funext k
      have entry : (o.stopWatching id).workspaces[id]? = some r := found
      have inserted : ((o.stopWatching id).toWorld.notifyStatusChanged id .kCrashed).workspaces =
          o.workspaces.insert id { r with status := .kCrashed } := by
        rw [World.notifyStatusChanged, entry]
        rfl
      rw [List.map_singleton, List.foldl_cons, List.foldl_nil, Notification.shown, statusLine_crashed _ _ rfl]
      exact lineOf_insert inserted k
    dsimp only
    cases r.process.bind (o.processes[·]?) with
    | none => exact crashes
    | some p =>
      dsimp only
      split_ifs
      · exact ⟨[], (List.append_nil _).symm, rfl⟩
      · exact ⟨[], (List.append_nil _).symm, lineOf_congr rfl⟩
      · exact crashes

/-- A round of the watchdog changes the lines as its notifications do. -/
lemma lineOf_onPoll (o : Observed) : ∃ new : List StatusChange,
    o.onPoll.changes = o.changes ++ new ∧
    lineOf o.onPoll.toWorld =
      (new.map (onWorkspaceStatusChanged now)).foldl Notification.shown (lineOf o.toWorld) := by
  rw [Observed.onPoll]
  generalize o.watched.toList.filter Prod.snd = l
  induction l generalizing o with
  | nil => exact ⟨[], (List.append_nil _).symm, rfl⟩
  | cons p l ih =>
    obtain ⟨first, told, line⟩ := lineOf_checkProcess now o p.1
    obtain ⟨rest, told', line'⟩ := ih (o.checkProcess p.1)
    refine ⟨first ++ rest, ?_, ?_⟩
    · rw [List.foldl_cons, told', told, List.append_assoc]
    · rw [List.foldl_cons, line', line, List.map_append, List.foldl_append]

variable {env}

/-- As long as not all workspaces are stopped at once, the observers are told everything about the lines. -/
theorem lineOf_step {e : World.Event} (st : World.step env w e = some w') (no_stopAll : e ≠ .stopAll) :
    lineOf w' = (notifications now w e).foldl Notification.shown (lineOf w) := by
  cases World.does_of_step st with
  | start ws => exact lineOf_congr (World.sameWatch_start w ws).workspaces
  | stop id => exact lineOf_stop w id
  | stopAll => exact absurd rfl no_stopAll
  | watchdogPoll =>
    obtain ⟨new, told, line⟩ := lineOf_onPoll now ⟨w, []⟩
    rw [← Observed.onPoll_toWorld ⟨w, []⟩, line, notifications, told]
    rfl
  | pollTick | healthCheck => exact lineOf_congr (World.sameWatch_updateApplier _ _ _ _).workspaces
  | @continueStart i ws dir port launches later hr =>
    rw [notifications, hr]
    exact lineOf_continueStart env later { w with replies := w.replies.eraseIdx i } ⟨ws, dir, port⟩ launches
  | @dropped i reply launches later hr other =>
    rw [notifications, hr]
    cases reply with
    | continueStart ws dir port => exact absurd rfl (other ws dir port)
    | _ => exact lineOf_congr rfl
  | onCDPCheckResult launches later hr ha | onCommandsSent launches later hr ha =>
    rw [notifications, hr]
    exact lineOf_congr (World.sameWatch_updateApplier _ _ _ _).workspaces
  | runTask | processListens | processExits | bindPort | releasePort => exact lineOf_congr rfl

end

end PureCloak.WebUI
