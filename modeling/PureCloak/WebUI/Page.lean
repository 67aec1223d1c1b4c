import Mathlib.Data.List.Infix
import Std.Data.ExtTreeMap.Lemmas
import PureCloak.Launcher.World

/-!
# The script of the page

What the script of `purecloak.html` keeps, sends and shows. A promise of `sendAsync` is the entry of `callbackMap` under
the name that the message carries, and what waits for it is a `Continuation`; `webUIResponse` takes the entry out and
runs what waits. A function of the script runs to its end, with what it awaits and is there already, before the next
message is delivered.

What the script puts into the document is kept as a list of `Drawing`s: the workspaces that the list was made of, and the
statuses that were put into the elements of cards. What the browser makes of them is a matter of the HTML; `Page.cards`
is what they come to where the ids are plain. The script has a button that saves an edit, which does nothing: the dialog
has no element `editWsTypeSelect`, and `collectWsFormData` throws where it reads it. What throws at a tag without a text,
which a workspace can have that does not come from the dialog, is `none`.
-/

namespace PureCloak.WebUI
open PureCloak.Base PureCloak.Launcher

/-- The arguments of `chrome.send`. -/
structure PageMessage where
  name : String
  args : ListValue

/-- What the status element of a card shows; the uptime beside the port is left out. -/
structure StatusLine where
  status : Status
  cdpPort : Option Value

/-- The line of a card that was just rendered. -/
def StatusLine.stopped : StatusLine :=
  ⟨.kStopped, none⟩

/-- What the script puts into the document. -/
inductive Drawing where
  /-- The `innerHTML` of the list: the cards of these workspaces. -/
  | workspaceList (list : List DictValue)
  /-- `renderWorkspaceStatus`: the `innerHTML` of the status element, if there is one with the id. -/
  | workspaceStatus (wsId : String) (statusInfo : DictValue)

/-- What waits for the reply to a message. -/
inductive Continuation where
  | loadWorkspaces
  | loadDashboardStats
  | loadTemplates
  /-- The status of a listed workspace. -/
  | status (wsId : String)
  /-- The list is loaded again. -/
  | changed
  | templatesChanged
  | templateLoaded
  | proxyTested
  /-- `launchWorkspace` asks for the status first; the other ids are those that `batchLaunch` goes on with. -/
  | statusChecked (wsId : String) (rest : List String)
  | launched (wsId : String) (rest : List String)
  /-- `stopWorkspace`, and the ids that `batchStop` goes on with, each with the answer of the user. -/
  | stopped (wsId : String) (rest : List (String × Bool))

/-- The state of the script. -/
structure Page where
  sendAsyncCounter : Nat := 0
  callbackMap : Std.ExtTreeMap String Continuation := ∅
  workspaces : List DictValue := []
  drawn : List Drawing := []
  stats : Option DictValue := none
  /-- The values of the options of `templateSelect` after the first one. -/
  templates : List String := []
  /-- What was sent and is not handled yet. -/
  sent : List PageMessage := []

/-- The name under which a promise waits. -/
def callbackName (n : Nat) : String :=
  "callback_" ++ toString n

/-- `ws.id`. -/
def wsId (ws : DictValue) : String :=
  (ws.findString "id").getD ""

/-- The text of a tag in the list, `t.tag || t`; nothing is what has not the methods of a text. -/
def tagText : Value → Option String
  | .dict tag => (DictValue.findString tag "tag").filter (· ≠ "")
  | .string tag => some tag
  | _ => none

/-- The tags of a workspace have texts; `escapeHtml` throws at others. -/
def Renderable (ws : DictValue) : Prop :=
  ∀ tag ∈ (ws.findList "tags").getD [], (tagText tag).isSome

instance (ws : DictValue) : Decidable (Renderable ws) :=
  inferInstanceAs (Decidable (∀ tag ∈ (ws.findList "tags").getD [], (tagText tag).isSome))

/-- The value of a status in a dictionary; `undefined` is shown as stopped, and so is every other text. -/
def shownStatus (statusInfo : DictValue) : Status :=
  match statusInfo.findString "status" with
  | some "running" => .kRunning
  | some "starting" => .kStarting
  | some "crashed" => .kCrashed
  | _ => .kStopped

/-- The line that `renderWorkspaceStatus` makes. -/
def statusLine (statusInfo : DictValue) : StatusLine :=
  let status := shownStatus statusInfo
  ⟨status, if status = .kRunning then statusInfo.find "cdp_port" else none⟩

/-- The cards of a list of workspaces, as they are rendered. -/
def stoppedCards (list : List DictValue) : Std.ExtTreeMap String StatusLine :=
  list.foldl (fun cards ws => cards.insert (wsId ws) .stopped) ∅

/-- A card is changed, if there is one. -/
def setLine (cards : Std.ExtTreeMap String StatusLine) (line : String × StatusLine) :
    Std.ExtTreeMap String StatusLine :=
  if line.1 ∈ cards then cards.insert line.1 line.2 else cards

/-- The cards after a drawing. -/
def Drawing.cards (cards : Std.ExtTreeMap String StatusLine) : Drawing → Std.ExtTreeMap String StatusLine
  | .workspaceList list => stoppedCards list
  | .workspaceStatus id statusInfo => setLine cards (id, statusLine statusInfo)

/-- The workspaces of the cards after a drawing. -/
def Drawing.listed (listed : List DictValue) : Drawing → List DictValue
  | .workspaceList list => list
  | .workspaceStatus _ _ => listed

/-- The dictionaries of a list. -/
def dictionaries (v : Value) : List DictValue :=
  (v.getIfList.getD []).filterMap Value.getIfDict

/-- The value of the option that a template has. -/
def templateOption (template : DictValue) : String :=
  ((template.findString "id").filter (· ≠ "")).getD ((template.findString "name").getD "")

namespace Page

/-- `sendAsync`. -/
def sendAsync (p : Page) (name : String) (args : ListValue) (k : Continuation) : Page :=
  let n := p.sendAsyncCounter + 1
  let cbName := callbackName n
  { p with
    sendAsyncCounter := n
    callbackMap := p.callbackMap.insert cbName k
    sent := p.sent ++ [⟨name, .string cbName :: args⟩] }

/-- `workspaces.find(w => w.id === wsId)`. -/
def findWorkspace (p : Page) (id : String) : Option DictValue :=
  p.workspaces.find? fun ws => ws.findString "id" = some id

/-- Something is put into the document. -/
def draw (p : Page) (d : Drawing) : Page :=
  { p with drawn := p.drawn ++ [d] }

/-- The cards, each with its line. -/
def cards (p : Page) : Std.ExtTreeMap String StatusLine :=
  p.drawn.foldl Drawing.cards ∅

/-- The workspaces that the list was last made of. -/
def listed (p : Page) : List DictValue :=
  p.drawn.foldl Drawing.listed []

/-- The list is made of the cards of workspaces; making one of them may throw. -/
def renderCards (p : Page) (list : List DictValue) : Option Page :=
  if ∀ ws ∈ list, Renderable ws then some (p.draw (.workspaceList list)) else none

/-- `render`; the page stays as it is when it throws. -/
def render (p : Page) : Page :=
  (p.renderCards p.workspaces).getD p

/-- `renderWorkspaceStatus`. -/
def renderWorkspaceStatus (p : Page) (id : String) (statusInfo : DictValue) : Page :=
  p.draw (.workspaceStatus id statusInfo)

/-- `loadWorkspaces`, up to the reply. -/
def loadWorkspaces (p : Page) : Page :=
  p.sendAsync "getAllWorkspaces" [] .loadWorkspaces

/-- `loadTemplates`, up to the reply. -/
def loadTemplates (p : Page) : Page :=
  p.sendAsync "getTemplates" [] .loadTemplates

/-- The loop of `batchLaunch`, up to the first reply; `launchWorkspace` is the loop over one id. -/
def launchWorkspaces (p : Page) : List String → Page
  | [] => p
  | id :: rest =>
    if (p.findWorkspace id).isSome then p.sendAsync "getWorkspaceStatus" [.string id] (.statusChecked id rest)
    else p.launchWorkspaces rest

/-- The loop of `batchStop`, up to the first reply; `stopWorkspace` is the loop over one id. -/
def stopWorkspaces (p : Page) : List (String × Bool) → Page
  | [] => p
  | (id, confirmed) :: rest =>
    if (p.findWorkspace id).isSome ∧ confirmed then p.sendAsync "stopWorkspace" [.string id] (.stopped id rest)
    else p.stopWorkspaces rest

/-- `loadWorkspaces`, after the reply; the statuses are not asked for when `render` throws. -/
def workspacesLoaded (p : Page) (wsList : Value) : Page :=
  let p := { p with workspaces := dictionaries wsList }
  (p.renderCards p.workspaces).elim p fun p =>
    p.workspaces.foldl
      (fun p ws => p.sendAsync "getWorkspaceStatus" [(ws.find "id").getD .none] (.status (wsId ws))) p

/-- What a promise goes on with. -/
def resume (p : Page) (response : Value) : Continuation → Page
  | .loadWorkspaces => p.workspacesLoaded response
  | .loadDashboardStats => { p with stats := response.getIfDict.or p.stats }
  | .loadTemplates => { p with templates := (dictionaries response).map templateOption }
  | .status id => response.getIfDict.elim p (p.renderWorkspaceStatus id)
  | .changed => p.loadWorkspaces
  | .templatesChanged => p.loadTemplates
  | .templateLoaded =>
    ((response.getIfDict.bind (DictValue.find · "workspaces")).bind Value.getIfList).elim p fun items =>
      { p with workspaces := items.filterMap Value.getIfDict }.render
  | .proxyTested => p
  | .statusChecked id rest =>
    if response.getIfDict.bind (DictValue.findString · "status") = some "running" then p.launchWorkspaces rest
    else p.sendAsync "launchWorkspace" [.string id] (.launched id rest)
  | .launched id rest =>
    let shown := response.getIfDict.elim p fun result =>
      if result.findBool "success" = some false then p else p.renderWorkspaceStatus id result
    shown.launchWorkspaces rest
  | .stopped id rest =>
    (p.renderWorkspaceStatus id (DictValue.ofFields [("status", some (.string "stopped"))])).stopWorkspaces rest

/-- `webUIResponse`. -/
def webUIResponse (p : Page) (callbackId : String) (response : Value) : Page :=
  match p.callbackMap[callbackId]? with
  | none => p
  | some k => { p with callbackMap := p.callbackMap.erase callbackId }.resume response k

/-- `onWorkspaceStatusChange`. -/
def onWorkspaceStatusChange (p : Page) (id status : String) (details : DictValue) : Page :=
  let found := p.workspaces.findIdx fun ws => ws.findString "id" = some id
  { p with workspaces := p.workspaces.modify found (DictValue.set · "status" (.string status)) }.renderWorkspaceStatus
    id details

/-- The page when it is loaded. -/
def loaded : Page :=
  ((({} : Page).loadWorkspaces).sendAsync "getDashboardStats" [] .loadDashboardStats).loadTemplates

end Page

/-! ## The user -/

/-- What the user does; the texts are those of the fields, trimmed. -/
inductive Action where
  /-- The data of the form. -/
  | createWorkspace (ws : DictValue)
  | deleteWorkspace (id : String)
  /-- The ids whose boxes are checked. -/
  | batchDelete (ids : List String)
  | launch (ids : List String)
  /-- The ids, and what the user says to each. -/
  | stop (ids : List (String × Bool))
  | search (query : String)
  | saveTemplate (name : String)
  | loadTemplate (value : String)
  | deleteTemplate (value : String)
  | proxyTest (url : String)

section
variable (toLowerCase : String → String)

/-- `includes`, both in lower case. -/
def occursIn (query s : String) : Bool :=
  (toLowerCase query).toList <:+: (toLowerCase s).toList

/-- The search among tags, up to the first one found. -/
def someTag (query : String) : ListValue → Option Bool
  | [] => some false
  | tag :: tags => do
    let text ← tagText tag
    if occursIn toLowerCase query text then some true else someTag query tags

/-- The filter of the search. -/
def matchesQuery (query : String) (ws : DictValue) : Option Bool :=
  if (ws.findString "name").any (fun name => name ≠ "" && occursIn toLowerCase query name) then some true
  else someTag toLowerCase query ((ws.findList "tags").getD [])

/-- The workspaces that the search finds. -/
def filterWorkspaces (query : String) : List DictValue → Option (List DictValue)
  | [] => some []
  | ws :: list => do
    let found ← matchesQuery toLowerCase query ws
    let others ← filterWorkspaces query list
    return if found then ws :: others else others

/-- The listener of an input or a button. -/
def Page.act (p : Page) : Action → Page
  | .createWorkspace ws =>
    if ws.findString "name" = some "" then p else p.sendAsync "createWorkspace" [.dict ws] .changed
  | .deleteWorkspace id => if id = "" then p else p.sendAsync "deleteWorkspace" [.string id] .changed
  | .batchDelete ids => if ids = [] then p else p.sendAsync "batchDeleteWorkspaces" [.list (ids.map .string)] .changed
  | .launch ids => p.launchWorkspaces ids
  | .stop ids => p.stopWorkspaces ids
  | .search query =>
    if query = "" then p.render
    else ((filterWorkspaces toLowerCase query p.workspaces).bind p.renderCards).getD p
  | .saveTemplate name =>
    if name = "" then p
    else
      let template := DictValue.ofFields
        [("name", some (.string name)), ("workspaces", some (.list (p.workspaces.map .dict)))]
      p.sendAsync "saveTemplate" [.dict template] .templatesChanged
  | .loadTemplate value =>
    if value ∈ p.templates ∧ value ≠ "" then p.sendAsync "getTemplate" [.string value] .templateLoaded else p
  | .deleteTemplate value =>
    if value ∈ p.templates ∧ value ≠ "" then p.sendAsync "deleteTemplate" [.string value] .templatesChanged else p
  | .proxyTest url => if url = "" then p else p.sendAsync "proxyTest" [.string url] .proxyTested

end

end PureCloak.WebUI
