import Std.Data.String.ToNat
import PureCloak.Profiles.Restoring
import PureCloak.WebUI.PageSession

/-!
# What the page and the handler make of a message

`Asks` is the message that each promise of the page is issued with, and `Answers` what the handler answers it with: the
handlers accept every message that the page sends (`handle_asked`). A promise that goes on changes what is shown
(`Page.display`) and then sends further such messages (`Page.resume_extends`); what the user does sends messages, too
(`Page.act_extends`). `Page.Extends` is the sending of messages that the page makes.
-/

namespace PureCloak.WebUI
open PureCloak.Base PureCloak.Profiles PureCloak.Launcher PureCloak.API

/-! ## Messages and answers -/

/-- The message of a promise, without the name of the callback. -/
inductive Asks : Continuation → String → ListValue → Prop where
  | loadWorkspaces : Asks .loadWorkspaces "getAllWorkspaces" []
  | loadDashboardStats : Asks .loadDashboardStats "getDashboardStats" []
  | loadTemplates : Asks .loadTemplates "getTemplates" []
  | status (id : String) : Asks (.status id) "getWorkspaceStatus" [.string id]
  | created (ws : DictValue) : Asks .changed "createWorkspace" [.dict ws]
  | deleted (id : String) : Asks .changed "deleteWorkspace" [.string id]
  | batchDeleted (ids : ListValue) : Asks .changed "batchDeleteWorkspaces" [.list ids]
  | templateSaved (template : DictValue) : Asks .templatesChanged "saveTemplate" [.dict template]
  | proxyTested (url : String) : Asks .proxyTested "proxyTest" [.string url]
  | statusChecked (id : String) (rest : List String) :
    Asks (.statusChecked id rest) "getWorkspaceStatus" [.string id]
  | launched (id : String) (rest : List String) : Asks (.launched id rest) "launchWorkspace" [.string id]
  | stopped (id : String) (rest : List (String × Bool)) : Asks (.stopped id rest) "stopWorkspace" [.string id]

section
variable [TimeLib] [ValueLib]

/-- The answer to a promise. -/
inductive Answers : Continuation → Value → Prop where
  | loadWorkspaces (list : List Workspace) :
    (list.map (·.id)).Nodup →
    Answers .loadWorkspaces (.list (list.map fun ws => .dict ws.toDict))
  | loadDashboardStats (stats : DictValue) : Answers .loadDashboardStats (.dict stats)
  | loadTemplates : Answers .loadTemplates (.list [])
  | status (w : World) (id : String) (now : Time) : Answers (.status id) (.dict (w.getStatusDict id now))
  | changed (v : Value) : Answers .changed v
  | templatesChanged (v : Value) : Answers .templatesChanged v
  | proxyTested (result : DictValue) : Answers .proxyTested (.dict result)
  | statusChecked (w : World) (id : String) (rest : List String) (now : Time) :
    Answers (.statusChecked id rest) (.dict (w.getStatusDict id now))
  | launched (id : String) (rest : List String) (result : DictValue) : Answers (.launched id rest) (.dict result)
  | stopped (id : String) (rest : List (String × Bool)) :
    Answers (.stopped id rest) (.dict (DictValue.ofFields [("status", some (.string "stopped"))]))

end

/-- The line that a card gets from the result of a launch. -/
def launchedLine (id : String) (result : DictValue) : Option (String × StatusLine) :=
  if result.findBool "success" = some false then none else some (id, statusLine result)

/-- The line that a card gets from the answer. -/
def Continuation.shows (answer : Value) : Continuation → Option (String × StatusLine)
  | .status id => answer.getIfDict.map fun statusInfo => (id, statusLine statusInfo)
  | .launched id _ => answer.getIfDict.bind (launchedLine id)
  | .stopped id _ => some (id, .stopped)
  | _ => none

/-- A bound on the rounds that a promise can lead to. -/
def Continuation.level : Continuation → ℕ
  | .changed => 2
  | .loadWorkspaces | .templatesChanged => 1
  | .statusChecked _ rest => 2 * rest.length + 1
  | .launched _ rest => 2 * rest.length
  | .stopped _ rest => rest.length
  | .loadDashboardStats | .loadTemplates | .status _ | .templateLoaded | .proxyTested => 0

/-- The status that a promise puts into the document. -/
def Continuation.statusOf (answer : Value) : Continuation → Option (String × DictValue)
  | .status id => answer.getIfDict.map fun statusInfo => (id, statusInfo)
  | .launched id _ => answer.getIfDict.bind fun result =>
    if result.findBool "success" = some false then none else some (id, result)
  | .stopped id _ => some (id, DictValue.ofFields [("status", some (.string "stopped"))])
  | _ => none

/-- The line that is shown is the line of the status. -/
lemma shows_eq (k : Continuation) (answer : Value) :
    k.shows answer = (k.statusOf answer).map fun status => (status.1, statusLine status.2) := by
  cases k with
  | status id =>
    rw [Continuation.shows, Continuation.statusOf, Option.map_map]
    rfl
  | launched id rest =>
    rw [Continuation.shows, Continuation.statusOf, Option.map_bind]
    congr 1
    funext result
    rw [launchedLine, Function.comp_apply, apply_ite (Option.map _)]
    rfl
  | stopped id rest =>
    rw [Continuation.shows, Continuation.statusOf, Option.map_some, statusLine_stopped]
  | _ => rfl

/-- The cards that are there stay so. -/
lemma mem_setLine {cards : Std.ExtTreeMap String StatusLine} {line : String × StatusLine} {id : String} :
    id ∈ setLine cards line ↔ id ∈ cards := by
  rw [setLine]
  split_ifs with there
  · rw [KeyedMap.mem_iff_exists_get, KeyedMap.get_insert]
    split_ifs with own
    · exact ⟨fun _ => own ▸ there, fun _ => ⟨_, rfl⟩⟩
    · exact KeyedMap.mem_iff_exists_get.symm
  · exact Iff.rfl

/-- The line of a card that is there. -/
lemma get_setLine {cards : Std.ExtTreeMap String StatusLine} {line : String × StatusLine} {id : String}
    (there : id ∈ cards) : (setLine cards line)[id]? = if line.1 = id then some line.2 else cards[id]? := by
  rw [setLine]
  split_ifs with known own own
  · rw [KeyedMap.get_insert, if_pos own]
  · rw [KeyedMap.get_insert, if_neg own]
  · exact absurd (own ▸ there) known
  · rfl

/-! ## The page -/

/-- The names of the callbacks differ. -/
lemma callbackName_injective {m n : ℕ} (same : callbackName m = callbackName n) : m = n :=
  Nat.repr_injective ((String.append_right_inj _).mp same)

namespace Page
variable {P : Continuation → Prop} {p p' q : Page}

/-- Messages of the page are sent, for promises of a kind. -/
inductive Extends (P : Continuation → Prop) : Page → Page → Prop where
  | refl {p : Page} : Extends P p p
  | send {p p' : Page} {k name args} :
    Extends P p p' →
    Asks k name args →
    P k →
    Extends P p (p'.sendAsync name args k)

/-- Two steps in which messages are sent are one. -/
lemma Extends.trans (h : Extends P p p') (h' : Extends P p' q) : Extends P p q := by
  induction h' with
  | refl => exact h
  | send _ asks kind ih => exact .send ih asks kind

/-- The kinds of the messages may be wider. -/
lemma Extends.mono {Q : Continuation → Prop} (h : Extends P p q) (imp : ∀ k, P k → Q k) : Extends Q p q := by
  induction h with
  | refl => exact .refl
  | send _ asks kind ih => exact .send ih asks (imp _ kind)

/-- One message that is sent. -/
lemma Extends.single {k : Continuation} {name : String} {args : ListValue} (asks : Asks k name args) (kind : P k) :
    Extends P p (p.sendAsync name args k) :=
  .send .refl asks kind

/-- What is shown stays. -/
structure SameView (p q : Page) : Prop where
  workspaces : q.workspaces = p.workspaces
  drawn : q.drawn = p.drawn
  templates : q.templates = p.templates

/-- What is on the way and waits stays. -/
structure SameTable (p q : Page) : Prop where
  counter : q.sendAsyncCounter = p.sendAsyncCounter
  callbackMap : q.callbackMap = p.callbackMap
  sent : q.sent = p.sent

/-- Sending does not change what is shown. -/
lemma Extends.sameView (h : Extends P p q) : SameView p q := by
  induction h with
  | refl => exact ⟨rfl, rfl, rfl⟩
  | send _ _ _ ih => exact ⟨ih.workspaces, ih.drawn, ih.templates⟩

/-- The same view has the same cards. -/
lemma SameView.cards (same : SameView p q) : q.cards = p.cards := by
  rw [Page.cards, Page.cards, same.drawn]

/-- The same view has the same list. -/
lemma SameView.listed (same : SameView p q) : q.listed = p.listed := by
  rw [Page.listed, Page.listed, same.drawn]

/-- Launching workspaces sends at most one message, whose promise is of a level below that of the list. -/
lemma launchWorkspaces_extends (ids : List String) :
    Extends (fun k => k.level < 2 * ids.length) p (p.launchWorkspaces ids) := by
  induction ids with
  | nil => exact .refl
  | cons id rest ih =>
    rw [launchWorkspaces]
    split_ifs
    · exact .single (.statusChecked id rest) (Nat.lt_succ_self (2 * rest.length + 1))
    · exact ih.mono fun k lower => Nat.lt_add_right 2 lower

/-- So does stopping them. -/
lemma stopWorkspaces_extends (ids : List (String × Bool)) :
    Extends (fun k => k.level < ids.length) p (p.stopWorkspaces ids) := by
  induction ids with
  | nil => exact .refl
  | cons id rest ih =>
    obtain ⟨id, confirmed⟩ := id
    rw [stopWorkspaces]
    split_ifs
    · exact .single (.stopped id rest) (Nat.lt_succ_self _)
    · exact ih.mono fun k lower => Nat.lt_succ_of_lt lower

/-- A page that is loaded asks for what it shows. -/
lemma loaded_extends : Extends (fun _ => True) {} loaded :=
  ((Extends.single .loadWorkspaces trivial).send .loadDashboardStats trivial).send .loadTemplates trivial

/-- The cards after a drawing. -/
lemma cards_draw (p : Page) (d : Drawing) : (p.draw d).cards = d.cards p.cards := by
  rw [cards, draw, List.foldl_append]
  rfl

/-- The workspaces of the cards after a drawing. -/
lemma listed_draw (p : Page) (d : Drawing) : (p.draw d).listed = d.listed p.listed := by
  rw [listed, draw, List.foldl_append]
  rfl

/-- What a promise changes on the page before it sends anything. -/
def display (p : Page) (response : Value) (k : Continuation) : Page :=
  match k with
  | .loadWorkspaces => { p with workspaces := dictionaries response }.render
  | .loadDashboardStats => { p with stats := response.getIfDict.or p.stats }
  | .loadTemplates => { p with templates := (dictionaries response).map templateOption }
  | k => (k.statusOf response).elim p fun status => p.renderWorkspaceStatus status.1 status.2

/-- A list is rendered, or it stays as it is. -/
lemma render_cases (p : Page) : p.render = p ∨ p.render = p.draw (.workspaceList p.workspaces) := by
  rw [render, renderCards]
  split_ifs
  · exact .inr rfl
  · exact .inl rfl

/-- What is displayed sends nothing. -/
lemma display_sameTable (p : Page) (response : Value) (k : Continuation) : SameTable p (p.display response k) := by
  have elim (status : Option (String × DictValue)) :
      SameTable p (status.elim p fun status => p.renderWorkspaceStatus status.1 status.2) := by
    cases status <;> exact ⟨rfl, rfl, rfl⟩
  cases k with
  | loadWorkspaces =>
    rw [display]
    obtain eq | eq := render_cases { p with workspaces := dictionaries response }
    · rw [eq]
      exact ⟨rfl, rfl, rfl⟩
    · rw [eq]
      exact ⟨rfl, rfl, rfl⟩
  | status | launched => exact elim _
  | _ => exact ⟨rfl, rfl, rfl⟩

section
variable [TimeLib]

/-- The list of all workspaces is read as their dictionaries. -/
lemma dictionaries_workspaces (list : List Workspace) :
    dictionaries (.list (list.map fun ws => .dict ws.toDict)) = list.map Workspace.toDict := by
  rw [dictionaries]
  show (list.map fun ws => Value.dict ws.toDict).filterMap Value.getIfDict = _
  rw [List.filterMap_map]
  exact congrFun List.filterMap_eq_map list

/-- The id of a workspace is in its dictionary. -/
lemma wsId_toDict (ws : Workspace) : wsId ws.toDict = ws.id := by
  show (DictValue.findString ws.toDict kIdKey).getD "" = ws.id
  rw [findString_id_toDict]
  rfl

/-- So it is found there. -/
lemma find_id_toDict (ws : Workspace) : DictValue.find ws.toDict "id" = some (.string ws.id) := by
  rw [Workspace.find_toDict]
  rfl

/-- The requests for the statuses of a list. -/
lemma statuses_extends (list : List Workspace) :
    Extends (fun k => k.level < 1) p ((list.map Workspace.toDict).foldl
      (fun p ws => p.sendAsync "getWorkspaceStatus" [(ws.find "id").getD .none] (.status (wsId ws))) p) := by
  induction list generalizing p with
  | nil => exact .refl
  | cons ws list ih =>
    rw [List.map_cons, List.foldl_cons, wsId_toDict, find_id_toDict]
    exact (Extends.single (.status ws.id) Nat.zero_lt_one).trans ih

variable [ValueLib]

/-- A promise that goes on with an answer changes what is shown and then sends messages. -/
lemma resume_extends {k : Continuation} {response : Value} (answers : Answers k response) :
    Extends (fun k' => k'.level < k.level) (p.display response k) (p.resume response k) := by
  cases answers with
  | loadWorkspaces list =>
    rw [display, resume, workspacesLoaded, dictionaries_workspaces, render, renderCards]
    split_ifs
    · exact statuses_extends list
    · exact .refl
  | loadDashboardStats | loadTemplates | proxyTested => exact .refl
  | status w id now => exact .refl
  | changed => exact .single .loadWorkspaces Nat.one_lt_two
  | templatesChanged => exact .single .loadTemplates Nat.zero_lt_one
  | statusChecked w id rest now =>
    rw [resume]
    split_ifs
    · exact (launchWorkspaces_extends rest).mono fun k lower => Nat.lt_succ_of_lt lower
    · exact .single (.launched id rest) (Nat.lt_succ_self _)
  | launched id rest result =>
    have shown : p.display (.dict result) (.launched id rest) =
        if result.findBool "success" = some false then p else p.renderWorkspaceStatus id result := by
      show (if result.findBool "success" = some false then none else some (id, result)).elim p _ = _
      split_ifs
      · rfl
      · rfl
    rw [shown]
    exact launchWorkspaces_extends rest
  | stopped id rest => exact stopWorkspaces_extends rest

end

/-- A search changes what is drawn, if it does anything. -/
lemma act_search (p : Page) (toLowerCase : String → String) (query : String) :
    ∃ drawn, p.act toLowerCase (.search query) = { p with drawn := drawn } := by
  rw [act]
  split_ifs
  · obtain eq | eq := p.render_cases
    · exact ⟨p.drawn, eq⟩
    · exact ⟨_, eq⟩
  · cases filterWorkspaces toLowerCase query p.workspaces with
    | none => exact ⟨p.drawn, rfl⟩
    | some found =>
      rw [Option.bind_some, renderCards]
      split_ifs
      · exact ⟨_, rfl⟩
      · exact ⟨p.drawn, rfl⟩

/-- What the user does sends messages; a search changes only what is shown. -/
lemma act_extends (toLowerCase : String → String) (empty : p.templates = []) (a : Action) :
    ∃ q, SameTable p q ∧ q.templates = [] ∧ Extends (fun _ => True) q (p.act toLowerCase a) ∧
      ((∀ query, a ≠ .search query) → q = p) := by
  have stays {P : Continuation → Prop} {p' : Page} (h : Extends P p p') : ∃ q, SameTable p q ∧ q.templates = [] ∧
      Extends (fun _ => True) q p' ∧ ((∀ query, a ≠ .search query) → q = p) :=
    ⟨p, ⟨rfl, rfl, rfl⟩, empty, h.mono fun _ _ => trivial, fun _ => rfl⟩
  have guarded {c : Prop} [Decidable c] {k : Continuation} {name : String} {args : ListValue} (asks : Asks k name args) :
      Extends (fun _ => True) p (if c then p else p.sendAsync name args k) := by
    split_ifs
    · exact .refl
    · exact .single asks trivial
  cases a with
  | createWorkspace ws => exact stays (guarded (.created ws))
  | deleteWorkspace id => exact stays (guarded (.deleted id))
  | batchDelete ids => exact stays (guarded (.batchDeleted _))
  | launch ids => exact stays (launchWorkspaces_extends ids)
  | stop ids => exact stays (stopWorkspaces_extends ids)
  | search query =>
    obtain ⟨drawn, eq⟩ := act_search p toLowerCase query
    rw [eq]
    exact ⟨{ p with drawn := drawn }, ⟨rfl, rfl, rfl⟩, empty, .refl, fun other => absurd rfl (other query)⟩
  | saveTemplate name => exact stays (guarded (.templateSaved _))
  | proxyTest url => exact stays (guarded (.proxyTested url))
  | loadTemplate value | deleteTemplate value =>
    -- the select has no such option
    apply stays
    rw [act, empty, if_neg fun chosen => absurd chosen.1 List.not_mem_nil]
    exact Extends.refl (P := fun _ => True)

end Page

/-! ## The handler -/

section
variable [TimeLib] [ValueLib] {env : Env} {s : State}

/-- What the handler makes of the message of a promise: it answers, with a line that is right, or it launches. -/
structure Handles (s : State) (k : Continuation) (callbackId : String) (h : Handled) : Prop where
  reaction : (∃ v, h.reaction = .resolve (.string callbackId) v ∧ Answers k v ∧
      ∀ line, k.shows v = some line → line.2 = lineOf h.state.world line.1) ∨
    ∃ rest l, k = .launched l.ws.id rest ∧ h.reaction = .launch callbackId l
  keys : KeyId h.state.store.workspaces
  lines : lineOf h.state.world = h.told.foldl Notification.shown (lineOf s.world)

omit [TimeLib] in
/-- A launch that failed shows no line. -/
lemma launchedLine_error (id text : String) (now : Time) : launchedLine id (startResult now (.error text)) = none := by
  refine if_pos ?_
  rw [startResult, DictValue.findBool, DictValue.find_ofFields (by simp)]
  rfl

omit [TimeLib] in
/-- A launch that runs already shows the line of its entry. -/
lemma launchedLine_running (id : String) (r : RunningWorkspace) (now : Time) :
    launchedLine id (startResult now (.running r)) = some (id, entryLine r) := by
  have other : (r.toDict now).findBool "success" = none := by
    rw [DictValue.findBool, RunningWorkspace.toDict, DictValue.find_ofFields (by simp)]
    rfl
  rw [launchedLine, startResult, other, if_neg (Option.some_ne_none _).symm, statusLine_toDict]

/-- A handler that only reads answers. -/
lemma Handles.read {k : Continuation} {callbackId : String} {v : Value} (keys : KeyId s.store.workspaces)
    (answers : Answers k v) (right : ∀ line, k.shows v = some line → line.2 = lineOf s.world line.1) :
    Handles s k callbackId (.read s (.string callbackId, v)) where
  reaction := .inl ⟨v, rfl, answers, right⟩
  keys := keys
  lines := rfl

/-- A handler that changes the store answers. -/
lemma Handles.write {k : Continuation} {callbackId : String} {v : Value} {store : WorkspaceStore}
    (keys : KeyId store.workspaces) (answers : Answers k v) (silent : k.shows v = none) :
    Handles s k callbackId (.write s (store, .string callbackId, v)) where
  reaction := .inl ⟨v, rfl, answers, fun _ shown => absurd (silent.symm.trans shown) (Option.some_ne_none _).symm⟩
  keys := keys
  lines := rfl

omit [TimeLib] [ValueLib] in
/-- The workspaces of a store have different ids. -/
lemma getAllWorkspaces_nodup {store : WorkspaceStore} (keys : KeyId store.workspaces) :
    (store.getAllWorkspaces.map (·.id)).Nodup := by
  have ids : store.getAllWorkspaces.map (·.id) = store.workspaces.keys := by
    rw [WorkspaceStore.getAllWorkspaces, List.map_map, ← Std.ExtTreeMap.map_fst_toList_eq_keys]
    refine List.map_congr_left fun entry mem => ?_
    exact keys entry.1 entry.2 (Std.ExtTreeMap.mem_toList_iff_getElem?_eq_some.mp mem)
  rw [ids]
  exact Std.ExtTreeMap.nodup_keys

omit [ValueLib] in
/-- Deleting a list of workspaces keeps the ids. -/
lemma keyId_foldl_deleteCounted {store : WorkspaceStore} (keys : KeyId store.workspaces) (n : ℕ) (ids : List String) :
    KeyId (ids.foldl deleteCounted (store, n)).1.workspaces := by
  intro id ws found
  rw [foldl_deleteCounted_get] at found
  split_ifs at found
  exact keys id ws found

/-- A launch is answered at once, or it goes on. -/
lemma handle_launch (keys : KeyId s.store.workspaces) (d : Draws) (callbackId id : String) (rest : List String) :
    ∃ h, handle env s d [.string callbackId, .string id] "launchWorkspace" = some h ∧
      Handles s (.launched id rest) callbackId h := by
  show ∃ h, (launchReaction env s _ d.now).map _ = some h ∧ _
  have failed (text : String) (w : World) : ∀ line, (Continuation.launched id rest).shows
      (.dict (startResult d.now (.error text))) = some line → line.2 = lineOf w line.1 := by
    intro line shown
    exact absurd ((launchedLine_error id text d.now).symm.trans shown) (Option.some_ne_none _).symm
  cases known : s.store.getWorkspace id with
  | none =>
    refine ⟨⟨s, [], .resolve (.string callbackId) (.dict (startResult d.now (.error "Workspace not found")))⟩, ?_,
      .inl ⟨_, rfl, .launched id rest _, failed _ _⟩, keys, rfl⟩
    simp [launchReaction, Value.getIfString, known, startResult]
  | some ws =>
    have own : ws.id = id := keys id ws known
    cases answer : s.world.startAnswer ws.id with
    | none =>
      refine ⟨⟨s, [], .launch callbackId ⟨ws, World.userDataDir env ws.id, findAvailablePort s.world⟩⟩, ?_,
        .inr ⟨rest, _, own ▸ rfl, rfl⟩, keys, rfl⟩
      simp [launchReaction, Value.getIfString, known, answer]
    | some a =>
      have same : lineOf (World.start env s.world ws) = lineOf s.world := by
        rw [World.start_eq, answer]
        exact lineOf_congr rfl
      refine ⟨⟨{ s with world := World.start env s.world ws }, [],
        .resolve (.string callbackId) (.dict (startResult d.now a))⟩, ?_,
        .inl ⟨_, rfl, .launched id rest _, ?_⟩, keys, same⟩
      · simp [launchReaction, Value.getIfString, known, answer]
      · intro line shown
        rw [World.startAnswer] at answer
        cases active : s.world.activeEntry ws.id with
        | some r =>
          rw [active] at answer
          cases answer
          cases (launchedLine_running id r d.now).symm.trans shown
          have entry := (Option.filter_eq_some_iff.mp active).1
          show entryLine r = lineOf (World.start env s.world ws) id
          rw [same, lineOf, ← own, entry]
          rfl
        | none =>
          rw [active] at answer
          dsimp only at answer
          split_ifs at answer
          · cases answer
            exact failed _ _ line shown
          · cases answer
            exact failed _ _ line shown

variable (env) in
/-- Every message that the page sends is handled. -/
lemma handle_asked {k : Continuation} {name : String} {args : ListValue} (asks : Asks k name args)
    (keys : KeyId s.store.workspaces) (d : Draws) (callbackId : String) :
    ∃ h, handle env s d (.string callbackId :: args) name = some h ∧ Handles s k callbackId h := by
  have silent {k : Continuation} {v : Value} (shows_none : k.shows v = none) :
      ∀ line, k.shows v = some line → line.2 = lineOf s.world line.1 :=
    fun _ shown => absurd (shows_none.symm.trans shown) (Option.some_ne_none _).symm
  cases asks with
  | loadWorkspaces =>
    exact ⟨_, rfl, .read keys (.loadWorkspaces s.store.getAllWorkspaces (getAllWorkspaces_nodup keys)) (silent rfl)⟩
  | loadDashboardStats => exact ⟨_, rfl, .read keys (.loadDashboardStats _) (silent rfl)⟩
  | loadTemplates => exact ⟨_, rfl, .read keys .loadTemplates (silent rfl)⟩
  | status id =>
    refine ⟨_, rfl, .read keys (.status s.world id d.now) ?_⟩
    intro line shown
    cases shown
    exact statusLine_getStatusDict s.world id d.now
  | created ws =>
    refine ⟨_, rfl, .write ?_ (.changed _) rfl⟩
    exact keys.apply (.create _ _ _ _)
  | deleted id =>
    refine ⟨_, rfl, .write ?_ (.changed _) rfl⟩
    exact keys.apply (.delete id)
  | batchDeleted ids => exact ⟨_, rfl, .write (keyId_foldl_deleteCounted keys 0 _) (.changed _) rfl⟩
  | templateSaved template => exact ⟨_, rfl, .read keys (.templatesChanged _) (silent rfl)⟩
  | proxyTested url => exact ⟨_, rfl, .read keys (.proxyTested _) (silent rfl)⟩
  | statusChecked id rest => exact ⟨_, rfl, .read keys (.statusChecked s.world id rest d.now) (silent rfl)⟩
  | launched id rest => exact handle_launch keys d callbackId id rest
  | stopped id rest =>
    refine ⟨_, rfl, .inl ⟨_, rfl, .stopped id rest, ?_⟩, keys, lineOf_stop s.world id⟩
    intro line shown
    cases shown
    show StatusLine.stopped = lineOf (s.world.stop id) id
    rw [lineOf_erase (World.stop_same s.world id).1, if_pos rfl]

end

end PureCloak.WebUI
