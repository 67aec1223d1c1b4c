import PureCloak.WebUI.Callbacks

/-!
# The cards of the page

When nothing is on the way between the handler and the page, each card has the line of its workspace (`lines_current`),
whoever launched or stopped it and whatever crossed on the way: the notifications, the replies to `launchWorkspace` and
`stopWorkspace` and the replies about the status come in the order in which the handler made them, and the last one that
is about a workspace shows what its entry is like (`Current.last`). A search is the exception: it renders its cards as
stopped and asks for no status (`search_stale`). The cards are those of the list, unless a tag without a text lets
`render` throw (`emptyTag_unshown`). What the document shows of them is a matter of the HTML.
-/

namespace PureCloak.WebUI
open PureCloak.Base PureCloak.Profiles PureCloak.Launcher PureCloak.API Machine Promises

/-- The line that a call shows on the card of a workspace. -/
def Call.line (callbackMap : Std.ExtTreeMap String Continuation) (id : String) : Call → Option StatusLine
  | .webUIResponse (.string callbackId) response =>
    ((callbackMap[callbackId]?.bind fun k => k.shows response).filter fun line => line.1 = id).map Prod.snd
  | .webUIResponse _ _ => none
  | .onWorkspaceStatusChange n => if n.workspaceId = id then some (statusLine n.details) else none

/-- The line that the calls on the way leave on the card of a workspace. -/
def lastLine (callbackMap : Std.ExtTreeMap String Continuation) (id : String) (calls : List Call) : Option StatusLine :=
  calls.reverse.findSome? (Call.line callbackMap id)

section
variable {callbackMap : Std.ExtTreeMap String Continuation} {id : String}

/-- The last line of the calls after the first, or its own. -/
lemma lastLine_cons (c : Call) (calls : List Call) :
    lastLine callbackMap id (c :: calls) = (lastLine callbackMap id calls).or (c.line callbackMap id) := by
  rw [lastLine, List.reverse_cons, List.findSome?_append]
  cases h : c.line callbackMap id <;> simp [lastLine, h]

/-- The last line of the later calls, or of the earlier ones. -/
lemma lastLine_append (calls new : List Call) :
    lastLine callbackMap id (calls ++ new) = (lastLine callbackMap id new).or (lastLine callbackMap id calls) := by
  rw [lastLine, List.reverse_append, List.findSome?_append]
  rfl

/-- What the observers are told leaves on a card the line that they know of. -/
lemma lastLine_told (told : List Notification) (lines : String → StatusLine) :
    told.foldl Notification.shown lines id =
      (lastLine callbackMap id (told.map .onWorkspaceStatusChange)).getD (lines id) := by
  induction told generalizing lines with
  | nil => rfl
  | cons n told ih =>
    rw [List.foldl_cons, ih, List.map_cons, lastLine_cons, Notification.shown, Call.line]
    cases lastLine callbackMap id (told.map .onWorkspaceStatusChange) with
    | some line => rfl
    | none => split_ifs <;> rfl

/-- Only the promises that the calls belong to matter. -/
lemma lastLine_congr {callbackMap' : Std.ExtTreeMap String Continuation} {calls : List Call}
    (same : ∀ callbackId v, Call.webUIResponse (.string callbackId) v ∈ calls →
      callbackMap'[callbackId]? = callbackMap[callbackId]?) :
    lastLine callbackMap' id calls = lastLine callbackMap id calls := by
  have lines : ∀ c ∈ calls, c.line callbackMap' id = c.line callbackMap id := by
    intro c mem
    cases c with
    | onWorkspaceStatusChange n => rfl
    | webUIResponse callbackId v =>
      cases callbackId with
      | string callbackId => rw [Call.line, Call.line, same callbackId v mem]
      | _ => rfl
  induction calls with
  | nil => rfl
  | cons c calls ih =>
    rw [lastLine_cons, lastLine_cons, lines c List.mem_cons_self,
      ih (fun _ v mem => same _ v (List.mem_cons_of_mem c mem)) fun c' mem => lines c' (List.mem_cons_of_mem c mem)]

end

/-! ## What is rendered -/

section
variable {list : List DictValue} {id : String} {line : StatusLine}

/-- There is a card for each workspace that is rendered. -/
lemma mem_stoppedCards : id ∈ stoppedCards list ↔ id ∈ list.map wsId := by
  induction list using List.reverseRecOn with
  | nil => simp [stoppedCards]
  | append_singleton list ws ih =>
    rw [stoppedCards, List.foldl_append, List.foldl_cons, List.foldl_nil, KeyedMap.mem_iff_exists_get,
      KeyedMap.get_insert, List.map_append, List.mem_append, ← ih, List.map_singleton, List.mem_singleton]
    split_ifs with own
    · exact ⟨fun _ => .inr own.symm, fun _ => ⟨_, rfl⟩⟩
    · exact ⟨fun known => .inl (KeyedMap.mem_iff_exists_get.mpr known),
        fun known => KeyedMap.mem_iff_exists_get.mp (known.resolve_right (Ne.symm own))⟩

/-- The cards are rendered as stopped. -/
lemma get_stoppedCards (found : (stoppedCards list)[id]? = some line) : line = .stopped := by
  induction list using List.reverseRecOn with
  | nil => simp [stoppedCards] at found
  | append_singleton list ws ih =>
    rw [stoppedCards, List.foldl_append, List.foldl_cons, List.foldl_nil, KeyedMap.get_insert] at found
    split_ifs at found with own
    · exact (Option.some.inj found).symm
    · exact ih found

/-- The cards are those of the workspaces that the list was last made of. -/
lemma Page.mem_cards (p : Page) : id ∈ p.cards ↔ id ∈ p.listed.map wsId := by
  rw [cards, listed]
  induction p.drawn using List.reverseRecOn with
  | nil => simp
  | append_singleton drawn d ih =>
    rw [List.foldl_append, List.foldl_append]
    cases d with
    | workspaceList list => exact mem_stoppedCards
    | workspaceStatus id statusInfo => exact mem_setLine.trans ih

variable {toLowerCase : String → String} {query : String}

/-- The search throws only at tags that cannot be rendered. -/
lemma matchesQuery_isSome {ws : DictValue} (renderable : Renderable ws) :
    ∃ found, matchesQuery toLowerCase query ws = some found := by
  have among (tags : ListValue) (texts : ∀ tag ∈ tags, (tagText tag).isSome) :
      ∃ found, someTag toLowerCase query tags = some found := by
    induction tags with
    | nil => exact ⟨false, rfl⟩
    | cons tag tags ih =>
      obtain ⟨text, there⟩ := Option.isSome_iff_exists.mp (texts tag List.mem_cons_self)
      rw [someTag, there, Option.bind_eq_bind, Option.bind_some]
      split_ifs
      · exact ⟨true, rfl⟩
      · exact ih fun tag mem => texts tag (List.mem_cons_of_mem _ mem)
  rw [matchesQuery]
  split_ifs
  · exact ⟨true, rfl⟩
  · exact among _ renderable

variable (toLowerCase query) in
/-- A list that can be rendered can be searched. -/
lemma filterWorkspaces_isSome (renderable : ∀ ws ∈ list, Renderable ws) :
    ∃ found, filterWorkspaces toLowerCase query list = some found := by
  induction list with
  | nil => exact ⟨[], rfl⟩
  | cons ws list ih =>
    obtain ⟨found, matched⟩ := matchesQuery_isSome (renderable ws List.mem_cons_self)
    obtain ⟨others, rest⟩ := ih fun ws mem => renderable ws (List.mem_cons_of_mem _ mem)
    rw [filterWorkspaces, matched, rest]
    exact ⟨_, rfl⟩

/-- The search leaves workspaces out. -/
lemma filterWorkspaces_sublist {found : List DictValue}
    (filtered : filterWorkspaces toLowerCase query list = some found) : found.Sublist list := by
  induction list generalizing found with
  | nil =>
    cases filtered
    exact List.Sublist.refl _
  | cons ws list ih =>
    obtain ⟨matched, _, filtered⟩ := Option.bind_eq_some_iff.mp filtered
    obtain ⟨others, rest, filtered⟩ := Option.bind_eq_some_iff.mp filtered
    cases filtered
    split_ifs
    · exact (ih rest).cons_cons ws
    · exact (ih rest).cons ws

variable (toLowerCase query) in
/-- A search renders some of the workspaces, or it throws. -/
lemma act_search_cases (p : Page) :
    (∃ list, list.Sublist p.workspaces ∧ p.act toLowerCase (.search query) = p.draw (.workspaceList list)) ∨
    (p.act toLowerCase (.search query) = p ∧ ¬ ∀ ws ∈ p.workspaces, Renderable ws) := by
  rw [Page.act]
  by_cases renderable : ∀ ws ∈ p.workspaces, Renderable ws
  · left
    split_ifs
    · exact ⟨p.workspaces, List.Sublist.refl _, by rw [Page.render, Page.renderCards, if_pos renderable]; rfl⟩
    · obtain ⟨found, filtered⟩ := filterWorkspaces_isSome toLowerCase query renderable
      have sub := filterWorkspaces_sublist filtered
      have able : ∀ ws ∈ found, Renderable ws := fun ws mem => renderable ws (sub.subset mem)
      exact ⟨found, sub, by rw [filtered, Option.bind_some, Page.renderCards, if_pos able]; rfl⟩
  · split_ifs
    · exact .inr ⟨by rw [Page.render, Page.renderCards, if_neg renderable]; rfl, renderable⟩
    · cases filtered : (filterWorkspaces toLowerCase query p.workspaces) with
      | none => exact .inr ⟨rfl, renderable⟩
      | some found =>
        rw [Option.bind_some, Page.renderCards]
        split_ifs
        · exact .inl ⟨found, filterWorkspaces_sublist filtered, rfl⟩
        · exact .inr ⟨rfl, renderable⟩

end

/-- A change that is not seen through a function. -/
lemma map_modify {α β : Type*} {f : α → β} {g : α → α} (same : ∀ a, f (g a) = f a) (list : List α) (i : ℕ) :
    (list.modify i g).map f = list.map f := by
  refine List.ext_getElem? fun j => ?_
  rw [List.getElem?_map, List.getElem?_map, List.getElem?_modify]
  cases list[j]? with
  | none => rfl
  | some a =>
    rw [Option.map_some]
    split_ifs
    · exact congrArg some (same a)
    · rfl

/-- A new status changes no other field. -/
lemma find_set_status {key : String} (other : key ≠ "status") (status : Value) (ws : DictValue) :
    (ws.set "status" status).find key = ws.find key := by
  rw [DictValue.find_set, if_neg other]

/-- A status that is written down leaves the ids. -/
lemma map_wsId_modify (list : List DictValue) (i : ℕ) (status : Value) :
    (list.modify i (DictValue.set · "status" status)).map wsId = list.map wsId := by
  apply map_modify
  intro ws
  rw [wsId, DictValue.findString, find_set_status (by decide)]
  rfl

/-- It leaves the tags, too. -/
lemma renderable_modify (list : List DictValue) (i : ℕ) (status : Value) :
    (∀ ws ∈ list.modify i (DictValue.set · "status" status), Renderable ws) ↔ ∀ ws ∈ list, Renderable ws := by
  have same : (list.modify i (DictValue.set · "status" status)).map (DictValue.findList · "tags") =
      list.map (DictValue.findList · "tags") := by
    apply map_modify
    intro ws
    rw [DictValue.findList, find_set_status (by decide)]
    rfl
  have tags (list : List DictValue) : (∀ ws ∈ list, Renderable ws) ↔
      ∀ tags ∈ list.map (DictValue.findList · "tags"), ∀ tag ∈ tags.getD [], (tagText tag).isSome := by
    rw [List.forall_mem_map]
    rfl
  rw [tags, same, ← tags]

/-! ## What is sent -/

namespace Page
variable {P : Continuation → Prop} {p q : Page}

/-- More messages are sent behind those before. -/
lemma Extends.sent (more : Extends P p q) : ∃ new, q.sent = p.sent ++ new := by
  induction more with
  | refl => exact ⟨[], (List.append_nil _).symm⟩
  | send _ _ _ ih =>
    obtain ⟨new, sent⟩ := ih
    exact ⟨new ++ [_], by rw [sendAsync, sent, List.append_assoc]⟩

section
variable [TimeLib] [ValueLib] {others : Multiset (String × Carrier)}

/-- New promises leave those that wait. -/
lemma Waits.known (h : p.Waits others) (more : Extends P p q) {id : String} {k : Continuation}
    (found : p.callbackMap[id]? = some k) : q.callbackMap[id]? = some k := by
  induction more with
  | refl => exact found
  | send more _ _ ih =>
    have free := (h.sends more).free
    rw [sendAsync, KeyedMap.get_insert, if_neg, ih]
    rintro rfl
    exact Option.some_ne_none k (ih.symm.trans free)

/-- The status of each workspace of a list is asked for. -/
lemma Waits.statuses (h : p.Waits others) {list : List Workspace} {ws : Workspace} (listed : ws ∈ list) :
    let q := (list.map Workspace.toDict).foldl
      (fun p ws => p.sendAsync "getWorkspaceStatus" [(ws.find "id").getD .none] (.status (wsId ws))) p
    ∃ m ∈ q.sent, q.callbackMap[callbackOf m.args]? = some (.status ws.id) := by
  induction list generalizing p with
  | nil => exact absurd listed List.not_mem_nil
  | cons ws' list ih =>
    rw [List.map_cons, List.foldl_cons, wsId_toDict, find_id_toDict]
    have next := h.send (.status ws'.id)
    cases List.mem_cons.mp listed with
    | inr listed => exact ih next listed
    | inl own =>
      subst own
      have more := statuses_extends (p := p.sendAsync "getWorkspaceStatus" [.string ws.id] (.status ws.id)) list
      obtain ⟨new, sent⟩ := more.sent
      refine ⟨⟨"getWorkspaceStatus", [.string (callbackName (p.sendAsyncCounter + 1)), .string ws.id]⟩, ?_, ?_⟩
      · show _ ∈ Page.sent (List.foldl _ _ _)
        rw [Option.getD_some, sent]
        exact List.mem_append_left _ (List.mem_append_right _ (List.mem_singleton_self _))
      · apply next.known more
        exact (KeyedMap.get_insert _ _ _ _).trans (if_pos rfl)

end

end Page

/-! ## The cards of a session -/

/-- The line of a workspace is about to be asked for. -/
def Page.Refreshes (p : Page) (id : String) : Prop :=
  ∃ m ∈ p.sent, p.callbackMap[callbackOf m.args]? = some (.status id)

namespace PageSession

/-- What the calls on the way leave on the card of a workspace. -/
def last (s : PageSession) (id : String) : Option StatusLine :=
  lastLine s.page.callbackMap id s.calls

/-- What holds of the cards; `searched` is whether there was a search. -/
structure Current (searched : Prop) (s : PageSession) : Prop where
  last : ∀ id line, s.last id = some line → line = lineOf s.state.world id
  card : ∀ id line, s.page.cards[id]? = some line → s.last id = none →
    s.page.Refreshes id ∨ line = lineOf s.state.world id ∨ (searched ∧ line = .stopped)
  blocked : s.javascriptAllowed = false → s.calls = [] ∧ s.page.listed = [] ∧ s.page.workspaces = []
  distinct : (s.page.listed.map wsId).Nodup ∧ (s.page.workspaces.map wsId).Nodup
  listed : (∀ ws ∈ s.page.workspaces, Renderable ws) →
    (s.page.listed.map wsId).Sublist (s.page.workspaces.map wsId) ∧
      (s.page.listed.map wsId = s.page.workspaces.map wsId ∨ searched)

section
variable [TimeLib] [ValueLib] {s t : PageSession} {searched : Prop}

omit [TimeLib] [ValueLib] in
/-- New calls that show what there is, and everything that changed. -/
lemma Current.append (h : s.Current searched) {new : List Call}
    (table : t.page.callbackMap = s.page.callbackMap) (view : s.page.SameView t.page) (calls : t.calls = s.calls ++ new)
    (allowed : t.javascriptAllowed = true)
    (right : ∀ id, (lastLine s.page.callbackMap id new).getD (lineOf s.state.world id) = lineOf t.state.world id)
    (refreshes : ∀ id, s.page.Refreshes id → lastLine s.page.callbackMap id new = none → t.page.Refreshes id) :
    t.Current searched where
  last id line found := by
    rw [PageSession.last, table, calls, lastLine_append] at found
    rw [← right id]
    cases told : lastLine s.page.callbackMap id new with
    | some line' =>
      rw [told] at found
      exact (Option.some.inj found).symm
    | none =>
      rw [told] at found
      exact h.last id line found
  card id line shown silent := by
    rw [PageSession.last, table, calls, lastLine_append, Option.or_eq_none_iff] at silent
    have same := right id
    rw [silent.1] at same
    rw [view.cards] at shown
    obtain refresh | current | stale := h.card id line shown silent.2
    · exact .inl (refreshes id refresh silent.1)
    · exact .inr (.inl (current.trans same))
    · exact .inr (.inr stale)
  blocked refused := absurd (allowed.symm.trans refused) (by decide)
  distinct := by
    rw [view.listed, view.workspaces]
    exact h.distinct
  listed := by
    rw [view.listed, view.workspaces]
    exact h.listed

omit [TimeLib] [ValueLib] in
/-- What the observers are told is what changed. -/
lemma right_of_told {callbackMap : Std.ExtTreeMap String Continuation} {w w' : World} {told : List Notification}
    (lines : lineOf w' = told.foldl Notification.shown (lineOf w)) (id : String) :
    (lastLine callbackMap id (told.map .onWorkspaceStatusChange)).getD (lineOf w id) = lineOf w' id := by
  rw [lines, lastLine_told]

omit [TimeLib] [ValueLib] in
/-- A response behind them shows nothing else. -/
lemma right_of_resolved {callbackMap : Std.ExtTreeMap String Continuation} {w w' : World} {told : List Notification}
    {callbackId : String} {v : Value} {k : Continuation}
    (lines : lineOf w' = told.foldl Notification.shown (lineOf w)) (found : callbackMap[callbackId]? = some k)
    (right : ∀ line, k.shows v = some line → line.2 = lineOf w' line.1) (id : String) :
    (lastLine callbackMap id (told.map .onWorkspaceStatusChange ++ [.webUIResponse (.string callbackId) v])).getD
      (lineOf w id) = lineOf w' id := by
  have response : lastLine callbackMap id [.webUIResponse (.string callbackId) v] =
      ((k.shows v).filter fun line => line.1 = id).map Prod.snd := by
    rw [lastLine_cons, Call.line, found]
    rfl
  rw [lastLine_append, response]
  cases shown : (k.shows v).filter fun line => line.1 = id with
  | none => exact right_of_told lines id
  | some line =>
    obtain ⟨shows, own⟩ := Option.filter_eq_some_iff.mp shown
    exact (right line shows).trans (congrArg (lineOf w') (of_decide_eq_true own))

omit [TimeLib] [ValueLib] in
/-- What the page is told comes before the response. -/
lemma tell_resolve (allowed : s.javascriptAllowed = true) (told : List Notification) (callbackId v : Value) :
    (s.tell told).resolveJavascriptCallback callbackId v =
      { s with calls := s.calls ++ (told.map .onWorkspaceStatusChange ++ [.webUIResponse callbackId v]) } := by
  rw [tell, if_pos allowed, resolveJavascriptCallback, if_pos allowed, List.append_assoc]

variable {env : Env}

/-- The handler gets a message of the page. -/
lemma Current.receive (h : s.Current searched) (sound : s.Sound) {m : PageMessage} {rest : List PageMessage}
    (sent : s.page.sent = m :: rest) (d : Draws) :
    (PageSession.receive env { s with page := { s.page with sent := rest } } m d).Current searched := by
  obtain ⟨k, found, fit⟩ := sound.waits.matched.waiting m.carrier.1 m.carrier.2 (by
    rw [Page.requests, sent]
    exact Multiset.mem_add.mpr (.inl (Multiset.mem_coe.mpr List.mem_cons_self)))
  obtain ⟨name, args⟩ := m
  cases fit with
  | message callbackId asks =>
    obtain ⟨handled, eq, handles⟩ := handle_asked env asks sound.keys d callbackId
    -- the line that the message asks for is in the answer
    have refreshes (id : String) (refresh : s.page.Refreshes id) :
        { s.page with sent := rest }.Refreshes id ∨ k = .status id := by
      obtain ⟨m, mem, waits⟩ := refresh
      rw [sent] at mem
      cases List.mem_cons.mp mem with
      | inl own =>
        subst own
        exact .inr (Option.some.inj (found.symm.trans waits))
      | inr mem => exact .inl ⟨m, mem, waits⟩
    rw [PageSession.receive, eq]
    dsimp only
    obtain ⟨v, reaction, answers, right⟩ | ⟨rest', l, rfl, reaction⟩ := handles.reaction
    · rw [reaction, react, tell_resolve rfl]
      refine h.append rfl ⟨rfl, rfl, rfl⟩ rfl rfl (right_of_resolved handles.lines found right) ?_
      intro id refresh silent
      refine (refreshes id refresh).resolve_right ?_
      rintro rfl
      rw [lastLine_append, Option.or_eq_none_iff, lastLine_cons, Call.line] at silent
      have found : s.page.callbackMap[callbackId]? = some (.status id) := found
      rw [found] at silent
      cases answers with
      | status w id now => simp [Continuation.shows, Value.getIfDict, lastLine] at silent
    · rw [reaction, tell, if_pos rfl]
      refine h.append rfl ⟨rfl, rfl, rfl⟩ rfl rfl (right_of_told handles.lines) ?_
      intro id refresh silent
      exact (refreshes id refresh).resolve_right (absurd · Continuation.noConfusion)

/-- The callback of a launch is run. -/
lemma Current.continueStart (h : s.Current searched) (sound : s.Sound) {i : ℕ} {callbackId : String} {l : Launch}
    (found : s.launches[i]? = some (callbackId, l)) (launches : Bool) (now : Time) :
    (PageSession.continueStart env { s with launches := s.launches.eraseIdx i } callbackId l launches now).Current
      searched := by
  have allowed := sound.allowed (List.ne_nil_of_mem (List.mem_of_getElem? found))
  have waits := sound.waits.matched
  rw [others_eraseIdx found, Multiset.add_cons] at waits
  obtain ⟨k, known, fit⟩ := waits.waiting callbackId (.launch l) (Multiset.mem_cons_self _ _)
  rw [PageSession.continueStart, tell_resolve (by exact allowed)]
  refine h.append rfl ⟨rfl, rfl, rfl⟩ rfl allowed
    (right_of_resolved (lineOf_continueStart env now s.state.world l launches) known ?_) fun _ refresh _ => refresh
  intro line shown
  cases fit with
  | launch l rest =>
    cases launches with
    | false =>
      have silent := launchedLine_error l.ws.id "Failed to launch subprocess" now
      exact absurd (silent.symm.trans shown) (Option.some_ne_none _).symm
    | true =>
      cases (launchedLine_running l.ws.id _ now).symm.trans shown
      exact ((lineOf_insert (continueStart_workspaces env now s.state.world l) l.ws.id).trans (if_pos rfl)).symm

/-- What a promise other than the list shows. -/
lemma display_cards {p : Page} {k : Continuation} {v : Value} (answers : Answers k v) (other : k ≠ .loadWorkspaces) :
    (p.display v k).workspaces = p.workspaces ∧ (p.display v k).listed = p.listed ∧
      (p.display v k).cards = (k.shows v).elim p.cards (setLine p.cards) := by
  have drawn : (p.display v k).workspaces = p.workspaces ∧
      (p.display v k).drawn = p.drawn ++ ((k.statusOf v).map fun status => .workspaceStatus status.1 status.2).toList := by
    have elim (status : Option (String × DictValue)) :
        (status.elim p fun status => p.renderWorkspaceStatus status.1 status.2).workspaces = p.workspaces ∧
          (status.elim p fun status => p.renderWorkspaceStatus status.1 status.2).drawn =
            p.drawn ++ (status.map fun status => Drawing.workspaceStatus status.1 status.2).toList := by
      cases status with
      | none => exact ⟨rfl, (List.append_nil _).symm⟩
      | some status => exact ⟨rfl, rfl⟩
    cases answers with
    | loadWorkspaces => exact absurd rfl other
    | loadDashboardStats | loadTemplates => exact ⟨rfl, (List.append_nil _).symm⟩
    | _ => exact elim _
  refine ⟨drawn.1, ?_, ?_⟩
  · rw [Page.listed, drawn.2, List.foldl_append]
    cases k.statusOf v <;> rfl
  · rw [Page.cards, drawn.2, List.foldl_append, shows_eq]
    cases k.statusOf v <;> rfl

/-- What a response leaves of the promises: the other ones, and new ones. -/
structure Resumed (s : PageSession) (callbackId : String) (rest : List Call) (p : Page) : Prop where
  known : ∀ j k, j ≠ callbackId → s.page.callbackMap[j]? = some k → p.callbackMap[j]? = some k
  calls : ∀ j v, Call.webUIResponse (.string j) v ∈ rest → p.callbackMap[j]? = s.page.callbackMap[j]?
  sent : ∀ m ∈ s.page.sent, m ∈ p.sent ∧ callbackOf m.args ≠ callbackId

/-- A response resumes its continuation. -/
lemma resumed {callbackId : String} {v : Value} {k : Continuation} {rest : List Call}
    (waits : s.page.Waits ((callbackId, .response v) ::ₘ others { s with calls := rest })) (answers : Answers k v)
    (settled : ({ s.page with callbackMap := s.page.callbackMap.erase callbackId }.display v k).Waits
      (others { s with calls := rest })) :
    Resumed s callbackId rest ({ s.page with callbackMap := s.page.callbackMap.erase callbackId }.resume v k) := by
  have more := Page.resume_extends (p := { s.page with callbackMap := s.page.callbackMap.erase callbackId }) answers
  have same := Page.display_sameTable { s.page with callbackMap := s.page.callbackMap.erase callbackId } v k
  have left (j : String) := (congrArg (·[j]?) same.callbackMap).trans (KeyedMap.get_erase _ callbackId j)
  have known (j : String) (k' : Continuation) (other : j ≠ callbackId) (found : s.page.callbackMap[j]? = some k') :
      ({ s.page with callbackMap := s.page.callbackMap.erase callbackId }.resume v k).callbackMap[j]? = some k' :=
    settled.known more ((left j).trans ((if_neg (Ne.symm other)).trans found))
  refine ⟨known, ?_, ?_⟩
  · intro j w mem
    have carried : (j, Carrier.response w) ∈ others { s with calls := rest } :=
      Multiset.mem_add.mpr (.inr (Multiset.mem_coe.mpr (List.mem_filterMap.mpr ⟨_, mem, rfl⟩)))
    obtain ⟨k', found, _⟩ := settled.matched.waiting j _ (Multiset.mem_add.mpr (.inr carried))
    have found' := (left j).symm.trans found
    split_ifs at found' with own
    exact (known j k' (Ne.symm own) found').trans found'.symm
  · intro m mem
    obtain ⟨new, sent⟩ := more.sent
    refine ⟨?_, ?_⟩
    · rw [sent, same.sent]
      exact List.mem_append_left _ mem
    · intro own
      have nodup := waits.matched.nodup
      rw [Multiset.add_cons, Multiset.map_cons, Multiset.nodup_cons] at nodup
      refine nodup.1 (own ▸ Multiset.mem_map.mpr ⟨m.carrier, Multiset.mem_add.mpr (.inl ?_), rfl⟩)
      exact Multiset.mem_coe.mpr (List.mem_map.mpr ⟨m, mem, rfl⟩)

omit [TimeLib] [ValueLib] in
/-- The lines that are about to be asked for stay so. -/
lemma Resumed.refreshes {callbackId : String} {rest : List Call} {p : Page} (h : Resumed s callbackId rest p)
    {id : String} (refresh : s.page.Refreshes id) : p.Refreshes id := by
  obtain ⟨m, mem, status⟩ := refresh
  obtain ⟨sent, differs⟩ := h.sent m mem
  exact ⟨m, sent, h.known _ _ differs status⟩

/-- The list arrives: the cards are rendered, and their statuses are asked for, or rendering them throws. -/
lemma list_cards {p : Page} {others : Multiset (String × Carrier)} {list : List Workspace} (distinct : (list.map (·.id)).Nodup)
    (settled : (p.display (.list (list.map fun ws => .dict ws.toDict)) .loadWorkspaces).Waits others) :
    let q := p.resume (.list (list.map fun ws => .dict ws.toDict)) .loadWorkspaces
    (q.workspaces.map wsId).Nodup ∧
      ((q.listed = q.workspaces ∧ ∀ id ∈ q.cards, q.Refreshes id) ∨
        (q.drawn = p.drawn ∧ ¬ ∀ ws ∈ q.workspaces, Renderable ws)) := by
  have view := (Page.resume_extends (p := p) (.loadWorkspaces list distinct)).sameView
  have ids : (list.map Workspace.toDict).map wsId = list.map (·.id) := by
    rw [List.map_map]
    exact List.map_congr_left fun ws _ => Page.wsId_toDict ws
  dsimp only
  rw [Page.display, Page.dictionaries_workspaces, Page.render, Page.renderCards] at settled view
  dsimp only at settled view
  by_cases renderable : ∀ ws ∈ list.map Workspace.toDict, Renderable ws
  · rw [if_pos renderable, Option.getD_some] at settled view
    have listed := view.listed.trans (Page.listed_draw _ _)
    refine ⟨?_, .inl ⟨?_, ?_⟩⟩
    · rw [view.workspaces]
      exact ids ▸ distinct
    · rw [view.workspaces]
      exact listed
    · intro id shown
      rw [Page.mem_cards, listed] at shown
      obtain ⟨_, listed, rfl⟩ := List.mem_map.mp shown
      obtain ⟨ws, mem, rfl⟩ := List.mem_map.mp listed
      have asked := settled.statuses mem
      rw [Page.wsId_toDict, Page.resume, Page.workspacesLoaded, Page.dictionaries_workspaces, Page.renderCards]
      dsimp only
      rw [if_pos renderable]
      exact asked
  · rw [if_neg renderable] at view
    refine ⟨?_, .inr ⟨view.drawn, ?_⟩⟩
    · rw [view.workspaces]
      exact ids ▸ distinct
    · rw [view.workspaces]
      exact renderable

omit [TimeLib] [ValueLib] in
/-- The line that a card has after a response. -/
lemma Current.card_response (h : s.Current searched) {k : Continuation} {v : Value} {rest : List Call} {id : String}
    {line : StatusLine}
    (lines : s.last id = (lastLine s.page.callbackMap id rest).or
      (((k.shows v).filter fun line => line.1 = id).map Prod.snd))
    (shown : ((k.shows v).elim s.page.cards (setLine s.page.cards))[id]? = some line)
    (silent : lastLine s.page.callbackMap id rest = none) :
    s.page.Refreshes id ∨ line = lineOf s.state.world id ∨ (searched ∧ line = .stopped) := by
  rw [silent, Option.none_or] at lines
  cases shows : k.shows v with
  | none =>
    rw [shows] at lines shown
    exact h.card id line shown lines
  | some new =>
    rw [shows] at lines shown
    have there : id ∈ s.page.cards := mem_setLine.mp (KeyedMap.mem_iff_exists_get.mpr ⟨line, shown⟩)
    have shown := (get_setLine there).symm.trans shown
    by_cases own : new.1 = id
    · rw [if_pos own] at shown
      rw [Option.filter_some, if_pos (decide_eq_true own), Option.map_some, shown] at lines
      exact .inr (.inl (h.last id line lines))
    · rw [if_neg own] at shown
      rw [Option.filter_some, if_neg (by simpa using own)] at lines
      exact h.card id line shown lines

/-- A response to a promise arrives. -/
lemma Current.response (h : s.Current searched) {callbackId : String} {v : Value} {rest : List Call}
    (calls : s.calls = .webUIResponse (.string callbackId) v :: rest)
    (waits : s.page.Waits ((callbackId, .response v) ::ₘ others { s with calls := rest })) :
    Current searched { s with calls := rest, page := s.page.webUIResponse callbackId v } := by
  obtain ⟨k, found, answers, settled⟩ := waits.answered
  have table := resumed waits answers settled
  have view := (Page.resume_extends (p := { s.page with callbackMap := s.page.callbackMap.erase callbackId })
    answers).sameView
  have eq : s.page.webUIResponse callbackId v =
      { s.page with callbackMap := s.page.callbackMap.erase callbackId }.resume v k := by
    rw [Page.webUIResponse, found]
  rw [eq]
  have lines (id : String) : s.last id = (lastLine s.page.callbackMap id rest).or
      (((k.shows v).filter fun line => line.1 = id).map Prod.snd) := by
    rw [PageSession.last, calls, lastLine_cons, Call.line, found]
    rfl
  have last (id : String) : PageSession.last { s with
      calls := rest, page := { s.page with callbackMap := s.page.callbackMap.erase callbackId }.resume v k } id =
        lastLine s.page.callbackMap id rest :=
    lastLine_congr table.calls
  have still : ∀ id line, lastLine s.page.callbackMap id rest = some line → line = lineOf s.state.world id := by
    intro id line found'
    apply h.last id line
    rw [lines, found']
    rfl
  have allowed (refused : s.javascriptAllowed = false) : False :=
    absurd (calls.symm.trans (h.blocked refused).1) (List.cons_ne_nil _ _)
  by_cases list : k = .loadWorkspaces
  · subst list
    cases answers with
    | loadWorkspaces list distinct =>
      obtain ⟨differ, ⟨rendered, refreshes⟩ | ⟨drawn, throws⟩⟩ := list_cards distinct settled
      · refine ⟨fun id line found' => still id line ((last id).symm.trans found'), ?_,
          fun refused => (allowed refused).elim, ⟨?_, differ⟩, fun _ => ⟨?_, .inl (congrArg (List.map wsId) rendered)⟩⟩
        · intro id line shown _
          exact .inl (refreshes id (KeyedMap.mem_iff_exists_get.mpr ⟨line, shown⟩))
        · exact rendered ▸ differ
        · exact rendered ▸ List.Sublist.refl _
      · have cards : Page.cards _ = s.page.cards := congrArg (List.foldl Drawing.cards ∅) drawn
        have listed : Page.listed _ = s.page.listed := congrArg (List.foldl Drawing.listed []) drawn
        refine ⟨fun id line found' => still id line ((last id).symm.trans found'), ?_,
          fun refused => (allowed refused).elim, ⟨listed ▸ h.distinct.1, differ⟩, fun renderable => absurd renderable throws⟩
        intro id line shown silent
        have shown := (congrArg (·[id]?) cards).symm.trans shown
        obtain refresh | current := h.card_response (lines id) shown ((last id).symm.trans silent)
        · exact .inl (table.refreshes refresh)
        · exact .inr current
  · obtain ⟨workspaces, listed, cards⟩ :=
      display_cards (p := { s.page with callbackMap := s.page.callbackMap.erase callbackId }) answers list
    have cards := view.cards.trans cards
    have listed := view.listed.trans listed
    have workspaces := view.workspaces.trans workspaces
    refine ⟨fun id line found' => still id line ((last id).symm.trans found'), ?_, fun refused => (allowed refused).elim,
      ?_, ?_⟩
    · intro id line shown silent
      have shown := (congrArg (·[id]?) cards).symm.trans shown
      obtain refresh | current := h.card_response (lines id) shown ((last id).symm.trans silent)
      · exact .inl (table.refreshes refresh)
      · exact .inr current
    · show (List.map wsId (Page.listed _)).Nodup ∧ (List.map wsId (Page.workspaces _)).Nodup
      rw [listed, workspaces]
      exact h.distinct
    · intro renderable
      show (List.map wsId (Page.listed _)).Sublist (List.map wsId (Page.workspaces _)) ∧
        (List.map wsId (Page.listed _) = List.map wsId (Page.workspaces _) ∨ searched)
      rw [listed, workspaces]
      exact h.listed (workspaces ▸ renderable)

omit [TimeLib] [ValueLib] in
/-- The page is told of a status. -/
lemma Current.notified (h : s.Current searched) {n : Notification} {rest : List Call}
    (calls : s.calls = .onWorkspaceStatusChange n :: rest) :
    Current searched { s with calls := rest, page := s.page.run (.onWorkspaceStatusChange n) } := by
  have lines (id : String) : s.last id = (lastLine s.page.callbackMap id rest).or
      (if n.workspaceId = id then some (statusLine n.details) else none) := by
    rw [PageSession.last, calls, lastLine_cons, Call.line]
  have cards : (s.page.run (.onWorkspaceStatusChange n)).cards =
      setLine s.page.cards (n.workspaceId, statusLine n.details) :=
    Page.cards_draw _ _
  have listed : (s.page.run (.onWorkspaceStatusChange n)).listed = s.page.listed :=
    Page.listed_draw _ _
  have workspaces : (s.page.run (.onWorkspaceStatusChange n)).workspaces.map wsId = s.page.workspaces.map wsId :=
    map_wsId_modify _ _ _
  have renderable : (∀ ws ∈ (s.page.run (.onWorkspaceStatusChange n)).workspaces, Renderable ws) ↔
      ∀ ws ∈ s.page.workspaces, Renderable ws :=
    renderable_modify _ _ _
  have table : (s.page.run (.onWorkspaceStatusChange n)).callbackMap = s.page.callbackMap ∧
      (s.page.run (.onWorkspaceStatusChange n)).sent = s.page.sent :=
    ⟨rfl, rfl⟩
  have last (id : String) : PageSession.last { s with
      calls := rest, page := s.page.run (.onWorkspaceStatusChange n) } id = lastLine s.page.callbackMap id rest := by
    rw [PageSession.last, table.1]
  refine ⟨?_, ?_, ?_, ?_, ?_⟩
  · intro id line found
    apply h.last id line
    rw [lines, (last id).symm.trans found]
    rfl
  · intro id line shown silent
    have shown := (congrArg (·[id]?) cards).symm.trans shown
    have there : id ∈ s.page.cards := mem_setLine.mp (KeyedMap.mem_iff_exists_get.mpr ⟨line, shown⟩)
    have shown := (get_setLine there).symm.trans shown
    have lines := lines id
    rw [(last id).symm.trans silent, Option.none_or] at lines
    by_cases own : n.workspaceId = id
    · rw [if_pos own] at lines shown
      exact .inr (.inl (h.last id line (lines.trans shown)))
    · rw [if_neg own] at lines shown
      rw [Page.Refreshes, table.1, table.2]
      exact h.card id line shown lines
  · intro refused
    exact absurd (calls.symm.trans (h.blocked refused).1) (List.cons_ne_nil _ _)
  · show (List.map wsId (Page.listed _)).Nodup ∧ (List.map wsId (Page.workspaces _)).Nodup
    rw [listed, workspaces]
    exact h.distinct
  · intro able
    show (List.map wsId (Page.listed _)).Sublist (List.map wsId (Page.workspaces _)) ∧
      (List.map wsId (Page.listed _) = List.map wsId (Page.workspaces _) ∨ searched)
    rw [listed, workspaces]
    exact h.listed (renderable.mp able)

/-- The page runs a call. -/
lemma Current.deliver (h : s.Current searched) (sound : s.Sound) {c : Call} {rest : List Call}
    (calls : s.calls = c :: rest) : Current searched { s with calls := rest, page := s.page.run c } := by
  cases c with
  | onWorkspaceStatusChange n => exact h.notified calls
  | webUIResponse callbackId v =>
    cases callbackId with
    | string id => exact h.response calls (sound.response calls)
    | _ =>
      have last (id : String) : s.last id = lastLine s.page.callbackMap id rest := by
        rw [PageSession.last, calls, lastLine_cons]
        exact Option.or_none
      refine ⟨fun id line found => h.last id line ((last id).trans found), ?_, ?_, h.distinct, h.listed⟩
      · intro id line shown silent
        exact h.card id line shown ((last id).trans silent)
      · intro refused
        exact absurd (calls.symm.trans (h.blocked refused).1) (List.cons_ne_nil _ _)

/-- The user does something. -/
lemma Current.act (h : s.Current searched) (sound : s.Sound) (toLowerCase : String → String) {a : Action}
    (search : ∀ query, a = .search query → searched) :
    Current searched { s with page := s.page.act toLowerCase a } := by
  obtain ⟨q, same, empty, more, still⟩ := Page.act_extends toLowerCase sound.waits.templates a
  have waits := sound.waits.sameTable same empty
  have view := more.sameView
  have known (id : String) (k : Continuation) (found : s.page.callbackMap[id]? = some k) :
      (s.page.act toLowerCase a).callbackMap[id]? = some k := by
    rw [← same.callbackMap] at found
    exact waits.known more found
  have refreshes (id : String) (refresh : s.page.Refreshes id) : (s.page.act toLowerCase a).Refreshes id := by
    obtain ⟨m, mem, status⟩ := refresh
    obtain ⟨new, sent⟩ := more.sent
    refine ⟨m, ?_, known _ _ status⟩
    rw [sent, same.sent]
    exact List.mem_append_left _ mem
  have last (id : String) : PageSession.last { s with page := s.page.act toLowerCase a } id = s.last id := by
    apply lastLine_congr
    intro j v mem
    have carried : (j, Carrier.response v) ∈ s.others :=
      Multiset.mem_add.mpr (.inr (Multiset.mem_coe.mpr (List.mem_filterMap.mpr ⟨_, mem, rfl⟩)))
    obtain ⟨k, found, _⟩ := sound.waits.matched.waiting j _ (Multiset.mem_add.mpr (.inr carried))
    exact (known j k found).trans found.symm
  by_cases searches : ∃ query, a = .search query
  · obtain ⟨query, rfl⟩ := searches
    obtain ⟨list, sub, eq⟩ | ⟨eq, throws⟩ := act_search_cases toLowerCase query s.page
    · have listed : (s.page.act toLowerCase (.search query)).listed = list := by
        rw [eq]
        exact Page.listed_draw _ _
      have workspaces : (s.page.act toLowerCase (.search query)).workspaces = s.page.workspaces := by
        rw [eq]
        rfl
      refine ⟨fun id line found => h.last id line ((last id).symm.trans found), ?_, ?_, ?_, ?_⟩
      · intro id line shown _
        rw [eq, Page.cards_draw] at shown
        exact .inr (.inr ⟨search query rfl, get_stoppedCards shown⟩)
      · intro refused
        obtain ⟨none, _, unlisted⟩ := h.blocked refused
        rw [listed, workspaces]
        exact ⟨none, List.sublist_nil.mp (unlisted ▸ sub), unlisted⟩
      · rw [listed, workspaces]
        exact ⟨h.distinct.2.sublist (sub.map wsId), h.distinct.2⟩
      · intro _
        rw [listed, workspaces]
        exact ⟨sub.map wsId, .inr (search query rfl)⟩
    · rw [eq]
      exact h
  · have same := still fun query own => searches ⟨query, own⟩
    subst same
    refine ⟨fun id line found => h.last id line ((last id).symm.trans found), ?_, ?_, ?_, ?_⟩
    · intro id line shown silent
      obtain refresh | current := h.card id line (view.cards ▸ shown) ((last id).symm.trans silent)
      · exact .inl (refreshes id refresh)
      · exact .inr current
    · intro refused
      rw [view.listed, view.workspaces]
      exact h.blocked refused
    · rw [view.listed, view.workspaces]
      exact h.distinct
    · rw [view.listed, view.workspaces]
      exact h.listed

variable {toLowerCase : String → String}

/-- The page is not loaded again by the same handler while a launch goes on, nobody stops all workspaces at once, and
there is a search only if it is said so. -/
structure Calm (searched : Prop) (s : PageSession) (e : Event) : Prop where
  loads : LoadsIdle s e
  stops : ∀ now, e ≠ .world .stopAll now
  search : ∀ query, e = .act (.search query) → searched

omit [TimeLib] [ValueLib] in
/-- A page that has just been loaded is current. -/
lemma current_loaded (state : State) (launches : List (String × Launch)) :
    Current searched { state := state, launches := launches } where
  last id line found := absurd found (Option.some_ne_none line).symm
  card id line shown _ := by
    have none : Page.loaded.cards[id]? = none := Std.ExtTreeMap.getElem?_empty
    exact absurd (none.symm.trans shown) (Option.some_ne_none line).symm
  blocked _ := ⟨rfl, rfl, rfl⟩
  distinct := ⟨List.nodup_nil, List.nodup_nil⟩
  listed _ := ⟨List.Sublist.refl _, .inl rfl⟩

/-- Every calm step keeps the cards current. -/
lemma Current.step {e : Event} (h : s.Current searched) (sound : s.Sound) (calm : Calm searched s e)
    (st : step env toLowerCase s e = some t) : t.Current searched := by
  have running := (Option.ite_none_left_eq_some.mp st).1
  have st := (Option.ite_none_left_eq_some.mp st).2
  cases e with
  | act a =>
    cases st
    exact h.act sound toLowerCase fun query own => calm.search query (congrArg Event.act own)
  | receive d =>
    cases sent : s.page.sent with
    | nil => simp [sent] at st
    | cons m rest =>
      simp only [sent] at st
      cases st
      exact h.receive sound sent d
  | continueStart i launches now =>
    obtain ⟨⟨callbackId, l⟩, found, st⟩ := Option.bind_eq_some_iff.mp st
    cases st
    exact h.continueStart sound found launches now
  | deliver =>
    cases calls : s.calls with
    | nil => simp [calls] at st
    | cons c rest =>
      simp only [calls] at st
      cases st
      exact h.deliver sound calls
  | world e now =>
    obtain ⟨w, moved, st⟩ := Option.bind_eq_some_iff.mp st
    cases st
    have lines := lineOf_step now moved fun own => calm.stops now (own ▸ rfl)
    by_cases allowed : s.javascriptAllowed = true
    · rw [tell, if_pos (by exact allowed)]
      exact h.append rfl ⟨rfl, rfl, rfl⟩ rfl allowed (right_of_told lines) fun _ refresh _ => refresh
    · -- a page that is not told of it has no cards yet
      obtain ⟨none, empty, _⟩ := h.blocked (Bool.eq_false_of_not_eq_true allowed)
      have silent (id : String) : s.last id = Option.none := by
        rw [PageSession.last, none]
        rfl
      rw [tell, if_neg (by exact allowed)]
      refine ⟨?_, ?_, h.blocked, h.distinct, h.listed⟩
      · intro id line found
        exact absurd ((silent id).symm.trans found) (Option.some_ne_none line).symm
      · intro id line shown _
        have there := s.page.mem_cards.mp (KeyedMap.mem_iff_exists_get.mpr ⟨line, shown⟩)
        rw [empty] at there
        exact absurd there List.not_mem_nil
  | store op =>
    cases st
    exact ⟨h.last, h.card, h.blocked, h.distinct, h.listed⟩
  | load reused =>
    cases st
    have none := Bool.eq_false_of_not_eq_true running
    rw [none]
    exact current_loaded s.state _

/-- The cards are current in every calm run. -/
lemma current_of_run {store : WorkspaceStore} {world : World} {calls : List (WorkspaceStore × StoreOp)}
    {tr : List (PageSession × Event)} (before : Run WorkspaceStore.step {} calls store)
    (r : Run (PageSession.step env toLowerCase) (start store world) tr s) (calm : Guarded (Calm searched) tr) :
    s.Sound ∧ s.Current searched :=
  r.invariant_guarded (I := fun s => s.Sound ∧ s.Current searched) (fun h calm st => ⟨h.1.step calm.loads st, h.2.step h.1 calm st⟩)
    ⟨sound_start (keyId_of_run before) world, current_loaded ⟨store, world⟩ []⟩ calm

/-- There is a search in a run. -/
def Searched (tr : List (PageSession × Event)) : Prop :=
  ∃ p ∈ tr, ∃ query, p.2 = .act (.search query)

/-- When nothing is on the way, each card has the line of its workspace, unless a search has rendered it, and the cards
are of different workspaces; where the workspaces of the list can be rendered, they are theirs, without a search all of
them. -/
lemma lines_current {store : WorkspaceStore} {world : World} {calls : List (WorkspaceStore × StoreOp)}
    {tr : List (PageSession × Event)} (before : Run WorkspaceStore.step {} calls store)
    (r : Run (PageSession.step env toLowerCase) (start store world) tr s) (idle : Guarded LoadsIdle tr)
    (no_stopAll : ∀ p ∈ tr, ∀ now, p.2 ≠ .world .stopAll now) (quiet : s.Quiet) :
    (∀ id line, s.page.cards[id]? = some line →
      line = lineOf s.state.world id ∨ (Searched tr ∧ line = .stopped)) ∧
    (s.page.listed.map wsId).Nodup ∧
    ((∀ ws ∈ s.page.workspaces, Renderable ws) →
      (s.page.listed.map wsId).Sublist (s.page.workspaces.map wsId) ∧
        (¬ Searched tr → s.page.listed.map wsId = s.page.workspaces.map wsId)) := by
  have calm : Guarded (Calm (Searched tr)) tr :=
    fun p mem => ⟨idle p mem, no_stopAll p mem, fun query own => ⟨p, mem, query, own⟩⟩
  obtain ⟨sound, current⟩ := current_of_run before r calm
  refine ⟨?_, current.distinct.1, fun renderable => ⟨(current.listed renderable).1,
    (current.listed renderable).2.resolve_right⟩⟩
  intro id line shown
  have silent : s.last id = none := by
    rw [PageSession.last, quiet.2]
    rfl
  refine (current.card id line shown silent).resolve_left ?_
  -- nothing is asked for
  rintro ⟨m, mem, _⟩
  rw [quiet.1] at mem
  exact absurd mem List.not_mem_nil

end

/-- The launch comes to its end, and the page is told. -/
def launchShown : List Event :=
  launchFromPage ++ [.continueStart 0 true ⟨3⟩, .deliver, .deliver]

/-- The user searches after that. -/
def searchAfterLaunch : List Event :=
  launchShown ++ [.act (.search "w")]

/-- A workspace that has a tag without a text is imported before the page gets its list. -/
def emptyTag : List Event := [
  .store (.create { id := "b", tags := [{}] } "b" ApiServer.newDrawn.seed ⟨1⟩),
  .receive newDraws, .receive newDraws, .receive newDraws, .deliver, .deliver, .deliver]

/-- One workspace with such a tag, and none of the list has a card. -/
theorem emptyTag_unshown : ∃ s, Run plainStep oneCard (trace plainStep oneCard emptyTag) s ∧ s.Quiet ∧
    s.page.workspaces.map wsId = ["a", "b"] ∧ s.page.cards.toList = [] := by
  obtain ⟨s, ex, quiet, listed, none⟩ : ∃ s, exec plainStep oneCard emptyTag = some s ∧ s.Quiet ∧
      s.page.workspaces.map wsId = ["a", "b"] ∧ s.page.cards.toList = [] := ⟨_, rfl, ⟨rfl, rfl⟩, rfl, rfl⟩
  exact ⟨s, Run.of_exec ex, quiet, listed, none⟩

/-- After a search, the card of a workspace that runs shows it as stopped. -/
theorem search_stale : ∃ s, Run plainStep oneCard (trace plainStep oneCard searchAfterLaunch) s ∧ s.Quiet ∧
    s.page.cards["a"]? = some .stopped ∧ (lineOf s.state.world "a").status = .kRunning := by
  obtain ⟨s, ex, quiet, card, line⟩ : ∃ s, exec plainStep oneCard searchAfterLaunch = some s ∧ s.Quiet ∧
      s.page.cards["a"]? = some .stopped ∧ (lineOf s.state.world "a").status = .kRunning := ⟨_, rfl, ⟨rfl, rfl⟩, rfl, rfl⟩
  exact ⟨s, Run.of_exec ex, quiet, card, line⟩

end PageSession

end PureCloak.WebUI
