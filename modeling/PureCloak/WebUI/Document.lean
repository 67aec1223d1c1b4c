import Mathlib.Data.List.Forall2
import PureCloak.Library.Dom
import PureCloak.WebUI.CardMarkup
import PureCloak.WebUI.Cards

/-!
# The document of the page

What the browser makes of the drawings of the script. The list gets the nodes of its HTML, and a status goes into the
first element with the id `ws-status-` of the workspace, if there is one; its HTML has the id in it as it is. Where the
ids of the cards are plain, each card keeps a status element of its own, and what is in it is the line of the card
(`document_cards`), so that at rest each card of the document shows what the launcher has (`cards_current`). With other
ids the HTML of a status can have the status element of another workspace in it (`status_taken`).
-/

namespace PureCloak.WebUI
open PureCloak.Base PureCloak.Profiles PureCloak.Launcher PureCloak.API Machine Html

section
variable (toLocaleDateString : String → String) (locale : Locale)

/-- What the browser makes of a drawing; nothing, where the HTML needs more than `parse`. -/
def Drawing.draw (nodes : Option (List Node)) : Drawing → Option (List Node)
  | .workspaceList list => (renderHtml toLocaleDateString locale list).bind fun html => parse html.toList
  | .workspaceStatus id statusInfo =>
    nodes.bind fun nodes =>
      if HasId ("ws-status-" ++ id) nodes then
        (parse (statusHtml locale id statusInfo).toList).bind fun new => setInner ("ws-status-" ++ id) new nodes
      else some nodes

/-- The nodes of the list of workspaces; no other element of the page has an id that begins like those of the cards. -/
def Page.document (p : Page) : Option (List Node) :=
  p.drawn.foldl (Drawing.draw toLocaleDateString locale) (some [])

end

/-! ## What a card shows -/

/-- The port of a line. -/
def StatusLine.portText (line : StatusLine) : String :=
  match (line.cdpPort.bind Value.getIfInt).filter (· ≠ 0) with
  | some port => toString port.toInt
  | none => "—"

/-- What is in a status element shows a line: the indicator has its status, and the port is there while it runs. -/
structure ShowsLine (line : StatusLine) (children : List Node) : Prop where
  status : ∀ status : Status,
    ("span", [("class", "status-indicator " ++ status.toString)]) ∈ elements children ↔ status = line.status
  port : ∃ uptime, textsOf "class" "status-meta" children =
    if line.status = .kRunning then ["CDP: " ++ line.portText ++ " · uptime " ++ uptime] else []

/-- The node of a card, with what is in front of its status element. -/
def cardNode (header : List Node) (id : String) (children : List Node) : Node :=
  .element "div" [("class", "ws-card"), ("data-ws-id", id)] (header ++
    .element "div" [("class", "ws-status"), ("id", "ws-status-" ++ id)] children :: text "\n        ")

/-- A node is the card of a workspace with a line. -/
def IsCard (ws : DictValue) (line : StatusLine) (node : Node) : Prop :=
  ∃ header children, node = cardNode header (wsId ws) children ∧ NoIds header ∧ NoIds children ∧ ShowsLine line children

/-- A workspace whose card is read as it is meant, with an id that is plain. -/
structure PlainCard (ws : DictValue) : Prop where
  readable : ReadableCard ws
  id : PlainText (wsId ws)

/-- The names of the statuses differ. -/
lemma statusName_inj (status status' : Status) : status.toString = status'.toString ↔ status = status' := by
  cases status <;> cases status' <;> decide

section
variable (locale : Locale) {id : String} (plain : PlainText id) (statusInfo : DictValue)

/-- The elements of a status, with the indicator in front, and without ids. -/
lemma elements_status : ∃ others, elements (statusMarkup locale (.literal id plain) statusInfo).nodes =
      ("span", [("class", "status-indicator " ++ (shownStatus statusInfo).toString)]) :: others ∧
    (∀ e ∈ others, ∀ status : Status, e ≠ ("span", [("class", "status-indicator " ++ status.toString)])) ∧
    ∀ e ∈ others, "id" ∉ e.2.map Prod.fst := by
  rw [statusMarkup]
  cases shownStatus statusInfo with
  | kRunning =>
    refine ⟨[("span", [("class", "status-meta")]), ("button", [("class", "btn btn-sm btn-stop"),
      ("onclick", "event.stopPropagation();stopWorkspace('" ++ id ++ "')")])], ?_, ?_, ?_⟩
    · simp only [Markup.nodes, elements, Node.elements, dataOf, elements_append, elements_text, List.map_cons,
        List.map_nil, Written.data_append, Written.data_literal, List.nil_append, List.append_nil, List.cons_append]
      rfl
    · have other : ∀ status : Status, ("span", [("class", "status-meta")]) ≠
          ("span", [("class", "status-indicator " ++ status.toString)]) := by
        intro status
        cases status <;> decide
      simp [other]
    · simp
  | kCrashed =>
    refine ⟨[("button", [("class", "btn btn-sm btn-launch"),
      ("onclick", "event.stopPropagation();launchWorkspace('" ++ id ++ "')")])], ?_, ?_, ?_⟩
    · simp only [Markup.nodes, elements, Node.elements, dataOf, elements_append, elements_text, List.map_cons,
        List.map_nil, Written.data_append, Written.data_literal, List.nil_append, List.append_nil, List.cons_append]
      rfl
    · simp
    · simp
  | kStarting | kStopped =>
    refine ⟨[], ?_, by simp, by simp⟩
    simp only [Markup.nodes, elements, Node.elements, dataOf, elements_text, List.map_cons, List.map_nil,
      Written.data_append, Written.data_literal, List.append_nil]
    rfl

/-- The port of a status. -/
lemma textsOf_status : ∃ uptime, textsOf "class" "status-meta" (statusMarkup locale (.literal id plain) statusInfo).nodes =
    if shownStatus statusInfo = .kRunning then ["CDP: " ++ portText statusInfo ++ " · uptime " ++ uptime] else [] := by
  have port := writtenPlain_data (portText_plain statusInfo)
  rw [statusMarkup]
  cases shownStatus statusInfo with
  | kRunning =>
    refine ⟨(writtenPlain (uptimeText statusInfo)).data, ?_⟩
    rw [if_pos rfl]
    simp only [Markup.nodes, textsOf, Node.textsOf, dataOf, textsOf_append, textsOf_text, List.append_nil,
      List.nil_append, textContent_text, Written.data_append, Written.data_literal, port, List.map_cons, List.map_nil,
      String.ofList_toList]
    simp
  | kStarting | kCrashed | kStopped => exact ⟨"", by simp [Markup.nodes, textsOf, Node.textsOf, dataOf]⟩

/-- The HTML of a status shows its line, and there is no id in it. -/
lemma showsLine_status : NoIds (statusMarkup locale (.literal id plain) statusInfo).nodes ∧
    ShowsLine (statusLine statusInfo) (statusMarkup locale (.literal id plain) statusInfo).nodes := by
  obtain ⟨others, eq, differ, none⟩ := elements_status locale plain statusInfo
  obtain ⟨uptime, texts⟩ := textsOf_status locale plain statusInfo
  refine ⟨?_, ?_, uptime, ?_⟩
  · rw [NoIds, eq, List.forall_mem_cons]
    exact ⟨by simp, none⟩
  · intro status
    rw [eq, List.mem_cons]
    constructor
    · rintro (own | mem)
      · have same : status.toString = (shownStatus statusInfo).toString := by simpa using own
        exact (statusName_inj _ _).mp same
      · exact absurd rfl (differ _ mem status)
    · rintro rfl
      exact .inl rfl
  · rw [texts]
    show (if shownStatus statusInfo = .kRunning then _ else _) = if shownStatus statusInfo = .kRunning then _ else _
    split_ifs with running
    · rw [statusLine, StatusLine.portText, if_pos running]
      rfl
    · rfl

end

/-- The status that is rendered with a card shows that it is stopped. -/
lemma showsLine_stopped (stopped : Written) : NoIds (stoppedMarkup stopped).nodes ∧
    ShowsLine .stopped (stoppedMarkup stopped).nodes := by
  have eq : elements (stoppedMarkup stopped).nodes =
      [("span", [("class", "status-indicator " ++ Status.kStopped.toString)])] := by
    simp only [stoppedMarkup, Markup.nodes, elements, Node.elements, dataOf, elements_append, elements_text,
      List.map_cons, List.map_nil, Written.data_append, Written.data_literal, List.nil_append, List.append_nil]
    rfl
  refine ⟨?_, ?_, "", ?_⟩
  · rw [NoIds, eq]
    simp
  · intro status
    rw [eq, List.mem_singleton]
    simp [statusName_inj, StatusLine.stopped]
  · simp [stoppedMarkup, Markup.nodes, textsOf, Node.textsOf, dataOf, StatusLine.stopped]

/-! ## The cards of the document -/

/-- A relation that follows for the elements of two lists. -/
lemma forall₂_imp_of_mem {α β : Type*} {R S : α → β → Prop} {l : List α} {m : List β} (h : List.Forall₂ R l m)
    (imp : ∀ a ∈ l, ∀ b, R a b → S a b) : List.Forall₂ S l m := by
  induction h with
  | nil => exact .nil
  | @cons a b l m first _ ih =>
    exact .cons (imp a List.mem_cons_self b first) (ih fun a mem => imp a (List.mem_cons_of_mem _ mem))

/-- What comes behind the head of a card. -/
lemma nodes_cardHeader (x : CardTexts) (rest : Markup) :
    (cardHeader x rest).nodes = (cardHeader x .nil).nodes ++ rest.nodes := by
  simp [cardHeader, Markup.nodes]

/-- In front of the status element, no element has an id. -/
lemma noIds_cardHeader (x : CardTexts) : NoIds (cardHeader x .nil).nodes := by
  have row (rest : Markup) (none : NoIds rest.nodes) : NoIds (tagsRow x.tags rest).nodes := by
    rw [NoIds, elements_tagsRow, List.forall_mem_append]
    refine ⟨?_, none⟩
    split_ifs
    · simp
    · simp
  have tags := row (.text (.literal "\n            " (by decide)) .nil) (by
    rw [NoIds, Markup.nodes, elements_append, elements_text]
    simp [Markup.nodes, elements])
  rw [NoIds] at tags ⊢
  simp only [cardHeader, Markup.nodes, elements, Node.elements, dataOf, elements_append, elements_text, List.map_cons,
    List.map_nil, List.nil_append, List.append_nil, List.cons_append, List.forall_mem_cons, List.forall_mem_append]
  simpa using tags

section
variable (toLocaleDateString : String → String) (locale : Locale) {ws : DictValue}

/-- A card is rendered as stopped. -/
lemma nodes_card (readable : ReadableCard ws) (rest : Markup) :
    ∃ node, (cardMarkup (cardTexts toLocaleDateString locale ws) rest).nodes = node :: rest.nodes ∧
      IsCard ws .stopped node := by
  obtain ⟨none, stopped⟩ := showsLine_stopped (writtenPlain (t locale "Stopped"))
  have own := writtenValue_data readable.id
  refine ⟨_, ?_, _, _, rfl, noIds_cardHeader (cardTexts toLocaleDateString locale ws), none, stopped⟩
  rw [cardMarkup, Markup.nodes, nodes_cardHeader, cardNode, ← own]
  simp [Markup.nodes, dataOf, cardTexts]

/-- The list is rendered with a stopped card for each workspace. -/
lemma nodes_list {list : List DictValue} (readable : ∀ ws ∈ list, ReadableCard ws) :
    List.Forall₂ (fun ws => IsCard ws .stopped) list (listMarkup toLocaleDateString locale list).nodes := by
  induction list with
  | nil => exact .nil
  | cons ws list ih =>
    obtain ⟨node, nodes, card⟩ := nodes_card toLocaleDateString locale (readable ws List.mem_cons_self)
      (listMarkup toLocaleDateString locale list)
    rw [listMarkup, List.foldr_cons]
    exact nodes ▸ .cons card (ih fun ws mem => readable ws (List.mem_cons_of_mem _ mem))

variable {id : String} {line : StatusLine} {header children new rest : List Node}

/-- The only id of a card is that of its status element. -/
lemma hasId_cardNode (none : NoIds header) (empty : NoIds children) :
    HasId ("ws-status-" ++ id) (cardNode header (wsId ws) children :: rest) ↔
      wsId ws = id ∨ HasId ("ws-status-" ++ id) rest := by
  have text : NoIds (text "\n        ") := by
    rw [NoIds, elements_text]
    simp
  have own : "ws-status-" ++ id = "ws-status-" ++ wsId ws ↔ wsId ws = id :=
    (String.append_right_inj _).trans eq_comm
  rw [cardNode, hasId_element, hasId_append, hasId_element]
  simp [none.not_hasId, empty.not_hasId, text.not_hasId, own]

/-- The status element of a card gets other children. -/
lemma setInner_cardNode (none : NoIds header) :
    setInner ("ws-status-" ++ wsId ws) new (cardNode header (wsId ws) children :: rest) =
      some (cardNode header (wsId ws) new :: rest) := by
  have inside : setInner ("ws-status-" ++ wsId ws) new
      (header ++ .element "div" [("class", "ws-status"), ("id", "ws-status-" ++ wsId ws)] children :: text "\n        ") =
      some (header ++ .element "div" [("class", "ws-status"), ("id", "ws-status-" ++ wsId ws)] new :: text "\n        ") := by
    rw [setInner_append none.not_hasId]
    simp [setInner, Node.setInner]
  have outside : ("id", "ws-status-" ++ wsId ws) ∉ [("class", "ws-card"), ("data-ws-id", wsId ws)] := by simp
  rw [cardNode, setInner, Node.setInner, if_neg outside, inside]
  rfl

variable (id) in
/-- Where there is a card for a workspace, a status is put into it. -/
lemma setInner_cards {lines : DictValue → StatusLine} {list : List DictValue} {nodes : List Node}
    (cards : List.Forall₂ (fun ws => IsCard ws (lines ws)) list nodes) (distinct : (list.map wsId).Nodup)
    (none : NoIds new) (shows : ShowsLine line new) :
    (HasId ("ws-status-" ++ id) nodes ↔ id ∈ list.map wsId) ∧
      (id ∈ list.map wsId → ∃ nodes', setInner ("ws-status-" ++ id) new nodes = some nodes' ∧
        List.Forall₂ (fun ws => IsCard ws (if wsId ws = id then line else lines ws)) list nodes') := by
  induction cards with
  | nil => exact ⟨by simp [HasId, elements], fun mem => absurd mem List.not_mem_nil⟩
  | @cons ws node list nodes card cards ih =>
    rw [List.map_cons, List.nodup_cons] at distinct
    obtain ⟨found, set⟩ := ih distinct.2
    obtain ⟨header, children, rfl, plain, empty, shown⟩ := card
    rw [List.map_cons, List.mem_cons, hasId_cardNode plain empty, found, eq_comm (a := id)]
    refine ⟨Iff.rfl, fun mem => ?_⟩
    by_cases own : wsId ws = id
    · subst own
      refine ⟨_, setInner_cardNode plain, .cons ⟨header, new, rfl, plain, none, ?_⟩ ?_⟩
      · rw [if_pos rfl]
        exact shows
      · -- the other cards are of other workspaces
        refine forall₂_imp_of_mem cards fun ws' mem node card => ?_
        have other : wsId ws' ≠ wsId ws := fun same => distinct.1 (same ▸ List.mem_map_of_mem mem)
        rw [if_neg other]
        exact card
    · obtain ⟨nodes', set, cards'⟩ := set (mem.resolve_left own)
      have other : ¬ HasId ("ws-status-" ++ id) [cardNode header (wsId ws) children] := by
        rw [hasId_cardNode plain empty]
        simp [own, HasId, elements]
      have step := @setInner_append _ new _ nodes other
      rw [set] at step
      refine ⟨_, step, .cons ⟨header, children, rfl, plain, empty, ?_⟩ cards'⟩
      rw [if_neg own]
      exact shown

/-- The line of a card. -/
def Page.lineOn (p : Page) (ws : DictValue) : StatusLine :=
  (p.cards[wsId ws]?).getD .stopped

/-- A card of the page is there with its line. -/
lemma Page.get_cards {p : Page} (listed : ws ∈ p.listed) : p.cards[wsId ws]? = some (p.lineOn ws) := by
  obtain ⟨line, found⟩ := KeyedMap.mem_iff_exists_get.mp (p.mem_cards.mpr (List.mem_map_of_mem listed))
  rw [lineOn, found]
  rfl

/-- The line of a card after a status. -/
lemma Page.lineOn_status {p : Page} (listed : ws ∈ p.listed) (id : String) (statusInfo : DictValue) :
    (p.draw (.workspaceStatus id statusInfo)).lineOn ws = if wsId ws = id then statusLine statusInfo else p.lineOn ws := by
  have there : wsId ws ∈ p.cards := p.mem_cards.mpr (List.mem_map_of_mem listed)
  rw [lineOn, cards_draw, Drawing.cards, get_setLine there, get_cards listed]
  by_cases own : wsId ws = id
  · rw [if_pos own, if_pos own.symm]
    rfl
  · rw [if_neg own, if_neg (Ne.symm own)]
    rfl

variable {toLocaleDateString : String → String} (dates : ∀ s, PlainText (toLocaleDateString s)) {p : Page}

include dates in
/-- Where the list is rendered, the document has its cards, all of them stopped. -/
lemma draw_workspaceList {list : List DictValue} (plain : ∀ ws ∈ list, PlainCard ws) (before : Option (List Node)) :
    ∃ nodes, Drawing.draw toLocaleDateString locale before (.workspaceList list) = some nodes ∧
      List.Forall₂ (fun ws => IsCard ws ((p.draw (.workspaceList list)).lineOn ws)) list nodes := by
  have readable : ∀ ws ∈ list, ReadableCard ws := fun ws mem => (plain ws mem).readable
  obtain ⟨html, rendered, parsed⟩ := parse_renderHtml dates locale readable
  refine ⟨_, by rw [Drawing.draw, rendered]; exact parsed, ?_⟩
  refine forall₂_imp_of_mem (nodes_list toLocaleDateString locale readable) fun ws mem node card => ?_
  have stopped : (p.draw (.workspaceList list)).lineOn ws = .stopped := by
    have found := @Page.get_cards _ (p.draw (.workspaceList list)) (by rw [Page.listed_draw]; exact mem)
    rw [Page.cards_draw] at found
    exact get_stoppedCards found
  exact stopped ▸ card

/-- Where a status is put in, the card of its workspace has the new line, if there is one, and the others keep theirs. -/
lemma draw_workspaceStatus {nodes : List Node} (plain : ∀ ws ∈ p.listed, PlainCard ws)
    (distinct : (p.listed.map wsId).Nodup) (cards : List.Forall₂ (fun ws => IsCard ws (p.lineOn ws)) p.listed nodes)
    (id : String) (statusInfo : DictValue) :
    ∃ nodes', Drawing.draw toLocaleDateString locale (some nodes) (.workspaceStatus id statusInfo) = some nodes' ∧
      List.Forall₂ (fun ws => IsCard ws ((p.draw (.workspaceStatus id statusInfo)).lineOn ws)) p.listed nodes' := by
  rw [Drawing.draw, Option.bind_some]
  have lines (ws : DictValue) (listed : ws ∈ p.listed) := Page.lineOn_status listed id statusInfo
  by_cases known : id ∈ p.listed.map wsId
  · obtain ⟨ws, listed, rfl⟩ := List.mem_map.mp known
    have plainId : PlainText (wsId ws) := (plain ws listed).id
    obtain ⟨none, shows⟩ := showsLine_status locale plainId statusInfo
    have parsed : parse (statusHtml locale (wsId ws) statusInfo).toList = some _ :=
      statusHtml_source locale plainId statusInfo ▸ Markup.parse_source (statusMarkup_ok locale statusInfo _)
    obtain ⟨found, set⟩ := setInner_cards (wsId ws) cards distinct none shows
    obtain ⟨nodes', eq, cards'⟩ := set known
    rw [if_pos (found.mpr known), parsed, Option.bind_some]
    exact ⟨nodes', eq, forall₂_imp_of_mem cards' fun ws mem node card => lines ws mem ▸ card⟩
  · -- no element has the id, whatever would be put into it
    have stopped := showsLine_stopped (.literal "" (by decide))
    have found := (setInner_cards id cards distinct stopped.1 stopped.2).1
    rw [if_neg (found.not.mpr known)]
    refine ⟨nodes, rfl, forall₂_imp_of_mem cards fun ws mem node card => ?_⟩
    rw [lines ws mem, if_neg fun own => known (List.mem_map.mpr ⟨ws, mem, own⟩)]
    exact card

include dates in
/-- The document has the cards of the page, in the order of the list, each with its line. -/
lemma document_cards (plain : ∀ ws ∈ p.listed, PlainCard ws) (distinct : (p.listed.map wsId).Nodup) :
    ∃ nodes, p.document toLocaleDateString locale = some nodes ∧
      List.Forall₂ (fun ws => IsCard ws (p.lineOn ws)) p.listed nodes := by
  obtain ⟨drawn, own⟩ : ∃ drawn, p.drawn = drawn := ⟨_, rfl⟩
  induction drawn using List.reverseRecOn generalizing p with
  | nil =>
    refine ⟨[], ?_, ?_⟩
    · rw [Page.document, own]
      rfl
    · rw [Page.listed, own]
      exact .nil
  | append_singleton drawn d ih =>
    obtain ⟨q, rfl⟩ : ∃ q : Page, p = q.draw d := ⟨{ p with drawn := drawn }, by rw [Page.draw, ← own]⟩
    have before : q.drawn = drawn := List.append_cancel_right own
    have document : (q.draw d).document toLocaleDateString locale =
        d.draw toLocaleDateString locale (q.document toLocaleDateString locale) := by
      rw [Page.document, Page.draw, List.foldl_append]
      rfl
    rw [document]
    rw [Page.listed_draw] at plain distinct ⊢
    cases d with
    | workspaceList list => exact draw_workspaceList locale dates plain _
    | workspaceStatus id statusInfo =>
      obtain ⟨nodes, eq, cards⟩ := ih plain distinct before
      rw [eq]
      exact draw_workspaceStatus locale plain distinct cards id statusInfo

end

/-- An id with a status element of the workspace "b" in it. -/
def takingId : String :=
  "a\"><span id=\"ws-status-b\"></span><br class=\""

/-- The status of a workspace with such an id has a status element of the other one in it, in front of its own. -/
theorem status_taken :
    (parse (statusHtml .none takingId crashedInfo).toList).any (fun nodes => HasId "ws-status-b" nodes) := by
  decide +kernel

section
variable [TimeLib]

omit [TimeLib] in
/-- The text of a tag that has one. -/
lemma tagText_toDict {tag : ProfileTag} (some_ : tag.tag ≠ "") : tagText (.dict tag.toDict) = some tag.tag := by
  have nd : ([(kTagKey, some (Value.string tag.tag)), (kTagColorKey, some (Value.string tag.color))].map
      Prod.fst).Nodup := by
    show List.Nodup [kTagKey, kTagColorKey]
    decide
  have found : DictValue.findString tag.toDict "tag" = some tag.tag := by
    rw [ProfileTag.toDict, DictValue.findString, DictValue.find_ofFields nd]
    rfl
  rw [tagText, found, Option.filter_some, if_pos (decide_eq_true some_)]

/-- The card of a workspace is plain where its id is, its name is readable and its tags have readable texts. -/
lemma plainCard_toDict {ws : Workspace} (id : PlainText ws.id) (name : Readable ws.name)
    (tags : ∀ tag ∈ ws.tags, tag.tag ≠ "" ∧ Readable tag.tag) : PlainCard ws.toDict := by
  have ownId : wsId ws.toDict = ws.id := Page.wsId_toDict ws
  have ownName : wsName ws.toDict = ws.name := by
    rw [wsName, DictValue.findString, Workspace.find_toDict]
    rfl
  have ownTags : (DictValue.findList ws.toDict "tags").getD [] = ws.tags.map fun tag => .dict tag.toDict := by
    rw [DictValue.findList, Workspace.find_toDict]
    rfl
  refine ⟨⟨?_, ?_, ?_, ?_⟩, ?_⟩
  · rw [Renderable, ownTags, List.forall_mem_map]
    intro tag mem
    rw [tagText_toDict (tags tag mem).1]
    rfl
  · rw [ownId]
    exact fun c mem => (id c mem).2.2.2
  · rw [ownName]
    exact name
  · rw [tagTexts, ownTags, List.filterMap_map]
    intro text mem
    obtain ⟨tag, known, found⟩ := List.mem_filterMap.mp mem
    cases (tagText_toDict (tags tag known).1).symm.trans found
    exact (tags tag known).2
  · rw [ownId]
    exact id

end

/-! ## A session at rest -/

namespace PageSession

section
variable [TimeLib] [ValueLib] {s : PageSession} {env : Env} {toLowerCase toLocaleDateString : String → String}

/-- When nothing is on the way and the cards have plain ids, each card of the document shows the line of its workspace,
unless a search has rendered it; where the workspaces of the list can be rendered, the cards are theirs, without a search
all of them. -/
theorem cards_current {store : WorkspaceStore} {world : World} {calls : List (WorkspaceStore × StoreOp)}
    {tr : List (PageSession × Event)} (before : Run WorkspaceStore.step {} calls store)
    (r : Run (PageSession.step env toLowerCase) (start store world) tr s) (idle : Guarded LoadsIdle tr)
    (no_stopAll : ∀ p ∈ tr, ∀ now, p.2 ≠ .world .stopAll now) (quiet : s.Quiet)
    (dates : ∀ s, PlainText (toLocaleDateString s)) (locale : Locale) (plain : ∀ ws ∈ s.page.listed, PlainCard ws) :
    ∃ nodes, s.page.document toLocaleDateString locale = some nodes ∧
      List.Forall₂ (fun ws node => ∃ line, IsCard ws line node ∧
        (line = lineOf s.state.world (wsId ws) ∨ (Searched tr ∧ line = .stopped))) s.page.listed nodes ∧
      ((∀ ws ∈ s.page.workspaces, Renderable ws) →
        (s.page.listed.map wsId).Sublist (s.page.workspaces.map wsId) ∧
          (¬ Searched tr → s.page.listed.map wsId = s.page.workspaces.map wsId)) := by
  obtain ⟨lines, distinct, listed⟩ := lines_current before r idle no_stopAll quiet
  obtain ⟨nodes, eq, cards⟩ := document_cards locale dates plain distinct
  refine ⟨nodes, eq, forall₂_imp_of_mem cards fun ws mem node card => ?_, listed⟩
  exact ⟨s.page.lineOn ws, card, lines (wsId ws) _ (Page.get_cards mem)⟩

end

/-- The card of the launched workspace. -/
theorem cards_current_launch : ∃ s,
    Run plainStep oneCard (trace plainStep oneCard launchShown) s ∧
      ∃ nodes, s.page.document (fun _ => "1/1/2026") .zh = some nodes ∧
        List.Forall₂ (fun ws node => ∃ line, IsCard ws line node ∧
          (line = lineOf s.state.world (wsId ws) ∨
            (Searched (trace plainStep oneCard launchShown) ∧ line = .stopped))) s.page.listed nodes ∧
        ((∀ ws ∈ s.page.workspaces, Renderable ws) →
          (s.page.listed.map wsId).Sublist (s.page.workspaces.map wsId) ∧
            (¬ Searched (trace plainStep oneCard launchShown) →
              s.page.listed.map wsId = s.page.workspaces.map wsId)) := by
  obtain ⟨s, ex, quiet, listed⟩ : ∃ s, exec plainStep oneCard launchShown = some s ∧ s.Quiet ∧
      s.page.listed = [@Workspace.toDict utcCalendar (WorkspaceStore.created { id := "a", name := "w" }
        ApiServer.newDrawn.id ApiServer.newDrawn.seed ApiServer.newDrawn.now)] := ⟨_, rfl, ⟨rfl, rfl⟩, rfl⟩
  have plain : ∀ ws ∈ s.page.listed, PlainCard ws := by
    rw [listed, List.forall_mem_singleton]
    exact @plainCard_toDict utcCalendar _ (by decide) (by decide) fun tag mem => absurd mem List.not_mem_nil
  have events (p : PageSession × Event) (mem : p ∈ trace plainStep oneCard launchShown) :
      p.2 ≠ .load true ∧ ∀ now, p.2 ≠ .world .stopAll now :=
    @Guarded.trace _ _ plainStep (fun e => e ≠ .load true ∧ ∀ now, e ≠ .world .stopAll now) launchShown
      (by simp [launchShown, launchFromPage]) oneCard p mem
  exact ⟨s, Run.of_exec ex, @cards_current utcCalendar ApiServer.plainValues _ _ _ _ _ _ _ _ (.single oneCard_created)
    (Run.of_exec ex) (fun p mem reload => absurd reload (events p mem).1) (fun p mem => (events p mem).2) quiet
    noDate_plain .zh plain⟩

end PageSession

end PureCloak.WebUI
