import PureCloak.API.ResponseOrder
import PureCloak.Library.Promises
import PureCloak.WebUI.PageSteps

/-!
# The callbacks of the page

Every promise of the page is on its way exactly once: as a message, as a launch, or as a response, and the response that
arrives is an answer to the message that the promise was issued with (`callbacks_matched`). No `CHECK` fails on the way.
This is so as long as the page is not loaded again by the same handler while a launch goes on: the new page counts from
one again, and the callback of the launch is of the old page (`reload_fails`).
-/

namespace PureCloak.WebUI
open PureCloak.Base PureCloak.Profiles PureCloak.Launcher PureCloak.API Machine Promises

/-- What a promise is carried by. -/
inductive Carrier where
  | message (m : PageMessage)
  | launch (l : Launch)
  | response (v : Value)

/-- The name of the callback in a message. -/
def callbackOf (args : ListValue) : String :=
  (args.head?.bind Value.getIfString).getD ""

/-- A message with its callback. -/
def PageMessage.carrier (m : PageMessage) : String × Carrier :=
  (callbackOf m.args, .message m)

/-- A launch with its callback. -/
def launchCarrier (l : String × Launch) : String × Carrier :=
  (l.1, .launch l.2)

/-- A response with its callback; the page has no callback whose name is no string. -/
def Call.carrier : Call → Option (String × Carrier)
  | .webUIResponse (.string callbackId) response => some (callbackId, .response response)
  | _ => none

/-- The promises that wait in the messages. -/
def Page.requests (p : Page) : Multiset (String × Carrier) :=
  Multiset.ofList (p.sent.map PageMessage.carrier)

/-- The levels of the promises. -/
def Page.levels (p : Page) : Multiset ℕ :=
  Multiset.ofList (p.callbackMap.toList.map fun promise => promise.2.level)

section
variable [TimeLib] [ValueLib]

/-- What carries a promise belongs to it. -/
inductive Fits : Continuation → Carrier → Prop where
  | message {k name args} (callbackId : String) :
    Asks k name args →
    Fits k (.message ⟨name, .string callbackId :: args⟩)
  | launch (l : Launch) (rest : List String) : Fits (.launched l.ws.id rest) (.launch l)
  | response {k v} :
    Answers k v →
    Fits k (.response v)

/-- The promises of a page, with what is on the way outside it. -/
structure Page.Waits (p : Page) (others : Multiset (String × Carrier)) : Prop where
  names : ∀ id ∈ p.callbackMap, ∃ n ≤ p.sendAsyncCounter, id = callbackName n
  templates : p.templates = []
  matched : Matched Fits (fun id => p.callbackMap[id]?) (p.requests + others)

namespace Page.Waits
variable {p q : Page} {others : Multiset (String × Carrier)}

/-- The next name is free. -/
lemma free (h : p.Waits others) : p.callbackMap[callbackName (p.sendAsyncCounter + 1)]? = none := by
  rw [KeyedMap.get_eq_none_iff]
  intro taken
  obtain ⟨n, bound, same⟩ := h.names _ taken
  exact absurd (callbackName_injective same ▸ bound) (Nat.not_succ_le_self _)

/-- A message that is sent has its promise waiting. -/
lemma send (h : p.Waits others) {k : Continuation} {name : String} {args : ListValue} (asks : Asks k name args) :
    (p.sendAsync name args k).Waits others where
  names id known := by
    obtain ⟨k', found⟩ := KeyedMap.mem_iff_exists_get.mp known
    have found : (p.callbackMap.insert (callbackName (p.sendAsyncCounter + 1)) k)[id]? = some k' := found
    rw [KeyedMap.get_insert] at found
    split_ifs at found with own
    · exact ⟨_, Nat.le_refl _, own.symm⟩
    · obtain ⟨n, bound, same⟩ := h.names id (KeyedMap.mem_iff_exists_get.mpr ⟨k', found⟩)
      exact ⟨n, Nat.le_succ_of_le bound, same⟩
  templates := h.templates
  matched := by
    have issued := h.matched.issue h.free (.message (callbackName (p.sendAsyncCounter + 1)) asks)
      fun id => KeyedMap.get_insert p.callbackMap _ id k
    have sent : (p.sendAsync name args k).requests =
        PageMessage.carrier ⟨name, .string (callbackName (p.sendAsyncCounter + 1)) :: args⟩ ::ₘ p.requests := by
      rw [requests, requests, Multiset.cons_coe, Multiset.coe_eq_coe, sendAsync, List.map_append]
      exact List.perm_append_singleton _ _
    rw [sent, Multiset.cons_add]
    exact issued

/-- So have several messages. -/
lemma sends {P : Continuation → Prop} (h : p.Waits others) (more : Extends P p q) : q.Waits others := by
  induction more with
  | refl => exact h
  | send _ asks _ ih => exact ih.send asks

/-- A page with the same table waits for the same. -/
lemma sameTable (h : p.Waits others) (same : p.SameTable q) (empty : q.templates = []) : q.Waits others where
  names := by
    rw [same.callbackMap, same.counter]
    exact h.names
  templates := empty
  matched := by
    rw [requests, same.callbackMap, same.sent]
    exact h.matched

/-- A carrier outside the page takes another form. -/
lemma change {id : String} {c c' : Carrier} (h : p.Waits ((id, c) ::ₘ others))
    (fit : ∀ k, p.callbackMap[id]? = some k → Fits k c → Fits k c') : p.Waits ((id, c') ::ₘ others) where
  names := h.names
  templates := h.templates
  matched := by
    have matched := h.matched
    rw [Multiset.add_cons] at matched ⊢
    exact matched.change fit

/-- The next message leaves the page. -/
lemma receive {m : PageMessage} {rest : List PageMessage} (h : p.Waits others) (sent : p.sent = m :: rest) :
    { p with sent := rest }.Waits (m.carrier ::ₘ others) where
  names := h.names
  templates := h.templates
  matched := by
    have matched := h.matched
    rw [requests, sent, List.map_cons, ← Multiset.cons_coe, Multiset.cons_add, ← Multiset.add_cons] at matched
    exact matched

/-- A promise that a response belongs to is taken out of the table, and what is shown is changed. -/
lemma answered {id : String} {v : Value} (h : p.Waits ((id, .response v) ::ₘ others)) :
    ∃ k, p.callbackMap[id]? = some k ∧ Answers k v ∧
      ({ p with callbackMap := p.callbackMap.erase id }.display v k).Waits others := by
  have matched := h.matched
  rw [Multiset.add_cons] at matched
  obtain ⟨k, found, fit⟩ := matched.waiting id _ (Multiset.mem_cons_self _ _)
  cases fit with
  | response answers =>
    refine ⟨k, found, answers, ?_⟩
    have settled : { p with callbackMap := p.callbackMap.erase id }.Waits others := by
      refine ⟨?_, h.templates, matched.settle fun j => KeyedMap.get_erase p.callbackMap id j⟩
      intro j known
      exact h.names j (Std.ExtTreeMap.mem_of_mem_erase known)
    apply settled.sameTable (display_sameTable _ v k)
    cases answers with
    | loadTemplates => rfl
    | status | stopped | loadDashboardStats | changed | templatesChanged | proxyTested | statusChecked =>
      exact h.templates
    | loadWorkspaces list =>
      rw [display]
      obtain eq | eq := render_cases { { p with callbackMap := p.callbackMap.erase id } with
        workspaces := dictionaries (.list (list.map fun ws => .dict ws.toDict)) }
      · rw [eq]
        exact h.templates
      · rw [eq]
        exact h.templates
    | launched id rest result =>
      show Page.templates ((if result.findBool "success" = some false then none else some (id, result)).elim _ _) = []
      split_ifs <;> exact h.templates

/-- The response to a promise arrives, and what waits for it goes on. -/
lemma deliver {id : String} {v : Value} (h : p.Waits ((id, .response v) ::ₘ others)) :
    (p.webUIResponse id v).Waits others := by
  obtain ⟨k, found, answers, settled⟩ := h.answered
  rw [webUIResponse, found]
  exact settled.sends (resume_extends answers)

/-- The levels of the promises that a page sends. -/
lemma levels_sends {P : Continuation → Prop} (h : p.Waits others) (more : Extends P p q) :
    ∃ new, q.levels = p.levels + new ∧ ∀ n ∈ new, ∃ k, P k ∧ n = k.level := by
  induction more with
  | refl => exact ⟨0, (add_zero _).symm, fun n mem => absurd mem (Multiset.notMem_zero n)⟩
  | @send p' k name args more asks kind ih =>
    obtain ⟨new, levels, kinds⟩ := ih
    refine ⟨k.level ::ₘ new, ?_, ?_⟩
    · have free := KeyedMap.erase_of_get_eq_none (h.sends more).free
      have perm := KeyedMap.toList_insert_perm p'.callbackMap (callbackName (p'.sendAsyncCounter + 1)) k
      rw [free] at perm
      rw [Multiset.add_cons, ← levels]
      exact Multiset.coe_eq_coe.mpr (perm.map fun promise => promise.2.level)
    · intro n mem
      obtain rfl | mem := Multiset.mem_cons.mp mem
      · exact ⟨k, kind, rfl⟩
      · exact kinds n mem

/-- A response brings the levels down. -/
lemma levels_deliver {id : String} {v : Value} (h : p.Waits ((id, .response v) ::ₘ others)) :
    Descends (p.webUIResponse id v).levels p.levels := by
  obtain ⟨k, found, answers, settled⟩ := h.answered
  obtain ⟨new, levels, lower⟩ := settled.levels_sends (resume_extends answers)
  have perm := (KeyedMap.toList_perm_erase found).map fun promise => promise.2.level
  refine ⟨k.level, Multiset.ofList ((p.callbackMap.erase id).toList.map fun promise => promise.2.level), new, ?_, ?_, ?_⟩
  · exact Multiset.coe_eq_coe.mpr perm
  · rw [webUIResponse, found]
    refine levels.trans (congrArg (· + new) ?_)
    rw [Page.levels, (display_sameTable _ v k).callbackMap]
  · intro n mem
    obtain ⟨k', below, rfl⟩ := lower n mem
    exact below

/-- A page that was just loaded. -/
lemma loaded : Page.loaded.Waits 0 := by
  have empty : ({} : Page).Waits 0 := by
    refine ⟨fun id known => absurd known Std.ExtTreeMap.not_mem_empty, rfl, ?_⟩
    have table : (fun id => ({} : Page).callbackMap[id]?) = fun _ : String => none :=
      funext fun id => Std.ExtTreeMap.getElem?_empty
    rw [table]
    exact .empty
  exact empty.sends loaded_extends

end Page.Waits

end

/-! ## A session -/

namespace PageSession

section
variable [TimeLib] [ValueLib] {s t : PageSession}

/-- The launches and responses on the way, with their callbacks. -/
def others (s : PageSession) : Multiset (String × Carrier) :=
  Multiset.ofList (s.launches.map launchCarrier) + Multiset.ofList (s.calls.filterMap Call.carrier)

/-- Everything on the way that belongs to a promise. -/
def carriers (s : PageSession) : Multiset (String × Carrier) :=
  s.page.requests + s.others

omit [TimeLib] [ValueLib] in
/-- What is told to the page are calls without promises. -/
lemma tell_eq (s : PageSession) (told : List Notification) : ∃ new,
    s.tell told = { s with calls := s.calls ++ new } ∧ new.filterMap Call.carrier = [] := by
  rw [tell]
  split_ifs
  · refine ⟨_, rfl, ?_⟩
    rw [List.filterMap_map]
    exact List.filterMap_eq_nil_iff.mpr fun _ _ => rfl
  · exact ⟨[], by rw [List.append_nil], rfl⟩

/-- What holds of a session whose promises are on their way. -/
structure Sound (s : PageSession) : Prop where
  running : s.failed = false
  keys : KeyId s.state.store.workspaces
  allowed : s.launches ≠ [] → s.javascriptAllowed = true
  waits : s.page.Waits s.others

omit [TimeLib] [ValueLib] in
/-- Such calls do not change which promises are on the way. -/
lemma others_append {new : List Call} (silent : new.filterMap Call.carrier = []) :
    others { s with calls := s.calls ++ new } = s.others := by
  rw [others, others, List.filterMap_append, silent, List.append_nil]

omit [TimeLib] [ValueLib] in
/-- A launch that comes to its end is taken out. -/
lemma others_eraseIdx {i : ℕ} {l : String × Launch} (found : s.launches[i]? = some l) :
    s.others = launchCarrier l ::ₘ others { s with launches := s.launches.eraseIdx i } := by
  obtain ⟨bound, rfl⟩ := List.getElem?_eq_some_iff.mp found
  have perm := (List.getElem_cons_eraseIdx_perm bound).symm.map launchCarrier
  rw [others, Multiset.coe_eq_coe.mpr perm, List.map_cons, ← Multiset.cons_coe, Multiset.cons_add]
  rfl

/-- The observers are told. -/
lemma Sound.tell (h : s.Sound) (told : List Notification) : (s.tell told).Sound := by
  obtain ⟨new, eq, silent⟩ := s.tell_eq told
  rw [eq]
  refine ⟨h.running, h.keys, h.allowed, ?_⟩
  rw [others_append silent]
  exact h.waits

/-- The observers are told, and then a callback that was carried by something else is resolved. -/
lemma sound_resolve {callbackId : String} {c : Carrier} {v : Value} (told : List Notification)
    (running : s.failed = false) (keys : KeyId s.state.store.workspaces) (allowed : s.javascriptAllowed = true)
    (waits : s.page.Waits ((callbackId, c) ::ₘ s.others))
    (fit : ∀ k, s.page.callbackMap[callbackId]? = some k → Fits k c → Answers k v) :
    ((s.tell told).resolveJavascriptCallback (.string callbackId) v).Sound := by
  obtain ⟨new, eq, silent⟩ := s.tell_eq told
  rw [← others_append silent] at waits
  rw [eq, resolveJavascriptCallback, if_pos allowed]
  refine ⟨running, keys, fun _ => allowed, ?_⟩
  generalize s.calls ++ new = calls at waits ⊢
  have more : others { s with calls := calls ++ [.webUIResponse (.string callbackId) v] } =
      (callbackId, .response v) ::ₘ others { s with calls := calls } := by
    rw [others, others, List.filterMap_append, ← Multiset.coe_add, ← add_assoc, add_comm _ (Multiset.ofList _)]
    rfl
  rw [more]
  exact waits.change fun k found fits => .response (fit k found fits)

/-- The observers are told, and then a launch goes on with a callback that was carried by something else. -/
lemma sound_launch {callbackId : String} {c : Carrier} {l : Launch} (told : List Notification)
    (running : s.failed = false) (keys : KeyId s.state.store.workspaces) (allowed : s.javascriptAllowed = true)
    (waits : s.page.Waits ((callbackId, c) ::ₘ s.others))
    (fit : ∀ k, s.page.callbackMap[callbackId]? = some k → Fits k c → Fits k (.launch l)) :
    ((s.tell told).react (.launch callbackId l)).Sound := by
  obtain ⟨new, eq, silent⟩ := s.tell_eq told
  rw [← others_append silent] at waits
  rw [eq]
  refine ⟨running, keys, fun _ => allowed, ?_⟩
  have more (calls : List Call) : others { s with calls := calls, launches := s.launches ++ [(callbackId, l)] } =
      (callbackId, .launch l) ::ₘ others { s with calls := calls } := by
    rw [others, others, List.map_append, ← Multiset.coe_add, add_comm (Multiset.ofList _) (Multiset.ofList _), add_assoc]
    rfl
  exact more _ ▸ waits.change fit

variable {env : Env}

/-- The handler gets a message of the page. -/
lemma Sound.receive (h : s.Sound) {m : PageMessage} {rest : List PageMessage} (sent : s.page.sent = m :: rest)
    (d : Draws) : (PageSession.receive env { s with page := { s.page with sent := rest } } m d).Sound := by
  have waits := h.waits.receive sent
  obtain ⟨k, found, fit⟩ := h.waits.matched.waiting m.carrier.1 m.carrier.2 (by
    rw [Page.requests, sent]
    exact Multiset.mem_add.mpr (.inl (Multiset.mem_coe.mpr List.mem_cons_self)))
  obtain ⟨name, args⟩ := m
  cases fit with
  | message callbackId asks =>
    obtain ⟨handled, eq, handles⟩ := handle_asked env asks h.keys d callbackId
    rw [PageSession.receive, eq]
    dsimp only
    obtain ⟨v, reaction, answers, _⟩ | ⟨rest', l, rfl, reaction⟩ := handles.reaction
    · rw [reaction]
      refine sound_resolve handled.told h.running handles.keys rfl waits ?_
      intro k' found' _
      cases found.symm.trans found'
      exact answers
    · rw [reaction]
      refine sound_launch handled.told h.running handles.keys rfl waits ?_
      intro k' found' _
      cases found.symm.trans found'
      exact .launch l _

/-- The callback of a launch is run. -/
lemma Sound.continueStart (h : s.Sound) {i : ℕ} {callbackId : String} {l : Launch}
    (found : s.launches[i]? = some (callbackId, l)) (launches : Bool) (now : Time) :
    (PageSession.continueStart env { s with launches := s.launches.eraseIdx i } callbackId l launches now).Sound := by
  have allowed := h.allowed (List.ne_nil_of_mem (List.mem_of_getElem? found))
  refine sound_resolve _ h.running h.keys allowed (others_eraseIdx found ▸ h.waits) ?_
  intro k _ fits
  cases fits with
  | launch l rest => exact .launched l.ws.id rest _

/-- The next call of a session is a response. -/
lemma Sound.response (h : s.Sound) {id : String} {v : Value} {rest : List Call}
    (calls : s.calls = .webUIResponse (.string id) v :: rest) :
    s.page.Waits ((id, .response v) ::ₘ others { s with calls := rest }) := by
  have waits := h.waits
  rw [others, calls, List.filterMap_cons, Call.carrier, ← Multiset.cons_coe, Multiset.add_cons] at waits
  exact waits

/-- The next call of a session is a response to a promise, or it leaves what waits as it is. -/
lemma Sound.next (h : s.Sound) {c : Call} {rest : List Call} (calls : s.calls = c :: rest) :
    (∃ id v, c = .webUIResponse (.string id) v ∧ s.page.Waits ((id, .response v) ::ₘ others { s with calls := rest })) ∨
    (s.page.SameTable (s.page.run c) ∧ (s.page.run c).templates = [] ∧ s.page.Waits (others { s with calls := rest })) := by
  have waits := h.waits
  rw [others, calls] at waits
  have unchanged (silent : Call.carrier c = none) : s.page.Waits (others { s with calls := rest }) := by
    rw [List.filterMap_cons, silent] at waits
    exact waits
  cases c with
  | onWorkspaceStatusChange n =>
    refine .inr ⟨?_, ?_, unchanged rfl⟩
    · exact ⟨rfl, rfl, rfl⟩
    · exact h.waits.templates
  | webUIResponse callbackId v =>
    cases callbackId with
    | string id => exact .inl ⟨id, v, rfl, h.response calls⟩
    | _ => exact .inr ⟨⟨rfl, rfl, rfl⟩, h.waits.templates, unchanged rfl⟩

/-- The page runs a call. -/
lemma Sound.deliver (h : s.Sound) {c : Call} {rest : List Call} (calls : s.calls = c :: rest) :
    Sound { s with calls := rest, page := s.page.run c } := by
  refine ⟨h.running, h.keys, h.allowed, ?_⟩
  obtain ⟨id, v, rfl, waits⟩ | ⟨same, empty, waits⟩ := h.next calls
  · exact waits.deliver
  · exact waits.sameTable same empty

/-- The page is not loaded again by the same handler while a launch goes on. -/
def LoadsIdle (s : PageSession) (e : Event) : Prop :=
  e = .load true → s.launches = []

variable {toLowerCase : String → String}

/-- Every step keeps the bookkeeping. -/
lemma Sound.step {e : Event} (h : s.Sound) (idle : LoadsIdle s e) (st : step env toLowerCase s e = some t) :
    t.Sound := by
  have st := (Option.ite_none_left_eq_some.mp st).2
  cases e with
  | act a =>
    cases st
    obtain ⟨q, same, empty, more, _⟩ := Page.act_extends toLowerCase h.waits.templates a
    exact ⟨h.running, h.keys, h.allowed, (h.waits.sameTable same empty).sends more⟩
  | receive d =>
    cases sent : s.page.sent with
    | nil => simp [sent] at st
    | cons m rest =>
      simp only [sent] at st
      cases st
      exact h.receive sent d
  | continueStart i launches now =>
    obtain ⟨⟨callbackId, l⟩, found, st⟩ := Option.bind_eq_some_iff.mp st
    cases st
    exact h.continueStart found launches now
  | deliver =>
    cases calls : s.calls with
    | nil => simp [calls] at st
    | cons c rest =>
      simp only [calls] at st
      cases st
      exact h.deliver calls
  | world e now =>
    obtain ⟨w, _, st⟩ := Option.bind_eq_some_iff.mp st
    cases st
    apply Sound.tell
    exact ⟨h.running, h.keys, h.allowed, h.waits⟩
  | store op =>
    cases st
    exact ⟨h.running, h.keys.apply op, h.allowed, h.waits⟩
  | load reused =>
    cases st
    have gone : (if reused then s.launches else []) = [] := by
      cases reused with
      | true => exact idle rfl
      | false => rfl
    rw [gone]
    exact ⟨h.running, h.keys, fun some => absurd rfl some, .loaded⟩

/-- A page that has just been opened. -/
lemma sound_start {store : WorkspaceStore} (keys : KeyId store.workspaces) (world : World) :
    (start store world).Sound :=
  ⟨rfl, keys, fun some => absurd rfl some, .loaded⟩

/-- The bookkeeping of a run. -/
lemma sound_of_run {store : WorkspaceStore} {world : World} {calls : List (WorkspaceStore × StoreOp)}
    {tr : List (PageSession × Event)} (before : Run WorkspaceStore.step {} calls store)
    (r : Run (step env toLowerCase) (start store world) tr s) (idle : Guarded LoadsIdle tr) : s.Sound :=
  r.invariant_guarded (fun h idle st => h.step idle st) (sound_start (keyId_of_run before) world) idle

/-- As long as the page is not loaded again while a launch goes on, no `CHECK` fails, and each promise of the page is on
its way exactly once: as the message that it was issued with, as the launch that this led to, or as an answer to it. -/
theorem callbacks_matched {store : WorkspaceStore} {world : World} {calls : List (WorkspaceStore × StoreOp)}
    {tr : List (PageSession × Event)} (before : Run WorkspaceStore.step {} calls store)
    (r : Run (step env toLowerCase) (start store world) tr s) (idle : Guarded LoadsIdle tr) :
    s.failed = false ∧ Matched Fits (fun id => s.page.callbackMap[id]?) s.carriers := by
  have sound := sound_of_run before r idle
  exact ⟨sound.running, sound.waits.matched⟩

end

/-- The steps without a command generator. -/
def plainStep : PageSession → Event → Option PageSession :=
  @step utcCalendar ApiServer.plainValues bareEnv id

/-- A page for a store with one workspace. -/
def oneCard : PageSession :=
  start ApiServer.oneWorkspace.backend.store {}

/-- What a handler draws. -/
def newDraws : Draws :=
  ⟨ApiServer.newDrawn, ApiServer.newDrawn, ⟨2⟩⟩

/-- The page is loaded, and its workspace is launched. -/
def launchFromPage : List Event := [
  .receive newDraws, .receive newDraws, .receive newDraws, .deliver, .deliver, .deliver, .receive newDraws, .deliver,
  .act (.launch ["a"]), .receive newDraws, .deliver, .receive newDraws]

/-- The page is loaded once, before the launch. -/
lemma loadsIdle_launchFromPage : Guarded LoadsIdle (trace plainStep oneCard launchFromPage) := by
  intro p mem reload
  have other := @Guarded.trace _ _ plainStep (· ≠ .load true) launchFromPage (by simp [launchFromPage]) oneCard p mem
  exact absurd reload other

/-- The store that holds one workspace. -/
lemma oneCard_created : @WorkspaceStore.step utcCalendar {}
    (.create { id := "a", name := "w" } ApiServer.newDrawn.id ApiServer.newDrawn.seed ApiServer.newDrawn.now) =
      some oneCard.state.store :=
  rfl

/-- A launch that goes on. -/
theorem callbacks_matched_launch :
    ∃ s, Run plainStep oneCard (trace plainStep oneCard launchFromPage) s ∧ s.failed = false ∧
      Matched (@Fits utcCalendar ApiServer.plainValues) (fun id => s.page.callbackMap[id]?) s.carriers := by
  obtain ⟨s, ex⟩ : ∃ s, exec plainStep oneCard launchFromPage = some s := ⟨_, rfl⟩
  exact ⟨s, Run.of_exec ex,
    @callbacks_matched utcCalendar ApiServer.plainValues _ _ _ _ _ _ _ (.single oneCard_created) (Run.of_exec ex)
      loadsIdle_launchFromPage⟩

/-- The same handler serves the page after a reload during a launch, and the callback of the launch fails. -/
theorem reload_fails : ∃ s,
    Run plainStep oneCard (trace plainStep oneCard (launchFromPage ++ [.load true, .continueStart 0 true ⟨3⟩])) s ∧
      s.failed = true := by
  obtain ⟨s, ex, failed⟩ : ∃ s, exec plainStep oneCard (launchFromPage ++ [.load true, .continueStart 0 true ⟨3⟩]) =
      some s ∧ s.failed = true := ⟨_, rfl, rfl⟩
  exact ⟨s, Run.of_exec ex, failed⟩

section
variable [TimeLib] [ValueLib] {s t : PageSession} {env : Env} {toLowerCase : String → String}

/-! ## The end of the promises -/

/-- The handler gets the next message, or the page runs the next call. -/
def Settles (env : Env) (toLowerCase : String → String) (s' s : PageSession) : Prop :=
  ∃ e, (e = .deliver ∨ ∃ d, e = .receive d) ∧ step env toLowerCase s e = some s'

/-- What is left to do with the promises as they are: the messages first, then the calls. -/
def work (s : PageSession) : ℕ ×ₗ ℕ :=
  toLex (s.page.sent.length, s.calls.length)

omit [TimeLib] [ValueLib] in
/-- A resolved promise is on its way; the page does not see it yet. -/
lemma resolve_page (s : PageSession) (callbackId v : Value) :
    (s.resolveJavascriptCallback callbackId v).page = s.page := by
  rw [resolveJavascriptCallback]
  split_ifs <;> rfl

/-- Nor does it see that a message was received. -/
lemma receive_page (s : PageSession) (m : PageMessage) (d : Draws) : (receive env s m d).page = s.page := by
  rw [receive]
  cases handle env s.state d m.args m.name with
  | none => rfl
  | some h =>
    obtain ⟨new, told, _⟩ := PageSession.tell_eq { s with state := h.state, javascriptAllowed := true } h.told
    dsimp only
    rw [told]
    cases h.reaction with
    | launch callbackId l => rfl
    | resolve callbackId v => exact resolve_page _ callbackId v

/-- What settles keeps the bookkeeping. -/
lemma Sound.settles {t : PageSession} (h : s.Sound) (settles : Settles env toLowerCase t s) : t.Sound := by
  obtain ⟨e, rfl | ⟨d, rfl⟩, st⟩ := settles
  · exact h.step (fun reload => absurd reload Event.noConfusion) st
  · exact h.step (fun reload => absurd reload Event.noConfusion) st

/-- What settles has less to do: the levels of the promises go down, or the work does. -/
lemma Sound.descends {t : PageSession} (h : s.Sound) (settles : Settles env toLowerCase t s) :
    Descends t.page.levels s.page.levels ∨ (t.page.levels = s.page.levels ∧ t.work < s.work) := by
  obtain ⟨e, rfl | ⟨d, rfl⟩, st⟩ := settles
  · have st := (Option.ite_none_left_eq_some.mp st).2
    cases calls : s.calls with
    | nil => simp [calls] at st
    | cons c rest =>
      simp only [calls] at st
      cases st
      obtain ⟨id, v, rfl, waits⟩ | ⟨same, _, _⟩ := h.next calls
      · exact .inl waits.levels_deliver
      · refine .inr ⟨?_, Prod.Lex.toLex_lt_toLex.mpr (.inr ⟨congrArg List.length same.sent, ?_⟩)⟩
        · show Page.levels (s.page.run c) = _
          rw [Page.levels, same.callbackMap]
          rfl
        · rw [calls]
          exact Nat.lt_succ_self _
  · have st := (Option.ite_none_left_eq_some.mp st).2
    cases sent : s.page.sent with
    | nil => simp [sent] at st
    | cons m rest =>
      simp only [sent] at st
      cases st
      refine .inr ⟨?_, Prod.Lex.toLex_lt_toLex.mpr (.inl ?_)⟩
      · rw [receive_page]
        rfl
      · rw [receive_page, sent]
        exact Nat.lt_succ_self _

/-- The first message can always be received. -/
lemma Sound.step_receive (h : s.Sound) {m : PageMessage} {rest : List PageMessage} (sent : s.page.sent = m :: rest)
    (d : Draws) : PageSession.step env toLowerCase s (.receive d) =
      some (PageSession.receive env { s with page := { s.page with sent := rest } } m d) := by
  rw [PageSession.step, h.running, if_neg Bool.false_ne_true]
  simp only [sent]

/-- The first call can always be delivered. -/
lemma Sound.step_deliver (h : s.Sound) {c : Call} {rest : List Call} (calls : s.calls = c :: rest) :
    PageSession.step env toLowerCase s .deliver = some { s with calls := rest, page := s.page.run c } := by
  rw [PageSession.step, h.running, if_neg Bool.false_ne_true]
  simp only [calls]

/-- Left to themselves, the handler and the page come to rest, whatever was on the way, and what waits then are the
callbacks of launches that go on. -/
theorem callbacks_settle {store : WorkspaceStore} {world : World} {calls : List (WorkspaceStore × StoreOp)}
    {tr : List (PageSession × Event)} (before : Run WorkspaceStore.step {} calls store)
    (r : Run (step env toLowerCase) (start store world) tr s) (idle : Guarded LoadsIdle tr) :
    Acc (Settles env toLowerCase) s ∧ ((∀ t, ¬ Settles env toLowerCase t s) ↔ s.Quiet) ∧
      (s.Quiet → ∀ id, id ∈ s.page.callbackMap ↔ id ∈ s.launches.map Prod.fst) := by
  have sound := sound_of_run before r idle
  refine ⟨?_, ?_, ?_⟩
  · exact acc_of_descends (fun s => s.page.levels) work (fun h st => h.settles st) (fun h st => h.descends st) sound
  · constructor
    · intro rest
      refine ⟨?_, ?_⟩
      · cases sent : s.page.sent with
        | nil => rfl
        | cons m _ => exact absurd ⟨_, .inr ⟨newDraws, rfl⟩, sound.step_receive sent newDraws⟩ (rest _)
      · cases calls : s.calls with
        | nil => rfl
        | cons c _ => exact absurd ⟨_, .inl rfl, sound.step_deliver calls⟩ (rest _)
    · rintro ⟨sent, calls⟩ t ⟨e, rfl | ⟨d, rfl⟩, st⟩
      · have st := (Option.ite_none_left_eq_some.mp st).2
        simp [calls] at st
      · have st := (Option.ite_none_left_eq_some.mp st).2
        simp [sent] at st
  · intro quiet id
    have matched := sound.waits.matched
    rw [Page.requests, others, quiet.1, quiet.2] at matched
    constructor
    · intro known
      obtain ⟨k, found⟩ := KeyedMap.mem_iff_exists_get.mp known
      simpa [launchCarrier] using matched.carried id k found
    · intro launched
      obtain ⟨l, mem, rfl⟩ := List.mem_map.mp launched
      obtain ⟨k, found, _⟩ := matched.waiting l.1 (.launch l.2) (by simpa using ⟨l.1, l.2, mem, rfl⟩)
      exact KeyedMap.mem_iff_exists_get.mpr ⟨k, found⟩

end

/-- A launch that goes on is left. -/
theorem callbacks_settle_launch :
    ∃ s, Run plainStep oneCard (trace plainStep oneCard launchFromPage) s ∧
      Acc (@Settles utcCalendar ApiServer.plainValues bareEnv id) s ∧
      ((∀ t, ¬ @Settles utcCalendar ApiServer.plainValues bareEnv id t s) ↔ s.Quiet) ∧
      (s.Quiet → ∀ id, id ∈ s.page.callbackMap ↔ id ∈ s.launches.map Prod.fst) := by
  obtain ⟨s, ex⟩ : ∃ s, exec plainStep oneCard launchFromPage = some s := ⟨_, rfl⟩
  exact ⟨s, Run.of_exec ex,
    @callbacks_settle utcCalendar ApiServer.plainValues _ _ _ _ _ _ _ (.single oneCard_created) (Run.of_exec ex)
      loadsIdle_launchFromPage⟩

end PageSession

end PureCloak.WebUI
