import PureCloak.Library.Machine
import PureCloak.Library.Observers
import PureCloak.Profiles.Store

/-!
# The side panel

`PureCloakSidePanelView`, which shows the workspaces of a store, and the dialogs that its buttons open. There may be
several views of one store, and other clients call the store at any time. A dialog is a window of its own, whose callback
holds a pointer to the view that opened it.

The views are observers of the store (`panel`). The store tells them of what clients do, but not of the list that it
reads from the disk: the views are current in every state of a run exactly when such a list changes nothing or comes
before them (`panels_current_iff`). A view that goes before its dialog leaves a dangling pointer behind; without that, a
run does to the store what the accepted dialogs and the other clients call, one after the other (`panels_refine`).
-/

namespace PureCloak.Views
open PureCloak.Base PureCloak.Profiles Machine Observers

/-! ## The list -/

/-- A card; its buttons have the id. -/
structure Card where
  type : WorkspaceType
  name : String
  id : String
deriving DecidableEq

/-- The children of `container_`: a label, or the cards. -/
inductive Contents where
  | noWorkspaces
  | cards (list : List Card)
deriving DecidableEq

/-- The ids in the callbacks of the buttons. -/
def Contents.ids : Contents → List String
  | .noWorkspaces => []
  | .cards list => list.map Card.id

section
variable [TimeLib]

/-- `RebuildWorkspaceList`. -/
def rebuildWorkspaceList (store : WorkspaceStore) : Contents :=
  let workspaces := store.getAllWorkspaces
  if workspaces.isEmpty then .noWorkspaces else .cards (workspaces.map fun ws => ⟨ws.type, ws.name, ws.id⟩)

/-- Whether a call on the store runs `OnWorkspacesChanged`. -/
def notifies (store : WorkspaceStore) : StoreOp → Bool
  | .create _ _ _ _ => true
  | .rename id newName now => (store.updateWorkspaceName id newName now).2
  | .update ws now => (store.updateWorkspace ws now).2
  | .delete id => (store.deleteWorkspace id).2
  | .flush => false
  | .init => false
  | .onInitData _ => false

/-- The store with its views; `OnWorkspacesChanged` is `RebuildWorkspaceList`. -/
def panel : Subject WorkspaceStore StoreOp Contents where
  apply := WorkspaceStore.apply
  notifies := notifies
  display := rebuildWorkspaceList

end

/-! ## The dialogs -/

/-- A dialog with what its callback keeps and reads. -/
inductive Dialog where
  | createWorkspace (nameField : String) (selectedIndex : ℕ)
  | renameWorkspace (workspaceId nameField : String)
  | deleteWorkspace (workspaceId : String)

/-- The views, numbered one after the other, and the open dialogs, each with the number of the view that it points to. -/
structure SidePanels where
  observed : Observed WorkspaceStore Contents
  nextView : ℕ := 0
  dialogs : List (ℕ × Dialog) := []
  /-- A pointer to a view that is gone was used. -/
  dangling : Bool := false

/-- What happens to the views, the dialogs and the store. -/
inductive PanelEvent where
  | construct
  | destroy (view : ℕ)
  | createClicked (view : ℕ)
  | renameClicked (view : ℕ) (id : String)
  | deleteClicked (view : ℕ) (id : String)
  | enterName (i : ℕ) (name : String)
  | selectType (i index : ℕ)
  /-- With what `CreateBasic` and the store draw. -/
  | accept (i : ℕ) (basic stored : Drawn)
  | cancel (i : ℕ)
  /-- A call by another client, or the reply to `Init`. -/
  | other (op : StoreOp)

/-- The text of the name field is changed; the dialog that asks before a deletion has none. -/
def Dialog.enterName (name : String) : Dialog → Dialog
  | .createWorkspace _ index => .createWorkspace name index
  | .renameWorkspace id _ => .renameWorkspace id name
  | .deleteWorkspace id => .deleteWorkspace id

/-- The type is selected. -/
def Dialog.selectType (index : ℕ) : Dialog → Dialog
  | .createWorkspace name _ => .createWorkspace name index
  | .renameWorkspace id name => .renameWorkspace id name
  | .deleteWorkspace id => .deleteWorkspace id

/-- The call on the store of a dialog that is accepted; an empty name is none. -/
def Dialog.call (basic stored : Drawn) : Dialog → Option StoreOp
  | .createWorkspace name index =>
    if name = "" then none
    else
      let type := if index = 1 then .kFingerprint else .kNormal
      some (.create (Workspace.createBasic name type basic.id basic.seed basic.now) stored.id stored.seed stored.now)
  | .renameWorkspace id name => if name = "" then none else some (.rename id name stored.now)
  | .deleteWorkspace id => some (.delete id)

/-- The callback of the dialog for a new workspace rebuilds the list of its view. -/
def Dialog.rebuilds : Dialog → Bool
  | .createWorkspace _ _ => true
  | .renameWorkspace _ _ => false
  | .deleteWorkspace _ => false

namespace SidePanels

/-- There is a card with this id in a view. -/
def HasCard (s : SidePanels) (view : ℕ) (id : String) : Prop :=
  ∃ v ∈ s.observed.views, v.1 = view ∧ id ∈ v.2.ids

instance (s : SidePanels) (view : ℕ) (id : String) : Decidable (s.HasCard view id) :=
  inferInstanceAs (Decidable (∃ v ∈ s.observed.views, _))

/-- `OnCreateWorkspaceClicked`. -/
def onCreateWorkspaceClicked (s : SidePanels) (view : ℕ) : SidePanels :=
  { s with dialogs := s.dialogs ++ [(view, .createWorkspace "" 0)] }

/-- `OnRenameWorkspace`. -/
def onRenameWorkspace (s : SidePanels) (view : ℕ) (id : String) : SidePanels :=
  match s.observed.state.getWorkspace id with
  | none => s
  | some ws => { s with dialogs := s.dialogs ++ [(view, .renameWorkspace id ws.name)] }

/-- `OnDeleteWorkspace`. -/
def onDeleteWorkspace (s : SidePanels) (view : ℕ) (id : String) : SidePanels :=
  match s.observed.state.getWorkspace id with
  | none => s
  | some _ => { s with dialogs := s.dialogs ++ [(view, .deleteWorkspace id)] }

section
variable [TimeLib]

/-- A call on the store. -/
def callStore (s : SidePanels) (op : StoreOp) : SidePanels :=
  { s with observed := s.observed.call panel op }

/-- The callback of a dialog; the view is needed for the call on the store. -/
def accepted (s : SidePanels) (view : ℕ) (dialog : Dialog) (basic stored : Drawn) : SidePanels :=
  match dialog.call basic stored with
  | none => s
  | some op =>
    if s.observed.Attached view then
      let s := s.callStore op
      if dialog.rebuilds then { s with observed := s.observed.refresh panel view } else s
    else { s with dangling := true }

/-- What an event does. -/
def perform (s : SidePanels) : PanelEvent → Option SidePanels
  | .construct => some { s with observed := s.observed.attach panel s.nextView, nextView := s.nextView + 1 }
  | .destroy view => if s.observed.Attached view then some { s with observed := s.observed.detach view } else none
  | .createClicked view => if s.observed.Attached view then some (s.onCreateWorkspaceClicked view) else none
  | .renameClicked view id => if s.HasCard view id then some (s.onRenameWorkspace view id) else none
  | .deleteClicked view id => if s.HasCard view id then some (s.onDeleteWorkspace view id) else none
  | .enterName i name => some { s with dialogs := s.dialogs.modify i fun d => (d.1, d.2.enterName name) }
  | .selectType i index => some { s with dialogs := s.dialogs.modify i fun d => (d.1, d.2.selectType index) }
  | .accept i basic stored =>
    (s.dialogs[i]?).map fun d => { s with dialogs := s.dialogs.eraseIdx i }.accepted d.1 d.2 basic stored
  | .cancel i => (s.dialogs[i]?).map fun _ => { s with dialogs := s.dialogs.eraseIdx i }
  | .other op => some (s.callStore op)

/-- One step; there is none after a dangling pointer was used. -/
def step (s : SidePanels) (e : PanelEvent) : Option SidePanels :=
  if s.dangling then none else s.perform e

end

/-- A store before there are views of it. -/
def start (store : WorkspaceStore) : SidePanels where
  observed := { state := store }

/-! ## Views and the list -/

/-- Each view shows the list of the store. -/
def Current [TimeLib] (s : SidePanels) : Prop :=
  s.observed.Current panel

/-- The list that is read from the disk changes nothing that is shown, or there are no views yet. -/
def Announced [TimeLib] (s : SidePanels) : PanelEvent → Prop
  | .other (.onInitData dict) =>
    rebuildWorkspaceList (s.observed.state.onInitData dict) = rebuildWorkspaceList s.observed.state ∨ s.observed.views = []
  | _ => True

section
variable [TimeLib] {s t : SidePanels} {e : PanelEvent}

/-- Only panels without a dangling callback take a step. -/
lemma perform_of_step (st : s.step e = some t) : s.dangling = false ∧ s.perform e = some t := by
  rw [step, Option.ite_none_left_eq_some, Bool.not_eq_true] at st
  exact st

/-- Calls of clients that the views are not told of change nothing. -/
lemma display_of_silent {store : WorkspaceStore} {op : StoreOp} (silent : notifies store op = false)
    (client : ∀ dict, op ≠ .onInitData dict) : rebuildWorkspaceList (store.apply op) = rebuildWorkspaceList store := by
  cases op with
  | create ws newId newSeed now => cases silent
  | rename id newName now =>
    rw [notifies, WorkspaceStore.updateWorkspaceName] at silent
    rw [WorkspaceStore.apply, WorkspaceStore.updateWorkspaceName]
    cases h : store.workspaces[id]? with
    | none => rfl
    | some ws =>
      rw [h] at silent
      cases silent
  | update ws now =>
    rw [notifies, WorkspaceStore.updateWorkspace] at silent
    rw [WorkspaceStore.apply, WorkspaceStore.updateWorkspace]
    cases h : store.workspaces[ws.id]? with
    | none => rfl
    | some old =>
      rw [h] at silent
      cases silent
  | delete id =>
    rw [notifies, WorkspaceStore.deleteWorkspace] at silent
    rw [WorkspaceStore.apply, WorkspaceStore.deleteWorkspace]
    cases h : store.workspaces[id]? with
    | none => rfl
    | some ws =>
      rw [h] at silent
      cases silent
  | flush => rfl
  | init => rfl
  | onInitData dict => exact absurd rfl (client dict)

/-- The call of a client tells the observers. -/
lemma honest_of_client {op : StoreOp} (client : ∀ dict, op ≠ .onInitData dict) : s.observed.Honest panel op :=
  fun silent => .inl (display_of_silent silent client)

/-- A call tells the observers when it is announced. -/
lemma honest_iff (op : StoreOp) : s.observed.Honest panel op ↔ s.Announced (.other op) := by
  cases op with
  | onInitData dict => exact ⟨fun honest => honest rfl, fun announced _ => announced⟩
  | create ws newId newSeed now => exact iff_of_true (honest_of_client (by simp)) trivial
  | rename id newName now => exact iff_of_true (honest_of_client (by simp)) trivial
  | update ws now => exact iff_of_true (honest_of_client (by simp)) trivial
  | delete id => exact iff_of_true (honest_of_client (by simp)) trivial
  | flush => exact iff_of_true (honest_of_client (by simp)) trivial
  | init => exact iff_of_true (honest_of_client (by simp)) trivial

omit [TimeLib] in
/-- A dialog makes the calls of a client. -/
lemma client_of_call {d : Dialog} {basic stored : Drawn} {op : StoreOp} (called : d.call basic stored = some op) :
    ∀ dict, op ≠ .onInitData dict := by
  rintro dict rfl
  cases d with
  | createWorkspace name index =>
    rw [Dialog.call, Option.ite_none_left_eq_some] at called
    cases called.2
  | renameWorkspace id name =>
    rw [Dialog.call, Option.ite_none_left_eq_some] at called
    cases called.2
  | deleteWorkspace id => cases called

/-- The callback of a dialog leaves the views current. -/
lemma Current.accepted (h : s.Current) (view : ℕ) (d : Dialog) (basic stored : Drawn) :
    (s.accepted view d basic stored).Current := by
  rw [SidePanels.accepted]
  cases called : d.call basic stored with
  | none => exact h
  | some op =>
    have current : (s.callStore op).Current :=
      (Observed.current_call_iff h op).mpr (honest_of_client (client_of_call called))
    dsimp only
    split_ifs
    · exact Observed.Current.refresh current view
    · exact current
    · exact h

/-- A step keeps the views current exactly when it is announced. -/
lemma current_step_iff (h : s.Current) (st : s.step e = some t) : t.Current ↔ s.Announced e := by
  obtain ⟨_, st⟩ := perform_of_step st
  cases e with
  | construct =>
    cases st
    exact iff_of_true (Observed.Current.attach h s.nextView) trivial
  | destroy view =>
    obtain ⟨_, ⟨⟩⟩ := Option.ite_none_right_eq_some.mp st
    exact iff_of_true (Observed.Current.detach h view) trivial
  | createClicked view =>
    obtain ⟨_, ⟨⟩⟩ := Option.ite_none_right_eq_some.mp st
    exact iff_of_true h trivial
  | renameClicked view id =>
    obtain ⟨_, ⟨⟩⟩ := Option.ite_none_right_eq_some.mp st
    refine iff_of_true ?_ trivial
    rw [onRenameWorkspace]
    split
    · exact h
    · exact h
  | deleteClicked view id =>
    obtain ⟨_, ⟨⟩⟩ := Option.ite_none_right_eq_some.mp st
    refine iff_of_true ?_ trivial
    rw [onDeleteWorkspace]
    split
    · exact h
    · exact h
  | enterName i name =>
    cases st
    exact iff_of_true h trivial
  | selectType i index =>
    cases st
    exact iff_of_true h trivial
  | accept i basic stored =>
    obtain ⟨d, _, rfl⟩ := Option.map_eq_some_iff.mp st
    exact iff_of_true (Current.accepted (s := { s with dialogs := s.dialogs.eraseIdx i }) h d.1 d.2 basic stored) trivial
  | cancel i =>
    obtain ⟨d, _, rfl⟩ := Option.map_eq_some_iff.mp st
    exact iff_of_true h trivial
  | other op =>
    cases st
    exact (Observed.current_call_iff h op).trans (honest_iff op)

/-- In every run each view shows the list of the store all the time exactly when the list that is read from the disk
changes nothing that is shown, or comes before there are views. -/
theorem panels_current_iff {store : WorkspaceStore} {tr : List (SidePanels × PanelEvent)}
    (r : Run step (start store) tr s) : Always Current tr s ↔ Guarded Announced tr := by
  have first : (start store).Current := fun v mem => by cases mem
  exact r.always_iff (I := fun _ => True) (fun _ _ => trivial) (fun _ h st => current_step_iff h st) trivial first

end

/-- What is drawn for a workspace. -/
def drawnOnce : Drawn :=
  ⟨"a", ⟨23457, by decide, by decide⟩, ⟨1⟩⟩

/-- A workspace is created and renamed in a view. -/
def createsAndRenames : List PanelEvent := [
  .construct, .createClicked 0, .enterName 0 "w", .accept 0 drawnOnce drawnOnce,
  .renameClicked 0 "a", .enterName 0 "v", .accept 0 drawnOnce drawnOnce]

/-- What is on the disk: one workspace. -/
def onDisk : DictValue :=
  DictValue.ofFields [(kWorkspacesKey, some (.list [.dict
    (DictValue.ofFields [("id", some (.string "b")), ("name", some (.string "w"))])]))]

/-- The reply to `Init` comes before there is a view. -/
def loadsFirst : List PanelEvent :=
  .other (.onInitData (some onDisk)) :: createsAndRenames

/-- The views then show the workspace from the disk as well. -/
theorem panels_current_iff_renamed : ∃ s, Run step (start {}) (trace step (start {}) loadsFirst) s ∧
    (Always Current (trace step (start {}) loadsFirst) s ↔ Guarded Announced (trace step (start {}) loadsFirst)) ∧
    s.observed.views.map (fun v => v.2.ids) = [["a", "b"]] := by
  obtain ⟨s, ex, ids⟩ : ∃ s, exec step (start {}) loadsFirst = some s ∧
      s.observed.views.map (fun v => v.2.ids) = [["a", "b"]] := ⟨_, rfl, rfl⟩
  have run := Run.of_exec ex
  exact ⟨s, run, panels_current_iff run, ids⟩

/-- A view that comes before the reply to `Init` says that there are no workspaces. -/
theorem panels_stale : ∃ s, exec step (start {}) [.construct, .other (.onInitData (some onDisk))] = some s ∧
    s.observed.views = [(0, .noWorkspaces)] ∧ rebuildWorkspaceList s.observed.state = .cards [⟨.kNormal, "w", "b"⟩] := by
  refine ⟨_, rfl, rfl, ?_⟩
  decide

/-! ## Dialogs and the store -/

/-- The calls on the store that an event makes. -/
def storeCalls (s : SidePanels) : PanelEvent → List StoreOp
  | .accept i basic stored => ((s.dialogs[i]?).bind fun d => d.2.call basic stored).toList
  | .other op => [op]
  | _ => []

/-- No view is destroyed while a dialog points to it. -/
def Undisturbed (s : SidePanels) : PanelEvent → Prop
  | .destroy view => view ∉ s.dialogs.map Prod.fst
  | _ => True

/-- Each dialog points to a view that is there. -/
structure Anchored (s : SidePanels) : Prop where
  running : s.dangling = false
  attached : ∀ view ∈ s.dialogs.map Prod.fst, s.observed.Attached view

section
variable [TimeLib] {s t : SidePanels} {e : PanelEvent}

omit [TimeLib] in
/-- Fewer dialogs are as anchored. -/
lemma Anchored.of_sublist (h : s.Anchored) {dialogs : List (ℕ × Dialog)}
    (sub : (dialogs.map Prod.fst).Sublist (s.dialogs.map Prod.fst)) : { s with dialogs := dialogs }.Anchored :=
  ⟨h.running, fun view mem => h.attached view (sub.subset mem)⟩

omit [TimeLib] in
/-- A field that is changed leaves the pointers. -/
lemma views_modify (dialogs : List (ℕ × Dialog)) (i : ℕ) (change : Dialog → Dialog) :
    (dialogs.modify i fun d => (d.1, change d.2)).map Prod.fst = dialogs.map Prod.fst := by
  induction dialogs generalizing i with
  | nil => rw [List.modify_nil]
  | cons d dialogs ih =>
    cases i with
    | zero => rfl
    | succ i => exact congrArg (d.1 :: ·) (ih i)

omit [TimeLib] in
/-- A dialog that a view opens is anchored. -/
lemma Anchored.opened (h : s.Anchored) {view : ℕ} (there : s.observed.Attached view) (d : Dialog) :
    { s with dialogs := s.dialogs ++ [(view, d)] }.Anchored := by
  refine ⟨h.running, fun w mem => ?_⟩
  rw [List.map_append, List.mem_append] at mem
  cases mem with
  | inl mem => exact h.attached w mem
  | inr mem => exact List.mem_singleton.mp mem ▸ there

omit [TimeLib] in
/-- A view that shows a card is attached. -/
lemma HasCard.attached {view : ℕ} {id : String} (card : s.HasCard view id) : s.observed.Attached view := by
  obtain ⟨v, mem, rfl, _⟩ := card
  exact List.mem_map_of_mem mem

/-- A call on the store keeps the views where they are. -/
lemma Anchored.callStore (h : s.Anchored) (op : StoreOp) : (s.callStore op).Anchored :=
  ⟨h.running, fun view mem => (Observed.attached_call op view).mpr (h.attached view mem)⟩

/-- The callback of a dialog of a view that is there makes its call. -/
lemma Anchored.accepted (h : s.Anchored) {view : ℕ} (there : s.observed.Attached view) (d : Dialog)
    (basic stored : Drawn) : (s.accepted view d basic stored).Anchored ∧
      (s.accepted view d basic stored).observed.state =
        (d.call basic stored).toList.foldl WorkspaceStore.apply s.observed.state := by
  rw [SidePanels.accepted]
  cases d.call basic stored with
  | none => exact ⟨h, rfl⟩
  | some op =>
    have after := h.callStore op
    dsimp only
    rw [if_pos there]
    split_ifs
    · refine ⟨⟨after.running, fun w mem => ?_⟩, rfl⟩
      exact (Observed.attached_refresh view w).mpr (after.attached w mem)
    · exact ⟨after, rfl⟩

/-- Calls on the store, one after the other. -/
lemma run_foldl (store : WorkspaceStore) (ops : List StoreOp) :
    ∃ calls, Run WorkspaceStore.step store calls (ops.foldl WorkspaceStore.apply store) ∧ calls.map Prod.snd = ops := by
  induction ops generalizing store with
  | nil => exact ⟨[], .nil, rfl⟩
  | cons op ops ih =>
    obtain ⟨calls, run, made⟩ := ih (store.apply op)
    have first : Run WorkspaceStore.step store [(store, op)] (store.apply op) := Run.single rfl
    exact ⟨(store, op) :: calls, first.append run, congrArg (op :: ·) made⟩

/-- A step keeps the dialogs anchored, and makes its calls. -/
lemma Anchored.step (h : s.Anchored) (calm : s.Undisturbed e) (st : s.step e = some t) :
    t.Anchored ∧ t.observed.state = (s.storeCalls e).foldl WorkspaceStore.apply s.observed.state := by
  obtain ⟨_, st⟩ := perform_of_step st
  cases e with
  | construct =>
    cases st
    exact ⟨⟨h.running, fun view mem => (Observed.attached_attach _ view).mpr (.inl (h.attached view mem))⟩, rfl⟩
  | destroy view =>
    obtain ⟨_, ⟨⟩⟩ := Option.ite_none_right_eq_some.mp st
    refine ⟨⟨h.running, fun w mem => (Observed.attached_detach view w).mpr ⟨h.attached w mem, ?_⟩⟩, rfl⟩
    rintro rfl
    exact calm mem
  | createClicked view =>
    obtain ⟨there, ⟨⟩⟩ := Option.ite_none_right_eq_some.mp st
    exact ⟨h.opened there _, rfl⟩
  | renameClicked view id =>
    obtain ⟨card, ⟨⟩⟩ := Option.ite_none_right_eq_some.mp st
    rw [onRenameWorkspace]
    split
    · exact ⟨h, rfl⟩
    · exact ⟨h.opened card.attached _, rfl⟩
  | deleteClicked view id =>
    obtain ⟨card, ⟨⟩⟩ := Option.ite_none_right_eq_some.mp st
    rw [onDeleteWorkspace]
    split
    · exact ⟨h, rfl⟩
    · exact ⟨h.opened card.attached _, rfl⟩
  | enterName i name =>
    cases st
    exact ⟨h.of_sublist ((views_modify s.dialogs i _) ▸ .refl _), rfl⟩
  | selectType i index =>
    cases st
    exact ⟨h.of_sublist ((views_modify s.dialogs i _) ▸ .refl _), rfl⟩
  | accept i basic stored =>
    obtain ⟨d, found, rfl⟩ := Option.map_eq_some_iff.mp st
    have there := h.attached d.1 (List.mem_map_of_mem (List.mem_of_getElem? found))
    have rest := h.of_sublist ((List.eraseIdx_sublist s.dialogs i).map Prod.fst)
    rw [storeCalls, found]
    exact rest.accepted there d.2 basic stored
  | cancel i =>
    obtain ⟨d, _, rfl⟩ := Option.map_eq_some_iff.mp st
    exact ⟨h.of_sublist ((List.eraseIdx_sublist s.dialogs i).map Prod.fst), rfl⟩
  | other op =>
    cases st
    exact ⟨h.callStore op, rfl⟩

/-- As long as no view goes before its dialogs, no dangling pointer is used, and the store is as the accepted dialogs and
the other clients leave it, one call after the other. -/
theorem panels_refine {store : WorkspaceStore} {tr : List (SidePanels × PanelEvent)}
    (r : Run SidePanels.step (start store) tr s) (calm : Guarded Undisturbed tr) :
    s.dangling = false ∧ ∃ calls, Run WorkspaceStore.step store calls s.observed.state ∧
      calls.map Prod.snd = tr.flatMap fun p => p.1.storeCalls p.2 := by
  have anchored : s.Anchored ∧ ∃ calls, Run WorkspaceStore.step store calls s.observed.state ∧
      calls.map Prod.snd = tr.flatMap fun p => p.1.storeCalls p.2 := by
    induction r with
    | nil => exact ⟨⟨rfl, fun view mem => by cases mem⟩, [], .nil, rfl⟩
    | @snoc tr s e t _ st ih =>
      obtain ⟨before, own⟩ := Guarded.append.mp calm
      obtain ⟨h, calls, run, made⟩ := ih before
      obtain ⟨after, state⟩ := h.step (Guarded.singleton.mp own) st
      obtain ⟨more, run', made'⟩ := run_foldl s.observed.state (s.storeCalls e)
      refine ⟨after, calls ++ more, state ▸ run.append run', ?_⟩
      rw [List.map_append, made, made', List.flatMap_append, List.flatMap_singleton]
  exact ⟨anchored.1.running, anchored.2⟩

end

/-- The dialogs of a view that stays. -/
theorem panels_refine_renamed : ∃ s, Run SidePanels.step (start {})
      (trace SidePanels.step (start {}) createsAndRenames) s ∧ s.dangling = false ∧
    ∃ calls, Run WorkspaceStore.step {} calls s.observed.state ∧
      calls.map Prod.snd =
        (trace SidePanels.step (start {}) createsAndRenames).flatMap fun p => p.1.storeCalls p.2 := by
  obtain ⟨s, ex⟩ : ∃ s, exec SidePanels.step (start {}) createsAndRenames = some s := ⟨_, rfl⟩
  have run := Run.of_exec ex
  have stays : ∀ e ∈ createsAndRenames, ∀ view, e ≠ .destroy view := by
    intro e mem view own
    subst own
    simp [createsAndRenames] at mem
  have calm : Guarded Undisturbed (trace SidePanels.step (start {}) createsAndRenames) := by
    intro p mem
    have stays := Guarded.trace stays (start {}) p mem
    cases own : p.2 with
    | destroy view => exact absurd own (stays view)
    | _ => trivial
  exact ⟨s, run, panels_refine run calm⟩

/-- A view goes before the dialog for a new workspace. -/
theorem dialog_dangles : ∃ s, exec SidePanels.step (start {})
    [.construct, .createClicked 0, .enterName 0 "w", .destroy 0, .accept 0 drawnOnce drawnOnce] = some s ∧
    s.dangling = true :=
  ⟨_, rfl, rfl⟩

end SidePanels

end PureCloak.Views
