import PureCloak.Content.CDPWebSocketClient

/-!
# The target to attach to

What `GetPageWebSocketUrl` makes of the list of targets that a debugging port answers with. `preferred` is what it is
for: the address of the first page, or else of the first target that has one. A target that is no dictionary has none,
but `GetDict` fails its `CHECK` on it, so that the browser ends when one stands in front of the page
(`getPageWebSocketUrl_iff`).
-/

namespace PureCloak.Content
open PureCloak.Base WebSocket

/-- The address of a target that is a dictionary, of those that a test takes, when it is not empty. -/
def addressIf (test : DictValue → Bool) : Value → Option String
  | .dict target =>
    if test target then (DictValue.findString target "webSocketDebuggerUrl").filter (· ≠ "") else none
  | _ => none

/-- The address of a page. -/
def pageAddress : Value → Option String :=
  addressIf isPage

/-- The address of any target. -/
def anyAddress : Value → Option String :=
  addressIf fun _ => true

/-- The first page with an address, else the first target with one, else nothing. -/
def preferred (targets : ListValue) : String :=
  ((targets.findSome? pageAddress).or (targets.findSome? anyAddress)).getD ""

/-- The targets in front of the first one with an address, of those that a test takes. -/
def skipped (test : DictValue → Bool) (targets : ListValue) : ListValue :=
  targets.takeWhile fun target => (addressIf test target).isNone

/-- All of them are dictionaries. -/
def Dictionaries (targets : ListValue) : Prop :=
  ∀ target ∈ targets, target.getIfDict.isSome

instance (targets : ListValue) : Decidable (Dictionaries targets) :=
  inferInstanceAs (Decidable (∀ target ∈ targets, _))

/-- Targets are dictionaries when each of them is. -/
lemma dictionaries_cons {target : Value} {targets : ListValue} :
    Dictionaries (target :: targets) ↔ target.getIfDict.isSome ∧ Dictionaries targets :=
  List.forall_mem_cons

/-- The first address is that of the first target that has one. -/
lemma firstUrl_dict (test : DictValue → Bool) (target : DictValue) (targets : ListValue) :
    firstUrl test (.dict target :: targets) =
      (addressIf test (.dict target)).elim (firstUrl test targets) fun url => some (some url) := by
  rw [firstUrl, addressIf]
  cases test target with
  | false => rfl
  | true =>
    cases DictValue.findString target "webSocketDebuggerUrl" with
    | none => rfl
    | some url => by_cases empty : url = "" <;> simp [Option.filter, empty]

/-- One loop over the targets. -/
lemma firstUrl_eq (test : DictValue → Bool) (targets : ListValue) :
    firstUrl test targets =
      if Dictionaries (skipped test targets) then some (targets.findSome? (addressIf test)) else none := by
  induction targets with
  | nil => rfl
  | cons target targets ih =>
    cases target with
    | dict target =>
      rw [firstUrl_dict, skipped, List.takeWhile_cons, List.findSome?_cons]
      cases addressIf test (.dict target) with
      | none =>
        simp only [Option.isNone_none, ↓reduceIte, dictionaries_cons]
        exact ih.trans (if_congr (by simp [Value.getIfDict, skipped]) rfl rfl)
      | some url => exact (if_pos (fun _ h => absurd h List.not_mem_nil)).symm
    | _ => exact (if_neg fun h => absurd (h _ List.mem_cons_self) Bool.false_ne_true).symm

/-- The targets in the body of a response; an empty body has none. -/
def targetsOf [JSONReader] (body : Bytes) : ListValue :=
  if body.isEmpty then [] else ((JSONReader.read body).bind Value.getIfList).getD []

/-- The two loops, of which the second one follows when there is no page. -/
lemma getPageWebSocketUrl_eq [JSONReader] (connection : Option Connection) (port : Int) :
    getPageWebSocketUrl connection port =
      (firstUrl isPage (targetsOf (httpGet connection port "/json"))).bind fun page =>
        page.elim ((firstUrl (fun _ => true) (targetsOf (httpGet connection port "/json"))).map (·.getD "")) some := by
  rw [getPageWebSocketUrl, targetsOf]
  cases (httpGet connection port "/json").isEmpty with
  | true => rfl
  | false =>
    cases JSONReader.read (httpGet connection port "/json") with
    | none => rfl
    | some json =>
      cases json with
      | list targets =>
        show (firstUrl isPage targets).bind _ = (firstUrl isPage targets).bind _
        apply congrArg
        funext page
        cases page with
        | some url => rfl
        | none =>
          show (firstUrl (fun _ => true) targets).bind _ = (firstUrl (fun _ => true) targets).map _
          cases firstUrl (fun _ => true) targets <;> rfl
      | _ => rfl

/-- What is skipped are dictionaries. -/
lemma Dictionaries.skipped {targets : ListValue} (h : Dictionaries targets) (test : DictValue → Bool) :
    Dictionaries (skipped test targets) :=
  fun target mem => h target ((List.takeWhile_sublist _).subset mem)

/-- The browser gets the address it looks for, unless something that is no dictionary stands in front of the first page
with an address, or anywhere when there is none. -/
theorem getPageWebSocketUrl_iff [JSONReader] (connection : Option Connection) (port : Int) :
    getPageWebSocketUrl connection port = some (preferred (targetsOf (httpGet connection port "/json"))) ↔
      Dictionaries (skipped isPage (targetsOf (httpGet connection port "/json"))) := by
  rw [getPageWebSocketUrl_eq, firstUrl_eq, firstUrl_eq, preferred]
  generalize targetsOf (httpGet connection port "/json") = targets
  refine ⟨fun found => ?_, fun dictionaries => ?_⟩
  · apply Classical.byContradiction
    intro not
    rw [if_neg not] at found
    cases found
  · rw [if_pos dictionaries]
    cases page : targets.findSome? (addressIf isPage) with
    | some url =>
      show some url = some _
      rw [pageAddress, page]
      rfl
    | none =>
      have whole : skipped isPage targets = targets := by
        rw [skipped, List.takeWhile_eq_self_iff]
        intro target mem
        exact Option.isNone_iff_eq_none.mpr (List.findSome?_eq_none_iff.mp page target mem)
      have all : Dictionaries targets := whole ▸ dictionaries
      show Option.map _ _ = some _
      rw [if_pos (all.skipped _), pageAddress, page]
      rfl

/-- A port that answers with the list `[0]`. -/
def numberConnection : Connection :=
  { fd := 7, inbound := [utf8 "HTTP/1.1 200 OK\r\n\r\n[0]"] }

@[reducible]
def numberReader : JSONReader :=
  tableReader [(utf8 "[0]", .list [.integer 0])]

/-- There is no target to attach to, and the browser ends. -/
theorem getPageWebSocketUrl_fails :
    @getPageWebSocketUrl numberReader (some numberConnection) 9333 = none ∧
    preferred (@targetsOf numberReader (httpGet (some numberConnection) 9333 "/json")) = "" := by
  decide

end PureCloak.Content
