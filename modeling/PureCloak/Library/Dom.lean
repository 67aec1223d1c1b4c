import PureCloak.Library.Html

/-!
# Elements by their ids

What a script does to the nodes of a document: it looks for the first element with an id and puts other nodes into it
(`setInner`).
-/

namespace Html

/-- Attributes are compared with their names and values. -/
local instance lawfulBEq_attribute : LawfulBEq (String × String) :=
  inferInstance

mutual

/-- The first element of a node that has an id gets other children. -/
def Node.setInner (id : String) (new : List Node) : Node → Option Node
  | .char _ => none
  | .element name attributes children =>
    if ("id", id) ∈ attributes then some (.element name attributes new)
    else (setInner id new children).map (.element name attributes)

/-- The first element that has an id, in the order of the document, gets other children. -/
def setInner (id : String) (new : List Node) : List Node → Option (List Node)
  | [] => none
  | node :: nodes =>
    match node.setInner id new with
    | some node => some (node :: nodes)
    | none => (setInner id new nodes).map (node :: ·)

end

/-- There is an element with this id. -/
def HasId (id : String) (nodes : List Node) : Prop :=
  ∃ e ∈ elements nodes, ("id", id) ∈ e.2

instance (id : String) (nodes : List Node) : Decidable (HasId id nodes) :=
  inferInstanceAs (Decidable (∃ e ∈ elements nodes, ("id", id) ∈ e.2))

/-- No element has an id. -/
def NoIds (nodes : List Node) : Prop :=
  ∀ e ∈ elements nodes, "id" ∉ e.2.map Prod.fst

section
variable {id : String} {new m n : List Node}

/-- Without an id, no element is found. -/
lemma NoIds.not_hasId (none : NoIds n) : ¬ HasId id n := by
  rintro ⟨e, mem, own⟩
  exact none e mem (List.mem_map.mpr ⟨_, own, rfl⟩)

/-- An element is in one of two parts. -/
lemma hasId_append : HasId id (m ++ n) ↔ HasId id m ∨ HasId id n := by
  simp only [HasId, elements_append, List.mem_append, or_and_right, exists_or]

/-- An element has the id, or one that is in it does. -/
lemma hasId_element {name : String} {attributes : List (String × String)} {children rest : List Node} :
    HasId id (.element name attributes children :: rest) ↔
      ("id", id) ∈ attributes ∨ HasId id children ∨ HasId id rest := by
  simp only [HasId, elements, Node.elements, List.cons_append, List.mem_cons, List.mem_append, or_and_right,
    exists_or, exists_eq_left]

mutual

/-- Where no element of a node has the id, it stays as it is. -/
lemma Node.setInner_eq_none {id : String} {new : List Node} :
    (node : Node) → ¬ HasId id [node] → node.setInner id new = none
  | .char _, _ => rfl
  | .element name attributes children, other => by
    rw [hasId_element, not_or, not_or] at other
    rw [Node.setInner, if_neg other.1, Html.setInner_eq_none children other.2.1, Option.map_none]

/-- Where no element has the id, the nodes stay as they are. -/
lemma setInner_eq_none {id : String} {new : List Node} :
    (nodes : List Node) → ¬ HasId id nodes → setInner id new nodes = none
  | [], _ => rfl
  | node :: nodes, other => by
    have parts := (not_congr (@hasId_append id [node] nodes)).mp other
    rw [not_or] at parts
    rw [setInner, Node.setInner_eq_none node parts.1]
    show (setInner id new nodes).map _ = none
    rw [setInner_eq_none nodes parts.2, Option.map_none]

end

/-- What is in front of the element stays as it is. -/
lemma setInner_append (other : ¬ HasId id m) : setInner id new (m ++ n) = (setInner id new n).map (m ++ ·) := by
  induction m with
  | nil => simp
  | cons node m ih =>
    have parts := (not_congr (@hasId_append id [node] m)).mp other
    rw [not_or] at parts
    rw [List.cons_append, setInner, Node.setInner_eq_none node parts.1]
    show (setInner id new (m ++ n)).map _ = _
    rw [ih parts.2, Option.map_map]
    rfl

end

end Html
