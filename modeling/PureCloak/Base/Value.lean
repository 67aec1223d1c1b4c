import Mathlib.Tactic.Lemma
import Mathlib.Data.List.Induction

/-!
# JSON values

`base::Value` as far as the workspace code uses it: the JSON types, `base::DictValue` with `Set` and the
typed `Find*` accessors, and `base::ListValue`. A dictionary is the sorted association list of the
flat map it is in C++; `DictValue.set` inserts at the place of the key, or replaces the value there, and
`DictValue.find` takes the first entry of the key.

The two lemmas callers use are `DictValue.find_set` and `DictValue.find_ofFields`: a dictionary built by
setting the present ones of a list of fields with distinct keys finds exactly those fields.
-/

namespace PureCloak.Base

/-- `base::Value` as JSON produces it; a double is kept as its bits, since nothing here reads one. -/
inductive Value where
  | none
  | boolean (b : Bool)
  | integer (i : Int32)
  | double (bits : UInt64)
  | string (s : String)
  | list (items : List Value)
  | dict (entries : List (String × Value))

/-- `base::ListValue`. -/
abbrev ListValue := List Value

/-- `base::DictValue`. -/
abbrev DictValue := List (String × Value)

/-- `Value::GetIfBool`. -/
def Value.getIfBool : Value → Option Bool
  | .boolean b => some b
  | _ => Option.none

/-- `Value::GetIfInt`. -/
def Value.getIfInt : Value → Option Int32
  | .integer i => some i
  | _ => Option.none

/-- `Value::GetIfString`. -/
def Value.getIfString : Value → Option String
  | .string s => some s
  | _ => Option.none

/-- `Value::GetIfList`. -/
def Value.getIfList : Value → Option ListValue
  | .list items => some items
  | _ => Option.none

/-- `Value::GetIfDict`. -/
def Value.getIfDict : Value → Option DictValue
  | .dict entries => some entries
  | _ => Option.none

namespace DictValue

/-- `DictValue::Find`. -/
def find (dict : DictValue) (key : String) : Option Value :=
  List.lookup key dict

/-- `DictValue::Set`. -/
def set : DictValue → String → Value → DictValue
  | [], key, v => [(key, v)]
  | (k, w) :: rest, key, v =>
    if key = k then (key, v) :: rest
    else if key < k then (key, v) :: (k, w) :: rest
    else (k, w) :: set rest key v

/-- `DictValue::FindBool`. -/
def findBool (dict : DictValue) (key : String) : Option Bool :=
  (dict.find key).bind Value.getIfBool

/-- `DictValue::FindInt`. -/
def findInt (dict : DictValue) (key : String) : Option Int32 :=
  (dict.find key).bind Value.getIfInt

/-- `DictValue::FindString`. -/
def findString (dict : DictValue) (key : String) : Option String :=
  (dict.find key).bind Value.getIfString

/-- `DictValue::FindList`. -/
def findList (dict : DictValue) (key : String) : Option ListValue :=
  (dict.find key).bind Value.getIfList

/-- The dictionary that a sequence of `Set` calls builds, those with no value being skipped. -/
def ofFields (fields : List (String × Option Value)) : DictValue :=
  fields.foldl (fun dict f => (f.2.map (set dict f.1)).getD dict) []

/-- Another key is passed over. -/
lemma lookup_cons_ne {β : Type*} {k key : String} (h : k ≠ key) (b : β) (l : List (String × β)) :
    List.lookup k ((key, b) :: l) = List.lookup k l := by
  rw [List.lookup_cons, beq_false_of_ne h]

/-- `Set` is seen under its own key and under no other. -/
lemma find_set (dict : DictValue) (key k : String) (v : Value) :
    (dict.set key v).find k = if k = key then some v else dict.find k := by
  unfold find
  induction dict with
  | nil => by_cases h : k = key <;> simp [set, lookup_cons_ne, h]
  | cons p rest ih =>
    obtain ⟨k', w⟩ := p
    unfold set
    split
    case isTrue e =>
      subst e
      by_cases h : k = key <;> simp [lookup_cons_ne, h]
    case isFalse ne =>
      split
      case isTrue => by_cases h : k = key <;> simp [lookup_cons_ne, h]
      case isFalse =>
        by_cases h : k = k'
        · subst h
          simp [Ne.symm ne]
        · rw [lookup_cons_ne h, lookup_cons_ne h, ih]

/-- The last field is set behind the others. -/
lemma ofFields_concat (fields : List (String × Option Value)) (f : String × Option Value) :
    ofFields (fields ++ [f]) = (f.2.map ((ofFields fields).set f.1)).getD (ofFields fields) := by
  simp [ofFields]

/-- With distinct keys, the dictionary built from fields finds the fields that have a value. -/
lemma find_ofFields {fields : List (String × Option Value)} (nd : (fields.map Prod.fst).Nodup)
    (k : String) : (ofFields fields).find k = (fields.lookup k).join := by
  induction fields using List.reverseRecOn with
  | nil => simp [ofFields, find]
  | append_singleton fields f ih =>
    obtain ⟨key, v⟩ := f
    simp only [List.map_append, List.map_cons, List.map_nil, List.nodup_append,
      List.mem_singleton] at nd
    obtain ⟨nd, -, fresh⟩ := nd
    have ih := ih nd
    rw [ofFields_concat, List.lookup_append]
    by_cases h : k = key
    · subst h
      have absent : fields.lookup k = Option.none := by
        rw [List.lookup_eq_none_iff]
        intro p hp
        exact bne_iff_ne.mpr (fresh p.1 (List.mem_map_of_mem hp) k rfl).symm
      rw [absent] at ih ⊢
      cases v with
      | none => simpa using ih
      | some v => simp [find_set]
    · rw [lookup_cons_ne h, List.lookup_nil, Option.or_none, ← ih]
      cases v with
      | none => rfl
      | some v => simp [find_set, h]

end DictValue

end PureCloak.Base
