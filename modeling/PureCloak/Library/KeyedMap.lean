import Std.Data.ExtTreeMap.Lemmas
import Mathlib.Tactic.Lemma
import Mathlib.Data.List.Dedup
import Mathlib.Data.List.Perm.Subperm

/-!
# Maps filled from keyed records

Facts about `Std.ExtTreeMap` for maps whose records carry their own key. Lookups after `insert`,
`insertIfNew` and `erase` are stated with equality of keys instead of the comparison
(`KeyedMap.get_insert`, `get_insertIfNew`, `get_erase`), and a loop that inserts the records of a list
is described by the record of each key that wins: the last one for `insert` (`get_foldl_insert`), the
first one, behind what the map already holds, for `insertIfNew` (`get_foldl_insertIfNew`).
`find?_eq_some_iff` is for lists with distinct keys, and `mem_of_size_le` compares two maps by their
sizes, `size_le_length` and `length_le_size` a map with a list. `countP_insert` and `countP_erase` say
how many of the items of a map have a property when one of them changes.
-/

namespace KeyedMap
open Std

variable {κ ν : Type*} [Ord κ] [TransOrd κ] [LawfulEqOrd κ] [DecidableEq κ]

/-- The values when one was put in. -/
lemma get_insert (m : ExtTreeMap κ ν) (k a : κ) (v : ν) :
    (m.insert k v)[a]? = if k = a then some v else m[a]? := by
  simp only [ExtTreeMap.getElem?_insert, LawfulEqCmp.compare_eq_iff_eq]

/-- The values when one was erased. -/
lemma get_erase (m : ExtTreeMap κ ν) (k a : κ) :
    (m.erase k)[a]? = if k = a then none else m[a]? := by
  simp only [ExtTreeMap.getElem?_erase, LawfulEqCmp.compare_eq_iff_eq]

/-- The values when one was changed. -/
lemma get_modify (m : ExtTreeMap κ ν) (k a : κ) (f : ν → ν) :
    (m.modify k f)[a]? = if k = a then m[a]?.map f else m[a]? := by
  rw [ExtTreeMap.getElem?_modify]
  simp only [LawfulEqCmp.compare_eq_iff_eq]
  split_ifs with h
  · rw [h]
  · rfl

omit [LawfulEqOrd κ] [DecidableEq κ] in
/-- A key without a value is not in the map. -/
lemma get_eq_none_iff {m : ExtTreeMap κ ν} {k : κ} : m[k]? = none ↔ k ∉ m := by
  rw [ExtTreeMap.mem_iff_isSome_getElem?, Bool.not_eq_true, Option.isSome_eq_false_iff,
    Option.isNone_iff_eq_none]

omit [LawfulEqOrd κ] [DecidableEq κ] in
/-- A key in the map has a value. -/
lemma mem_iff_exists_get {m : ExtTreeMap κ ν} {k : κ} : k ∈ m ↔ ∃ v, m[k]? = some v := by
  rw [ExtTreeMap.mem_iff_isSome_getElem?, Option.isSome_iff_exists]

/-- The values when one was put in unless there was one. -/
lemma get_insertIfNew (m : ExtTreeMap κ ν) (k a : κ) (v : ν) :
    (m.insertIfNew k v)[a]? = m[a]?.or (if k = a then some v else none) := by
  simp only [ExtTreeMap.getElem?_insertIfNew, LawfulEqCmp.compare_eq_iff_eq]
  by_cases h : k = a
  · subst h
    cases e : m[k]? with
    | none => simp [get_eq_none_iff.mp e]
    | some w => simp [mem_iff_exists_get.mpr ⟨w, e⟩]
  · simp [h]

/-- Inserting the records of a list leaves the last one of each key. -/
lemma get_foldl_insert (key : ν → κ) (l : List ν) (m : ExtTreeMap κ ν) (k : κ) :
    (l.foldl (fun m v => m.insert (key v) v) m)[k]? =
      (l.reverse.find? (key · = k)).or m[k]? := by
  induction l generalizing m with
  | nil => rfl
  | cons v l ih =>
    rw [List.foldl_cons, ih, get_insert, List.reverse_cons, List.find?_append, Option.or_assoc]
    by_cases h : key v = k <;> simp [h]

/-- Inserting the records of a list where their key is new leaves the first one of each new key. -/
lemma get_foldl_insertIfNew (key : ν → κ) (l : List ν) (m : ExtTreeMap κ ν) (k : κ) :
    (l.foldl (fun m v => m.insertIfNew (key v) v) m)[k]? =
      m[k]?.or (l.find? (key · = k)) := by
  induction l generalizing m with
  | nil => simp
  | cons v l ih =>
    rw [List.foldl_cons, ih, get_insertIfNew, List.find?_cons, Option.or_assoc]
    by_cases h : key v = k <;> simp [h]

omit [Ord κ] [TransOrd κ] [LawfulEqOrd κ] in
/-- In a list with distinct keys, the record of a key is the one that is found. -/
lemma find?_eq_some_iff {key : ν → κ} {l : List ν} (nd : (l.map key).Nodup) {k : κ} {v : ν} :
    l.find? (key · = k) = some v ↔ v ∈ l ∧ key v = k := by
  constructor
  · intro h
    exact ⟨List.mem_of_find?_eq_some h, by simpa using List.find?_some h⟩
  · rintro ⟨hv, rfl⟩
    induction l with
    | nil => cases hv
    | cons w l ih =>
      rw [List.map_cons, List.nodup_cons] at nd
      rw [List.find?_cons]
      cases hv with
      | head => simp
      | tail _ hv =>
        have ne : key w ≠ key v := by
          intro e
          exact nd.1 (e ▸ List.mem_map_of_mem hv)
        simpa [ne] using ih nd.2 hv

omit [DecidableEq κ] in
/-- A map that has all keys of another and is no larger has no other keys. -/
lemma mem_of_size_le {m m' : ExtTreeMap κ ν} (sub : ∀ k ∈ m, k ∈ m') (h : m'.size ≤ m.size) {k : κ}
    (hk : k ∈ m') : k ∈ m := by
  have subset : m.keys ⊆ m'.keys := by
    intro a ha
    exact ExtTreeMap.mem_keys.mpr (sub a (ExtTreeMap.mem_keys.mp ha))
  have sp := List.subperm_of_subset ExtTreeMap.nodup_keys subset
  have perm := sp.perm_of_length_le (by simpa using h)
  exact ExtTreeMap.mem_keys.mp (perm.mem_iff.mpr (ExtTreeMap.mem_keys.mpr hk))

/-- A map is no larger than a list that has all its keys. -/
lemma size_le_length {m : ExtTreeMap κ ν} {l : List κ} (sub : ∀ k ∈ m, k ∈ l) : m.size ≤ l.dedup.length := by
  have subset : m.keys ⊆ l.dedup := by
    intro a ha
    exact List.mem_dedup.mpr (sub a (ExtTreeMap.mem_keys.mp ha))
  rw [← ExtTreeMap.length_keys]
  exact (List.subperm_of_subset ExtTreeMap.nodup_keys subset).length_le

/-- A list of keys of a map has no more of them than the map. -/
lemma length_le_size {m : ExtTreeMap κ ν} {l : List κ} (sub : ∀ k ∈ l, k ∈ m) : l.dedup.length ≤ m.size := by
  have subset : l.dedup ⊆ m.keys := by
    intro a ha
    exact ExtTreeMap.mem_keys.mpr (sub a (List.mem_dedup.mp ha))
  rw [← ExtTreeMap.length_keys]
  exact (List.subperm_of_subset (List.nodup_dedup l) subset).length_le

omit [LawfulEqOrd κ] [DecidableEq κ] in
/-- No pair is listed twice. -/
lemma nodup_toList (m : ExtTreeMap κ ν) : m.toList.Nodup := by
  refine ExtTreeMap.distinct_keys_toList.imp ?_
  rintro a _ ne rfl
  exact ne ReflCmp.compare_self

/-- The items of a map with a key are the item of the key and those of the map without it. -/
lemma toList_perm_erase {m : ExtTreeMap κ ν} {k : κ} {v : ν} (h : m[k]? = some v) :
    m.toList.Perm ((k, v) :: (m.erase k).toList) := by
  have absent : (k, v) ∉ (m.erase k).toList := by
    simp [ExtTreeMap.mem_toList_iff_getElem?_eq_some]
  have nodup : ((k, v) :: (m.erase k).toList).Nodup :=
    List.nodup_cons.mpr ⟨absent, nodup_toList _⟩
  refine (List.perm_ext_iff_of_nodup (nodup_toList m) nodup).mpr ?_
  rintro ⟨k', v'⟩
  rw [List.mem_cons, ExtTreeMap.mem_toList_iff_getElem?_eq_some,
    ExtTreeMap.mem_toList_iff_getElem?_eq_some, get_erase]
  by_cases e : k = k'
  · subst e
    simp [h, eq_comm]
  · simp [e, Ne.symm e]

/-- Nothing is erased where there is nothing. -/
lemma erase_of_get_eq_none {m : ExtTreeMap κ ν} {k : κ} (h : m[k]? = none) : m.erase k = m := by
  refine ExtTreeMap.ext_getElem? fun a => ?_
  rw [get_erase]
  split
  case isTrue e => rw [← e, h]
  case isFalse => rfl

/-- The items of a map after an insertion are the new one and those of the map without its key. -/
lemma toList_insert_perm (m : ExtTreeMap κ ν) (k : κ) (v : ν) :
    (m.insert k v).toList.Perm ((k, v) :: (m.erase k).toList) := by
  have others : (m.insert k v).erase k = m.erase k := by
    refine ExtTreeMap.ext_getElem? fun a => ?_
    rw [get_erase, get_insert, get_erase]
    split <;> rfl
  rw [← others]
  exact toList_perm_erase (by rw [get_insert, if_pos rfl])

/-- Erasing a key takes its item out of the count. -/
lemma countP_erase (m : ExtTreeMap κ ν) (k : κ) (p : κ × ν → Bool) :
    m.toList.countP p =
      (m.erase k).toList.countP p + if m[k]?.any fun v => p (k, v) then 1 else 0 := by
  cases h : m[k]? with
  | none => simp [erase_of_get_eq_none h]
  | some v => simp [(toList_perm_erase h).countP_eq, List.countP_cons]

/-- Inserting an item puts it into the count of the others. -/
lemma countP_insert (m : ExtTreeMap κ ν) (k : κ) (v : ν) (p : κ × ν → Bool) :
    (m.insert k v).toList.countP p =
      (m.erase k).toList.countP p + if p (k, v) then 1 else 0 := by
  rw [(toList_insert_perm m k v).countP_eq, List.countP_cons]

end KeyedMap
