import Mathlib.Data.List.Nodup
import Mathlib.Data.Multiset.AddSub

/-!
# Tables of open handles

A table of the handles that are open, each with what it was opened for. Closing a handle that is not open is a
fault, and so is using one. A table is `Sound` with respect to what is held when no fault was made, no
handle is open twice, and what is open is what is held. It stays sound as handles are used that are held
(`Sound.use`), fresh ones are opened (`Sound.addAll`) and held ones are closed (`Sound.closeAll`). Handles are
numbers that may be given out again once they are closed.
-/

/-- The open handles, and the number of faults. -/
structure HandleTable (κ ο : Type*) where
  opened : List (κ × ο) := []
  faults : Nat := 0

namespace HandleTable
variable {κ ο : Type*} [DecidableEq κ]

/-- The open handles without what they were opened for. -/
def handles (t : HandleTable κ ο) : List κ :=
  t.opened.map Prod.fst

def addAll (t : HandleTable κ ο) (xs : List (κ × ο)) : HandleTable κ ο :=
  { t with opened := t.opened ++ xs }

def use (t : HandleTable κ ο) (h : κ) : HandleTable κ ο :=
  if h ∈ t.handles then t else { t with faults := t.faults + 1 }

def close (t : HandleTable κ ο) (h : κ) : HandleTable κ ο :=
  if h ∈ t.handles then { t with opened := t.opened.filter (·.1 ≠ h) } else { t with faults := t.faults + 1 }

def closeAll (t : HandleTable κ ο) (hs : List κ) : HandleTable κ ο :=
  hs.foldl close t

/-- No fault was made, no handle is open twice, and what is open is what is held. -/
structure Sound (t : HandleTable κ ο) (held : Multiset (κ × ο)) : Prop where
  faults : t.faults = 0
  nodup : t.handles.Nodup
  held : (t.opened : Multiset (κ × ο)) = held

variable {t : HandleTable κ ο} {held : Multiset (κ × ο)}

omit [DecidableEq κ] in
/-- The open handles are those that are held. -/
lemma Sound.mem_opened (s : t.Sound held) (x : κ × ο) : x ∈ t.opened ↔ x ∈ held := by
  rw [← s.held, Multiset.mem_coe]

/-- A handle that is held can be used. -/
lemma Sound.use {x : κ × ο} (s : t.Sound held) (hx : x ∈ held) : t.use x.1 = t :=
  if_pos (List.mem_map_of_mem ((s.mem_opened x).mpr hx))

omit [DecidableEq κ] in
/-- Fresh handles are opened. -/
lemma Sound.addAll {xs : List (κ × ο)} (s : t.Sound held) (nodup : (xs.map Prod.fst).Nodup)
    (fresh : ∀ x ∈ xs, x.1 ∉ t.handles) : (t.addAll xs).Sound (held + xs) := by
  refine ⟨s.faults, ?_, ?_⟩
  · have split : (t.addAll xs).handles = t.handles ++ xs.map Prod.fst := List.map_append
    rw [split]
    apply List.Nodup.append s.nodup nodup
    intro h already new
    obtain ⟨x, hx, rfl⟩ := List.mem_map.mp new
    exact fresh x hx already
  · rw [← s.held]
    exact (Multiset.coe_add t.opened xs).symm

/-- A handle that is held is closed. -/
lemma Sound.close {x : κ × ο} (s : t.Sound (x ::ₘ held)) : (t.close x.1).Sound held := by
  obtain ⟨rest, rfl⟩ := Quot.exists_rep held
  have perm : t.opened.Perm (x :: rest) := Multiset.coe_eq_coe.mp s.held
  have once : x.1 ∉ rest.map Prod.fst :=
    (List.nodup_cons.mp ((perm.map Prod.fst).nodup_iff.mp s.nodup)).1
  have closed : t.close x.1 = { t with opened := t.opened.filter (·.1 ≠ x.1) } :=
    if_pos (List.mem_map_of_mem (perm.mem_iff.mpr List.mem_cons_self))
  rw [closed]
  refine ⟨s.faults, s.nodup.sublist (List.filter_sublist.map _), Multiset.coe_eq_coe.mpr ?_⟩
  have kept : rest.filter (·.1 ≠ x.1) = rest := by
    apply List.filter_eq_self.mpr
    intro y hy
    exact decide_eq_true fun same => once (same ▸ List.mem_map_of_mem hy)
  have filtered := perm.filter (·.1 ≠ x.1)
  rw [List.filter_cons_of_neg (by simp), kept] at filtered
  exact filtered

/-- Handles that are held are closed. -/
lemma Sound.closeAll {closing : List (κ × ο)} (s : t.Sound (closing + held)) :
    (t.closeAll (closing.map Prod.fst)).Sound held := by
  induction closing generalizing t with
  | nil =>
    rw [Multiset.coe_nil, Multiset.zero_add] at s
    exact s
  | cons x closing ih =>
    rw [← Multiset.cons_coe, Multiset.cons_add] at s
    exact ih s.close

end HandleTable
