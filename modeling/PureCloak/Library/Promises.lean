import Mathlib.Data.Multiset.MapFold
import Mathlib.Data.Multiset.UnionInter
import Mathlib.Logic.Hydra
import Mathlib.Tactic.Lemma

/-!
# Promises and what carries them

One side of a connection keeps a table of promises, and each of them is on its way: as a request that is sent, as work on
the other side, or as a response. `Matched` says that the names on the way are exactly those in the table, none of them
twice, and that each carrier fits what waits for it. A promise is issued under a name that is not in the table
(`Matched.issue`), its carrier changes its form (`Matched.change`), and it is settled when the response arrives
(`Matched.settle`).

`Descends` is for the end of it: a step that takes one item away and brings any number of items of lower rank. No
sequence of such steps goes on forever, with finitely many other steps between two of them (`acc_of_descends`).
-/

namespace Promises

variable {ι κ φ : Type*} {fits : κ → φ → Prop} {pending pending' : ι → Option κ} {carriers : Multiset (ι × φ)}

/-- Each promise of the table has exactly one carrier, which fits it, and there is no other one. -/
structure Matched (fits : κ → φ → Prop) (pending : ι → Option κ) (carriers : Multiset (ι × φ)) : Prop where
  nodup : (carriers.map Prod.fst).Nodup
  carried : ∀ i k, pending i = some k → i ∈ carriers.map Prod.fst
  waiting : ∀ i c, (i, c) ∈ carriers → ∃ k, pending i = some k ∧ fits k c

namespace Matched

/-- Where nothing waits nothing is on the way. -/
lemma empty : Matched fits (fun _ : ι => none) 0 where
  nodup := Multiset.nodup_zero
  carried _ _ h := absurd h (Option.some_ne_none _).symm
  waiting _ _ h := absurd h (Multiset.notMem_zero _)

/-- A promise has one carrier. -/
lemma carrier (h : Matched fits pending carriers) {i : ι} {k : κ} (found : pending i = some k) :
    ∃ c, (i, c) ∈ carriers ∧ fits k c := by
  obtain ⟨⟨j, c⟩, mem, rfl⟩ := Multiset.mem_map.mp (h.carried i k found)
  obtain ⟨k', found', fit⟩ := h.waiting j c mem
  cases found.symm.trans found'
  exact ⟨c, mem, fit⟩

/-- A name that is not in the table has no carrier. -/
lemma notMem (h : Matched fits pending carriers) {i : ι} (free : pending i = none) :
    i ∉ carriers.map Prod.fst := by
  intro named
  obtain ⟨⟨j, c⟩, mem, rfl⟩ := Multiset.mem_map.mp named
  obtain ⟨k, found, _⟩ := h.waiting j c mem
  exact Option.some_ne_none k (found.symm.trans free)

variable [DecidableEq ι]

/-- A new promise under a free name. -/
lemma issue (h : Matched fits pending carriers) {i : ι} {k : κ} {c : φ} (free : pending i = none) (fit : fits k c)
    (issued : ∀ j, pending' j = if i = j then some k else pending j) :
    Matched fits pending' ((i, c) ::ₘ carriers) where
  nodup := by
    rw [Multiset.map_cons]
    exact Multiset.nodup_cons.mpr ⟨h.notMem free, h.nodup⟩
  carried j k' found := by
    rw [Multiset.map_cons, Multiset.mem_cons]
    rw [issued] at found
    split_ifs at found with own
    · exact .inl own.symm
    · exact .inr (h.carried j k' found)
  waiting j c' mem := by
    rw [issued]
    cases Multiset.mem_cons.mp mem with
    | inl own =>
      cases own
      exact ⟨k, if_pos rfl, fit⟩
    | inr mem =>
      obtain ⟨k', found, fit'⟩ := h.waiting j c' mem
      have other : i ≠ j := by
        rintro rfl
        exact Option.some_ne_none k' (found.symm.trans free)
      exact ⟨k', (if_neg other).trans found, fit'⟩

omit [DecidableEq ι] in
/-- A carrier takes another form. -/
lemma change {i : ι} {c c' : φ} (h : Matched fits pending ((i, c) ::ₘ carriers))
    (fit : ∀ k, pending i = some k → fits k c → fits k c') : Matched fits pending ((i, c') ::ₘ carriers) where
  nodup := by
    have nodup := h.nodup
    rw [Multiset.map_cons] at nodup ⊢
    exact nodup
  carried j k found := by
    have mem := h.carried j k found
    rw [Multiset.map_cons] at mem ⊢
    exact mem
  waiting j d mem := by
    cases Multiset.mem_cons.mp mem with
    | inl own =>
      cases own
      obtain ⟨k, found, fits⟩ := h.waiting i c (Multiset.mem_cons_self _ _)
      exact ⟨k, found, fit k found fits⟩
    | inr mem => exact h.waiting j d (Multiset.mem_cons_of_mem mem)

/-- A promise is settled. -/
lemma settle {i : ι} {c : φ} (h : Matched fits pending ((i, c) ::ₘ carriers))
    (settled : ∀ j, pending' j = if i = j then none else pending j) : Matched fits pending' carriers := by
  have nodup := h.nodup
  rw [Multiset.map_cons, Multiset.nodup_cons] at nodup
  refine ⟨nodup.2, ?_, ?_⟩
  · intro j k found
    rw [settled] at found
    split_ifs at found with own
    have mem := h.carried j k found
    rw [Multiset.map_cons] at mem
    exact (Multiset.mem_cons.mp mem).resolve_left fun e => own e.symm
  · intro j d mem
    have other : i ≠ j := by
      rintro rfl
      exact nodup.1 (Multiset.mem_map.mpr ⟨(i, d), mem, rfl⟩)
    rw [settled, if_neg other]
    exact h.waiting j d (Multiset.mem_cons_of_mem mem)

end Matched

/-! ## The end of it -/

/-- One item is taken away and items of lower rank are brought. -/
def Descends (s' s : Multiset ℕ) : Prop :=
  ∃ n rest new, s = n ::ₘ rest ∧ s' = rest + new ∧ ∀ m ∈ new, m < n

/-- What descends is cut and expanded. -/
lemma Descends.cutExpand {s' s : Multiset ℕ} (h : Descends s' s) : Relation.CutExpand (· < ·) s' s := by
  obtain ⟨n, rest, new, rfl, rfl, lower⟩ := h
  refine ⟨new, n, lower, ?_⟩
  rw [← Multiset.singleton_add, add_comm {n} rest, add_right_comm]

/-- Steps that descend, or keep the items and do some of the work that is left, come to an end. -/
theorem acc_of_descends {σ α : Type*} [Preorder α] [WellFoundedLT α] {r : σ → σ → Prop} {I : σ → Prop}
    (items : σ → Multiset ℕ) (work : σ → α) (keep : ∀ {s s'}, I s → r s' s → I s')
    (descends : ∀ {s s'}, I s → r s' s → Descends (items s') (items s) ∨ (items s' = items s ∧ work s' < work s))
    {s : σ} (h : I s) : Acc r s := by
  generalize start : items s = n
  induction n using (@wellFounded_lt ℕ _ _).cutExpand.induction generalizing s with
  | _ n lower =>
    generalize left : work s = w
    induction w using WellFoundedLT.induction generalizing s with
    | _ w less =>
      refine ⟨s, fun s' st => ?_⟩
      obtain down | ⟨same, done⟩ := descends h st
      · exact lower (items s') (start ▸ down.cutExpand) (keep h st) rfl
      · exact less (work s') (left ▸ done) (keep h st) (same.trans start) rfl

end Promises
