import Mathlib.Data.List.Infix
import Mathlib.Tactic.Lemma
import Mathlib.Tactic.SplitIfs

/-!
# Lists cut at a separator

The pieces that `List.splitOn` cuts a list into. None of them has the separator (`notMem_of_mem_splitOn`), and an empty
one comes of a separator at an end of the list or next to another one (`nil_mem_splitOn_iff`).

A reader that passes over the empty pieces finds them one after the other, each up to the next separator: `words` are
the others, and `words_of_append_cons` is one step of the reader.
-/

namespace Pieces

variable {α : Type*}

/-- The first piece, and the others behind the separator. -/
lemma intercalate_cons_eq (c : α) (first : List α) (others : List (List α)) :
    [c].intercalate (first :: others) = first ++ others.flatMap (c :: ·) := by
  induction others generalizing first with
  | nil => simp
  | cons second others ih => simp [List.intercalate_cons_cons, ih]

/-- Two separators next to each other, the end of the list being one. -/
lemma pair_infix_concat_iff {c : α} (l : List α) : [c, c] <:+: l ++ [c] ↔ [c, c] <:+: l ∨ l.getLast? = some c := by
  rw [List.infix_concat_iff, or_comm, List.suffix_concat_iff, ← List.singleton_suffix_iff_getLast?_eq_some]
  apply or_congr_right
  constructor
  · intro h
    obtain empty | ⟨t, same, suffix⟩ := h
    · cases empty
    · obtain rfl : [c] = t := List.append_cancel_right same
      exact suffix
  · intro suffix
    exact .inr ⟨[c], rfl, suffix⟩

variable [DecidableEq α] {c : α}

/-- No piece has the separator in it. -/
lemma notMem_of_mem_splitOn {l piece : List α} (h : piece ∈ l.splitOn c) : c ∉ piece := by
  induction l generalizing piece with
  | nil =>
    rw [List.splitOn_nil, List.mem_singleton] at h
    rw [h]
    exact List.not_mem_nil
  | cons x l ih =>
    rw [List.splitOn_cons_eq_if_modifyHead] at h
    split_ifs at h with sep
    · rcases List.mem_cons.mp h with rfl | h
      · exact List.not_mem_nil
      · exact ih h
    · cases hl : l.splitOn c with
      | nil => exact absurd hl (List.splitOn_ne_nil c l)
      | cons first others =>
        rw [hl, List.modifyHead_cons] at h
        rcases List.mem_cons.mp h with rfl | h
        · intro hc
          rcases List.mem_cons.mp hc with rfl | hc
          · exact sep (beq_self_eq_true c)
          · exact ih (hl ▸ List.mem_cons_self) hc
        · exact ih (hl ▸ List.mem_cons_of_mem first h)

/-! ## Empty pieces -/

/-- The first piece is empty where nothing is in front of the first separator. -/
lemma head_splitOn_eq_nil_iff (l : List α) : (l.splitOn c).head? = some [] ↔ [c] <+: l ++ [c] := by
  cases l with
  | nil => simp
  | cons x l =>
    rw [List.splitOn_cons_eq_if_modifyHead, List.cons_append, List.cons_prefix_cons, eq_comm (a := c)]
    split_ifs with sep
    · simp [eq_of_beq sep]
    · have ne : x ≠ c := fun same => sep (beq_iff_eq.mpr same)
      cases hl : l.splitOn c with
      | nil => exact absurd hl (List.splitOn_ne_nil c l)
      | cons first others => simp [ne]

/-- A later piece is empty where two separators are next to each other, the end of the list being one. -/
lemma nil_mem_tail_splitOn_iff (l : List α) : [] ∈ (l.splitOn c).tail ↔ [c, c] <:+: l ++ [c] := by
  induction l with
  | nil => simp [List.infix_cons_iff]
  | cons x l ih =>
    rw [List.splitOn_cons_eq_if_modifyHead, List.cons_append, List.infix_cons_iff, List.cons_prefix_cons, ← ih,
      ← head_splitOn_eq_nil_iff, eq_comm (a := c)]
    cases hl : l.splitOn c with
    | nil => exact absurd hl (List.splitOn_ne_nil c l)
    | cons first others =>
      split_ifs with sep
      · simp [eq_of_beq sep, eq_comm]
      · have ne : x ≠ c := fun same => sep (beq_iff_eq.mpr same)
        simp [ne]

/-- A piece is empty where two separators are next to each other, both ends of the list being separators. -/
theorem nil_mem_splitOn_iff (l : List α) : [] ∈ l.splitOn c ↔ [c, c] <:+: c :: (l ++ [c]) := by
  rw [List.infix_cons_iff, List.cons_prefix_cons, ← head_splitOn_eq_nil_iff, ← nil_mem_tail_splitOn_iff]
  cases hl : l.splitOn c with
  | nil => exact absurd hl (List.splitOn_ne_nil c l)
  | cons first others => simp [eq_comm]

/-! ## The other pieces -/

/-- The pieces that are not empty. -/
def words (c : α) (l : List α) : List (List α) :=
  (l.splitOn c).filter (· ≠ [])

/-- Nothing has no words. -/
lemma words_nil : words c ([] : List α) = [] := by
  simp [words]

/-- The last word. -/
lemma words_of_notMem {l : List α} (something : l ≠ []) (h : c ∉ l) : words c l = [l] := by
  rw [words, List.splitOn_eq_singleton h, List.filter_cons]
  exact if_pos (decide_eq_true something)

/-- The first word, if there is one in front of the first separator. -/
lemma words_of_append_cons {piece : List α} (h : c ∉ piece) (rest : List α) :
    words c (piece ++ c :: rest) = (if piece = [] then [] else [piece]) ++ words c rest := by
  rw [words, List.splitOn_append_cons_self_of_not_mem h, List.filter_cons]
  by_cases empty : piece = []
  · simp [empty, words]
  · simp [empty, words]

/-- The words are the pieces exactly when no piece is empty. -/
lemma words_eq_splitOn_iff (l : List α) : words c l = l.splitOn c ↔ ¬ [c, c] <:+: c :: (l ++ [c]) := by
  rw [← nil_mem_splitOn_iff, words, List.filter_eq_self]
  constructor
  · intro all empty
    exact of_decide_eq_true (all [] empty) rfl
  · intro none piece mem
    refine decide_eq_true fun empty => none ?_
    rw [← empty]
    exact mem

end Pieces
