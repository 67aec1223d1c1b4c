import Mathlib.Tactic.Lemma
import Mathlib.Data.List.Nodup
import Mathlib.Order.Basic

/-!
# Requests in two queues

A desk takes requests in an increasing order. It answers some of them at once and hands the others through two
queues; from either of them a request may be sent on a detour, from which it comes back to the end of the second
queue, before or after others. `Orderly` is what every move keeps. No request is lost and none is answered twice
(`Orderly.perm`). A request is answered before an earlier one only if it is answered at once and the
earlier one is not, or if the earlier one was sent on a detour (`Orderly.overtakes`); requests among
which there are no such two are answered in their order (`Orderly.isPrefix`).
-/

/-- The requests of a desk: those that it took, in their order, where each of them is now, and those that were
ever on a detour. -/
structure Desk (α : Type*) where
  taken : List α := []
  first : List α := []
  second : List α := []
  away : List α := []
  answered : List α := []
  detours : List α := []

namespace Desk
variable {α : Type*} [Preorder α] {atOnce : α → Prop} {d d' : Desk α}

/-- The moves of a desk, given the requests that it answers at once. The requests on a detour are in no
particular order. -/
inductive Moves (atOnce : α → Prop) : Desk α → Desk α → Prop where
  | answer {d a} :
    atOnce a →
    (∀ b ∈ d.taken, b < a) →
    Moves atOnce d { d with taken := d.taken ++ [a], answered := d.answered ++ [a] }
  | take {d a} :
    ¬ atOnce a →
    (∀ b ∈ d.taken, b < a) →
    Moves atOnce d { d with taken := d.taken ++ [a], first := d.first ++ [a] }
  | pass {d a rest} :
    d.first = a :: rest →
    Moves atOnce d { d with first := rest, second := d.second ++ [a] }
  | leaveFirst {d a rest away} :
    d.first = a :: rest →
    away.Perm (a :: d.away) →
    Moves atOnce d { d with first := rest, away := away, detours := d.detours ++ [a] }
  | leaveSecond {d a rest away} :
    d.second = a :: rest →
    away.Perm (a :: d.away) →
    Moves atOnce d { d with second := rest, away := away, detours := d.detours ++ [a] }
  | comeBack {d a away} :
    d.away.Perm (a :: away) →
    Moves atOnce d { d with away := away, second := d.second ++ [a] }
  | reply {d a rest} :
    d.second = a :: rest →
    Moves atOnce d { d with second := rest, answered := d.answered ++ [a] }

/-- A request may be answered before an earlier one. -/
def Overtakes (atOnce : α → Prop) (d : Desk α) (a b : α) : Prop :=
  atOnce a ∧ ¬ atOnce b ∨ b ∈ d.detours

/-- What every move keeps. -/
structure Orderly (atOnce : α → Prop) (d : Desk α) : Prop where
  /-- Every request is at one place. -/
  perm : (d.answered ++ d.second ++ d.first ++ d.away).Perm d.taken
  taken : d.taken.Pairwise (· < ·)
  first : d.first.Pairwise (· < ·)
  ahead : ∀ a ∈ d.second ++ d.away, ∀ b ∈ d.first, a < b
  waits : ∀ a ∈ d.second ++ d.first ++ d.away, ¬ atOnce a
  away : d.away ⊆ d.detours
  line : (d.answered ++ d.second ++ d.first).Pairwise fun a b => a < b ∨ Overtakes atOnce d a b

omit [Preorder α] in
/-- With more detours more can overtake. -/
lemma Overtakes.mono {a b : α} (more : d.detours ⊆ d'.detours) (h : Overtakes atOnce d a b) :
    Overtakes atOnce d' a b :=
  h.imp_right fun hb => more hb

/-- At an empty desk all is in order. -/
lemma orderly_nil : Orderly atOnce ({} : Desk α) where
  perm := .refl []
  taken := .nil
  first := .nil
  ahead _ ha := absurd ha List.not_mem_nil
  waits _ ha := absurd ha List.not_mem_nil
  away := List.nil_subset []
  line := .nil

/-! ## One move -/

omit [Preorder α] in
/-- Lists are permuted when their elements are counted equally. -/
lemma perm_cons_iff_count {l k : List α} {a : α} [DecidableEq α] :
    l.Perm (a :: k) ↔ ∀ b, l.count b = k.count b + if a = b then 1 else 0 := by
  simp only [List.perm_iff_count, List.count_cons, beq_iff_eq]

/-- No request is lost or doubled. -/
lemma Moves.perm (m : Moves atOnce d d') (h : (d.answered ++ d.second ++ d.first ++ d.away).Perm d.taken) :
    (d'.answered ++ d'.second ++ d'.first ++ d'.away).Perm d'.taken := by
  classical
  rw [List.perm_iff_count] at h ⊢
  intro b
  have here := h b
  simp only [List.count_append] at here
  cases m with
  | answer | take =>
    simp only [List.count_append]
    omega
  | pass waits | reply waits =>
    simp only [waits, List.count_cons, List.count_append, List.count_nil] at here ⊢
    omega
  | leaveFirst waits leaves | leaveSecond waits leaves =>
    have there := perm_cons_iff_count.mp leaves b
    simp only [waits, List.count_cons, List.count_append, beq_iff_eq] at here ⊢
    omega
  | comeBack leaves =>
    have there := perm_cons_iff_count.mp leaves b
    simp only [List.count_cons, List.count_append, List.count_nil, beq_iff_eq] at here ⊢
    omega

/-- What was taken stays in order. -/
lemma Moves.taken (m : Moves atOnce d d') (h : d.taken.Pairwise (· < ·)) : d'.taken.Pairwise (· < ·) := by
  cases m with
  | answer _ last | take _ last =>
    rw [List.pairwise_append]
    exact ⟨h, List.pairwise_singleton _ _, fun b hb a ha => List.mem_singleton.mp ha ▸ last b hb⟩
  | pass | leaveFirst | leaveSecond | comeBack | reply => exact h

omit [Preorder α] in
/-- An element goes between those before it and those behind it. -/
lemma pairwise_insert {R : α → α → Prop} {l k : List α} {a : α} (h : (l ++ k).Pairwise R)
    (before : ∀ b ∈ l, R b a) (after : ∀ b ∈ k, R a b) : (l ++ a :: k).Pairwise R := by
  obtain ⟨hl, hk, across⟩ := List.pairwise_append.mp h
  refine List.pairwise_append.mpr ⟨hl, List.pairwise_cons.mpr ⟨after, hk⟩, ?_⟩
  intro b hb c hc
  rcases List.mem_cons.mp hc with rfl | hc
  · exact before b hb
  · exact across b hb c hc

/-- Whatever waits after a move did so before it, or was taken by it. -/
lemma Moves.waits (m : Moves atOnce d d') (h : ∀ a ∈ d.second ++ d.first ++ d.away, ¬ atOnce a) :
    ∀ a ∈ d'.second ++ d'.first ++ d'.away, ¬ atOnce a := by
  intro b hb
  cases m with
  | answer => exact h b hb
  | @take a waits =>
    by_cases new : b = a
    · exact new ▸ waits
    · apply h b
      simpa [new] using hb
  | pass waits | reply waits =>
    apply h b
    simp only [waits, List.mem_append, List.mem_cons, List.not_mem_nil] at hb ⊢
    tauto
  | leaveFirst waits leaves | leaveSecond waits leaves =>
    apply h b
    simp only [waits, List.mem_append, List.mem_cons, leaves.mem_iff] at hb ⊢
    tauto
  | comeBack leaves =>
    apply h b
    simp only [List.mem_append, List.mem_cons, List.not_mem_nil, leaves.mem_iff] at hb ⊢
    tauto

namespace Orderly
variable (o : Orderly atOnce d)
include o

/-- What was taken is answered or somewhere at the desk. -/
lemma mem_taken {a : α} : a ∈ d.taken ↔ a ∈ d.answered ∨ a ∈ d.second ∨ a ∈ d.first ∨ a ∈ d.away := by
  simp only [← o.perm.mem_iff, List.mem_append, or_assoc]

/-- The first queue stays in order, and behind what has passed it. -/
lemma queues (m : Moves atOnce d d') :
    d'.first.Pairwise (· < ·) ∧ ∀ a ∈ d'.second ++ d'.away, ∀ b ∈ d'.first, a < b := by
  have first := o.first
  have ahead := o.ahead
  simp only [List.mem_append] at ahead ⊢
  cases m with
  | answer => exact ⟨first, ahead⟩
  | @take c _ last =>
    rw [← List.append_nil d.first] at first
    refine ⟨pairwise_insert first (fun b hb => last b (o.mem_taken.mpr (.inr (.inr (.inl hb))))) (by simp), ?_⟩
    intro a ha b hb
    rcases List.mem_append.mp hb with hb | hb
    · exact ahead a ha b hb
    · rw [List.mem_singleton.mp hb]
      exact last a (o.mem_taken.mpr (by tauto))
  | pass waits =>
    rw [waits, List.pairwise_cons] at first
    simp only [waits, List.mem_cons, List.mem_append, List.not_mem_nil] at ahead ⊢
    refine ⟨first.2, ?_⟩
    rintro a ((ha | rfl | ha) | ha) b hb
    · exact ahead a (.inl ha) b (.inr hb)
    · exact first.1 b hb
    · exact ha.elim
    · exact ahead a (.inr ha) b (.inr hb)
  | leaveFirst waits leaves =>
    rw [waits, List.pairwise_cons] at first
    simp only [waits, List.mem_cons] at ahead
    simp only [leaves.mem_iff, List.mem_cons]
    refine ⟨first.2, ?_⟩
    rintro a (ha | rfl | ha) b hb
    · exact ahead a (.inl ha) b (.inr hb)
    · exact first.1 b hb
    · exact ahead a (.inr ha) b (.inr hb)
  | leaveSecond waits leaves =>
    simp only [waits, leaves.mem_iff, List.mem_cons] at ahead ⊢
    exact ⟨first, fun a ha => ahead a (by tauto)⟩
  | comeBack leaves =>
    simp only [leaves.mem_iff, List.mem_append, List.mem_cons, List.not_mem_nil] at ahead ⊢
    exact ⟨first, fun a ha => ahead a (by tauto)⟩
  | reply waits =>
    simp only [waits, List.mem_cons] at ahead
    exact ⟨first, fun a ha => ahead a (by tauto)⟩

/-- What was on a detour may be overtaken from then on. -/
lemma detours_of_moves (m : Moves atOnce d d') : d.detours ⊆ d'.detours ∧ d'.away ⊆ d'.detours := by
  have away := o.away
  cases m with
  | answer | take | pass | reply => exact ⟨List.Subset.refl _, away⟩
  | leaveFirst _ leaves | leaveSecond _ leaves =>
    refine ⟨List.subset_append_left _ _, ?_⟩
    intro b hb
    rw [leaves.mem_iff, List.mem_cons] at hb
    rw [List.mem_append, List.mem_singleton]
    exact hb.elim .inr fun hb => .inl (away hb)
  | comeBack leaves =>
    refine ⟨List.Subset.refl _, ?_⟩
    intro b hb
    exact away (leaves.mem_iff.mpr (List.mem_cons_of_mem _ hb))

/-- The queues stay behind what was answered, but for those that may overtake. -/
lemma line_of_moves (m : Moves atOnce d d') :
    (d'.answered ++ d'.second ++ d'.first).Pairwise fun a b => a < b ∨ Overtakes atOnce d' a b := by
  have more := (o.detours_of_moves m).1
  have line : (d.answered ++ d.second ++ d.first).Pairwise fun a b => a < b ∨ Overtakes atOnce d' a b :=
    o.line.imp fun h => h.imp_right (Overtakes.mono more)
  cases m with
  | @answer c now last =>
    rw [List.append_assoc] at line
    simp only [List.append_assoc, List.singleton_append]
    apply pairwise_insert line
    · intro b hb
      exact .inl (last b (o.mem_taken.mpr (.inl hb)))
    · intro b hb
      refine .inr (.inl ⟨now, o.waits b ?_⟩)
      exact List.mem_append_left _ hb
  | @take c _ last =>
    rw [← List.append_nil (d.answered ++ d.second ++ d.first)] at line
    rw [← List.append_assoc]
    apply pairwise_insert line
    · intro b hb
      refine .inl (last b (o.perm.mem_iff.mp ?_))
      exact List.mem_append_left _ hb
    · intro b hb
      exact absurd hb List.not_mem_nil
  | pass waits | reply waits => simpa [waits] using line
  | leaveFirst waits | leaveSecond waits =>
    refine line.sublist ?_
    simp [waits]
  | @comeBack c _ leaves =>
    rw [← List.append_assoc, List.append_assoc, List.singleton_append]
    have there : c ∈ d.away := leaves.mem_iff.mpr List.mem_cons_self
    apply pairwise_insert line
    · intro b hb
      exact .inr (.inr (o.away there))
    · intro b hb
      exact .inl (o.ahead c (List.mem_append_right _ there) b hb)

/-- Every move keeps the desk in order. -/
theorem moves (m : Moves atOnce d d') : Orderly atOnce d' where
  perm := m.perm o.perm
  taken := m.taken o.taken
  first := (o.queues m).1
  ahead := (o.queues m).2
  waits := m.waits o.waits
  away := (o.detours_of_moves m).2
  line := o.line_of_moves m

/-! ## What was answered -/

/-- Nothing is answered twice. -/
lemma nodup_answered : d.answered.Nodup := by
  have taken : d.taken.Nodup := o.taken.imp fun lt => lt.ne
  have all := o.perm.nodup_iff.mpr taken
  rw [List.append_assoc, List.append_assoc] at all
  exact all.of_append_left

/-- When nothing waits, every request has been answered. -/
lemma answered_of_idle (first : d.first = []) (second : d.second = []) (away : d.away = []) :
    d.answered.Perm d.taken := by
  have perm := o.perm
  rw [first, second, away] at perm
  simpa using perm

/-- A request is answered before an earlier one only if it may overtake it. -/
theorem overtakes {before after : List α} {a b : α} (here : d.answered = before ++ b :: after) (ha : a ∈ d.taken)
    (lt : a < b) (later : a ∉ before) : Overtakes atOnce d b a := by
  have line := o.line
  rw [here, List.append_assoc, List.append_assoc, List.pairwise_append] at line
  have behind := (List.pairwise_cons.mp line.2.1).1
  by_cases gone : a ∈ d.away
  · exact .inr (o.away gone)
  · have there : a ∈ after ++ (d.second ++ d.first) := by
      have somewhere := o.mem_taken.mp ha
      rw [here] at somewhere
      have other : a ≠ b := lt.ne
      simp only [List.mem_append, List.mem_cons] at somewhere ⊢
      tauto
    exact (behind a there).resolve_left lt.asymm

end Orderly

/-- A list without repetitions that goes through an ordered one, and takes no element before a smaller one, is a
prefix of it. -/
lemma isPrefix_of_closed {l k : List α} (sorted : k.Pairwise (· < ·)) (nodup : l.Nodup) (sub : l ⊆ k)
    (order : l.Pairwise fun b a => ¬ a < b) (closed : ∀ b ∈ l, ∀ a ∈ k, a < b → a ∈ l) : l <+: k := by
  induction k generalizing l with
  | nil =>
    cases List.subset_nil.mp sub
    exact List.nil_prefix
  | cons x k ih =>
    rw [List.pairwise_cons] at sorted
    obtain ⟨least, sorted⟩ := sorted
    cases l with
    | nil => exact List.nil_prefix
    | cons y l =>
      obtain ⟨new, nodup⟩ := List.nodup_cons.mp nodup
      obtain ⟨ahead, order⟩ := List.pairwise_cons.mp order
      obtain ⟨hy, sub⟩ := List.cons_subset.mp sub
      have first : y = x := by
        rcases List.mem_cons.mp hy with e | hy
        · exact e
        · have lt := least y hy
          have hx := closed y List.mem_cons_self x List.mem_cons_self lt
          rcases List.mem_cons.mp hx with e | hx
          · exact e.symm
          · exact absurd lt (ahead x hx)
      subst first
      refine List.prefix_cons_inj y |>.mpr (ih sorted nodup ?_ order ?_)
      · intro a ha
        rcases List.mem_cons.mp (sub ha) with rfl | there
        · exact absurd ha new
        · exact there
      · intro b hb a ha lt
        rcases List.mem_cons.mp (closed b (List.mem_cons_of_mem _ hb) a (List.mem_cons_of_mem _ ha) lt) with rfl | there
        · exact absurd rfl (least a ha).ne
        · exact there

namespace Orderly

/-- Requests none of which may overtake another one are answered in the order in which they were taken. -/
theorem isPrefix (o : Orderly atOnce d) {p : α → Bool}
    (fair : ∀ a ∈ d.taken, ∀ b ∈ d.taken, p a → p b → a < b → ¬ Overtakes atOnce d b a) :
    d.answered.filter p <+: d.taken.filter p := by
  have taken {a : α} (ha : a ∈ d.answered) : a ∈ d.taken := o.mem_taken.mpr (.inl ha)
  apply isPrefix_of_closed (o.taken.filter p) (o.nodup_answered.filter p)
  · intro a ha
    obtain ⟨ha, hp⟩ := List.mem_filter.mp ha
    exact List.mem_filter.mpr ⟨taken ha, hp⟩
  · have line := o.line
    rw [List.append_assoc, List.pairwise_append] at line
    refine (line.1.filter p).imp_of_mem ?_
    intro b a hb ha h lt
    obtain ⟨hb, pb⟩ := List.mem_filter.mp hb
    obtain ⟨ha, pa⟩ := List.mem_filter.mp ha
    exact fair a (taken ha) b (taken hb) pa pb lt (h.resolve_left lt.asymm)
  · intro b hb a ha lt
    obtain ⟨hb, pb⟩ := List.mem_filter.mp hb
    obtain ⟨ha, pa⟩ := List.mem_filter.mp ha
    obtain ⟨before, after, split⟩ := List.append_of_mem hb
    by_contra missing
    refine fair a ha b (taken hb) pa pb lt (o.overtakes split ha lt ?_)
    intro early
    refine missing (List.mem_filter.mpr ⟨?_, pa⟩)
    rw [split]
    exact List.mem_append_left _ early

end Orderly

end Desk
