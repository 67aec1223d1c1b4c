import Mathlib.Tactic.Lemma
import Mathlib.Data.List.Nodup

/-!
# Atomic objects

An object is called and answers later; in between, the operation takes effect at one point. `Timeline` lists the calls,
these points and the answers in their order, together with the operations of others, which take effect when they are
made. From outside only the calls and the answers are seen. `Timeline.linearization`: the points, in their order, are a
sequential history that explains every answer, and an operation that was answered before another one was called comes
before it.
-/

namespace AtomicObject

/-- What is seen from outside. -/
inductive Seen (ι α ρ : Type*) where
  | call (i : ι) (a : α)
  | ret (i : ι) (r : ρ)

/-- An operation with its answer, or one of the others. -/
inductive Entry (ι α β ρ : Type*) where
  | served (i : ι) (a : α) (r : ρ)
  | other (b : β)

variable {ι α β ρ σ : Type*}

/-- Who made the call of an operation. -/
def Entry.caller : Entry ι α β ρ → Option ι
  | .served i _ _ => some i
  | .other _ => none

/-- The operations of a history, one after the other, lead from one state to another with these answers. -/
inductive Sequential (serves : σ → α → ρ → σ → Prop) (others : σ → β → σ → Prop) (s : σ) :
    List (Entry ι α β ρ) → σ → Prop where
  | nil : Sequential serves others s [] s
  | served {h t u i a r} :
    Sequential serves others s h t →
    serves t a r u →
    Sequential serves others s (h ++ [.served i a r]) u
  | other {h t u b} :
    Sequential serves others s h t →
    others t b u →
    Sequential serves others s (h ++ [.other b]) u

/-- An operation takes effect after its call and once, and is answered after that and once. -/
inductive Timeline : List (Seen ι α ρ ⊕ Entry ι α β ρ) → Prop where
  | nil : Timeline []
  | call {l i a} :
    Timeline l →
    (∀ a', .inl (.call i a') ∉ l) →
    Timeline (l ++ [.inl (.call i a)])
  | served {l i a r} :
    Timeline l →
    .inl (.call i a) ∈ l →
    (∀ a' r', .inr (.served i a' r') ∉ l) →
    Timeline (l ++ [.inr (.served i a r)])
  | other {l b} :
    Timeline l →
    Timeline (l ++ [.inr (.other b)])
  | ret {l i a r} :
    Timeline l →
    .inr (.served i a r) ∈ l →
    (∀ r', .inl (.ret i r') ∉ l) →
    Timeline (l ++ [.inl (.ret i r)])

/-- What is seen of a timeline. -/
def seen (l : List (Seen ι α ρ ⊕ Entry ι α β ρ)) : List (Seen ι α ρ) :=
  l.filterMap Sum.getLeft?

/-- The operations of a timeline, in the order in which they take effect. -/
def history (l : List (Seen ι α ρ ⊕ Entry ι α β ρ)) : List (Entry ι α β ρ) :=
  l.filterMap Sum.getRight?

/-- A sequential history that explains what is seen. -/
structure Linearization (serves : σ → α → ρ → σ → Prop) (others : σ → β → σ → Prop) (s t : σ)
    (seen : List (Seen ι α ρ)) (history : List (Entry ι α β ρ)) : Prop where
  sequential : Sequential serves others s history t
  once : (history.filterMap Entry.caller).Nodup
  called : ∀ i a r, .served i a r ∈ history → .call i a ∈ seen
  returned : ∀ i r, .ret i r ∈ seen → ∃ a, .served i a r ∈ history
  /-- An operation that was answered before another one was called comes before it. -/
  realTime : ∀ i r j b r', [.ret i r, .call j b].Sublist seen → .served j b r' ∈ history →
    ∃ a, [.served i a r, .served j b r'].Sublist history

/-! ## Lists -/

/-- Two elements in their order, in a list with one more. -/
lemma pair_sublist_concat {γ : Type*} {l : List γ} {x y z : γ} :
    [x, y].Sublist (l ++ [z]) ↔ [x, y].Sublist l ∨ x ∈ l ∧ y = z := by
  rw [← List.reverse_sublist, List.reverse_append, ← @List.reverse_sublist _ [x, y] l]
  simp only [List.reverse_cons, List.reverse_nil, List.nil_append, List.singleton_append]
  rw [List.sublist_cons_iff]
  simp [and_comm]

section
variable {l : List (Seen ι α ρ ⊕ Entry ι α β ρ)}

@[simp] lemma mem_seen {x : Seen ι α ρ} : x ∈ seen l ↔ .inl x ∈ l := by
  simp [seen, List.mem_filterMap]

@[simp] lemma mem_history {e : Entry ι α β ρ} : e ∈ history l ↔ .inr e ∈ l := by
  simp [history, List.mem_filterMap]

@[simp] lemma seen_append (l' : List (Seen ι α ρ ⊕ Entry ι α β ρ)) : seen (l ++ l') = seen l ++ seen l' :=
  List.filterMap_append

@[simp] lemma history_append (l' : List (Seen ι α ρ ⊕ Entry ι α β ρ)) :
    history (l ++ l') = history l ++ history l' :=
  List.filterMap_append

@[simp] lemma seen_inl (x : Seen ι α ρ) : seen [(.inl x : Seen ι α ρ ⊕ Entry ι α β ρ)] = [x] := rfl

@[simp] lemma seen_inr (e : Entry ι α β ρ) : seen [(.inr e : Seen ι α ρ ⊕ Entry ι α β ρ)] = [] := rfl

@[simp] lemma history_inl (x : Seen ι α ρ) : history [(.inl x : Seen ι α ρ ⊕ Entry ι α β ρ)] = [] := rfl

@[simp] lemma history_inr (e : Entry ι α β ρ) : history [(.inr e : Seen ι α ρ ⊕ Entry ι α β ρ)] = [e] := rfl

/-! ## Timelines -/

namespace Timeline

/-- An operation that has taken effect was called. -/
lemma called (tl : Timeline l) {i : ι} {a : α} {r : ρ} (h : .inr (.served i a r) ∈ l) : .inl (.call i a) ∈ l := by
  induction tl with
  | nil => cases h
  | served _ call _ ih =>
    rcases List.mem_append.mp h with h | h
    · exact List.mem_append_left _ (ih h)
    · cases List.mem_singleton.mp h
      exact List.mem_append_left _ call
  | call _ _ ih | other _ ih | ret _ _ _ ih =>
    rcases List.mem_append.mp h with h | h
    · exact List.mem_append_left _ (ih h)
    · cases List.mem_singleton.mp h

/-- An answer is that of an operation that has taken effect. -/
lemma returned (tl : Timeline l) {i : ι} {r : ρ} (h : .inl (.ret i r) ∈ l) : ∃ a, .inr (.served i a r) ∈ l := by
  induction tl with
  | nil => cases h
  | ret _ served _ ih =>
    rcases List.mem_append.mp h with h | h
    · obtain ⟨a, before⟩ := ih h
      exact ⟨a, List.mem_append_left _ before⟩
    · cases List.mem_singleton.mp h
      exact ⟨_, List.mem_append_left _ served⟩
  | call _ _ ih | other _ ih | served _ _ _ ih =>
    rcases List.mem_append.mp h with h | h
    · obtain ⟨a, before⟩ := ih h
      exact ⟨a, List.mem_append_left _ before⟩
    · cases List.mem_singleton.mp h

/-- No operation takes effect twice. -/
lemma once (tl : Timeline l) : ((history l).filterMap Entry.caller).Nodup := by
  induction tl with
  | nil => exact .nil
  | @served l i a r _ _ first ih =>
    rw [history_append, history_inr, List.filterMap_append, List.nodup_append]
    refine ⟨ih, List.nodup_singleton _, ?_⟩
    intro j hj k hk same
    obtain ⟨e, he, caller⟩ := List.mem_filterMap.mp hj
    cases List.mem_singleton.mp hk
    cases e with
    | served j a' r' =>
      cases caller
      cases same
      exact first a' r' (mem_history.mp he)
    | other => cases caller
  | call _ _ ih | ret _ _ _ ih => simpa using ih
  | other _ ih =>
    rw [history_append, history_inr, List.filterMap_append]
    exact (List.append_nil _).symm ▸ ih

/-- An operation that was answered before another one was called takes effect before it. -/
lemma realTime (tl : Timeline l) {i j : ι} {r r' : ρ} {b : α} (before : [.ret i r, .call j b].Sublist (seen l))
    (h : .inr (.served j b r') ∈ l) : ∃ a, [.served i a r, .served j b r'].Sublist (history l) := by
  induction tl with
  | nil => cases h
  | @call l k c tl new ih =>
    rcases List.mem_append.mp h with earlier | h
    · rw [seen_append, seen_inl, pair_sublist_concat] at before
      rcases before with before | before
      · simpa using ih before earlier
      -- the operation would have taken effect before its call
      · cases before.2
        exact absurd (tl.called earlier) (new b)
    · cases List.mem_singleton.mp h
  | @served l k c r'' tl _ _ ih =>
    rw [seen_append, seen_inr, List.append_nil] at before
    simp only [history_append, history_inr, pair_sublist_concat]
    rcases List.mem_append.mp h with h | h
    · obtain ⟨a, first⟩ := ih before h
      exact ⟨a, .inl first⟩
    · cases List.mem_singleton.mp h
      have answered := before.subset List.mem_cons_self
      obtain ⟨a, first⟩ := tl.returned (mem_seen.mp answered)
      exact ⟨a, .inr ⟨mem_history.mpr first, rfl⟩⟩
  | @other l c tl ih =>
    rw [seen_append, seen_inr, List.append_nil] at before
    simp only [history_append, history_inr, pair_sublist_concat]
    rcases List.mem_append.mp h with h | h
    · obtain ⟨a, first⟩ := ih before h
      exact ⟨a, .inl first⟩
    · cases List.mem_singleton.mp h
  | @ret l k c r'' tl _ _ ih =>
    rcases List.mem_append.mp h with h | h
    · rw [seen_append, seen_inl, pair_sublist_concat] at before
      rcases before with before | before
      · simpa using ih before h
      · cases before.2
    · cases List.mem_singleton.mp h

/-- The points of a timeline explain what is seen of it. -/
theorem linearization {serves : σ → α → ρ → σ → Prop} {others : σ → β → σ → Prop} {s t : σ} (tl : Timeline l)
    (sequential : Sequential serves others s (history l) t) :
    Linearization serves others s t (seen l) (history l) where
  sequential := sequential
  once := tl.once
  called _ _ _ h := mem_seen.mpr (tl.called (mem_history.mp h))
  returned i r h := by
    obtain ⟨a, served⟩ := tl.returned (mem_seen.mp h)
    exact ⟨a, mem_history.mpr served⟩
  realTime _ _ _ _ _ before h := tl.realTime before (mem_history.mp h)

end Timeline

end

end AtomicObject
