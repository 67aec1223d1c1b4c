import Mathlib.Tactic.Lemma
import Mathlib.Data.List.Basic

/-!
# Observers

A subject whose state is shown by views, and which tells them of some of its calls. A view shows what it read when it was
attached or told last. The views are current after a call exactly when it told them of a change, changed nothing that is
shown or met no view (`Observed.current_call_iff`).
-/

namespace Observers

/-- A subject with its calls: what they do, which of them it tells its observers of, and what is shown of its state. -/
structure Subject (σ ω β : Type*) where
  apply : σ → ω → σ
  notifies : σ → ω → Bool
  display : σ → β

/-- The state of a subject, and its views with what they show, in the order in which they were attached. -/
structure Observed (σ β : Type*) where
  state : σ
  views : List (ℕ × β) := []

namespace Observed
variable {σ ω β : Type*} (S : Subject σ ω β) (o : Observed σ β)

/-- A view reads the state again. -/
def refresh (n : ℕ) : Observed σ β :=
  { o with views := o.views.map fun v => if v.1 = n then (n, S.display o.state) else v }

/-- A view is attached. -/
def attach (n : ℕ) : Observed σ β :=
  { o with views := o.views ++ [(n, S.display o.state)] }

/-- A view is detached. -/
def detach (n : ℕ) : Observed σ β :=
  { o with views := o.views.filter fun v => v.1 ≠ n }

/-- A call, of which the views are told or not. -/
def call (op : ω) : Observed σ β :=
  let state := S.apply o.state op
  { state, views := if S.notifies o.state op then o.views.map fun v => (v.1, S.display state) else o.views }

/-- There is a view with this number. -/
def Attached (n : ℕ) : Prop :=
  n ∈ o.views.map Prod.fst

instance (n : ℕ) : Decidable (o.Attached n) :=
  inferInstanceAs (Decidable (n ∈ _))

/-- Each view shows the state. -/
def Current : Prop :=
  ∀ v ∈ o.views, v.2 = S.display o.state

/-- Views are told of the call, it changes nothing that is shown, or there are no views. -/
def Honest (op : ω) : Prop :=
  S.notifies o.state op = false → S.display (S.apply o.state op) = S.display o.state ∨ o.views = []

variable {S o}

/-- A refresh keeps the views current. -/
lemma Current.refresh (h : o.Current S) (n : ℕ) : (o.refresh S n).Current S := by
  intro v mem
  obtain ⟨w, known, rfl⟩ := List.mem_map.mp mem
  split_ifs
  · rfl
  · exact h w known

/-- So does attaching a view. -/
lemma Current.attach (h : o.Current S) (n : ℕ) : (o.attach S n).Current S := by
  intro v mem
  cases List.mem_append.mp mem with
  | inl mem => exact h v mem
  | inr mem => rw [List.mem_singleton.mp mem]; rfl

/-- So does detaching one. -/
lemma Current.detach (h : o.Current S) (n : ℕ) : (o.detach n).Current S :=
  fun v mem => h v (List.mem_of_mem_filter mem)

/-- What a call leaves current. -/
lemma current_call_iff (h : o.Current S) (op : ω) : (o.call S op).Current S ↔ o.Honest S op := by
  rw [call, Honest]
  cases told : S.notifies o.state op with
  | true =>
    refine ⟨fun _ silent => absurd silent (by decide), fun _ v mem => ?_⟩
    obtain ⟨w, _, rfl⟩ := List.mem_map.mp mem
    rfl
  | false =>
    constructor
    · intro current _
      cases views : o.views with
      | nil => exact .inr rfl
      | cons v _ =>
        have shown : v ∈ o.views := views ▸ List.mem_cons_self
        exact .inl ((current v shown).symm.trans (h v shown))
    · rintro honest v (mem : v ∈ o.views)
      obtain same | none := honest rfl
      · exact (h v mem).trans same.symm
      · rw [none] at mem
        cases mem

@[simp]
lemma attached_call (op : ω) (n : ℕ) : (o.call S op).Attached n ↔ o.Attached n := by
  rw [Attached, call]
  split_ifs
  · rw [List.map_map]
    rfl
  · rfl

@[simp]
lemma attached_attach (m n : ℕ) : (o.attach S m).Attached n ↔ o.Attached n ∨ n = m := by
  simp [Attached, Observed.attach]

@[simp]
lemma attached_detach (m n : ℕ) : (o.detach m).Attached n ↔ o.Attached n ∧ n ≠ m := by
  simp [Attached, Observed.detach]

@[simp]
lemma attached_refresh (m n : ℕ) : (o.refresh S m).Attached n ↔ o.Attached n := by
  have numbers : (o.refresh S m).views.map Prod.fst = o.views.map Prod.fst := by
    rw [Observed.refresh, List.map_map]
    refine List.map_congr_left fun v _ => ?_
    dsimp only [Function.comp]
    split_ifs with own
    · exact own.symm
    · rfl
  rw [Attached, numbers]
  rfl

end Observed

end Observers
