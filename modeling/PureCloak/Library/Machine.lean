import Mathlib.Tactic.Lemma
import Mathlib.Data.List.Chain
import Mathlib.Data.List.Induction

/-!
# Machines and their runs

A machine is a partial step function `σ → ε → Option σ`: what the scheduler and the environment
choose is in the event, and `none` means that the event is not enabled. `Run step s tr t` says that
the steps listed in `tr` lead from `s` to `t`; each entry of `tr` is a step as the pair of the state
before it and its event. `exec` runs a list of events.

The rules are the usual ones: `Run.invariant` (an invariant of every step holds of every run),
`Run.invariant_guarded` (the same, in runs whose steps all meet a guard), `Run.always_iff` (where the
guard is exactly what a step needs to keep a property, the runs that keep it are the guarded ones; with
`Run.always_iff_of_guarded`, among the runs that keep to a rule; `Run.always_iff_of_kept`, where the invariant
too lasts only as long as the guard) and `Run.split` (a step of a run splits the run in two);
`Run.chain_iff` is the analogue of `Run.always_iff` for a relation between each state and the next, `Run.guarded_iff`
the one for a property of each step.
`exec_simulation` compares two machines.
-/

namespace Machine

variable {σ ε : Type*} {step : σ → ε → Option σ}

/-- The steps listed in the trace lead from one state to another. -/
inductive Run (step : σ → ε → Option σ) (s : σ) : List (σ × ε) → σ → Prop where
  | nil : Run step s [] s
  | snoc {tr t e u} :
    Run step s tr t →
    step t e = some u →
    Run step s (tr ++ [(t, e)]) u

/-- A property of every state a run visits, its last one included. -/
def Always (P : σ → Prop) (tr : List (σ × ε)) (t : σ) : Prop :=
  (∀ p ∈ tr, P p.1) ∧ P t

/-- The states a run visits, in their order. -/
def states (tr : List (σ × ε)) (t : σ) : List σ :=
  tr.map Prod.fst ++ [t]

/-- A guard that every step of a run meets. -/
def Guarded (G : σ → ε → Prop) (tr : List (σ × ε)) : Prop :=
  ∀ p ∈ tr, G p.1 p.2

instance {G : σ → ε → Prop} [∀ s e, Decidable (G s e)] (tr : List (σ × ε)) :
    Decidable (Guarded G tr) :=
  inferInstanceAs (Decidable (∀ p ∈ tr, G p.1 p.2))

/-- Run a list of events. -/
def exec (step : σ → ε → Option σ) : σ → List ε → Option σ
  | s, [] => some s
  | s, e :: es => (step s e).bind (exec step · es)

/-- The trace of a list of events. -/
def trace (step : σ → ε → Option σ) : σ → List ε → List (σ × ε)
  | _, [] => []
  | s, e :: es => (s, e) :: ((step s e).map (trace step · es)).getD []

/-- The steps of two runs meet a guard when those of each do. -/
lemma Guarded.append {G : σ → ε → Prop} {tr1 tr2 : List (σ × ε)} :
    Guarded G (tr1 ++ tr2) ↔ Guarded G tr1 ∧ Guarded G tr2 := by
  simp only [Guarded, List.mem_append, or_imp, forall_and]

/-- A run of one step. -/
lemma Guarded.singleton {G : σ → ε → Prop} {t e} : Guarded G [(t, e)] ↔ G t e := by
  simp [Guarded]

/-- A trace of events that all meet a condition is guarded by it. -/
lemma Guarded.trace {Q : ε → Prop} {es : List ε} (h : ∀ e ∈ es, Q e) (s : σ) :
    Guarded (fun _ e => Q e) (trace step s es) := by
  induction es generalizing s with
  | nil =>
    intro p hp
    cases hp
  | cons e es ih =>
    intro p hp
    obtain rfl | hp := List.mem_cons.mp hp
    · exact h e List.mem_cons_self
    · cases hs : step s e with
      | none => simp [hs] at hp
      | some t =>
        simp only [hs, Option.map_some, Option.getD_some] at hp
        exact ih (fun e he => h e (List.mem_cons_of_mem _ he)) t p hp

/-- What follows from an invariant holds as long. -/
lemma Always.imp {P Q : σ → Prop} (h : ∀ s, P s → Q s) {tr : List (σ × ε)} {t : σ}
    (all : Always P tr t) : Always Q tr t :=
  ⟨fun p hp => h p.1 (all.1 p hp), h t all.2⟩

/-- Two runs, one after the other. -/
lemma Run.append {s t u tr1 tr2} (r1 : Run step s tr1 t) (r2 : Run step t tr2 u) :
    Run step s (tr1 ++ tr2) u := by
  induction r2 with
  | nil => simpa using r1
  | snoc _ st ih =>
    rw [← List.append_assoc]
    exact .snoc ih st

/-- One step is a run. -/
lemma Run.single {s e t} (st : step s e = some t) : Run step s [(s, e)] t :=
  .snoc .nil st

/-- Executing events yields a run. -/
lemma Run.of_exec {s es t} (h : exec step s es = some t) : Run step s (trace step s es) t := by
  induction es generalizing s with
  | nil =>
    cases h
    exact .nil
  | cons e es ih =>
    obtain ⟨u, st, h⟩ := Option.bind_eq_some_iff.mp h
    have r := Run.append (.single st) (ih h)
    simpa [trace, st] using r

/-- A relation that a step of one machine carries over to a step of another one carries over every list
of events. -/
lemma exec_simulation {τ : Type*} {step' : τ → ε → Option τ} {R : σ → τ → Prop}
    (sim : ∀ s s' e t, R s s' → step s e = some t → ∃ t', step' s' e = some t' ∧ R t t')
    {s s' es t} (h : R s s') (ex : exec step s es = some t) :
    ∃ t', exec step' s' es = some t' ∧ R t t' := by
  induction es generalizing s s' with
  | nil =>
    cases ex
    exact ⟨s', rfl, h⟩
  | cons e es ih =>
    obtain ⟨u, st, ex⟩ := Option.bind_eq_some_iff.mp ex
    obtain ⟨u', st', h⟩ := sim _ _ _ _ h st
    obtain ⟨t', ex', h⟩ := ih h ex
    exact ⟨t', Option.bind_eq_some_iff.mpr ⟨u', st', ex'⟩, h⟩

/-- A run along a trace with a step in it is a run up to the step, the step, and a run from there. -/
lemma Run.split_at {s t tr1 tr2} {p : σ × ε} (r : Run step s (tr1 ++ p :: tr2) t) :
    ∃ u, Run step s tr1 p.1 ∧ step p.1 p.2 = some u ∧ Run step u tr2 t := by
  induction tr2 using List.reverseRecOn generalizing t with
  | nil =>
    generalize e : tr1 ++ [p] = tr at r
    cases r with
    | nil => simp at e
    | snoc r st =>
      obtain ⟨rfl, h⟩ := List.append_inj' e rfl
      cases List.singleton_inj.mp h
      exact ⟨t, r, st, .nil⟩
  | append_singleton tr2 q ih =>
    rw [← List.cons_append, ← List.append_assoc] at r
    generalize e : tr1 ++ p :: tr2 ++ [q] = tr at r
    cases r with
    | nil => simp at e
    | snoc r st =>
      obtain ⟨rfl, h⟩ := List.append_inj' e rfl
      cases List.singleton_inj.mp h
      obtain ⟨u, r1, st1, r2⟩ := ih r
      exact ⟨u, r1, st1, .snoc r2 st⟩

/-- Every step of a run splits it in two. -/
lemma Run.split {s t tr} (r : Run step s tr t) {p : σ × ε} (hp : p ∈ tr) :
    ∃ tr1 tr2 u, tr = tr1 ++ p :: tr2 ∧ Run step s tr1 p.1 ∧ step p.1 p.2 = some u ∧
      Run step u tr2 t := by
  obtain ⟨tr1, tr2, rfl⟩ := List.append_of_mem hp
  obtain ⟨u, h⟩ := r.split_at
  exact ⟨tr1, tr2, u, rfl, h⟩

/-- A property that every guarded step keeps holds after every guarded run. -/
lemma Run.invariant_guarded {I : σ → Prop} {G : σ → ε → Prop} {s t tr}
    (keep : ∀ {u e v}, I u → G u e → step u e = some v → I v)
    (r : Run step s tr t) (h0 : I s) (hg : Guarded G tr) : I t := by
  induction r with
  | nil => exact h0
  | snoc _ st ih =>
    obtain ⟨hg, ge⟩ := Guarded.append.mp hg
    exact keep (ih hg) (Guarded.singleton.mp ge) st

/-- A property that every step keeps holds after every run. -/
lemma Run.invariant {I : σ → Prop} {s t tr} (keep : ∀ {u e v}, I u → step u e = some v → I v)
    (r : Run step s tr t) (h0 : I s) : I t :=
  r.invariant_guarded (G := fun _ _ => True) (fun h _ => keep h) h0 (fun _ _ => trivial)

/-- In a guarded run a property that guarded steps keep holds of every state visited. -/
lemma Run.always_of_guarded {I : σ → Prop} {G : σ → ε → Prop} {s t tr}
    (keep : ∀ {u e v}, I u → G u e → step u e = some v → I v)
    (r : Run step s tr t) (h0 : I s) (hg : Guarded G tr) : Always I tr t := by
  refine ⟨?_, r.invariant_guarded keep h0 hg⟩
  intro p hp
  obtain ⟨tr1, _, _, rfl, r1, _, _⟩ := r.split hp
  exact r1.invariant_guarded keep h0 (Guarded.append.mp hg).1

/-- Where guarded steps keep an invariant, and under the invariant the steps with a property are the guarded ones, the
runs whose steps all have the property are the guarded ones. -/
theorem Run.guarded_iff {I : σ → Prop} {G H : σ → ε → Prop} {s t tr}
    (keep : ∀ {u e v}, I u → G u e → step u e = some v → I v)
    (exact_step : ∀ {u e v}, I u → step u e = some v → (H u e ↔ G u e))
    (r : Run step s tr t) (h0 : I s) : Guarded H tr ↔ Guarded G tr := by
  induction r with
  | nil => simp [Guarded]
  | snoc r st ih =>
    rw [Guarded.append, Guarded.append, Guarded.singleton, Guarded.singleton, ih]
    exact and_congr_right fun guarded => exact_step (r.invariant_guarded keep h0 guarded) st

/-- Where, under an invariant and a rule that every step of the run keeps to, a step keeps `P` exactly when it
meets the guard, the run keeps `P` in every state exactly when all its steps meet the guard. -/
theorem Run.always_iff_of_guarded {I P : σ → Prop} {G H : σ → ε → Prop} {s t tr}
    (keepI : ∀ {u e v}, I u → H u e → step u e = some v → I v)
    (exact_step : ∀ {u e v}, I u → H u e → P u → step u e = some v → (P v ↔ G u e))
    (r : Run step s tr t) (hI : I s) (hP : P s) (hH : Guarded H tr) :
    Always P tr t ↔ Guarded G tr := by
  induction r with
  | nil => simp [Always, Guarded, hP]
  | @snoc tr t e u r st ih =>
    obtain ⟨hH, he⟩ := Guarded.append.mp hH
    have he := Guarded.singleton.mp he
    have ih := ih hH
    have It : I t := r.invariant_guarded keepI hI hH
    have key : Always P (tr ++ [(t, e)]) u ↔ Always P tr t ∧ P u := by
      simp [Always, or_imp, forall_and]
    rw [key, Guarded.append, Guarded.singleton, ih]
    constructor
    · rintro ⟨hg, hPu⟩
      exact ⟨hg, (exact_step It he (ih.mpr hg).2 st).mp hPu⟩
    · rintro ⟨hg, ge⟩
      exact ⟨hg, (exact_step It he (ih.mpr hg).2 st).mpr ge⟩

/-- Where, under an invariant, a step keeps `P` exactly when it meets the guard, a run keeps `P` in
every state exactly when all its steps meet the guard. -/
theorem Run.always_iff {I P : σ → Prop} {G : σ → ε → Prop} {s t tr}
    (keepI : ∀ {u e v}, I u → step u e = some v → I v)
    (exact_step : ∀ {u e v}, I u → P u → step u e = some v → (P v ↔ G u e))
    (r : Run step s tr t) (hI : I s) (hP : P s) : Always P tr t ↔ Guarded G tr :=
  r.always_iff_of_guarded (H := fun _ _ => True) (fun h _ => keepI h) (fun h _ => exact_step h) hI hP
    (fun _ _ => trivial)

/-- Where a guarded step keeps an invariant that is stronger than `P`, and from such a state a step that is not
guarded breaks `P`, the runs that keep `P` in every state are the guarded ones. -/
theorem Run.always_iff_of_kept {J P : σ → Prop} {G : σ → ε → Prop} {s t tr}
    (keep : ∀ {u e v}, J u → G u e → step u e = some v → J v) (imp : ∀ u, J u → P u)
    (exact_step : ∀ {u e v}, J u → P v → step u e = some v → G u e)
    (r : Run step s tr t) (hJ : J s) : Always P tr t ↔ Guarded G tr := by
  constructor
  · intro all
    induction r with
    | nil =>
      intro p hp
      cases hp
    | snoc r st ih =>
      obtain ⟨visited, last⟩ := all
      have guarded := ih ⟨fun p hp => visited p (List.mem_append_left _ hp), visited _ List.mem_concat_self⟩
      rw [Guarded.append, Guarded.singleton]
      exact ⟨guarded, exact_step (r.invariant_guarded keep hJ guarded) last st⟩
  · intro guarded
    exact (r.always_of_guarded keep hJ guarded).imp imp

/-- The states of a run and of one more step. -/
lemma states_snoc (tr : List (σ × ε)) (t : σ) (e : ε) (u : σ) :
    states (tr ++ [(t, e)]) u = states tr t ++ [u] := by
  simp [states]

/-- Where the guard is exactly what a step needs to relate its two states, the runs that relate each
state to the next one are the guarded ones. -/
theorem Run.chain_iff {R : σ → σ → Prop} {G : σ → ε → Prop} {s t tr}
    (exact_step : ∀ {u e v}, step u e = some v → (R u v ↔ G u e)) (r : Run step s tr t) :
    List.IsChain R (states tr t) ↔ Guarded G tr := by
  induction r with
  | nil => simp [states, Guarded]
  | @snoc tr t e u r st ih =>
    rw [states_snoc, Guarded.append, Guarded.singleton, ← ih, ← exact_step st, states,
      List.isChain_append]
    simp

end Machine
