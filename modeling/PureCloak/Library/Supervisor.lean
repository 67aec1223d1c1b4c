import Mathlib.Data.Multiset.Filter
import Mathlib.Logic.Function.Basic
import Mathlib.Tactic.Lemma

/-!
# Supervisors

A supervisor keeps one slot for each key and launches children for keys. A slot refers to the child that was
launched last for its key and to the resource that the child was given; a resource is reserved before
the launch and is pending in between. A child can be asked to terminate, which is what releasing its
slot does, and it can die by itself.

`Owned` says that every child that lives and was not asked to terminate is the one in the slot of its
key; it is kept exactly by the actions that do not launch over such a child (`owned_step_iff`). `Distinct`
says that no two keys whose children live have the same resource; it is kept exactly by the actions that do
not launch with a resource of another key (`distinct_step_iff`), which is so when no resource is reserved
that is in use (`Exclusive.step`).
-/

namespace Supervisor

variable {κ ρ : Type*}

/-- A child that was launched. -/
structure Child (κ : Type*) where
  owner : κ
  alive : Bool := true
  asked : Bool := false

/-- The child lives and was not asked to terminate. -/
def Child.live (c : Child κ) : Bool :=
  c.alive && !c.asked

def Child.ask (c : Child κ) : Child κ :=
  { c with asked := true }

def Child.die (c : Child κ) : Child κ :=
  { c with alive := false }

/-! ## Children -/

/-- What can become of a child. -/
structure Child.After (c c' : Child κ) : Prop where
  owner : c'.owner = c.owner
  alive : c'.alive → c.alive
  live : c'.live → c.live

/-- Nothing has happened to a child. -/
lemma Child.After.refl (c : Child κ) : c.After c :=
  ⟨rfl, id, id⟩

@[simp]
lemma Child.ask_live (c : Child κ) : c.ask.live = false := by
  simp [Child.ask, Child.live]

/-- A child can be asked. -/
lemma Child.After.ask (c : Child κ) : c.After c.ask :=
  ⟨rfl, id, by simp⟩

/-- A child can die. -/
lemma Child.After.die (c : Child κ) : c.After c.die :=
  ⟨rfl, nofun, nofun⟩

/-- An element of a list with one more. -/
lemma getElem?_concat {α : Type*} {l : List α} {a b : α} {n : Nat} (h : (l ++ [a])[n]? = some b) :
    l[n]? = some b ∨ n = l.length ∧ b = a := by
  rw [List.getElem?_append] at h
  split at h
  case isTrue => exact .inl h
  case isFalse ge =>
    rw [List.getElem?_singleton] at h
    split at h
    · exact .inr ⟨by omega, (Option.some.inj h).symm⟩
    · cases h

/-- A change of one child is a change of the list. -/
lemma after_modify {f : Child κ → Child κ} (hf : ∀ c, Child.After c (f c))
    (children : List (Child κ)) (n m : Nat) :
    (∀ c, children[n]? = some c → ∃ c', (children.modify m f)[n]? = some c' ∧ c.After c') ∧
    ∀ c', (children.modify m f)[n]? = some c' → ∃ c, children[n]? = some c ∧ c.After c' := by
  rw [List.getElem?_modify]
  split
  · refine ⟨?_, ?_⟩
    · intro c h
      exact ⟨f c, by rw [h]; rfl, hf c⟩
    · intro c' h
      obtain ⟨c, hc, rfl⟩ := Option.map_eq_some_iff.mp h
      exact ⟨c, hc, hf c⟩
  · simp only [id_map']
    exact ⟨fun c h => ⟨c, h, .refl c⟩, fun c h => ⟨c, h, .refl c⟩⟩

/-! ## States and actions -/

/-- The slots, the children by their numbers, and the resources that are reserved for launches. -/
@[ext]
structure State (κ ρ : Type*) where
  slot : κ → Option (Nat × ρ)
  children : List (Child κ)
  pending : Multiset ρ

inductive Action (κ ρ : Type*) where
  | reserve (r : ρ)
  | drop (r : ρ)
  | launch (k : κ) (r : ρ)
  | release (k : κ)
  | releaseAll
  | die (n : Nat)
  | idle

/-- The child in a slot. -/
def State.childOf (s : State κ ρ) (k : κ) : Option Nat :=
  (s.slot k).map Prod.fst

/-- The child of a key is the one in its slot. -/
lemma childOf_eq_some {s : State κ ρ} {k : κ} {n : Nat} :
    s.childOf k = some n ↔ ∃ r, s.slot k = some (n, r) := by
  simp [State.childOf]

/-- The child in a slot was launched for the key of the slot. -/
def WF (s : State κ ρ) : Prop :=
  ∀ k n, s.childOf k = some n → ∃ c, s.children[n]? = some c ∧ c.owner = k

/-- Every child that lives and was not asked to terminate is in the slot of its key. -/
def Owned (s : State κ ρ) : Prop :=
  ∀ n c, s.children[n]? = some c → c.live → s.childOf c.owner = some n

/-- Two such children of one key are the same child. -/
lemma Owned.unique {s : State κ ρ} (owned : Owned s) {n n' : Nat} {c c' : Child κ}
    (h : s.children[n]? = some c) (h' : s.children[n']? = some c') (live : c.live)
    (live' : c'.live) (same : c.owner = c'.owner) : n = n' := by
  have slot := owned n c h live
  rw [same, owned n' c' h' live'] at slot
  exact (Option.some.inj slot).symm

variable [DecidableEq κ] [DecidableEq ρ]

/-- The state after an action. -/
def State.step (s : State κ ρ) : Action κ ρ → State κ ρ
  | .reserve r => { s with pending := r ::ₘ s.pending }
  | .drop r => { s with pending := s.pending.erase r }
  | .launch k r =>
    { slot := Function.update s.slot k (some (s.children.length, r))
      children := s.children ++ [{ owner := k }]
      pending := s.pending.erase r }
  | .release k =>
    { s with
      slot := Function.update s.slot k none
      children := (s.childOf k).elim s.children fun n => s.children.modify n Child.ask }
  | .releaseAll =>
    { s with
      slot := fun _ => none
      children := s.children.mapIdx fun n c => if s.childOf c.owner = some n then c.ask else c }
  | .die n => { s with children := s.children.modify n Child.die }
  | .idle => s

/-- The children after an action are what became of those before, and the one that the action launched. -/
lemma child_step (s : State κ ρ) (a : Action κ ρ) (n : Nat) :
    (∀ c, s.children[n]? = some c → ∃ c', (s.step a).children[n]? = some c' ∧ c.After c') ∧
    ∀ c', (s.step a).children[n]? = some c' → (∃ c, s.children[n]? = some c ∧ c.After c') ∨
      ∃ k r, a = .launch k r ∧ n = s.children.length ∧ c' = { owner := k } := by
  cases a with
  | reserve | drop | idle =>
    exact ⟨fun c h => ⟨c, h, .refl c⟩, fun c h => .inl ⟨c, h, .refl c⟩⟩
  | launch k r =>
    refine ⟨?_, ?_⟩
    · intro c h
      have lt := (List.getElem?_eq_some_iff.mp h).1
      exact ⟨c, (List.getElem?_append_left lt).trans h, .refl c⟩
    · intro c' h
      obtain h | ⟨hn, hc⟩ := getElem?_concat h
      · exact .inl ⟨c', h, .refl c'⟩
      · exact .inr ⟨k, r, rfl, hn, hc⟩
  | release k =>
    show (∀ c, _ → ∃ c', ((s.childOf k).elim s.children _)[n]? = some c' ∧ _) ∧
      ∀ c', ((s.childOf k).elim s.children _)[n]? = some c' → _
    cases s.childOf k with
    | none => exact ⟨fun c h => ⟨c, h, .refl c⟩, fun c h => .inl ⟨c, h, .refl c⟩⟩
    | some m =>
      obtain ⟨there, back⟩ := after_modify Child.After.ask s.children n m
      exact ⟨there, fun c' h => .inl (back c' h)⟩
  | releaseAll =>
    have after (c : Child κ) :
        c.After (if s.childOf c.owner = some n then c.ask else c) := by
      split
      · exact .ask c
      · exact .refl c
    show (∀ c, _ → ∃ c', (s.children.mapIdx _)[n]? = some c' ∧ _) ∧
      ∀ c', (s.children.mapIdx _)[n]? = some c' → _
    rw [List.getElem?_mapIdx]
    refine ⟨?_, ?_⟩
    · intro c h
      exact ⟨_, by rw [h]; rfl, after c⟩
    · intro c' h
      obtain ⟨c, hc, rfl⟩ := Option.map_eq_some_iff.mp h
      exact .inl ⟨c, hc, after c⟩
  | die m =>
    obtain ⟨there, back⟩ := after_modify Child.After.die s.children n m
    exact ⟨there, fun c' h => .inl (back c' h)⟩

/-- A slot after an action was one before, or it was filled by the action. -/
lemma slot_cases {s : State κ ρ} {a : Action κ ρ} {k : κ} {x : Nat × ρ}
    (h : (s.step a).slot k = some x) :
    s.slot k = some x ∨ ∃ r, a = .launch k r ∧ x = (s.children.length, r) := by
  cases a with
  | reserve | drop | die | idle => exact .inl h
  | launch k' r =>
    dsimp only [State.step] at h
    rw [Function.update_apply] at h
    split at h
    case isTrue e =>
      subst e
      exact .inr ⟨r, rfl, (Option.some.inj h).symm⟩
    case isFalse => exact .inl h
  | release k' =>
    dsimp only [State.step] at h
    rw [Function.update_apply] at h
    split at h
    · cases h
    · exact .inl h
  | releaseAll => cases h

/-- Every action keeps the table well formed. -/
lemma WF.step {s : State κ ρ} (wf : WF s) (a : Action κ ρ) : WF (s.step a) := by
  intro k n h
  obtain ⟨r, h⟩ := childOf_eq_some.mp h
  obtain h | ⟨r, rfl, e⟩ := slot_cases h
  · obtain ⟨c, hc, rfl⟩ := wf k n (childOf_eq_some.mpr ⟨r, h⟩)
    obtain ⟨c', hc', after⟩ := (child_step s a n).1 c hc
    exact ⟨c', hc', after.owner⟩
  · cases e
    exact ⟨{ owner := k }, by simp [State.step], rfl⟩

/-- Only a launch for its key takes a child that lives and is not asked to terminate out of its slot. -/
lemma childOf_step {s : State κ ρ} {a : Action κ ρ} {n : Nat} {c : Child κ}
    (slot : s.childOf c.owner = some n) (h : (s.step a).children[n]? = some c) (live : c.live)
    (other : ∀ r, a ≠ .launch c.owner r) : (s.step a).childOf c.owner = some n := by
  cases a with
  | reserve | drop | die | idle => exact slot
  | launch k r =>
    have ne : c.owner ≠ k := by
      rintro rfl
      exact other r rfl
    simpa [State.step, State.childOf, ne] using slot
  | release k =>
    by_cases e : c.owner = k
    · subst e
      -- the child was just asked
      replace h : ((s.childOf c.owner).elim s.children _)[n]? = some c := h
      simp only [slot, Option.elim_some, List.getElem?_modify_eq, Option.map_eq_map,
        Option.map_eq_some_iff] at h
      obtain ⟨c, _, rfl⟩ := h
      exact absurd live (by simp)
    · simpa [State.step, State.childOf, e] using slot
  | releaseAll =>
    replace h : (s.children.mapIdx _)[n]? = some c := h
    rw [List.getElem?_mapIdx] at h
    obtain ⟨c', _, rfl⟩ := Option.map_eq_some_iff.mp h
    split at live
    · exact absurd live (by simp)
    case isFalse ne => simp [ne] at slot

/-- Releasing a key asks the child in its slot and no other child of it. -/
lemma child_release {s : State κ ρ} {a : Action κ ρ} {k : κ} (ha : a = .release k ∨ a = .releaseAll)
    {n : Nat} {c : Child κ} (hc : s.children[n]? = some c) (owner : c.owner = k) :
    (s.step a).children[n]? = some (if s.childOf k = some n then c.ask else c) := by
  obtain rfl | rfl := ha
  · show ((s.childOf k).elim s.children fun n => s.children.modify n Child.ask)[n]? = _
    cases s.childOf k with
    | none => simpa using hc
    | some m =>
      rw [Option.elim_some, List.getElem?_modify, hc]
      simp only [Option.some.injEq]
      split <;> rfl
  · show (s.children.mapIdx _)[n]? = _
    rw [List.getElem?_mapIdx, hc, ← owner]
    rfl

/-- The children of a key that live after it was released lived before and were not in its slot. -/
theorem live_release_iff {s : State κ ρ} {a : Action κ ρ} {k : κ}
    (ha : a = .release k ∨ a = .releaseAll) {n : Nat} :
    (∃ c, (s.step a).children[n]? = some c ∧ c.owner = k ∧ c.live) ↔
      ∃ c, s.children[n]? = some c ∧ c.owner = k ∧ c.live ∧ s.childOf k ≠ some n := by
  constructor
  · rintro ⟨c, hc, owner, live⟩
    obtain ⟨c0, hc0, after⟩ | ⟨_, _, launch, _⟩ := (child_step s a n).2 c hc
    · have owner0 : c0.owner = k := after.owner.symm.trans owner
      have asked := child_release ha hc0 owner0
      split at asked
      case isTrue =>
        cases hc.symm.trans asked
        exact absurd live (by simp)
      case isFalse ne =>
        cases hc.symm.trans asked
        exact ⟨c, hc0, owner, live, ne⟩
    · subst launch
      obtain ha | ha := ha <;> cases ha
  · rintro ⟨c, hc, owner, live, ne⟩
    refine ⟨c, ?_, owner, live⟩
    rw [child_release ha hc owner, if_neg ne]

/-- The action asks the child with a number to terminate. -/
def Action.Asks (s : State κ ρ) (n : Nat) : Action κ ρ → Prop
  | .release k => s.childOf k = some n
  | .releaseAll => ∃ k, s.childOf k = some n
  | _ => False

/-- A child was asked when it was before or when the action asks it. -/
lemma asked_step_iff {s : State κ ρ} (wf : WF s) {a : Action κ ρ} {n : Nat} {c c' : Child κ}
    (hc : s.children[n]? = some c) (hc' : (s.step a).children[n]? = some c') :
    c'.asked ↔ c.asked ∨ a.Asks s n := by
  cases a with
  | reserve | drop | idle =>
    cases hc.symm.trans hc'
    simp [Action.Asks]
  | launch k r =>
    have lt := (List.getElem?_eq_some_iff.mp hc).1
    cases hc.symm.trans ((List.getElem?_append_left lt).symm.trans hc')
    simp [Action.Asks]
  | die m =>
    replace hc' : (s.children.modify m Child.die)[n]? = some c' := hc'
    rw [List.getElem?_modify, hc] at hc'
    obtain rfl := Option.some.inj hc'
    split <;> simp [Action.Asks, Child.die]
  | release k =>
    replace hc' : ((s.childOf k).elim s.children fun n => s.children.modify n Child.ask)[n]? =
      some c' := hc'
    show _ ↔ _ ∨ s.childOf k = some n
    cases hk : s.childOf k with
    | none =>
      rw [hk] at hc'
      cases hc.symm.trans hc'
      simp
    | some m =>
      rw [hk, Option.elim_some, List.getElem?_modify, hc] at hc'
      obtain rfl := Option.some.inj hc'
      by_cases e : m = n
      · simp [e, Child.ask]
      · simp [e]
  | releaseAll =>
    replace hc' : (s.children.mapIdx _)[n]? = some c' := hc'
    rw [List.getElem?_mapIdx, hc] at hc'
    obtain rfl := Option.some.inj hc'
    have inSlot : (∃ k, s.childOf k = some n) ↔ s.childOf c.owner = some n := by
      refine ⟨?_, fun h => ⟨c.owner, h⟩⟩
      rintro ⟨k, h⟩
      obtain ⟨c0, hc0, rfl⟩ := wf k n h
      cases hc.symm.trans hc0
      exact h
    show _ ↔ _ ∨ ∃ k, s.childOf k = some n
    rw [inSlot]
    dsimp only
    split
    case isTrue e => simp [e, Child.ask]
    case isFalse ne => simp [ne]

/-! ## Ownership -/

/-- An action keeps every such child in its slot exactly when it does not launch over one. -/
theorem owned_step_iff {s : State κ ρ} (wf : WF s) (owned : Owned s) (a : Action κ ρ) :
    Owned (s.step a) ↔ ∀ k r, a = .launch k r → ∀ n c, s.childOf k = some n →
      s.children[n]? = some c → ¬ c.live := by
  constructor
  · rintro owned' k r rfl n c slot hc live
    obtain ⟨_, hc', rfl⟩ := wf k n slot
    obtain rfl := Option.some.inj (hc.symm.trans hc')
    have lt := (List.getElem?_eq_some_iff.mp hc).1
    have slot' := owned' n c ((List.getElem?_append_left lt).trans hc) live
    simp only [State.step, State.childOf, Function.update_self, Option.map_some,
      Option.some.injEq] at slot'
    omega
  · intro guard n c h live
    obtain ⟨c0, hc0, after⟩ | ⟨k, r, rfl, rfl, rfl⟩ := (child_step s a n).2 c h
    · have slot := owned n c0 hc0 (after.live live)
      rw [← after.owner] at slot
      refine childOf_step slot h live ?_
      rintro r rfl
      exact guard _ r rfl n c0 slot hc0 (after.live live)
    · simp [State.step, State.childOf]

/-! ## Resources -/

/-- A resource that is in the slot of a key with a living child. -/
def Held (s : State κ ρ) (k : κ) (r : ρ) : Prop :=
  ∃ n c, s.slot k = some (n, r) ∧ s.children[n]? = some c ∧ c.alive

/-- No two keys hold the same resource. -/
def Distinct (s : State κ ρ) : Prop :=
  ∀ k k' r, Held s k r → Held s k' r → k = k'

/-- What is held after an action was held before, or the action launched a child with it. -/
lemma held_cases {s : State κ ρ} (wf : WF s) {a : Action κ ρ} {k : κ} {r : ρ}
    (h : Held (s.step a) k r) : Held s k r ∨ a = .launch k r := by
  obtain ⟨n, c, slot, hc, alive⟩ := h
  obtain slot | ⟨r, rfl, e⟩ := slot_cases slot
  · obtain ⟨c0, hc0, after⟩ | ⟨_, _, _, e, _⟩ := (child_step s a n).2 c hc
    · exact .inl ⟨n, c0, slot, hc0, after.alive alive⟩
    · obtain ⟨c0, hc0, _⟩ := wf k n (childOf_eq_some.mpr ⟨r, slot⟩)
      exact absurd (List.getElem?_eq_some_iff.mp hc0).1 (by omega)
  · cases e
    exact .inr rfl

/-- A launch holds its resource. -/
lemma held_launch (s : State κ ρ) (k : κ) (r : ρ) : Held (s.step (.launch k r)) k r := by
  refine ⟨s.children.length, { owner := k }, ?_, ?_, rfl⟩
  · simp [State.step]
  · simp [State.step]

/-- A launch for another key leaves what is held. -/
lemma Held.launch {s : State κ ρ} {k k' : κ} {r' : ρ} (h : Held s k' r') (ne : k' ≠ k) (r : ρ) :
    Held (s.step (.launch k r)) k' r' := by
  obtain ⟨n, c, slot, hc, alive⟩ := h
  refine ⟨n, c, ?_, ?_, alive⟩
  · simpa [State.step, ne] using slot
  · exact (List.getElem?_append_left (List.getElem?_eq_some_iff.mp hc).1).trans hc

/-- An action keeps the resources distinct exactly when it launches no child with one that another key
holds. -/
theorem distinct_step_iff {s : State κ ρ} (wf : WF s) (distinct : Distinct s) (a : Action κ ρ) :
    Distinct (s.step a) ↔ ∀ k r, a = .launch k r → ∀ k', Held s k' r → k' = k := by
  constructor
  · rintro distinct' k r rfl k' held
    by_contra ne
    exact ne (distinct' k' k r (held.launch ne r) (held_launch s k r))
  · intro guard k k' r held held'
    obtain old | new := held_cases wf held
    · obtain old' | new' := held_cases wf held'
      · exact distinct k k' r old old'
      · exact guard k' r new' k old
    · obtain old' | new' := held_cases wf held'
      · exact (guard k r new k' old').symm
      · cases new.symm.trans new'
        rfl

/-- No resource is used twice: those that are held are distinct, and those that are pending are
different from each other and from them. -/
structure Exclusive (s : State κ ρ) : Prop where
  distinct : Distinct s
  nodup : s.pending.Nodup
  apart : ∀ k r, Held s k r → r ∉ s.pending

/-- What is pending was so, or has just been reserved. -/
lemma pending_cases {s : State κ ρ} {a : Action κ ρ} {r : ρ} (h : r ∈ (s.step a).pending) :
    r ∈ s.pending ∨ a = .reserve r := by
  cases a with
  | reserve r' =>
    obtain rfl | h := Multiset.mem_cons.mp h
    · exact .inr rfl
    · exact .inl h
  | drop | launch => exact .inl (Multiset.mem_of_mem_erase h)
  | release | releaseAll | die | idle => exact .inl h

/-- Where a resource is reserved only when it is not in use, and a child is launched only with one
that is reserved, no resource is used twice. -/
theorem Exclusive.step {s : State κ ρ} (wf : WF s) (ex : Exclusive s) {a : Action κ ρ}
    (fresh : ∀ r, a = .reserve r → r ∉ s.pending ∧ ∀ k, ¬ Held s k r)
    (reserved : ∀ k r, a = .launch k r → r ∈ s.pending) : Exclusive (s.step a) where
  distinct := by
    refine (distinct_step_iff wf ex.distinct a).mpr ?_
    rintro k r rfl k' held
    exact absurd (reserved k r rfl) (ex.apart k' r held)
  nodup := by
    cases a with
    | reserve r => exact Multiset.nodup_cons.mpr ⟨(fresh r rfl).1, ex.nodup⟩
    | drop r | launch _ r => exact ex.nodup.erase r
    | release | releaseAll | die | idle => exact ex.nodup
  apart := by
    intro k r held pending
    obtain old | rfl := held_cases wf held
    · obtain before | new := pending_cases pending
      · exact ex.apart k r old before
      · exact (fresh r new).2 k old
    · exact ex.nodup.notMem_erase pending

end Supervisor
