import Mathlib.Data.List.DropRight
import Mathlib.Tactic.Lemma

/-!
# Walks in a tree

A place in a tree is the list of names that lead to it from the root. A walk is a list of moves: to the parent,
where the root is its own parent, or down to a child. Whatever the moves are, a walk comes to going up
some levels first and then down, which is its `net`; `walk_eq_net` says so, and `walk_eq_append_iff`
says which walks end inside the place where they started.
-/

namespace Walk

/-- A move from one place of a tree to the next. -/
inductive Move (α : Type*) where
  | stay
  | up
  | down (name : α)

/-- Going up some levels, then down by some names. -/
structure Net (α : Type*) where
  ups : ℕ := 0
  downs : List α := []

variable {α : Type*}

/-- Where a move leads from a place. -/
def Move.apply (dir : List α) : Move α → List α
  | .stay => dir
  | .up => dir.dropLast
  | .down name => dir ++ [name]

/-- Where the moves of a walk lead from a place. -/
def walk (dir : List α) (moves : List (Move α)) : List α :=
  moves.foldl Move.apply dir

/-- Two walks, one after the other. -/
lemma walk_append (dir : List α) (m1 m2 : List (Move α)) :
    walk dir (m1 ++ m2) = walk (walk dir m1) m2 :=
  List.foldl_append

/-- A move up takes back the last move down, if there is one. -/
def Net.add (n : Net α) : Move α → Net α
  | .stay => n
  | .up => if n.downs = [] then { n with ups := n.ups + 1 } else { n with downs := n.downs.dropLast }
  | .down name => { n with downs := n.downs ++ [name] }

/-- What the moves of a walk come to. -/
def net (moves : List (Move α)) : Net α :=
  moves.foldl Net.add {}

/-- Where going up and then down leads from a place. -/
def Net.apply (dir : List α) (n : Net α) : List α :=
  dir.rdrop n.ups ++ n.downs

/-- One more element is dropped at the end. -/
lemma rdrop_succ (l : List α) (n : ℕ) : l.rdrop (n + 1) = (l.rdrop n).dropLast := by
  induction l using List.reverseRecOn generalizing n with
  | nil => simp
  | append_singleton l a ih =>
    cases n with
    | zero => simp
    | succ n => rw [List.rdrop_concat_succ, List.rdrop_concat_succ, ih]

/-- A move is added to the net walk. -/
lemma Net.apply_add (dir : List α) (n : Net α) (m : Move α) :
    (n.add m).apply dir = m.apply (n.apply dir) := by
  cases m with
  | stay => rfl
  | up =>
    simp only [add, apply, Move.apply]
    split
    case isTrue h => simp only [h, List.append_nil, rdrop_succ]
    case isFalse h => rw [List.dropLast_append_of_ne_nil h]
  | down name => simp only [add, apply, Move.apply, List.append_assoc]

/-- A walk leads where its net moves lead. -/
theorem walk_eq_net (dir : List α) (moves : List (Move α)) :
    walk dir moves = (net moves).apply dir := by
  induction moves using List.reverseRecOn with
  | nil => simp [walk, net, Net.apply]
  | append_singleton moves m ih =>
    have add : net (moves ++ [m]) = (net moves).add m := by
      rw [net, List.foldl_append]
      rfl
    rw [walk_append, ih, add, Net.apply_add]
    rfl

/-- A walk leads to what lies by some names below its start exactly when it goes down by the names it went up,
and then by these. -/
theorem walk_eq_append_iff {dir rest : List α} {moves : List (Move α)} :
    walk dir moves = dir ++ rest ↔ (net moves).downs = dir.rtake (net moves).ups ++ rest := by
  have both : dir = dir.rdrop (net moves).ups ++ dir.rtake (net moves).ups :=
    (List.take_append_drop _ dir).symm
  rw [walk_eq_net, Net.apply]
  constructor
  · intro h
    have h : dir.rdrop (net moves).ups ++ (net moves).downs =
        dir.rdrop (net moves).ups ++ (dir.rtake (net moves).ups ++ rest) := by
      rw [h, ← List.append_assoc, ← both]
    exact List.append_cancel_left h
  · intro h
    rw [h, ← List.append_assoc, ← both]

/-! ## One place inside another -/

/-- A place lies strictly inside another one. -/
def Inside (d dir : List α) : Prop :=
  dir <+: d ∧ d ≠ dir

/-- Inside of a directory there are more names. -/
lemma inside_iff {d dir : List α} : Inside d dir ↔ ∃ rest, rest ≠ [] ∧ d = dir ++ rest := by
  constructor
  · rintro ⟨⟨rest, rfl⟩, ne⟩
    refine ⟨rest, ?_, rfl⟩
    rintro rfl
    exact ne (List.append_nil dir)
  · rintro ⟨rest, ne, rfl⟩
    exact ⟨List.prefix_append dir rest, by simpa using ne⟩

/-- Two places are different and neither lies in the other. -/
structure Apart (d d' : List α) : Prop where
  ne : d ≠ d'
  outside : ¬ Inside d d'
  outside' : ¬ Inside d' d

/-- Two directories are apart when neither leads to the other. -/
lemma apart_iff {d d' : List α} : Apart d d' ↔ ¬ d <+: d' ∧ ¬ d' <+: d := by
  constructor
  · intro h
    exact ⟨fun pre => h.outside' ⟨pre, Ne.symm h.ne⟩, fun pre => h.outside ⟨pre, h.ne⟩⟩
  · rintro ⟨h1, h2⟩
    refine ⟨?_, fun h => h2 h.1, fun h => h1 h.1⟩
    rintro rfl
    exact h1 List.prefix_rfl

/-- Below one place, only the names from there on count. -/
lemma apart_append_iff {dir rest rest' : List α} : Apart (dir ++ rest) (dir ++ rest') ↔ Apart rest rest' := by
  simp only [apart_iff, List.prefix_append_right_inj]

end Walk
