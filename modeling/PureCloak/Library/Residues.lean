import Mathlib.Data.Int.CardIntervalMod
import Mathlib.Data.Int.GCD

/-!
# One residue in a row

The numbers that a multiplier and an offset take to a multiple of a modulus. Where the multiplier has no factor in
common with the modulus they are one residue class (`residue_class`), so one of any consecutive numbers as many as the
modulus is of them (`existsUnique_window`), and how many there are below a bound is known up to one (`count_bounds`).
-/

namespace Residues

/-- The number is taken to a multiple of the modulus. -/
def Hits (m n c x : Nat) : Prop :=
  (x * m + c) % n = 0

instance (m n c : Nat) : DecidablePred (Hits m n c) :=
  fun _ => inferInstanceAs (Decidable (_ = _))

/-- They are a residue class. -/
lemma residue_class {m n : Nat} (coprime : Nat.Coprime m n) (pos : n ≠ 0) (c : Nat) :
    ∃ v, ∀ x, Hits m n c x ↔ x ≡ v [MOD n] := by
  -- the offset is cancelled by a number of steps of the multiplier
  obtain ⟨v, hv⟩ := Nat.exists_mul_mod_eq_of_coprime (n - c % n) coprime pos
  have zero : v * m + c ≡ 0 [MOD n] := by
    have cancel : n - c % n + c % n = n := Nat.sub_add_cancel (Nat.le_of_lt (Nat.mod_lt c (Nat.pos_of_ne_zero pos)))
    have step : v * m ≡ n - c % n [MOD n] := by
      rw [Nat.mul_comm]
      exact hv.2
    calc v * m + c ≡ n - c % n + c % n [MOD n] := step.add (Nat.mod_modEq c n).symm
      _ = n := cancel
      _ ≡ 0 [MOD n] := Nat.mod_self n
  refine ⟨v, fun x => ⟨fun hits => ?_, fun same => ?_⟩⟩
  · have sums : x * m + c ≡ v * m + c [MOD n] := Eq.trans hits zero.symm
    exact (sums.add_right_cancel' c).cancel_right_of_coprime coprime.symm
  · exact ((same.mul_right m).add_right c).trans zero

/-- A window as long as the modulus has one number of a residue class. -/
lemma existsUnique_residue {n : Nat} (pos : n ≠ 0) (v start : Nat) :
    ∃! x, (start ≤ x ∧ x < start + n) ∧ x ≡ v [MOD n] := by
  have lt := Nat.mod_lt (v + n * start - start) (Nat.pos_of_ne_zero pos)
  have le : start ≤ v + n * start :=
    Nat.le_trans (Nat.le_mul_of_pos_left start (Nat.pos_of_ne_zero pos)) (Nat.le_add_left _ _)
  have member : start + (v + n * start - start) % n ≡ v [MOD n] :=
    calc start + (v + n * start - start) % n ≡ start + (v + n * start - start) [MOD n] :=
          (Nat.mod_modEq _ n).add_left start
      _ = v + n * start := Nat.add_sub_cancel' le
      _ ≡ v [MOD n] := Nat.add_mul_mod_self_left v n start
  refine ⟨_, ⟨⟨Nat.le_add_right _ _, Nat.add_lt_add_left lt start⟩, member⟩, ?_⟩
  intro x ⟨⟨from_start, before_end⟩, same⟩
  have both : start + (x - start) ≡ start + (v + n * start - start) % n [MOD n] := by
    rw [Nat.add_sub_cancel' from_start]
    exact same.trans member.symm
  -- two numbers of the class in the window are less than the modulus apart
  have offsets := (both.add_left_cancel' start).eq_of_lt_of_lt (by omega) lt
  omega

/-- One number of a window as long as the modulus hits. -/
theorem existsUnique_window {m n : Nat} (coprime : Nat.Coprime m n) (pos : n ≠ 0) (c start : Nat) :
    ∃! x, (start ≤ x ∧ x < start + n) ∧ Hits m n c x := by
  obtain ⟨v, hv⟩ := residue_class coprime pos c
  obtain ⟨x, ⟨window, same⟩, unique⟩ := existsUnique_residue pos v start
  refine ⟨x, ⟨window, (hv x).mpr same⟩, fun x' ⟨window', hits⟩ => ?_⟩
  exact unique x' ⟨window', (hv x').mp hits⟩

/-- How many hit below a bound: the bound by the modulus, rounded down or up. -/
theorem count_bounds {m n : Nat} (coprime : Nat.Coprime m n) (pos : 0 < n) (c bound : Nat) :
    bound / n ≤ Nat.count (Hits m n c) bound ∧ Nat.count (Hits m n c) bound ≤ (bound + (n - 1)) / n := by
  obtain ⟨v, hv⟩ := residue_class coprime (Nat.ne_of_gt pos) c
  have counted : Nat.count (Hits m n c) bound = bound / n + if v % n < bound % n then 1 else 0 := by
    rw [← Nat.count_modEq_card bound pos v]
    exact Nat.le_antisymm (Nat.count_mono_left fun x _ => (hv x).mp) (Nat.count_mono_left fun x _ => (hv x).mpr)
  rw [counted]
  split_ifs with up
  · refine ⟨Nat.le_succ _, ?_⟩
    rw [Nat.le_div_iff_mul_le pos, Nat.add_mul, Nat.one_mul, Nat.mul_comm]
    have parts := Nat.div_add_mod bound n
    omega
  · exact ⟨Nat.le_refl _, Nat.div_le_div_right (Nat.le_add_right _ _)⟩

end Residues
