import Mathlib.Data.BitVec
import Mathlib.Data.Fintype.EquivFin
import Mathlib.Data.Int.CardIntervalMod
import Mathlib.SetTheory.Cardinal.Finite
import Mathlib.Tactic.Lemma

/-!
# Mixing the bits of a word

The steps of a hash on words of a fixed width that lose nothing: `xorShift` adds the upper bits of a word to its lower
ones, and a product with a word that has an inverse spreads the lower ones over the upper ones. `mixRound` is the two
in a row, a bijection (`mixRound_bijective`). What a bijection makes of the words is every word once, so every lower
part as often as there are upper parts (`card_lowPart`).
-/

namespace Mixing

variable {w : Nat}

/-- A word and its own upper bits, moved down. -/
def xorShift (k : Nat) (x : BitVec w) : BitVec w :=
  x ^^^ (x >>> k)

/-- A bit of a word that is xored with itself, shifted. -/
lemma xorShift_bit (k : Nat) (x : BitVec w) (i : Nat) :
    (xorShift k x).getLsbD i = (x.getLsbD i ^^ x.getLsbD (k + i)) := by
  rw [xorShift, BitVec.getLsbD_xor, BitVec.getLsbD_ushiftRight]

/-- The bits come back from the top down: those above the width are none, and each bit is found from a higher one. -/
lemma xorShift_injective {k : Nat} (pos : 0 < k) : Function.Injective (xorShift (w := w) k) := by
  intro x y same
  have above : ∀ n i, w ≤ i + n → x.getLsbD i = y.getLsbD i := by
    intro n
    induction n with
    | zero =>
      intro i le
      rw [BitVec.getLsbD_of_ge x i le, BitVec.getLsbD_of_ge y i le]
    | succ n ih =>
      intro i le
      have higher := ih (k + i) (by omega)
      have bit : (x.getLsbD i ^^ x.getLsbD (k + i)) = (y.getLsbD i ^^ y.getLsbD (k + i)) := by
        rw [← xorShift_bit, ← xorShift_bit, same]
      rw [higher] at bit
      exact Bool.xor_left_inj.mp bit
  apply BitVec.eq_of_getLsbD_eq
  intro i _
  exact above w i (Nat.le_add_left w i)

/-- A shift and a product. -/
def mixRound (k : Nat) (m x : BitVec w) : BitVec w :=
  xorShift k x * m

/-- One round is a bijection. -/
theorem mixRound_bijective {k : Nat} (pos : 0 < k) {m : BitVec w} (unit : IsUnit m) :
    Function.Bijective (mixRound k m) := by
  have : Finite (BitVec w) := Finite.of_equiv _ BitVec.equivFin.toEquiv.symm
  apply Finite.injective_iff_bijective.mp
  exact unit.mul_left_injective.comp (xorShift_injective pos)

/-- The words with one lower part. -/
lemma card_lowPart (a b : Nat) {v : Nat} (lt : v < 2 ^ a) :
    Nat.card {z : BitVec (a + b) // z.toNat % 2 ^ a = v} = 2 ^ b := by
  have pos : 0 < 2 ^ a := Nat.two_pow_pos a
  have counted : Nat.count (· ≡ v [MOD 2 ^ a]) (2 ^ (a + b)) = 2 ^ b := by
    rw [Nat.count_modEq_card _ pos, Nat.pow_add, Nat.mul_mod_right, Nat.mul_div_cancel_left _ pos]
    exact Nat.add_eq_left.mpr (if_neg (Nat.not_lt_zero _))
  have words : {z : BitVec (a + b) // z.toNat % 2 ^ a = v} ≃ {k : Nat // k < 2 ^ (a + b) ∧ k ≡ v [MOD 2 ^ a]} :=
    { toFun z := ⟨z.1.toNat, z.1.isLt, z.2.trans (Nat.mod_eq_of_lt lt).symm⟩
      invFun k := ⟨BitVec.ofNat _ k.1, by
        rw [BitVec.toNat_ofNat, Nat.mod_eq_of_lt k.2.1]
        exact Eq.trans k.2.2 (Nat.mod_eq_of_lt lt)⟩
      left_inv z := Subtype.ext ((BitVec.ofNat_toNat _ z.1).trans (BitVec.setWidth_eq z.1))
      right_inv k := Subtype.ext ((BitVec.toNat_ofNat _ _).trans (Nat.mod_eq_of_lt k.2.1)) }
  let : Fintype {k : Nat // k < 2 ^ (a + b) ∧ k ≡ v [MOD 2 ^ a]} := Nat.CountSet.fintype _ _
  rw [Nat.card_congr words, Nat.card_eq_fintype_card, ← Nat.count_eq_card_fintype, counted]

/-- What a bijection takes to the words with one lower part. -/
theorem card_preimage_lowPart {a b : Nat} {α : Type*} {f : α → BitVec (a + b)} (bijective : Function.Bijective f)
    {v : Nat} (lt : v < 2 ^ a) : Nat.card {x : α // (f x).toNat % 2 ^ a = v} = 2 ^ b := by
  rw [← card_lowPart a b lt]
  apply Nat.card_congr
  exact (Equiv.ofBijective f bijective).subtypeEquiv fun _ => Iff.rfl

end Mixing
