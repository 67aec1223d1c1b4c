import Mathlib.Algebra.Group.Nat.Defs
import Mathlib.Data.Nat.Log
import Mathlib.Tactic.Lemma
import Mathlib.Tactic.SplitIfs

/-!
# Whole numbers of a script

What a script computes with whole numbers. Products, sums and differences are rounded to 53 significant bits, the
nearest number and of two the even one (`round`); the operators on bits take a number modulo 2 ^ 32 first, and give one
with a sign, but for `>>>`. An `Expr` is an expression of these, and a `Procedure` a function whose variables are set
one after the other; each has its value and its text.

A sum may undo a rounding: where the exact sum is on the grid of the largest numbers, it is what the rounded sum with a
rounded term gives (`roundNat_add_roundNat`).
-/

namespace JsNumber

/-! ## Rounding -/

/-- A number to a multiple of a power of two. -/
def roundTo (k n : Nat) : Nat :=
  if 2 * (n % 2 ^ k) < 2 ^ k ∨ (2 * (n % 2 ^ k) = 2 ^ k ∧ n / 2 ^ k % 2 = 0) then n / 2 ^ k * 2 ^ k
  else (n / 2 ^ k + 1) * 2 ^ k

/-- How many bits a number has beyond 53. -/
def excess (n : Nat) : Nat :=
  n.log2 - 52

def roundNat (n : Nat) : Nat :=
  roundTo (excess n) n

def round (v : Int) : Int :=
  if v < 0 then -roundNat v.natAbs else roundNat v.natAbs

/-- What rounding adds to a number. -/
def roundingError (v : Int) : Int :=
  round v - v

/-- A rounded number is the exact one and the error. -/
lemma round_eq_add (v : Int) : round v = v + roundingError v := by
  rw [roundingError]
  omega

/-- Numbers without a sign stay so. -/
lemma round_natCast (n : Nat) : round n = roundNat n := by
  rw [round, if_neg (Int.not_lt.mpr (Int.natCast_nonneg n)), Int.natAbs_natCast]

/-- Rounding moves a number by half a step at most. -/
lemma roundTo_near (k n : Nat) : 2 * roundTo k n ≤ 2 * n + 2 ^ k ∧ 2 * n ≤ 2 * roundTo k n + 2 ^ k := by
  have parts := Nat.div_add_mod' n (2 ^ k)
  have below := Nat.mod_lt n (Nat.two_pow_pos k)
  rw [roundTo]
  split_ifs with down
  · constructor <;> omega
  · rw [Nat.add_mul, Nat.one_mul]
    constructor <;> omega

/-- An even multiple that is not further away than half a unit. -/
lemma roundTo_eq {k n m : Nat} (even : m % 2 = 0) (above : 2 * n ≤ 2 * (m * 2 ^ k) + 2 ^ k)
    (below : 2 * (m * 2 ^ k) ≤ 2 * n + 2 ^ k) : roundTo k n = m * 2 ^ k := by
  have pos := Nat.two_pow_pos k
  have digits {q r : Nat} (hr : r < 2 ^ k) (hn : n = q * 2 ^ k + r) : n / 2 ^ k = q ∧ n % 2 ^ k = r := by
    rw [Nat.div_mod_unique pos, hn, Nat.mul_comm, Nat.add_comm]
    exact ⟨rfl, hr⟩
  by_cases reached : m * 2 ^ k ≤ n
  · by_cases next : n - m * 2 ^ k < 2 ^ k
    · obtain ⟨quotient, remainder⟩ := digits next (Nat.add_sub_cancel' reached).symm
      rw [roundTo, quotient, remainder, if_pos]
      by_cases half : 2 * (n - m * 2 ^ k) < 2 ^ k
      · exact .inl half
      · exact .inr ⟨by omega, even⟩
    · omega
  · obtain ⟨m, rfl⟩ : ∃ m', m = m' + 1 := Nat.exists_eq_add_one_of_ne_zero (by rintro rfl; omega)
    rw [Nat.add_mul, Nat.one_mul] at *
    -- the number is in the unit below the multiple, whose own quotient is odd
    obtain ⟨quotient, remainder⟩ := digits (q := m) (r := n - m * 2 ^ k) (by omega) (by omega)
    rw [roundTo, quotient, remainder, if_neg, Nat.add_mul, Nat.one_mul]
    rintro (down | ⟨_, tie⟩) <;> omega

/-- A number below a power of two has at most that many bits too many. -/
lemma excess_le {n j : Nat} (lt : n < 2 ^ (53 + j)) : excess n ≤ j := by
  rw [excess]
  by_cases zero : n = 0
  · rw [zero, Nat.log2_zero, Nat.zero_sub]
    exact Nat.zero_le j
  · have := (Nat.log2_lt zero).mpr lt
    omega

/-- A number of at most 53 bits is not rounded. -/
lemma round_of_lt {v : Int} (lt : v.natAbs < 2 ^ 53) : round v = v := by
  have whole : roundNat v.natAbs = v.natAbs := by
    rw [roundNat, Nat.le_zero.mp (excess_le lt), roundTo, Nat.pow_zero, Nat.mod_one, if_pos (.inl (by decide)),
      Nat.div_one, Nat.mul_one]
  rw [round, whole]
  split_ifs <;> omega

/-- From a power of two on a number has that many bits too many. -/
lemma le_excess {n j : Nat} (le : 2 ^ (52 + j) ≤ n) : j ≤ excess n := by
  have positive : n ≠ 0 := Nat.ne_of_gt (Nat.lt_of_lt_of_le (Nat.two_pow_pos _) le)
  have := (Nat.le_log2 positive).mpr le
  rw [excess]
  omega

/-- A number with bits too many is at least the power of two for them. -/
lemma excess_spec {n : Nat} (pos : 0 < excess n) : 2 ^ (52 + excess n) ≤ n := by
  rw [excess] at *
  have positive : n ≠ 0 := by
    intro zero
    rw [zero, Nat.log2_zero] at pos
    exact absurd pos (by decide)
  rw [show 52 + (n.log2 - 52) = n.log2 by omega]
  exact Nat.log2_self_le positive

/-- A power of two that is below a number is below the rounded one. -/
lemma le_roundNat {n : Nat} (pos : 0 < excess n) : 2 ^ (52 + excess n) ≤ roundNat n := by
  have quotient : 2 ^ 52 ≤ n / 2 ^ excess n := by
    rw [Nat.le_div_iff_mul_le (Nat.two_pow_pos _), ← Nat.pow_add]
    exact excess_spec pos
  have floor : 2 ^ (52 + excess n) ≤ n / 2 ^ excess n * 2 ^ excess n := by
    rw [Nat.pow_add]
    exact Nat.mul_le_mul_right _ quotient
  rw [roundNat, roundTo]
  split_ifs
  · exact floor
  · exact Nat.le_trans floor (Nat.mul_le_mul_right _ (Nat.le_succ _))

/-- A sum of a rounded term that is exactly a multiple of 2 ^ 11 is found again. -/
theorem roundNat_add_roundNat {a total : Nat} (le : a ≤ total) (grid : 2 ^ 11 ∣ total)
    (bound : total + 2 ^ 11 ≤ 2 ^ 63) : roundNat (roundNat a + (total - a)) = total := by
  have term := roundTo_near (excess a) a
  rw [← roundNat] at term
  have small : 2 ^ excess a ≤ 2 ^ 10 := Nat.pow_le_pow_right (by decide) (excess_le (by omega))
  -- the sum has at most ten bits too many, and no fewer than the term
  have few : excess (roundNat a + (total - a)) ≤ 10 := excess_le (by omega)
  have more : 2 ^ excess a ≤ 2 ^ excess (roundNat a + (total - a)) := by
    apply Nat.pow_le_pow_right (by decide)
    cases Nat.eq_zero_or_pos (excess a) with
    | inl none => exact none ▸ Nat.zero_le _
    | inr some => exact le_excess (Nat.le_trans (le_roundNat some) (Nat.le_add_right _ _))
  rw [roundNat.eq_1 (roundNat a + (total - a))]
  obtain ⟨m, hm⟩ : 2 ^ (excess (roundNat a + (total - a)) + 1) ∣ total :=
    Nat.dvd_trans (Nat.pow_dvd_pow 2 (Nat.succ_le_succ few)) grid
  have multiple : total = 2 * m * 2 ^ excess (roundNat a + (total - a)) := by
    rw [Nat.pow_succ, Nat.mul_assoc, Nat.mul_comm] at hm
    exact hm
  generalize excess (roundNat a + (total - a)) = k at *
  rw [roundTo_eq (m := 2 * m) (Nat.mul_mod_right 2 m) (by omega) (by omega), ← multiple]

/-! ## Operators -/

/-- `ToInt32`. -/
def toInt32 (v : Int) : BitVec 32 :=
  BitVec.ofInt 32 v

def mul (a b : Int) : Int :=
  round (a * b)

def add (a b : Int) : Int :=
  round (a + b)

def sub (a b : Int) : Int :=
  round (a - b)

def bitAnd (a b : Int) : Int :=
  (toInt32 a &&& toInt32 b).toInt

def bitXor (a b : Int) : Int :=
  (toInt32 a ^^^ toInt32 b).toInt

/-- `>>>`, whose result has no sign. -/
def shiftRight (a b : Int) : Int :=
  (toInt32 a >>> ((toInt32 b).toNat % 32)).toNat

/-! ## Expressions -/

/-- An expression over variables of a type. A number has the text that it is written as. -/
inductive Expr (V : Type) where
  | num (text : String) (value : Int)
  | var (v : V)
  | paren (e : Expr V)
  | mul (a b : Expr V)
  | add (a b : Expr V)
  | sub (a b : Expr V)
  | bitAnd (a b : Expr V)
  | bitXor (a b : Expr V)
  | shiftRight (a b : Expr V)
  | min (a b : Expr V)
  | max (a b : Expr V)

/-- A function that sets its variables one after the other and returns a value. -/
structure Procedure (V : Type) where
  name : String
  params : List V
  body : List (V × Expr V)
  result : Expr V

section
variable {V : Type} (nameOf : V → String)

def Expr.text : Expr V → String
  | num text _ => text
  | var v => nameOf v
  | paren e => "(" ++ e.text ++ ")"
  | mul a b => a.text ++ "*" ++ b.text
  | add a b => a.text ++ "+" ++ b.text
  | sub a b => a.text ++ "-" ++ b.text
  | bitAnd a b => a.text ++ "&" ++ b.text
  | bitXor a b => a.text ++ "^" ++ b.text
  | shiftRight a b => a.text ++ ">>>" ++ b.text
  | min a b => "Math.min(" ++ a.text ++ "," ++ b.text ++ ")"
  | max a b => "Math.max(" ++ a.text ++ "," ++ b.text ++ ")"

def Procedure.text (p : Procedure V) : String :=
  "function " ++ p.name ++ "(" ++ ",".intercalate (p.params.map nameOf) ++ ")\x7b" ++
    String.join (p.body.map fun (v, e) => "var " ++ nameOf v ++ "=" ++ e.text nameOf ++ ";") ++
    "return " ++ p.result.text nameOf ++ ";\x7d"

variable [DecidableEq V]

def Expr.eval (env : V → Int) : Expr V → Int
  | num _ value => value
  | var v => env v
  | paren e => e.eval env
  | mul a b => JsNumber.mul (a.eval env) (b.eval env)
  | add a b => JsNumber.add (a.eval env) (b.eval env)
  | sub a b => JsNumber.sub (a.eval env) (b.eval env)
  | bitAnd a b => JsNumber.bitAnd (a.eval env) (b.eval env)
  | bitXor a b => JsNumber.bitXor (a.eval env) (b.eval env)
  | shiftRight a b => JsNumber.shiftRight (a.eval env) (b.eval env)
  | min a b => Min.min (a.eval env) (b.eval env)
  | max a b => Max.max (a.eval env) (b.eval env)

/-- A variable that is set. -/
def set (env : V → Int) (v : V) (value : Int) : V → Int :=
  fun u => if u = v then value else env u

/-- The value of a call. -/
def Procedure.call (p : Procedure V) (args : List Int) : Int :=
  let env := (p.params.zip args).foldl (fun env (v, value) => set env v value) fun _ => 0
  let env := p.body.foldl (fun env (v, e) => set env v (e.eval env)) env
  p.result.eval env

end

end JsNumber
