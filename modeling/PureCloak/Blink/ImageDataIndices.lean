import Mathlib.Algebra.Group.Nat.Defs
import PureCloak.Blink.CanvasNoise

/-!
# The indices of new image data

The loops of `ImageData::ValidateAndCreate` with the `int`s they compute, each of which has to fit, and with the bounds
of the buffer they write to. The size of new image data bounds its area. That is enough for the numbers of the pixels
and for every address; the number that selects a pixel has a multiple of its column in it, and of an image that is long
enough that does not fit (`checkedNoise_isSome_iff`). Where everything fits the loops are those of `imageDataNoise`.
-/

namespace PureCloak.Blink

/-- A sum or a product as an `int`, where it fits. -/
def toInt (v : Nat) : Option Nat :=
  if v < 2 ^ 31 then some v else none

/-- The test of a pixel. -/
def checkedSelected (x y : Nat) : Option Bool := do
  let column ← toInt (x * 1009)
  let row ← toInt (y * 3049)
  let sum ← toInt (column + row)
  return sum % 997 == 0

/-- The writes to a pixel. -/
def checkedPixel (width x y : Nat) (rawBytes : List UInt8) : Option (List UInt8) := do
  let row ← toInt (y * width)
  let index ← toInt (row + x)
  let byteOffset ← toInt (index * 4)
  let _ ← toInt (index + 1)
  let _ ← toInt (index + 2)
  let last ← toInt (byteOffset + 2)
  if last < rawBytes.length then some (noisePixel (Int32.ofNat index) byteOffset rawBytes) else none

/-- The body of the loops. -/
def checkedStep (width x y : Nat) (rawBytes : List UInt8) : Option (List UInt8) := do
  if ← checkedSelected x y then checkedPixel width x y rawBytes else return rawBytes

/-- The memory of new image data of a size that `ValidateAndCreate` lets pass. -/
structure ImageData where
  width : Nat
  height : Nat
  rawBytes : List UInt8
  positive : 1 ≤ width ∧ 1 ≤ height
  admitted : 4 * width * height < 2 ^ 31
  size : rawBytes.length = 4 * width * height

/-- The loops, with every `int` checked. -/
def ImageData.checkedNoise (d : ImageData) : Option (List UInt8) :=
  (List.range d.height).foldlM (fun rawBytes y =>
    (List.range d.width).foldlM (fun rawBytes x => checkedStep d.width x y rawBytes) rawBytes) d.rawBytes

/-! ## One pixel -/

/-- A number goes on as an `int` only if it fits. -/
lemma toInt_bind {α : Type} (v : Nat) (f : Nat → Option α) :
    (toInt v >>= f) = if v < 2 ^ 31 then f v else none := by
  rw [toInt]
  split_ifs <;> rfl

/-- The test overflows where its sum does. -/
lemma checkedSelected_eq (x y : Nat) :
    checkedSelected x y = if x * 1009 + y * 3049 < 2 ^ 31 then some (decide (Selected x y)) else none := by
  have test (fits : x * 1009 + y * 3049 < 2 ^ 31) :
      ((x * 1009 + y * 3049) % 997 == 0) = decide (Selected x y) := by
    rw [Bool.eq_iff_iff, beq_iff_eq, decide_eq_true_iff, selected_iff fits]
  simp only [checkedSelected, toInt_bind]
  split_ifs with column row sum
  · exact congrArg some (test sum)
  · rfl
  · omega
  · rfl
  · omega
  · rfl

/-- The last byte of a pixel is in the buffer, so its number and its address are small. -/
lemma index_fits {width height x y : Nat} (hx : x < width) (hy : y < height) :
    (y * width + x) * 4 + 3 < 4 * width * height := by
  have area := address_lt hx hy (k := 3) (by decide)
  rw [Nat.mul_comm 4 width, Nat.mul_comm _ height]
  exact area

/-- The bytes of a pixel are written where they should be. -/
lemma checkedPixel_eq {width height x y : Nat} (admitted : 4 * width * height < 2 ^ 31) (hx : x < width)
    (hy : y < height) {rawBytes : List UInt8} (size : rawBytes.length = 4 * width * height) :
    checkedPixel width x y rawBytes = some (noisePixel (pixelIndex width x y) ((y * width + x) * 4) rawBytes) := by
  have fits := index_fits hx hy
  simp only [checkedPixel, toInt_bind]
  rw [if_pos (by omega), if_pos (by omega), if_pos (by omega), if_pos (by omega), if_pos (by omega), if_pos (by omega),
    if_pos (by omega), pixelIndex_eq]

/-- The body of the loops of `imageDataNoise`. -/
def uncheckedStep (width x y : Nat) (rawBytes : List UInt8) : List UInt8 :=
  if Selected x y then noisePixel (pixelIndex width x y) ((y * width + x) * 4) rawBytes else rawBytes

/-- A step keeps the length of the buffer. -/
lemma uncheckedStep_length (width x y : Nat) (rawBytes : List UInt8) :
    (uncheckedStep width x y rawBytes).length = rawBytes.length := by
  rw [uncheckedStep]
  split_ifs
  · rw [noisePixel, List.length_modify, List.length_modify, List.length_modify]
  · rfl

/-- A step gets through exactly when its test fits. -/
lemma checkedStep_eq {width height x y : Nat} (admitted : 4 * width * height < 2 ^ 31) (hx : x < width)
    (hy : y < height) {rawBytes : List UInt8} (size : rawBytes.length = 4 * width * height) :
    checkedStep width x y rawBytes =
      if x * 1009 + y * 3049 < 2 ^ 31 then some (uncheckedStep width x y rawBytes) else none := by
  rw [checkedStep, checkedSelected_eq]
  split_ifs with fits
  · rw [Option.bind_eq_bind, Option.bind_some, uncheckedStep]
    by_cases sel : Selected x y
    · rw [if_pos (decide_eq_true sel), if_pos sel, checkedPixel_eq admitted hx hy size]
    · rw [if_neg (by rw [decide_eq_true_eq]; exact sel), if_neg sel]
      rfl
  · rfl

/-! ## The loops -/

/-- A loop whose steps are defined where a condition holds, whatever was done before. -/
lemma foldlM_guarded {σ α : Type} {g : σ → α → Option σ} {f : σ → α → σ} {P : α → Prop} {I : σ → Prop}
    (keep : ∀ s a, I s → I (f s a)) {l : List α}
    (step : ∀ a ∈ l, ∀ s, I s → (P a → g s a = some (f s a)) ∧ (¬ P a → g s a = none)) {s : σ} (inv : I s) :
    ((∀ a ∈ l, P a) → l.foldlM g s = some (l.foldl f s)) ∧ (¬ (∀ a ∈ l, P a) → l.foldlM g s = none) := by
  induction l generalizing s with
  | nil => exact ⟨fun _ => rfl, fun none => absurd (fun a ha => absurd ha List.not_mem_nil) none⟩
  | cons a l ih =>
    have rest := ih (fun b hb => step b (List.mem_cons_of_mem a hb)) (keep s a inv)
    have first := step a List.mem_cons_self s inv
    rw [List.foldlM_cons, List.foldl_cons]
    constructor
    · intro all
      rw [first.1 (all a List.mem_cons_self), Option.bind_eq_bind, Option.bind_some]
      exact rest.1 fun b hb => all b (List.mem_cons_of_mem a hb)
    · intro fails
      by_cases here : P a
      · rw [first.1 here, Option.bind_eq_bind, Option.bind_some]
        exact rest.2 fun all => fails (List.forall_mem_cons.mpr ⟨here, all⟩)
      · rw [first.2 here]
        rfl

namespace ImageData

variable (d : ImageData)

/-- Every test of the image fits. -/
def TestsFit : Prop :=
  ∀ y ∈ List.range d.height, ∀ x ∈ List.range d.width, x * 1009 + y * 3049 < 2 ^ 31

/-- The last pixel has the largest number. -/
lemma testsFit_iff : d.TestsFit ↔ (d.width - 1) * 1009 + (d.height - 1) * 3049 < 2 ^ 31 := by
  obtain ⟨width, height⟩ := d.positive
  constructor
  · intro fit
    exact fit (d.height - 1) (List.mem_range.mpr (by omega)) (d.width - 1) (List.mem_range.mpr (by omega))
  · intro last y hy x hx
    have column := Nat.le_sub_one_of_lt (List.mem_range.mp hx)
    have row := Nat.le_sub_one_of_lt (List.mem_range.mp hy)
    exact Nat.lt_of_le_of_lt (Nat.add_le_add (Nat.mul_le_mul_right 1009 column) (Nat.mul_le_mul_right 3049 row)) last

/-- The loop of a row. -/
lemma checkedRow (y : Nat) (hy : y < d.height) {rawBytes : List UInt8}
    (size : rawBytes.length = 4 * d.width * d.height) :
    ((∀ x ∈ List.range d.width, x * 1009 + y * 3049 < 2 ^ 31) →
      (List.range d.width).foldlM (fun rawBytes x => checkedStep d.width x y rawBytes) rawBytes =
        some ((List.range d.width).foldl (fun rawBytes x => uncheckedStep d.width x y rawBytes) rawBytes)) ∧
    (¬ (∀ x ∈ List.range d.width, x * 1009 + y * 3049 < 2 ^ 31) →
      (List.range d.width).foldlM (fun rawBytes x => checkedStep d.width x y rawBytes) rawBytes = none) := by
  apply foldlM_guarded (I := fun rawBytes => rawBytes.length = 4 * d.width * d.height)
  · intro rawBytes x size
    exact (uncheckedStep_length _ _ _ _).trans size
  · intro x hx rawBytes size
    rw [checkedStep_eq d.admitted (List.mem_range.mp hx) hy size]
    exact ⟨fun fits => if_pos fits, fun overflow => if_neg overflow⟩
  · exact size

/-- A row keeps the length of the buffer. -/
lemma uncheckedRow_length (width y bound : Nat) (rawBytes : List UInt8) :
    ((List.range bound).foldl (fun rawBytes x => uncheckedStep width x y rawBytes) rawBytes).length =
      rawBytes.length := by
  induction bound with
  | zero => rfl
  | succ x ih => rw [List.range_succ, List.foldl_append, List.foldl_cons, List.foldl_nil, uncheckedStep_length, ih]

/-- The loop gets through where all tests fit, and nowhere else. -/
lemma checkedNoise_cases :
    (d.TestsFit → d.checkedNoise = some (imageDataNoise d.width d.height d.rawBytes)) ∧
    (¬ d.TestsFit → d.checkedNoise = none) := by
  apply foldlM_guarded (I := fun rawBytes => rawBytes.length = 4 * d.width * d.height)
    (f := fun rawBytes y => (List.range d.width).foldl (fun rawBytes x => uncheckedStep d.width x y rawBytes) rawBytes)
  · intro rawBytes y size
    exact (uncheckedRow_length _ _ _ _).trans size
  · intro y hy rawBytes size
    exact d.checkedRow y (List.mem_range.mp hy) size
  · exact d.size

/-- No `int` overflows and no byte outside the buffer is written, exactly where the test of the last pixel fits. -/
theorem checkedNoise_isSome_iff :
    d.checkedNoise.isSome ↔ (d.width - 1) * 1009 + (d.height - 1) * 3049 < 2 ^ 31 := by
  rw [← testsFit_iff]
  constructor
  · intro some
    apply Classical.byContradiction
    intro overflow
    rw [d.checkedNoise_cases.2 overflow] at some
    exact absurd some Bool.false_ne_true
  · intro fit
    rw [d.checkedNoise_cases.1 fit]
    rfl

end ImageData

/-- A row of pixels that is long enough. -/
def longRow : ImageData where
  width := 2128331
  height := 1
  rawBytes := List.replicate (4 * 2128331 * 1) 0
  positive := by decide
  admitted := by decide
  size := List.length_replicate

/-- The tests of a long row do not fit. -/
theorem checkedNoise_fails : ¬ ∀ d : ImageData, d.checkedNoise.isSome := by
  intro all
  have overflow : ¬ longRow.TestsFit := fun fit => absurd (longRow.testsFit_iff.mp fit) (by decide)
  have defined := all longRow
  rw [longRow.checkedNoise_cases.2 overflow] at defined
  exact absurd defined Bool.false_ne_true

end PureCloak.Blink
