import Mathlib.Algebra.Group.Nat.Defs
import PureCloak.Common.Seed

/-!
# Canvas noise

The noise in what a page reads from a canvas: `PureCloakNoise` of `purecloak_prng.h`, and the loops over the pixels
that the patches add to `getImageData`, to `toDataURL` and to new image data. The images themselves and their encoding
belong to the renderer, so they are the class `StaticBitmapImage`.

`Nudged` is what the loops have done up to an address. Of the pixels that are selected, the three first channels go up
or down by at most one, and everything else stays as it is (`canvasNoise_near`, `canvasNoise_selected`).
-/

namespace PureCloak.Blink
open PureCloak.Base PureCloak.Common

/-- `PureCloakNoise`. -/
def pureCloakNoise (seed index : Int32) : Int :=
  let x := seed.toUInt32 * 0x9E3779B9 + index.toUInt32
  let y := (x ^^^ (x >>> 16)) * 0x85EBCA6B
  let z := (y ^^^ (y >>> 13)) * 0xC2B2AE35
  (z &&& 0xFF).toNat - 128

/-- The lower byte less its middle is a signed byte. -/
lemma lowByte_range (z : UInt32) :
    -128 ≤ ((z &&& 0xFF).toNat : Int) - 128 ∧ ((z &&& 0xFF).toNat : Int) - 128 ≤ 127 := by
  have byte : (z &&& 0xFF).toNat ≤ 255 := by
    rw [UInt32.toNat_and]
    exact Nat.and_le_right
  omega

/-- The range in the comment of `PureCloakNoise`. -/
theorem pureCloakNoise_range (seed index : Int32) :
    -128 ≤ pureCloakNoise seed index ∧ pureCloakNoise seed index ≤ 127 :=
  lowByte_range _

/-- `SkPixmap`: the bytes of the rows, one behind the other. -/
structure Pixmap where
  width : Nat
  height : Nat
  rowBytes : Nat
  bytesPerPixel : Nat
  bytes : List UInt8
  channels : 4 ≤ bytesPerPixel
  rows : width * bytesPerPixel ≤ rowBytes
  size : bytes.length = height * rowBytes
deriving DecidableEq

namespace Pixmap

/-- `writable_addr`. -/
def writableAddr (p : Pixmap) (x y : Nat) : Nat :=
  y * p.rowBytes + x * p.bytesPerPixel

end Pixmap

/-- A pixel that the noise changes. The sums and products are those of `int`, which wrap around. -/
def Selected (x y : Nat) : Prop :=
  (Int32.ofNat x * 1009 + Int32.ofNat y * 3049) % 997 = 0

instance (x y : Nat) : Decidable (Selected x y) :=
  inferInstanceAs (Decidable (_ = _))

/-- The test, where the sum fits an `int`. -/
lemma selected_iff {x y : Nat} (in_range : x * 1009 + y * 3049 < 2 ^ 31) :
    Selected x y ↔ (x * 1009 + y * 3049) % 997 = 0 := by
  have sum : Int32.ofNat x * 1009 + Int32.ofNat y * 3049 = Int32.ofNat (x * 1009 + y * 3049) := by
    rw [Int32.ofNat_add, Int32.ofNat_mul, Int32.ofNat_mul]
    rfl
  rw [Selected, sum, ← Int32.toInt_inj, Int32.toInt_mod, Int32.toInt_ofNat_of_lt in_range,
    show (997 : Int32).toInt = (997 : Nat) from rfl, Int.tmod_eq_emod_of_nonneg (Int.natCast_nonneg _),
    ← Int.natCast_emod, show (0 : Int32).toInt = (0 : Nat) from rfl, Int.natCast_inj]

/-- `y * pixmap.width() + x`. -/
def pixelIndex (width x y : Nat) : Int32 :=
  Int32.ofNat y * Int32.ofNat width + Int32.ofNat x

/-- It is the number of the pixel as an `int`. -/
lemma pixelIndex_eq (width x y : Nat) : pixelIndex width x y = Int32.ofNat (y * width + x) := by
  rw [pixelIndex, Int32.ofNat_add, Int32.ofNat_mul]

/-- `std::clamp` to a byte. -/
def clampByte (v : Int) : UInt8 :=
  UInt8.ofNat (if v < 0 then 0 else if 255 < v then 255 else v).toNat

/-- A channel and the sign of the noise. -/
def nudge (noise : Int) (channel : UInt8) : UInt8 :=
  clampByte (channel.toNat + noise.sign)

/-- The channels of a selected pixel. -/
def noisePixel (index : Int32) (addr : Nat) (bytes : List UInt8) : List UInt8 :=
  let bytes := bytes.modify addr (nudge (pureCloakNoise 0 index))
  let bytes := bytes.modify (addr + 1) (nudge (pureCloakNoise 0 (index + 1)))
  bytes.modify (addr + 2) (nudge (pureCloakNoise 0 (index + 2)))

namespace Pixmap

/-- The loop over `x`, up to a bound. -/
def noiseRow (p : Pixmap) (y : Nat) (bytes : List UInt8) (width : Nat) : List UInt8 :=
  (List.range width).foldl (fun bytes x =>
    if Selected x y then noisePixel (pixelIndex p.width x y) (p.writableAddr x y) bytes else bytes) bytes

/-- The loop over `y`, up to a bound. -/
def noiseRows (p : Pixmap) (height : Nat) : List UInt8 :=
  (List.range height).foldl (fun bytes y => p.noiseRow y bytes p.width) p.bytes

end Pixmap

/-! ## The loops -/

/-- Two values of a channel that the eye does not tell apart. -/
def Near (b b' : UInt8) : Prop :=
  b'.toNat ≤ b.toNat + 1 ∧ b.toNat ≤ b'.toNat + 1

/-- A step of one stays near. -/
lemma nudge_near (noise : Int) (channel : UInt8) : Near channel (nudge noise channel) := by
  have byte := channel.toNat_lt
  have sign : -1 ≤ noise.sign ∧ noise.sign ≤ 1 := by
    obtain h | h | h := noise.sign_trichotomy <;> omega
  rw [Near, nudge, clampByte, UInt8.toNat_ofNat']
  split_ifs <;> omega

/-- What the loops have done when they are at an address. -/
structure Nudged (p : Pixmap) (bytes : List UInt8) (upto : Nat) : Prop where
  length : bytes.length = p.bytes.length
  ahead : ∀ a : Nat, upto ≤ a → bytes[a]? = p.bytes[a]?
  near : ∀ (a : Nat) b b', p.bytes[a]? = some b → bytes[a]? = some b' → Near b b'
  selected : ∀ a : Nat, bytes[a]? ≠ p.bytes[a]? →
    ∃ x y k, x < p.width ∧ y < p.height ∧ Selected x y ∧ k < 3 ∧ a = p.writableAddr x y + k

/-- A byte is near itself. -/
lemma Near.refl (b : UInt8) : Near b b :=
  ⟨Nat.le_succ _, Nat.le_succ _⟩

/-- Before the first row nothing is nudged. -/
lemma Nudged.start (p : Pixmap) : Nudged p p.bytes 0 where
  length := rfl
  ahead _ _ := rfl
  near a b b' hb hb' := by
    cases hb.symm.trans hb'
    exact .refl b
  selected a h := absurd rfl h

/-- What was nudged up to a place is so up to a later one. -/
lemma Nudged.mono {p : Pixmap} {bytes : List UInt8} {upto upto' : Nat} (h : Nudged p bytes upto)
    (le : upto ≤ upto') : Nudged p bytes upto' :=
  { h with ahead := fun a ha => h.ahead a (Nat.le_trans le ha) }

/-- One channel of a selected pixel. -/
lemma Nudged.channel {p : Pixmap} {bytes : List UInt8} {x y k : Nat} (h : Nudged p bytes (p.writableAddr x y + k))
    (hx : x < p.width) (hy : y < p.height) (sel : Selected x y) (hk : k < 3) (noise : Int) :
    Nudged p (bytes.modify (p.writableAddr x y + k) (nudge noise)) (p.writableAddr x y + (k + 1)) where
  length := by rw [List.length_modify, h.length]
  ahead a ha := by
    rw [List.getElem?_modify_ne _ _ (by omega)]
    exact h.ahead a (by omega)
  near a b b' hb hb' := by
    by_cases at_channel : p.writableAddr x y + k = a
    · rw [at_channel, List.getElem?_modify_eq, h.ahead a (Nat.le_of_eq at_channel), hb] at hb'
      cases hb'
      exact nudge_near noise b
    · rw [List.getElem?_modify_ne _ _ at_channel] at hb'
      exact h.near a b b' hb hb'
  selected a ne := by
    by_cases at_channel : p.writableAddr x y + k = a
    · exact ⟨x, y, k, hx, hy, sel, hk, at_channel.symm⟩
    · rw [List.getElem?_modify_ne _ _ at_channel] at ne
      exact h.selected a ne

/-- The noise of a selected pixel nudges its three bytes. -/
lemma Nudged.pixel {p : Pixmap} {bytes : List UInt8} {x y : Nat} (h : Nudged p bytes (p.writableAddr x y))
    (hx : x < p.width) (hy : y < p.height) (sel : Selected x y) (index : Int32) :
    Nudged p (noisePixel index (p.writableAddr x y) bytes) (p.writableAddr x y + 3) := by
  have red := Nudged.channel (k := 0) h hx hy sel (by decide) (pureCloakNoise 0 index)
  have green := red.channel hx hy sel (by decide) (pureCloakNoise 0 (index + 1))
  exact green.channel hx hy sel (by decide) (pureCloakNoise 0 (index + 2))

/-- The addresses go up along a row. -/
lemma Nudged.row {p : Pixmap} {bytes : List UInt8} {y : Nat} (h : Nudged p bytes (y * p.rowBytes)) (hy : y < p.height)
    {width : Nat} (le : width ≤ p.width) : Nudged p (p.noiseRow y bytes width) (p.writableAddr width y) := by
  induction width with
  | zero => exact h.mono (by simp [Pixmap.writableAddr])
  | succ x ih =>
    have before := ih (Nat.le_of_succ_le le)
    have next : p.writableAddr x y + p.bytesPerPixel = p.writableAddr (x + 1) y := by
      simp only [Pixmap.writableAddr, Nat.add_mul]
      omega
    have channels := p.channels
    rw [Pixmap.noiseRow, List.range_succ, List.foldl_append]
    by_cases sel : Selected x y
    · rw [List.foldl_cons, List.foldl_nil, if_pos sel]
      exact (before.pixel le hy sel _).mono (by omega)
    · rw [List.foldl_cons, List.foldl_nil, if_neg sel]
      exact before.mono (by omega)

/-- The rows are nudged one after the other. -/
lemma Nudged.rows {p : Pixmap} {height : Nat} (le : height ≤ p.height) :
    Nudged p (p.noiseRows height) (height * p.rowBytes) := by
  induction height with
  | zero => exact (Nudged.start p).mono (Nat.zero_le _)
  | succ y ih =>
    have row := (ih (Nat.le_of_succ_le le)).row le (Nat.le_refl p.width)
    have rows := p.rows
    rw [Pixmap.noiseRows, List.range_succ, List.foldl_append]
    refine row.mono ?_
    rw [Pixmap.writableAddr, Nat.add_mul]
    omega

/-- The loops over a whole pixmap. -/
def canvasNoise (p : Pixmap) : Pixmap :=
  { p with
    bytes := p.noiseRows p.height
    size := (Nudged.rows (Nat.le_refl p.height)).length.trans p.size }

/-- No byte changes by more than one. -/
theorem canvasNoise_near {p : Pixmap} {a : Nat} {b b' : UInt8} (h : p.bytes[a]? = some b)
    (h' : (canvasNoise p).bytes[a]? = some b') : Near b b' :=
  (Nudged.rows (Nat.le_refl p.height)).near a b b' h h'

/-- Only the three first channels of the selected pixels change. -/
theorem canvasNoise_selected {p : Pixmap} {a : Nat} (h : (canvasNoise p).bytes[a]? ≠ p.bytes[a]?) :
    ∃ x y k, x < p.width ∧ y < p.height ∧ Selected x y ∧ k < 3 ∧ a = p.writableAddr x y + k :=
  (Nudged.rows (Nat.le_refl p.height)).selected a h

/-- The loops of `ImageData::ValidateAndCreate` over the bytes of a new image. -/
def imageDataNoise (width height : Nat) (rawBytes : List UInt8) : List UInt8 :=
  (List.range height).foldl (fun rawBytes y =>
    (List.range width).foldl (fun rawBytes x =>
      if Selected x y then noisePixel (pixelIndex width x y) ((y * width + x) * 4) rawBytes else rawBytes) rawBytes)
    rawBytes

/-- They are the loops over the pixmap that has no bytes between its rows. -/
theorem imageDataNoise_eq {p : Pixmap} (pixel : p.bytesPerPixel = 4) (row : p.rowBytes = p.width * 4) :
    imageDataNoise p.width p.height p.bytes = (canvasNoise p).bytes := by
  have addr (x y : Nat) : (y * p.width + x) * 4 = p.writableAddr x y := by
    rw [Pixmap.writableAddr, pixel, row, Nat.add_mul, Nat.mul_assoc]
  simp only [imageDataNoise, addr]
  rfl

/-! ## Reading a canvas -/

/-- `PureCloakCanvasNoise`. -/
def pureCloakCanvasNoise (pixmap : Pixmap) : Pixmap :=
  canvasNoise pixmap

/-- `PureCloakCanvasNoiseExport`, which has the same loops. -/
def pureCloakCanvasNoiseExport (pixmap : Pixmap) : Pixmap :=
  canvasNoise pixmap

/-! ## Three loops over one buffer -/

/-- The pixmap over a buffer of RGBA pixels that has no bytes between its rows. -/
def tightPixmap (width height : Nat) (rawBytes : List UInt8) (size : rawBytes.length = height * (width * 4)) :
    Pixmap where
  width := width
  height := height
  rowBytes := width * 4
  bytesPerPixel := 4
  bytes := rawBytes
  channels := Nat.le_refl 4
  rows := Nat.le_refl (width * 4)
  size := size

/-- The address of a channel says which pixel and which channel it is. -/
lemma address_inj {width x y k x' y' k' : Nat} (hx : x < width) (hk : k < 4) (hx' : x' < width) (hk' : k' < 4)
    (same : (y * width + x) * 4 + k = (y' * width + x') * 4 + k') : x = x' ∧ y = y' ∧ k = k' := by
  have pixel : y * width + x = y' * width + x' := by omega
  have row (y x : Nat) (hx : x < width) : (y * width + x) / width = y := by
    rw [Nat.mul_comm, Nat.mul_add_div (Nat.zero_lt_of_lt hx), Nat.div_eq_of_lt hx, Nat.add_zero]
  have same_row : y = y' := by
    rw [← row y x hx, pixel, row y' x' hx']
  rw [same_row] at pixel
  exact ⟨Nat.add_left_cancel pixel, same_row, by omega⟩

/-- The bytes of a pixel are in the buffer. -/
lemma address_lt {width height x y k : Nat} (hx : x < width) (hy : y < height) (hk : k < 4) :
    (y * width + x) * 4 + k < height * (width * 4) := by
  have pixel : y * width + x + 1 ≤ height * width :=
    calc y * width + x + 1 ≤ y * width + width := by omega
      _ = (y + 1) * width := (Nat.succ_mul y width).symm
      _ ≤ height * width := Nat.mul_le_mul_right width hy
  rw [← Nat.mul_assoc]
  omega

/-- A channel before and after the noise: the three first channels of a selected pixel may go up or down by one, as
numbers and not only modulo 256, and nothing else changes. -/
def Kept (x y k : Nat) (b b' : UInt8) : Prop :=
  if Selected x y ∧ k < 3 then Near b b' else b' = b

/-- What the loops do to a channel of the buffer. -/
lemma canvasNoise_kept {width height : Nat} {rawBytes : List UInt8} (size : rawBytes.length = height * (width * 4))
    {x y k : Nat} {b b' : UInt8} (hx : x < width) (hk : k < 4)
    (before : rawBytes[(y * width + x) * 4 + k]? = some b)
    (after : (canvasNoise (tightPixmap width height rawBytes size)).bytes[(y * width + x) * 4 + k]? = some b') :
    Kept x y k b b' := by
  rw [Kept]
  split_ifs with sel
  · exact canvasNoise_near before after
  · apply Classical.byContradiction
    intro changed
    have differ : (canvasNoise (tightPixmap width height rawBytes size)).bytes[(y * width + x) * 4 + k]? ≠
        (tightPixmap width height rawBytes size).bytes[(y * width + x) * 4 + k]? := by
      rw [after, show (tightPixmap width height rawBytes size).bytes = rawBytes from rfl, before]
      exact fun same => changed (Option.some.inj same)
    obtain ⟨x', y', k', hx', _, sel', hk', address⟩ := canvasNoise_selected differ
    have tight : (tightPixmap width height rawBytes size).writableAddr x' y' = (y' * width + x') * 4 := by
      show y' * (width * 4) + x' * 4 = (y' * width + x') * 4
      rw [Nat.add_mul, Nat.mul_assoc]
    rw [tight] at address
    obtain ⟨rfl, rfl, rfl⟩ := address_inj hx hk hx' (Nat.lt_succ_of_lt hk') address
    exact sel ⟨sel', hk'⟩

/-- The three loops make one buffer of a buffer of RGBA pixels, and what they change is least. The sizes of the code are
those whose addresses fit an `int`. -/
theorem noiseLoops_agree (width height : Nat) (rawBytes : List UInt8)
    (size : rawBytes.length = height * (width * 4)) :
    (pureCloakCanvasNoise (tightPixmap width height rawBytes size)).bytes = imageDataNoise width height rawBytes ∧
    (pureCloakCanvasNoiseExport (tightPixmap width height rawBytes size)).bytes =
      imageDataNoise width height rawBytes ∧
    (imageDataNoise width height rawBytes).length = rawBytes.length ∧
    ∀ x y k, x < width → y < height → k < 4 → ∃ b b',
      rawBytes[(y * width + x) * 4 + k]? = some b ∧
      (imageDataNoise width height rawBytes)[(y * width + x) * 4 + k]? = some b' ∧
      Kept x y k b b' := by
  have same : imageDataNoise width height rawBytes = (canvasNoise (tightPixmap width height rawBytes size)).bytes :=
    imageDataNoise_eq (p := tightPixmap width height rawBytes size) rfl rfl
  have length : (imageDataNoise width height rawBytes).length = rawBytes.length := by
    rw [same]
    exact (canvasNoise (tightPixmap width height rawBytes size)).size.trans size.symm
  refine ⟨same.symm, same.symm, length, fun x y k hx hy hk => ?_⟩
  have inside : (y * width + x) * 4 + k < rawBytes.length := by
    rw [size]
    exact address_lt hx hy hk
  have before := List.getElem?_eq_getElem inside
  have after := List.getElem?_eq_getElem (Nat.lt_of_lt_of_eq inside length.symm)
  refine ⟨_, _, before, after, canvasNoise_kept size hx hk before ?_⟩
  rw [← same]
  exact after

/-- Two rows of two pixels: the noise is in the first one, and the last byte of red is as it was. -/
theorem noiseLoops_agree_pixel :
    let rawBytes : List UInt8 := [7, 7, 7, 9, 1, 2, 3, 4, 5, 6, 7, 8, 10, 11, 12, 13]
    (pureCloakCanvasNoise (tightPixmap 2 2 rawBytes rfl)).bytes =
      [6, 8, 8, 9, 1, 2, 3, 4, 5, 6, 7, 8, 10, 11, 12, 13] ∧
    (∃ b b', rawBytes[(0 * 2 + 0) * 4 + 1]? = some b ∧ (imageDataNoise 2 2 rawBytes)[(0 * 2 + 0) * 4 + 1]? = some b' ∧
      b ≠ b' ∧ Kept 0 0 1 b b') ∧
    ∃ b b', rawBytes[(1 * 2 + 1) * 4 + 0]? = some b ∧ (imageDataNoise 2 2 rawBytes)[(1 * 2 + 1) * 4 + 0]? = some b' ∧
      Kept 1 1 0 b b' := by
  obtain ⟨same, _, _, kept⟩ := noiseLoops_agree 2 2 [7, 7, 7, 9, 1, 2, 3, 4, 5, 6, 7, 8, 10, 11, 12, 13] rfl
  have noisy : imageDataNoise 2 2 [7, 7, 7, 9, 1, 2, 3, 4, 5, 6, 7, 8, 10, 11, 12, 13] =
      [6, 8, 8, 9, 1, 2, 3, 4, 5, 6, 7, 8, 10, 11, 12, 13] := by decide
  obtain ⟨b, b', before, after, near⟩ := kept 0 0 1 (by decide) (by decide) (by decide)
  refine ⟨same.trans noisy, ⟨b, b', before, after, ?_, near⟩, kept 1 1 0 (by decide) (by decide) (by decide)⟩
  rw [noisy] at after
  cases before
  cases after
  decide

/-! ## Reading an image -/

/-- `StaticBitmapImage` and its encoders, of the renderer. -/
class StaticBitmapImage (Image : Type) where
  /-- `readPixels` into a pixmap, from a place on; a read that fails leaves the pixmap as it is. -/
  readPixels : Image → Pixmap → Int → Int → Option Pixmap
  /-- The pixmap over new memory for all pixels of an image. -/
  allocate : Image → Pixmap
  create : Pixmap → Image
  /-- The `data:` address of the encoded image. -/
  encode : Image → String

section
variable {Image : Type} [StaticBitmapImage Image]

/-- The pixels of `getImageDataInternal` in a process, in the pixmap of new image data. Nothing here asks for the seed of
the process. -/
def getImageData (_process : PureCloakSeed) (snapshot : Image) (imageDataPixmap : Pixmap) (sx sy : Int) : Pixmap :=
  pureCloakCanvasNoise ((StaticBitmapImage.readPixels snapshot imageDataPixmap sx sy).getD imageDataPixmap)

/-- `ToDataURLInternal` in a process. -/
def toDataURL (_process : PureCloakSeed) (snapshot : Image) : String :=
  match StaticBitmapImage.readPixels snapshot (StaticBitmapImage.allocate snapshot) 0 0 with
  | some noisyPixmap =>
    let imageBitmap : Image := StaticBitmapImage.create (pureCloakCanvasNoiseExport noisyPixmap)
    StaticBitmapImage.encode imageBitmap
  | none => StaticBitmapImage.encode snapshot

end

/-- Of two processes, those with different seeds give different outputs for some image, and those with equal seeds give
equal outputs for every one. -/
def Separates (Image : Type) [StaticBitmapImage Image] (process process' : PureCloakSeed) : Prop :=
  (process.seed ≠ process'.seed → ∃ (snapshot : Image) (imageDataPixmap : Pixmap) (sx sy : Int),
    getImageData process snapshot imageDataPixmap sx sy ≠ getImageData process' snapshot imageDataPixmap sx sy ∧
    toDataURL process snapshot ≠ toDataURL process' snapshot) ∧
  (process.seed = process'.seed → ∀ (snapshot : Image) (imageDataPixmap : Pixmap) (sx sy : Int),
    getImageData process snapshot imageDataPixmap sx sy = getImageData process' snapshot imageDataPixmap sx sy ∧
    toDataURL process snapshot = toDataURL process' snapshot)

/-- No output depends on the process. -/
lemma outputs_eq {Image : Type} [StaticBitmapImage Image] (process process' : PureCloakSeed) (snapshot : Image)
    (imageDataPixmap : Pixmap) (sx sy : Int) :
    getImageData process snapshot imageDataPixmap sx sy = getImageData process' snapshot imageDataPixmap sx sy ∧
    toDataURL process snapshot = toDataURL process' snapshot :=
  ⟨rfl, rfl⟩

/-- The noise is drawn from seed zero in every process: only processes with one seed are told apart as they should. -/
theorem separates_iff {Image : Type} [StaticBitmapImage Image] (process process' : PureCloakSeed) :
    Separates Image process process' ↔ process.seed = process'.seed := by
  refine ⟨fun h => ?_, fun same => ⟨fun ne => absurd same ne, fun _ => outputs_eq process process'⟩⟩
  by_cases same : process.seed = process'.seed
  · exact same
  · obtain ⟨snapshot, imageDataPixmap, sx, sy, differ, _⟩ := h.1 same
    exact absurd (outputs_eq process process' snapshot imageDataPixmap sx sy).1 differ

/-- Images that are pixmaps, read as a whole. -/
@[reducible]
def pixmapImages : StaticBitmapImage Pixmap where
  readPixels snapshot _ _ _ := some snapshot
  allocate := id
  create := id
  encode p := "data:," ++ String.ofList (p.bytes.map fun b => Char.ofNat b.toNat)

/-- A process with a seed on its command line. -/
def processWithSeed (seed : String) : PureCloakSeed :=
  PureCloakSeed.initializeFromCommandLine {} (CommandLine.appendSwitchASCII { program := "chrome" } kFingerprint seed)

/-- Two seeds, and one noise. -/
theorem separates_fails :
    ¬ @Separates Pixmap pixmapImages (processWithSeed "31415") (processWithSeed "27182") := by
  intro h
  obtain ⟨snapshot, imageDataPixmap, sx, sy, differ, _⟩ := h.1 (by decide)
  exact differ (@outputs_eq Pixmap pixmapImages _ _ snapshot imageDataPixmap sx sy).1

/-- The first pixel is always selected. -/
example : (canvasNoise ⟨1, 1, 4, 4, [7, 7, 7, 7], by decide, by decide, by decide⟩).bytes = [6, 8, 8, 7] := by
  decide

end PureCloak.Blink
