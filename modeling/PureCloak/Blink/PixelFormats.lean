import PureCloak.Blink.NoiseDistribution

/-!
# What a step of a byte is in a pixel

The loops over a canvas, byte by byte: of a pixel that is selected the three first bytes take the steps of three indices
in a row, whatever the pixel holds there (`canvasNoise_byte`).

In a pixel of four bytes these are its colours. In a pixel of half floats they are both bytes of the red channel and the
lower one of the green channel, and a step of the upper byte of a channel is 256 units in its last place
(`respects_iff`).
-/

namespace PureCloak.Blink

/-! ## The loops, byte by byte -/

/-- The step of a byte of a pixel: the sign of the noise in the three first bytes of a selected pixel. -/
def noiseStep (width x y k : Nat) : Int :=
  if Selected x y ∧ k < 3 then (pureCloakNoise 0 (pixelIndex width x y + Int32.ofNat k)).sign else 0

/-- A byte and a step. -/
def stepByte (step : Int) (b : UInt8) : UInt8 :=
  clampByte (b.toNat + step)

/-- Without noise a byte keeps its value. -/
lemma stepByte_zero (b : UInt8) : stepByte 0 b = b := by
  have byte := b.toNat_lt
  rw [stepByte, clampByte, if_neg (by omega), if_neg (by omega), ← UInt8.toNat_inj, UInt8.toNat_ofNat']
  omega

/-- The step of a byte is one at most. -/
lemma noiseStep_range (width x y k : Nat) : -1 ≤ noiseStep width x y k ∧ noiseStep width x y k ≤ 1 := by
  rw [noiseStep]
  split_ifs
  · obtain h | h | h := (pureCloakNoise 0 (pixelIndex width x y + Int32.ofNat k)).sign_trichotomy <;> omega
  · omega

/-- A byte of a pixel with the index of its own. -/
def pixelStep (index : Int32) (k : Nat) (b : UInt8) : UInt8 :=
  if k < 3 then nudge (pureCloakNoise 0 (index + Int32.ofNat k)) b else b

/-- A byte of the pixel that has its noise. -/
lemma noisePixel_get (index : Int32) (addr k : Nat) (bytes : List UInt8) :
    (noisePixel index addr bytes)[addr + k]? = bytes[addr + k]?.map (pixelStep index k) := by
  rw [noisePixel]
  rcases k with _ | _ | _ | k
  · have first : pixelStep index 0 = nudge (pureCloakNoise 0 index) := by
      funext b
      rw [pixelStep, if_pos (by decide), show Int32.ofNat 0 = 0 from rfl, Int32.add_zero]
    rw [List.getElem?_modify_ne _ _ (by omega), List.getElem?_modify_ne _ _ (by omega), Nat.add_zero,
      List.getElem?_modify_eq, first]
    rfl
  · rw [List.getElem?_modify_ne _ _ (by omega), List.getElem?_modify_eq, List.getElem?_modify_ne _ _ (by omega)]
    rfl
  · rw [List.getElem?_modify_eq, List.getElem?_modify_ne _ _ (by omega), List.getElem?_modify_ne _ _ (by omega)]
    rfl
  · rw [List.getElem?_modify_ne _ _ (by omega), List.getElem?_modify_ne _ _ (by omega),
      List.getElem?_modify_ne _ _ (by omega)]
    have same : pixelStep index (k + 1 + 1 + 1) = id := by
      funext b
      exact if_neg (by omega)
    rw [same, Option.map_id, id]

/-- The bytes elsewhere stay. -/
lemma noisePixel_get_ne {index : Int32} {addr a : Nat} (elsewhere : a < addr ∨ addr + 3 ≤ a) (bytes : List UInt8) :
    (noisePixel index addr bytes)[a]? = bytes[a]? := by
  rw [noisePixel, List.getElem?_modify_ne _ _ (by omega), List.getElem?_modify_ne _ _ (by omega),
    List.getElem?_modify_ne _ _ (by omega)]

namespace Pixmap

/-- The bytes of a pixel are in its row. -/
lemma offset_lt {p : Pixmap} {x k : Nat} (hx : x < p.width) (hk : k < p.bytesPerPixel) :
    x * p.bytesPerPixel + k < p.rowBytes :=
  calc x * p.bytesPerPixel + k < x * p.bytesPerPixel + p.bytesPerPixel := Nat.add_lt_add_left hk _
    _ = (x + 1) * p.bytesPerPixel := (Nat.succ_mul x _).symm
    _ ≤ p.width * p.bytesPerPixel := Nat.mul_le_mul_right _ hx
    _ ≤ p.rowBytes := p.rows

/-- The quotient and the remainder of a number are what it was made of. -/
lemma digits {n q r : Nat} (hr : r < n) : (q * n + r) / n = q ∧ (q * n + r) % n = r := by
  rw [Nat.div_mod_unique (Nat.zero_lt_of_lt hr), Nat.mul_comm, Nat.add_comm]
  exact ⟨rfl, hr⟩

/-- The quotient and the remainder of a number are the only ones. -/
lemma digits_inj {n q r q' r' : Nat} (hr : r < n) (hr' : r' < n) (same : q * n + r = q' * n + r') :
    q = q' ∧ r = r' := by
  have left := digits (q := q) hr
  rw [same] at left
  have right := digits (q := q') hr'
  exact ⟨left.1.symm.trans right.1, left.2.symm.trans right.2⟩

/-- The address of a byte says which pixel it is of. -/
lemma writableAddr_inj {p : Pixmap} {x y k x' y' k' : Nat} (hx : x < p.width) (hk : k < p.bytesPerPixel)
    (hx' : x' < p.width) (hk' : k' < p.bytesPerPixel)
    (same : p.writableAddr x y + k = p.writableAddr x' y' + k') : x = x' ∧ y = y' ∧ k = k' := by
  rw [writableAddr, writableAddr, Nat.add_assoc, Nat.add_assoc] at same
  obtain ⟨rows, in_row⟩ := digits_inj (offset_lt hx hk) (offset_lt hx' hk') same
  obtain ⟨columns, bytes⟩ := digits_inj hk hk' in_row
  exact ⟨columns, rows, bytes⟩

/-- A byte of a pixel. -/
def byte (p : Pixmap) (x y k : Nat) : UInt8 :=
  p.bytes.getD (p.writableAddr x y + k) 0

/-- The bytes of a pixel are in the pixmap. -/
lemma address_lt_length {p : Pixmap} {x y k : Nat} (hx : x < p.width) (hy : y < p.height) (hk : k < p.bytesPerPixel) :
    p.writableAddr x y + k < p.bytes.length := by
  rw [p.size, writableAddr, Nat.add_assoc]
  calc y * p.rowBytes + (x * p.bytesPerPixel + k) < y * p.rowBytes + p.rowBytes :=
        Nat.add_lt_add_left (offset_lt hx hk) _
    _ = (y + 1) * p.rowBytes := (Nat.succ_mul y _).symm
    _ ≤ p.height * p.rowBytes := Nat.mul_le_mul_right _ hy

/-- A pixel that is in the list once has its noise once, and the others have none. -/
lemma foldl_noisePixel_get {p : Pixmap} {x y k : Nat} (hx : x < p.width) (hk : k < p.bytesPerPixel)
    {pixels : List (Nat × Nat)} (inside : ∀ pixel ∈ pixels, pixel.1 < p.width) (nodup : pixels.Nodup)
    (bytes : List UInt8) :
    (pixels.foldl (fun bytes pixel =>
      noisePixel (pixelIndex p.width pixel.1 pixel.2) (p.writableAddr pixel.1 pixel.2) bytes) bytes)[
        p.writableAddr x y + k]? =
    bytes[p.writableAddr x y + k]?.map (if (x, y) ∈ pixels then pixelStep (pixelIndex p.width x y) k else id) := by
  induction pixels generalizing bytes with
  | nil => rw [if_neg (List.not_mem_nil), Option.map_id]; rfl
  | cons pixel pixels ih =>
    obtain ⟨fresh, nodup⟩ := List.nodup_cons.mp nodup
    rw [List.foldl_cons, ih (fun q hq => inside q (List.mem_cons_of_mem _ hq)) nodup]
    by_cases here : pixel = (x, y)
    · subst here
      rw [if_neg fresh, if_pos List.mem_cons_self, Option.map_id, id, noisePixel_get]
    · have elsewhere : p.writableAddr x y + k < p.writableAddr pixel.1 pixel.2 ∨
          p.writableAddr pixel.1 pixel.2 + 3 ≤ p.writableAddr x y + k := by
        apply Classical.byContradiction
        intro overlap
        -- an address in both would make the two pixels one
        have channels := p.channels
        obtain ⟨columns, rows, _⟩ := @writableAddr_inj p x y k pixel.1 pixel.2
          (p.writableAddr x y + k - p.writableAddr pixel.1 pixel.2) hx hk (inside pixel List.mem_cons_self)
          (by omega) (by omega)
        exact here (Prod.ext columns.symm rows.symm)
      have same : (x, y) ∈ pixel :: pixels ↔ (x, y) ∈ pixels :=
        List.mem_cons.trans (or_iff_right (Ne.symm here))
      rw [noisePixel_get_ne elsewhere]
      simp only [same]

end Pixmap

/-- What the loops make of each byte of a pixmap. -/
theorem canvasNoise_byte {p : Pixmap} {x y k : Nat} (hx : x < p.width) (hy : y < p.height)
    (hk : k < p.bytesPerPixel) :
    (canvasNoise p).byte x y k = stepByte (noiseStep p.width x y k) (p.byte x y k) := by
  have inside := Pixmap.address_lt_length hx hy hk
  have before : p.bytes[p.writableAddr x y + k]? = some (p.byte x y k) := by
    rw [Pixmap.byte, List.getD_eq_getElem?_getD, List.getElem?_eq_getElem inside, Option.getD_some]
  have after : (canvasNoise p).bytes[p.writableAddr x y + k]? =
      some (stepByte (noiseStep p.width x y k) (p.byte x y k)) := by
    rw [canvasNoise_eq_foldl, Pixmap.foldl_noisePixel_get hx hk
      (fun pixel h => (mem_selectedPixels.mp (show (pixel.1, pixel.2) ∈ _ from h)).1) (selectedPixels_nodup _ _),
      before, Option.map_some]
    congr 1
    by_cases sel : Selected x y
    · rw [if_pos (mem_selectedPixels.mpr ⟨hx, hy, sel⟩), pixelStep, noiseStep]
      by_cases channel : k < 3
      · rw [if_pos channel, if_pos ⟨sel, channel⟩]
        rfl
      · rw [if_neg channel, if_neg fun h => channel h.2, stepByte_zero]
    · rw [if_neg fun h => sel (mem_selectedPixels.mp h).2.2, noiseStep, if_neg fun h => sel h.1, stepByte_zero, id]
  rw [Pixmap.byte, List.getD_eq_getElem?_getD]
  exact congrArg (·.getD 0) after

/-! ## Formats -/

/-- `SkColorType`, of the pixmaps that have the noise. -/
inductive SkColorType
  | kRGBA_8888
  | kBGRA_8888
  | kRGBA_F16
deriving DecidableEq

/-- A channel of a pixel. -/
inductive Channel
  | red
  | green
  | blue
  | alpha
deriving DecidableEq

namespace SkColorType

/-- `SkColorTypeBytesPerPixel`. -/
def bytesPerPixel : SkColorType → Nat
  | kRGBA_8888 => 4
  | kBGRA_8888 => 4
  | kRGBA_F16 => 8

/-- Where a channel starts. -/
def offset : SkColorType → Channel → Nat
  | kRGBA_8888, .red => 0
  | kRGBA_8888, .green => 1
  | kRGBA_8888, .blue => 2
  | kRGBA_8888, .alpha => 3
  | kBGRA_8888, .red => 2
  | kBGRA_8888, .green => 1
  | kBGRA_8888, .blue => 0
  | kBGRA_8888, .alpha => 3
  | kRGBA_F16, .red => 0
  | kRGBA_F16, .green => 2
  | kRGBA_F16, .blue => 4
  | kRGBA_F16, .alpha => 6

/-- A channel of eight bits starts at its only byte, and no colour starts where alpha does. -/
lemma offset_eight {c : SkColorType} (eight : c ≠ kRGBA_F16) (channel : Channel) :
    c.offset channel < 4 ∧ (c.offset channel < 3 ↔ channel ≠ .alpha) := by
  cases c <;> cases channel <;> first | exact absurd rfl eight | decide

end SkColorType

/-- The place of a half float among all of them, in units of the last place; the upper bit is its sign. -/
def halfPlace (low high : UInt8) : Int :=
  if high.toNat < 128 then high.toNat * 256 + low.toNat else -((high.toNat - 128) * 256 + low.toNat)

/-- A pixmap with its `SkImageInfo`. -/
structure ColorPixmap extends Pixmap where
  colorType : SkColorType
  format : bytesPerPixel = colorType.bytesPerPixel

namespace ColorPixmap

/-- A channel of a pixel, in units of its last place. -/
def channel (p : ColorPixmap) (x y : Nat) (c : Channel) : Int :=
  if p.colorType = .kRGBA_F16 then
    halfPlace (p.byte x y (p.colorType.offset c)) (p.byte x y (p.colorType.offset c + 1))
  else (p.byte x y (p.colorType.offset c)).toNat

/-- `PureCloakCanvasNoise`. -/
def canvasNoise (p : ColorPixmap) : ColorPixmap :=
  { p with toPixmap := pureCloakCanvasNoise p.toPixmap, format := p.format }

/-- `PureCloakCanvasNoiseExport`. -/
def canvasNoiseExport (p : ColorPixmap) : ColorPixmap :=
  { p with toPixmap := pureCloakCanvasNoiseExport p.toPixmap, format := p.format }

/-- The noise keeps alpha, and a colour of a selected pixel within a unit of its last place. -/
structure Respects (p p' : ColorPixmap) : Prop where
  alpha : ∀ x y, x < p.width → y < p.height → p'.channel x y .alpha = p.channel x y .alpha
  colour : ∀ x y c, x < p.width → y < p.height → Selected x y → c ≠ .alpha →
    (p'.channel x y c - p.channel x y c).natAbs ≤ 1

end ColorPixmap

/-- A byte that the noise leaves as it is: there is none, or the byte is at its bound. -/
def Stuck (noise : Int) (b : UInt8) : Prop :=
  noise = 0 ∨ (noise < 0 ∧ b = 0) ∨ (0 < noise ∧ b = 255)

/-- A byte with its noise: where it is not stuck it goes up or down by one. -/
lemma nudge_cases (noise : Int) (b : UInt8) :
    (Stuck noise b ∧ (nudge noise b).toNat = b.toNat) ∨
    (¬ Stuck noise b ∧ ((nudge noise b).toNat = b.toNat + 1 ∨ (nudge noise b).toNat + 1 = b.toNat)) := by
  have byte := b.toNat_lt
  have low : b = 0 ↔ b.toNat = 0 := UInt8.toNat_inj.symm
  have high : b = 255 ↔ b.toNat = 255 := UInt8.toNat_inj.symm
  have sign := Int.sign_trichotomy noise
  have positive : 0 < noise ↔ noise.sign = 1 := Int.sign_eq_one_iff_pos.symm
  have negative : noise < 0 ↔ noise.sign = -1 := Int.sign_eq_neg_one_iff_neg.symm
  have zero : noise = 0 ↔ noise.sign = 0 := Int.sign_eq_zero_iff_zero.symm
  rw [Stuck, low, high, positive, negative, zero, nudge, clampByte, UInt8.toNat_ofNat']
  split_ifs <;> omega

/-- A step of the lower byte of a half float is a unit. -/
lemma halfPlace_near {low low' high high' : UInt8} (near : Near low low') (same : high'.toNat = high.toNat) :
    (halfPlace low' high' - halfPlace low high).natAbs ≤ 1 := by
  rw [Near] at near
  rw [halfPlace, halfPlace, same]
  split_ifs <;> omega

/-- A step of the upper one is 256 of them, or a change of the sign. -/
lemma halfPlace_far {low low' high high' : UInt8} (near : Near low low')
    (step : high'.toNat = high.toNat + 1 ∨ high'.toNat + 1 = high.toNat) :
    1 < (halfPlace low' high' - halfPlace low high).natAbs := by
  have byte := high.toNat_lt
  rw [Near] at near
  rw [halfPlace, halfPlace]
  split_ifs <;> omega

namespace ColorPixmap

variable {p : ColorPixmap} {x y k : Nat}

/-- In a selected pixel the first three bytes get their steps. -/
lemma canvasNoise_byte_colour (hx : x < p.width) (hy : y < p.height) (sel : Selected x y) (hk : k < 3) :
    p.canvasNoise.byte x y k = nudge (pureCloakNoise 0 (pixelIndex p.width x y + Int32.ofNat k)) (p.byte x y k) := by
  have channels := p.channels
  have step := canvasNoise_byte (p := p.toPixmap) hx hy (Nat.lt_of_lt_of_le (Nat.lt_succ_of_lt hk) channels)
  rw [noiseStep, if_pos ⟨sel, hk⟩] at step
  exact step

/-- The other bytes of a pixel stay as they are. -/
lemma canvasNoise_byte_other (hx : x < p.width) (hy : y < p.height) (hk : 3 ≤ k) (inside : k < p.bytesPerPixel) :
    p.canvasNoise.byte x y k = p.byte x y k := by
  have step := canvasNoise_byte (p := p.toPixmap) hx hy inside
  rw [noiseStep, if_neg fun h => Nat.not_lt_of_le hk h.2, stepByte_zero] at step
  exact step

/-- The channels of eight bits. -/
lemma respects_eight (eight : p.colorType ≠ .kRGBA_F16) : Respects p p.canvasNoise where
  alpha x y hx hy := by
    have place := SkColorType.offset_eight eight .alpha
    have size := p.channels
    rw [channel, channel, if_neg eight, if_neg (show p.canvasNoise.colorType ≠ _ from eight)]
    rw [show p.canvasNoise.colorType = p.colorType from rfl,
      canvasNoise_byte_other hx hy (Nat.le_of_not_lt fun h => place.2.mp h rfl) (Nat.lt_of_lt_of_le place.1 size)]
  colour x y c hx hy sel colour := by
    have place := SkColorType.offset_eight eight c
    have near := nudge_near (pureCloakNoise 0 (pixelIndex p.width x y + Int32.ofNat (p.colorType.offset c)))
      (p.byte x y (p.colorType.offset c))
    rw [channel, channel, if_neg eight, if_neg (show p.canvasNoise.colorType ≠ _ from eight)]
    rw [show p.canvasNoise.colorType = p.colorType from rfl, canvasNoise_byte_colour hx hy sel (place.2.mpr colour)]
    rw [Near] at near
    omega

/-- A channel of half floats. -/
lemma channel_half (half : p.colorType = .kRGBA_F16) (c : Channel) :
    p.channel x y c = halfPlace (p.byte x y (SkColorType.kRGBA_F16.offset c))
      (p.byte x y (SkColorType.kRGBA_F16.offset c + 1)) := by
  rw [channel, if_pos half, half]

/-- In a pixel of half floats the upper byte of the red channel has to be stuck, and nothing else. -/
lemma respects_half (half : p.colorType = .kRGBA_F16) :
    Respects p p.canvasNoise ↔ ∀ x y, x < p.width → y < p.height → Selected x y →
      Stuck (pureCloakNoise 0 (pixelIndex p.width x y + 1)) (p.byte x y 1) := by
  have size : p.bytesPerPixel = 8 := by rw [p.format, half]; rfl
  have half' : p.canvasNoise.colorType = .kRGBA_F16 := half
  constructor
  · intro respects x y hx hy sel
    have unit := respects.colour x y .red hx hy sel Channel.noConfusion
    rw [channel_half half, channel_half half'] at unit
    have low := canvasNoise_byte_colour hx hy sel (k := 0) (by decide)
    have high : p.canvasNoise.byte x y 1 = nudge (pureCloakNoise 0 (pixelIndex p.width x y + 1)) (p.byte x y 1) :=
      canvasNoise_byte_colour hx hy sel (k := 1) (by decide)
    obtain ⟨stuck, _⟩ | ⟨_, step⟩ :=
      nudge_cases (pureCloakNoise 0 (pixelIndex p.width x y + 1)) (p.byte x y 1)
    · exact stuck
    · rw [← high] at step
      have far := halfPlace_far (low ▸ nudge_near _ _) step
      exact absurd unit (Nat.not_le_of_lt far)
  · intro stuck
    have other {x y : Nat} (hx : x < p.width) (hy : y < p.height) {k : Nat} (hk : 3 ≤ k) (lt : k < 8) :=
      canvasNoise_byte_other hx hy hk (Nat.lt_of_lt_of_eq lt size.symm)
    refine ⟨fun x y hx hy => ?_, fun x y c hx hy sel colour => ?_⟩
    · rw [channel_half half, channel_half half']
      show halfPlace (p.canvasNoise.byte x y 6) (p.canvasNoise.byte x y 7) = _
      rw [other hx hy (by decide) (by decide), other hx hy (by decide) (by decide)]
      rfl
    · rw [channel_half half, channel_half half']
      cases c with
      | red =>
        -- the lower byte takes its step, the upper one cannot
        have low := canvasNoise_byte_colour hx hy sel (k := 0) (by decide)
        have high : p.canvasNoise.byte x y 1 = nudge (pureCloakNoise 0 (pixelIndex p.width x y + 1)) (p.byte x y 1) :=
          canvasNoise_byte_colour hx hy sel (k := 1) (by decide)
        refine halfPlace_near (low ▸ nudge_near _ _) ?_
        obtain ⟨_, same⟩ | ⟨free, _⟩ :=
          nudge_cases (pureCloakNoise 0 (pixelIndex p.width x y + 1)) (p.byte x y 1)
        · rw [← high] at same
          exact same
        · exact absurd (stuck x y hx hy sel) free
      | green =>
        have low := canvasNoise_byte_colour hx hy sel (k := 2) (by decide)
        exact halfPlace_near (low ▸ nudge_near _ _) (congrArg UInt8.toNat (other hx hy (by decide) (by decide)))
      | blue =>
        have low := other hx hy (k := 4) (by decide) (by decide)
        exact halfPlace_near (low ▸ Near.refl _) (congrArg UInt8.toNat (other hx hy (by decide) (by decide)))
      | alpha => exact absurd rfl colour

/-- The noise respects every format of eight bits, and that of half floats only where the second byte of each selected
pixel is stuck. -/
theorem respects_iff (p : ColorPixmap) :
    Respects p p.canvasNoise ∧ Respects p p.canvasNoiseExport ↔
      (p.colorType = .kRGBA_F16 → ∀ x y, x < p.width → y < p.height → Selected x y →
        Stuck (pureCloakNoise 0 (pixelIndex p.width x y + 1)) (p.byte x y 1)) := by
  have same : p.canvasNoiseExport = p.canvasNoise := rfl
  rw [same, and_self_iff]
  by_cases half : p.colorType = .kRGBA_F16
  · rw [respects_half half, forall_prop_of_true half]
  · exact ⟨fun _ is_half => absurd is_half half, fun _ => respects_eight half⟩

/-- A white pixel of half floats, whose red goes from 1 to 1.25. -/
def whiteHalf : ColorPixmap where
  width := 1
  height := 1
  rowBytes := 8
  bytesPerPixel := 8
  bytes := [0x00, 0x3C, 0x00, 0x3C, 0x00, 0x3C, 0x00, 0x3C]
  channels := by decide
  rows := by decide
  size := by decide
  colorType := .kRGBA_F16
  format := rfl

/-- A white pixel of half floats. -/
theorem respects_fails : ¬ ∀ p : ColorPixmap, Respects p p.canvasNoise ∧ Respects p p.canvasNoiseExport := by
  intro h
  exact absurd ((h whiteHalf).1.colour 0 0 .red (by decide) (by decide) (by decide) (by decide)) (by decide)

end ColorPixmap

end PureCloak.Blink
