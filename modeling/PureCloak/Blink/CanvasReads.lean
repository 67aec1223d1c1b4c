import PureCloak.Blink.PixelFormats

/-!
# Two reads of one canvas

What a page gets of a canvas pixel by `getImageData` with two rectangles, and by an export. A read copies the rectangle
into a pixmap of its own, and the noise takes coordinates and indices from that pixmap; an export has those of the
canvas, and the noise in the bytes of the snapshot, before they are converted (`consistent_iff`).

The conversion between the pixel formats belongs to the renderer and is a parameter.
-/

namespace PureCloak.Blink

namespace Pixmap

/-- A pixmap without bytes between its rows, from the bytes of its pixels. -/
def tabulate (width height : Nat) (colorType : SkColorType)
    (pixel : Nat → Nat → Fin colorType.bytesPerPixel → UInt8) : Pixmap where
  width := width
  height := height
  rowBytes := width * colorType.bytesPerPixel
  bytesPerPixel := colorType.bytesPerPixel
  bytes := (List.range (height * (width * colorType.bytesPerPixel))).map fun a =>
    pixel (a / colorType.bytesPerPixel % width) (a / colorType.bytesPerPixel / width)
      ⟨a % colorType.bytesPerPixel, Nat.mod_lt a (by cases colorType <;> decide)⟩
  channels := by cases colorType <;> decide
  rows := Nat.le_refl _
  size := by rw [List.length_map, List.length_range]

/-- The bytes of a pixmap that is given by its pixels. -/
lemma tabulate_get {width height : Nat} {colorType : SkColorType}
    (pixel : Nat → Nat → Fin colorType.bytesPerPixel → UInt8) {a : Nat}
    (lt : a < height * (width * colorType.bytesPerPixel)) :
    (tabulate width height colorType pixel).bytes[a]? =
      some (pixel (a / colorType.bytesPerPixel % width) (a / colorType.bytesPerPixel / width)
        ⟨a % colorType.bytesPerPixel, Nat.mod_lt a (by cases colorType <;> decide)⟩) := by
  show ((List.range _).map _)[a]? = _
  rw [List.getElem?_map, List.getElem?_range lt, Option.map_some]

/-- The byte of a pixel. -/
lemma tabulate_byte {width height : Nat} {colorType : SkColorType}
    (pixel : Nat → Nat → Fin colorType.bytesPerPixel → UInt8) {x y : Nat} (hx : x < width) (hy : y < height)
    (k : Fin colorType.bytesPerPixel) : (tabulate width height colorType pixel).byte x y k = pixel x y k := by
  have address : (tabulate width height colorType pixel).writableAddr x y + k =
      (y * width + x) * colorType.bytesPerPixel + k := by
    show y * (width * colorType.bytesPerPixel) + x * colorType.bytesPerPixel + k = _
    rw [Nat.add_mul, Nat.mul_assoc]
  have inside : (y * width + x) * colorType.bytesPerPixel + k < height * (width * colorType.bytesPerPixel) := by
    rw [← address]
    exact Nat.lt_of_lt_of_eq (address_lt_length hx hy k.isLt) (tabulate width height colorType pixel).size
  -- the digits of the address are the pixel and the byte again
  obtain ⟨number, digit⟩ := digits (q := y * width + x) k.isLt
  obtain ⟨row, column⟩ := digits (q := y) hx
  rw [byte, List.getD_eq_getElem?_getD, address, tabulate_get pixel inside, Option.getD_some]
  simp only [digit, number, column, row]

end Pixmap

/-- The snapshot of a canvas. -/
structure Canvas where
  width : Nat
  height : Nat
  colorType : SkColorType
  /-- The bytes of a pixel. -/
  stored : Nat → Nat → Fin colorType.bytesPerPixel → UInt8

/-- The pixels as `readPixels` and the encoders convert them. -/
abbrev Conversion (source target : SkColorType) :=
  (Fin source.bytesPerPixel → UInt8) → Fin target.bytesPerPixel → UInt8

/-- The arguments of `getImageData`. -/
structure Rect where
  sx : Int
  sy : Int
  sw : Nat
  sh : Nat

namespace Rect

/-- The pixel of the canvas is in the rectangle. -/
def Contains (r : Rect) (x y : Nat) : Prop :=
  (r.sx ≤ x ∧ x < r.sx + r.sw) ∧ (r.sy ≤ y ∧ y < r.sy + r.sh)

/-- Its column in the rectangle. -/
def column (r : Rect) (x : Nat) : Nat := (x - r.sx).toNat

/-- Its row in the rectangle. -/
def row (r : Rect) (y : Nat) : Nat := (y - r.sy).toNat

/-- A pixel in the rectangle has a place in the data. -/
lemma Contains.lt {r : Rect} {x y : Nat} (inside : r.Contains x y) : r.column x < r.sw ∧ r.row y < r.sh := by
  obtain ⟨⟨_, _⟩, ⟨_, _⟩⟩ := inside
  constructor
  · rw [column]; omega
  · rw [row]; omega

/-- The place leads back to the pixel. -/
lemma Contains.back {r : Rect} {x y : Nat} (inside : r.Contains x y) :
    r.sx + r.column x = x ∧ r.sy + r.row y = y := by
  obtain ⟨⟨_, _⟩, ⟨_, _⟩⟩ := inside
  constructor
  · rw [column]; omega
  · rw [row]; omega

end Rect

namespace Canvas

variable (canvas : Canvas) {target : SkColorType} (convert : Conversion canvas.colorType target)

/-- `getImageDataInternal`: `readPixels` writes the part of the rectangle that is in the canvas into the new image data,
and the noise goes over all of it. -/
def getImageData (allocated : Nat → Nat → Fin target.bytesPerPixel → UInt8) (r : Rect) : Pixmap :=
  pureCloakCanvasNoise (.tabulate r.sw r.sh target fun i j =>
    let x := r.sx + i
    let y := r.sy + j
    if 0 ≤ x ∧ x < canvas.width ∧ 0 ≤ y ∧ y < canvas.height then convert (canvas.stored x.toNat y.toNat)
    else allocated i j)

/-- The image that `ToDataURLInternal` and `toBlob` encode. -/
def exported : Pixmap :=
  pureCloakCanvasNoiseExport (.tabulate canvas.width canvas.height canvas.colorType canvas.stored)

/-- A byte of the colour of a pixel in the encoded image. -/
def exportColour (x y : Nat) : Fin target.bytesPerPixel → UInt8 :=
  convert fun k => canvas.exported.byte x y k

/-- A read of a pixel, byte by byte. -/
lemma getImageData_byte (allocated : Nat → Nat → Fin target.bytesPerPixel → UInt8) {r : Rect} {x y : Nat}
    (hx : x < canvas.width) (hy : y < canvas.height) (inside : r.Contains x y) (k : Fin target.bytesPerPixel) :
    (canvas.getImageData convert allocated r).byte (r.column x) (r.row y) k =
      stepByte (noiseStep r.sw (r.column x) (r.row y) k) (convert (canvas.stored x y) k) := by
  obtain ⟨column_back, row_back⟩ := inside.back
  rw [getImageData, pureCloakCanvasNoise, canvasNoise_byte inside.lt.1 inside.lt.2 k.isLt,
    Pixmap.tabulate_byte _ inside.lt.1 inside.lt.2]
  simp only [column_back, row_back, Int.toNat_natCast]
  rw [if_pos (by omega)]
  rfl

/-- The colour in the export is that of the step at the place in the canvas. -/
lemma exportColour_eq {x y : Nat} (hx : x < canvas.width) (hy : y < canvas.height) :
    canvas.exportColour convert x y =
      convert fun k => stepByte (noiseStep canvas.width x y k) (canvas.stored x y k) := by
  rw [exportColour]
  congr 1
  funext k
  rw [exported, pureCloakCanvasNoiseExport, canvasNoise_byte hx hy k.isLt, Pixmap.tabulate_byte _ hx hy]
  rfl

end Canvas

/-- Two steps make the same of a byte: they are one step, or the byte is at the bound that both go beyond. -/
def SameStep (step step' : Int) (b : UInt8) : Prop :=
  step = step' ∨ (b = 0 ∧ step ≤ 0 ∧ step' ≤ 0) ∨ (b = 255 ∧ 0 ≤ step ∧ 0 ≤ step')

/-- Two steps have one result when they are the same for the byte. -/
lemma stepByte_eq_iff {step step' : Int} (range : -1 ≤ step ∧ step ≤ 1) (range' : -1 ≤ step' ∧ step' ≤ 1) (b : UInt8) :
    stepByte step b = stepByte step' b ↔ SameStep step step' b := by
  have byte := b.toNat_lt
  have low : b = 0 ↔ b.toNat = 0 := UInt8.toNat_inj.symm
  have high : b = 255 ↔ b.toNat = 255 := UInt8.toNat_inj.symm
  rw [SameStep, low, high, stepByte, stepByte, clampByte, clampByte, ← UInt8.toNat_inj, UInt8.toNat_ofNat',
    UInt8.toNat_ofNat']
  split_ifs <;> omega

namespace Canvas

variable (canvas : Canvas) {target : SkColorType} (convert : Conversion canvas.colorType target)

/-- Every pixel in both rectangles has one colour in both reads, and in the export. -/
def Consistent (allocated : Nat → Nat → Fin target.bytesPerPixel → UInt8) (r r' : Rect) : Prop :=
  ∀ x y, x < canvas.width → y < canvas.height → r.Contains x y → r'.Contains x y → ∀ k : Fin target.bytesPerPixel,
    (canvas.getImageData convert allocated r).byte (r.column x) (r.row y) k =
      (canvas.getImageData convert allocated r').byte (r'.column x) (r'.row y) k ∧
    (canvas.getImageData convert allocated r).byte (r.column x) (r.row y) k = canvas.exportColour convert x y k

/-- The steps of a pixel at its places in two rectangles make the same of its converted bytes, and the conversion takes
the steps at its place in the canvas to these. -/
def StepsAgree (r r' : Rect) (x y : Nat) (k : Fin target.bytesPerPixel) : Prop :=
  SameStep (noiseStep r.sw (r.column x) (r.row y) k) (noiseStep r'.sw (r'.column x) (r'.row y) k)
    (convert (canvas.stored x y) k) ∧
  convert (fun j => stepByte (noiseStep canvas.width x y j) (canvas.stored x y j)) k =
    stepByte (noiseStep r.sw (r.column x) (r.row y) k) (convert (canvas.stored x y) k)

/-- The reads are consistent exactly where the steps of every pixel in both rectangles agree. -/
theorem consistent_iff (allocated : Nat → Nat → Fin target.bytesPerPixel → UInt8) (r r' : Rect) :
    canvas.Consistent convert allocated r r' ↔
      ∀ x y, x < canvas.width → y < canvas.height → r.Contains x y → r'.Contains x y →
        ∀ k : Fin target.bytesPerPixel, canvas.StepsAgree convert r r' x y k := by
  have pixel {x y : Nat} (hx : x < canvas.width) (hy : y < canvas.height) (inside : r.Contains x y)
      (inside' : r'.Contains x y) (k : Fin target.bytesPerPixel) :
      ((canvas.getImageData convert allocated r).byte (r.column x) (r.row y) k =
          (canvas.getImageData convert allocated r').byte (r'.column x) (r'.row y) k ∧
        (canvas.getImageData convert allocated r).byte (r.column x) (r.row y) k = canvas.exportColour convert x y k) ↔
      canvas.StepsAgree convert r r' x y k := by
    rw [getImageData_byte canvas convert allocated hx hy inside,
      getImageData_byte canvas convert allocated hx hy inside',
      exportColour_eq canvas convert hx hy, stepByte_eq_iff (noiseStep_range _ _ _ _) (noiseStep_range _ _ _ _),
      StepsAgree, eq_comm (b := convert _ k)]
  constructor
  · intro consistent x y hx hy inside inside' k
    exact (pixel hx hy inside inside' k).mp (consistent x y hx hy inside inside' k)
  · intro same x y hx hy inside inside' k
    exact (pixel hx hy inside inside' k).mpr (same x y hx hy inside inside' k)

end Canvas

/-- Two pixels of one colour. -/
def twoPixels : Canvas where
  width := 2
  height := 1
  colorType := .kRGBA_8888
  stored _ _ k := if k.val = 3 then 255 else 7

/-- The second pixel in a rectangle of its own is the first of that rectangle, and gets other noise. -/
theorem consistent_fails :
    ¬ ∀ (canvas : Canvas) (target : SkColorType) (convert : Conversion canvas.colorType target)
      (allocated : Nat → Nat → Fin target.bytesPerPixel → UInt8) (r r' : Rect),
      canvas.Consistent convert allocated r r' := by
  intro consistent
  have pixel := consistent twoPixels SkColorType.kRGBA_8888 (fun bytes => bytes) (fun _ _ _ => 0) ⟨0, 0, 2, 1⟩
    ⟨1, 0, 1, 1⟩ 1 0 (by decide) (by decide) ⟨⟨by decide, by decide⟩, ⟨by decide, by decide⟩⟩
    ⟨⟨by decide, by decide⟩, ⟨by decide, by decide⟩⟩ ⟨0, by decide⟩
  exact absurd pixel.1 (by decide)

end PureCloak.Blink
