import PureCloak.Library.Mixing
import PureCloak.Library.Residues
import PureCloak.Blink.CanvasNoise

/-!
# How the noise is distributed

`PureCloakNoise` is two rounds that mix a word and the lower part of what they give, so every delta comes from as many
indices as every other (`noise_lossless`).

Which pixels and samples get the noise is one residue of their number: the loops over a canvas change one pixel in 997
of a row, and the loops that the patches add to the two audio interfaces one sample in 97 of a channel
(`noise_density`). The samples are `float`s, and what the noise adds to one is the class `AudioSample`.
-/

namespace PureCloak.Blink
open Mixing Residues

/-! ## The deltas -/

/-- The word `z` of `PureCloakNoise`. -/
def noiseWord (seed index : Int32) : UInt32 :=
  let x := seed.toUInt32 * 0x9E3779B9 + index.toUInt32
  let y := (x ^^^ (x >>> 16)) * 0x85EBCA6B
  (y ^^^ (y >>> 13)) * 0xC2B2AE35

/-- The noise is the lower byte of its word, less the middle. -/
lemma pureCloakNoise_eq (seed index : Int32) :
    pureCloakNoise seed index = ((noiseWord seed index &&& 0xFF).toNat : Int) - 128 :=
  rfl

/-- The multipliers are odd, so each has an inverse. -/
lemma multipliers_isUnit :
    IsUnit (0x9E3779B9 : BitVec 32) ∧ IsUnit (0x85EBCA6B : BitVec 32) ∧ IsUnit (0xC2B2AE35 : BitVec 32) :=
  ⟨.of_mul_eq_one 0x144CBC89 (by decide), .of_mul_eq_one 0xA5CB9243 (by decide), .of_mul_eq_one 0x7ED1B41D (by decide)⟩

/-- The two rounds. -/
def mixed : BitVec 32 → BitVec 32 :=
  mixRound 13 0xC2B2AE35 ∘ mixRound 16 0x85EBCA6B

/-- The rounds are a bijection of words. -/
lemma mixed_bijective : Function.Bijective mixed :=
  (mixRound_bijective (by decide) multipliers_isUnit.2.2).comp
    (mixRound_bijective (by decide) multipliers_isUnit.2.1)

/-- The word of the noise is that of seed and index, mixed. -/
lemma noiseWord_eq (seed index : Int32) :
    (noiseWord seed index).toBitVec = mixed (seed.toBitVec * 0x9E3779B9 + index.toBitVec) :=
  rfl

/-- Signed numbers are words. -/
lemma toBitVec_bijective : Function.Bijective Int32.toBitVec :=
  ⟨fun _ _ => Int32.toBitVec_inj.mp, fun b => ⟨Int32.ofBitVec b, rfl⟩⟩

/-- The word before the rounds may be any map of the input that loses nothing. -/
lemma word_bijective {f : Int32 → UInt32} {g : BitVec 32 → BitVec 32} (g_bijective : Function.Bijective g)
    (hf : ∀ v, (f v).toBitVec = mixed (g v.toBitVec)) : Function.Bijective f := by
  have bits : Function.Bijective (UInt32.toBitVec ∘ f) := by
    have all := mixed_bijective.comp (g_bijective.comp toBitVec_bijective)
    exact (funext hf : UInt32.toBitVec ∘ f = _) ▸ all
  refine ⟨bits.1.of_comp, fun z => ?_⟩
  obtain ⟨v, hv⟩ := bits.2 z.toBitVec
  exact ⟨v, UInt32.toBitVec_inj.mp hv⟩

/-- With one seed the indices have all words. -/
lemma noiseWord_bijective (seed : Int32) : Function.Bijective (noiseWord seed) :=
  word_bijective (AddGroup.addLeft_bijective (seed.toBitVec * 0x9E3779B9)) (noiseWord_eq seed)

/-- At one index the seeds have all words. -/
lemma noiseWord_bijective_seed (index : Int32) : Function.Bijective fun seed => noiseWord seed index := by
  have product : Function.Bijective fun s : BitVec 32 => s * 0x9E3779B9 := by
    have : Finite (BitVec 32) := Finite.of_equiv _ BitVec.equivFin.toEquiv.symm
    exact Finite.injective_iff_bijective.mp multipliers_isUnit.1.mul_left_injective
  exact word_bijective ((AddGroup.addRight_bijective index.toBitVec).comp product) fun seed => noiseWord_eq seed index

/-- The low byte. -/
lemma lowByte_eq (z : UInt32) : (z &&& 0xFF).toNat = z.toBitVec.toNat % 2 ^ 8 := by
  rw [UInt32.toNat_and]
  exact Nat.and_two_pow_sub_one_eq_mod z.toNat 8

/-- Each delta belongs to as many indices as there are words with one lower byte. -/
lemma card_delta (seed : Int32) {byte : Nat} (lt : byte < 2 ^ 8) :
    Nat.card {index : Int32 // pureCloakNoise seed index = (byte : Int) - 128} = 2 ^ 24 := by
  have words : Function.Bijective fun index => (noiseWord seed index).toBitVec :=
    ⟨fun _ _ same => (noiseWord_bijective seed).1 (UInt32.toBitVec_inj.mp same), fun b =>
      let ⟨index, h⟩ := (noiseWord_bijective seed).2 (UInt32.ofBitVec b)
      ⟨index, congrArg UInt32.toBitVec h⟩⟩
  rw [← card_preimage_lowPart (a := 8) (b := 24) words lt]
  apply Nat.card_congr
  refine Equiv.subtypeEquivRight fun index => ?_
  rw [pureCloakNoise_eq, lowByte_eq]
  omega

/-- The index and the seed are mixed without loss, and every delta of the range comes from as many indices. -/
theorem noise_lossless :
    (∀ seed, Function.Bijective (noiseWord seed)) ∧
    (∀ index, Function.Bijective fun seed => noiseWord seed index) ∧
    ∀ seed delta, Nat.card {index : Int32 // pureCloakNoise seed index = delta} =
      if -128 ≤ delta ∧ delta ≤ 127 then 2 ^ 24 else 0 := by
  refine ⟨noiseWord_bijective, noiseWord_bijective_seed, fun seed delta => ?_⟩
  split_ifs with range
  · have byte : delta = ((delta + 128).toNat : Int) - 128 := by omega
    rw [byte]
    exact card_delta seed (by omega)
  · have none : IsEmpty {index : Int32 // pureCloakNoise seed index = delta} :=
      ⟨fun index => range (index.2 ▸ pureCloakNoise_range seed index.1)⟩
    exact Nat.card_of_isEmpty

/-! ## Where the noise is -/

/-- The pixels that the loops over a canvas change, in the order of the loops. -/
def selectedPixels (width height : Nat) : List (Nat × Nat) :=
  (List.range height).flatMap fun y => ((List.range width).filter fun x => Selected x y).map fun x => (x, y)

/-- The loops are one loop over these pixels. -/
lemma canvasNoise_eq_foldl (p : Pixmap) :
    (canvasNoise p).bytes = (selectedPixels p.width p.height).foldl (fun bytes pixel =>
      noisePixel (pixelIndex p.width pixel.1 pixel.2) (p.writableAddr pixel.1 pixel.2) bytes) p.bytes := by
  show p.noiseRows p.height = _
  rw [Pixmap.noiseRows, selectedPixels, List.foldl_flatMap]
  congr 1
  funext bytes y
  rw [List.foldl_map, List.foldl_filter, Pixmap.noiseRow]
  simp only [decide_eq_true_eq]

/-- They are the pixels of the image that pass the test. -/
lemma mem_selectedPixels {width height x y : Nat} :
    (x, y) ∈ selectedPixels width height ↔ x < width ∧ y < height ∧ Selected x y := by
  rw [selectedPixels, List.mem_flatMap]
  constructor
  · intro mem
    obtain ⟨y', hy', hx⟩ := mem
    obtain ⟨x', hx', same⟩ := List.mem_map.mp hx
    obtain ⟨rfl, rfl⟩ := Prod.mk.inj same
    obtain ⟨in_row, sel⟩ := List.mem_filter.mp hx'
    exact ⟨List.mem_range.mp in_row, List.mem_range.mp hy', of_decide_eq_true sel⟩
  · intro selected
    obtain ⟨hx, hy, sel⟩ := selected
    refine ⟨y, List.mem_range.mpr hy, List.mem_map.mpr ⟨x, List.mem_filter.mpr ⟨List.mem_range.mpr hx, ?_⟩, rfl⟩⟩
    exact decide_eq_true sel

/-- No pixel is visited twice. -/
lemma selectedPixels_nodup (width height : Nat) : (selectedPixels width height).Nodup := by
  rw [selectedPixels, List.nodup_flatMap]
  refine ⟨fun y _ => ?_, ?_⟩
  · exact (List.nodup_range.filter _).map fun _ _ same => (Prod.mk.inj same).1
  · refine List.nodup_range.imp fun {y y'} ne pixel h h' => ?_
    obtain ⟨_, _, rfl⟩ := List.mem_map.mp h
    obtain ⟨_, _, same⟩ := List.mem_map.mp h'
    exact ne (Prod.mk.inj same).2.symm

/-- The sums of the tests fit an `int`. -/
def TestsInRange (width height : Nat) : Prop :=
  ∀ x y, x < width → y < height → x * 1009 + y * 3049 < 2 ^ 31

/-- A row has as many of them as its width by 997, rounded down or up. -/
lemma selectedRow_length {width y : Nat} (in_range : ∀ x < width, x * 1009 + y * 3049 < 2 ^ 31) :
    width / 997 ≤ ((List.range width).filter fun x => Selected x y).length ∧
    ((List.range width).filter fun x => Selected x y).length ≤ (width + 996) / 997 := by
  have same : (List.range width).filter (fun x => Selected x y) =
      (List.range width).filter fun x => Hits 1009 997 (y * 3049) x := by
    refine List.filter_congr fun x hx => ?_
    rw [decide_eq_decide]
    exact selected_iff (in_range x (List.mem_range.mp hx))
  rw [same, ← List.countP_eq_length_filter]
  exact count_bounds (by decide) (by decide) (y * 3049) width

/-- An image has as many as this says, up to one in a row. -/
lemma selectedPixels_length {width height : Nat} (in_range : TestsInRange width height) :
    height * (width / 997) ≤ (selectedPixels width height).length ∧
    (selectedPixels width height).length ≤ height * ((width + 996) / 997) := by
  induction height with
  | zero => exact ⟨Nat.le_of_eq (Nat.zero_mul _), Nat.zero_le _⟩
  | succ y ih =>
    have rows : (selectedPixels width (y + 1)).length =
        (selectedPixels width y).length + ((List.range width).filter fun x => Selected x y).length := by
      rw [selectedPixels, List.range_succ, List.flatMap_append, List.length_append, List.flatMap_singleton,
        List.length_map]
      rfl
    have above := ih fun x y' hx hy => in_range x y' hx (Nat.lt_succ_of_lt hy)
    have row := selectedRow_length fun x hx => in_range x y hx (Nat.lt_succ_self y)
    rw [rows, Nat.succ_mul, Nat.succ_mul]
    exact ⟨Nat.add_le_add above.1 row.1, Nat.add_le_add above.2 row.2⟩

/-- The `float` of a sample, and its sum with the `PureCloakFloatNoise` of a delta. -/
class AudioSample (Sample : Type) where
  addFloatNoise : Int → Sample → Sample

/-- The test of the two audio loops, of a `size_t` and an `unsigned`. -/
def AudioSelected (s : UInt64) (i : UInt32) : Prop :=
  (s * 1009 + (i * 3049).toUInt64) % 97 = 0

instance (s : UInt64) (i : UInt32) : Decidable (AudioSelected s i) :=
  inferInstanceAs (Decidable (_ = _))

section
variable {Sample : Type} [AudioSample Sample]

/-- The noise of a sample, whose index depends on the loop. -/
def sampleNoise (index : UInt64 → Int32) (s : Nat) : Sample → Sample :=
  AudioSample.addFloatNoise (pureCloakNoise 0 (index (UInt64.ofNat s)))

/-- The loop over the samples of a channel, up to a bound. -/
def audioSamples (index : UInt64 → Int32) (i : UInt32) (data : List Sample) (bound : Nat) : List Sample :=
  (List.range bound).foldl (fun data s =>
    if AudioSelected (UInt64.ofNat s) i then data.modify s (sampleNoise index s) else data) data

/-- The loop of `AudioBuffer::AudioBuffer` over a channel. The product in the index is of the type `unsigned`. -/
def audioBufferNoise (i length : UInt32) (data : List Sample) : List Sample :=
  audioSamples (fun s => (s + (i * length).toUInt64).toUInt32.toInt32) i data data.length

/-- The loop of `FireCompletionEvent` over a channel. -/
def offlineAudioNoise (ch : UInt32) (data : List Sample) : List Sample :=
  audioSamples (fun s => (s + ch.toUInt64 * UInt64.ofNat data.length).toUInt32.toInt32) ch data data.length

/-- What the loop has done up to a bound: each selected sample has its noise once, and the others are as they were. -/
lemma audioSamples_get (index : UInt64 → Int32) (i : UInt32) (data : List Sample) (bound s : Nat) :
    (audioSamples index i data bound)[s]? =
      if s < bound ∧ AudioSelected (UInt64.ofNat s) i then data[s]?.map (sampleNoise index s) else data[s]? := by
  induction bound with
  | zero => rw [if_neg fun h => Nat.not_lt_zero s h.1]; rfl
  | succ n ih =>
    have step : audioSamples index i data (n + 1) =
        if AudioSelected (UInt64.ofNat n) i then (audioSamples index i data n).modify n (sampleNoise index n)
        else audioSamples index i data n := by
      rw [audioSamples, List.range_succ, List.foldl_append]
      rfl
    rw [step]
    by_cases here : s = n
    · rw [if_neg fun h => Nat.ne_of_lt h.1 here] at ih
      subst here
      split_ifs with sel all all
      · rw [List.getElem?_modify_eq, ih]; rfl
      · exact absurd ⟨Nat.lt_succ_self s, sel⟩ all
      · exact absurd all.2 sel
      · exact ih
    · have same_bound : s < n + 1 ↔ s < n := by omega
      simp only [same_bound]
      rw [← ih]
      split_ifs
      · rw [List.getElem?_modify_ne _ _ (Ne.symm here)]
      · rfl

end

/-- The test, where the sum of the index is a `size_t`. -/
lemma audioSelected_iff {s : Nat} {i : UInt32} (in_range : s * 1009 + (i * 3049).toNat < 2 ^ 64) :
    AudioSelected (UInt64.ofNat s) i ↔ Hits 1009 97 (i * 3049).toNat s := by
  have number : (UInt64.ofNat s * 1009 + (i * 3049).toUInt64).toNat = s * 1009 + (i * 3049).toNat := by
    rw [UInt64.toNat_add, UInt64.toNat_mul, UInt32.toNat_toUInt64, UInt64.toNat_ofNat']
    show (s % 2 ^ 64 * 1009 % 2 ^ 64 + (i * 3049).toNat) % 2 ^ 64 = s * 1009 + (i * 3049).toNat
    omega
  rw [AudioSelected, Hits, ← UInt64.toNat_inj, UInt64.toNat_mod, number]
  rfl

/-- Of 997 columns in a row one is selected. -/
lemma existsUnique_selected {x y : Nat} (in_range : (x + 996) * 1009 + y * 3049 < 2 ^ 31) :
    ∃! x', (x ≤ x' ∧ x' ≤ x + 996) ∧ Selected x' y := by
  have fits (k : Nat) (le : k ≤ x + 996) : k * 1009 + y * 3049 < 2 ^ 31 :=
    Nat.lt_of_le_of_lt (Nat.add_le_add_right (Nat.mul_le_mul_right 1009 le) _) in_range
  obtain ⟨x', ⟨window, hits⟩, unique⟩ :=
    existsUnique_window (m := 1009) (n := 997) (by decide) (by decide) (y * 3049) x
  have le : x' ≤ x + 996 := Nat.le_of_lt_succ window.2
  refine ⟨x', ⟨⟨window.1, le⟩, (selected_iff (fits x' le)).mpr hits⟩, fun other ⟨⟨from_x, to_end⟩, sel⟩ => ?_⟩
  exact unique other ⟨⟨from_x, Nat.lt_succ_of_le to_end⟩, (selected_iff (fits other to_end)).mp sel⟩

/-- Of 97 samples in a row one is selected. -/
lemma existsUnique_audioSelected {s : Nat} {i : UInt32} (in_range : (s + 96) * 1009 + (i * 3049).toNat < 2 ^ 64) :
    ∃! s', (s ≤ s' ∧ s' ≤ s + 96) ∧ AudioSelected (UInt64.ofNat s') i := by
  have fits (k : Nat) (le : k ≤ s + 96) : k * 1009 + (i * 3049).toNat < 2 ^ 64 :=
    Nat.lt_of_le_of_lt (Nat.add_le_add_right (Nat.mul_le_mul_right 1009 le) _) in_range
  obtain ⟨s', ⟨window, hits⟩, unique⟩ :=
    existsUnique_window (m := 1009) (n := 97) (by decide) (by decide) (i * 3049).toNat s
  have le : s' ≤ s + 96 := Nat.le_of_lt_succ window.2
  refine ⟨s', ⟨⟨window.1, le⟩, (audioSelected_iff (fits s' le)).mpr hits⟩, fun other ⟨⟨from_s, to_end⟩, sel⟩ => ?_⟩
  exact unique other ⟨⟨from_s, Nat.lt_succ_of_le to_end⟩, (audioSelected_iff (fits other to_end)).mp sel⟩

/-- A loop over a channel gives the selected samples their noise, and the others stay as they are. -/
def Perturbs {Sample : Type} [AudioSample Sample] (loop : List Sample → List Sample) (i : UInt32)
    (index : List Sample → UInt64 → Int32) : Prop :=
  ∀ (data : List Sample) (s : Nat), (loop data)[s]? =
    if AudioSelected (UInt64.ofNat s) i then data[s]?.map (sampleNoise (index data) s) else data[s]?

/-- A loop over all samples of a channel. -/
lemma audioSamples_perturbs {Sample : Type} [AudioSample Sample] (i : UInt32)
    (index : List Sample → UInt64 → Int32) :
    Perturbs (fun data => audioSamples (index data) i data data.length) i index := by
  intro data s
  rw [audioSamples_get]
  by_cases inside : s < data.length
  · simp only [inside, true_and]
  · rw [if_neg fun h => inside h.1, List.getElem?_eq_none (Nat.le_of_not_lt inside), Option.map_none, ite_self]

/-- One column in 997 of a row is selected, wherever one starts, and the loops over a pixmap visit each of the selected
pixels once, as many as this says up to one in a row. One sample in 97 of a channel is selected, and each of the two
loops over a channel changes those. -/
theorem noise_density {Sample : Type} [AudioSample Sample] :
    (∀ y x, (x + 996) * 1009 + y * 3049 < 2 ^ 31 → ∃! x', (x ≤ x' ∧ x' ≤ x + 996) ∧ Selected x' y) ∧
    (∀ p : Pixmap, ∃ pixels : List (Nat × Nat), pixels.Nodup ∧
      (∀ x y, (x, y) ∈ pixels ↔ x < p.width ∧ y < p.height ∧ Selected x y) ∧
      (∀ noise ∈ [pureCloakCanvasNoise, pureCloakCanvasNoiseExport], (noise p).bytes = pixels.foldl (fun bytes pixel =>
        noisePixel (pixelIndex p.width pixel.1 pixel.2) (p.writableAddr pixel.1 pixel.2) bytes) p.bytes) ∧
      (TestsInRange p.width p.height →
        p.height * (p.width / 997) ≤ pixels.length ∧ pixels.length ≤ p.height * ((p.width + 996) / 997))) ∧
    (∀ (i : UInt32) (s : Nat), (s + 96) * 1009 + (i * 3049).toNat < 2 ^ 64 →
      ∃! s', (s ≤ s' ∧ s' ≤ s + 96) ∧ AudioSelected (UInt64.ofNat s') i) ∧
    (∀ i length, Perturbs (@audioBufferNoise Sample _ i length) i fun _ s =>
      (s + (i * length).toUInt64).toUInt32.toInt32) ∧
    ∀ ch, Perturbs (@offlineAudioNoise Sample _ ch) ch fun data s =>
      (s + ch.toUInt64 * UInt64.ofNat data.length).toUInt32.toInt32 := by
  refine ⟨fun y x => existsUnique_selected, fun p => ?_, fun i s => existsUnique_audioSelected, fun i length => ?_,
    fun ch => ?_⟩
  · refine ⟨selectedPixels p.width p.height, selectedPixels_nodup _ _, fun x y => mem_selectedPixels, ?_,
      selectedPixels_length⟩
    intro noise mem
    have same : noise p = canvasNoise p := by
      cases mem with
      | head => rfl
      | tail _ mem =>
        cases mem with
        | head => rfl
        | tail _ mem => cases mem
    rw [same]
    exact canvasNoise_eq_foldl p
  · exact audioSamples_perturbs i _
  · exact audioSamples_perturbs ch _

/-- `float`. -/
@[reducible]
def floatSamples : AudioSample Float32 where
  addFloatNoise delta sample := sample + Float32.ofInt delta / 256 * 0.0001

/-- Two rows of a thousand pixels, and the samples of the second channel. -/
theorem noise_density_rows :
    (∃! x', (3 ≤ x' ∧ x' ≤ 3 + 996) ∧ Selected x' 1) ∧
    (∃ pixels : List (Nat × Nat), pixels.Nodup ∧ 2 ≤ pixels.length ∧ pixels.length ≤ 4 ∧
      ∀ pixel ∈ pixels, Selected pixel.1 pixel.2) ∧
    (∃! s', (0 ≤ s' ∧ s' ≤ 0 + 96) ∧ AudioSelected (UInt64.ofNat s') 1) ∧
    @Perturbs Float32 floatSamples (@audioBufferNoise Float32 floatSamples 1 441) 1 fun _ s =>
      (s + (1 * 441 : UInt32).toUInt64).toUInt32.toInt32 := by
  obtain ⟨columns, canvas, samples, buffer, _⟩ := @noise_density Float32 floatSamples
  obtain ⟨pixels, once, selected, _, count⟩ :=
    canvas (tightPixmap 1000 2 (List.replicate 8000 0) List.length_replicate)
  have fits : TestsInRange 1000 2 := fun x y hx hy => by omega
  refine ⟨columns 1 3 (by decide), ⟨pixels, once, (count fits).1, (count fits).2, fun pixel mem => ?_⟩,
    samples 1 0 (by decide), buffer 1 441⟩
  exact ((selected pixel.1 pixel.2).mp mem).2.2

end PureCloak.Blink
