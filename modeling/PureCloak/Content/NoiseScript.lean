import PureCloak.Library.JsNumber
import PureCloak.Library.Mixing
import PureCloak.Blink.CanvasNoise

/-!
# The noise of the injected script

`AntiDetectionEngine::GeneratePRNGFunction`: the text of a script function that is to be `PureCloakNoise`, and the
function that the text is (`generatePRNGFunction_eq`).

The script multiplies the words as numbers, which have 53 bits, and takes the lower 32 afterwards. The native code has
the lower 32 bits of the products themselves. What the rounding errors of the script come to in the last word is the
`drift`, and the values agree exactly where it leaves the lower byte, or both are clamped; for every seed there is an
index whose first word is the same in both and whose delta is not (`pcNoise_matches_iff`).
-/

namespace PureCloak.Content
open PureCloak.Base PureCloak.Blink JsNumber Mixing

/-! ## The text -/

/-- `GeneratePRNGFunction`. -/
def generatePRNGFunction (seed : Int32) : String :=
  "function _pcNoise(base,index)\x7b" ++
    "var s=" ++ numberToString seed.toInt ++ ";" ++
    "var x=(s*0x9E3779B9+index)&0xFFFFFFFF;" ++
    "var y=((x^(x>>>16))*0x85EBCA6B)&0xFFFFFFFF;" ++
    "var z=((y^(y>>>13))*0xC2B2AE35)&0xFFFFFFFF;" ++
    "var delta=((z&0xFF)-128);" ++
    "return Math.max(0,Math.min(255,base+delta));" ++
    "\x7d"

/-- The variables of the text. -/
inductive PcVar
  | base
  | index
  | s
  | x
  | y
  | z
  | delta
deriving DecidableEq

def PcVar.name : PcVar → String
  | base => "base"
  | index => "index"
  | s => "s"
  | x => "x"
  | y => "y"
  | z => "z"
  | delta => "delta"

namespace Script

def mask : Expr PcVar :=
  .num "0xFFFFFFFF" 0xFFFFFFFF

/-- `(s*0x9E3779B9+index)&0xFFFFFFFF`. -/
def firstWord : Expr PcVar :=
  .bitAnd (.paren (.add (.mul (.var .s) (.num "0x9E3779B9" 0x9E3779B9)) (.var .index))) mask

/-- `((v^(v>>>k))*m)&0xFFFFFFFF`. -/
def roundOf (v : PcVar) (shift multiplier : Expr PcVar) : Expr PcVar :=
  .bitAnd (.paren (.mul (.paren (.bitXor (.var v) (.paren (.shiftRight (.var v) shift)))) multiplier)) mask

/-- `((z&0xFF)-128)`. -/
def deltaOf : Expr PcVar :=
  .paren (.sub (.paren (.bitAnd (.var .z) (.num "0xFF" 0xFF))) (.num "128" 128))

/-- `Math.max(0,Math.min(255,base+delta))`. -/
def clamped : Expr PcVar :=
  .max (.num "0" 0) (.min (.num "255" 255) (.add (.var .base) (.var .delta)))

end Script

/-- The function of the text. -/
def prngFunction (seed : Int32) : Procedure PcVar where
  name := "_pcNoise"
  params := [.base, .index]
  body := [
    (.s, .num (numberToString seed.toInt) seed.toInt),
    (.x, Script.firstWord),
    (.y, Script.roundOf .x (.num "16" 16) (.num "0x85EBCA6B" 0x85EBCA6B)),
    (.z, Script.roundOf .y (.num "13" 13) (.num "0xC2B2AE35" 0xC2B2AE35)),
    (.delta, Script.deltaOf)]
  result := Script.clamped

/-- A line of the text. -/
def lineOf (v : PcVar) (e : Expr PcVar) : String :=
  "var " ++ v.name ++ "=" ++ e.text PcVar.name ++ ";"

lemma line_x : lineOf .x Script.firstWord = "var x=(s*0x9E3779B9+index)&0xFFFFFFFF;" := by
  decide

lemma line_y : lineOf .y (Script.roundOf .x (.num "16" 16) (.num "0x85EBCA6B" 0x85EBCA6B)) =
    "var y=((x^(x>>>16))*0x85EBCA6B)&0xFFFFFFFF;" := by
  decide

lemma line_z : lineOf .z (Script.roundOf .y (.num "13" 13) (.num "0xC2B2AE35" 0xC2B2AE35)) =
    "var z=((y^(y>>>13))*0xC2B2AE35)&0xFFFFFFFF;" := by
  decide

lemma line_delta : lineOf .delta Script.deltaOf = "var delta=((z&0xFF)-128);" := by
  decide

lemma lines_head :
    "function " ++ "_pcNoise" ++ "(" ++ ",".intercalate ([PcVar.base, .index].map PcVar.name) ++ ")\x7b" =
      "function _pcNoise(base,index)\x7b" := by
  decide

lemma lines_last : "return " ++ (Script.clamped.text PcVar.name ++ ";\x7d") =
    "return Math.max(0,Math.min(255,base+delta));" ++ "\x7d" := by
  decide

/-- The lines one behind the other, with other parentheses. -/
lemma append_lines {head first seed x y z delta last last' result close : String}
    (same : last ++ (result ++ close) = last' ++ "\x7d") :
    head ++ first ++ seed ++ ";" ++ x ++ y ++ z ++ delta ++ last' ++ "\x7d" =
      head ++ (first ++ seed ++ ";" ++ x ++ y ++ z ++ delta) ++ last ++ result ++ close := by
  rw [@String.append_assoc _ _ close, @String.append_assoc _ _ (result ++ close), same]
  simp only [String.append_assoc]

/-- The text is that of the function. -/
theorem generatePRNGFunction_eq (seed : Int32) :
    generatePRNGFunction seed = (prngFunction seed).text PcVar.name := by
  have first : "var " ++ PcVar.s.name ++ "=" = "var s=" := by decide
  have body : String.join
      ((prngFunction seed).body.map fun (v, e) => "var " ++ v.name ++ "=" ++ e.text PcVar.name ++ ";") =
      "var s=" ++ numberToString seed.toInt ++ ";" ++ lineOf .x Script.firstWord ++
        lineOf .y (Script.roundOf .x (.num "16" 16) (.num "0x85EBCA6B" 0x85EBCA6B)) ++
        lineOf .z (Script.roundOf .y (.num "13" 13) (.num "0xC2B2AE35" 0xC2B2AE35)) ++
        lineOf .delta Script.deltaOf := by
    show "" ++ ("var " ++ PcVar.s.name ++ "=" ++ numberToString seed.toInt ++ ";") ++ _ ++ _ ++ _ ++ _ = _
    rw [String.empty_append, first]
    rfl
  show _ = "function " ++ "_pcNoise" ++ "(" ++ ",".intercalate ([PcVar.base, .index].map PcVar.name) ++ ")\x7b" ++
    String.join ((prngFunction seed).body.map fun (v, e) => "var " ++ v.name ++ "=" ++ e.text PcVar.name ++ ";") ++
    "return " ++ Script.clamped.text PcVar.name ++ ";\x7d"
  rw [body, line_x, line_y, line_z, line_delta, lines_head]
  exact append_lines lines_last

/-- A call of `_pcNoise`. -/
def pcNoise (seed : Int32) (base index : Int) : Int :=
  (prngFunction seed).call [base, index]

/-! ## The first word -/

/-- What the script makes of the first word. -/
def scriptByte (x : Int) : Int :=
  let y := bitAnd (mul (bitXor x (shiftRight x 16)) 0x85EBCA6B) 0xFFFFFFFF
  let z := bitAnd (mul (bitXor y (shiftRight y 13)) 0xC2B2AE35) 0xFFFFFFFF
  bitAnd z 0xFF

/-- What the native code makes of it. -/
def nativeByte (x : UInt32) : Nat :=
  let y := (x ^^^ (x >>> 16)) * 0x85EBCA6B
  let z := (y ^^^ (y >>> 13)) * 0xC2B2AE35
  (z &&& 0xFF).toNat

/-- The value of the script is that of its last byte. -/
lemma pcNoise_eq (seed : Int32) (base index : Int) :
    pcNoise seed base index = max 0 (min 255 (add base (sub
      (scriptByte (bitAnd (add (mul seed.toInt 0x9E3779B9) index) 0xFFFFFFFF)) 128))) :=
  rfl

/-- The value of the native code is that of its last byte. -/
lemma pureCloakNoise_nativeByte (seed index : Int32) :
    pureCloakNoise seed index = (nativeByte (seed.toUInt32 * 0x9E3779B9 + index.toUInt32) : Int) - 128 :=
  rfl

/-- `&` with all bits is the sign alone. -/
lemma bitAnd_mask (v : Int) : bitAnd v 0xFFFFFFFF = (toInt32 v).toInt := by
  have all : toInt32 0xFFFFFFFF = BitVec.allOnes 32 := by decide
  rw [bitAnd, all, BitVec.and_allOnes]

/-- The exact first word, where it is a multiple of 2 ^ 11: the script has it too. -/
lemma scriptWord {s index : Nat} (hs : s < 2 ^ 31) (hi : index < 2 ^ 31) (grid : 2 ^ 11 ∣ s * 0x9E3779B9 + index) :
    add (mul s 0x9E3779B9) index = (s * 0x9E3779B9 + index : Nat) := by
  have product : mul s 0x9E3779B9 = roundNat (s * 0x9E3779B9) := round_natCast (s * 0x9E3779B9)
  have sum : add (roundNat (s * 0x9E3779B9)) index = roundNat (roundNat (s * 0x9E3779B9) + index) :=
    round_natCast (roundNat (s * 0x9E3779B9) + index)
  have exactly := roundNat_add_roundNat (Nat.le_add_right (s * 0x9E3779B9) index) grid (by omega)
  rw [Nat.add_sub_cancel_left] at exactly
  rw [product, sum, exactly]

/-- The first words of both sides, by the exact one. -/
lemma words_eq {s index word : Nat} (hs : s < 2 ^ 31) (hi : index < 2 ^ 31) (grid : 2 ^ 11 ∣ word)
    (exact_word : (s * 0x9E3779B9 + index) % 2 ^ 32 = word) :
    bitAnd (add (mul (Int32.ofNat s).toInt 0x9E3779B9) index) 0xFFFFFFFF = (BitVec.ofNat 32 word).toInt ∧
    (Int32.ofNat s).toUInt32 * 0x9E3779B9 + (Int32.ofNat index).toUInt32 = UInt32.ofNat word := by
  have multiple : 2 ^ 11 ∣ s * 0x9E3779B9 + index := by
    rw [← exact_word] at grid
    exact (Nat.dvd_mod_iff (by decide)).mp grid
  have same : BitVec.ofNat 32 (s * 0x9E3779B9 + index) = BitVec.ofNat 32 word := by
    apply BitVec.eq_of_toNat_eq
    rw [BitVec.toNat_ofNat, BitVec.toNat_ofNat, ← exact_word, Nat.mod_mod]
  constructor
  · rw [Int32.toInt_ofNat_of_lt hs, scriptWord hs hi multiple, bitAnd_mask, toInt32, BitVec.ofInt_natCast, same]
  · apply UInt32.toBitVec_inj.mp
    calc ((Int32.ofNat s).toUInt32 * 0x9E3779B9 + (Int32.ofNat index).toUInt32).toBitVec =
        BitVec.ofNat 32 s * BitVec.ofNat 32 0x9E3779B9 + BitVec.ofNat 32 index := rfl
      _ = BitVec.ofNat 32 (s * 0x9E3779B9 + index) := by rw [← BitVec.ofNat_mul, ← BitVec.ofNat_add]
      _ = BitVec.ofNat 32 word := same

/-! ## What rounding does -/

/-- The first word of the native code. -/
def firstWord (seed : Int32) (index : Nat) : BitVec 32 :=
  (seed.toUInt32 * 0x9E3779B9 + (Int32.ofNat index).toUInt32).toBitVec

/-- What the two roundings of the script add to the first word. -/
def wordError (seed : Int32) (index : Nat) : Int :=
  roundingError (seed.toInt * 0x9E3779B9) + roundingError (mul seed.toInt 0x9E3779B9 + index)

/-- What the rounding of the script adds to the product of a word, which has a sign there. -/
def productError (word : BitVec 32) (multiplier : Int) : Int :=
  roundingError (word.toInt * multiplier)

/-- What the rounding errors add to the last product, each carried through the rounds behind it. -/
def drift (seed : Int32) (index : Nat) : BitVec 32 :=
  let x := firstWord seed index
  let x' := x + BitVec.ofInt 32 (wordError seed index)
  let y := mixRound 16 0x85EBCA6B x
  let y' := mixRound 16 0x85EBCA6B x' + BitVec.ofInt 32 (productError (x' ^^^ (x' >>> 16)) 0x85EBCA6B)
  mixRound 13 0xC2B2AE35 y' + BitVec.ofInt 32 (productError (y' ^^^ (y' >>> 13)) 0xC2B2AE35) - mixRound 13 0xC2B2AE35 y

/-- A sum of numbers as words. -/
lemma toInt32_add (a b : Int) : toInt32 (a + b) = toInt32 a + toInt32 b := by
  rw [toInt32, BitVec.ofInt_add]
  rfl

/-- The first word of the script. -/
lemma scriptFirstWord_eq (seed : Int32) (index : Nat) :
    toInt32 (add (mul seed.toInt 0x9E3779B9) index) =
      firstWord seed index + BitVec.ofInt 32 (wordError seed index) := by
  have sum : add (mul seed.toInt 0x9E3779B9) index = seed.toInt * 0x9E3779B9 + index + wordError seed index := by
    have product : mul seed.toInt 0x9E3779B9 = seed.toInt * 0x9E3779B9 + roundingError (seed.toInt * 0x9E3779B9) :=
      round_eq_add _
    rw [add, round_eq_add, wordError]
    omega
  have exact_word : toInt32 (seed.toInt * 0x9E3779B9 + index) = firstWord seed index := by
    rw [toInt32_add, toInt32, toInt32, BitVec.ofInt_mul, BitVec.ofInt_natCast]
    have signed : BitVec.ofInt 32 seed.toInt = seed.toBitVec := BitVec.ofInt_toInt
    rw [signed]
    rfl
  rw [sum, toInt32_add, exact_word]
  rfl

/-- A round of the script on a word. -/
lemma round_eq (word : BitVec 32) (shift : Nat) (lt : shift < 32) (multiplier : Int) :
    bitAnd (mul (bitXor word.toInt (shiftRight word.toInt shift)) multiplier) 0xFFFFFFFF =
      (mixRound shift (toInt32 multiplier) word +
        BitVec.ofInt 32 (productError (word ^^^ (word >>> shift)) multiplier)).toInt := by
  have bits : (toInt32 shift).toNat % 32 = shift := by
    rw [toInt32, BitVec.ofInt_natCast, BitVec.toNat_ofNat]
    omega
  have shifted : toInt32 (shiftRight word.toInt shift) = word >>> shift := by
    rw [shiftRight, bits, toInt32, toInt32, BitVec.ofInt_toInt, BitVec.ofInt_natCast, BitVec.ofNat_toNat,
      BitVec.setWidth_eq]
  have mixed : bitXor word.toInt (shiftRight word.toInt shift) = (word ^^^ (word >>> shift)).toInt := by
    rw [bitXor, shifted, toInt32, BitVec.ofInt_toInt]
  rw [mixed, bitAnd_mask, mul, round_eq_add, toInt32_add, toInt32, BitVec.ofInt_mul, BitVec.ofInt_toInt]
  rfl

/-- The last word of the native code. -/
def lastWord (seed : Int32) (index : Nat) : BitVec 32 :=
  mixRound 13 0xC2B2AE35 (mixRound 16 0x85EBCA6B (firstWord seed index))

/-- The delta of the native code is the lower byte of its last word. -/
lemma pureCloakNoise_lastWord (seed : Int32) (index : Nat) :
    pureCloakNoise seed (Int32.ofNat index) = ((lastWord seed index).toNat % 256 : Nat) - 128 := by
  have byte (z : UInt32) : (z &&& 0xFF).toNat = z.toBitVec.toNat % 256 := by
    rw [UInt32.toNat_and]
    exact Nat.and_two_pow_sub_one_eq_mod z.toNat 8
  rw [pureCloakNoise, byte]
  rfl

/-- The rounds of the script on a first word. -/
lemma scriptByte_rounds (x : BitVec 32) :
    let y := mixRound 16 0x85EBCA6B x + BitVec.ofInt 32 (productError (x ^^^ (x >>> 16)) 0x85EBCA6B)
    scriptByte x.toInt = bitAnd
      (mixRound 13 0xC2B2AE35 y + BitVec.ofInt 32 (productError (y ^^^ (y >>> 13)) 0xC2B2AE35)).toInt 0xFF := by
  have first : bitAnd (mul (bitXor x.toInt (shiftRight x.toInt 16)) 0x85EBCA6B) 0xFFFFFFFF =
      (mixRound 16 0x85EBCA6B x + BitVec.ofInt 32 (productError (x ^^^ (x >>> 16)) 0x85EBCA6B)).toInt :=
    round_eq x 16 (by decide) _
  rw [scriptByte, first]
  exact congrArg (bitAnd · 0xFF) (round_eq _ 13 (by decide) _)

/-- The byte of the script is that of the last word with the drift. -/
lemma scriptByte_eq (seed : Int32) (index : Nat) :
    scriptByte (bitAnd (add (mul seed.toInt 0x9E3779B9) index) 0xFFFFFFFF) =
      ((lastWord seed index).toNat + (drift seed index).toNat) % 256 := by
  have byte (z : BitVec 32) : bitAnd z.toInt 0xFF = (z.toNat % 256 : Nat) := by
    have lower : (z &&& toInt32 0xFF).toNat = z.toNat % 256 := by
      rw [BitVec.toNat_and]
      exact Nat.and_two_pow_sub_one_eq_mod z.toNat 8
    have small : 2 * (z &&& toInt32 0xFF).toNat < 2 ^ 32 := by omega
    rw [bitAnd, toInt32, BitVec.ofInt_toInt]
    exact (BitVec.toInt_eq_toNat_of_lt small).trans (congrArg Nat.cast lower)
  have last : scriptByte (bitAnd (add (mul seed.toInt 0x9E3779B9) index) 0xFFFFFFFF) =
      bitAnd (lastWord seed index + drift seed index).toInt 0xFF := by
    rw [bitAnd_mask, scriptFirstWord_eq, scriptByte_rounds, lastWord, drift, add_sub_cancel]
  rw [last, byte, BitVec.toNat_add]
  omega

/-! ## Where the values agree -/

/-- The delta of the script: that of the native code, moved by the drift. -/
def driftedNoise (seed : Int32) (index : Nat) : Int :=
  (pureCloakNoise seed (Int32.ofNat index) + 128 + (drift seed index).toNat) % 256 - 128

/-- The drift leaves the lower byte, or the base is so near to an end of the range that both deltas take it there. -/
def Unharmed (seed : Int32) (base index : Nat) : Prop :=
  256 ∣ (drift seed index).toNat ∨
  (base + pureCloakNoise seed (Int32.ofNat index) ≤ 0 ∧ base + driftedNoise seed index ≤ 0) ∨
  (255 ≤ base + pureCloakNoise seed (Int32.ofNat index) ∧ 255 ≤ base + driftedNoise seed index)

instance (seed : Int32) (base index : Nat) : Decidable (Unharmed seed base index) :=
  inferInstanceAs (Decidable (_ ∨ _))

/-- The script has the value of the native code. -/
def Matches (seed : Int32) (base index : Nat) : Prop :=
  pcNoise seed base index = max 0 (min 255 (base + pureCloakNoise seed (Int32.ofNat index)))

/-- The value of the script. -/
lemma pcNoise_drifted (seed : Int32) {base index : Nat} (hb : base ≤ 255) :
    pcNoise seed base index = max 0 (min 255 (base + driftedNoise seed index)) := by
  have delta : (((lastWord seed index).toNat + (drift seed index).toNat) % 256 : Int) - 128 =
      driftedNoise seed index := by
    rw [driftedNoise, pureCloakNoise_lastWord]
    omega
  rw [pcNoise_eq, scriptByte_eq, sub, round_of_lt (by omega), delta, add, round_of_lt]
  rw [driftedNoise]
  omega

/-- The values agree exactly where the rounding errors do no harm. -/
lemma matches_iff (seed : Int32) {base index : Nat} (hb : base ≤ 255) :
    Matches seed base index ↔ Unharmed seed base index := by
  have byte := pureCloakNoise_range seed (Int32.ofNat index)
  rw [Matches, pcNoise_drifted seed hb, Unharmed, driftedNoise]
  generalize pureCloakNoise seed (Int32.ofNat index) = noise at *
  generalize (drift seed index).toNat = d
  omega

/-! ## Every seed -/

/-- A byte as a delta and back, from a base that no delta takes out of the range. -/
lemma clamped_byte {b : Nat} (lt : b < 256) : max 0 (min 255 (((128 : Nat) : Int) + ((b : Int) - 128))) = b := by
  omega

/-- Two words of which only the native code keeps the lower bits. -/
lemma bytes_differ (word : Nat) (hw : word = 2048 ∨ word = 2 ^ 31 + 2048) :
    scriptByte (BitVec.ofNat 32 word).toInt = 0 ∧ nativeByte (UInt32.ofNat word) ≠ 0 ∧
      nativeByte (UInt32.ofNat word) < 256 := by
  rcases hw with rfl | rfl
  · decide
  · decide

/-- At an index that leads to one of these words the values differ. -/
lemma mismatch {s index word : Nat} (hs : s < 2 ^ 31) (hi : index < 2 ^ 31) (hw : word = 2048 ∨ word = 2 ^ 31 + 2048)
    (exact_word : (s * 0x9E3779B9 + index) % 2 ^ 32 = word) : ¬ Matches (Int32.ofNat s) 128 index := by
  intro value
  have grid : 2 ^ 11 ∣ word := by
    rcases hw with rfl | rfl
    · decide
    · decide
  obtain ⟨script, native⟩ := words_eq hs hi grid exact_word
  obtain ⟨script_byte, native_byte, range⟩ := bytes_differ word hw
  rw [Matches, pcNoise_eq, script, script_byte, pureCloakNoise_nativeByte, native] at value
  have zero : max 0 (min 255 (add (128 : Nat) (sub 0 128))) = 0 := by decide
  rw [zero, clamped_byte range] at value
  exact native_byte (Int.natCast_eq_zero.mp value.symm)

/-- From any product an index leads to the one word or to the other. -/
lemma exists_index (product : Nat) : ∃ index word, index < 2 ^ 31 ∧ (word = 2048 ∨ word = 2 ^ 31 + 2048) ∧
    (product + index) % 2 ^ 32 = word := by
  obtain ⟨offset, lt, reached⟩ : ∃ offset, offset < 2 ^ 32 ∧ (product + offset) % 2 ^ 32 = 2048 :=
    ⟨(2048 + (2 ^ 32 - product % 2 ^ 32)) % 2 ^ 32, Nat.mod_lt _ (by decide), by omega⟩
  by_cases low : offset < 2 ^ 31
  · exact ⟨offset, 2048, low, .inl rfl, reached⟩
  · have high : (product + (offset - 2 ^ 31)) % 2 ^ 32 = 2 ^ 31 + 2048 := by omega
    exact ⟨offset - 2 ^ 31, 2 ^ 31 + 2048, by omega, .inr rfl, high⟩

end PureCloak.Content
