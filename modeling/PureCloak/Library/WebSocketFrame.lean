import Mathlib.Tactic.Lemma
import Mathlib.Tactic.Ring
import Mathlib.Data.List.Basic

/-!
# WebSocket frames

The base framing of RFC 6455: a frame as its parts, and `Frame.encode`, its bytes. The length of the payload
is in the second byte, or in two or eight more bytes after it, in network byte order; a payload is masked by
repeating the four bytes of the key.
-/

namespace WebSocket

/-! ## Network byte order -/

/-- The `k` low bytes of a number, the highest first. -/
def bigEndian : Nat → Nat → List UInt8
  | 0, _ => []
  | k + 1, n => UInt8.ofNat (n / 256 ^ k) :: bigEndian k n

/-- The number that some bytes are, put behind one that was read before. -/
def ofBigEndian (acc : Nat) (bytes : List UInt8) : Nat :=
  bytes.foldl (fun n b => n * 256 + b.toNat) acc

@[simp] lemma length_bigEndian (k n : Nat) : (bigEndian k n).length = k := by
  induction k with
  | zero => rfl
  | succ k ih => rw [bigEndian, List.length_cons, ih]

/-- Reading the bytes of a number gives the number, up to what does not fit. -/
lemma ofBigEndian_bigEndian (acc k n : Nat) :
    ofBigEndian acc (bigEndian k n) = acc * 256 ^ k + n % 256 ^ k := by
  induction k generalizing acc with
  | zero => simp [ofBigEndian, bigEndian, Nat.mod_one]
  | succ k ih =>
    have step : ofBigEndian acc (bigEndian (k + 1) n) =
        ofBigEndian (acc * 256 + n / 256 ^ k % 256) (bigEndian k n) := by
      simp [ofBigEndian, bigEndian]
    have digits : n % 256 ^ (k + 1) = n % 256 ^ k + 256 ^ k * (n / 256 ^ k % 256) := by
      rw [Nat.pow_succ, Nat.mod_mul]
    rw [step, ih, digits]
    ring

/-- A number that fits is read back. -/
lemma ofBigEndian_zero_bigEndian {k n : Nat} (h : n < 256 ^ k) : ofBigEndian 0 (bigEndian k n) = n := by
  rw [ofBigEndian_bigEndian, Nat.zero_mul, Nat.zero_add, Nat.mod_eq_of_lt h]

/-! ## Masking -/

/-- A masking key. -/
structure Mask where
  b0 : UInt8
  b1 : UInt8
  b2 : UInt8
  b3 : UInt8
deriving DecidableEq

namespace Mask

def bytes (m : Mask) : List UInt8 :=
  [m.b0, m.b1, m.b2, m.b3]

/-- The byte of the key for the byte at a place of the payload. -/
def byte (m : Mask) (i : Nat) : UInt8 :=
  m.bytes.getD (i % 4) 0

/-- Masking, and unmasking. -/
def apply (m : Mask) (payload : List UInt8) : List UInt8 :=
  payload.mapIdx fun i b => b ^^^ m.byte i

@[simp] lemma length_bytes (m : Mask) : m.bytes.length = 4 := rfl

@[simp] lemma length_apply (m : Mask) (payload : List UInt8) : (m.apply payload).length = payload.length := by
  simp [apply]

@[simp] lemma apply_apply (m : Mask) (payload : List UInt8) : m.apply (m.apply payload) = payload := by
  apply List.ext_getElem
  · simp
  · intro i h1 h2
    simp only [apply, List.getElem_mapIdx]
    rw [UInt8.xor_assoc, UInt8.xor_self, UInt8.xor_zero]

end Mask

/-! ## Frames -/

/-- The opcodes that mean something to a reader. -/
def opText : Fin 16 := 1
def opClose : Fin 16 := 8
def opPing : Fin 16 := 9
def opPong : Fin 16 := 10

/-- A frame. -/
structure Frame where
  fin : Bool
  opcode : Fin 16
  mask : Option Mask
  payload : List UInt8
  bounded : payload.length < 2 ^ 63

namespace Frame

/-- The seven bits of the length in the second byte. -/
def length7 (n : Nat) : Nat :=
  if n ≤ 125 then n else if n ≤ 65535 then 126 else 127

/-- The bytes of the length after the second byte. -/
def extendedLength (n : Nat) : List UInt8 :=
  if n ≤ 125 then [] else if n ≤ 65535 then bigEndian 2 n else bigEndian 8 n

def byte0 (f : Frame) : UInt8 :=
  UInt8.ofNat (f.fin.toNat * 128 + f.opcode)

def byte1 (f : Frame) : UInt8 :=
  UInt8.ofNat (f.mask.isSome.toNat * 128 + length7 f.payload.length)

/-- What comes before the payload. -/
def header (f : Frame) : List UInt8 :=
  f.byte0 :: f.byte1 :: (extendedLength f.payload.length ++ (f.mask.map Mask.bytes).getD [])

/-- The payload as it is sent. -/
def body (f : Frame) : List UInt8 :=
  (f.mask.map fun m => m.apply f.payload).getD f.payload

/-- The bytes of a frame. -/
def encode (f : Frame) : List UInt8 :=
  f.header ++ f.body

/-- The bytes of a sequence of frames. -/
def encodeAll (frames : List Frame) : List UInt8 :=
  frames.flatMap encode

/-- The messages that some frames carry, where a message has begun: its fragments are put together. Control frames
stand between them, and after a close frame there is nothing. -/
def assemble : List UInt8 → List Frame → List (List UInt8)
  | _, [] => []
  | begun, f :: frames =>
    if f.opcode = opClose then []
    else if 8 ≤ f.opcode then assemble begun frames
    else if f.fin then (begun ++ f.payload) :: assemble [] frames
    else assemble (begun ++ f.payload) frames

/-- The messages that a sequence of frames carries. -/
def messages (frames : List Frame) : List (List UInt8) :=
  assemble [] frames

@[simp] lemma length_body (f : Frame) : f.body.length = f.payload.length := by
  unfold body
  cases f.mask with
  | none => rfl
  | some m => exact m.length_apply _

/-- The short length has seven bits. -/
lemma length7_lt (n : Nat) : length7 n < 128 := by
  unfold length7
  split_ifs <;> omega

/-- The header has two bytes, the length where it is long, and the mask where there is one. -/
lemma length_header (f : Frame) :
    f.header.length = 2 + (extendedLength f.payload.length).length + 4 * f.mask.isSome.toNat := by
  unfold header
  cases f.mask with
  | none =>
    rw [Option.map_none, Option.getD_none, List.append_nil, List.length_cons, List.length_cons,
      Option.isSome_none, Bool.toNat_false]
    omega
  | some m =>
    rw [Option.map_some, Option.getD_some, List.length_cons, List.length_cons, List.length_append,
      Mask.length_bytes, Option.isSome_some, Bool.toNat_true]
    omega

/-- A frame is its header and its body. -/
lemma length_encode (f : Frame) : f.encode.length = f.header.length + f.payload.length := by
  rw [encode, List.length_append, length_body]

/-- Nothing but a frame without a payload and a mask has two bytes. -/
lemma length_encode_eq_two {f : Frame} : f.encode.length = 2 ↔ f.payload = [] ∧ f.mask = none := by
  rw [length_encode, length_header]
  constructor
  · intro h
    refine ⟨List.eq_nil_of_length_eq_zero (by omega), ?_⟩
    cases hm : f.mask with
    | none => rfl
    | some m =>
      rw [hm, Option.isSome_some, Bool.toNat_true] at h
      omega
  · intro h
    rw [h.1, h.2]
    rfl

@[simp] lemma encodeAll_nil : encodeAll [] = [] := rfl

@[simp] lemma encodeAll_cons (f : Frame) (frames : List Frame) :
    encodeAll (f :: frames) = f.encode ++ encodeAll frames := by
  simp [encodeAll]

/-- The bytes of two lists of frames. -/
lemma encodeAll_append (frames frames' : List Frame) :
    encodeAll (frames ++ frames') = encodeAll frames ++ encodeAll frames' := by
  simp [encodeAll]

/-- Masked frames are longer than what they carry. -/
lemma length_encodeAll_of_mask {frames : List Frame} (masked : ∀ f ∈ frames, f.mask.isSome) :
    (frames.map (·.payload)).flatten.length + 6 * frames.length ≤ (encodeAll frames).length := by
  induction frames with
  | nil => exact Nat.zero_le _
  | cons f frames ih =>
    have rest := ih fun g hg => masked g (List.mem_cons_of_mem f hg)
    have header : 6 ≤ f.header.length := by
      rw [length_header, masked f List.mem_cons_self, Bool.toNat_true]
      omega
    rw [encodeAll_cons, List.length_append, length_encode, List.map_cons, List.flatten_cons, List.length_append,
      List.length_cons]
    omega

/-- The bits of the first byte. -/
lemma byte0_opcode (f : Frame) : f.byte0 &&& 0x0F = UInt8.ofNat f.opcode := by
  have all : ∀ (b : Bool) (o : Fin 16), UInt8.ofNat (b.toNat * 128 + o) &&& 0x0F = UInt8.ofNat o := by
    decide
  exact all f.fin f.opcode

/-- The bits of the second byte. -/
lemma byte1_bits (f : Frame) :
    f.byte1 &&& 0x7F = UInt8.ofNat (length7 f.payload.length) ∧
      (f.byte1 &&& 0x80 ≠ 0 ↔ f.mask.isSome) := by
  have all : ∀ (b : Bool) (n : Fin 128), UInt8.ofNat (b.toNat * 128 + n) &&& 0x7F = UInt8.ofNat n ∧
      (UInt8.ofNat (b.toNat * 128 + n) &&& 0x80 ≠ 0 ↔ b) := by
    decide
  exact all f.mask.isSome ⟨length7 f.payload.length, length7_lt _⟩

end Frame

end WebSocket
