import PureCloak.Content.CDPWebSocketClient

/-!
# The frame codec of the CDP client

What `SendFrame` writes is the RFC 6455 encoding of a masked text frame (`frameBytes_eq`), and what a call of
`ReadFrame` does on a stream that goes on with a frame, however `recv` splits it, is `readFrame_spec`: it takes
`wanted` bytes of the frame and gives what is `delivered`, unless a call of `recv` gives nothing before that.
-/

namespace PureCloak.Content
open PureCloak.Base WebSocket Segments

/-! ## Characters and lengths -/

/-- The xor of two characters as numbers is that of their bytes. -/
lemma charOfInt_xor (c m : UInt8) : charOfInt (intOfChar c ^^^ Int32.ofNat m.toNat) = c ^^^ m := by
  unfold charOfInt intOfChar
  rw [Int32.toInt8_xor, Int8.toInt8_toInt32]
  apply UInt8.toBitVec_inj.mp
  simp

/-- So is the bit that marks a masked frame. -/
lemma charOfInt_or (c : UInt8) : charOfInt (0x80 ||| intOfChar c) = 0x80 ||| c := by
  unfold charOfInt intOfChar
  rw [Int32.toInt8_or, Int8.toInt8_toInt32]
  rfl

/-- `XorMask` applies the mask. -/
lemma xorMask_eq (mask : Mask) (payload : Bytes) : xorMask mask payload = mask.apply payload := by
  apply List.ext_getElem
  · simp [xorMask]
  · intro i h1 h2
    simp [xorMask, Mask.apply, charOfInt_xor]

/-- A shift by whole bytes divides by a power of 256. -/
lemma ofNat_shiftRight (len i : Nat) : UInt8.ofNat (len >>> (i * 8) &&& 0xFF) = UInt8.ofNat (len / 256 ^ i) := by
  have h : len >>> (i * 8) &&& 0xFF = len / 256 ^ i % 256 := by
    rw [Nat.shiftRight_eq_div_pow, Nat.mul_comm i 8, Nat.pow_mul]
    exact Nat.and_two_pow_sub_one_eq_mod _ 8
  rw [h]
  exact UInt8.ofNat_mod_size

/-- `SendFrame` writes the length as a frame has it. -/
lemma lengthField_eq (len : Nat) :
    lengthField len = UInt8.ofNat (128 + Frame.length7 len) :: Frame.extendedLength len := by
  unfold lengthField Frame.length7 Frame.extendedLength
  split_ifs with h1 h2
  · have all : ∀ n : Fin 126, (0x80 : UInt8) ||| UInt8.ofNat n = UInt8.ofNat (128 + n) := by decide
    rw [charOfInt_or, all ⟨len, by omega⟩]
  · have b1 := ofNat_shiftRight len 1
    have b0 := ofNat_shiftRight len 0
    rw [Nat.zero_mul, Nat.shiftRight_zero] at b0
    rw [Nat.one_mul] at b1
    rw [b0, b1]
    rfl
  · simp only [List.map_cons, List.map_nil, ofNat_shiftRight]
    rfl

/-! ## Sending -/

/-- `SendFrame` sends a masked text frame. -/
lemma frameBytes_eq (mask : Mask) (payload : Bytes) (h : payload.length < 2 ^ 63) :
    frameBytes mask payload = Frame.encode ⟨true, opText, some mask, payload, h⟩ := by
  rw [frameBytes, lengthField_eq, xorMask_eq]
  simp [Frame.encode, Frame.header, Frame.body, Frame.byte0, Frame.byte1]
  decide

@[simp] lemma sendFrame_success (s : Socket) (mask : Mask) (payload : Bytes) :
    (s.sendFrame mask payload).1 = (writeAll (frameBytes mask payload) s.sends).1 := rfl

@[simp] lemma sendFrame_sends (s : Socket) (mask : Mask) (payload : Bytes) :
    (s.sendFrame mask payload).2.sends = (writeAll (frameBytes mask payload) s.sends).2.2 := rfl

@[simp] lemma sendFrame_written (s : Socket) (mask : Mask) (payload : Bytes) :
    (s.sendFrame mask payload).2.written = s.written ++ (writeAll (frameBytes mask payload) s.sends).2.1 := rfl

@[simp] lemma sendFrame_inbound (s : Socket) (mask : Mask) (payload : Bytes) :
    (s.sendFrame mask payload).2.inbound = s.inbound := rfl

@[simp] lemma sendFrame_trace (s : Socket) (mask : Mask) (payload : Bytes) :
    (s.sendFrame mask payload).2.trace =
      s.trace ++ [.sendFrame payload (writeAll (frameBytes mask payload) s.sends).1] := rfl

/-! ## Reading -/

/-- One byte more of a length, while it fits. -/
lemma toNat_shiftLeft_or (n : UInt64) (b : UInt8) (h : n.toNat < 2 ^ 56) :
    (n <<< 8 ||| b.toUInt64).toNat = n.toNat * 256 + b.toNat := by
  have lt : b.toNat < 2 ^ 8 := b.toNat_lt
  have shift : n.toNat <<< 8 = n.toNat * 256 := Nat.shiftLeft_eq _ _
  rw [UInt64.toNat_or, UInt64.toNat_shiftLeft, UInt8.toNat_toUInt64]
  show n.toNat <<< 8 % 2 ^ 64 ||| b.toNat = _
  rw [Nat.mod_eq_of_lt (by omega), ← Nat.shiftLeft_add_eq_or_of_lt lt, shift]

/-- A length that is read byte by byte is the number with these digits. -/
lemma toNat_foldl (ext : Bytes) (n : UInt64) (h : (n.toNat + 1) * 256 ^ ext.length ≤ 2 ^ 64) :
    (ext.foldl (fun (n : UInt64) b => n <<< 8 ||| b.toUInt64) n).toNat = ofBigEndian n.toNat ext := by
  induction ext generalizing n with
  | nil => rfl
  | cons b ext ih =>
    have lt : b.toNat < 256 := b.toNat_lt
    have pos : 0 < 256 ^ ext.length := Nat.pow_pos (by norm_num)
    rw [List.length_cons, Nat.pow_succ, Nat.mul_comm _ 256, ← Nat.mul_assoc] at h
    have small : n.toNat < 2 ^ 56 := by
      have bound : (n.toNat + 1) * 256 * 1 ≤ 2 ^ 64 * 1 := Nat.le_trans (Nat.mul_le_mul_left _ pos) h
      omega
    have step := toNat_shiftLeft_or n b small
    rw [List.foldl_cons, ih, step]
    · rfl
    · rw [step]
      refine Nat.le_trans (Nat.mul_le_mul_right _ ?_) h
      omega


/-! ## What a call of `ReadFrame` takes -/

/-- How many bytes of a frame `ReadFrame` asks for. -/
def wanted (f : Frame) : Nat :=
  if f.opcode = opClose then 2
  else if f.payload.length > kMaxWsPayload then 2 + (Frame.extendedLength f.payload.length).length
  else f.encode.length

/-- What it gives for the frame. -/
def delivered (f : Frame) : Bytes :=
  if f.opcode = opClose ∨ f.payload.length > kMaxWsPayload ∨ f.opcode = opPing ∨ f.opcode = opPong then []
  else f.payload

/-- The lower bits of the second byte are the short length. -/
lemma toNat_byte1 (f : Frame) : (f.byte1 &&& 0x7F).toUInt64.toNat = Frame.length7 f.payload.length := by
  have lt := Frame.length7_lt f.payload.length
  rw [(Frame.byte1_bits f).1, UInt8.toNat_toUInt64, UInt8.toNat_ofNat', Nat.mod_eq_of_lt (by omega)]

/-- A short length is read from the second byte alone. -/
lemma reads_readLength_short {f : Frame} (h : f.payload.length ≤ 125) :
    Reads (readLength f.byte1) [] (f.byte1 &&& 0x7F).toUInt64 := by
  have ne : ∀ n : UInt64, 126 ≤ n.toNat → (f.byte1 &&& 0x7F).toUInt64 ≠ n := by
    intro n hn e
    rw [← e, toNat_byte1, Frame.length7, if_pos h] at hn
    omega
  have reader : readLength f.byte1 = fun inbound => (some (f.byte1 &&& 0x7F).toUInt64, inbound) := by
    funext inbound
    rw [readLength, if_neg (ne 126 (by decide)), if_neg (ne 127 (by decide))]
  rw [reader]
  exact reads_nil _

/-- A length of two bytes. -/
lemma reads_readLength_two {f : Frame} (h : (f.byte1 &&& 0x7F).toUInt64 = 126) (hi lo : UInt8) :
    Reads (readLength f.byte1) [hi, lo] (hi.toUInt64 <<< 8 ||| lo.toUInt64) := by
  apply (reads_readAll [hi, lo]).map
  · intro segs rest eq
    have eq : recvAll 2 segs = (some [hi, lo], rest) := eq
    rw [readLength, if_pos h, eq]
  · intro segs rest eq
    have eq : recvAll 2 segs = (none, rest) := eq
    rw [readLength, if_pos h, eq]

/-- A length of eight bytes. -/
lemma reads_readLength_eight {f : Frame} (h : (f.byte1 &&& 0x7F).toUInt64 = 127) {ext : Bytes}
    (hl : ext.length = 8) :
    Reads (readLength f.byte1) ext (ext.foldl (fun (n : UInt64) b => n <<< 8 ||| b.toUInt64) 0) := by
  have ne : (f.byte1 &&& 0x7F).toUInt64 ≠ 126 := by
    rw [h]
    decide
  apply (reads_readAll ext).map
  · intro segs rest eq
    rw [hl] at eq
    have eq : recvAll 8 segs = (some ext, rest) := eq
    rw [readLength, if_neg ne, if_pos h, eq]
  · intro segs rest eq
    rw [hl] at eq
    have eq : recvAll 8 segs = (none, rest) := eq
    rw [readLength, if_neg ne, if_pos h, eq]

/-- The length is read back in each of its three encodings. -/
lemma reads_readLength (f : Frame) :
    ∃ len : UInt64, len.toNat = f.payload.length ∧
      Reads (readLength f.byte1) (Frame.extendedLength f.payload.length) len := by
  have bits := toNat_byte1 f
  have bounded := f.bounded
  unfold Frame.length7 at bits
  unfold Frame.extendedLength
  split_ifs at bits ⊢ with h1 h2
  · exact ⟨_, bits, reads_readLength_short h1⟩
  · have back : ofBigEndian 0 (bigEndian 2 f.payload.length) = f.payload.length :=
      ofBigEndian_zero_bigEndian (by omega)
    have small : ∀ b : UInt8, b.toUInt64.toNat < 2 ^ 56 := fun b => Nat.lt_trans b.toNat_lt (by decide)
    refine ⟨_, Eq.trans ?_ back, reads_readLength_two (UInt64.toNat_inj.mp bits) _ _⟩
    rw [toNat_shiftLeft_or _ _ (small _), UInt8.toNat_toUInt64]
    simp [ofBigEndian, bigEndian]
  · refine ⟨_, ?_, reads_readLength_eight (UInt64.toNat_inj.mp bits) (length_bigEndian 8 _)⟩
    rw [toNat_foldl _ _ (by rw [length_bigEndian]; decide)]
    exact ofBigEndian_zero_bigEndian (by omega)

/-- A mask is read where the frame has one. -/
lemma reads_readMask (mask : Option Mask) :
    Reads (readMask mask.isSome) ((mask.map Mask.bytes).getD []) (mask.getD ⟨0, 0, 0, 0⟩) := by
  cases mask with
  | none => exact reads_nil _
  | some m =>
    apply (reads_readAll m.bytes).map
    · intro segs rest eq
      have eq : recvAll 4 segs = (some m.bytes, rest) := eq
      rw [readMask, Option.isSome_some, if_pos rfl, eq]
      rfl
    · intro segs rest eq
      have eq : recvAll 4 segs = (none, rest) := eq
      rw [readMask, Option.isSome_some, if_pos rfl, eq]

/-- The lower half of the first byte is the opcode. -/
lemma opcode_iff (f : Frame) (o : Fin 16) : f.byte0 &&& 0x0F = UInt8.ofNat o ↔ f.opcode = o := by
  rw [f.byte0_opcode]
  have inj : ∀ a b : Fin 16, UInt8.ofNat a = UInt8.ofNat b ↔ a = b := by decide
  exact inj f.opcode o

/-- At least the two bytes of the header are wanted. -/
lemma two_le_wanted (f : Frame) : 2 ≤ wanted f := by
  unfold wanted
  split_ifs
  · exact Nat.le_refl 2
  · exact Nat.le_add_right 2 _
  · rw [Frame.length_encode, Frame.length_header]
    omega

/-- What was masked is unmasked. -/
lemma unmask_body (f : Frame) :
    (if f.mask.isSome then xorMask (f.mask.getD ⟨0, 0, 0, 0⟩) f.body else f.body) = f.payload := by
  unfold Frame.body
  cases f.mask with
  | none => rfl
  | some m =>
    rw [Option.isSome_some, if_pos rfl, xorMask_eq]
    exact m.apply_apply f.payload

/-- The mask and the body are read as the payload. -/
lemma reads_readPayload (f : Frame) :
    Reads (readPayload f.mask.isSome f.payload.length) ((f.mask.map Mask.bytes).getD [] ++ f.body) f.payload := by
  let unmasked (payload : Bytes) : Bytes :=
    if f.mask.isSome then xorMask (f.mask.getD ⟨0, 0, 0, 0⟩) payload else payload
  have body : Reads (fun inbound =>
      ((recvAll f.payload.length inbound).1.map unmasked, (recvAll f.payload.length inbound).2))
      f.body f.payload := by
    apply (reads_readAll f.body).map
    · intro segs rest eq
      simp only [recvAll, ← f.length_body, eq, Option.map_some, unmasked, unmask_body]
    · intro segs rest eq
      simp only [recvAll, ← f.length_body, eq, Option.map_none]
  apply (reads_readMask f.mask).bind body
  · intro segs rest eq
    simp only [readPayload, eq]
    rcases recvAll f.payload.length rest with ⟨payload | payload, inbound⟩
    · rfl
    · rfl
  · intro segs rest eq
    rw [readPayload, eq]

/-- A call of `ReadFrame` on a stream that goes on with a frame: it takes as much of the frame as it asks for,
or fails where a call gives nothing before that. -/
lemma readFrame_spec {segs : List Bytes} {f : Frame} {tail : Bytes} (h : segs.flatten = f.encode ++ tail) :
    (wanted f ≤ (arrived segs).length ∧
      ∃ rest, readFrame segs = (delivered f, rest) ∧ After (wanted f) segs rest) ∨
    ((arrived segs).length < wanted f ∧ ∃ rest, readFrame segs = ([], rest) ∧ Breaks segs rest) := by
  have two := two_le_wanted f
  have parts : segs.flatten = [f.byte0, f.byte1] ++ (Frame.extendedLength f.payload.length ++
      (((f.mask.map Mask.bytes).getD [] ++ f.body) ++ tail)) := by
    simp [h, Frame.encode, Frame.header]
  -- the first two bytes
  rcases reads_readAll [f.byte0, f.byte1] segs _ parts with ⟨le0, s1, eq0, after⟩ | ⟨lt, rest, eq0, breaks⟩
  swap
  · have lt : (arrived segs).length < 2 := lt
    have eq0 : recvAll 2 segs = (none, rest) := eq0
    exact .inr ⟨by omega, rest, by rw [readFrame, eq0], breaks⟩
  have le0 : 2 ≤ (arrived segs).length := le0
  have eq0 : recvAll 2 segs = (some [f.byte0, f.byte1], s1) := eq0
  have parts := after.tail parts
  have after : After 2 segs s1 := after
  rw [readFrame, eq0]
  by_cases close : f.opcode = opClose
  · have w : wanted f = 2 := by rw [wanted, if_pos close]
    have d : delivered f = [] := by rw [delivered, if_pos (.inl close)]
    exact .inl ⟨by omega, s1, by rw [d]; exact if_pos ((opcode_iff f opClose).mpr close), w ▸ after⟩
  have hclose : ¬ f.byte0 &&& 0x0F = 0x8 := fun e => close ((opcode_iff f opClose).mp e)
  -- the length
  obtain ⟨len, hlen, reads⟩ := reads_readLength f
  have wlen : 2 + (Frame.extendedLength f.payload.length).length ≤ wanted f := by
    rw [wanted, if_neg close, Frame.length_encode, Frame.length_header]
    split_ifs <;> omega
  simp only [hclose, ↓reduceIte]
  rcases reads s1 _ parts with ⟨le1, s2, eq1, after1⟩ | ⟨lt, rest, eq1, breaks⟩
  swap
  · rw [after.length] at lt
    exact .inr ⟨by omega, rest, by rw [eq1], after.breaks le0 breaks⟩
  rw [eq1]
  rw [after.length] at le1
  have parts := after1.tail parts
  have after := after.trans after1
  by_cases big : f.payload.length > kMaxWsPayload
  · have w : wanted f = 2 + (Frame.extendedLength f.payload.length).length := by
      rw [wanted, if_neg close, if_pos big]
    have d : delivered f = [] := by rw [delivered, if_pos (.inr (.inl big))]
    exact .inl ⟨by omega, s2, by rw [d]; exact if_pos (hlen ▸ big), w ▸ after⟩
  -- the masking key and the payload
  have w : wanted f = f.encode.length := by rw [wanted, if_neg close, if_neg big]
  have total : f.encode.length = 2 + (Frame.extendedLength f.payload.length).length +
      ((f.mask.map Mask.bytes).getD [] ++ f.body).length := by
    simp [Frame.encode, Frame.header]
    omega
  have masked : (decide (f.byte1 &&& 0x80 ≠ 0)) = f.mask.isSome := by
    rw [Bool.eq_iff_iff, decide_eq_true_iff]
    exact (Frame.byte1_bits f).2
  simp only [hlen, big, ↓reduceIte, masked]
  rcases reads_readPayload f s2 _ parts with ⟨le2, s3, eq2, after2⟩ | ⟨lt, rest, eq2, breaks⟩
  · rw [after.length] at le2
    have after := after.trans after2
    rw [← total, ← w] at after
    refine .inl ⟨by omega, s3, ?_, after⟩
    have skip : (f.byte0 &&& 0x0F = 0x9 ∨ f.byte0 &&& 0x0F = 0xA) ↔ (f.opcode = opPing ∨ f.opcode = opPong) :=
      or_congr (opcode_iff f opPing) (opcode_iff f opPong)
    simp only [eq2, delivered, close, big, false_or, skip]
    split_ifs <;> rfl
  · rw [after.length] at lt
    exact .inr ⟨by omega, rest, by rw [eq2], after.breaks (by omega) breaks⟩

/-! ## Sequences of frames -/

/-- Calls of `SendFrame`, one for each masking key and payload: whether all succeed. -/
def Socket.sendFrames (s : Socket) : List (Mask × Bytes) → Bool × Socket
  | [] => (true, s)
  | (mask, payload) :: frames =>
    let (sent, s) := s.sendFrame mask payload
    let (rest, s) := s.sendFrames frames
    (sent && rest, s)

/-- Calls of `ReadFrame`: the payloads, and what is left. -/
def readFrames : Nat → List Bytes → List Bytes × List Bytes
  | 0, inbound => ([], inbound)
  | n + 1, inbound =>
    let (payload, inbound) := readFrame inbound
    let (payloads, inbound) := readFrames n inbound
    (payload :: payloads, inbound)

/-- A frame that `ReadFrame` takes whole. -/
def Whole (f : Frame) : Prop :=
  f.payload.length ≤ kMaxWsPayload ∧ (f.opcode = opClose → f.encode.length = 2)

instance (f : Frame) : Decidable (Whole f) :=
  inferInstanceAs (Decidable (_ ∧ (_ → _)))

/-- Of a frame that is read whole all bytes are wanted. -/
lemma Whole.wanted {f : Frame} (h : Whole f) : wanted f = f.encode.length := by
  unfold Content.wanted
  split_ifs with close
  · exact (h.2 close).symm
  · have := h.1
    omega
  · rfl

/-- When no call of `recv` gives nothing, frames are taken one by one. -/
lemma readFrames_encodeAll {frames : List Frame} {segs : List Bytes} {rest : Bytes}
    (whole : ∀ f ∈ frames, Whole f) (h : segs.flatten = Frame.encodeAll frames ++ rest) (steady : Steady segs) :
    ∃ segs', readFrames frames.length segs = (frames.map delivered, segs') ∧ segs'.flatten = rest := by
  induction frames generalizing segs with
  | nil => exact ⟨segs, rfl, h⟩
  | cons f frames ih =>
    rw [Frame.encodeAll_cons, List.append_assoc] at h
    have w := (whole f List.mem_cons_self).wanted
    have all : wanted f ≤ (arrived segs).length := by
      rw [steady, h, w, List.length_append]
      exact Nat.le_add_right _ _
    rcases readFrame_spec h with ⟨_, mid, eq, after⟩ | ⟨lt, _⟩
    · rw [w] at after
      obtain ⟨segs', eq', flat⟩ :=
        ih (fun f hf => whole f (List.mem_cons_of_mem _ hf)) (after.tail h) (after.steady steady)
      refine ⟨segs', ?_, flat⟩
      rw [List.length_cons, readFrames, eq]
      simp only [eq', List.map_cons]
    · omega

/-- Frames that come without a pause are taken one by one, and what comes behind them is left alone. -/
lemma readFrames_burst {frames : List Frame} {segs : List Bytes} (whole : ∀ f ∈ frames, Whole f)
    (gives : ∀ seg ∈ segs, seg ≠ []) (stream : segs.flatten = Frame.encodeAll frames) (more : List Bytes) :
    readFrames frames.length (segs ++ more) = (frames.map delivered, more) := by
  induction frames generalizing segs with
  | nil =>
    have none : segs = [] := by
      cases segs with
      | nil => rfl
      | cons seg segs => exact absurd stream (by simp [gives seg List.mem_cons_self])
    rw [none]
    rfl
  | cons f frames ih =>
    have w := (whole f List.mem_cons_self).wanted
    rw [Frame.encodeAll_cons] at stream
    have both : (segs ++ more).flatten = f.encode ++ (Frame.encodeAll frames ++ more.flatten) := by
      rw [List.flatten_append, stream, List.append_assoc]
    have enough : f.encode.length ≤ segs.flatten.length := by
      rw [stream, List.length_append]
      exact Nat.le_add_right _ _
    have all := Nat.le_trans enough (flatten_le_arrived gives more)
    obtain ⟨segs', eq, gives', flat⟩ := skip_append gives enough more
    rw [stream, List.drop_left] at flat
    rcases readFrame_spec both with ⟨_, rest, taken, after⟩ | ⟨lt, _⟩
    · rw [w] at after
      rw [after.left, eq] at taken
      rw [List.length_cons, readFrames, taken]
      dsimp only
      rw [ih (fun g hg => whole g (List.mem_cons_of_mem _ hg)) gives' flat]
      rfl
    · omega

/-- The first of some calls, and the calls after them. -/
lemma readFrames_add (n m : Nat) (inbound : List Bytes) :
    readFrames (n + m) inbound =
      ((readFrames n inbound).1 ++ (readFrames m (readFrames n inbound).2).1,
        (readFrames m (readFrames n inbound).2).2) := by
  induction n generalizing inbound with
  | zero => rw [Nat.zero_add, readFrames, List.nil_append]
  | succ n ih =>
    rw [Nat.succ_add, readFrames, readFrames]
    dsimp only
    rw [ih]
    rfl

@[simp] lemma length_readFrames (n : Nat) (inbound : List Bytes) : (readFrames n inbound).1.length = n := by
  induction n generalizing inbound with
  | zero => rfl
  | succ n ih =>
    rw [readFrames]
    exact congrArg Nat.succ (ih _)

/-- More calls give more messages. -/
lemma readFrames_take {n m : Nat} (le : n ≤ m) (inbound : List Bytes) :
    (readFrames m inbound).1.take n = (readFrames n inbound).1 := by
  obtain ⟨d, rfl⟩ := Nat.exists_eq_add_of_le le
  rw [readFrames_add]
  exact List.take_left' (length_readFrames n inbound)

/-- The frames are sent one after the other, until one is not. -/
lemma sendFrames_cons (s : Socket) (mask : Mask) (payload : Bytes) (frames : List (Mask × Bytes)) :
    s.sendFrames ((mask, payload) :: frames) =
      ((s.sendFrame mask payload).1 && ((s.sendFrame mask payload).2.sendFrames frames).1,
        ((s.sendFrame mask payload).2.sendFrames frames).2) := rfl

/-- What calls of `SendFrame` write, when no call of `send` fails. -/
lemma sendFrames_written {frames : List (Mask × Bytes)} {s : Socket} (takes : ∀ k ∈ s.sends, 0 < k) :
    (s.sendFrames frames).1 = true ∧
      (s.sendFrames frames).2.written = s.written ++ frames.flatMap fun f => frameBytes f.1 f.2 := by
  induction frames generalizing s with
  | nil => exact ⟨rfl, (List.append_nil _).symm⟩
  | cons f frames ih =>
    obtain ⟨mask, payload⟩ := f
    obtain ⟨sent, rest⟩ := writeAll_of_pos (frameBytes mask payload) takes
    obtain ⟨all, eq⟩ := ih (s := (s.sendFrame mask payload).2) rest
    rw [sendFrames_cons, all, eq, sendFrame_success, sent, sendFrame_written, writeAll_true sent]
    exact ⟨rfl, by rw [List.flatMap_cons, List.append_assoc]⟩

/-- A text frame of a payload that is not too large is read whole. -/
lemma textFrame_whole {mask : Mask} {payload : Bytes} (h : payload.length < 2 ^ 63)
    (small : payload.length ≤ kMaxWsPayload) : Whole ⟨true, opText, some mask, payload, h⟩ :=
  ⟨small, fun e => absurd e (by decide : opText ≠ opClose)⟩

/-- Its payload is what is delivered. -/
lemma textFrame_delivered {mask : Mask} {payload : Bytes} (h : payload.length < 2 ^ 63)
    (small : payload.length ≤ kMaxWsPayload) : delivered ⟨true, opText, some mask, payload, h⟩ = payload := by
  have ne : ∀ o ∈ [opClose, opPing, opPong], opText ≠ o := by decide
  apply if_neg
  rintro (e | big | e | e)
  · exact ne _ (by simp) e
  · exact absurd small (Nat.not_le_of_gt big)
  · exact ne _ (by simp) e
  · exact ne _ (by simp) e

/-- Text frames, for what `SendFrame` writes. -/
lemma frames_of_payloads {frames : List (Mask × Bytes)} (small : ∀ f ∈ frames, f.2.length ≤ kMaxWsPayload) :
    ∃ texts : List Frame, (∀ f ∈ texts, Whole f) ∧ texts.length = frames.length ∧
      texts.map delivered = frames.map Prod.snd ∧
      Frame.encodeAll texts = frames.flatMap fun f => frameBytes f.1 f.2 := by
  induction frames with
  | nil => exact ⟨[], by simp⟩
  | cons f frames ih =>
    obtain ⟨mask, payload⟩ := f
    obtain ⟨texts, whole, len, payloads, bytes⟩ := ih fun f hf => small f (List.mem_cons_of_mem _ hf)
    have le : payload.length ≤ kMaxWsPayload := small (mask, payload) List.mem_cons_self
    have lt : payload.length < 2 ^ 63 := Nat.lt_of_le_of_lt le (by decide)
    refine ⟨⟨true, opText, some mask, payload, lt⟩ :: texts, ?_, ?_, ?_, ?_⟩
    · intro f hf
      rcases List.mem_cons.mp hf with rfl | hf
      · exact textFrame_whole lt le
      · exact whole f hf
    · rw [List.length_cons, List.length_cons, len]
    · rw [List.map_cons, List.map_cons, textFrame_delivered lt le, payloads]
    · rw [Frame.encodeAll_cons, List.flatMap_cons, bytes, frameBytes_eq mask payload lt]

/-- What `SendFrame` writes, `ReadFrame` reads back, and it stops behind the last frame. -/
theorem readFrames_sendFrames (frames : List (Mask × Bytes)) (c : Connection) (segs : List Bytes) (rest : Bytes)
    (small : ∀ f ∈ frames, f.2.length ≤ kMaxWsPayload)
    (takes : ∀ k ∈ c.sends, 0 < k)
    (gives : ∀ seg ∈ segs, seg ≠ [])
    (stream : segs.flatten = ((Socket.connect c).sendFrames frames).2.written ++ rest) :
    ((Socket.connect c).sendFrames frames).1 = true ∧
      ∃ segs', readFrames frames.length segs = (frames.map Prod.snd, segs') ∧ segs'.flatten = rest := by
  obtain ⟨sent, written⟩ := sendFrames_written (s := Socket.connect c) takes
  obtain ⟨texts, whole, len, payloads, bytes⟩ := frames_of_payloads small
  rw [written, ← bytes] at stream
  rw [← len, ← payloads]
  exact ⟨sent, readFrames_encodeAll whole stream (steady_of_ne_nil gives)⟩

/-- Two frames, the second one empty, sent in pieces and received in others. -/
theorem readFrames_sendFrames_two :
    let frames : List (Mask × Bytes) := [(⟨1, 2, 3, 4⟩, [104, 200, 0, 7, 104]), (⟨255, 0, 255, 0⟩, [])]
    let c : Connection := { fd := 3, sends := [1, 9, 2] }
    let segs : List Bytes := [[129], [133, 1, 2], [3, 4, 105, 202, 3, 3, 105, 129], [128, 255, 0, 255, 0, 129]]
    ((Socket.connect c).sendFrames frames).1 = true ∧
      ∃ segs', readFrames frames.length segs = (frames.map Prod.snd, segs') ∧ segs'.flatten = [129] :=
  readFrames_sendFrames _ _ _ [129] (by decide) (by decide) (by decide) (by decide)

end PureCloak.Content
