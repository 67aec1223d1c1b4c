import PureCloak.Net.Socks5UdpClientSocket

/-!
# Datagrams

The header in front of a payload, as `BuildUDPEncapsulatedPacket` writes it and as `OnReadComplete` skips it. What is
written is read back (`datagramCodec`), and nothing is read or written outside of the two buffers: `decodeInto` is the
code with every access checked. The decoder never looks at the reserved bytes and the fragment number, and rejects what
is shorter than ten bytes, so that it departs from the grammar of RFC 1928 in both directions (`decodesExactly_iff`).
-/

namespace PureCloak.Net

/-- The type of an address, the address, two bytes of the port, and a payload. -/
inductive Addressed (payload : List UInt8) : List UInt8 → Prop where
  | ipv4 {address port} :
    address.length = 4 →
    port.length = 2 →
    Addressed payload (0x01 :: (address ++ port ++ payload))
  | ipv6 {address port} :
    address.length = 16 →
    port.length = 2 →
    Addressed payload (0x04 :: (address ++ port ++ payload))
  | domain {length address port} :
    address.length = UInt8.toNat length →
    port.length = 2 →
    Addressed payload (0x03 :: length :: (address ++ port ++ payload))

/-- A UDP request of RFC 1928 that is no fragment. -/
def Datagram (payload data : List UInt8) : Prop :=
  ∃ rest, data = 0x00 :: 0x00 :: 0x00 :: rest ∧ Addressed payload rest

/-- `OnReadComplete` with a datagram, for a caller whose buffer has a length: what is stored and with what result the
callback is run. -/
def Decodes (data : List UInt8) (bufLen : Nat) (result : Int) (stored : List UInt8) : Prop :=
  ∀ (w : World) callback, w.userReadBuf = some bufLen → w.userReadCallback = some callback →
    (w.onReadComplete data.length data).reports =
      w.reports ++ [.stored stored, .ran (.read callback) result]

/-- A completed read stores its result and runs the callback. -/
lemma onReadComplete_reports {w : World} {bufLen : Nat} {callback : Callback} (buf : w.userReadBuf = some bufLen)
    (set : w.userReadCallback = some callback) (result : Int) (data : List UInt8) :
    (w.onReadComplete result data).reports =
      w.reports ++ [.stored (readResult (some bufLen) result data).2,
        .ran (.read callback) (readResult (some bufLen) result data).1] := by
  rw [World.onReadComplete, buf, set]
  show (w.reports ++ [_]) ++ [_] = _
  rw [List.append_assoc]
  rfl

/-- What is decoded is the result of the read, and what it stores. -/
lemma decodes_iff {data stored : List UInt8} {bufLen : Nat} {result : Int} :
    Decodes data bufLen result stored ↔ readResult (some bufLen) data.length data = (result, stored) := by
  refine ⟨fun decodes => ?_, fun eq w callback buf set => ?_⟩
  · have reports := decodes { fresh ⟨⟨[]⟩, 0⟩ with userReadBuf := some bufLen, userReadCallback := some 0 } 0 rfl rfl
    rw [onReadComplete_reports rfl rfl] at reports
    have entries := List.append_cancel_left reports
    simp only [List.cons.injEq, Report.stored.injEq, Report.ran.injEq, true_and, and_true] at entries
    exact Prod.ext entries.2 entries.1
  · rw [onReadComplete_reports buf set, eq]

/-! ## The layout -/

/-- The size of the address behind its type, with the length byte of a domain name. -/
def addressBytes (atyp first : UInt8) : Option Nat :=
  if atyp = 0x01 then some 4
  else if atyp = 0x04 then some 16
  else if atyp = 0x03 then some (1 + first.toNat)
  else none

/-- A block of a size, the port, and what follows them. -/
lemma framed_iff {payload tail : List UInt8} {size : Nat} :
    (∃ block port, block.length = size ∧ port.length = 2 ∧ tail = block ++ port ++ payload) ↔
      size + 2 ≤ tail.length ∧ payload = tail.drop (size + 2) := by
  constructor
  · intro ⟨block, port, hb, hp, e⟩
    have length : (block ++ port).length = size + 2 := by rw [List.length_append, hb, hp]
    rw [e, ← length, List.drop_left]
    exact ⟨(List.prefix_append _ _).length_le, rfl⟩
  · intro ⟨le, e⟩
    refine ⟨tail.take size, (tail.drop size).take 2, ?_, ?_, ?_⟩
    · exact List.length_take_of_le (by omega)
    · rw [List.length_take_of_le]
      rw [List.length_drop]
      omega
    · rw [e, ← List.take_add, List.take_append_drop]

/-- The size of the address says where the payload is. -/
lemma addressed_iff {payload rest : List UInt8} {atyp first : UInt8} :
    Addressed payload (atyp :: first :: rest) ↔
      ∃ size, addressBytes atyp first = some size ∧ size + 2 ≤ (first :: rest).length ∧
        payload = (first :: rest).drop (size + 2) := by
  simp only [← framed_iff]
  constructor
  · intro h
    generalize e : atyp :: first :: rest = data at h
    cases h with
    | ipv4 ha hp =>
      obtain ⟨rfl, tail⟩ := List.cons.inj e
      exact ⟨4, rfl, _, _, ha, hp, tail⟩
    | ipv6 ha hp =>
      obtain ⟨rfl, tail⟩ := List.cons.inj e
      exact ⟨16, rfl, _, _, ha, hp, tail⟩
    | @domain length address port ha hp =>
      obtain ⟨rfl, tail⟩ := List.cons.inj e
      obtain ⟨rfl, tail⟩ := List.cons.inj tail
      refine ⟨1 + first.toNat, rfl, first :: address, port, ?_, hp, ?_⟩
      · rw [List.length_cons, ha, Nat.add_comm]
      · rw [tail]
        rfl
  · intro ⟨size, sized, block, port, hb, hp, tail⟩
    rw [addressBytes] at sized
    split_ifs at sized with four sixteen domain
    · cases sized
      rw [four, tail]
      exact .ipv4 hb hp
    · cases sized
      rw [sixteen, tail]
      exact .ipv6 hb hp
    · cases sized
      cases block with
      | nil =>
        rw [List.length_nil] at hb
        omega
      | cons length address =>
        obtain ⟨rfl, rest⟩ := List.cons.inj tail
        rw [domain, rest]
        refine .domain ?_ hp
        rw [List.length_cons] at hb
        omega

/-- What is addressed begins with the type of the address and the first byte of it. -/
lemma Addressed.two_le {payload rest : List UInt8} (h : Addressed payload rest) :
    ∃ atyp first more, rest = atyp :: first :: more := by
  cases h with
  | @ipv4 address port ha hp =>
    cases address with
    | nil => cases ha
    | cons first more => exact ⟨_, first, _, rfl⟩
  | @ipv6 address port ha hp =>
    cases address with
    | nil => cases ha
    | cons first more => exact ⟨_, first, _, rfl⟩
  | domain ha hp => exact ⟨_, _, _, rfl⟩

/-- The payload behind an address is the only one. -/
lemma Addressed.unique {payload payload' rest : List UInt8} (h : Addressed payload rest)
    (h' : Addressed payload' rest) : payload = payload' := by
  obtain ⟨atyp, first, more, rfl⟩ := h.two_le
  obtain ⟨size, sized, _, e⟩ := addressed_iff.mp h
  obtain ⟨size', sized', _, e'⟩ := addressed_iff.mp h'
  cases sized.symm.trans sized'
  exact e.trans e'.symm

/-! ## The decoder -/

/-- The offset that the decoder computes for a datagram that is long enough. -/
lemma payloadOffset_eq {r0 r1 frag atyp first : UInt8} {rest : List UInt8} (long : 5 ≤ rest.length) :
    payloadOffset (r0 :: r1 :: frag :: atyp :: first :: rest) =
      (addressBytes atyp first).bind fun size =>
        if size + 2 ≤ (first :: rest).length then some (4 + (size + 2)) else none := by
  have enough : ¬ (r0 :: r1 :: frag :: atyp :: first :: rest).length < 10 := by
    simp only [List.length_cons]
    omega
  have bound (size : Nat) :
      (if rest.length + 1 + 1 + 1 + 1 + 1 < 3 + 1 + size + 2 then none else some (3 + 1 + size + 2)) =
        if size + 2 ≤ rest.length + 1 then some (4 + (size + 2)) else none := by
    rw [show 3 + 1 + size + 2 = 4 + (size + 2) from by omega, ← ite_not]
    exact if_congr (by omega) rfl rfl
  rw [payloadOffset, if_neg enough, addressBytes]
  simp only [kSOCKS5UDPHeaderSize, List.getD_cons_succ, List.getD_cons_zero, List.length_cons]
  split_ifs with four sixteen domain empty
  · exact bound 4
  · exact bound 16
  · omega
  · exact bound (1 + first.toNat)
  · rfl

/-- What is behind the first three bytes of a datagram that is long enough. -/
lemma exists_header {data : List UInt8} (long : 10 ≤ data.length) :
    ∃ r0 r1 frag atyp first rest, data = r0 :: r1 :: frag :: atyp :: first :: rest ∧ 5 ≤ rest.length := by
  match data, long with
  | r0 :: r1 :: frag :: atyp :: first :: rest, long =>
    refine ⟨r0, r1, frag, atyp, first, rest, rfl, ?_⟩
    simp only [List.length_cons] at long
    omega

/-- A datagram that is long enough is accepted for what is behind its first three bytes. -/
lemma readResult_accepts {data payload : List UInt8} (long : 10 ≤ data.length)
    (h : Addressed payload (data.drop 3)) (bufLen : Nat) :
    readResult (some bufLen) data.length data = (((min payload.length bufLen : Nat) : Int), payload.take bufLen) := by
  obtain ⟨r0, r1, frag, atyp, first, rest, rfl, more⟩ := exists_header long
  obtain ⟨size, sized, le, e⟩ := addressed_iff.mp h
  have some_bytes : 0 < ((r0 :: r1 :: frag :: atyp :: first :: rest).length : Int) := by
    rw [List.length_cons]
    omega
  have behind : (r0 :: r1 :: frag :: atyp :: first :: rest).drop (4 + (size + 2)) = payload := by
    rw [e, ← List.drop_drop]
    rfl
  simp only [readResult, if_pos some_bytes, payloadOffset_eq more, sized, Option.bind_some, if_pos le, behind,
    List.length_take]
  rw [Nat.min_comm]

/-- Every other one that is not empty is rejected. -/
lemma readResult_rejects {data : List UInt8} (nonempty : data ≠ [])
    (h : 10 ≤ data.length → ∀ payload, ¬ Addressed payload (data.drop 3)) (bufLen : Nat) :
    readResult (some bufLen) data.length data = (ERR_SOCKS_CONNECTION_FAILED, []) := by
  have some_bytes : 0 < (data.length : Int) := by
    have := List.length_pos_iff.mpr nonempty
    omega
  have rejected : payloadOffset data = none := by
    by_cases long : 10 ≤ data.length
    · have none_fits := h long
      obtain ⟨r0, r1, frag, atyp, first, rest, rfl, more⟩ := exists_header long
      rw [payloadOffset_eq more]
      cases sized : addressBytes atyp first with
      | none => rfl
      | some size =>
        apply if_neg
        intro le
        exact none_fits _ (addressed_iff.mpr ⟨size, sized, le, rfl⟩)
    · exact if_pos (Nat.lt_of_not_le long)
  simp only [readResult, if_pos some_bytes, rejected]

/-! ## The codec -/

/-- `memcpy` from a part of an array to the front of another one; nothing when it would leave one of them. -/
def memcpy (dst src : List UInt8) (offset len : Nat) : Option (List UInt8) :=
  if offset + len ≤ src.length ∧ len ≤ dst.length then some ((src.drop offset).take len ++ dst.drop len) else none

/-- The `switch` over the type of the address: where the address ends, or a rejection. -/
def afterAddress (data : List UInt8) (offset : Nat) (atyp : UInt8) : Option (Option Nat) :=
  if atyp = 0x01 then some (some (offset + 4))
  else if atyp = 0x04 then some (some (offset + 16))
  else if atyp = 0x03 then
    if offset ≥ data.length then some none else data[offset]?.map fun length => some (offset + (1 + length.toNat))
  else some none

/-- The payload is copied into the buffer. -/
def copyPayload (buf data : List UInt8) (offset : Nat) : Option (Int × List UInt8) :=
  if offset > data.length then some (ERR_SOCKS_CONNECTION_FAILED, buf)
  else
    let copyLen := min (data.length - offset) buf.length
    (memcpy buf data offset copyLen).map fun buf => (copyLen, buf)

/-- `OnReadComplete` on the bytes of a datagram and the buffer of the caller, with every access checked: the result and
the buffer, or nothing when a byte outside of the two would be read or written. -/
def decodeInto (buf data : List UInt8) : Option (Int × List UInt8) :=
  if data.length = 0 then some (0, buf)
  else if data.length < 10 then some (ERR_SOCKS_CONNECTION_FAILED, buf)
  else
    data[3]?.bind fun atyp => (afterAddress data 4 atyp).bind fun offset =>
      offset.elim (some (ERR_SOCKS_CONNECTION_FAILED, buf)) fun offset => copyPayload buf data (offset + 2)

/-- The port comes behind the bytes of the address. -/
lemma afterAddress_eq {data : List UInt8} {atyp first : UInt8} (fourth : data[4]? = some first) :
    afterAddress data 4 atyp = some ((addressBytes atyp first).map (4 + ·)) := by
  have inside : ¬ 4 ≥ data.length := Nat.not_le_of_lt (List.getElem?_eq_some_iff.mp fourth).1
  rw [afterAddress, addressBytes, fourth, if_neg inside]
  split_ifs <;> rfl

/-- A payload is copied as far as the buffer goes. -/
lemma copyPayload_of_le {buf data stored : List UInt8} {offset : Nat} (le : offset ≤ data.length)
    (e : stored = (data.drop offset).take buf.length) :
    copyPayload buf data offset = some ((stored.length : Int), stored ++ buf.drop stored.length) := by
  have length : min (data.length - offset) buf.length = stored.length := by
    rw [e, List.length_take, List.length_drop, Nat.min_comm]
  have copied : (data.drop offset).take stored.length = stored :=
    (List.prefix_iff_eq_take.mp (e ▸ List.take_prefix _ _)).symm
  have inside : offset + stored.length ≤ data.length ∧ stored.length ≤ buf.length := by omega
  rw [copyPayload, if_neg (Nat.not_lt_of_le le)]
  simp only [length, memcpy, if_pos inside, copied, Option.map_some]

/-- Every access is inside of the datagram or of the buffer. -/
lemma decodeInto_eq (buf data : List UInt8) :
    decodeInto buf data =
      some ((readResult (some buf.length) data.length data).1,
        (readResult (some buf.length) data.length data).2 ++
          buf.drop (readResult (some buf.length) data.length data).2.length) := by
  by_cases empty : data = []
  · rw [empty]
    rfl
  by_cases short : data.length < 10
  · rw [readResult_rejects empty (fun long => absurd short (Nat.not_lt_of_le long)), decodeInto,
      if_neg (fun zero => empty (List.length_eq_zero_iff.mp zero)), if_pos short]
    rfl
  · have long := Nat.le_of_not_lt short
    obtain ⟨r0, r1, frag, atyp, first, rest, e, more⟩ := exists_header long
    have third : data[3]? = some atyp := by rw [e]; rfl
    have fourth : data[4]? = some first := by rw [e]; rfl
    have length : data.length = rest.length + 5 := by rw [e]; rfl
    have some_bytes : 0 < (data.length : Int) := by omega
    have offset := @payloadOffset_eq r0 r1 frag atyp first rest more
    rw [← e] at offset
    rw [decodeInto, if_neg (fun zero => empty (List.length_eq_zero_iff.mp zero)), if_neg short, third,
      Option.bind_some, afterAddress_eq fourth, Option.bind_some]
    simp only [readResult, if_pos some_bytes, offset]
    cases addressBytes atyp first with
    | none => rfl
    | some size =>
      rw [Option.bind_some, Option.map_some, Option.elim_some]
      by_cases le : size + 2 ≤ (first :: rest).length
      · rw [if_pos le]
        rw [List.length_cons] at le
        exact copyPayload_of_le (by omega) rfl
      · rw [if_neg le, copyPayload, if_pos]
        · rfl
        · rw [List.length_cons] at le
          omega

/-- An address of IPv4 or IPv6. -/
def IsAddress (target : IPEndPoint) : Prop :=
  target.address.bytes.length = 4 ∨ target.address.bytes.length = 16

/-- The header in front of a payload has the layout of RFC 1928, and is never too short for the decoder. -/
lemma buildUDPEncapsulatedPacket_addressed {target : IPEndPoint} (h : IsAddress target) (payload : List UInt8) :
    10 ≤ (buildUDPEncapsulatedPacket target payload).length ∧
      Datagram payload (buildUDPEncapsulatedPacket target payload) := by
  rcases h with four | sixteen
  · have built : buildUDPEncapsulatedPacket target payload = (0x00 : UInt8) :: 0x00 :: 0x00 :: 0x01 ::
        (target.address.bytes ++ [(target.port >>> 8).toUInt8, target.port.toUInt8] ++ payload) := by
      rw [buildUDPEncapsulatedPacket, IPAddress.isIPv4, decide_eq_true four, if_pos rfl,
        List.take_of_length_le (show _ ≤ kIPv4Size from Nat.le_of_eq four)]
      simp
    rw [built]
    refine ⟨?_, _, rfl, .ipv4 four rfl⟩
    simp only [List.length_cons, List.length_append, four]
    omega
  · have other : target.address.bytes.length ≠ 4 := by omega
    have built : buildUDPEncapsulatedPacket target payload = (0x00 : UInt8) :: 0x00 :: 0x00 :: 0x04 ::
        (target.address.bytes ++ [(target.port >>> 8).toUInt8, target.port.toUInt8] ++ payload) := by
      rw [buildUDPEncapsulatedPacket, IPAddress.isIPv4, decide_eq_false other, if_neg Bool.false_ne_true,
        List.take_of_length_le (show _ ≤ kIPv6Size from Nat.le_of_eq sixteen)]
      simp
    rw [built]
    refine ⟨?_, _, rfl, .ipv6 sixteen rfl⟩
    simp only [List.length_cons, List.length_append, sixteen]
    omega

/-- Behind its first three bytes a datagram is addressed. -/
lemma Datagram.addressed {payload data : List UInt8} (h : Datagram payload data) : Addressed payload (data.drop 3) := by
  obtain ⟨rest, rfl, addressed⟩ := h
  exact addressed

/-- A read stores no more than the buffer takes. -/
lemma length_readResult_le (bufLen : Nat) (result : Int) (data : List UInt8) :
    (readResult (some bufLen) result data).2.length ≤ bufLen := by
  rw [readResult]
  split_ifs
  · cases payloadOffset data with
    | none => exact Nat.zero_le _
    | some offset => exact List.length_take_le _ _
  · exact Nat.zero_le _

/-- What is encapsulated is decoded, as far as there is room for it, and whatever a datagram is, every access is inside
of it or of the buffer of the caller. -/
theorem datagramCodec :
    (∀ target payload bufLen, IsAddress target → 0 < bufLen →
      Decodes (buildUDPEncapsulatedPacket target payload) bufLen ((min payload.length bufLen : Nat) : Int)
        (payload.take bufLen)) ∧
    ∀ buf data, ∃ result stored,
      Decodes data buf.length result stored ∧ stored.length ≤ buf.length ∧
      decodeInto buf data = some (result, stored ++ buf.drop stored.length) := by
  refine ⟨fun target payload bufLen address _ => ?_, fun buf data => ?_⟩
  · obtain ⟨long, datagram⟩ := buildUDPEncapsulatedPacket_addressed address payload
    exact decodes_iff.mpr (readResult_accepts long datagram.addressed bufLen)
  · exact ⟨_, _, decodes_iff.mpr rfl, length_readResult_le buf.length data.length data, decodeInto_eq buf data⟩

/-- Three bytes in a buffer for two of them. -/
theorem datagramCodec_three :
    Decodes (buildUDPEncapsulatedPacket ⟨⟨[127, 0, 0, 1]⟩, 53⟩ [7, 8, 9]) 2 2 [7, 8] ∧
      ∃ stored, decodeInto [0, 0] [0, 0, 0, 1, 127, 0, 0, 1, 0, 53, 7, 8, 9] =
        some (2, stored ++ [0, 0].drop stored.length) :=
  ⟨datagramCodec.1 ⟨⟨[127, 0, 0, 1]⟩, 53⟩ [7, 8, 9] 2 (.inl rfl) (by decide), [7, 8], rfl⟩

/-! ## The grammar -/

/-- The decoder delivers the payload of a datagram, as far as there is room for it, and rejects everything else. -/
def DecodesExactly (data : List UInt8) : Prop :=
  ∀ bufLen, 0 < bufLen →
    (∀ payload, Datagram payload data →
      Decodes data bufLen ((min payload.length bufLen : Nat) : Int) (payload.take bufLen)) ∧
    ((∀ payload, ¬ Datagram payload data) → Decodes data bufLen ERR_SOCKS_CONNECTION_FAILED [])

/-- The reserved bytes and the fragment number are zero. -/
def ZeroHeader (data : List UInt8) : Prop :=
  data.take 3 = [0x00, 0x00, 0x00]

/-- A datagram is three bytes of zero, and what is addressed. -/
lemma datagram_iff {payload data : List UInt8} :
    Datagram payload data ↔ ZeroHeader data ∧ Addressed payload (data.drop 3) := by
  constructor
  · intro h
    refine ⟨?_, h.addressed⟩
    obtain ⟨rest, rfl, _⟩ := h
    rfl
  · intro ⟨zero, addressed⟩
    refine ⟨data.drop 3, ?_, addressed⟩
    have parts := List.take_append_drop 3 data
    rw [zero] at parts
    exact parts.symm

/-- A number of bytes is no error. -/
lemma count_ne_error (n : Nat) : (n : Int) ≠ ERR_SOCKS_CONNECTION_FAILED := by
  show (n : Int) ≠ -120
  omega

/-- The property at one buffer, in terms of the result. -/
lemma decodesExactly_result {data : List UInt8} {bufLen : Nat} {result : Int} {stored : List UInt8}
    (pos : 0 < bufLen) (h : DecodesExactly data)
    (actual : readResult (some bufLen) data.length data = (result, stored)) :
    (∀ payload, Datagram payload data → result = ((min payload.length bufLen : Nat) : Int)) ∧
      ((∀ payload, ¬ Datagram payload data) → result = ERR_SOCKS_CONNECTION_FAILED) := by
  obtain ⟨delivers, rejects⟩ := h bufLen pos
  refine ⟨fun payload datagram => ?_, fun none_fits => ?_⟩
  · have expected := decodes_iff.mp (delivers payload datagram)
    exact (Prod.ext_iff.mp (actual.symm.trans expected)).1
  · have expected := decodes_iff.mp (rejects none_fits)
    exact (Prod.ext_iff.mp (actual.symm.trans expected)).1

/-- Where the bytes behind the first three are in order, the decoder is right when they are zero and there are at least
ten in all, or neither; an empty datagram is delivered. -/
theorem decodesExactly_iff (data : List UInt8) :
    DecodesExactly data ↔
      data ≠ [] ∧ ((∃ payload, Addressed payload (data.drop 3)) → (10 ≤ data.length ↔ ZeroHeader data)) := by
  constructor
  · intro exactly
    refine ⟨fun empty => ?_, fun ⟨payload, addressed⟩ => ⟨fun long => ?_, fun zero => ?_⟩⟩
    · rw [empty] at exactly
      have none_fits (payload : List UInt8) : ¬ Datagram payload [] := by
        intro ⟨_, e, _⟩
        cases e
      cases (decodesExactly_result Nat.one_pos exactly rfl).2 none_fits
    · apply Classical.byContradiction
      intro forged
      have none_fits (payload : List UInt8) : ¬ Datagram payload data := fun h => forged (datagram_iff.mp h).1
      have rejected := (decodesExactly_result Nat.one_pos exactly (readResult_accepts long addressed 1)).2 none_fits
      exact count_ne_error _ rejected
    · apply Nat.le_of_not_lt
      intro short
      have nonempty : data ≠ [] := fun empty => by rw [empty] at zero; cases zero
      have rejected := readResult_rejects nonempty (fun long => absurd short (Nat.not_lt_of_le long)) 1
      have delivered := (decodesExactly_result Nat.one_pos exactly rejected).1 payload
        (datagram_iff.mpr ⟨zero, addressed⟩)
      exact count_ne_error _ delivered.symm
  · intro ⟨nonempty, fits⟩ bufLen _
    refine ⟨fun payload datagram => ?_, fun none_fits => ?_⟩
    · obtain ⟨zero, addressed⟩ := datagram_iff.mp datagram
      have long := (fits ⟨payload, addressed⟩).mpr zero
      exact decodes_iff.mpr (readResult_accepts long addressed bufLen)
    · refine decodes_iff.mpr (readResult_rejects nonempty (fun long payload addressed => ?_) bufLen)
      have zero := (fits ⟨payload, addressed⟩).mp long
      exact none_fits payload (datagram_iff.mpr ⟨zero, addressed⟩)

/-- A fragment is delivered, and a datagram from a host with a short name is rejected. -/
theorem decodesExactly_fails :
    ¬ DecodesExactly [0, 0, 1, 1, 127, 0, 0, 1, 0, 53, 7] ∧ ¬ DecodesExactly [0, 0, 0, 3, 1, 97, 0, 53, 7] := by
  refine ⟨fun exactly => ?_, fun exactly => ?_⟩
  · have none_fits (payload : List UInt8) : ¬ Datagram payload [0, 0, 1, 1, 127, 0, 0, 1, 0, 53, 7] := by
      intro ⟨_, e, _⟩
      cases e
    have actual : readResult (some 1) 11 [0, 0, 1, 1, 127, 0, 0, 1, 0, 53, 7] = (1, [7]) := rfl
    have rejected := (decodesExactly_result Nat.one_pos exactly actual).2 none_fits
    cases rejected
  · have named : Datagram [7] [0, 0, 0, 3, 1, 97, 0, 53, 7] :=
      ⟨_, rfl, @Addressed.domain [7] 1 [97] [0, 53] rfl rfl⟩
    have actual : readResult (some 1) 9 [0, 0, 0, 3, 1, 97, 0, 53, 7] = (ERR_SOCKS_CONNECTION_FAILED, []) := rfl
    have delivered := (decodesExactly_result Nat.one_pos exactly actual).1 [7] named
    cases delivered

end PureCloak.Net
