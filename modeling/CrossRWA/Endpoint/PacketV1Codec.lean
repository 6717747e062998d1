/-
  `PacketV1Codec` and `GUID` — the bytes of a packet.

  A packet is a header of 81 bytes (version, nonce, path), the id of the packet, and the message.
  The accessors cut their field out of the bytes, at offsets written down as numbers.

  1. `encode` and the accessors, from the library.
  2. `Reads b p`: the accessors read the parts of `p` from `b`.  They do from its encoding
     (`reads_encode`), and from no other bytes (`Reads.eq_encode`); and from any bytes of the
     right length and version, whose sender is an address, they read some packet
     (`exists_reads`).  So the accessors accept what `encode` writes and nothing else
     (`reads_iff_encode`).
  3. `GUID.input_inj`: what is hashed for an id determines the nonce and the path.
-/
import CrossRWA.Lib.Packed
import CrossRWA.Endpoint.MessagingChannel

namespace CrossRWA

open Calls Packed

/-- The packet of a message. -/
structure LzPacket where
  nonce : Uint64
  srcEid : Uint32
  sender : Address
  dstEid : Uint32
  receiver : Bytes32
  guid : Bytes32
  message : Bytes
deriving DecidableEq, Repr

/-! ## Ids -/

namespace GUID

/-- What is hashed: eighty bytes. -/
def input (nonce : Uint64) (srcEid : Uint32) (sender : Address) (dstEid : Uint32)
    (receiver : Bytes32) : Bytes :=
  write 8 nonce ++ write 4 srcEid ++ write 32 (toBytes32 sender) ++ write 4 dstEid ++
    write 32 receiver

def generate (keccak256 : Bytes → Bytes32) (nonce : Uint64) (srcEid : Uint32) (sender : Address)
    (dstEid : Uint32) (receiver : Bytes32) : Bytes32 :=
  keccak256 (input nonce srcEid sender dstEid receiver)

/-- The input determines the nonce and the path. -/
theorem input_inj {nonce nonce' : Uint64} {srcEid srcEid' dstEid dstEid' : Uint32}
    {sender sender' : Address} {receiver receiver' : Bytes32}
    (h : input nonce srcEid sender dstEid receiver
      = input nonce' srcEid' sender' dstEid' receiver') :
    nonce = nonce' ∧ srcEid = srcEid' ∧ sender = sender' ∧ dstEid = dstEid' ∧
      receiver = receiver' := by
  unfold input at h
  obtain ⟨h, hreceiver⟩ := List.append_inj' h (by simp)
  obtain ⟨h, hdst⟩ := List.append_inj' h (by simp)
  obtain ⟨h, hsender⟩ := List.append_inj' h (by simp)
  obtain ⟨hnonce, hsrc⟩ := List.append_inj' h (by simp)
  exact ⟨write_inj rfl hnonce, write_inj rfl hsrc, toBytes32_inj (write_inj rfl hsender),
    write_inj rfl hdst, write_inj rfl hreceiver⟩

end GUID

namespace PacketV1Codec

def PACKET_VERSION : Uint8 := 1

def encode (p : LzPacket) : Bytes :=
  write 1 PACKET_VERSION ++ write 8 p.nonce ++ write 4 p.srcEid ++ write 32 (toBytes32 p.sender) ++
    write 4 p.dstEid ++ write 32 p.receiver ++ write 32 p.guid ++ p.message

def encodePacketHeader (p : LzPacket) : Bytes :=
  write 1 PACKET_VERSION ++ write 8 p.nonce ++ write 4 p.srcEid ++ write 32 (toBytes32 p.sender) ++
    write 4 p.dstEid ++ write 32 p.receiver

def encodePayload (p : LzPacket) : Bytes := write 32 p.guid ++ p.message

/-! ## The accessors -/

/-- A slice of calldata, which has to lie within it. -/
def slice (b : Bytes) (start stop : Nat) : Except LzError Bytes := do
  refuseIf (b.length < stop) .badSlice
  pure (cut b start stop)

def header (b : Bytes) : Except LzError Bytes := slice b 0 81

/-- A number at given offsets. -/
def field (w : Nat) (b : Bytes) (start stop : Nat) : Except LzError (BitVec w) := do
  let s ← slice b start stop
  pure (read w s)

def version (b : Bytes) : Except LzError Uint8 := field 8 b 0 1

def nonce (b : Bytes) : Except LzError Uint64 := field 64 b 1 9

def srcEid (b : Bytes) : Except LzError Uint32 := field 32 b 9 13

def sender (b : Bytes) : Except LzError Bytes32 := field 256 b 13 45

def dstEid (b : Bytes) : Except LzError Uint32 := field 32 b 45 49

def receiver (b : Bytes) : Except LzError Bytes32 := field 256 b 49 81

def receiverB20 (b : Bytes) : Except LzError Address := do
  let r ← receiver b
  pure (toAddress r)

def guid (b : Bytes) : Except LzError Bytes32 := field 256 b 81 113

/-- The rest from an offset on, which has to be there. -/
def rest (b : Bytes) (start : Nat) : Except LzError Bytes := do
  refuseIf (b.length < start) .badSlice
  pure (b.drop start)

def message (b : Bytes) : Except LzError Bytes := rest b 113

def payload (b : Bytes) : Except LzError Bytes := rest b 81

def payloadHash (keccak256 : Bytes → Bytes32) (b : Bytes) : Except LzError Bytes32 := do
  let p ← payload b
  pure (keccak256 p)

theorem slice_eq_ok {b s : Bytes} {start stop : Nat} :
    slice b start stop = .ok s ↔ stop ≤ b.length ∧ s = cut b start stop := by
  simp only [slice, seq_eq_ok, refuseIf_eq_ok, ret_eq_ok, not_lt]
  constructor
  · rintro ⟨_, hle, rfl⟩
    exact ⟨hle, rfl⟩
  · rintro ⟨hle, rfl⟩
    exact ⟨(), hle, rfl⟩

theorem field_eq_ok {w : Nat} {b : Bytes} {start stop : Nat} {x : BitVec w} :
    field w b start stop = .ok x ↔ stop ≤ b.length ∧ x = read w (cut b start stop) := by
  simp only [field, seq_eq_ok, slice_eq_ok, ret_eq_ok]
  constructor
  · rintro ⟨_, ⟨hle, rfl⟩, rfl⟩
    exact ⟨hle, rfl⟩
  · rintro ⟨hle, rfl⟩
    exact ⟨_, ⟨hle, rfl⟩, rfl⟩

theorem rest_eq_ok {b s : Bytes} {start : Nat} :
    rest b start = .ok s ↔ start ≤ b.length ∧ s = b.drop start := by
  simp only [rest, seq_eq_ok, refuseIf_eq_ok, ret_eq_ok, not_lt]
  constructor
  · rintro ⟨_, hle, rfl⟩
    exact ⟨hle, rfl⟩
  · rintro ⟨hle, rfl⟩
    exact ⟨(), hle, rfl⟩

/-- The accessors read the parts of `p`. -/
structure Reads (b : Bytes) (p : LzPacket) : Prop where
  version : version b = .ok PACKET_VERSION
  nonce : nonce b = .ok p.nonce
  srcEid : srcEid b = .ok p.srcEid
  sender : sender b = .ok (toBytes32 p.sender)
  dstEid : dstEid b = .ok p.dstEid
  receiver : receiver b = .ok p.receiver
  guid : guid b = .ok p.guid
  message : message b = .ok p.message

/-! ## Round trips -/

/-- The fields of a packet. -/
def fields (p : LzPacket) : List Bytes :=
  [write 1 PACKET_VERSION, write 8 p.nonce, write 4 p.srcEid, write 32 (toBytes32 p.sender),
    write 4 p.dstEid, write 32 p.receiver, write 32 p.guid, p.message]

theorem encode_eq_flatten (p : LzPacket) : encode p = (fields p).flatten := by
  simp [encode, fields, List.append_assoc]

theorem fields_lengths (p : LzPacket) :
    (fields p).map List.length = [1, 8, 4, 32, 4, 32, 32, p.message.length] := by
  simp [fields]

theorem length_encode (p : LzPacket) : (encode p).length = 113 + p.message.length := by
  simp [encode]
  omega

theorem encode_eq (p : LzPacket) : encode p = encodePacketHeader p ++ encodePayload p := by
  simp [encode, encodePacketHeader, encodePayload, List.append_assoc]

theorem length_encodePacketHeader (p : LzPacket) : (encodePacketHeader p).length = 81 := by
  simp [encodePacketHeader]

/-- **What is encoded is read back.** -/
theorem reads_encode (p : LzPacket) : Reads (encode p) p := by
  have hlen := length_encode p
  -- a field is cut out where the lengths before it add up to its offset
  have hread : ∀ {w k i : Nat} (hi : i < 8) {x : BitVec w} {start stop : Nat}, w = 8 * k →
      start = ([1, 8, 4, 32, 4, 32, 32, p.message.length].take i).sum →
      stop = ([1, 8, 4, 32, 4, 32, 32, p.message.length].take (i + 1)).sum →
      (fields p).get ⟨i, hi⟩ = write k x → stop ≤ 113 → field w (encode p) start stop = .ok x := by
    rintro w k i hi x _ _ hw rfl rfl hx hle
    refine field_eq_ok.mpr ⟨by omega, ?_⟩
    rw [encode_eq_flatten, cut_flatten (fields_lengths p) hi]
    show x = read w ((fields p).get ⟨i, hi⟩)
    rw [hx, read_write hw]
  constructor
  · exact hread (k := 1) (i := 0) (by decide) rfl rfl rfl rfl (by decide)
  · exact hread (k := 8) (i := 1) (by decide) rfl rfl rfl rfl (by decide)
  · exact hread (k := 4) (i := 2) (by decide) rfl rfl rfl rfl (by decide)
  · exact hread (k := 32) (i := 3) (by decide) rfl rfl rfl rfl (by decide)
  · exact hread (k := 4) (i := 4) (by decide) rfl rfl rfl rfl (by decide)
  · exact hread (k := 32) (i := 5) (by decide) rfl rfl rfl rfl (by decide)
  · exact hread (k := 32) (i := 6) (by decide) rfl rfl rfl rfl (by decide)
  · refine rest_eq_ok.mpr ⟨by omega, ?_⟩
    rw [encode, List.drop_left' (by simp)]

/-- **Only the encoding reads so.** -/
theorem Reads.eq_encode {b : Bytes} {p : LzPacket} (h : Reads b p) : b = encode p := by
  obtain ⟨hlen, hmessage⟩ := rest_eq_ok.mp h.message
  -- a number that was read is written back as the bytes it was read from
  have hwrite : ∀ {w i j : Nat} {x : BitVec w}, field w b i j = .ok x → w = 8 * (j - i) →
      write (j - i) x = cut b i j := by
    intro w i j x hx hw
    obtain ⟨hj, rfl⟩ := field_eq_ok.mp hx
    exact write_read hw (length_cut hj)
  rw [encode, hwrite h.version rfl, hwrite h.nonce rfl, hwrite h.srcEid rfl, hwrite h.sender rfl,
    hwrite h.dstEid rfl, hwrite h.receiver rfl, hwrite h.guid rfl, hmessage]
  have h0 : cut b 0 1 = b.take 1 := List.drop_zero
  rw [h0, take_append_cut b (by decide), take_append_cut b (by decide),
    take_append_cut b (by decide), take_append_cut b (by decide), take_append_cut b (by decide),
    take_append_cut b (by decide), List.take_append_drop]

/-- What is read is some packet: of bytes that are long enough, of the version, and from an
    address. -/
theorem exists_reads {b : Bytes} (hlen : 113 ≤ b.length) (hversion : version b = .ok PACKET_VERSION)
    {s : Address} (hsender : sender b = .ok (toBytes32 s)) : ∃ p, Reads b p := by
  refine ⟨⟨read 64 (cut b 1 9), read 32 (cut b 9 13), s, read 32 (cut b 45 49),
    read 256 (cut b 49 81), read 256 (cut b 81 113), b.drop 113⟩, hversion, ?_, ?_, hsender, ?_,
    ?_, ?_, rest_eq_ok.mpr ⟨hlen, rfl⟩⟩
  all_goals exact field_eq_ok.mpr ⟨by omega, rfl⟩

/-- The header and the payload of an encoding are the parts it was made of. -/
theorem header_payload_encode (p : LzPacket) :
    header (encode p) = .ok (encodePacketHeader p) ∧
      payload (encode p) = .ok (encodePayload p) := by
  have hlen := length_encode p
  rw [header, payload, slice_eq_ok, rest_eq_ok, cut, List.drop_zero, encode_eq,
    List.take_left' (length_encodePacketHeader p), List.drop_left' (length_encodePacketHeader p),
    ← encode_eq]
  exact ⟨⟨by omega, rfl⟩, ⟨by omega, rfl⟩⟩

/-- **The accessors accept what `encode` writes, and nothing else.**  They read a packet from bytes
    if and only if these encode it, and then the header and the payload are the parts it was made
    of; and they read some packet from all bytes that are long enough, of the version, and from an
    address. -/
theorem reads_iff_encode (b : Bytes) :
    (∀ p, Reads b p ↔ b = encode p) ∧
    (∀ p, Reads b p → header b = .ok (encodePacketHeader p) ∧ payload b = .ok (encodePayload p)) ∧
    ((∃ p, Reads b p) ↔ 113 ≤ b.length ∧ version b = .ok PACKET_VERSION ∧
      ∃ s, sender b = .ok (toBytes32 s)) := by
  refine ⟨fun p => ⟨Reads.eq_encode, ?_⟩, fun p h => ?_, ?_, ?_⟩
  · rintro rfl
    exact reads_encode p
  · rw [h.eq_encode]
    exact header_payload_encode p
  · rintro ⟨p, h⟩
    exact ⟨(rest_eq_ok.mp h.message).1, h.version, p.sender, h.sender⟩
  · rintro ⟨hlen, hversion, s, hsender⟩
    exact exists_reads hlen hversion hsender

/-- A header is read as its encoding. -/
theorem field_header {w start stop : Nat} {x : BitVec w} {p : LzPacket}
    (h : field w (encode p) start stop = .ok x) (hle : stop ≤ 81) :
    field w (encodePacketHeader p) start stop = .ok x := by
  obtain ⟨_, rfl⟩ := field_eq_ok.mp h
  have hlen := length_encodePacketHeader p
  refine field_eq_ok.mpr ⟨by omega, ?_⟩
  rw [encode_eq, cut, List.take_append_of_le_length (by omega)]
  rfl

end PacketV1Codec

end CrossRWA
