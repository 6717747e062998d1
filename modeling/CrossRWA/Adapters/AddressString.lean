/-
  `AddressString` and `Strings.toHexString` — addresses as text, and the reverts of adapters.

  A Solidity string is its bytes.  `toHexString` writes an address as `0x` and forty lower-case
  digits; `AddressString.toAddress` reads digits of either case, two at a time, in checked
  arithmetic.

  * `toAddress_eq_ok`: what the parser accepts, exactly — strings of digits of even length that
    stand for a number below `2^160`, which is then the address.
  * `toAddress_of_spelling`: the round trip.  Whatever the case of its letters, a string that
    spells an address is read back as that address.
-/
import CrossRWA.Commons
import CrossRWA.Lib.Calls
import CrossRWA.Lib.Hex

namespace CrossRWA

open Calls

abbrev Uint16 := BitVec 16
abbrev Uint32 := BitVec 32
abbrev Uint64 := BitVec 64

/-- The ways a call of an adapter reverts.  `core` is a revert in the router or its bases,
    `gmpReverted` a revert inside a GMP's own contracts. -/
inductive AdapterRevert
  | GlacisAbstractAdapter__OnlyGlacisRouterAllowed
  | GlacisAbstractAdapter__OnlyAdapterAllowed
  | GlacisAbstractAdapter__DestinationChainIdNotValid
  | GlacisAbstractAdapter__SourceChainNotRegistered
  | GlacisAbstractAdapter__IDArraysMustBeSameLength
  | GlacisAbstractAdapter__NoRemoteAdapterForChainId (chainId : Uint256)
  | GlacisAbstractAdapter__ChainIsNotAvailable (toChainId : Uint256)
  | GlacisWormholeAdapter__OnlyRelayerAllowed
  | GlacisWormholeAdapter__AlreadyProcessedVAA
  | GlacisWormholeAdapter__NotEnoughValueForCrossChainTransaction
  | GlacisWormholeAdapter__RefundAddressMustReceiveNativeCurrency
  | GlacisHyperlaneAdapter__OnlyMailboxAllowed
  | GlacisHyperlaneAdapter__FeeNotEnough
  | GlacisHyperlaneAdapter__RefundAddressMustReceiveNativeCurrency
  | GlacisCCIPAdapter__GlacisFeeExtrapolationFailed (currentBalance calculatedFees : Nat)
  | GlacisCCIPAdapter__RefundAddressMustReceiveNativeCurrency
  | GlacisCCIPAdapter__PaymentTooSmallForAnyDestinationExecution
  | GlacisLayerZeroV2Adapter__PeersDisabledUseCounterpartInstead
  | OnlyEndpoint (addr : Address)
  | AddressString__InvalidByteValue (b : UInt8)
  | require (message : String)
  | Panic (code : Nat)
  | noCode
  | abiDecode
  | gmpReverted
  | core (e : Revert)
deriving DecidableEq, Repr

/-! ## Writing an address -/

namespace Strings

/-- `toHexString(uint256 value, uint256 length)`. -/
def toHexString (value length : Nat) : Except AdapterRevert Bytes := do
  refuseIf (value / 16 ^ (2 * length) ≠ 0) (.require "Strings: hex length insufficient")
  pure ([48, 120] ++ Hex.encode (2 * length) value)

end Strings

/-- `toHexString(address addr)`. -/
def Address.toHexString (addr : Address) : Except AdapterRevert Bytes :=
  Strings.toHexString addr.toNat 20

/-- An address fits its forty digits. -/
theorem Address.toHexString_eq (addr : Address) :
    addr.toHexString = .ok ([48, 120] ++ Hex.encode 40 addr.toNat) := by
  have hlt : addr.toNat < 16 ^ (2 * 20) := by
    have := addr.isLt
    norm_num at this ⊢
    exact this
  simp only [Address.toHexString, Strings.toHexString, seq_eq_ok, refuseIf_eq_ok, ret_eq_ok]
  exact ⟨(), by rw [Nat.div_eq_of_lt hlt]; simp, trivial⟩

/-! ## Reading an address -/

namespace AddressString

def parseByteToUint8 (b : UInt8) : Except AdapterRevert Nat :=
  if b.toNat ≥ 48 ∧ b.toNat ≤ 57 then pure (b.toNat - 48)
  else if b.toNat ≥ 65 ∧ b.toNat ≤ 70 then pure (b.toNat - 55)
  else if b.toNat ≥ 97 ∧ b.toNat ≤ 102 then pure (b.toNat - 87)
  else .error (.AddressString__InvalidByteValue b)

/-- Checked `uint160` arithmetic. -/
def checkedUint160 (n : Nat) : Except AdapterRevert Nat :=
  if n < 2 ^ 160 then pure n else .error (.Panic 0x11)

/-- The loop of `toAddress`, two bytes a turn; an odd byte left over is read past the end. -/
def parseFrom (parsedBytes : Nat) : Bytes → Except AdapterRevert Nat
  | [] => pure parsedBytes
  | [b] => do
    let _ ← checkedUint160 (parsedBytes * 256)
    let _ ← parseByteToUint8 b
    .error (.Panic 0x32)
  | b :: b' :: s => do
    let parsedBytes ← checkedUint160 (parsedBytes * 256)
    let high ← parseByteToUint8 b
    let low ← parseByteToUint8 b'
    let parsedBytes ← checkedUint160 (parsedBytes + (high * 16 + low))
    parseFrom parsedBytes s

def toAddress (hexString : Bytes) : Except AdapterRevert Address := do
  let parsedBytes ← parseFrom 0 hexString
  pure (BitVec.ofNat 160 parsedBytes)

/-- `_toLowerCase` of the Axelar adapter. -/
def _toLowerCase (str : Bytes) : Bytes := str.map Hex.lower

theorem parseByteToUint8_eq_ok {b : UInt8} {d : Nat} :
    parseByteToUint8 b = .ok d ↔ Hex.value b = some d := by
  unfold parseByteToUint8 Hex.value
  simp only [ge_iff_le]
  split
  · rw [ret_eq_ok, Option.some.injEq]
  · split
    · rw [ret_eq_ok, Option.some.injEq]
    · split
      · rw [ret_eq_ok, Option.some.injEq]
      · simp

theorem checkedUint160_eq_ok {n m : Nat} : checkedUint160 n = .ok m ↔ n < 2 ^ 160 ∧ n = m := by
  by_cases hn : n < 2 ^ 160
  · rw [checkedUint160, if_pos hn, ret_eq_ok]
    exact ⟨fun h => ⟨hn, h⟩, fun h => h.2⟩
  · rw [checkedUint160, if_neg hn]
    exact ⟨fun h => absurd h (by simp), fun h => absurd h.1 hn⟩

/-- The loop succeeds on digits of even length whose number fits, and only on them. -/
theorem parseFrom_eq_ok {acc v : Nat} (s : Bytes) (hacc : acc < 2 ^ 160) :
    parseFrom acc s = .ok v ↔
      s.length % 2 = 0 ∧ Hex.decodeFrom acc s = some v ∧ v < 2 ^ 160 := by
  match s with
  | [] =>
    rw [parseFrom, ret_eq_ok, Hex.decodeFrom, Option.some.injEq]
    constructor
    · rintro rfl; exact ⟨rfl, rfl, hacc⟩
    · exact fun h => h.2.1
  | [b] =>
    constructor
    · intro h
      simp only [parseFrom, seq_eq_ok] at h
      obtain ⟨_, _, _, _, h⟩ := h
      cases h
    · rintro ⟨h, _⟩
      cases h
  | b :: b' :: s =>
    rw [Hex.decodeFrom_pair]
    simp only [parseFrom, seq_eq_ok, checkedUint160_eq_ok, parseByteToUint8_eq_ok,
      Option.bind_eq_some_iff]
    constructor
    · rintro ⟨_, ⟨_, rfl⟩, d, hd, d', hd', _, ⟨hlt, rfl⟩, hrest⟩
      obtain ⟨hlen, hdec, hv⟩ := (parseFrom_eq_ok s hlt).mp hrest
      exact ⟨by rw [List.length_cons, List.length_cons]; omega, ⟨d, hd, d', hd', hdec⟩, hv⟩
    · rintro ⟨hlen, ⟨d, hd, d', hd', hdec⟩, hv⟩
      -- what the digits so far stand for is below what all of them stand for
      have hle := Hex.le_decodeFrom hdec
      have hlt : acc * 256 + (d * 16 + d') < 2 ^ 160 := Nat.lt_of_le_of_lt hle hv
      have hacc' : acc * 256 < 2 ^ 160 := Nat.lt_of_le_of_lt (Nat.le_add_right _ _) hlt
      refine ⟨_, ⟨hacc', rfl⟩, d, hd, d', hd', _, ⟨hlt, rfl⟩, ?_⟩
      refine (parseFrom_eq_ok s hlt).mpr ⟨?_, hdec, hv⟩
      rw [List.length_cons, List.length_cons] at hlen
      omega

/-- **What the parser accepts.** -/
theorem toAddress_eq_ok {s : Bytes} {a : Address} :
    toAddress s = .ok a ↔ s.length % 2 = 0 ∧ Hex.decode s = some a.toNat := by
  simp only [toAddress, seq_eq_ok, ret_eq_ok]
  constructor
  · rintro ⟨v, hv, rfl⟩
    obtain ⟨hlen, hdec, hlt⟩ := (parseFrom_eq_ok s (Nat.two_pow_pos 160)).mp hv
    rw [BitVec.toNat_ofNat, Nat.mod_eq_of_lt hlt]
    exact ⟨hlen, hdec⟩
  · rintro ⟨hlen, hdec⟩
    exact ⟨a.toNat, (parseFrom_eq_ok s (Nat.two_pow_pos 160)).mpr ⟨hlen, hdec, a.isLt⟩, by simp⟩

/-- **The round trip**, whatever the case of the letters. -/
theorem toAddress_of_spelling {s text : Bytes} {a : Address} (ha : a.toHexString = .ok text)
    (hs : _toLowerCase s = text) : toAddress (_toLowerCase ((s.take 42).drop 2)) = .ok a := by
  obtain rfl := Except.ok.inj ((Address.toHexString_eq a).symm.trans ha)
  have hdec : Hex.decode (Hex.encode 40 a.toNat) = some a.toNat := by
    refine Hex.decode_encode (Nat.lt_of_lt_of_le a.isLt ?_)
    norm_num
  have hlen := Hex.length_encode 40 a.toNat
  generalize Hex.encode 40 a.toNat = digits at hs hdec hlen
  have hslice : _toLowerCase ((s.take 42).drop 2) = digits := by
    rw [_toLowerCase, List.map_drop, List.map_take]
    rw [_toLowerCase] at hs
    rw [hs]
    show digits.take 40 = digits
    exact List.take_of_length_le (Nat.le_of_eq hlen)
  rw [hslice]
  exact toAddress_eq_ok.mpr ⟨by rw [hlen], hdec⟩

end AddressString

end CrossRWA
