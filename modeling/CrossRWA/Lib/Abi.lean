/-
  Contract-ABI words and dynamic byte strings — a small codec with its round trips.

  The ABI lays an argument list out as a HEAD of 32-byte big-endian words followed by the
  tails of the dynamic arguments; a dynamic argument's head word is the offset of its tail,
  and a `bytes` tail is a length word, the data and zero padding up to a whole word.

  * `encodeWord`, `encodeWords` write words, `wordAt` reads one back (`wordAt_encodeWords`);
  * `encodeBytesTail` writes a `bytes` tail, `decodeBytes` follows an offset word and reads it
    back (`decodeBytes_encode`) with the bounds checks of the ABI decoder;
  * `encodeWords_inj`: word lists of one length are determined by their encoding, which is
    what makes the hash of an encoded tuple commit to every component.

  Nothing here names a contract.
-/
import Mathlib.Data.List.Basic
import Mathlib.Tactic.NormNum

namespace Abi

/-! ## Big-endian digits -/

/-- `n` bytes of `v`, most significant first (higher digits are cut off). -/
def natToBytes : Nat → Nat → List UInt8
  | 0, _ => []
  | n + 1, v => natToBytes n (v / 256) ++ [UInt8.ofNat (v % 256)]

/-- The number a big-endian byte string stands for. -/
def bytesToNat (l : List UInt8) : Nat := l.foldl (fun acc b => acc * 256 + b.toNat) 0

@[simp] theorem length_natToBytes (n v : Nat) : (natToBytes n v).length = n := by
  induction n generalizing v with
  | zero => rfl
  | succ n ih => simp [natToBytes, ih]

theorem bytesToNat_append_singleton (l : List UInt8) (b : UInt8) :
    bytesToNat (l ++ [b]) = bytesToNat l * 256 + b.toNat := by
  simp [bytesToNat]

theorem bytesToNat_natToBytes (n v : Nat) (h : v < 256 ^ n) :
    bytesToNat (natToBytes n v) = v := by
  induction n generalizing v with
  | zero =>
    have hv : v = 0 := by simpa using h
    rw [hv]; rfl
  | succ n ih =>
    have hdiv : v / 256 < 256 ^ n := by
      rw [Nat.div_lt_iff_lt_mul (by decide)]
      rwa [Nat.pow_succ] at h
    rw [natToBytes, bytesToNat_append_singleton, ih _ hdiv, UInt8.toNat_ofNat']
    omega

/-! ## Words -/

/-- One 32-byte big-endian word. -/
def encodeWord (w : BitVec 256) : List UInt8 := natToBytes 32 w.toNat

/-- The concatenation of the words' encodings. -/
def encodeWords (ws : List (BitVec 256)) : List UInt8 := ws.flatMap encodeWord

/-- The word at byte offset `off`. -/
def wordAt (b : List UInt8) (off : Nat) : BitVec 256 :=
  BitVec.ofNat 256 (bytesToNat ((b.drop off).take 32))

@[simp] theorem length_encodeWord (w : BitVec 256) : (encodeWord w).length = 32 :=
  length_natToBytes 32 w.toNat

@[simp] theorem encodeWords_nil : encodeWords [] = [] := rfl

@[simp] theorem encodeWords_cons (w : BitVec 256) (ws : List (BitVec 256)) :
    encodeWords (w :: ws) = encodeWord w ++ encodeWords ws := rfl

@[simp] theorem length_encodeWords (ws : List (BitVec 256)) :
    (encodeWords ws).length = 32 * ws.length := by
  induction ws with
  | nil => rfl
  | cons w ws ih => simp [ih]; omega

/-- Reading the word that starts a buffer. -/
theorem wordAt_zero_encodeWord (w : BitVec 256) (tail : List UInt8) :
    wordAt (encodeWord w ++ tail) 0 = w := by
  have htake : ((encodeWord w ++ tail).drop 0).take 32 = encodeWord w := by
    rw [List.drop_zero, List.take_append_of_le_length (by simp)]
    exact List.take_of_length_le (by simp)
  have hlt : w.toNat < 256 ^ 32 := by
    have := w.isLt
    norm_num at this ⊢
    exact this
  rw [wordAt, htake, encodeWord, bytesToNat_natToBytes 32 _ hlt, BitVec.ofNat_toNat,
    BitVec.setWidth_eq]

/-- A prefix of known length shifts the offsets of what follows it. -/
theorem wordAt_append_right (pre rest : List UInt8) (off : Nat) :
    wordAt (pre ++ rest) (pre.length + off) = wordAt rest off := by
  rw [wordAt, wordAt, List.drop_append, List.drop_of_length_le (by omega),
    Nat.add_sub_cancel_left, List.nil_append]

/-- The `i`-th word of a head is the `i`-th component. -/
theorem wordAt_encodeWords (ws : List (BitVec 256)) (tail : List UInt8) (i : Nat)
    (h : i < ws.length) : wordAt (encodeWords ws ++ tail) (32 * i) = ws[i] := by
  induction ws generalizing i with
  | nil => exact absurd h (Nat.not_lt_zero i)
  | cons w ws ih =>
    rw [encodeWords_cons, List.append_assoc]
    cases i with
    | zero => exact wordAt_zero_encodeWord w _
    | succ i =>
      have hoff : 32 * (i + 1) = (encodeWord w).length + 32 * i := by simp; omega
      rw [hoff, wordAt_append_right, ih i (by simpa using h)]
      rfl

/-- Word lists of one length are determined by their encoding. -/
theorem encodeWords_inj {ws ws' : List (BitVec 256)} (hlen : ws.length = ws'.length)
    (h : encodeWords ws = encodeWords ws') : ws = ws' := by
  apply List.ext_getElem hlen
  intro i hi hi'
  rw [← wordAt_encodeWords ws [] i hi, ← wordAt_encodeWords ws' [] i hi', h]

/-! ## Dynamic byte strings -/

/-- The largest offset or length the ABI decoder accepts, `0xffffffffffffffff`. -/
def maxLen : Nat := 2 ^ 64 - 1

/-- The tail of a `bytes` argument: length word, data, zero padding to a whole word. -/
def encodeBytesTail (p : List UInt8) : List UInt8 :=
  encodeWord (BitVec.ofNat 256 p.length) ++ p ++ List.replicate ((32 - p.length % 32) % 32) 0

/-- Read the `bytes` argument whose head word stands at byte `slot`. -/
def decodeBytes (b : List UInt8) (slot : Nat) : Option (List UInt8) :=
  let offset := (wordAt b slot).toNat
  if offset ≤ maxLen ∧ offset + 31 < b.length then
    let len := (wordAt b offset).toNat
    if len ≤ maxLen ∧ offset + 32 + len ≤ b.length then
      some ((b.drop (offset + 32)).take len)
    else none
  else none

/-- **Round trip for one dynamic argument**: a head of `ws` whose word `i` is the head's own
    length, followed by the tail, decodes to the data. -/
theorem decodeBytes_encode (ws : List (BitVec 256)) (p : List UInt8) (i : Nat)
    (hi : i < ws.length) (hoff : (ws[i]).toNat = 32 * ws.length) (hhead : 32 * ws.length ≤ maxLen)
    (hp : p.length ≤ maxLen) :
    decodeBytes (encodeWords ws ++ encodeBytesTail p) (32 * i) = some p := by
  have hlen : (BitVec.ofNat 256 p.length).toNat = p.length := by
    rw [BitVec.toNat_ofNat]
    exact Nat.mod_eq_of_lt (lt_of_le_of_lt hp (by decide))
  have hbuf : (encodeWords ws ++ encodeBytesTail p).length =
      32 * ws.length + 32 + p.length + (32 - p.length % 32) % 32 := by
    simp [encodeBytesTail]; omega
  have hword : wordAt (encodeWords ws ++ encodeBytesTail p) (32 * ws.length)
      = BitVec.ofNat 256 p.length := by
    have h := wordAt_append_right (encodeWords ws) (encodeBytesTail p) 0
    rw [length_encodeWords, Nat.add_zero] at h
    rw [h, encodeBytesTail, List.append_assoc, wordAt_zero_encodeWord]
  have hdata : ((encodeWords ws ++ encodeBytesTail p).drop (32 * ws.length + 32)).take p.length
      = p := by
    rw [List.drop_append, List.drop_of_length_le (by simp), length_encodeWords,
      Nat.add_sub_cancel_left, encodeBytesTail, List.append_assoc, List.nil_append,
      List.drop_append, List.drop_of_length_le (by simp), length_encodeWord, Nat.sub_self,
      List.drop_zero, List.nil_append, List.take_append_of_le_length (le_refl _),
      List.take_length]
  unfold decodeBytes
  simp only [wordAt_encodeWords ws _ i hi, hoff, hword, hlen, hdata]
  rw [if_pos ⟨hhead, by omega⟩, if_pos ⟨hp, by omega⟩]

end Abi
