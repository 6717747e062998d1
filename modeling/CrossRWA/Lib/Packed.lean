/-
  Packed numbers — fixed-width big-endian fields, one after another.

  `abi.encodePacked` writes each number in its own width and nothing between two.  A field is read
  back by cutting the bytes at its offsets.

  1. `write k x` and `read w b` are the two directions for one number, inverse to each other when
     the width in bits is the width in bytes (`read_write`, `write_read`).
  2. `cut b i j` is what lies between two offsets; cuts that follow each other join (`cut_append`),
     and the cut of a field from a list of fields is that field (`cut_flatten`).
-/
import CrossRWA.Lib.Abi
import Mathlib.Algebra.BigOperators.Group.List.Lemmas

namespace Packed

/-! ## Numbers -/

/-- `k` bytes for a number of `w` bits. -/
def write {w : Nat} (k : Nat) (x : BitVec w) : List UInt8 := Abi.natToBytes k x.toNat

/-- The number of `w` bits that bytes stand for. -/
def read (w : Nat) (b : List UInt8) : BitVec w := BitVec.ofNat w (Abi.bytesToNat b)

@[simp] theorem length_write {w k : Nat} (x : BitVec w) : (write k x).length = k :=
  Abi.length_natToBytes k x.toNat

theorem pow_width (k : Nat) : 2 ^ (8 * k) = 256 ^ k := by rw [Nat.pow_mul]

theorem read_write {w k : Nat} (hw : w = 8 * k) (x : BitVec w) : read w (write k x) = x := by
  have hlt : x.toNat < 256 ^ k := by
    rw [← pow_width, ← hw]
    exact x.isLt
  rw [read, write, Abi.bytesToNat_natToBytes k _ hlt, BitVec.ofNat_toNat, BitVec.setWidth_eq]

/-- Bytes stand for a number below the power of their length. -/
theorem bytesToNat_lt (b : List UInt8) : Abi.bytesToNat b < 256 ^ b.length := by
  induction b using List.reverseRecOn with
  | nil => decide
  | append_singleton b x ih =>
    have hx := x.toNat_lt
    rw [Abi.bytesToNat_append_singleton, List.length_append, List.length_singleton, Nat.pow_succ]
    omega

theorem natToBytes_bytesToNat (b : List UInt8) :
    Abi.natToBytes b.length (Abi.bytesToNat b) = b := by
  induction b using List.reverseRecOn with
  | nil => rfl
  | append_singleton b x ih =>
    have hx : x.toNat < 256 := x.toNat_lt
    have hdiv : (Abi.bytesToNat b * 256 + x.toNat) / 256 = Abi.bytesToNat b := by omega
    have hmod : (Abi.bytesToNat b * 256 + x.toNat) % 256 = x.toNat := by omega
    rw [Abi.bytesToNat_append_singleton, List.length_append, List.length_singleton,
      Abi.natToBytes, hdiv, hmod, ih, UInt8.ofNat_toNat]

theorem write_read {w k : Nat} (hw : w = 8 * k) {b : List UInt8} (hb : b.length = k) :
    write k (read w b) = b := by
  have hlt := bytesToNat_lt b
  rw [hb, ← pow_width, ← hw] at hlt
  rw [write, read, BitVec.toNat_ofNat, Nat.mod_eq_of_lt hlt, ← hb]
  exact natToBytes_bytesToNat b

theorem write_inj {w k : Nat} (hw : w = 8 * k) {x y : BitVec w} (h : write k x = write k y) :
    x = y := by
  rw [← read_write hw x, h, read_write hw]

/-! ## Cuts -/

/-- The bytes from `i` on, below `j`. -/
def cut (b : List UInt8) (i j : Nat) : List UInt8 := (b.take j).drop i

theorem length_cut {b : List UInt8} {i j : Nat} (hj : j ≤ b.length) : (cut b i j).length = j - i := by
  rw [cut, List.length_drop, List.length_take, Nat.min_eq_left hj]

/-- A cut joins what comes before it. -/
theorem take_append_cut (b : List UInt8) {i j : Nat} (hij : i ≤ j) :
    b.take i ++ cut b i j = b.take j := by
  rw [cut, List.drop_take, ← List.take_add, Nat.add_sub_cancel' hij]

/-- **The cut of one field** of a list of fields, at the offsets their lengths give. -/
theorem cut_flatten {fields : List (List UInt8)} {lengths : List Nat}
    (hlengths : fields.map List.length = lengths) {i : Nat} (hi : i < fields.length) :
    cut fields.flatten (lengths.take i).sum (lengths.take (i + 1)).sum = fields[i] := by
  subst hlengths
  exact List.drop_take_succ_flatten_eq_getElem fields i hi

end Packed
