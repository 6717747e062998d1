/-
  Hexadecimal digits — writing a number with a fixed number of digits, and reading it back.

  * `encode n v` writes `n` lower-case digits of `v`, most significant first; `decode` reads digits
    of either case.  `decode_encode` is the round trip.
  * `decode_pair` reads two digits at a time, as a parser of bytes does.

  Nothing here names a contract.
-/
import Mathlib.Data.List.Basic
import Mathlib.Tactic.NormNum

namespace Hex

/-! ## Digits -/

/-- The digits `0` to `9` and `a` to `f`. -/
def symbol (d : Nat) : UInt8 := UInt8.ofNat (if d < 10 then 48 + d else 87 + d)

/-- The value of a digit of either case. -/
def value (b : UInt8) : Option Nat :=
  if 48 ≤ b.toNat ∧ b.toNat ≤ 57 then some (b.toNat - 48)
  else if 65 ≤ b.toNat ∧ b.toNat ≤ 70 then some (b.toNat - 55)
  else if 97 ≤ b.toNat ∧ b.toNat ≤ 102 then some (b.toNat - 87)
  else none

/-- The lower case of an ASCII letter. -/
def lower (b : UInt8) : UInt8 :=
  if 65 ≤ b.toNat ∧ b.toNat ≤ 90 then UInt8.ofNat (b.toNat + 32) else b

theorem toNat_symbol {d : Nat} (h : d < 16) :
    (symbol d).toNat = if d < 10 then 48 + d else 87 + d := by
  unfold symbol
  rw [UInt8.toNat_ofNat']
  split <;> omega

theorem value_symbol {d : Nat} (h : d < 16) : value (symbol d) = some d := by
  unfold value
  rw [toNat_symbol h]
  split <;> rename_i hd
  · rw [if_pos (by omega)]; congr 1; omega
  · rw [if_neg (by omega), if_neg (by omega), if_pos (by omega)]; congr 1; omega

/-! ## Numbers -/

/-- The number a string of digits stands for, on top of `acc`. -/
def decodeFrom (acc : Nat) : List UInt8 → Option Nat
  | [] => some acc
  | b :: s => (value b).bind fun d => decodeFrom (acc * 16 + d) s

/-- The number a string of digits stands for. -/
def decode (s : List UInt8) : Option Nat := decodeFrom 0 s

/-- `n` digits of `v`, most significant first (higher digits are cut off). -/
def encode : Nat → Nat → List UInt8
  | 0, _ => []
  | n + 1, v => encode n (v / 16) ++ [symbol (v % 16)]

@[simp] theorem length_encode (n v : Nat) : (encode n v).length = n := by
  induction n generalizing v with
  | zero => rfl
  | succ n ih => simp [encode, ih]

theorem decodeFrom_append (acc : Nat) (s t : List UInt8) :
    decodeFrom acc (s ++ t) = (decodeFrom acc s).bind fun a => decodeFrom a t := by
  induction s generalizing acc with
  | nil => rfl
  | cons b s ih =>
    show (value b).bind _ = ((value b).bind _).bind _
    cases value b with
    | none => rfl
    | some d => exact ih _

/-- **The round trip.** -/
theorem decode_encode {n v : Nat} (h : v < 16 ^ n) : decode (encode n v) = some v := by
  induction n generalizing v with
  | zero =>
    have hv : v = 0 := by simpa using h
    rw [hv]; rfl
  | succ n ih =>
    have hdiv : v / 16 < 16 ^ n := by
      rw [Nat.div_lt_iff_lt_mul (by decide)]
      rwa [Nat.pow_succ] at h
    have hhigh : decodeFrom 0 (encode n (v / 16)) = some (v / 16) := ih hdiv
    rw [encode, decode, decodeFrom_append, hhigh]
    show (value (symbol (v % 16))).bind _ = _
    rw [value_symbol (Nat.mod_lt _ (by decide))]
    show some (v / 16 * 16 + v % 16) = some v
    rw [Nat.div_add_mod' v 16]

/-- Digits do not lose value. -/
theorem le_decodeFrom {acc v : Nat} {s : List UInt8} (h : decodeFrom acc s = some v) :
    acc ≤ v := by
  induction s generalizing acc with
  | nil => exact le_of_eq (Option.some.inj h)
  | cons b s ih =>
    change (value b).bind _ = _ at h
    obtain ⟨d, _, hrest⟩ := Option.bind_eq_some_iff.mp h
    have := ih hrest
    omega

/-- Two digits are one byte. -/
theorem decodeFrom_pair (acc : Nat) (b b' : UInt8) (s : List UInt8) :
    decodeFrom acc (b :: b' :: s) =
      (value b).bind fun d => (value b').bind fun d' => decodeFrom (acc * 256 + (d * 16 + d')) s := by
  show (value b).bind _ = _
  cases value b with
  | none => rfl
  | some d =>
    show (value b').bind _ = (value b').bind _
    cases value b' with
    | none => rfl
    | some d' =>
      show decodeFrom ((acc * 16 + d) * 16 + d') s = decodeFrom (acc * 256 + (d * 16 + d')) s
      congr 1
      omega

end Hex
