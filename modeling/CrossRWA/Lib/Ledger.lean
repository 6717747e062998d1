/-
  Balance maps over a finite set of accounts — how single writes move the total.

  A ledger is a function `b : α → ℕ`; its total is `∑ a, b a`.  Everything a token does to it is
  one or two writes, so two facts suffice: what one write does to the total
  (`sum_update_add`), and that no account holds more than the total (`le_sum`).
-/
import Mathlib.Algebra.BigOperators.Group.Finset.Basic
import Mathlib.Algebra.Order.BigOperators.Group.Finset
import Mathlib.Data.Fintype.BigOperators

set_option linter.unusedSectionVars false

namespace Ledger

variable {α : Type} [Fintype α] [DecidableEq α]

/-- One write replaces one summand. -/
theorem sum_update_add (b : α → ℕ) (a : α) (v : ℕ) :
    (∑ x, Function.update b a v x) + b a = (∑ x, b x) + v := by
  rw [Finset.sum_update_of_mem (Finset.mem_univ a), Finset.sdiff_singleton_eq_erase,
    ← Finset.add_sum_erase Finset.univ b (Finset.mem_univ a)]
  omega

/-- No account holds more than the total. -/
theorem le_sum (b : α → ℕ) (a : α) : b a ≤ ∑ x, b x :=
  Finset.single_le_sum (fun _ _ => Nat.zero_le _) (Finset.mem_univ a)

/-- Two accounts together hold at most the total. -/
theorem add_le_sum (b : α → ℕ) {a a' : α} (h : a ≠ a') : b a + b a' ≤ ∑ x, b x := by
  rw [← Finset.sum_pair h]
  exact Finset.sum_le_sum_of_subset (Finset.subset_univ _)

/-- Moving `v` from one account to another keeps the total. -/
theorem sum_transfer (b : α → ℕ) (a a' : α) {v : ℕ} (hv : v ≤ b a) :
    ∑ x, Function.update (Function.update b a (b a - v)) a'
      (Function.update b a (b a - v) a' + v) x = ∑ x, b x := by
  have h1 := sum_update_add b a (b a - v)
  have h2 := sum_update_add (Function.update b a (b a - v)) a'
    (Function.update b a (b a - v) a' + v)
  omega

end Ledger
