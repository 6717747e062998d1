/-
  The token bucket — a rate limiter as an abstract machine, with its window bound.

  A bucket holds a level between `0` and its capacity `cap` and refills at `rate` per unit of
  time.  A withdrawal of `amt` at time `now` may take whatever the level has reached by then,
  which is bounded TWICE: by `cap`, and by the last level plus `rate * (now - last)`
  (`Withdraw`).  The relation only bounds the refill from above, so an implementation that
  rounds its refill down refines it.

  `Run.window_le` is the reason to use a bucket at all: over EVERY run of withdrawals and every
  window `[t, t + T]`, the amount withdrawn inside the window is at most `cap + rate * T`.  The
  proof is amortised: the level is the potential, and `Run.spent_until_le` says that what a
  run takes until time `u` is paid by the level it starts from plus the refill until `u`.
-/
import Mathlib.Algebra.BigOperators.Group.List.Basic
import Mathlib.Algebra.Order.BigOperators.Group.List
import Mathlib.Algebra.Order.Ring.Defs
import Mathlib.Tactic.Linarith
import Mathlib.Tactic.Ring

set_option linter.unusedSectionVars false

namespace TokenBucket

variable {K : Type} [Field K] [LinearOrder K] [IsStrictOrderedRing K]

/-- A bucket of capacity `cap`: its level when it was last used, and when that was. -/
structure Bucket (cap : K) where
  level : K
  last : K
  level_nonneg : 0 ≤ level
  level_le : level ≤ cap

/-- Taking `amt` out of `b` at time `now` may leave `b'`. -/
structure Withdraw {cap : K} (rate : K) (b b' : Bucket cap) (now amt : K) : Prop where
  last_le : b.last ≤ now
  last_eq : b'.last = now
  amt_nonneg : 0 ≤ amt
  within_cap : amt + b'.level ≤ cap
  within_refill : amt + b'.level ≤ b.level + rate * (now - b.last)

/-- A run of withdrawals, each with its time and amount. -/
inductive Run {cap : K} (rate : K) : Bucket cap → List (K × K) → Bucket cap → Prop
  | nil (b : Bucket cap) : Run rate b [] b
  | cons {b b₁ b' : Bucket cap} {now amt : K} {l : List (K × K)} :
      Withdraw rate b b₁ now amt → Run rate b₁ l b' → Run rate b ((now, amt) :: l) b'

/-- What the withdrawals of `l` with a time in `[t, u]` sum to. -/
def spent (t u : K) (l : List (K × K)) : K :=
  ((l.filter fun e => decide (t ≤ e.1 ∧ e.1 ≤ u)).map Prod.snd).sum

@[simp] theorem spent_nil (t u : K) : spent t u [] = 0 := rfl

theorem spent_cons_in {t u : K} {e : K × K} (l : List (K × K)) (h : t ≤ e.1 ∧ e.1 ≤ u) :
    spent t u (e :: l) = e.2 + spent t u l := by
  rw [spent, List.filter_cons_of_pos (by simpa using h), List.map_cons, List.sum_cons]; rfl

theorem spent_cons_out {t u : K} {e : K × K} (l : List (K × K)) (h : ¬(t ≤ e.1 ∧ e.1 ≤ u)) :
    spent t u (e :: l) = spent t u l := by
  rw [spent, List.filter_cons_of_neg (by simpa using h)]; rfl

variable {cap rate : K} {b b' : Bucket cap} {l : List (K × K)}

/-- A part of some withdrawals sums to no more than they do. -/
theorem spent_le_of_sublist {l' : List (K × K)} (h : l'.Sublist l) (hl : ∀ e ∈ l, 0 ≤ e.2) (t u : K) :
    spent t u l' ≤ spent t u l := by
  refine List.Sublist.sum_le_sum ((h.filter _).map _) ?_
  intro a ha
  obtain ⟨e, he, rfl⟩ := List.mem_map.mp ha
  exact hl e (List.mem_of_mem_filter he)

theorem Run.amt_nonneg (h : Run rate b l b') : ∀ e ∈ l, 0 ≤ e.2 := by
  induction h with
  | nil b => intro e he; exact absurd he List.not_mem_nil
  | cons hw _ ih => exact List.forall_mem_cons.mpr ⟨hw.amt_nonneg, ih⟩

/-- The times of a run never go back before its start. -/
theorem Run.last_le (h : Run rate b l b') : ∀ e ∈ l, b.last ≤ e.1 := by
  induction h with
  | nil b => intro e he; exact absurd he (List.not_mem_nil)
  | cons hw _ ih =>
    intro e he
    rcases List.mem_cons.mp he with rfl | he
    · exact hw.last_le
    · have := ih e he
      rw [hw.last_eq] at this
      exact le_trans hw.last_le this

/-- A window that closes before the run starts sees nothing. -/
theorem Run.spent_eq_zero (h : Run rate b l b') {t u : K} (hu : u < b.last) :
    spent t u l = 0 := by
  have hlast := h.last_le
  rw [spent, List.filter_eq_nil_iff.mpr, List.map_nil, List.sum_nil]
  intro e he hin
  have h1 := (of_decide_eq_true hin).2
  have h2 := hlast e he
  linarith

/-- **The potential argument.**  Everything a run takes up to time `u` is paid for by the level
    it starts from and the refill up to `u`. -/
theorem Run.spent_until_le (hrate : 0 ≤ rate) (h : Run rate b l b') (t : K) {u : K}
    (hu : b.last ≤ u) : spent t u l ≤ b.level + rate * (u - b.last) := by
  induction h with
  | nil b =>
    have h1 := b.level_nonneg
    have h2 : 0 ≤ rate * (u - b.last) := mul_nonneg hrate (by linarith)
    rw [spent_nil]; linarith
  | @cons b b₁ b' now amt l hw hrun ih =>
    have hlast := hw.last_eq
    rcases lt_or_ge u now with hlt | hge
    · -- the whole run lies after `u`
      rw [spent_cons_out l (by intro hin; exact absurd hin.2 (not_le.mpr hlt)),
        hrun.spent_eq_zero (by rw [hlast]; exact hlt)]
      have h1 := b.level_nonneg
      have h2 : 0 ≤ rate * (u - b.last) := mul_nonneg hrate (by linarith)
      linarith
    · have hrest := ih (by rw [hlast]; exact hge)
      rw [hlast] at hrest
      have hsplit : rate * (u - b.last) = rate * (now - b.last) + rate * (u - now) := by ring
      have hpay := hw.within_refill
      by_cases hin : t ≤ now ∧ now ≤ u
      · rw [spent_cons_in l hin]
        show amt + spent t u l ≤ _
        linarith
      · rw [spent_cons_out l hin]
        have := hw.amt_nonneg
        linarith

/-- **The window bound.**  No run withdraws more than `cap + rate * T` inside any window
    `[t, t + T]`. -/
theorem Run.window_le (hrate : 0 ≤ rate) (h : Run rate b l b') (t : K) {T : K} (hT : 0 ≤ T) :
    spent t (t + T) l ≤ cap + rate * T := by
  induction h with
  | nil b =>
    have h1 := b.level_nonneg
    have h2 := b.level_le
    have h3 : 0 ≤ rate * T := mul_nonneg hrate hT
    rw [spent_nil]; linarith
  | @cons b b₁ b' now amt l hw hrun ih =>
    by_cases hin : t ≤ now ∧ now ≤ t + T
    · -- the first withdrawal of the window: at most `cap` is there, the rest is refill
      have hlast := hw.last_eq
      have hrest := hrun.spent_until_le hrate t (u := t + T) (by rw [hlast]; exact hin.2)
      rw [hlast] at hrest
      have hmono : rate * (t + T - now) ≤ rate * T :=
        mul_le_mul_of_nonneg_left (by linarith [hin.1]) hrate
      have hcap := hw.within_cap
      rw [spent_cons_in l hin]
      show amt + spent t (t + T) l ≤ _
      linarith
    · rw [spent_cons_out l hin]; exact ih

/-- ... and no part of a run does. -/
theorem Run.window_le_of_sublist (hrate : 0 ≤ rate) (h : Run rate b l b') {l' : List (K × K)}
    (hl' : l'.Sublist l) (t : K) {T : K} (hT : 0 ≤ T) : spent t (t + T) l' ≤ cap + rate * T :=
  (spent_le_of_sublist hl' h.amt_nonneg t (t + T)).trans (h.window_le hrate t hT)

end TokenBucket
