/-
  Ballots — deciding once enough different voters agree.

  `Ballot q V` holds the voters so far and whether the ballot is decided.  Its FIELDS say what a
  quorum is for: nobody votes twice, and the ballot is decided exactly when `q` voters, at least
  one, have voted.  The only way to extend one is `vote`, which decides at the `q`-th vote.

  `List.Nodup.exists_notMem_of_length_lt` is the reason to ask for a quorum at all: where fewer than
  `q` voters are faulty, one of the `q` is not.
-/
import Mathlib.Data.List.Perm.Subperm
import Mathlib.Data.List.Nodup

/-- A list without repetition that is longer than another has an entry the other lacks. -/
theorem List.Nodup.exists_notMem_of_length_lt {V : Type} {l faulty : List V} (hl : l.Nodup)
    (hlt : faulty.length < l.length) : ∃ v ∈ l, v ∉ faulty := by
  by_contra hall
  push Not at hall
  have hle := (hl.subperm hall).length_le
  omega

/-- A ballot that `q` different voters decide. -/
structure Ballot (q : ℕ) (V : Type) where
  voters : List V
  decided : Bool
  voters_nodup : voters.Nodup
  decided_iff : decided = true ↔ 0 < q ∧ q ≤ voters.length

namespace Ballot

variable {q : ℕ} {V : Type}

/-- Nobody has voted. -/
def empty : Ballot q V where
  voters := []
  decided := false
  voters_nodup := List.nodup_nil
  decided_iff := by
    constructor
    · intro h; cases h
    · rintro ⟨hpos, hle⟩
      rw [List.length_nil] at hle
      omega

/-- One more vote; the `q`-th decides. -/
def vote (b : Ballot q V) (v : V) (hv : v ∉ b.voters) : Ballot q V where
  voters := b.voters ++ [v]
  decided := b.decided || decide (b.voters.length + 1 = q)
  voters_nodup := by
    refine List.nodup_append.mpr ⟨b.voters_nodup, List.nodup_singleton v, ?_⟩
    intro x hx y hy
    rw [List.mem_singleton.mp hy]
    rintro rfl
    exact hv hx
  decided_iff := by
    have hlen : (b.voters ++ [v]).length = b.voters.length + 1 := by simp
    rw [hlen, Bool.or_eq_true, decide_eq_true_eq, b.decided_iff]
    omega

end Ballot
