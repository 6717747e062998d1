/-
  Calls that may fail, for any type of errors.

  A call is a value of `Except E`.  The lemmas take a successful call apart: a sequence succeeds
  when its parts do, a guard when its condition fails.
-/
import Mathlib.Init

namespace Calls

variable {E F A B : Type}

/-- A sequence succeeds when its first call and its rest do. -/
theorem seq_eq_ok {x : Except E A} {f : A → Except E B} {b : B} :
    (x >>= f) = .ok b ↔ ∃ a, x = .ok a ∧ f a = .ok b := by
  cases x with
  | error e => simp [bind, Except.bind]
  | ok a => simp [bind, Except.bind]

theorem ok_seq {a : A} {f : A → Except E B} : (Except.ok a >>= f) = f a := rfl

theorem error_seq {e : E} {f : A → Except E B} : (Except.error e >>= f) = .error e := rfl

theorem ret_eq_ok {a b : A} : (pure a : Except E A) = .ok b ↔ a = b := by
  simp [pure, Except.pure]

/-- Fail with `e` if `c`. -/
def refuseIf (c : Prop) [Decidable c] (e : E) : Except E Unit :=
  if c then .error e else .ok ()

@[simp] theorem refuseIf_eq_ok {c : Prop} [Decidable c] {e : E} {u : Unit} :
    refuseIf c e = .ok u ↔ ¬c := by
  unfold refuseIf
  split <;> simp [*]

theorem refuseIf_of {c : Prop} [Decidable c] (h : c) (e : E) : refuseIf c e = .error e := if_pos h

/-- An optional result as a call. -/
def orRefuse (o : Option A) (e : E) : Except E A :=
  match o with
  | some a => .ok a
  | none => .error e

@[simp] theorem orRefuse_eq_ok {o : Option A} {e : E} {a : A} :
    orRefuse o e = .ok a ↔ o = some a := by
  cases o <;> simp [orRefuse]

/-- A call under another type of errors. -/
def relabel (f : E → F) : Except E A → Except F A
  | .ok a => .ok a
  | .error e => .error (f e)

@[simp] theorem relabel_eq_ok {f : E → F} {x : Except E A} {a : A} :
    relabel f x = .ok a ↔ x = .ok a := by
  cases x with
  | error e => simp [relabel]
  | ok a => simp [relabel]

end Calls
