/-
  A numbered inbox with a lazy checkpoint.

  Messages are confirmed in any order, each in the slot of its number, and taken in any order,
  but a message is taken only if nothing below it is missing.  The inbox does not keep the end of
  its gapless part; it keeps a `checkpoint` somewhere at or below it, and moves it when a message
  is taken.

  1. `LazyInbox`: the checkpoint and the slots.  A number is `Settled` if the checkpoint has
     passed it or its slot is full, and `Dead` if the checkpoint has passed it and its slot is
     empty.  `Frontier n`: the gapless part ends at `n`, where the settled numbers have their
     first hole (`frontier_iff`).
  2. `Step b ev b'`: what may be done to an inbox — `put`, `take`, `skip` and `drop`, each with its
     guard.  The step lemmas say what an event does to the slots, the settled and the dead.
  3. `History log b`: the events that led to `b`, newest first.  The log says it all:
       - `History.slot_eq`     : a slot holds what its last event left;
       - `History.settled_iff` : settled is what was put or skipped;
       - `History.final`       : nothing happens to a number that was taken, skipped or dropped;
       - `History.taken`       : what is taken was put last, and nothing below it was missing.
-/
import Mathlib.Logic.Function.Basic
import Mathlib.Data.List.Basic

/-- The slots of a numbered inbox, and the number up to which nothing is missing. -/
@[ext] structure LazyInbox (H : Type) where
  checkpoint : Nat
  slot : Nat → Option H

namespace LazyInbox

variable {H : Type}

/-- Nothing yet. -/
def empty : LazyInbox H := ⟨0, fun _ => none⟩

/-- Passed, and empty. -/
def Dead (b : LazyInbox H) (n : Nat) : Prop := n ≤ b.checkpoint ∧ b.slot n = none

/-- Passed, or confirmed. -/
def Settled (b : LazyInbox H) (n : Nat) : Prop := n ≤ b.checkpoint ∨ b.slot n ≠ none

/-- Nothing is missing between the checkpoint and `n`. -/
def Gapless (b : LazyInbox H) (n : Nat) : Prop :=
  ∀ m, b.checkpoint < m → m ≤ n → b.slot m ≠ none

/-- Where the gapless part ends. -/
structure Frontier (b : LazyInbox H) (n : Nat) : Prop where
  le : b.checkpoint ≤ n
  gapless : b.Gapless n
  next : b.slot (n + 1) = none

/-- Confirm `x` under `n`, or replace what is there. -/
def put (b : LazyInbox H) (n : Nat) (x : H) : LazyInbox H :=
  { b with slot := Function.update b.slot n (some x) }

/-- Take what is under `n`, and move the checkpoint to it. -/
def take (b : LazyInbox H) (n : Nat) : LazyInbox H :=
  ⟨max b.checkpoint n, Function.update b.slot n none⟩

/-- Move the checkpoint past the end of the gapless part. -/
def skip (b : LazyInbox H) (n : Nat) : LazyInbox H := { b with checkpoint := n + 1 }

/-- Empty a slot that the checkpoint has passed. -/
def drop (b : LazyInbox H) (n : Nat) : LazyInbox H :=
  { b with slot := Function.update b.slot n none }

variable {b b' : LazyInbox H} {n m : Nat}

/-! ## The frontier -/

/-- Where nothing is missing, everything is settled. -/
theorem Gapless.settled (h : b.Gapless n) (hm : m ≤ n) : b.Settled m := by
  rcases Nat.lt_or_ge b.checkpoint m with hlt | hle
  · exact Or.inr (h m hlt hm)
  · exact Or.inl hle

/-- **Where the frontier is**: all is settled up to it, and the next number is not. -/
theorem frontier_iff : b.Frontier n ↔ (∀ m, m ≤ n → b.Settled m) ∧ ¬ b.Settled (n + 1) := by
  constructor
  · refine fun h => ⟨fun m hm => h.gapless.settled hm, ?_⟩
    rintro (hle | hslot)
    · exact absurd h.le (Nat.not_le.mpr hle)
    · exact hslot h.next
  · rintro ⟨hall, hnext⟩
    refine ⟨?_, fun m hm hmn => (hall m hmn).resolve_left (Nat.not_le.mpr hm), ?_⟩
    · by_contra hlt
      exact hnext (Or.inl (Nat.succ_le_of_lt (Nat.lt_of_not_le hlt)))
    · by_contra hslot
      exact hnext (Or.inr hslot)

/-! ## Steps -/

/-- What is done to an inbox. -/
inductive Event (H : Type)
  | put (n : Nat) (x : H)
  | take (n : Nat) (x : H)
  | skip (n : Nat)
  | drop (n : Nat)

namespace Event

def number : Event H → Nat
  | put n _ | take n _ | skip n | drop n => n

/-- What is in the slot afterwards. -/
def leaves : Event H → Option H
  | put _ x => some x
  | take _ _ | skip _ | drop _ => none

/-- The event settles its number. -/
def Confirms : Event H → Prop
  | put _ _ | skip _ => True
  | take _ _ | drop _ => False

end Event

/-- Each event, with its guard. -/
inductive Step (b : LazyInbox H) : Event H → LazyInbox H → Prop
  | put {n : Nat} {x : H} (hn : ¬ b.Dead n) : Step b (.put n x) (b.put n x)
  | take {n : Nat} {x : H} (hgap : b.Gapless n) (hx : b.slot n = some x) :
      Step b (.take n x) (b.take n)
  | skip {n : Nat} (hn : b.Frontier n) : Step b (.skip (n + 1)) (b.skip n)
  | drop {n : Nat} (hn : n ≤ b.checkpoint) (hx : b.slot n ≠ none) : Step b (.drop n) (b.drop n)

variable {ev : Event H}

/-- The checkpoint never moves back. -/
theorem Step.checkpoint_le (h : Step b ev b') : b.checkpoint ≤ b'.checkpoint := by
  cases h with
  | put _ => exact Nat.le_refl _
  | take _ _ => exact Nat.le_max_left _ _
  | skip hn => exact Nat.le_succ_of_le hn.le
  | drop _ _ => exact Nat.le_refl _

/-- An event writes its slot only. -/
theorem Step.slot_eq (h : Step b ev b') (m : Nat) :
    b'.slot m = if m = ev.number then ev.leaves else b.slot m := by
  cases h with
  | put _ => exact Function.update_apply ..
  | take _ _ => exact Function.update_apply ..
  | @skip n hn =>
    show b.slot m = if m = n + 1 then none else b.slot m
    split
    · next hm => rw [hm, hn.next]
    · rfl
  | drop _ _ => exact Function.update_apply ..

/-- **Nothing happens to a dead number.** -/
theorem Step.live (h : Step b ev b') : ¬ b.Dead ev.number := by
  cases h with
  | put hn => exact hn
  | take _ hx => exact fun hd => Option.some_ne_none _ (hx.symm.trans hd.2)
  | skip hn => exact fun hd => absurd hd.1 (Nat.not_le.mpr (Nat.lt_succ_of_le hn.le))
  | drop _ hx => exact fun hd => hx hd.2

/-- What is taken was there. -/
theorem Step.slot_of_take {x : H} (h : Step b (.take n x) b') : b.slot n = some x := by
  cases h with
  | take _ hx => exact hx

/-- **What is dead stays dead.** -/
theorem Step.dead (h : Step b ev b') (hm : b.Dead m) : b'.Dead m := by
  refine ⟨Nat.le_trans hm.1 h.checkpoint_le, ?_⟩
  rw [h.slot_eq, if_neg]
  · exact hm.2
  · rintro rfl
    exact h.live hm

/-- **An event that leaves nothing kills its number.** -/
theorem Step.kills (h : Step b ev b') (hev : ev.leaves = none) : b'.Dead ev.number := by
  refine ⟨?_, by rw [h.slot_eq, if_pos rfl, hev]⟩
  cases h with
  | put _ => cases hev
  | take _ _ => exact Nat.le_max_right _ _
  | skip _ => exact Nat.le_refl _
  | drop hn _ => exact hn

/-- **What a step settles**: the number it puts or skips, and nothing else. -/
theorem Step.settled_iff (h : Step b ev b') (m : Nat) :
    b'.Settled m ↔ ev.Confirms ∧ m = ev.number ∨ b.Settled m := by
  rw [Settled, h.slot_eq]
  cases h with
  | @put n x _ =>
    by_cases hmn : m = n
    · simp [Event.number, Event.leaves, Event.Confirms, hmn]
    · simp [Event.number, Event.Confirms, hmn, LazyInbox.put, Settled]
  | @take n x hgap hx =>
    show m ≤ max b.checkpoint n ∨ _ ↔ _
    by_cases hmn : m ≤ n
    · exact ⟨fun _ => Or.inr (hgap.settled hmn),
        fun _ => Or.inl (Nat.le_trans hmn (Nat.le_max_right _ _))⟩
    · have hmax : m ≤ max b.checkpoint n ↔ m ≤ b.checkpoint := by omega
      simp [Event.number, Event.Confirms, Nat.ne_of_gt (Nat.lt_of_not_le hmn), hmax, Settled]
  | @skip n hn =>
    show m ≤ n + 1 ∨ _ ↔ _
    by_cases hmn : m ≤ n + 1
    · refine ⟨fun _ => ?_, fun _ => Or.inl hmn⟩
      rcases Nat.eq_or_lt_of_le hmn with heq | hlt
      · exact Or.inl ⟨trivial, heq⟩
      · exact Or.inr (hn.gapless.settled (Nat.le_of_lt_succ hlt))
    · have hle : ¬ m ≤ b.checkpoint := fun h => hmn (Nat.le_trans h (Nat.le_succ_of_le hn.le))
      simp [Event.number, Nat.ne_of_gt (Nat.lt_of_not_le hmn), hmn, hle, Settled]
  | @drop n hn hx =>
    by_cases hmn : m = n
    · simp [Event.number, Event.Confirms, LazyInbox.drop, hmn, hn, Settled]
    · simp [Event.number, Event.Confirms, LazyInbox.drop, hmn, Settled]

/-! ## Histories -/

/-- The events that led to an inbox, newest first. -/
inductive History : List (Event H) → LazyInbox H → Prop
  | nil : History [] empty
  | cons {log : List (Event H)} {b b' : LazyInbox H} {ev : Event H} (h : History log b)
      (hs : b.Step ev b') : History (ev :: log) b'

/-- What the last event of a number left. -/
def standing : List (Event H) → Nat → Option H
  | [], _ => none
  | ev :: log, m => if m = ev.number then ev.leaves else standing log m

/-- The numbers that were put or skipped. -/
def Confirmed (log : List (Event H)) (m : Nat) : Prop := ∃ ev ∈ log, ev.Confirms ∧ m = ev.number

variable {log : List (Event H)}

theorem confirmed_cons :
    Confirmed (ev :: log) m ↔ ev.Confirms ∧ m = ev.number ∨ Confirmed log m := by
  simp only [Confirmed, List.mem_cons, exists_eq_or_imp]

/-- What stands was put, and no event of its number came after. -/
theorem standing_eq_some {x : H} (h : standing log n = some x) :
    ∃ later earlier, log = later ++ .put n x :: earlier ∧ ∀ ev ∈ later, ev.number ≠ n := by
  induction log with
  | nil => cases h
  | cons ev log ih =>
    rw [standing] at h
    split at h
    · next hn =>
      cases ev with
      | put k y =>
        obtain rfl := Option.some.inj h
        obtain rfl : n = k := hn
        exact ⟨[], log, rfl, fun _ hev => absurd hev List.not_mem_nil⟩
      | take k y => cases h
      | skip k => cases h
      | drop k => cases h
    · next hn =>
      obtain ⟨later, earlier, rfl, hlater⟩ := ih h
      exact ⟨ev :: later, earlier, rfl, List.forall_mem_cons.mpr ⟨fun h => hn h.symm, hlater⟩⟩

namespace History

/-- There is no message zero. -/
theorem dead_zero (h : History log b) : b.Dead 0 := by
  induction h with
  | nil => exact ⟨Nat.le_refl _, rfl⟩
  | cons _ hs ih => exact hs.dead ih

/-- **A slot holds what its last event left.** -/
theorem slot_eq (h : History log b) (m : Nat) : b.slot m = standing log m := by
  induction h with
  | nil => rfl
  | cons _ hs ih => rw [hs.slot_eq, ih, standing]

/-- **Settled is what was put or skipped**, and zero. -/
theorem settled_iff (h : History log b) (m : Nat) : b.Settled m ↔ m = 0 ∨ Confirmed log m := by
  induction h with
  | nil =>
    constructor
    · rintro (hm | hm)
      · exact Or.inl (Nat.le_zero.mp hm)
      · exact absurd rfl hm
    · rintro (rfl | ⟨_, hev, _⟩)
      · exact Or.inl (Nat.le_refl _)
      · exact absurd hev List.not_mem_nil
  | cons _ hs ih => rw [hs.settled_iff, ih, confirmed_cons, or_left_comm]

/-- **The frontier, from the log**: the first number that was neither put nor skipped is next. -/
theorem frontier_iff (h : History log b) :
    b.Frontier n ↔ (∀ m, 0 < m → m ≤ n → Confirmed log m) ∧ ¬ Confirmed log (n + 1) := by
  simp only [LazyInbox.frontier_iff, h.settled_iff, Nat.succ_ne_zero, false_or]
  refine and_congr_left fun _ => ⟨fun hall m hpos hm => ?_, fun hall m hm => ?_⟩
  · exact (hall m hm).resolve_left (Nat.ne_of_gt hpos)
  · rcases Nat.eq_zero_or_pos m with rfl | hpos
    · exact Or.inl rfl
    · exact Or.inr (hall m hpos hm)

/-- **What leaves a slot empty is final**: nothing ever happens to its number again. -/
theorem final (h : History log b) {later earlier : List (Event H)}
    (hlog : log = later ++ ev :: earlier) (hev : ev.leaves = none) :
    b.Dead ev.number ∧ ∀ ev' ∈ later, ev'.number ≠ ev.number := by
  induction h generalizing later with
  | nil => cases later <;> cases hlog
  | @cons log b b' last h hs ih =>
    cases later with
    | nil =>
      obtain ⟨rfl, rfl⟩ := List.cons.inj hlog
      exact ⟨hs.kills hev, fun _ hmem => absurd hmem List.not_mem_nil⟩
    | cons _ later =>
      obtain ⟨rfl, hrest⟩ := List.cons.inj hlog
      obtain ⟨hdead, hlater⟩ := ih hrest
      refine ⟨hs.dead hdead, List.forall_mem_cons.mpr ⟨fun heq => hs.live (heq ▸ hdead), hlater⟩⟩

/-- **What is taken** was put last, and nothing below it was missing. -/
theorem taken (h : History log b) {x : H} {later earlier : List (Event H)}
    (hlog : log = later ++ .take n x :: earlier) :
    standing earlier n = some x ∧ ∀ m, 0 < m → m ≤ n → Confirmed earlier m := by
  induction h generalizing later with
  | nil => cases later <;> cases hlog
  | @cons log b b' ev h hs ih =>
    cases later with
    | nil =>
      obtain ⟨rfl, rfl⟩ := List.cons.inj hlog
      cases hs with
      | take hgap hx =>
        refine ⟨h.slot_eq n ▸ hx, fun m hpos hm => ?_⟩
        exact ((h.settled_iff m).mp (hgap.settled hm)).resolve_left (Nat.ne_of_gt hpos)
    | cons _ later => exact ih (List.cons.inj hlog).2

end History

end LazyInbox
