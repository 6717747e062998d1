/-
  Exactly-once channels and the burn-and-mint escrow they carry — the abstract layer.

  1. `OnceChannel K V`: a log of sent messages and a log of received ones, both keyed, whose
     FIELDS say what exactly-once means: no key is sent twice, no key is received twice, and
     whatever is received was sent.  The only ways to extend one are `send` (a fresh key) and
     `receive` (a sent key not yet received), so an invalid channel cannot be built.
       - `sum_sent`: for any weight, `sent = received + pending`.

  2. `exists_injection`: two logs inject into each other when keys are distinct on one side and
     every key of it has its counterpart on the other.

  3. `Escrow`: sites with a supply each, and one channel out of each site.  Sending burns the
     weight at the source, receiving mints it at the destination.  `Escrow.conservation`: over
     every run, what is held plus what is in flight is what was issued.

  A concrete bridge refines the escrow when each of its steps is one of the escrow's (or none).
-/
import CrossRWA.Lib.Ledger
import Mathlib.Algebra.Ring.Nat
import Mathlib.Data.List.Nodup
import Mathlib.Logic.Relation

set_option linter.unusedSectionVars false

/-! ## Channels -/

/-- A keyed channel that delivers each message at most once. -/
structure OnceChannel (K V : Type) where
  sent : List (K × V)
  received : List (K × V)
  /-- No key is sent twice ... -/
  sent_keys : (sent.map Prod.fst).Nodup
  /-- ... or received twice, ... -/
  received_keys : (received.map Prod.fst).Nodup
  /-- ... and what is received was sent. -/
  received_sent : ∀ e ∈ received, e ∈ sent

namespace OnceChannel

variable {K V : Type} [DecidableEq K]

/-- Nothing sent, nothing received. -/
def empty : OnceChannel K V where
  sent := []
  received := []
  sent_keys := List.nodup_nil
  received_keys := List.nodup_nil
  received_sent := fun _ he => he

/-- Appending a fresh key keeps the keys of a log distinct. -/
theorem nodup_keys_append {l : List (K × V)} {e : K × V} (hl : (l.map Prod.fst).Nodup)
    (he : e.1 ∉ l.map Prod.fst) : ((l ++ [e]).map Prod.fst).Nodup := by
  rw [List.map_append, List.map_singleton]
  refine List.nodup_append.mpr ⟨hl, List.nodup_singleton _, ?_⟩
  intro a ha b hb
  rw [List.mem_singleton] at hb
  rintro rfl
  exact he (hb ▸ ha)

/-- Send a message under a fresh key. -/
def send (c : OnceChannel K V) (e : K × V) (he : e.1 ∉ c.sent.map Prod.fst) :
    OnceChannel K V where
  sent := c.sent ++ [e]
  received := c.received
  sent_keys := nodup_keys_append c.sent_keys he
  received_keys := c.received_keys
  received_sent := fun x hx => List.mem_append_left _ (c.received_sent x hx)

/-- Receive a sent message whose key was not received yet. -/
def receive (c : OnceChannel K V) (e : K × V) (hs : e ∈ c.sent)
    (hr : e.1 ∉ c.received.map Prod.fst) : OnceChannel K V where
  sent := c.sent
  received := c.received ++ [e]
  sent_keys := c.sent_keys
  received_keys := nodup_keys_append c.received_keys hr
  received_sent := by
    intro x hx
    rcases List.mem_append.mp hx with hx | hx
    · exact c.received_sent x hx
    · rw [List.mem_singleton.mp hx]; exact hs

/-- The messages in flight. -/
def pending (c : OnceChannel K V) : List (K × V) :=
  c.sent.filter fun e => decide (e.1 ∉ c.received.map Prod.fst)

theorem mem_pending {c : OnceChannel K V} {e : K × V} :
    e ∈ c.pending ↔ e ∈ c.sent ∧ e.1 ∉ c.received.map Prod.fst := by
  rw [pending, List.mem_filter, decide_eq_true_eq]

/-- A key that was not sent is not pending, and was not received. -/
theorem not_received {c : OnceChannel K V} {k : K} (hk : k ∉ c.sent.map Prod.fst) :
    k ∉ c.received.map Prod.fst := by
  intro hmem
  obtain ⟨e, he, rfl⟩ := List.mem_map.mp hmem
  exact hk (List.mem_map_of_mem (c.received_sent e he))

theorem mem_pending_send {c : OnceChannel K V} {e x : K × V} (hx : x.1 ∉ c.sent.map Prod.fst) :
    e ∈ (c.send x hx).pending ↔ e ∈ c.pending ∨ e = x := by
  rw [mem_pending, mem_pending]
  show e ∈ c.sent ++ [x] ∧ e.1 ∉ c.received.map Prod.fst ↔ _
  rw [List.mem_append, List.mem_singleton]
  constructor
  · rintro ⟨he | rfl, hr⟩
    · exact Or.inl ⟨he, hr⟩
    · exact Or.inr rfl
  · rintro (⟨he, hr⟩ | rfl)
    · exact ⟨Or.inl he, hr⟩
    · exact ⟨Or.inr rfl, not_received hx⟩

theorem mem_pending_receive {c : OnceChannel K V} {e x : K × V} (hs : x ∈ c.sent)
    (hr : x.1 ∉ c.received.map Prod.fst) :
    e ∈ (c.receive x hs hr).pending ↔ e ∈ c.pending ∧ e.1 ≠ x.1 := by
  rw [mem_pending, mem_pending]
  show e ∈ c.sent ∧ e.1 ∉ (c.received ++ [x]).map Prod.fst ↔ _
  rw [List.map_append, List.mem_append, not_or, List.map_singleton, List.mem_singleton, and_assoc]

/-- Two entries of one log with one key are one entry. -/
theorem eq_of_key_eq {l : List (K × V)} (hl : (l.map Prod.fst).Nodup) {e e' : K × V}
    (he : e ∈ l) (he' : e' ∈ l) (hk : e.1 = e'.1) : e = e' :=
  List.inj_on_of_nodup_map hl he he' hk

/-- The sent messages are the received ones and the pending ones, up to order. -/
theorem sent_perm (c : OnceChannel K V) : c.sent.Perm (c.received ++ c.pending) := by
  have hs : c.sent.Nodup := List.Nodup.of_map _ c.sent_keys
  have hr : c.received.Nodup := List.Nodup.of_map _ c.received_keys
  have hdisj : c.received.Disjoint c.pending := by
    intro e her hep
    have hnot := of_decide_eq_true (List.mem_filter.mp hep).2
    exact hnot (List.mem_map_of_mem her)
  refine (List.perm_ext_iff_of_nodup hs ((hr.append (hs.filter _) hdisj))).mpr ?_
  intro e
  rw [List.mem_append]
  constructor
  · intro he
    by_cases hk : e.1 ∈ c.received.map Prod.fst
    · obtain ⟨e', he', hkey⟩ := List.mem_map.mp hk
      left
      rw [← eq_of_key_eq c.sent_keys (c.received_sent e' he') he hkey]
      exact he'
    · right
      exact List.mem_filter.mpr ⟨he, decide_eq_true hk⟩
  · rintro (he | he)
    · exact c.received_sent e he
    · exact (List.mem_filter.mp he).1

/-- The total weight of a log. -/
def weight (g : V → ℕ) (l : List (K × V)) : ℕ := (l.map fun e => g e.2).sum

/-- **Sent is received plus pending**, for every weight. -/
theorem sum_sent (c : OnceChannel K V) (g : V → ℕ) :
    weight g c.sent = weight g c.received + weight g c.pending := by
  rw [weight, (c.sent_perm.map _).sum_eq, List.map_append, List.sum_append]; rfl

theorem weight_append (g : V → ℕ) (l : List (K × V)) (e : K × V) :
    weight g (l ++ [e]) = weight g l + g e.2 := by
  simp [weight]

end OnceChannel

/-! ## Logs without a channel -/

/-- **Received injects into sent**, when no key is received twice and every received message has
    a sent one of its key it agrees with. -/
theorem exists_injection {α β K : Type} {sent : List α} {received : List β} (ka : α → K)
    {kb : β → K} (agree : β → α → Prop) (hkeys : (received.map kb).Nodup)
    (h : ∀ b ∈ received, ∃ a ∈ sent, ka a = kb b ∧ agree b a) :
    ∃ f : Fin received.length → Fin sent.length,
      Function.Injective f ∧ ∀ i, agree received[i] sent[f i] := by
  have hmem : ∀ i : Fin received.length, ∃ j : Fin sent.length,
      ka sent[j] = kb received[i] ∧ agree received[i] sent[j] := by
    intro i
    obtain ⟨a, ha, hkey, hagree⟩ := h received[i] (List.getElem_mem i.isLt)
    obtain ⟨j, hj, rfl⟩ := List.getElem_of_mem ha
    exact ⟨⟨j, hj⟩, hkey, hagree⟩
  choose f hf using hmem
  refine ⟨f, fun i j hij => ?_, fun i => (hf i).2⟩
  -- one image is one key, and keys are distinct
  have hkey : kb received[i] = kb received[j] := by rw [← (hf i).1, ← (hf j).1, hij]
  have hi : i.1 < (received.map kb).length := by rw [List.length_map]; exact i.isLt
  have hj : j.1 < (received.map kb).length := by rw [List.length_map]; exact j.isLt
  have hget : (received.map kb)[i.1] = (received.map kb)[j.1] := by
    rw [List.getElem_map, List.getElem_map]; exact hkey
  exact Fin.ext (hkeys.getElem_inj_iff.mp hget)

/-! ## The escrow -/

namespace Escrow

variable {ι K V : Type} [Fintype ι] [DecidableEq ι] [DecidableEq K]

/-- What each site holds, the channel out of each site, and what was issued so far. -/
structure State (ι K V : Type) where
  supply : ι → ℕ
  chan : ι → OnceChannel K V
  issued : ℕ

/-- The escrow's steps, for a destination of every site and a weight of every message. -/
inductive Step (dst : ι → ι) (g : V → ℕ) : State ι K V → State ι K V → Prop
  /-- New supply appears at a site. -/
  | issue (A : State ι K V) (i : ι) (n : ℕ) :
      Step dst g A ⟨Function.update A.supply i (A.supply i + n), A.chan, A.issued + n⟩
  /-- A site burns the weight of a message and sends it. -/
  | send (A : State ι K V) (i : ι) (e : K × V) (he : e.1 ∉ (A.chan i).sent.map Prod.fst)
      (hg : g e.2 ≤ A.supply i) :
      Step dst g A ⟨Function.update A.supply i (A.supply i - g e.2),
        Function.update A.chan i ((A.chan i).send e he), A.issued⟩
  /-- The destination receives a message in flight and mints its weight. -/
  | receive (A : State ι K V) (i : ι) (e : K × V) (hs : e ∈ (A.chan i).sent)
      (hr : e.1 ∉ (A.chan i).received.map Prod.fst) :
      Step dst g A ⟨Function.update A.supply (dst i) (A.supply (dst i) + g e.2),
        Function.update A.chan i ((A.chan i).receive e hs hr), A.issued⟩

/-- What is in flight, over all channels. -/
def inFlight (g : V → ℕ) (A : State ι K V) : ℕ :=
  ∑ i, OnceChannel.weight g (A.chan i).pending

/-- The books of an escrow: held plus sent is issued plus received. -/
def Balanced (g : V → ℕ) (A : State ι K V) : Prop :=
  ∑ i, A.supply i + ∑ i, OnceChannel.weight g (A.chan i).sent
    = A.issued + ∑ i, OnceChannel.weight g (A.chan i).received

/-- One channel's write, seen from a sum of weights. -/
theorem sum_weight_update (f : OnceChannel K V → ℕ) (b : ι → OnceChannel K V) (a : ι)
    (c : OnceChannel K V) :
    (∑ x, f (Function.update b a c x)) + f (b a) = (∑ x, f (b x)) + f c := by
  have h : (fun x => f (Function.update b a c x)) = Function.update (fun x => f (b x)) a (f c) := by
    funext x
    by_cases hx : x = a
    · subst hx; simp
    · simp [hx]
  rw [h]
  exact Ledger.sum_update_add (fun x => f (b x)) a (f c)

/-- Every step keeps the books. -/
theorem Step.balanced {dst : ι → ι} {g : V → ℕ} {A A' : State ι K V} (h : Step dst g A A')
    (hA : Balanced g A) : Balanced g A' := by
  unfold Balanced at hA ⊢
  cases h with
  | issue i n =>
    have h1 := Ledger.sum_update_add A.supply i (A.supply i + n)
    dsimp only at h1 ⊢
    omega
  | send i e he hg =>
    have h1 := Ledger.sum_update_add A.supply i (A.supply i - g e.2)
    have h2 := sum_weight_update (fun c => OnceChannel.weight g c.sent) A.chan i
      ((A.chan i).send e he)
    have h3 := sum_weight_update (fun c => OnceChannel.weight g c.received) A.chan i
      ((A.chan i).send e he)
    simp only [OnceChannel.send, OnceChannel.weight_append] at h1 h2 h3 ⊢
    omega
  | receive i e hs hr =>
    have h1 := Ledger.sum_update_add A.supply (dst i) (A.supply (dst i) + g e.2)
    have h2 := sum_weight_update (fun c => OnceChannel.weight g c.sent) A.chan i
      ((A.chan i).receive e hs hr)
    have h3 := sum_weight_update (fun c => OnceChannel.weight g c.received) A.chan i
      ((A.chan i).receive e hs hr)
    simp only [OnceChannel.receive, OnceChannel.weight_append] at h1 h2 h3 ⊢
    omega

/-- **Conservation.**  In a balanced escrow, what is held plus what is in flight is what was
    issued. -/
theorem Balanced.conservation {g : V → ℕ} {A : State ι K V} (hA : Balanced g A) :
    ∑ i, A.supply i + inFlight g A = A.issued := by
  have hsplit : ∑ i, OnceChannel.weight g (A.chan i).sent
      = ∑ i, OnceChannel.weight g (A.chan i).received + inFlight g A := by
    rw [inFlight, ← Finset.sum_add_distrib]
    exact Finset.sum_congr rfl fun i _ => (A.chan i).sum_sent g
  unfold Balanced at hA
  omega

/-- Conservation along runs: from a balanced escrow every reachable one is balanced. -/
theorem balanced_of_run {dst : ι → ι} {g : V → ℕ} {A A' : State ι K V}
    (h : Relation.ReflTransGen (Step dst g) A A') (hA : Balanced g A) : Balanced g A' := by
  induction h with
  | refl => exact hA
  | tail _ hstep ih => exact hstep.balanced ih

end Escrow
