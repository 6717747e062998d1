/-
  Any number of chains, and their runs.

  A `Network` is one relay per chain.  Its runs are calls by anyone but the zero address, in any
  order on any chains, with clients and adapters that answer as they like (`Called`).

  * `Relay.Sound` is the books of one relay, on both sides; `network_of_run` is the run rule: what
    every permitted action keeps, the books at hand, every permitted run keeps.
-/
import CrossRWA.Redundancy.Tally

set_option linter.unusedSectionVars false

namespace CrossRWA

/-! ## Chains and runs -/

/-- The chains of a network: the sites of their contracts, and their chain ids. -/
structure Topology (ι : Type) where
  site : ι → Site
  chainId : ι → Uint256
  chainId_inj : Function.Injective chainId

abbrev Network (ι : Type) := ι → Relay

/-- A call on one chain, with the behaviour of the outside contracts it meets, or some seconds. -/
inductive NetworkAction (ι : Type)
  | call (i : ι) (env : Env) (msgSender : Address) (value : Nat) (call : Call)
  | tick (i : ι) (seconds : Nat)

namespace Network

variable {ι : Type} [DecidableEq ι] (keccak256 : Bytes → Bytes32) (T : Topology ι)

def step (w : Network ι) : NetworkAction ι → Except Revert (Network ι)
  | .call i env msgSender value call => do
    let n ← (w i).exec keccak256 (T.site i) env msgSender value call
    pure (Function.update w i n)
  | .tick i seconds => do
    revertIf (uint256Max < (w i).now + seconds) (.Panic 0x11)
    pure (Function.update w i { w i with now := (w i).now + seconds })

/-- A run of actions; a reverting call changes nothing. -/
def run (w : Network ι) (l : List (NetworkAction ι)) : Network ι :=
  Machine.run (step keccak256 T) w l

/-- Nothing hashed on one chain collides with anything hashed on another, or on the same. -/
def NoCollision (w : Network ι) : Prop :=
  ∀ i j, CollisionFree keccak256 ((w i).hashed ++ (w j).hashed)

end Network

/-- Nobody calls from the zero address. -/
def NetworkAction.Called {ι : Type} : NetworkAction ι → Prop
  | .call _ _ msgSender _ _ => msgSender ≠ 0
  | .tick _ _ => True

instance {ι : Type} (a : NetworkAction ι) : Decidable a.Called :=
  match a with
  | .call _ _ msgSender _ _ => inferInstanceAs (Decidable (msgSender ≠ 0))
  | .tick _ _ => .isTrue trivial

/-- A relay before anything was sent or received. -/
structure Relay.New (chainId : Uint256) (n : Relay) : Prop where
  fresh : n.Fresh
  chainId_eq : n.router.GLACIS_CHAIN_ID = chainId
  senders : ∀ id, n.router.messageSenders id = 0
  routed : n.routed = []
  packets : n.packets = []
  placed : n.MediatorsPlaced

/-- A relay whose books are in order, on both sides. -/
structure Relay.Sound (keccak256 : Bytes → Bytes32) (chainId : Uint256) (n : Relay) : Prop where
  tally : Tally keccak256 chainId n
  outbox : Outbox keccak256 chainId n.toChain
  placed : n.MediatorsPlaced

section Runs

variable {ι : Type} [DecidableEq ι] {keccak256 : Bytes → Bytes32} {T : Topology ι}
  {w w' : Network ι} {n n' : Relay} {i : ι} {chainId : Uint256}

theorem Relay.New.sound (h : n.New chainId) : n.Sound keccak256 chainId where
  tally := Tally.initial h.fresh
  outbox :=
    { chainId_eq := h.chainId_eq
      nonce_lt := by rw [h.routed]; exact fun _ hm => absurd hm List.not_mem_nil
      nonce_nodup := by rw [h.routed]; exact List.nodup_nil
      valid := by rw [h.routed]; exact fun _ hm => absurd hm List.not_mem_nil
      inputs := by rw [h.routed]; exact fun _ hm => absurd hm List.not_mem_nil
      senders := fun id hid => absurd (h.senders id) hid
      packets := by rw [h.packets]; exact fun _ hpk => absurd hpk List.not_mem_nil }
  placed := h.placed

/-- What one action does to the chain it happens on. -/
inductive RelayStep (keccak256 : Bytes → Bytes32) (site : Site) (i : ι) (n : Relay) :
    NetworkAction ι → Relay → Prop
  | call {env : Env} {msgSender : Address} {value : Nat} {call : Call} {n' : Relay}
      (h : n.exec keccak256 site env msgSender value call = .ok n') :
      RelayStep keccak256 site i n (.call i env msgSender value call) n'
  | tick {seconds : Nat} (hnow : n.now + seconds ≤ uint256Max) :
      RelayStep keccak256 site i n (.tick i seconds) { n with now := n.now + seconds }

/-- **The inversion of a step**: it happens on one chain. -/
theorem Network.step_cases {a : NetworkAction ι} (h : w.step keccak256 T a = .ok w') :
    ∃ i n', RelayStep keccak256 (T.site i) i (w i) a n' ∧ w' = Function.update w i n' := by
  cases a with
  | call i env msgSender value call =>
    simp only [Network.step, bind_eq_ok, pure_eq_ok] at h
    obtain ⟨n', hn', rfl⟩ := h
    exact ⟨i, n', .call hn', rfl⟩
  | tick i seconds =>
    simp only [Network.step, bind_eq_ok, pure_eq_ok, revertIf_eq_ok] at h
    obtain ⟨_, hnow, rfl⟩ := h
    exact ⟨i, _, .tick (by omega), rfl⟩

theorem RelayStep.hashed_subset {site : Site} {a : NetworkAction ι}
    (h : RelayStep keccak256 site i n a n') : n.hashed ⊆ n'.hashed := by
  cases h with
  | call hexec => exact (exec_effect (Relay.exec_eq_ok.mp hexec).1).hashed_subset
  | tick _ => exact List.Subset.refl _

theorem RelayStep.routed_subset {site : Site} {a : NetworkAction ι}
    (h : RelayStep keccak256 site i n a n') : n.routed ⊆ n'.routed := by
  cases h with
  | call hexec => exact (exec_effect (Relay.exec_eq_ok.mp hexec).1).routed_subset
  | tick _ => exact List.Subset.refl _

/-- What no chain loses in a step stays on every chain. -/
theorem Network.update_subset {A : Type} (f : Relay → List A) (h : f (w i) ⊆ f n') (j : ι) :
    f (w j) ⊆ f (Function.update w i n' j) := by
  by_cases heq : j = i
  · subst heq; rw [Function.update_self]; exact h
  · rw [Function.update_of_ne heq]; exact List.Subset.refl _

theorem Network.NoCollision.of_step {a : NetworkAction ι} (h : w.step keccak256 T a = .ok w')
    (hw' : w'.NoCollision keccak256) : w.NoCollision keccak256 := by
  obtain ⟨i, n', hs, rfl⟩ := Network.step_cases h
  intro j k
  have hsub := Network.update_subset (w := w) (fun n => n.hashed) hs.hashed_subset
  refine (hw' j k).mono (List.append_subset.mpr ⟨?_, ?_⟩)
  · exact List.Subset.trans (hsub j) (List.subset_append_left _ _)
  · exact List.Subset.trans (hsub k) (List.subset_append_right _ _)

theorem Network.NoCollision.chain (h : w.NoCollision keccak256) (i : ι) :
    CollisionFree keccak256 (w i).hashed := (h i i).mono (List.subset_append_left _ _)

/-- **One action keeps the books.** -/
theorem Relay.Sound.step (h : n.Sound keccak256 chainId) {site : Site} {a : NetworkAction ι}
    (hs : RelayStep keccak256 site i n a n') (ha : a.Called)
    (hfree : CollisionFree keccak256 n'.hashed) : n'.Sound keccak256 chainId := by
  cases hs with
  | call hexec =>
    have heffect := exec_effect (Relay.exec_eq_ok.mp hexec).1
    exact ⟨h.tally.receives h.outbox.chainId_eq (Relay.exec_receives hexec),
      h.outbox.effect h.placed ha heffect hfree, h.placed.effect heffect⟩
  | tick _ =>
    exact ⟨h.tally.quiet ⟨rfl, rfl, rfl, rfl, List.Subset.refl _⟩ rfl,
      h.outbox.frame ⟨rfl, rfl, rfl, rfl, rfl, rfl, List.Subset.refl _⟩, h.placed⟩

theorem Network.forall_update {I : ι → Relay → Prop} (h : ∀ j, I j (w j)) (hnew : I i n') :
    ∀ j, I j (Function.update w i n' j) := by
  intro j
  by_cases heq : j = i
  · subst heq; rw [Function.update_self]; exact hnew
  · rw [Function.update_of_ne heq]; exact h j

/-- **The run rule of networks.**  An invariant that every permitted step keeps, with the books of
    all chains at hand before and after it, holds after every permitted run. -/
theorem network_of_run {I : Network ι → Prop} {P : Network ι → NetworkAction ι → Prop}
    (hcalled : ∀ w a, P w a → a.Called)
    (hstep : ∀ (w : Network ι) i a n', RelayStep keccak256 (T.site i) i (w i) a n' → P w a →
      Network.NoCollision keccak256 (Function.update w i n') →
      (∀ j, (w j).Sound keccak256 (T.chainId j)) →
      (∀ j, Relay.Sound keccak256 (T.chainId j) (Function.update w i n' j)) →
      I w → I (Function.update w i n'))
    {l : List (NetworkAction ι)} (hl : Machine.Follows (Network.step keccak256 T) P w l)
    (hsound : ∀ j, (w j).Sound keccak256 (T.chainId j)) (h0 : I w)
    (hfree : (w.run keccak256 T l).NoCollision keccak256) :
    (∀ j, (w.run keccak256 T l j).Sound keccak256 (T.chainId j)) ∧ I (w.run keccak256 T l) := by
  refine (hl.with_invariant_of_mono
    (I := fun w => (∀ j, (w j).Sound keccak256 (T.chainId j)) ∧ I w)
    (C := Network.NoCollision keccak256) (fun w a w' hok hw' => hw'.of_step hok) ?_
    ⟨hsound, h0⟩ hfree).2
  rintro w a w' hok hP hw' ⟨hB, hI⟩
  obtain ⟨i, n', hs, rfl⟩ := Network.step_cases hok
  have hn' := hw'.chain i
  rw [Function.update_self] at hn'
  have hB' := Network.forall_update (I := fun j n => n.Sound keccak256 (T.chainId j)) hB
    ((hB i).step hs (hcalled w a hP) hn')
  exact ⟨hB', hstep w i a n' hs hP hw' hB hB' hI⟩

end Runs

end CrossRWA
