/-
  Conservation of the cross-chain supply — the bridge refines the escrow.

  1. `Refines` reads a world as an `Escrow.State`: the tokens' supplies are what is held, a chain's
     transfers are what its channel sent, and the other chain's mints are what it received.
  2. `Refines.step`: every permitted step of the world is a step of the escrow or none.  A
     transfer is a `send` because its id is fresh; a mint is a `receive` because it is backed and
     its id was not minted before.
  3. The escrow's books then say what the world's do.  `inFlight_eq` turns the escrow's pending
     messages into the world's: transfers whose receipt on the other chain is not executed.
-/
import CrossRWA.Provenance
import CrossRWA.Lib.OnceChannel

namespace CrossRWA

variable {Path : Type} {keccak256 : Bytes → Bytes32} {d : Deployment Path} {gmp : Path → Uint8}
  {s : Side} {c' : Chain} {w : World} {a : Action Path} {admin : Transaction Path → Prop}

theorem Side.sum_eq (f : Side → Nat) : ∑ s, f s = f .opt + f .arb :=
  Finset.sum_pair (by decide)

/-! ## The abstraction -/

/-- A transfer as a message of the escrow: its id, and its amount. -/
def Transfer.entry (t : Transfer) : Bytes32 × Nat := (t.message.messageId, t.tokenAmount.toNat)

/-- A mint as the message it received. -/
def Mint.entry (k : Mint) : Bytes32 × Nat := (k.glacisData.messageId, k.tokenAmount.toNat)

/-- What one chain's token issued. -/
def Chain.issued (c : Chain) : Nat := if c.token.isSome then ether else 0

/-- The escrow a world implements. -/
structure Refines (w : World) (A : Escrow.State Side Bytes32 Nat) : Prop where
  supply : ∀ s, A.supply s = (w s).supply
  sent : ∀ s, (A.chan s).sent = (w s).sends.map Transfer.entry
  received : ∀ s, (A.chan s).received = (w s.other).mints.map Mint.entry
  issued : A.issued = ∑ s, (w s).issued

/-- The escrow of a world with no token yet. -/
def Escrow.none : Escrow.State Side Bytes32 Nat where
  supply := fun _ => 0
  chan := fun _ => OnceChannel.empty
  issued := 0

theorem Refines.initial (router : Side → GlacisRouter) (now : Side → Nat) :
    Refines (World.initial router now) Escrow.none where
  supply := fun _ => rfl
  sent := fun _ => rfl
  received := fun _ => rfl
  issued := rfl

/-! ## The simulation -/

theorem update_apply_other (w : World) (s : Side) (c' : Chain) :
    Function.update w s c' s.other = w s.other := Function.update_of_ne s.other_ne _ _

theorem issued_eq_add (w : World) (s : Side) :
    ∑ s', (w s').issued = (w s).issued + (w s.other).issued := by
  rw [Side.sum_eq]
  cases s
  · rfl
  · exact Nat.add_comm _ _

/-- A step on the chain `s` changes the escrow's view of `s` only. -/
theorem Refines.of_update {A A' : Escrow.State Side Bytes32 Nat} (h : Refines w A)
    (hsupply : A'.supply s = c'.supply)
    (hother : A'.supply s.other = A.supply s.other)
    (hsent : (A'.chan s).sent = c'.sends.map Transfer.entry)
    (hsent' : (A'.chan s.other).sent = (A.chan s.other).sent)
    (hrec : (A'.chan s.other).received = c'.mints.map Mint.entry)
    (hrec' : (A'.chan s).received = (A.chan s).received)
    (hissued : A'.issued = c'.issued + (w s.other).issued) :
    Refines (Function.update w s c') A' where
  supply := by
    intro s'
    rcases s.eq_or_eq_other s' with rfl | rfl
    · rw [Function.update_self, hsupply]
    · rw [update_apply_other, hother, h.supply]
  sent := by
    intro s'
    rcases s.eq_or_eq_other s' with rfl | rfl
    · rw [Function.update_self, hsent]
    · rw [update_apply_other, hsent', h.sent]
  received := by
    intro s'
    rcases s.eq_or_eq_other s' with rfl | rfl
    · rw [update_apply_other, hrec', h.received]
    · rw [Side.other_other, Function.update_self, hrec]
  issued := by
    rw [hissued, issued_eq_add _ s, Function.update_self, update_apply_other]

/-- **The bridge refines the escrow**, one step at a time. -/
theorem Refines.step {A : Escrow.State Side Bytes32 Nat} (h : Refines w A)
    (hmoves : Moves (w s) c') (hB : Books keccak256 d s c')
    (hback : Backed d gmp (· ≠ 0) (Function.update w s c')) (hgmp : ∀ p, gmp p ≠ 0)
    (hfree : CollisionFree keccak256 c'.hashed) :
    ∃ A', Relation.ReflTransGen (Escrow.Step Side.other id) A A' ∧
      Refines (Function.update w s c') A' := by
  have hissued := h.issued.trans (issued_eq_add w s)
  have hsupply := h.supply s
  have hsent := h.sent s
  have hrec := h.received s.other
  rw [Side.other_other] at hrec
  have hkeep : c'.token.isSome = (w s).token.isSome → c'.issued = (w s).issued := by
    intro hsome; rw [Chain.issued, Chain.issued, hsome]
  cases hmoves with
  | idle hsup hsome hsends hmints =>
    refine ⟨A, .refl, h.of_update ?_ rfl ?_ rfl ?_ rfl ?_⟩
    · rw [hsup, hsupply]
    · rw [hsends, hsent]
    · rw [hmints, hrec]
    · rw [hissued, hkeep hsome]
  | issue hnone hsup hsome hsends hmints =>
    have hzero : A.supply s = 0 := by rw [hsupply, Chain.supply, hnone]
    refine ⟨_, .single (.issue A s ether), h.of_update ?_ ?_ ?_ rfl ?_ rfl ?_⟩
    · show Function.update A.supply s (A.supply s + ether) s = _
      rw [Function.update_self, hzero, hsup, Nat.zero_add]
    · exact Function.update_of_ne s.other_ne _ _
    · rw [hsends, ← hsent]
    · rw [hmints, ← hrec]
    · have hold : (w s).issued = 0 := by rw [Chain.issued, hnone]; rfl
      have hnew : c'.issued = ether := by rw [Chain.issued, hsome]; rfl
      show A.issued + ether = _
      omega
  | send t hle _ hsup hsome hsends hmints =>
    -- the id is fresh: the chain's transfers have distinct ids after the step
    have hids := hB.transfers.ids_nodup hB.outbox hfree
    have hfresh : t.entry.1 ∉ (A.chan s).sent.map Prod.fst := by
      rw [hsends, List.map_append, List.map_singleton] at hids
      rw [hsent, List.map_map]
      intro hin
      exact (List.nodup_append.mp hids).2.2 _ hin _ (List.mem_singleton_self _) rfl
    have hchan : Function.update A.chan s ((A.chan s).send t.entry hfresh) s.other
        = A.chan s.other := Function.update_of_ne s.other_ne _ _
    refine ⟨_, .single (.send A s t.entry hfresh (by rw [hsupply]; exact hle)),
      h.of_update ?_ ?_ ?_ ?_ ?_ ?_ ?_⟩ <;> dsimp only
    · rw [Function.update_self, hsupply, hsup]; rfl
    · exact Function.update_of_ne s.other_ne _ _
    · rw [Function.update_self, hsends, List.map_append, ← hsent]; rfl
    · rw [hchan]
    · rw [hchan, hmints, ← hrec]
    · rw [Function.update_self]; rfl
    · rw [hissued, hkeep hsome]
  | mint k hsup hsome hsends hcredited =>
    have hmints := hcredited.mints
    have hk : k ∈ c'.mints := by rw [hmints]; exact List.mem_append_right _ (List.mem_singleton_self k)
    -- it was sent: the mint is backed by a transfer of the other chain
    have hin : k.entry ∈ (A.chan s.other).sent := by
      obtain ⟨p, hp⟩ := hB.inbox.mediators k hk
      obtain ⟨t, ht, _, hbacks⟩ :=
        hback s k (by rw [Function.update_self]; exact hk) p hp (hgmp p)
      rw [update_apply_other] at ht
      rw [h.sent, List.mem_map]
      refine ⟨t, ht, ?_⟩
      rw [Transfer.entry, Mint.entry, hbacks.messageId, hbacks.tokenAmount]
    -- it was not received: the chain's mints have distinct ids after the step
    have hids := hB.inbox.mints_nodup
    have hfresh : k.entry.1 ∉ (A.chan s.other).received.map Prod.fst := by
      rw [hmints, List.map_append, List.map_singleton] at hids
      rw [hrec, List.map_map]
      intro hin
      exact (List.nodup_append.mp hids).2.2 _ hin _ (List.mem_singleton_self _) rfl
    have hchan : Function.update A.chan s.other ((A.chan s.other).receive k.entry hin hfresh) s
        = A.chan s := Function.update_of_ne (Ne.symm s.other_ne) _ _
    refine ⟨_, .single (.receive A s.other k.entry hin hfresh), h.of_update ?_ ?_ ?_ ?_ ?_ ?_ ?_⟩ <;>
      dsimp only
    · rw [Side.other_other, Function.update_self, hsupply, hsup]; rfl
    · rw [Side.other_other, Function.update_of_ne s.other_ne]
    · rw [hchan, hsends, ← hsent]
    · rw [Function.update_self]; rfl
    · rw [Function.update_self, hmints, List.map_append, ← hrec]; rfl
    · rw [hchan]
    · rw [hissued, hkeep hsome]

/-! ## What is in flight -/

/-- What is burnt on the chain `s` and not executed on the other. -/
def World.pending (w : World) (s : Side) : List Transfer :=
  (w s).sends.filter fun t =>
    !((w s.other).router.messageReceipts t.message.messageId).executed

def World.inFlight (w : World) : Nat :=
  ((w.pending .opt ++ w.pending .arb).map fun t => t.tokenAmount.toNat).sum

/-- **A transfer's message is executed exactly when it is minted.** -/
theorem executed_iff_minted (hB : ∀ s', Books keccak256 d s' (w s'))
    (hC : CounterpartsOnly d s (w s)) (hfree : NoCollision keccak256 w) {t : Transfer}
    (ht : t ∈ (w s).sends) :
    ((w s.other).router.messageReceipts t.message.messageId).executed = true ↔
      ∃ k ∈ (w s.other).mints, k.glacisData.messageId = t.message.messageId := by
  constructor
  · intro hex
    have hpos := (hB s.other).inbox.executed_pos _ hex
    rw [(hB s.other).inbox.received] at hpos
    obtain ⟨e, he⟩ := List.exists_mem_of_length_pos hpos
    obtain ⟨hmem, hid⟩ := Chain.mem_deliveriesOf.mp he
    -- the id names the client: the transfer's counterpart
    have hsend : t.message ∈ (w s).routed :=
      (hB s).transfers.sublist.subset (List.mem_map_of_mem ht)
    obtain ⟨_, _, hto, _⟩ := messageId_inj hfree
      (List.Subset.trans ((hB s.other).inbox.inputs e hmem) (w.hashed_subset _))
      (List.Subset.trans ((hB s).outbox.inputs _ hsend) (w.hashed_subset _))
      (((hB s.other).inbox.valid e hmem).symm.trans (hid.trans ((hB s).outbox.valid _ hsend)))
    obtain ⟨p, _, _, hdst⟩ := hC.sends t ht
    have hclient : toAddress e.glacisData.originalTo = d.mediator s.other p := by
      rw [hto, hdst, toAddress_toBytes32]
    have hset := (hB s.other).inbox.settled e hmem ⟨p, hclient⟩
    rw [hid] at hset
    exact hset.minted
  · rintro ⟨k, hk, hid⟩
    rw [← hid]
    exact (hB s.other).inbox.executed_of_mint hk

/-- The escrow's pending weight of a chain is the world's. -/
theorem pending_weight {A : Escrow.State Side Bytes32 Nat} (h : Refines w A)
    (hB : ∀ s', Books keccak256 d s' (w s')) (hC : CounterpartsOnly d s (w s))
    (hfree : NoCollision keccak256 w) :
    OnceChannel.weight id (A.chan s).pending
      = ((w.pending s).map fun t => t.tokenAmount.toNat).sum := by
  rw [OnceChannel.weight, OnceChannel.pending, h.sent, h.received, List.filter_map, List.map_map,
    World.pending]
  congr 1
  -- the two filters agree on the transfers
  have hfilter : (w s).sends.filter ((fun e => decide (e.1 ∉
        ((w s.other).mints.map Mint.entry).map Prod.fst)) ∘ Transfer.entry)
      = (w s).sends.filter fun t =>
        !((w s.other).router.messageReceipts t.message.messageId).executed := by
    refine List.filter_congr fun t ht => ?_
    have hiff := executed_iff_minted hB hC hfree ht
    have hkeys : t.entry.1 ∈ ((w s.other).mints.map Mint.entry).map Prod.fst ↔
        ∃ k ∈ (w s.other).mints, k.glacisData.messageId = t.message.messageId := by
      rw [List.map_map, List.mem_map]; rfl
    cases hex : ((w s.other).router.messageReceipts t.message.messageId).executed with
    | true => simp only [Function.comp, decide_eq_false_iff_not, Bool.not_true, not_not]
              exact hkeys.mpr (hiff.mp hex)
    | false =>
      have hnot : ¬ t.entry.1 ∈ ((w s.other).mints.map Mint.entry).map Prod.fst := by
        intro hin
        exact absurd (hiff.mpr (hkeys.mp hin)) (by rw [hex]; decide)
      simpa only [Function.comp, Bool.not_false, decide_eq_true_eq] using hnot
  rw [hfilter]
  rfl

theorem inFlight_eq {A : Escrow.State Side Bytes32 Nat} (h : Refines w A)
    (hB : ∀ s, Books keccak256 d s (w s)) (hC : ∀ s, CounterpartsOnly d s (w s))
    (hfree : NoCollision keccak256 w) : Escrow.inFlight id A = w.inFlight := by
  rw [Escrow.inFlight, Side.sum_eq, pending_weight h hB (hC _) hfree,
    pending_weight h hB (hC _) hfree, World.inFlight, List.map_append, List.sum_append]

/-! ## Conservation -/

section Run

variable {delivers : Deliveries} {router : Side → GlacisRouter} {now : Side → Nat}
  {l : List (Action Path)}

/-- **Every run of a wired bridge with honest adapters is a run of the escrow.** -/
theorem refines_of_run (hadmin : ∀ t, admin t → t.IsCall (WiringCall d (idEntry gmp)))
    (hgmp : ∀ p, (gmp p).toNat ≤ GLACIS_RESERVED_IDS) (hgmp0 : ∀ p, gmp p ≠ 0)
    (hrouters : FreshRouters router)
    (hl : Machine.Follows (World.step keccak256 d) (Permitted d admin (honestAdapters d))
      (World.initial router now) l)
    (hfree : NoCollision keccak256 ((World.initial router now).run keccak256 d l)) :
    (∀ s, Books keccak256 d s ((World.initial router now).run keccak256 d l s)) ∧
      Bridged d gmp (· ≠ 0) ((World.initial router now).run keccak256 d l) ∧
      ∃ A, Relation.ReflTransGen (Escrow.Step Side.other id) Escrow.none A ∧
        Refines ((World.initial router now).run keccak256 d l) A := by
  refine (world_of_run (I := fun w => Bridged d gmp (· ≠ 0) w ∧
      ∃ A, Relation.ReflTransGen (Escrow.Step Side.other id) Escrow.none A ∧ Refines w A)
    ?_ hl (hrouters.books now) ⟨Bridged.initial _ _, _, .refl, Refines.initial _ _⟩ hfree).2
  rintro w s a c' hs hP hfree' hB hB' ⟨hbridge, A, hrun, hA⟩
  have hbridge' := hbridge.step hs hP hadmin hB hgmp hfree'
  have hc' := hfree'.chain s
  have hBs := hB' s
  rw [Function.update_self] at hc' hBs
  obtain ⟨A', hrun', hA'⟩ := hA.step (hs.moves hP (fun t ht => (hadmin t ht).mono
    fun _ _ hc => Or.inl hc) (hbridge.tokens s) (hB s).deployed).2 hBs
    hbridge'.backed hgmp0 hc'
  exact ⟨hbridge', A', hrun.trans hrun', hA'⟩

/-- A world that refines a reachable escrow holds, with what is in flight, what was issued. -/
theorem Refines.conserved {A : Escrow.State Side Bytes32 Nat} (hA : Refines w A)
    (hrun : Relation.ReflTransGen (Escrow.Step Side.other id) Escrow.none A)
    (hB : ∀ s, Books keccak256 d s (w s)) (hC : ∀ s, CounterpartsOnly d s (w s))
    (hfree : NoCollision keccak256 w) :
    (w .opt).supply + (w .arb).supply + w.inFlight = (w .opt).issued + (w .arb).issued := by
  have hstart : Escrow.Balanced id Escrow.none := rfl
  have hbooks := (Escrow.balanced_of_run hrun hstart).conservation
  rw [inFlight_eq hA hB hC hfree, hA.issued, Side.sum_eq, Side.sum_eq, hA.supply, hA.supply] at hbooks
  exact hbooks

end Run

/-- **Supply conservation.**  In every state the scripts' wiring, accounts and honest adapters can
    reach with both tokens deployed, the two supplies and what is in flight add up to what the two
    constructors minted. -/
theorem supply_conserved {n : Nat} (keccak256 : Bytes → Bytes32) (d : Deployment (CrossRWA.Path n))
    {router : Side → GlacisRouter} {now : Side → Nat} {l : List (Action (CrossRWA.Path n))}
    (hrouters : FreshRouters router)
    (hl : Machine.Follows (World.step keccak256 d) (Permitted d (scripted d) (honestAdapters d))
      (World.initial router now) l)
    (hfree : NoCollision keccak256 ((World.initial router now).run keccak256 d l))
    (htokens : ∀ s, ((World.initial router now).run keccak256 d l s).token.isSome = true) :
    ((World.initial router now).run keccak256 d l .opt).supply +
        ((World.initial router now).run keccak256 d l .arb).supply +
        ((World.initial router now).run keccak256 d l).inFlight = 2 * ether := by
  obtain ⟨hB, hbridge, A, hrun, hA⟩ := refines_of_run (scripted_wires d) CrossRWA.Path.gmpId_le
    CrossRWA.Path.gmpId_ne_zero hrouters hl hfree
  rw [hA.conserved hrun hB hbridge.counterparts hfree, Chain.issued, Chain.issued, if_pos (htokens _),
    if_pos (htokens _)]
  rfl

/-- The script and its first delivery: what `opt` minted is no longer in flight. -/
theorem supply_conserved_delivered :
    ((World.initial Sample.routers Sample.clock).run Sample.keccak Sample.recorded
      (Sample.script ++ [Sample.deliver 42161 Sample.firstMessage Sample.payload]) .opt).supply +
    ((World.initial Sample.routers Sample.clock).run Sample.keccak Sample.recorded
      (Sample.script ++ [Sample.deliver 42161 Sample.firstMessage Sample.payload]) .arb).supply +
    ((World.initial Sample.routers Sample.clock).run Sample.keccak Sample.recorded
      (Sample.script ++ [Sample.deliver 42161 Sample.firstMessage Sample.payload])).inFlight
      = 2 * ether :=
  supply_conserved Sample.keccak Sample.recorded Sample.routers_fresh
    (Sample.delivered_follows _ fun _ => Sample.first_honest) Sample.delivered_noCollision
    (by decide +kernel)

end CrossRWA
