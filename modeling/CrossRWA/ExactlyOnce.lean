/-
  Exactly-once redundant delivery — any adapters, any order, any number of times.

  `ExactlyOnce` says of one transfer what its message's deliveries did: the first one the other
  chain's router accepted executed and minted exactly the transfer, and nothing else ever mints
  under its id, on either chain.  That the mint noted is what the token credited is `Credited`.
  `exactly_once` proves it of every transfer of the any-bridge wiring, whoever delivers what, while
  the routers' owners register and remove adapters and the tokens' owners change limits (so that
  mints revert and succeed later).

  Nothing here trusts an adapter: the id of a transfer commits to its recipient and amount, so
  the worst an adapter can do is to deliver the transfer itself.
-/
import CrossRWA.Minted
import CrossRWA.Wiring

namespace CrossRWA

variable {Path : Type} {keccak256 : Bytes → Bytes32} {d : Deployment Path} {w : World} {s : Side}
  {t : Transfer}

/-- The mints under one id. -/
def Chain.mintsUnder (c : Chain) (id : Bytes32) : List Mint :=
  c.mints.filter fun k => decide (k.glacisData.messageId = id)

/-- What the deliveries of a transfer's message did. -/
structure ExactlyOnce (d : Deployment Path) (w : World) (s : Side) (t : Transfer) : Prop where
  /-- No mint on the transfer's own chain has its id ... -/
  not_here : (w s).mintsUnder t.message.messageId = []
  /-- ... at most one on the other has, ... -/
  at_most_one : ((w s.other).mintsUnder t.message.messageId).length ≤ 1
  /-- ... and it mints the amount to the low 160 bits of the recipient. -/
  exact : ∀ k ∈ (w s.other).mintsUnder t.message.messageId, (∃ p, k.mediator = d.mediator s.other p ∧
    t.message.sender = d.mediator s p) ∧ k.toAddress = toAddress t.to_ ∧
      k.tokenAmount = t.tokenAmount
  /-- The first delivery accepted is the one that mints, and no later one executes. -/
  first : ∀ e rest, (w s.other).deliveriesOf t.message.messageId = e :: rest →
    (∃ k ∈ (w s.other).mintsUnder t.message.messageId, k.CausedBy e) ∧
      ∀ e' ∈ rest, e'.executed = false
  /-- What was never delivered is not minted. -/
  undelivered : (w s.other).deliveriesOf t.message.messageId = [] →
    (w s.other).mintsUnder t.message.messageId = []

theorem Chain.mem_mintsUnder {c : Chain} {k : Mint} {id : Bytes32} :
    k ∈ c.mintsUnder id ↔ k ∈ c.mints ∧ k.glacisData.messageId = id := by
  rw [Chain.mintsUnder, List.mem_filter, decide_eq_true_eq]

/-! ## A transfer and the deliveries under its id -/

/-- **A delivery under a transfer's id is the transfer's message**, on the other chain. -/
theorem delivery_of_transfer (hB : ∀ s', Books keccak256 d s' (w s'))
    (hfree : NoCollision keccak256 w) (ht : t ∈ (w s).sends) {s' : Side} {e : Delivery}
    (he : e ∈ (w s').deliveries) (hid : e.glacisData.messageId = t.message.messageId) :
    t.message.toChainId = s'.chainId ∧ e.fromChainId = s.chainId ∧
      e.glacisData.originalTo = t.message.to_ ∧ e.payload = t.message.payload := by
  have hsend : t.message ∈ (w s).routed :=
    (hB s).transfers.sublist.subset (List.mem_map_of_mem ht)
  obtain ⟨hchain, hfrom, hto, hpay, _, _⟩ := messageId_inj hfree
    (List.Subset.trans ((hB s').inbox.inputs e he) (w.hashed_subset _))
    (List.Subset.trans ((hB s).outbox.inputs _ hsend) (w.hashed_subset _))
    (((hB s').inbox.valid e he).symm.trans (hid.trans ((hB s).outbox.valid _ hsend)))
  exact ⟨hchain.symm, hfrom, hto, hpay⟩

/-- **Exactly once**, for every transfer of a chain whose counterparts are the deployment's. -/
theorem exactlyOnce_of_books (hB : ∀ s', Books keccak256 d s' (w s'))
    (hC : CounterpartsOnly d s (w s)) (hfree : NoCollision keccak256 w) (ht : t ∈ (w s).sends) :
    ExactlyOnce d w s t := by
  obtain ⟨p, hsender, hchain, hdst⟩ := hC.sends t ht
  -- a mint under the id was caused by a delivery of the transfer's message
  have hcause : ∀ s', ∀ k ∈ (w s').mintsUnder t.message.messageId,
      ∃ e ∈ (w s').deliveries, k.CausedBy e ∧ e.glacisData.messageId = t.message.messageId := by
    intro s' k hk
    obtain ⟨hmem, hid⟩ := Chain.mem_mintsUnder.mp hk
    obtain ⟨e, he, hc⟩ := (hB s').inbox.caused k hmem
    exact ⟨e, he, hc, by rw [← hc.glacisData]; exact hid⟩
  refine ⟨?_, ?_, ?_, ?_, ?_⟩
  · rw [List.eq_nil_iff_forall_not_mem]
    intro k hk
    obtain ⟨e, he, _, hid⟩ := hcause s k hk
    obtain ⟨hhere, _⟩ := delivery_of_transfer hB hfree ht he hid
    exact s.chainId_ne_other (hhere.symm.trans hchain)
  · have hnodup : (((w s.other).mintsUnder t.message.messageId).map
        fun k => k.glacisData.messageId).Nodup :=
      (hB s.other).inbox.mints_nodup.sublist (List.filter_sublist.map _)
    have hconst : ((w s.other).mintsUnder t.message.messageId).map
        (fun k => k.glacisData.messageId) = List.replicate _ t.message.messageId :=
      List.eq_replicate_iff.mpr ⟨rfl, fun x hx => by
        obtain ⟨k, hk, rfl⟩ := List.mem_map.mp hx
        exact (Chain.mem_mintsUnder.mp hk).2⟩
    rw [hconst, List.nodup_replicate, List.length_map] at hnodup
    exact hnodup
  · intro k hk
    obtain ⟨e, he, hc, hid⟩ := hcause s.other k hk
    obtain ⟨_, _, hto, hpay⟩ := delivery_of_transfer hB hfree ht he hid
    obtain ⟨to_, hdecode, hrecipient⟩ := hc.payload
    rw [hpay, (hB s).transfers.payload t ht, SimpleTokenMediator.decode_packTokenPayload] at hdecode
    have hpair := Option.some.inj hdecode
    refine ⟨⟨p, ?_, hsender⟩, ?_, (congrArg Prod.snd hpair).symm⟩
    · rw [hc.mediator, hto, hdst, toAddress_toBytes32]
    · rw [hrecipient]; exact congrArg (fun x : Bytes32 × Uint256 => toAddress x.1) hpair.symm
  · intro e rest hlist
    have hmem : e ∈ (w s.other).deliveriesOf t.message.messageId := by
      rw [hlist]; exact List.mem_cons_self
    obtain ⟨he, hid⟩ := Chain.mem_deliveriesOf.mp hmem
    obtain ⟨_, _, hto, _⟩ := delivery_of_transfer hB hfree ht he hid
    have hclient : toAddress e.glacisData.originalTo = d.mediator s.other p := by
      rw [hto, hdst, toAddress_toBytes32]
    have hset := (hB s.other).inbox.settled e he ⟨p, hclient⟩
    rw [hid] at hset
    obtain ⟨n, hfirst⟩ := hset.first
    rw [hlist, List.map_cons] at hfirst
    have htail := List.tail_eq_of_cons_eq hfirst
    have hlater : ∀ e' ∈ rest, e'.executed = false := by
      intro e' he'
      have hin : e'.executed ∈ rest.map Delivery.executed := List.mem_map_of_mem he'
      rw [htail] at hin
      exact List.eq_of_mem_replicate hin
    refine ⟨?_, hlater⟩
    -- the mint's cause executed, so it is the first
    obtain ⟨k, hk, hkid⟩ := hset.minted
    have hkin := Chain.mem_mintsUnder.mpr ⟨hk, hkid⟩
    obtain ⟨e'', he'', hc, hid''⟩ := hcause s.other k hkin
    have hin := Chain.mem_deliveriesOf.mpr ⟨he'', hid''⟩
    rw [hlist] at hin
    rcases List.mem_cons.mp hin with rfl | hin
    · exact ⟨k, hkin, hc⟩
    · exact absurd (hc.executed.symm.trans (hlater e'' hin)) (by decide)
  · intro hnil
    rw [List.eq_nil_iff_forall_not_mem]
    intro k hk
    obtain ⟨e, he, _, hid⟩ := hcause s.other k hk
    have hin := Chain.mem_deliveriesOf.mpr ⟨he, hid⟩
    rw [hnil] at hin
    exact List.not_mem_nil hin

/-- No two transfers, on one chain or on both, share an id. -/
theorem transfers_ids_nodup (hB : ∀ s', Books keccak256 d s' (w s'))
    (hfree : NoCollision keccak256 w) :
    (((w .opt).sends ++ (w .arb).sends).map fun t => t.message.messageId).Nodup := by
  rw [List.map_append]
  refine List.nodup_append.mpr ⟨(hB .opt).transfers.ids_nodup (hB .opt).outbox (hfree.chain _),
    (hB .arb).transfers.ids_nodup (hB .arb).outbox (hfree.chain _), ?_⟩
  intro x hx y hy heq
  obtain ⟨t, ht, rfl⟩ := List.mem_map.mp hx
  obtain ⟨t', ht', rfl⟩ := List.mem_map.mp hy
  -- the id commits to the chain it was routed on
  have hm := (hB .opt).transfers.sublist.subset (List.mem_map_of_mem ht)
  have hm' := (hB .arb).transfers.sublist.subset (List.mem_map_of_mem ht')
  obtain ⟨hchain, _⟩ := Message.Valid.inj hfree ((hB .opt).outbox.valid _ hm)
    ((hB .arb).outbox.valid _ hm')
    (List.Subset.trans ((hB .opt).outbox.inputs _ hm) (w.hashed_subset _))
    (List.Subset.trans ((hB .arb).outbox.inputs _ hm') (w.hashed_subset _)) heq
  exact Side.chainId_ne_other .opt hchain

/-! ## The any-bridge wiring -/

/-- The administration of the any-bridge wiring: its script, the tokens it is for, and the calls of
    the tokens' and the routers' owners. -/
def anyBridgeAdmin (d : Deployment Unit) (t : Transaction Unit) : Prop :=
  t ∈ JustDeployTokenMediator.run d ∨ (∃ s, t = .deployXERC20 s) ∨
    ∃ s msgSender value call, t = .call s msgSender value call ∧ OwnerCall call

theorem anyBridgeAdmin_wires (d : Deployment Unit) : ∀ t, anyBridgeAdmin d t →
    t.IsCall fun s call => WiringCall d (fun _ => WILDCARD) s call ∨ OwnerCall call := by
  rintro t (ht | ⟨s, rfl⟩ | ⟨s, x, v, call, rfl, hcall⟩)
  · exact (justDeploy_wires d t ht).mono fun _ _ hc => Or.inl hc
  · trivial
  · exact Or.inr hcall

/-- **Exactly-once redundant delivery.**  In every run of the any-bridge wiring, with any accounts
    and adapters delivering anything in any order, adapters being registered and removed and
    mints reverting at times: no two transfers share an id, and every transfer is minted at most
    once, by the first delivery of its message that a router accepts, when the token credits the
    mint's amount to its recipient.  Mediators mint for deliveries only, and no message mints
    anything that is not noted. -/
theorem exactly_once (keccak256 : Bytes → Bytes32) (d : Deployment Unit)
    {router : Side → GlacisRouter} {now : Side → Nat} {l : List (Action Unit)}
    (hrouters : FreshRouters router)
    (hl : Machine.Follows (World.step keccak256 d) (Permitted d (anyBridgeAdmin d) anyDelivery)
      (World.initial router now) l)
    (hfree : NoCollision keccak256 ((World.initial router now).run keccak256 d l)) :
    ((((World.initial router now).run keccak256 d l .opt).sends ++
        ((World.initial router now).run keccak256 d l .arb).sends).map
          fun t => t.message.messageId).Nodup ∧
      (∀ s, ∀ t ∈ ((World.initial router now).run keccak256 d l s).sends,
        ExactlyOnce d ((World.initial router now).run keccak256 d l) s t ∧
        ∀ k ∈ ((World.initial router now).run keccak256 d l s.other).mintsUnder t.message.messageId,
          ∃ l₁ a l₂, l = l₁ ++ a :: l₂ ∧
            Credited ((World.initial router now).run keccak256 d l₁ s.other)
              ((World.initial router now).run keccak256 d (l₁ ++ [a]) s.other) k) ∧
      (∀ s, ∀ k ∈ ((World.initial router now).run keccak256 d l s).mints,
        ∃ e ∈ ((World.initial router now).run keccak256 d l s).deliveries, k.CausedBy e) ∧
      ∀ l₁ a l₂, l = l₁ ++ a :: l₂ → ∀ s,
        Accounted s a ((World.initial router now).run keccak256 d l₁ s)
          ((World.initial router now).run keccak256 d (l₁ ++ [a]) s) := by
  obtain ⟨_, hB, hC⟩ := world_of_run (I := fun w => ∀ s, CounterpartsOnly d s (w s))
    (fun _ s _ _ hs hP _ hB _ hI =>
      forall_update hI ((hI s).step (hB s).deployed hs hP (anyBridgeAdmin_wires d)))
    hl (hrouters.books now) (fun _ => CounterpartsOnly.initial _ _) hfree
  refine ⟨transfers_ids_nodup hB hfree, fun s t ht => ⟨exactlyOnce_of_books hB (hC s) hfree ht,
    fun k hk => ?_⟩, fun s => (hB s).inbox.caused, fun l₁ a _ _ s => accounted_of_run l₁ a s⟩
  exact credited_of_mem (Chain.mem_mintsUnder.mp hk).1

/-- Every action of the sample run is the wiring, an owner's call, or an account's. -/
theorem anyBridgeRun_follows : Machine.Follows (World.step Sample.keccak Sample.recordedAnyBridge)
    (Permitted Sample.recordedAnyBridge (anyBridgeAdmin Sample.recordedAnyBridge) anyDelivery)
    (World.initial Sample.routers Sample.clock) Sample.anyBridgeRun := by
  have hdeployer : ∀ s, Sample.recordedAnyBridge.Account s Sample.deployer :=
    Sample.recordedAnyBridge.deployer_account
  refine Machine.follows_of_forall ?_ _
  intro a ha w
  obtain ⟨t, ht, rfl⟩ := List.mem_map.mp ha
  simp only [List.mem_append, List.mem_cons, List.not_mem_nil, or_false] at ht
  rcases ht with ((rfl | rfl) | ht) | rfl | rfl | rfl | rfl | rfl | rfl
  · exact ⟨Sample.surroundings _ _, Or.inr (Or.inl ⟨_, rfl⟩)⟩
  · exact ⟨Sample.surroundings _ _, Or.inr (Or.inl ⟨_, rfl⟩)⟩
  · exact Permitted.of_admin (Sample.surroundings _) (Or.inl ht)
      (JustDeployTokenMediator.run_byDeployer _ t ht)
  · exact ⟨Sample.surroundings _ _, Or.inl ⟨hdeployer _, Or.inr (Or.inr ⟨_, _, _, _, rfl, rfl⟩)⟩⟩
  · exact ⟨Sample.surroundings _ _, Or.inl ⟨hdeployer _, Or.inr (Or.inr ⟨_, _, _, _, rfl, rfl⟩)⟩⟩
  · exact ⟨Sample.surroundings _ _, Or.inr ⟨hdeployer _, rfl, fun _ _ _ => trivial⟩⟩
  · exact ⟨Sample.surroundings _ _, Or.inr ⟨hdeployer _, rfl, fun _ _ _ => trivial⟩⟩
  · exact ⟨Sample.surroundings _ _,
      Or.inr ⟨Sample.anyBridge_account (by decide) _, rfl, fun _ _ _ => trivial⟩⟩
  · exact ⟨Sample.surroundings _ _,
      Or.inr ⟨Sample.anyBridge_account (by decide) _, rfl, fun _ _ _ => trivial⟩⟩

/-- One transfer, delivered by two adapters: two deliveries, one mint. -/
theorem exactly_once_redundant :
    (((World.initial Sample.routers Sample.clock).run Sample.keccak Sample.recordedAnyBridge
        Sample.anyBridgeRun .arb).sends.length = 1 ∧
      ((World.initial Sample.routers Sample.clock).run Sample.keccak Sample.recordedAnyBridge
        Sample.anyBridgeRun .opt).deliveries.length = 2 ∧
      ((World.initial Sample.routers Sample.clock).run Sample.keccak Sample.recordedAnyBridge
        Sample.anyBridgeRun .opt).mints.length = 1) ∧
    ((((World.initial Sample.routers Sample.clock).run Sample.keccak Sample.recordedAnyBridge
          Sample.anyBridgeRun .opt).sends ++
        ((World.initial Sample.routers Sample.clock).run Sample.keccak Sample.recordedAnyBridge
          Sample.anyBridgeRun .arb).sends).map fun t => t.message.messageId).Nodup ∧
      (∀ s, ∀ t ∈ ((World.initial Sample.routers Sample.clock).run Sample.keccak
          Sample.recordedAnyBridge Sample.anyBridgeRun s).sends,
        ExactlyOnce Sample.recordedAnyBridge ((World.initial Sample.routers Sample.clock).run
          Sample.keccak Sample.recordedAnyBridge Sample.anyBridgeRun) s t ∧
        ∀ k ∈ ((World.initial Sample.routers Sample.clock).run Sample.keccak
            Sample.recordedAnyBridge Sample.anyBridgeRun s.other).mintsUnder t.message.messageId,
          ∃ l₁ a l₂, Sample.anyBridgeRun = l₁ ++ a :: l₂ ∧
            Credited ((World.initial Sample.routers Sample.clock).run Sample.keccak
                Sample.recordedAnyBridge l₁ s.other)
              ((World.initial Sample.routers Sample.clock).run Sample.keccak
                Sample.recordedAnyBridge (l₁ ++ [a]) s.other) k) ∧
      (∀ s, ∀ k ∈ ((World.initial Sample.routers Sample.clock).run Sample.keccak
          Sample.recordedAnyBridge Sample.anyBridgeRun s).mints,
        ∃ e ∈ ((World.initial Sample.routers Sample.clock).run Sample.keccak
          Sample.recordedAnyBridge Sample.anyBridgeRun s).deliveries, k.CausedBy e) ∧
      ∀ l₁ a l₂, Sample.anyBridgeRun = l₁ ++ a :: l₂ → ∀ s,
        Accounted s a ((World.initial Sample.routers Sample.clock).run Sample.keccak
            Sample.recordedAnyBridge l₁ s)
          ((World.initial Sample.routers Sample.clock).run Sample.keccak Sample.recordedAnyBridge
            (l₁ ++ [a]) s) :=
  ⟨by decide +kernel, exactly_once Sample.keccak Sample.recordedAnyBridge Sample.routers_fresh
    anyBridgeRun_follows (by decide +kernel)⟩

end CrossRWA
