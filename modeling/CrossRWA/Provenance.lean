/-
  Where a mint comes from — across the two chains.

  1. `ChainStep.mint_cases`: a step mints nothing, or it is a router delivery whose record explains
     the mint (`MintStep`).
  2. `MintStep.accepted`: the route of a wired mediator admits only a message from its path's other
     mediator, and only through the adapter registered under its path's GMP id.  The adapter is
     found by id, not by address: no account has a reserved id as its address.
  3. `Honest.transfer`: a message of the other mediator that an honest adapter delivered IS one of
     that mediator's transfers.  The wire format fixes the message's head, and its id — hashed on
     both chains — fixes the payload.
  4. `Backed`: with these, every mint of a trusted path has its transfer on the other chain.
-/
import CrossRWA.TokenSide

namespace CrossRWA

variable {Path : Type} {keccak256 : Bytes → Bytes32} {d : Deployment Path} {gmp : Path → Uint8}
  {s : Side} {c c' : Chain} {w : World} {a : Action Path} {admin : Transaction Path → Prop}
  {delivers : Deliveries}

/-! ## The step that mints -/

/-- A delivery that executed a mediator, and its mint. -/
structure MintStep (keccak256 : Bytes → Bytes32) (c : Chain) (env : Env) (msgSender : Address)
    (fromChainId : Uint256) (glacisPayload : Bytes) (R : GlacisRouter.Received) (k : Mint) :
    Prop where
  received : c.router.receiveMessage keccak256 (c.clientAt env) msgSender fromChainId glacisPayload
    = .ok R
  deployed : ∃ m, c.mediators k.mediator = some m
  caused : k.CausedBy (deliveryOf msgSender fromChainId R)

/-- **Only a delivery mints**: neither a retry nor a call of the mediator does. -/
theorem ChainStep.mint_cases (hs : ChainStep keccak256 d s c a c')
    (hP : Permitted d admin delivers w a) (hB : Books keccak256 d s c)
    (hfree : CollisionFree keccak256 c'.hashed) :
    c'.mints = c.mints ∨ ∃ env msgSender value fromChainId glacisPayload R k,
      a = .transact env (.call s msgSender value (.receiveMessage fromChainId glacisPayload)) ∧
      MintStep keccak256 c env msgSender fromChainId glacisPayload R k ∧
      c'.mints = c.mints ++ [k] ∧ c'.hashed =
        c.hashed ++ (deliveryOf msgSender fromChainId R).inputs keccak256 s.chainId := by
  cases hs with
  | deployXERC20 _ _ => exact Or.inl rfl
  | deployMediator _ _ => exact Or.inl rfl
  | tick _ => exact Or.inl rfl
  | @call env msgSender value _ _ he =>
    obtain ⟨hsur, hacc⟩ := hP.account
    cases he with
    | token _ _ => exact Or.inl rfl
    | mediator _ _ => exact Or.inl rfl
    | router _ => exact Or.inl rfl
    | route _ => exact Or.inl rfl
    | sendCrossChain _ _ _ _ _ _ _ => exact Or.inl rfl
    | routeRetry _ => exact Or.inl rfl
    | sendCrossChainRetry _ _ => exact Or.inl rfl
    | mediatorReceiveMessage hm hr _ _ _ _ =>
      exact absurd hr (hB.deployed.ne_router hacc _ _ hm)
    | retryReceiveMessage hR hexec =>
      -- quorum 1 leaves nothing to retry
      obtain ⟨rfl, _⟩ := hB.inbox.retryReceiveMessage hB.outbox.chainId_eq
        (fun a m hm => ⟨(hB.deployed a m hm).1, (hB.deployed a m hm).2.2⟩) hR hexec hfree
      exact Or.inl rfl
    | @receiveMessage fromChainId glacisPayload R _ hR hskip hexec =>
      cases hex : R.executed with
      | false => rw [hskip hex]; exact Or.inl rfl
      | true =>
        cases hexec hex with
        | external _ => exact Or.inl rfl
        | @mint m t t' to_ tokenAmount hm _ hpayload _ _ _ =>
          have hstep : MintStep keccak256 c env msgSender fromChainId glacisPayload R
              ⟨toAddress R.glacisData.originalTo, R.glacisData, fromChainId, toAddress to_,
                tokenAmount⟩ :=
            ⟨hR, ⟨m, hm⟩, ⟨rfl, rfl, hex, rfl, to_, hpayload, rfl⟩⟩
          refine Or.inr ⟨env, msgSender, value, fromChainId, glacisPayload, R, _, rfl, hstep, rfl, ?_⟩
          show c.hashed ++ Chain.hashes keccak256 c.router.GLACIS_CHAIN_ID _ _ _ = _
          rw [hB.outbox.chainId_eq]
          rfl

/-- Transfers are never forgotten. -/
theorem ChainStep.sends_subset (hs : ChainStep keccak256 d s c a c') : c.sends ⊆ c'.sends := by
  rcases hs.sends_cases with heq | ⟨t, m, heq, _⟩
  · rw [heq]; exact List.Subset.refl _
  · rw [heq]; exact List.subset_append_left _ _

/-! ## Access control -/

theorem toNat_idEntry (p : Path) : (idEntry gmp p).toNat = (gmp p).toNat := by
  rw [idEntry, BitVec.toNat_setWidth]
  exact Nat.mod_eq_of_lt (lt_of_lt_of_le (gmp p).isLt (by decide))

theorem setWidth_inj {x y : Uint8} (h : x.setWidth 160 = y.setWidth 160) : x = y := by
  have hback := congrArg (BitVec.setWidth 8) h
  rwa [BitVec.setWidth_setWidth_of_le _ (by decide), BitVec.setWidth_setWidth_of_le _ (by decide),
    BitVec.setWidth_eq, BitVec.setWidth_eq] at hback

/-- **What a mediator's route admits.** -/
theorem MintStep.accepted {env : Env} {msgSender : Address} {fromChainId : Uint256}
    {glacisPayload : Bytes} {R : GlacisRouter.Received} {k : Mint}
    (h : MintStep keccak256 c env msgSender fromChainId glacisPayload R k)
    (hroutes : RoutesOnly d (idEntry gmp) s c) (hacc : d.Account s msgSender)
    (hgmp : ∀ p, (gmp p).toNat ≤ GLACIS_RESERVED_IDS) {p : Path} (hk : k.mediator = d.mediator s p) :
    k.glacisData.originalFrom = toBytes32 (d.mediator s.other p) ∧
      c.router.registry.adapterToGlacisGMPId msgSender = gmp p ∧ gmp p ≠ 0 := by
  obtain ⟨_, hallowed, _⟩ := GlacisRouter.receiveMessage_spec h.received
  obtain ⟨m, hm⟩ := h.deployed
  have hclient : c.clientAt env (toAddress R.glacisData.originalTo) = m.client := by
    rw [← show k.mediator = toAddress R.glacisData.originalTo from h.caused.mediator]
    simp only [Chain.clientAt, hm]
  have hdata : k.glacisData = R.glacisData := h.caused.glacisData
  rw [hk] at hm
  have honly := hroutes p m hm
  have hsrc : toBytes32 (d.mediator s.other p) ≠ WILD_BYTES :=
    fun heq => (d.mediator_ordinary s.other p).2 (toBytes32_inj heq)
  have hwild : idEntry gmp p ≠ WILD_ADDR := by
    intro heq
    have hnat := congrArg BitVec.toNat heq
    rw [toNat_idEntry] at hnat
    have := hgmp p
    rw [hnat] at this
    exact absurd this (by decide)
  rw [hclient] at hallowed
  rw [hdata]
  rcases GlacisRouter._routeAllowed_spec hallowed with hown | ⟨hne, hid⟩
  · -- the sender's own address is no reserved id
    obtain ⟨_, heq | ⟨hw, _⟩⟩ := honly.of_isAllowedRoute hsrc (Except.ok.inj hown)
    · have hnat := congrArg BitVec.toNat heq
      change msgSender.toNat = _ at hnat
      rw [toNat_idEntry] at hnat
      have h1 := hgmp p
      have h2 := hacc.ordinary.1
      omega
    · exact absurd hw hwild
  · obtain ⟨hfrom, heq | ⟨hw, _⟩⟩ := honly.of_isAllowedRoute hsrc (Except.ok.inj hid)
    · have hgmpId := setWidth_inj heq
      exact ⟨hfrom, hgmpId, hgmpId ▸ hne⟩
    · exact absurd hw hwild

/-! ## Authenticity -/

/-- A transfer and the mint it backs. -/
structure Transfer.Backs (t : Transfer) (k : Mint) : Prop where
  messageId : t.message.messageId = k.glacisData.messageId
  recipient : k.toAddress = CrossRWA.toAddress t.to_
  tokenAmount : k.tokenAmount = t.tokenAmount

/-- **A message of the other mediator, honestly delivered, is one of its transfers.** -/
theorem Honest.transfer {env : Env} {msgSender : Address} {fromChainId : Uint256}
    {glacisPayload : Bytes} {R : GlacisRouter.Received} {k : Mint}
    (hhonest : Honest d w s fromChainId glacisPayload)
    (hB : ∀ s', Books keccak256 d s' (w s'))
    (h : MintStep keccak256 (w s) env msgSender fromChainId glacisPayload R k)
    {p : Path} (hfrom : k.glacisData.originalFrom = toBytes32 (d.mediator s.other p))
    {hashed : List Bytes} (hfree : CollisionFree keccak256 hashed)
    (hother : (w s.other).hashed ⊆ hashed)
    (hown : (deliveryOf msgSender fromChainId R).inputs keccak256 s.chainId ⊆ hashed) :
    ∃ t ∈ (w s.other).sends, t.message.sender = d.mediator s.other p ∧ t.Backs k := by
  obtain ⟨hdec, _, hvalid, _⟩ := GlacisRouter.receiveMessage_spec h.received
  rw [(hB s).outbox.chainId_eq] at hvalid
  have hdata : k.glacisData = R.glacisData := h.caused.glacisData
  rw [hdata] at hfrom
  rcases hhonest with ⟨rfl, pk, hpk, rfl⟩ | ⟨_, hthird⟩
  · obtain ⟨m, hm, hpay⟩ := (hB s.other).outbox.packets pk hpk
    rw [hpay] at hdec
    have hhead := decode_encode_head hdec
    -- the sender is the mediator, so the message is a transfer's
    have hsender : m.sender = d.mediator s.other p := by
      have hsrc : R.glacisData.originalFrom = toBytes32 m.sender := congrArg _ hhead
      exact toBytes32_inj (hsrc.symm.trans hfrom)
    obtain ⟨t, ht, rfl⟩ := (hB s.other).transfers.complete m hm ⟨p, hsender⟩
    have hid : R.glacisData.messageId = t.message.messageId := congrArg _ hhead
    -- the id was hashed on both chains and fixes the payload
    have hroute := (hB s.other).outbox.valid _ hm
    obtain ⟨_, _, _, hpayload, _, _⟩ := messageId_inj hfree hown
      (List.Subset.trans ((hB s.other).outbox.inputs _ hm) hother)
      (hvalid.symm.trans (hid.trans hroute))
    obtain ⟨to_, hdecode, hrecipient⟩ := h.caused.payload
    change SimpleTokenMediator.decodeTokenPayload R.payload = _ at hdecode
    change R.payload = t.message.payload at hpayload
    rw [hpayload, (hB s.other).transfers.payload t ht,
      SimpleTokenMediator.decode_packTokenPayload] at hdecode
    have hpair := Option.some.inj hdecode
    refine ⟨t, ht, hsender, ⟨?_, ?_, ?_⟩⟩
    · rw [hdata]; exact hid.symm
    · rw [hrecipient]; exact congrArg (fun x : Bytes32 × Uint256 => toAddress x.1) hpair.symm
    · exact (congrArg Prod.snd hpair).symm
  · exact absurd hfrom (hthird _ _ hdec s.other p)

/-- Every mint of a trusted path has its transfer on the other chain. -/
def Backed (d : Deployment Path) (gmp : Path → Uint8) (trusted : Uint8 → Prop) (w : World) : Prop :=
  ∀ s, ∀ k ∈ (w s).mints, ∀ p, k.mediator = d.mediator s p → trusted (gmp p) →
    ∃ t ∈ (w s.other).sends, t.message.sender = d.mediator s.other p ∧ t.Backs k

/-- **The mint of a step is backed** when its path's adapter is honest. -/
theorem MintStep.backed {trusted : Uint8 → Prop} {env : Env} {msgSender : Address} {value : Nat}
    {fromChainId : Uint256} {glacisPayload : Bytes} {R : GlacisRouter.Received} {k : Mint}
    (h : MintStep keccak256 (w s) env msgSender fromChainId glacisPayload R k)
    (hP : Permitted d admin (honestUnder d trusted) w
      (.transact env (.call s msgSender value (.receiveMessage fromChainId glacisPayload))))
    (hadmin : ∀ t, admin t → t.IsCall (WiringCall d (idEntry gmp)))
    (hB : ∀ s', Books keccak256 d s' (w s')) (hroutes : RoutesOnly d (idEntry gmp) s (w s))
    (hgmp : ∀ p, (gmp p).toNat ≤ GLACIS_RESERVED_IDS) {hashed : List Bytes}
    (hfree : CollisionFree keccak256 hashed) (hother : (w s.other).hashed ⊆ hashed)
    (hown : (deliveryOf msgSender fromChainId R).inputs keccak256 s.chainId ⊆ hashed) {p : Path}
    (hk : k.mediator = d.mediator s p) (htrusted : trusted (gmp p)) :
    ∃ t ∈ (w s.other).sends, t.message.sender = d.mediator s.other p ∧ t.Backs k := by
  obtain ⟨hfrom, hid, _⟩ := h.accepted hroutes hP.account.2 hgmp hk
  have hhonest : Honest d w s fromChainId glacisPayload := by
    obtain ⟨_, ⟨_, hadm⟩ | hord⟩ := hP
    · exact (hadmin _ hadm).elim
    · exact hord.delivers _ _ rfl (hid.symm ▸ htrusted)
  exact hhonest.transfer hB h hfrom hfree hother hown

/-- **Backing is kept by every permitted step.** -/
theorem Backed.step {trusted : Uint8 → Prop} (h : Backed d gmp trusted w)
    (hs : ChainStep keccak256 d s (w s) a c')
    (hP : Permitted d admin (honestUnder d trusted) w a)
    (hadmin : ∀ t, admin t → t.IsCall (WiringCall d (idEntry gmp)))
    (hB : ∀ s', Books keccak256 d s' (w s')) (hroutes : RoutesOnly d (idEntry gmp) s (w s))
    (hgmp : ∀ p, (gmp p).toNat ≤ GLACIS_RESERVED_IDS)
    (hfree : NoCollision keccak256 (Function.update w s c')) :
    Backed d gmp trusted (Function.update w s c') := by
  have hsends : ∀ s', (w s').sends ⊆ (Function.update w s c' s').sends := by
    intro s'
    by_cases heq : s' = s
    · subst heq; rw [Function.update_self]; exact hs.sends_subset
    · rw [Function.update_of_ne heq]; exact List.Subset.refl _
  have hold : ∀ s', ∀ k ∈ (w s').mints, ∀ p, k.mediator = d.mediator s' p → trusted (gmp p) →
      ∃ t ∈ (Function.update w s c' s'.other).sends,
        t.message.sender = d.mediator s'.other p ∧ t.Backs k := by
    intro s' k hk p hp htr
    obtain ⟨t, ht, hb⟩ := h s' k hk p hp htr
    exact ⟨t, hsends _ ht, hb⟩
  intro s' k hk p hp htr
  by_cases heq : s' = s
  · subst heq
    rw [Function.update_self] at hk
    have hc' : CollisionFree keccak256 c'.hashed := by
      have := hfree.chain s'
      rwa [Function.update_self] at this
    rcases hs.mint_cases hP (hB s') hc' with
      hmints | ⟨env, x, v, f, b, R, k', rfl, hstep, hmints, hhashed⟩
    · rw [hmints] at hk; exact hold s' k hk p hp htr
    · rw [hmints] at hk
      rcases List.mem_append.mp hk with hk | hk
      · exact hold s' k hk p hp htr
      · obtain rfl := List.mem_singleton.mp hk
        -- both chains' inputs are among those hashed after the step
        have hother : (w s'.other).hashed ⊆ World.hashed (Function.update w s' c') := by
          have hsub := World.hashed_subset (Function.update w s' c') s'.other
          rwa [Function.update_of_ne s'.other_ne] at hsub
        have hown : (deliveryOf x f R).inputs keccak256 s'.chainId
            ⊆ World.hashed (Function.update w s' c') := by
          have hsub := World.hashed_subset (Function.update w s' c') s'
          rw [Function.update_self, hhashed] at hsub
          exact List.Subset.trans (List.subset_append_right _ _) hsub
        obtain ⟨t, ht, hb⟩ := hstep.backed hP hadmin hB hroutes hgmp hfree hother hown hp htr
        exact ⟨t, hsends _ ht, hb⟩
  · rw [Function.update_of_ne heq] at hk
    exact hold s' k hk p hp htr

/-! ## The wired bridge -/

/-- The invariants of a bridge wired by the scripts, its `trusted` adapters honest. -/
structure Bridged (d : Deployment Path) (gmp : Path → Uint8) (trusted : Uint8 → Prop) (w : World) :
    Prop where
  routes : ∀ s, RoutesOnly d (idEntry gmp) s (w s)
  counterparts : ∀ s, CounterpartsOnly d s (w s)
  tokens : ∀ s, TokenSide d s (w s)
  backed : Backed d gmp trusted w

theorem Bridged.initial {trusted : Uint8 → Prop} (router : Side → GlacisRouter)
    (now : Side → Nat) : Bridged d gmp trusted (World.initial router now) where
  routes := fun _ => RoutesOnly.initial _ _
  counterparts := fun _ => CounterpartsOnly.initial _ _
  tokens := fun _ => TokenSide.initial _ _
  backed := fun _ _ hk => nomatch hk

/-- **Every permitted step keeps a wired bridge.** -/
theorem Bridged.step {trusted : Uint8 → Prop} (h : Bridged d gmp trusted w)
    (hs : ChainStep keccak256 d s (w s) a c') (hP : Permitted d admin (honestUnder d trusted) w a)
    (hadmin : ∀ t, admin t → t.IsCall (WiringCall d (idEntry gmp)))
    (hB : ∀ s', Books keccak256 d s' (w s'))
    (hgmp : ∀ p, (gmp p).toNat ≤ GLACIS_RESERVED_IDS)
    (hfree : NoCollision keccak256 (Function.update w s c')) :
    Bridged d gmp trusted (Function.update w s c') where
  routes := forall_update h.routes ((h.routes s).step hs hP
    fun t ht => (hadmin t ht).mono fun _ _ hc => Or.inl hc)
  counterparts := forall_update h.counterparts ((h.counterparts s).step (hB s).deployed hs hP
    fun t ht => (hadmin t ht).mono fun _ _ hc => Or.inl hc)
  tokens := forall_update h.tokens (hs.moves hP (fun t ht => (hadmin t ht).mono fun _ _ hc => Or.inl hc)
    (h.tokens s) (hB s).deployed).1
  backed := h.backed.step hs hP hadmin hB (h.routes s) hgmp hfree

end CrossRWA
