/-
  What a successful call does — one inversion for the whole interface.

  `Effect` has one constructor for each kind of call, with everything its function checked and the
  chain it leaves; `Executed` is the same for the client call that ends a receiving call.  Every
  invariant of a chain is a case analysis over `Effect`, so no inversion after this file unfolds
  `Chain.dispatch`.
-/
import CrossRWA.Chain

namespace CrossRWA

variable (keccak256 : Bytes → Bytes32) (site : Site)

/-- The client call of a received message: a contract outside the model, or a mediator that
    mints. -/
inductive Executed (c : Chain) (R : GlacisRouter.Received) (fromChainId : Uint256) : Chain → Prop
  | external (hnone : c.mediators (toAddress R.glacisData.originalTo) = none) :
      Executed c R fromChainId c
  | mint {m : SimpleTokenMediator} {t t' : XERC20} {to_ : Bytes32} {tokenAmount : Uint256}
      (hm : c.mediators (toAddress R.glacisData.originalTo) = some m)
      (hrouter : m.GLACIS_ROUTER = site.router)
      (hpayload : SimpleTokenMediator.decodeTokenPayload R.payload = some (to_, tokenAmount))
      (htoken : m.xERC20Token = site.xerc20) (ht : c.token = some t)
      (hmint : t.mint c.now (toAddress R.glacisData.originalTo) (toAddress to_) tokenAmount.toNat
        = .ok t') :
      Executed c R fromChainId { c with
        token := some t'
        mints := c.mints ++ [⟨toAddress R.glacisData.originalTo, R.glacisData, fromChainId,
          toAddress to_, tokenAmount⟩] }

/-- What a successful call does to the chain. -/
inductive Effect (c : Chain) (env : Env) (msgSender : Address) (value : Nat) : Call → Chain → Prop
  | token {call : XERC20.Call} {t t' : XERC20} (ht : c.token = some t)
      (h : t.exec c.now msgSender call = .ok t') :
      Effect c env msgSender value (.token call) { c with token := some t' }
  | mediator {self : Address} {call : SimpleTokenMediator.LocalCall} {m m' : SimpleTokenMediator}
      (hm : c.mediators self = some m) (h : m.exec msgSender call = .ok m') :
      Effect c env msgSender value (.mediator self call)
        { c with mediators := Function.update c.mediators self (some m') }
  | router {call : GlacisRouter.LocalCall} {r' : GlacisRouter}
      (h : c.router.exec msgSender call = .ok r') :
      Effect c env msgSender value (.router call) { c with router := r' }
  | route {chainId : Uint256} {to_ : Bytes32} {payload : Bytes} {adapters : List Address}
      {fees : List CrossChainGas} {refundAddress : Address} {retryable : Bool}
      {R : GlacisRouter.Routed}
      (h : c.router.route keccak256 env.sendMessage msgSender value chainId to_ payload adapters
        fees refundAddress retryable = .ok R) :
      Effect c env msgSender value
        (.route chainId to_ payload adapters fees refundAddress retryable)
        (c.afterRoute keccak256 (Chain.messageOf msgSender chainId to_ payload R) R)
  | sendCrossChain {self : Address} {chainId : Uint256} {to_ : Bytes32} {adapters : List Address}
      {fees : List CrossChainGas} {refundAddress : Address} {tokenAmount : Uint256}
      {m : SimpleTokenMediator} {t t' : XERC20} {R : GlacisRouter.Routed} {message : Message}
      (hm : c.mediators self = some m) (hdst : m.remoteCounterpart chainId ≠ 0)
      (htoken : m.xERC20Token = site.xerc20) (ht : c.token = some t)
      (hburn : t.burn c.now self msgSender tokenAmount.toNat = .ok t')
      (hroute : c.router.route keccak256 env.sendMessage self value chainId
        (m.remoteCounterpart chainId) (SimpleTokenMediator.packTokenPayload to_ tokenAmount)
        adapters fees refundAddress true = .ok R)
      (hmessage : message = Chain.messageOf self chainId (m.remoteCounterpart chainId)
        (SimpleTokenMediator.packTokenPayload to_ tokenAmount) R) :
      Effect c env msgSender value
        (.sendCrossChain self chainId to_ adapters fees refundAddress tokenAmount)
        { c.afterRoute keccak256 message R with
          token := some t'
          sends := c.sends ++ [⟨message, to_, tokenAmount⟩] }
  | routeRetry {chainId : Uint256} {to_ : Bytes32} {payload : Bytes} {adapters : List Address}
      {fees : List CrossChainGas} {refundAddress : Address} {messageId : Bytes32}
      {nonce : Uint256} {packets : List Packet}
      (h : c.router.routeRetry keccak256 env.sendMessage msgSender value chainId to_ payload
        adapters fees refundAddress messageId nonce = .ok packets) :
      Effect c env msgSender value
        (.routeRetry chainId to_ payload adapters fees refundAddress messageId nonce)
        (c.afterRetry keccak256 ⟨messageId, chainId, to_, payload, msgSender, nonce⟩ packets)
  | sendCrossChainRetry {self : Address} {chainId : Uint256} {to_ : Bytes32}
      {adapters : List Address} {fees : List CrossChainGas} {refundAddress : Address}
      {messageId : Bytes32} {nonce : Uint256} {tokenAmount : Uint256} {m : SimpleTokenMediator}
      {packets : List Packet} (hm : c.mediators self = some m)
      (h : c.router.routeRetry keccak256 env.sendMessage self value chainId
        (m.remoteCounterpart chainId) (SimpleTokenMediator.packTokenPayload to_ tokenAmount)
        adapters fees refundAddress messageId nonce = .ok packets) :
      Effect c env msgSender value
        (.sendCrossChainRetry self chainId to_ adapters fees refundAddress messageId nonce
          tokenAmount)
        (c.afterRetry keccak256 ⟨messageId, chainId, m.remoteCounterpart chainId,
          SimpleTokenMediator.packTokenPayload to_ tokenAmount, self, nonce⟩ packets)
  /-- A mediator's `receiveMessage` called by its router itself. -/
  | mediatorReceiveMessage {self : Address} {fromAdapters : List Address} {fromChainId : Uint256}
      {fromAddress : Bytes32} {payload : Bytes} {m : SimpleTokenMediator} {t t' : XERC20}
      {to_ : Bytes32} {tokenAmount : Uint256} (hm : c.mediators self = some m)
      (hrouter : msgSender = m.GLACIS_ROUTER)
      (hpayload : SimpleTokenMediator.decodeTokenPayload payload = some (to_, tokenAmount))
      (htoken : m.xERC20Token = site.xerc20) (ht : c.token = some t)
      (hmint : t.mint c.now self (toAddress to_) tokenAmount.toNat = .ok t') :
      Effect c env msgSender value
        (.mediatorReceiveMessage self fromAdapters fromChainId fromAddress payload)
        { c with
          token := some t'
          mints := c.mints ++ [⟨self, ⟨0, 0, fromAddress, toBytes32 self⟩, fromChainId,
            toAddress to_, tokenAmount⟩] }
  | receiveMessage {fromChainId : Uint256} {glacisPayload : Bytes} {R : GlacisRouter.Received}
      {c' : Chain}
      (h : c.router.receiveMessage keccak256 (c.clientAt env) msgSender fromChainId glacisPayload
        = .ok R)
      (hskip : R.executed = false → c' = c.afterReceive keccak256 msgSender fromChainId R)
      (hexec : R.executed = true →
        Executed site (c.afterReceive keccak256 msgSender fromChainId R) R fromChainId c') :
      Effect c env msgSender value (.receiveMessage fromChainId glacisPayload) c'
  | retryReceiveMessage {fromChainId : Uint256} {glacisPayload : Bytes}
      {R : GlacisRouter.Received} {c' : Chain}
      (h : c.router.retryReceiveMessage keccak256 (c.clientAt env) fromChainId glacisPayload
        = .ok R)
      (hexec : Executed site (c.afterRetryReceive keccak256 fromChainId R) R fromChainId c') :
      Effect c env msgSender value (.retryReceiveMessage fromChainId glacisPayload) c'

variable {keccak256 : Bytes → Bytes32} {site : Site} {c c' : Chain} {env : Env}
  {msgSender : Address} {value : Nat}

/-! ## The inversion -/

theorem Chain.tokenAt_eq_ok {a : Address} {t : XERC20} :
    c.tokenAt site a = .ok t ↔ a = site.xerc20 ∧ c.token = some t := by
  unfold Chain.tokenAt
  split
  · next h => simp [h]
  · next h => simp [h]

theorem executeClient_executed {R : GlacisRouter.Received} {fromChainId : Uint256}
    (h : Chain.executeClient site c env R fromChainId = .ok c') :
    Executed site c R fromChainId c' := by
  unfold Chain.executeClient at h
  dsimp only at h
  split at h
  · next m hm =>
    simp only [SimpleTokenMediator.receiveMessage, SimpleTokenMediator._receiveMessage, bind_eq_ok,
      pure_eq_ok, orRevert_eq_ok, revertIf_eq_ok, not_not, Chain.tokenAt_eq_ok] at h
    obtain ⟨m', hm', _, hrouter, _, ⟨⟨to_, amount⟩, hdec, t, ⟨htoken, ht⟩, t', hmint, rfl⟩, rfl⟩ := h
    rw [hm] at hm'
    obtain rfl := Option.some.inj hm'
    exact .mint hm hrouter.symm hdec htoken ht hmint
  · next hnone =>
    simp only [bind_eq_ok, pure_eq_ok] at h
    obtain ⟨_, _, rfl⟩ := h
    exact .external hnone

/-- A mediator that can mint executes its message. -/
theorem executeClient_mint {R : GlacisRouter.Received} {fromChainId : Uint256}
    {m : SimpleTokenMediator} {t t' : XERC20} {to_ : Bytes32} {tokenAmount : Uint256}
    (hm : c.mediators (toAddress R.glacisData.originalTo) = some m)
    (hrouter : m.GLACIS_ROUTER = site.router)
    (hpayload : SimpleTokenMediator.decodeTokenPayload R.payload = some (to_, tokenAmount))
    (htoken : m.xERC20Token = site.xerc20) (ht : c.token = some t)
    (hmint : t.mint c.now (toAddress R.glacisData.originalTo) (toAddress to_) tokenAmount.toNat
      = .ok t') :
    Chain.executeClient site c env R fromChainId = .ok { c with
      token := some t'
      mints := c.mints ++ [⟨toAddress R.glacisData.originalTo, R.glacisData, fromChainId,
        toAddress to_, tokenAmount⟩] } := by
  unfold Chain.executeClient
  simp only [hm, SimpleTokenMediator.receiveMessage, SimpleTokenMediator._receiveMessage, bind_eq_ok,
    pure_eq_ok, orRevert_eq_ok, revertIf_eq_ok, not_not, Chain.tokenAt_eq_ok]
  exact ⟨m, rfl, (), hrouter.symm, _, ⟨(to_, tokenAmount), hpayload, t, ⟨htoken, ht⟩, t', hmint, rfl⟩,
    rfl⟩

/-- **The inversion of a call.** -/
theorem exec_effect {call : Call}
    (h : c.exec keccak256 site env msgSender value call = .ok c') :
    Effect keccak256 site c env msgSender value call c' := by
  replace h := (Chain.exec_eq_ok.mp h).2
  cases call with
  | token call =>
    simp only [Chain.dispatch, bind_eq_ok, pure_eq_ok, orRevert_eq_ok] at h
    obtain ⟨t, ht, t', hexec, rfl⟩ := h
    exact .token ht hexec
  | mediator self call =>
    simp only [Chain.dispatch, bind_eq_ok, pure_eq_ok, orRevert_eq_ok] at h
    obtain ⟨m, hm, m', hexec, rfl⟩ := h
    exact .mediator hm hexec
  | router call =>
    simp only [Chain.dispatch, bind_eq_ok, pure_eq_ok] at h
    obtain ⟨r, hexec, rfl⟩ := h
    exact .router hexec
  | route chainId to_ payload adapters fees refundAddress retryable =>
    simp only [Chain.dispatch, Chain.route, bind_eq_ok, pure_eq_ok] at h
    obtain ⟨_, ⟨R, hroute, rfl⟩, rfl⟩ := h
    exact .route hroute
  | sendCrossChain self chainId to_ adapters fees refundAddress tokenAmount =>
    simp only [Chain.dispatch, SimpleTokenMediator.sendCrossChain, bind_eq_ok, pure_eq_ok,
      orRevert_eq_ok, revertIf_eq_ok, Chain.tokenAt_eq_ok] at h
    obtain ⟨_, ⟨m, hm, _, hdst, t, ⟨htoken, ht⟩, t', hburn, _, _, R, hroute, rfl⟩, rfl⟩ := h
    exact .sendCrossChain hm hdst htoken ht hburn hroute rfl
  | routeRetry chainId to_ payload adapters fees refundAddress messageId nonce =>
    simp only [Chain.dispatch, Chain.routeRetry, bind_eq_ok, pure_eq_ok] at h
    obtain ⟨_, ⟨packets, hretry, rfl⟩, rfl⟩ := h
    exact .routeRetry hretry
  | sendCrossChainRetry self chainId to_ adapters fees refundAddress messageId nonce amount =>
    simp only [Chain.dispatch, SimpleTokenMediator.sendCrossChainRetry, Chain.routeRetry, bind_eq_ok,
      pure_eq_ok, orRevert_eq_ok] at h
    obtain ⟨_, ⟨m, hm, _, _, _, _, packets, hretry, rfl⟩, rfl⟩ := h
    exact .sendCrossChainRetry hm hretry
  | mediatorReceiveMessage self fromAdapters fromChainId fromAddress payload =>
    simp only [Chain.dispatch, SimpleTokenMediator.receiveMessage, SimpleTokenMediator._receiveMessage,
      bind_eq_ok, pure_eq_ok, orRevert_eq_ok, revertIf_eq_ok, not_not, Chain.tokenAt_eq_ok] at h
    obtain ⟨m, hm, _, hrouter, _, ⟨⟨to_, amount⟩, hdec, t, ⟨htoken, ht⟩, t', hmint, rfl⟩, rfl⟩ := h
    exact .mediatorReceiveMessage hm hrouter hdec htoken ht hmint
  | receiveMessage fromChainId glacisPayload =>
    simp only [Chain.dispatch, Chain.receiveMessage, bind_eq_ok] at h
    obtain ⟨R, hR, h⟩ := h
    split at h
    · next hex =>
      exact .receiveMessage hR (fun hf => absurd (hex.symm.trans hf) (by decide))
        (fun _ => executeClient_executed h)
    · next hex =>
      obtain rfl := pure_eq_ok.mp h
      exact .receiveMessage hR (fun _ => rfl) (fun ht => absurd ht hex)
  | retryReceiveMessage fromChainId glacisPayload =>
    simp only [Chain.dispatch, Chain.retryReceiveMessage, bind_eq_ok] at h
    obtain ⟨R, hR, h⟩ := h
    exact .retryReceiveMessage hR (executeClient_executed h)

/-! ## Frames -/

/-- The client call changes the token and the mints only. -/
theorem Executed.same {R : GlacisRouter.Received} {fromChainId : Uint256}
    (h : Executed site c R fromChainId c') :
    c'.router = c.router ∧ c'.deliveries = c.deliveries ∧ c'.hashed = c.hashed ∧
      c'.packets = c.packets ∧ c'.routed = c.routed ∧ c'.sends = c.sends ∧
      c'.mediators = c.mediators ∧ c'.now = c.now := by
  cases h with
  | external _ => exact ⟨rfl, rfl, rfl, rfl, rfl, rfl, rfl, rfl⟩
  | mint _ _ _ _ _ _ => exact ⟨rfl, rfl, rfl, rfl, rfl, rfl, rfl, rfl⟩

/-- What is hashed stays hashed. -/
theorem Effect.hashed_subset {call : Call}
    (h : Effect keccak256 site c env msgSender value call c') : c.hashed ⊆ c'.hashed := by
  cases h with
  | token _ _ => exact List.Subset.refl _
  | mediator _ _ => exact List.Subset.refl _
  | router _ => exact List.Subset.refl _
  | route _ => exact List.subset_append_left _ _
  | sendCrossChain _ _ _ _ _ _ _ => exact List.subset_append_left _ _
  | routeRetry _ => exact List.subset_append_left _ _
  | sendCrossChainRetry _ _ => exact List.subset_append_left _ _
  | mediatorReceiveMessage _ _ _ _ _ _ => exact List.Subset.refl _
  | @receiveMessage fromChainId _ R _ _ hskip hexec =>
    cases hex : R.executed with
    | false => rw [hskip hex]; exact List.subset_append_left _ _
    | true => rw [(hexec hex).same.2.2.1]; exact List.subset_append_left _ _
  | retryReceiveMessage _ hexec => rw [hexec.same.2.2.1]; exact List.subset_append_left _ _

/-- Only a mediator's local call changes a mediator. -/
theorem Effect.mediators_cases {call : Call}
    (h : Effect keccak256 site c env msgSender value call c') :
    c'.mediators = c.mediators ∨ ∃ self lc m m', call = .mediator self lc ∧
      c.mediators self = some m ∧ m.exec msgSender lc = .ok m' ∧
      c'.mediators = Function.update c.mediators self (some m') := by
  cases h with
  | token _ _ => exact Or.inl rfl
  | mediator hm hexec => exact Or.inr ⟨_, _, _, _, rfl, hm, hexec, rfl⟩
  | router _ => exact Or.inl rfl
  | route _ => exact Or.inl rfl
  | sendCrossChain _ _ _ _ _ _ _ => exact Or.inl rfl
  | routeRetry _ => exact Or.inl rfl
  | sendCrossChainRetry _ _ => exact Or.inl rfl
  | mediatorReceiveMessage _ _ _ _ _ _ => exact Or.inl rfl
  | @receiveMessage fromChainId _ R _ _ hskip hexec =>
    left
    cases hex : R.executed with
    | false => rw [hskip hex]; rfl
    | true => exact (hexec hex).same.2.2.2.2.2.2.1
  | retryReceiveMessage _ hexec => exact Or.inl hexec.same.2.2.2.2.2.2.1

end CrossRWA
