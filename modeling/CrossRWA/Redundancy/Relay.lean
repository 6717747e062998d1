/-
  One chain, with its executions observed.

  `Relay` is a chain together with the log of what its router executed: the message, the client's
  quorum at that moment and the adapters the client was told about.  No client is excluded — a
  mediator, or any contract outside the model, with any answers, different ones at every call.

  * `Relay.exec` runs a call of the chain; `executionOf` is what the observer notes.
  * `Receives` is the inversion of a call on the receiving side: nothing, one delivery, or one
    retried execution.
  * `Outbox.effect` is the inversion on the sending side: every call keeps the outbox.
-/
import CrossRWA.Outbox

namespace CrossRWA

/-- A message the router handed to its client. -/
structure Execution where
  glacisData : GlacisData
  payload : Bytes
  fromChainId : Uint256
  quorum : Nat
  fromAdapters : List Address
deriving DecidableEq, Repr

structure Relay extends Chain where
  executions : List Execution

section Observe

variable (keccak256 : Bytes → Bytes32)

/-- The quorum the client asks for a received message. -/
def Chain.quorumOf (c : Chain) (env : Env) (R : GlacisRouter.Received) : Except Revert Nat :=
  (c.clientAt env (toAddress R.glacisData.originalTo)).getQuorum R.glacisData R.payload
    (c.router.messageReceipts R.glacisData.messageId).uniqueMessagesReceived

/-- What is noted when a receiving call of the router comes back. -/
def Chain.noteExecution (c : Chain) (env : Env) (fromChainId : Uint256)
    (received : Except Revert GlacisRouter.Received) : List Execution :=
  match received with
  | .error _ => []
  | .ok R =>
    match c.quorumOf env R with
    | .error _ => []
    | .ok quorum =>
      if R.executed then [⟨R.glacisData, R.payload, fromChainId, quorum, R.fromAdapters⟩] else []

/-- The execution a call amounts to, if it goes through. -/
def Chain.executionOf (c : Chain) (env : Env) (msgSender : Address) : Call → List Execution
  | .receiveMessage fromChainId glacisPayload =>
    c.noteExecution env fromChainId
      (c.router.receiveMessage keccak256 (c.clientAt env) msgSender fromChainId glacisPayload)
  | .retryReceiveMessage fromChainId glacisPayload =>
    c.noteExecution env fromChainId
      (c.router.retryReceiveMessage keccak256 (c.clientAt env) fromChainId glacisPayload)
  | _ => []

/-- Run one call of the chain and note what it executed. -/
def Relay.exec (site : Site) (n : Relay) (env : Env) (msgSender : Address) (value : Nat)
    (call : Call) : Except Revert Relay := do
  let c ← n.toChain.exec keccak256 site env msgSender value call
  pure
    { toChain := c
      executions := n.executions ++ n.toChain.executionOf keccak256 env msgSender call }

end Observe

/-! ## The receiving side of a call -/

/-- Two chains with the same receipts, the second having hashed no less. -/
structure SameReceipts (c c' : Chain) : Prop where
  router_eq : c'.router.messageReceipts = c.router.messageReceipts
  flags_eq : c'.router.receivedCustomAdapterMessages = c.router.receivedCustomAdapterMessages
  lists_eq : c'.router.receivedAdaptersList = c.router.receivedAdaptersList
  deliveries_eq : c'.deliveries = c.deliveries
  hashed_sub : c.hashed ⊆ c'.hashed

/-- The router's two receiving calls. -/
def Call.receives : Call → Bool
  | .receiveMessage .. | .retryReceiveMessage .. => true
  | _ => false

/-- What a successful call leaves on the receiving side. -/
inductive Receives (keccak256 : Bytes → Bytes32) (n : Relay) (env : Env) (msgSender : Address) :
    Call → Relay → Prop
  /-- Nothing was received. -/
  | quiet {call : Call} {n' : Relay} (same : SameReceipts n.toChain n'.toChain)
      (heq : n'.executions = n.executions) : Receives keccak256 n env msgSender call n'
  /-- An adapter brought a message. -/
  | delivery {fromChainId : Uint256} {glacisPayload : Bytes} {R : GlacisRouter.Received}
      {n' : Relay} {quorum : Nat}
      (h : n.router.receiveMessage keccak256 (n.clientAt env) msgSender fromChainId glacisPayload
        = .ok R)
      (hquorum : n.quorumOf env R = .ok quorum)
      (hrouter : n'.router = R.router)
      (hdeliveries : n'.deliveries = n.deliveries ++
        [⟨R.glacisData, R.payload, fromChainId, msgSender, R.executed⟩])
      (hhashed : n'.hashed = n.hashed ++
        Chain.hashes keccak256 n.router.GLACIS_CHAIN_ID fromChainId R.glacisData R.payload)
      (heq : n'.executions = n.executions ++ if R.executed then
        [⟨R.glacisData, R.payload, fromChainId, quorum, R.fromAdapters⟩] else []) :
      Receives keccak256 n env msgSender (.receiveMessage fromChainId glacisPayload) n'
  /-- Anyone had a message executed that was there. -/
  | retry {fromChainId : Uint256} {glacisPayload : Bytes} {R : GlacisRouter.Received}
      {n' : Relay} {quorum : Nat}
      (h : n.router.retryReceiveMessage keccak256 (n.clientAt env) fromChainId glacisPayload
        = .ok R)
      (hquorum : n.quorumOf env R = .ok quorum)
      (hrouter : n'.router = R.router) (hdeliveries : n'.deliveries = n.deliveries)
      (hhashed : n'.hashed = n.hashed ++
        Chain.hashes keccak256 n.router.GLACIS_CHAIN_ID fromChainId R.glacisData R.payload)
      (heq : n'.executions = n.executions ++
        [⟨R.glacisData, R.payload, fromChainId, quorum, R.fromAdapters⟩]) :
      Receives keccak256 n env msgSender (.retryReceiveMessage fromChainId glacisPayload) n'

section Inversion

variable {keccak256 : Bytes → Bytes32} {site : Site} {n n' : Relay} {env : Env}
  {msgSender : Address} {value : Nat} {call : Call}

/-- A call other than the two receiving calls leaves the receipts. -/
theorem Effect.sameReceipts {c c' : Chain}
    (h : Effect keccak256 site c env msgSender value call c') (hcall : call.receives = false) :
    SameReceipts c c' := by
  cases h with
  | token _ _ => exact ⟨rfl, rfl, rfl, rfl, List.Subset.refl _⟩
  | mediator _ _ => exact ⟨rfl, rfl, rfl, rfl, List.Subset.refl _⟩
  | mediatorReceiveMessage _ _ _ _ _ _ => exact ⟨rfl, rfl, rfl, rfl, List.Subset.refl _⟩
  | router hexec =>
    obtain ⟨⟨_, _, _, rfl⟩, _⟩ := GlacisRouter.exec_spec hexec
    exact ⟨rfl, rfl, rfl, rfl, List.Subset.refl _⟩
  | route hR =>
    obtain ⟨_, _, hrouter, _⟩ := GlacisRouter.route_spec hR
    refine ⟨?_, ?_, ?_, rfl, List.subset_append_left _ _⟩ <;>
      simp only [Chain.afterRoute, hrouter]
  | sendCrossChain _ _ _ _ _ hR _ =>
    obtain ⟨_, _, hrouter, _⟩ := GlacisRouter.route_spec hR
    refine ⟨?_, ?_, ?_, rfl, List.subset_append_left _ _⟩ <;>
      simp only [Chain.afterRoute, hrouter]
  | routeRetry _ => exact ⟨rfl, rfl, rfl, rfl, List.subset_append_left _ _⟩
  | sendCrossChainRetry _ _ => exact ⟨rfl, rfl, rfl, rfl, List.subset_append_left _ _⟩
  | receiveMessage _ _ _ => cases hcall
  | retryReceiveMessage _ _ => cases hcall

theorem Relay.exec_eq_ok :
    n.exec keccak256 site env msgSender value call = .ok n' ↔
      n.toChain.exec keccak256 site env msgSender value call = .ok n'.toChain ∧
        n'.executions = n.executions ++ n.toChain.executionOf keccak256 env msgSender call := by
  simp only [Relay.exec, bind_eq_ok, pure_eq_ok]
  constructor
  · rintro ⟨c, hc, rfl⟩
    exact ⟨hc, rfl⟩
  · rintro ⟨hc, heq⟩
    exact ⟨n'.toChain, hc, by rw [← heq]⟩

theorem Chain.noteExecution_ok {c : Chain} {fromChainId : Uint256} {R : GlacisRouter.Received}
    {quorum : Nat} (hquorum : c.quorumOf env R = .ok quorum) :
    c.noteExecution env fromChainId (.ok R) = if R.executed then
      [⟨R.glacisData, R.payload, fromChainId, quorum, R.fromAdapters⟩] else [] := by
  simp only [Chain.noteExecution, hquorum]

/-- **The inversion of a call**, seen from the receipts. -/
theorem Relay.exec_receives (h : n.exec keccak256 site env msgSender value call = .ok n') :
    Receives keccak256 n env msgSender call n' := by
  obtain ⟨hexec, heq⟩ := Relay.exec_eq_ok.mp h
  have heffect := exec_effect hexec
  cases call with
  | receiveMessage fromChainId glacisPayload =>
    cases heffect with
    | @receiveMessage _ _ R c' hR hskip hrun =>
      obtain ⟨_, _, _, ⟨quorum, hquorum, _⟩, _⟩ := GlacisRouter.receiveMessage_spec hR
      have hsame : n'.router = R.router ∧ n'.deliveries = n.deliveries ++
          [⟨R.glacisData, R.payload, fromChainId, msgSender, R.executed⟩] ∧
          n'.hashed = n.hashed ++ Chain.hashes keccak256 n.router.GLACIS_CHAIN_ID fromChainId
            R.glacisData R.payload := by
        cases hex : R.executed with
        | false => rw [hskip hex, ← hex]; exact ⟨rfl, rfl, rfl⟩
        | true =>
          obtain ⟨hrouter, hdel, hhashed, _⟩ := (hrun hex).same
          rw [hrouter, hdel, hhashed, ← hex]
          exact ⟨rfl, rfl, rfl⟩
      rw [Chain.executionOf, hR, Chain.noteExecution_ok hquorum] at heq
      exact .delivery hR hquorum hsame.1 hsame.2.1 hsame.2.2 heq
  | retryReceiveMessage fromChainId glacisPayload =>
    cases heffect with
    | @retryReceiveMessage _ _ R c' hR hrun =>
      obtain ⟨_, _, ⟨quorum, hquorum, _⟩, _, hex, _⟩ := GlacisRouter.retryReceiveMessage_spec hR
      obtain ⟨hrouter, hdel, hhashed, _⟩ := hrun.same
      rw [Chain.executionOf, hR, Chain.noteExecution_ok hquorum, if_pos hex] at heq
      exact .retry hR hquorum hrouter hdel hhashed heq
  | _ =>
    exact .quiet (heffect.sameReceipts rfl) (by rw [heq]; exact List.append_nil _)

end Inversion

/-! ## The sending side of a call -/

section Sending

variable {keccak256 : Bytes → Bytes32} {site : Site} {c c' : Chain} {env : Env}
  {msgSender : Address} {value : Nat} {call : Call} {chainId : Uint256}

/-- No mediator stands at the zero address. -/
def Chain.MediatorsPlaced (c : Chain) : Prop := ∀ a m, c.mediators a = some m → a ≠ 0

theorem Chain.MediatorsPlaced.effect (h : c.MediatorsPlaced)
    (he : Effect keccak256 site c env msgSender value call c') : c'.MediatorsPlaced := by
  intro a m ha
  rcases he.mediators_cases with heq | ⟨self, _, m₀, m', _, hm, _, heq⟩
  · exact h a m (by rw [← heq]; exact ha)
  · rw [heq] at ha
    by_cases hself : a = self
    · rw [hself]; exact h self m₀ hm
    · rw [Function.update_of_ne hself] at ha
      exact h a m ha

/-- What was routed stays routed. -/
theorem Effect.routed_subset (he : Effect keccak256 site c env msgSender value call c') :
    c.routed ⊆ c'.routed := by
  cases he with
  | token _ _ => exact List.Subset.refl _
  | mediator _ _ => exact List.Subset.refl _
  | router _ => exact List.Subset.refl _
  | route _ => exact List.subset_append_left _ _
  | sendCrossChain _ _ _ _ _ _ _ => exact List.subset_append_left _ _
  | routeRetry _ => exact List.Subset.refl _
  | sendCrossChainRetry _ _ => exact List.Subset.refl _
  | mediatorReceiveMessage _ _ _ _ _ _ => exact List.Subset.refl _
  | @receiveMessage _ _ R _ _ hskip hrun =>
    cases hex : R.executed with
    | false => rw [hskip hex]; exact List.Subset.refl _
    | true => rw [(hrun hex).same.2.2.2.2.1]; exact List.Subset.refl _
  | retryReceiveMessage _ hrun => rw [hrun.same.2.2.2.2.1]; exact List.Subset.refl _

/-- What was handed to adapters stays in the books. -/
theorem Effect.packets_subset (he : Effect keccak256 site c env msgSender value call c') :
    c.packets ⊆ c'.packets := by
  cases he with
  | token _ _ => exact List.Subset.refl _
  | mediator _ _ => exact List.Subset.refl _
  | router _ => exact List.Subset.refl _
  | route _ => exact List.subset_append_left _ _
  | sendCrossChain _ _ _ _ _ _ _ => exact List.subset_append_left _ _
  | routeRetry _ => exact List.subset_append_left _ _
  | sendCrossChainRetry _ _ => exact List.subset_append_left _ _
  | mediatorReceiveMessage _ _ _ _ _ _ => exact List.Subset.refl _
  | @receiveMessage _ _ R _ _ hskip hrun =>
    cases hex : R.executed with
    | false => rw [hskip hex]; exact List.Subset.refl _
    | true => rw [(hrun hex).same.2.2.2.1]; exact List.Subset.refl _
  | retryReceiveMessage _ hrun => rw [hrun.same.2.2.2.1]; exact List.Subset.refl _

/-- The client call of a received message sends nothing. -/
theorem Executed.sameOutbox {R : GlacisRouter.Received} {fromChainId : Uint256}
    (h : Executed site c R fromChainId c') : SameOutbox c c' := by
  obtain ⟨hrouter, _, hhashed, hpackets, hrouted, hsends, _, _⟩ := h.same
  refine ⟨by rw [hrouter], by rw [hrouter], by rw [hrouter], hpackets, hrouted, hsends, ?_⟩
  rw [hhashed]
  exact List.Subset.refl _

/-- **Every call keeps the outbox.** -/
theorem Outbox.effect (h : Outbox keccak256 chainId c) (hplaced : c.MediatorsPlaced)
    (hsender : msgSender ≠ 0) (he : Effect keccak256 site c env msgSender value call c')
    (hfree : CollisionFree keccak256 c'.hashed) : Outbox keccak256 chainId c' := by
  cases he with
  | token _ _ => exact h.frame ⟨rfl, rfl, rfl, rfl, rfl, rfl, List.Subset.refl _⟩
  | mediator _ _ => exact h.frame ⟨rfl, rfl, rfl, rfl, rfl, rfl, List.Subset.refl _⟩
  | mediatorReceiveMessage _ _ _ _ _ _ =>
    exact h.frame ⟨rfl, rfl, rfl, rfl, rfl, rfl, List.Subset.refl _⟩
  | router hcall =>
    obtain ⟨⟨_, _, _, rfl⟩, _⟩ := GlacisRouter.exec_spec hcall
    exact h.frame ⟨rfl, rfl, rfl, rfl, rfl, rfl, List.Subset.refl _⟩
  | route hR => exact h.afterRoute hR
  | sendCrossChain _ _ _ _ _ hR hmessage =>
    subst hmessage
    have hout := h.afterRoute hR
    exact ⟨hout.1, hout.2, hout.3, hout.4, hout.5, hout.6, hout.7⟩
  | routeRetry hR => exact h.afterRetry hsender hR hfree
  | sendCrossChainRetry hm hR => exact h.afterRetry (hplaced _ _ hm) hR hfree
  | @receiveMessage fromChainId _ R _ hR hskip hrun =>
    obtain ⟨_, _, _, _, _, _, hid, _, hnonce, hsenders⟩ := GlacisRouter.receiveMessage_spec hR
    have hout : Outbox keccak256 chainId (c.afterReceive keccak256 msgSender fromChainId R) :=
      h.frame ⟨hid, hnonce, hsenders, rfl, rfl, rfl, List.subset_append_left _ _⟩
    cases hex : R.executed with
    | false => rw [hskip hex]; exact hout
    | true => exact hout.frame (hrun hex).sameOutbox
  | @retryReceiveMessage fromChainId _ R _ hR hrun =>
    obtain ⟨_, _, _, _, _, hrouter⟩ := GlacisRouter.retryReceiveMessage_spec hR
    have hout : Outbox keccak256 chainId (c.afterRetryReceive keccak256 fromChainId R) := by
      refine h.frame ⟨?_, ?_, ?_, rfl, rfl, rfl, List.subset_append_left _ _⟩ <;>
        simp only [Chain.afterRetryReceive, hrouter]
    exact hout.frame hrun.sameOutbox

end Sending

end CrossRWA
