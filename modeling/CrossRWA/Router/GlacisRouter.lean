/-
  `GlacisRouter` — routing, retries, and receipts.

  The router is a state record and four calls:

  * `route` creates a message id, remembers its sender if the message is retryable, and hands the
    packed message to the adapters; `routeRetry` hands an already created message out again;
  * `receiveMessage` counts an adapter's delivery and, when the count reaches the client's quorum
    for the first time, executes the client; `retryReceiveMessage` executes without counting.

  What lies outside the router is an argument: the answers of the destination client
  (`Client`), and whether an adapter accepts a packet (`sendMessage`).  The client's own
  `receiveMessage` comes last in both calls and is left to the caller: `Received.executed`
  says whether it is made.

  Each call has one lemma that says everything a successful run of it does (`route_spec`, ...).
-/
import CrossRWA.Router.AbstractRouter

namespace CrossRWA

/-! ## The router's surroundings -/

/-- A destination contract's answers to the router's two queries. -/
structure Client where
  isAllowedRoute : GlacisRoute → Bytes → Except Revert Bool
  getQuorum : GlacisData → Bytes → Nat → Except Revert Nat

/-- An address without the client's functions: every call of it reverts. -/
def Client.noCode : Client where
  isAllowedRoute := fun _ _ => .error .noCode
  getQuorum := fun _ _ _ => .error .noCode

/-- One `IGlacisAdapter.sendMessage` call: the adapter and its arguments. -/
structure Packet where
  adapter : Address
  toChainId : Uint256
  refundAddress : Address
  incentives : CrossChainGas
  payload : Bytes
deriving DecidableEq, Repr

/-! ## State -/

structure MessageData where
  uniqueMessagesReceived : Nat
  executed : Bool
deriving DecidableEq, Repr

structure GlacisRouter where
  owner : Address
  pendingOwner : Address
  GLACIS_CHAIN_ID : Uint256
  registry : AdapterRegistry
  nonce : Nat
  messageSenders : Bytes32 → Address
  messageReceipts : Bytes32 → MessageData
  receivedCustomAdapterMessages : Bytes32 → Address → Bool
  receivedAdaptersList : Bytes32 → List Address

namespace GlacisRouter

/-- A deployed router with its adapters registered and no message seen yet. -/
def constructor (chainId : Uint256) (owner : Address) (registry : AdapterRegistry) :
    GlacisRouter where
  owner := owner
  pendingOwner := 0
  GLACIS_CHAIN_ID := chainId
  registry := registry
  nonce := 0
  messageSenders := fun _ => 0
  messageReceipts := fun _ => ⟨0, false⟩
  receivedCustomAdapterMessages := fun _ _ => false
  receivedAdaptersList := fun _ => []

def _onlyOwner (r : GlacisRouter) (msgSender : Address) : Except Revert Unit :=
  require (r.owner = msgSender) "Ownable: caller is not the owner"

/-- `Ownable2Step.transferOwnership`: the new owner has to accept. -/
def transferOwnership (r : GlacisRouter) (msgSender newOwner : Address) :
    Except Revert GlacisRouter := do
  r._onlyOwner msgSender
  pure { r with pendingOwner := newOwner }

/-- `Ownable2Step.acceptOwnership`. -/
def acceptOwnership (r : GlacisRouter) (msgSender : Address) : Except Revert GlacisRouter := do
  require (r.pendingOwner = msgSender) "Ownable2Step: caller is not the new owner"
  pure { r with owner := msgSender, pendingOwner := 0 }

/-- `Ownable.renounceOwnership`. -/
def renounceOwnership (r : GlacisRouter) (msgSender : Address) : Except Revert GlacisRouter := do
  r._onlyOwner msgSender
  pure { r with owner := 0, pendingOwner := 0 }

def registerAdapter (r : GlacisRouter) (msgSender : Address) (glacisGMPId : Uint8)
    (glacisAdapter : Address) : Except Revert GlacisRouter := do
  r._onlyOwner msgSender
  let registry ← r.registry.registerAdapter glacisGMPId glacisAdapter
  pure { r with registry := registry }

def unRegisterAdapter (r : GlacisRouter) (msgSender : Address) (glacisGMPId : Uint8) :
    Except Revert GlacisRouter := do
  r._onlyOwner msgSender
  let registry ← r.registry.unRegisterAdapter glacisGMPId
  pure { r with registry := registry }

/-- The calls that change neither messages nor receipts. -/
inductive LocalCall
  | acceptOwnership
  | transferOwnership (newOwner : Address)
  | renounceOwnership
  | registerAdapter (glacisGMPId : Uint8) (glacisAdapter : Address)
  | unRegisterAdapter (glacisGMPId : Uint8)
deriving DecidableEq, Repr

/-- The owner's calls. -/
def LocalCall.restricted : LocalCall → Bool
  | .acceptOwnership => false
  | _ => true

/-- Run one call that changes neither messages nor receipts. -/
def exec (r : GlacisRouter) (msgSender : Address) : LocalCall → Except Revert GlacisRouter
  | .acceptOwnership => r.acceptOwnership msgSender
  | .transferOwnership newOwner => r.transferOwnership msgSender newOwner
  | .renounceOwnership => r.renounceOwnership msgSender
  | .registerAdapter glacisGMPId glacisAdapter =>
    r.registerAdapter msgSender glacisGMPId glacisAdapter
  | .unRegisterAdapter glacisGMPId => r.unRegisterAdapter msgSender glacisGMPId

/-! ## Sending -/

/-- The fee loop's counter is a `uint8` incremented without a check: past 255 adapters it wraps
    and never reaches the length. -/
def validateFeesInput (value : Nat) (adaptersLength : Nat) (fees : List CrossChainGas) :
    Except Revert Unit := do
  revertIf (adaptersLength = 0) .GlacisRouter__GMPCountMustBeAtLeastOne
  revertIf (adaptersLength ≠ fees.length) .GlacisRouter__FeeArrayMustEqualGMPArray
  revertIf (255 < adaptersLength) .outOfGas
  revertIf ((fees.map fun fee => fee.nativeCurrencyValue.toNat).sum ≠ value)
    .GlacisRouter__FeeSumMustBeEqualToValue

/-- The adapter an entry of the `adapters` argument stands for. -/
def resolveAdapter (r : GlacisRouter) (adapter : Address) : Except Revert Address :=
  if adapter.toNat ≤ GLACIS_RESERVED_IDS then do
    let registered := r.registry.glacisGMPIdToAdapter (adapter.setWidth 8)
    revertIf (registered = 0) .GlacisRouter__GMPNotSupported
    pure registered
  else do
    revertIf (adapter = 0) .GlacisRouter__RouteDoesNotExist
    pure adapter

/-- The dispatch loop; the two lists have one length by `validateFeesInput`. -/
def _processRouting (r : GlacisRouter) (sendMessage : Packet → Bool) (chainId : Uint256)
    (glacisPackedPayload : Bytes) (refundAddress : Address) :
    List Address → List CrossChainGas → Except Revert (List Packet)
  | [], _ => pure []
  | _ :: _, [] => .error (.Panic 0x32)
  | adapter :: adapters, fee :: fees => do
    let adapter ← r.resolveAdapter adapter
    let packet : Packet := ⟨adapter, chainId, refundAddress, fee, glacisPackedPayload⟩
    revertIf (sendMessage packet = false) .adapterReverted
    let packets ← r._processRouting sendMessage chainId glacisPackedPayload refundAddress
      adapters fees
    pure (packet :: packets)

/-- What `route` returns, together with the packets the adapters took. -/
structure Routed where
  router : GlacisRouter
  messageId : Bytes32
  nonce : Uint256
  packets : List Packet

section Routing

variable (keccak256 : Bytes → Bytes32)

def _createGlacisMessageId (r : GlacisRouter) (msgSender : Address) (toChainId : Uint256)
    (to_ : Bytes32) (payload : Bytes) : Except Revert (GlacisRouter × Bytes32 × Uint256) := do
  let messageNonce := BitVec.ofNat 256 r.nonce
  let nonce ← checkedAdd r.nonce 1
  let messageId := glacisMessageId keccak256 toChainId r.GLACIS_CHAIN_ID to_ payload
    (toBytes32 msgSender) messageNonce
  pure ({ r with nonce := nonce }, messageId, messageNonce)

def route (r : GlacisRouter) (sendMessage : Packet → Bool) (msgSender : Address) (value : Nat)
    (chainId : Uint256) (to_ : Bytes32) (payload : Bytes) (adapters : List Address)
    (fees : List CrossChainGas) (refundAddress : Address) (retryable : Bool) :
    Except Revert Routed := do
  validateFeesInput value adapters.length fees
  let src := toBytes32 msgSender
  let (r, messageId, nonce) ← r._createGlacisMessageId keccak256 msgSender chainId to_ payload
  let r := if retryable then
      { r with messageSenders := Function.update r.messageSenders messageId msgSender }
    else r
  let packets ← r._processRouting sendMessage chainId
    (encodeGlacisPayload ⟨messageId, nonce, src, to_⟩ payload) refundAddress adapters fees
  pure ⟨r, messageId, nonce, packets⟩

/-- `routeRetry` changes no state of the router; it returns its own arguments `messageId` and
    `nonce`, and hands these packets out. -/
def routeRetry (r : GlacisRouter) (sendMessage : Packet → Bool) (msgSender : Address)
    (value : Nat) (chainId : Uint256) (to_ : Bytes32) (payload : Bytes) (adapters : List Address)
    (fees : List CrossChainGas) (refundAddress : Address) (messageId : Bytes32)
    (nonce : Uint256) : Except Revert (List Packet) := do
  validateFeesInput value adapters.length fees
  revertIf (r.messageSenders messageId ≠ msgSender) .GlacisRouter__NotOwnerOfMessageToRetry
  revertIf (_validateGlacisMessageId keccak256 messageId chainId r.GLACIS_CHAIN_ID to_
      (toBytes32 msgSender) nonce payload = false)
    .GlacisRouter__MessageInputNotIdenticalForRetry
  let src := toBytes32 msgSender
  r._processRouting sendMessage chainId (encodeGlacisPayload ⟨messageId, nonce, src, to_⟩ payload)
    refundAddress adapters fees

/-! ## Receiving -/

/-- What a receiving call leaves to do: the message, the adapters that brought it, and whether
    the client is to be called. -/
structure Received where
  router : GlacisRouter
  glacisData : GlacisData
  payload : Bytes
  executed : Bool
  fromAdapters : List Address

/-- The two route queries: for the sender's own address, then for its GMP id if it has one. -/
def _routeAllowed (r : GlacisRouter) (client : Client) (msgSender : Address)
    (fromChainId : Uint256) (glacisData : GlacisData) (payload : Bytes) : Except Revert Bool := do
  let gmpId := r.registry.adapterToGlacisGMPId msgSender
  let routeAllowed ← client.isAllowedRoute ⟨fromChainId, glacisData.originalFrom, msgSender⟩ payload
  if routeAllowed = false ∧ gmpId ≠ 0 then
    client.isAllowedRoute ⟨fromChainId, glacisData.originalFrom, gmpId.setWidth 160⟩ payload
  else pure routeAllowed

def receiveMessage (r : GlacisRouter) (clientAt : Address → Client) (msgSender : Address)
    (fromChainId : Uint256) (glacisPayload : Bytes) : Except Revert Received := do
  let (glacisData, payload) ← orRevert (decodeGlacisPayload glacisPayload) .abiDecode
  let client := clientAt (toAddress glacisData.originalTo)
  let routeAllowed ← r._routeAllowed client msgSender fromChainId glacisData payload
  revertIf (routeAllowed = false) .GlacisRouter__ClientDeniedRoute
  let currentReceipt := r.messageReceipts glacisData.messageId
  revertIf (r.receivedCustomAdapterMessages glacisData.messageId msgSender = true)
    .GlacisRouter__MessageAlreadyReceivedFromGMP
  let quorum ← client.getQuorum glacisData payload currentReceipt.uniqueMessagesReceived
  revertIf (2 ^ 248 ≤ currentReceipt.uniqueMessagesReceived + 1) (.Panic 0x11)
  let uniqueMessagesReceived := currentReceipt.uniqueMessagesReceived + 1
  let fromAdapters := r.receivedAdaptersList glacisData.messageId ++ [msgSender]
  revertIf (_validateGlacisMessageId keccak256 glacisData.messageId r.GLACIS_CHAIN_ID fromChainId
      glacisData.originalTo glacisData.originalFrom glacisData.nonce payload = false)
    .GlacisRouter__MessageIdNotValid
  let executes := decide (uniqueMessagesReceived = quorum ∧ currentReceipt.executed = false)
  pure
    { router := { r with
        receivedCustomAdapterMessages :=
          Function.update r.receivedCustomAdapterMessages glacisData.messageId
            (Function.update (r.receivedCustomAdapterMessages glacisData.messageId) msgSender true)
        receivedAdaptersList :=
          Function.update r.receivedAdaptersList glacisData.messageId fromAdapters
        messageReceipts := Function.update r.messageReceipts glacisData.messageId
          ⟨uniqueMessagesReceived, currentReceipt.executed || executes⟩ }
      glacisData := glacisData
      payload := payload
      executed := executes
      fromAdapters := fromAdapters }

def retryReceiveMessage (r : GlacisRouter) (clientAt : Address → Client) (fromChainId : Uint256)
    (glacisPayload : Bytes) : Except Revert Received := do
  let (glacisData, payload) ← orRevert (decodeGlacisPayload glacisPayload) .abiDecode
  let client := clientAt (toAddress glacisData.originalTo)
  let currentReceipt := r.messageReceipts glacisData.messageId
  let quorum ← client.getQuorum glacisData payload currentReceipt.uniqueMessagesReceived
  revertIf (_validateGlacisMessageId keccak256 glacisData.messageId r.GLACIS_CHAIN_ID fromChainId
      glacisData.originalTo glacisData.originalFrom glacisData.nonce payload = false)
    .GlacisRouter__MessageIdNotValid
  revertIf (¬ (quorum ≤ currentReceipt.uniqueMessagesReceived ∧ currentReceipt.executed = false ∧
      0 < quorum))
    (.GlacisRouter__DestinationRetryNotSatisfied
      (decide (quorum ≤ currentReceipt.uniqueMessagesReceived)) (!currentReceipt.executed)
      (decide (0 < quorum)))
  pure
    { router := { r with
        messageReceipts := Function.update r.messageReceipts glacisData.messageId
          { currentReceipt with executed := true } }
      glacisData := glacisData
      payload := payload
      executed := true
      fromAdapters := r.receivedAdaptersList glacisData.messageId }

end Routing

/-! ## What each call does -/

variable {keccak256 : Bytes → Bytes32} {r : GlacisRouter} {sendMessage : Packet → Bool}

/-- A local call changes the owner or the registry; an unrestricted one leaves the registry. -/
theorem exec_spec {r' : GlacisRouter} {msgSender : Address} {call : LocalCall}
    (h : r.exec msgSender call = .ok r') :
    (∃ owner pendingOwner registry, r' =
      { r with owner := owner, pendingOwner := pendingOwner, registry := registry }) ∧
      (call.restricted = false → r'.registry = r.registry) := by
  cases call with
  | acceptOwnership =>
    simp only [exec, acceptOwnership, bind_eq_ok, pure_eq_ok] at h
    obtain ⟨_, _, rfl⟩ := h
    exact ⟨⟨_, _, _, rfl⟩, fun _ => rfl⟩
  | transferOwnership newOwner =>
    simp only [exec, transferOwnership, bind_eq_ok, pure_eq_ok] at h
    obtain ⟨_, _, rfl⟩ := h
    exact ⟨⟨_, _, _, rfl⟩, fun _ => rfl⟩
  | renounceOwnership =>
    simp only [exec, renounceOwnership, bind_eq_ok, pure_eq_ok] at h
    obtain ⟨_, _, rfl⟩ := h
    exact ⟨⟨_, _, _, rfl⟩, fun _ => rfl⟩
  | registerAdapter glacisGMPId glacisAdapter =>
    simp only [exec, registerAdapter, bind_eq_ok, pure_eq_ok] at h
    obtain ⟨_, _, registry, _, rfl⟩ := h
    exact ⟨⟨_, _, _, rfl⟩, fun hc => nomatch hc⟩
  | unRegisterAdapter glacisGMPId =>
    simp only [exec, unRegisterAdapter, bind_eq_ok, pure_eq_ok] at h
    obtain ⟨_, _, registry, _, rfl⟩ := h
    exact ⟨⟨_, _, _, rfl⟩, fun hc => nomatch hc⟩

/-- Every packet of one dispatch carries the same message to the same chain. -/
theorem _processRouting_spec {chainId : Uint256} {packed : Bytes} {refundAddress : Address}
    {adapters : List Address} {fees : List CrossChainGas} {packets : List Packet}
    (h : r._processRouting sendMessage chainId packed refundAddress adapters fees = .ok packets) :
    ∀ pk ∈ packets, pk.payload = packed ∧ pk.toChainId = chainId := by
  induction adapters generalizing fees packets with
  | nil =>
    obtain rfl := pure_eq_ok.mp h
    intro pk hpk
    exact absurd hpk (List.not_mem_nil)
  | cons adapter adapters ih =>
    cases fees with
    | nil => cases h
    | cons fee fees =>
      simp only [_processRouting, bind_eq_ok, pure_eq_ok] at h
      obtain ⟨_, _, _, _, rest, hrest, rfl⟩ := h
      intro pk hpk
      rcases List.mem_cons.mp hpk with rfl | hpk
      · exact ⟨rfl, rfl⟩
      · exact ih hrest pk hpk

/-- **`route`**: a fresh nonce, the id of the message, its sender remembered if retryable, and
    the packed message in every packet. -/
theorem route_spec {msgSender refundAddress : Address} {value : Nat} {chainId : Uint256}
    {to_ : Bytes32} {payload : Bytes} {adapters : List Address} {fees : List CrossChainGas}
    {retryable : Bool} {R : Routed}
    (h : r.route keccak256 sendMessage msgSender value chainId to_ payload adapters fees
      refundAddress retryable = .ok R) :
    R.nonce.toNat = r.nonce ∧
      R.messageId = glacisMessageId keccak256 chainId r.GLACIS_CHAIN_ID to_ payload
        (toBytes32 msgSender) R.nonce ∧
      R.router = { r with
        nonce := r.nonce + 1
        messageSenders := if retryable then
          Function.update r.messageSenders R.messageId msgSender else r.messageSenders } ∧
      ∀ pk ∈ R.packets, pk.toChainId = chainId ∧ pk.payload =
        encodeGlacisPayload ⟨R.messageId, R.nonce, toBytes32 msgSender, to_⟩ payload := by
  simp only [route, _createGlacisMessageId, bind_eq_ok, pure_eq_ok, checkedAdd_eq_ok] at h
  obtain ⟨_, _, ⟨_, _, _⟩, ⟨_, ⟨hle, rfl⟩, hid⟩, packets, hpackets, rfl⟩ := h
  simp only [Prod.mk.injEq] at hid
  obtain ⟨rfl, rfl, rfl⟩ := hid
  refine ⟨?_, rfl, ?_, fun pk hpk => ?_⟩
  · rw [BitVec.toNat_ofNat]
    exact Nat.mod_eq_of_lt (by unfold uint256Max at hle; omega)
  · cases retryable <;> rfl
  · obtain ⟨hp, hc⟩ := _processRouting_spec hpackets pk hpk
    exact ⟨hc, hp⟩

/-- **`routeRetry`**: only the remembered sender, only with the message the id commits to. -/
theorem routeRetry_spec {msgSender refundAddress : Address} {value : Nat} {chainId : Uint256}
    {to_ : Bytes32} {payload : Bytes} {adapters : List Address} {fees : List CrossChainGas}
    {messageId : Bytes32} {nonce : Uint256} {packets : List Packet}
    (h : r.routeRetry keccak256 sendMessage msgSender value chainId to_ payload adapters fees
      refundAddress messageId nonce = .ok packets) :
    r.messageSenders messageId = msgSender ∧
      messageId = glacisMessageId keccak256 chainId r.GLACIS_CHAIN_ID to_ payload
        (toBytes32 msgSender) nonce ∧
      ∀ pk ∈ packets, pk.toChainId = chainId ∧ pk.payload =
        encodeGlacisPayload ⟨messageId, nonce, toBytes32 msgSender, to_⟩ payload := by
  simp only [routeRetry, bind_eq_ok, revertIf_eq_ok, _validateGlacisMessageId_eq_false,
    not_not] at h
  obtain ⟨_, _, _, hsender, _, hid, hpackets⟩ := h
  refine ⟨hsender, hid, fun pk hpk => ?_⟩
  · obtain ⟨hp, hc⟩ := _processRouting_spec hpackets pk hpk
    exact ⟨hc, hp⟩

/-- The route a delivery was allowed under: the sender's own address, or its GMP id. -/
theorem _routeAllowed_spec {client : Client} {msgSender : Address} {fromChainId : Uint256}
    {glacisData : GlacisData} {payload : Bytes}
    (h : r._routeAllowed client msgSender fromChainId glacisData payload = .ok true) :
    client.isAllowedRoute ⟨fromChainId, glacisData.originalFrom, msgSender⟩ payload = .ok true ∨
      r.registry.adapterToGlacisGMPId msgSender ≠ 0 ∧
      client.isAllowedRoute ⟨fromChainId, glacisData.originalFrom,
        (r.registry.adapterToGlacisGMPId msgSender).setWidth 160⟩ payload = .ok true := by
  simp only [_routeAllowed, bind_eq_ok] at h
  obtain ⟨allowed, hown, h⟩ := h
  split at h
  · next hgmp => exact Or.inr ⟨hgmp.2, h⟩
  · obtain rfl := pure_eq_ok.mp h
    exact Or.inl hown

/-- **`receiveMessage`**: an allowed, validated message not yet brought by this adapter; the
    receipt counts it and executes when the count reaches the quorum for the first time. -/
theorem receiveMessage_spec {clientAt : Address → Client} {msgSender : Address}
    {fromChainId : Uint256} {glacisPayload : Bytes} {R : Received}
    (h : r.receiveMessage keccak256 clientAt msgSender fromChainId glacisPayload = .ok R) :
    decodeGlacisPayload glacisPayload = some (R.glacisData, R.payload) ∧
      r._routeAllowed (clientAt (toAddress R.glacisData.originalTo)) msgSender fromChainId
        R.glacisData R.payload = .ok true ∧
      R.glacisData.messageId = glacisMessageId keccak256 r.GLACIS_CHAIN_ID fromChainId
        R.glacisData.originalTo R.payload R.glacisData.originalFrom R.glacisData.nonce ∧
      (∃ quorum, (clientAt (toAddress R.glacisData.originalTo)).getQuorum R.glacisData R.payload
          (r.messageReceipts R.glacisData.messageId).uniqueMessagesReceived = .ok quorum ∧
        R.executed = decide
          ((r.messageReceipts R.glacisData.messageId).uniqueMessagesReceived + 1 = quorum ∧
            (r.messageReceipts R.glacisData.messageId).executed = false)) ∧
      R.router.messageReceipts = Function.update r.messageReceipts R.glacisData.messageId
        ⟨(r.messageReceipts R.glacisData.messageId).uniqueMessagesReceived + 1,
          (r.messageReceipts R.glacisData.messageId).executed || R.executed⟩ ∧
      R.router.receivedCustomAdapterMessages = Function.update r.receivedCustomAdapterMessages
        R.glacisData.messageId (Function.update
          (r.receivedCustomAdapterMessages R.glacisData.messageId) msgSender true) ∧
      R.router.GLACIS_CHAIN_ID = r.GLACIS_CHAIN_ID ∧ R.router.registry = r.registry ∧
      R.router.nonce = r.nonce ∧ R.router.messageSenders = r.messageSenders := by
  simp only [receiveMessage, bind_eq_ok, revertIf_eq_ok, orRevert_eq_ok, pure_eq_ok,
    _validateGlacisMessageId_eq_false, not_not] at h
  obtain ⟨⟨data, payload⟩, hdec, allowed, hallowed, _, hdeny, _, _, quorum, hquorum, _, _, _, hid,
    rfl⟩ := h
  rw [Bool.not_eq_false] at hdeny
  subst hdeny
  exact ⟨hdec, hallowed, hid, ⟨quorum, hquorum, rfl⟩, rfl, rfl, rfl, rfl, rfl, rfl⟩

/-- **`retryReceiveMessage`**: a validated message whose receipt has reached a positive quorum
    without having executed. -/
theorem retryReceiveMessage_spec {clientAt : Address → Client} {fromChainId : Uint256}
    {glacisPayload : Bytes} {R : Received}
    (h : r.retryReceiveMessage keccak256 clientAt fromChainId glacisPayload = .ok R) :
    decodeGlacisPayload glacisPayload = some (R.glacisData, R.payload) ∧
      R.glacisData.messageId = glacisMessageId keccak256 r.GLACIS_CHAIN_ID fromChainId
        R.glacisData.originalTo R.payload R.glacisData.originalFrom R.glacisData.nonce ∧
      (∃ quorum, (clientAt (toAddress R.glacisData.originalTo)).getQuorum R.glacisData R.payload
          (r.messageReceipts R.glacisData.messageId).uniqueMessagesReceived = .ok quorum ∧
        0 < quorum ∧
        quorum ≤ (r.messageReceipts R.glacisData.messageId).uniqueMessagesReceived) ∧
      (r.messageReceipts R.glacisData.messageId).executed = false ∧ R.executed = true ∧
      R.router = { r with
        messageReceipts := Function.update r.messageReceipts R.glacisData.messageId
          { r.messageReceipts R.glacisData.messageId with executed := true } } := by
  simp only [retryReceiveMessage, bind_eq_ok, revertIf_eq_ok, orRevert_eq_ok, pure_eq_ok,
    _validateGlacisMessageId_eq_false, not_not] at h
  obtain ⟨⟨data, payload⟩, hdec, quorum, hquorum, _, hid, _, ⟨hle, hex, hpos⟩, rfl⟩ := h
  exact ⟨hdec, hid,
    ⟨quorum, hquorum, hpos, hle⟩, hex, rfl, rfl⟩

/-- The votes of a `receiveMessage`: its sender had not brought the message, and is the last of
    the adapters that have. -/
theorem receiveMessage_votes {clientAt : Address → Client} {msgSender : Address}
    {fromChainId : Uint256} {glacisPayload : Bytes} {R : Received}
    (h : r.receiveMessage keccak256 clientAt msgSender fromChainId glacisPayload = .ok R) :
    r.receivedCustomAdapterMessages R.glacisData.messageId msgSender = false ∧
      R.fromAdapters = r.receivedAdaptersList R.glacisData.messageId ++ [msgSender] ∧
      R.router.receivedAdaptersList =
        Function.update r.receivedAdaptersList R.glacisData.messageId R.fromAdapters := by
  simp only [receiveMessage, bind_eq_ok, revertIf_eq_ok, orRevert_eq_ok, pure_eq_ok,
    Bool.not_eq_true] at h
  obtain ⟨⟨data, payload⟩, _, _, _, _, _, _, hflag, _, _, _, _, _, _, rfl⟩ := h
  exact ⟨hflag, rfl, rfl⟩

/-- A retry executes with the adapters that have brought the message. -/
theorem retryReceiveMessage_votes {clientAt : Address → Client} {fromChainId : Uint256}
    {glacisPayload : Bytes} {R : Received}
    (h : r.retryReceiveMessage keccak256 clientAt fromChainId glacisPayload = .ok R) :
    R.fromAdapters = r.receivedAdaptersList R.glacisData.messageId := by
  simp only [retryReceiveMessage, bind_eq_ok, revertIf_eq_ok, orRevert_eq_ok, pure_eq_ok] at h
  obtain ⟨⟨data, payload⟩, _, _, _, _, _, _, _, rfl⟩ := h
  rfl

/-! ## When a call goes through -/

/-- A reserved id among the adapters stands for the adapter registered under it. -/
theorem resolveAdapter_of_id {gmpId : Uint8} (hgmp : gmpId.toNat ≤ GLACIS_RESERVED_IDS)
    (hreg : r.registry.glacisGMPIdToAdapter gmpId ≠ 0) :
    r.resolveAdapter (gmpId.setWidth 160) = .ok (r.registry.glacisGMPIdToAdapter gmpId) := by
  have hnat : (gmpId.setWidth 160).toNat = gmpId.toNat := by
    rw [BitVec.toNat_setWidth]
    exact Nat.mod_eq_of_lt (lt_of_lt_of_le gmpId.isLt (by decide))
  have hback : (gmpId.setWidth 160).setWidth 8 = gmpId := by
    rw [BitVec.setWidth_setWidth_of_le _ (by decide), BitVec.setWidth_eq]
  unfold resolveAdapter
  rw [hnat, if_pos hgmp, hback]
  exact bind_eq_ok.mpr ⟨(), revertIf_eq_ok.mpr hreg, rfl⟩

/-- **A retry by the message's sender**, through one registered id and with its fee, goes through
    and hands the same message out again. -/
theorem routeRetry_ok {msgSender refundAddress : Address} {chainId : Uint256} {to_ : Bytes32}
    {payload : Bytes} {gmpId : Uint8} {fee : CrossChainGas} {messageId : Bytes32} {nonce : Uint256}
    (hsend : ∀ packet, sendMessage packet = true) (hgmp : gmpId.toNat ≤ GLACIS_RESERVED_IDS)
    (hreg : r.registry.glacisGMPIdToAdapter gmpId ≠ 0)
    (hsender : r.messageSenders messageId = msgSender)
    (hid : messageId = glacisMessageId keccak256 chainId r.GLACIS_CHAIN_ID to_ payload
      (toBytes32 msgSender) nonce) :
    r.routeRetry keccak256 sendMessage msgSender fee.nativeCurrencyValue.toNat chainId to_ payload
        [gmpId.setWidth 160] [fee] refundAddress messageId nonce =
      .ok [⟨r.registry.glacisGMPIdToAdapter gmpId, chainId, refundAddress, fee,
        encodeGlacisPayload ⟨messageId, nonce, toBytes32 msgSender, to_⟩ payload⟩] := by
  have hfees : validateFeesInput fee.nativeCurrencyValue.toNat 1 [fee] = .ok () := by
    simp [validateFeesInput, bind_eq_ok]
  have hresolve := resolveAdapter_of_id hgmp hreg
  simp only [routeRetry, bind_eq_ok, revertIf_eq_ok, _validateGlacisMessageId_eq_false, not_not]
  refine ⟨(), hfees, (), hsender, (), hid, ?_⟩
  simp only [_processRouting, bind_eq_ok, revertIf_eq_ok, Bool.not_eq_false]
  exact ⟨_, hresolve, (), hsend _, [], rfl, rfl⟩

/-- **A first delivery** of a valid message with quorum 1, allowed under the sender's GMP id, goes
    through and executes. -/
theorem receiveMessage_ok {clientAt : Address → Client} {msgSender : Address}
    {fromChainId : Uint256} {glacisPayload : Bytes} {data : GlacisData} {payload : Bytes}
    {allowed : Bool} (hdec : decodeGlacisPayload glacisPayload = some (data, payload))
    (hgmp : r.registry.adapterToGlacisGMPId msgSender ≠ 0)
    (hown : (clientAt (toAddress data.originalTo)).isAllowedRoute
      ⟨fromChainId, data.originalFrom, msgSender⟩ payload = .ok allowed)
    (hroute : (clientAt (toAddress data.originalTo)).isAllowedRoute ⟨fromChainId, data.originalFrom,
      (r.registry.adapterToGlacisGMPId msgSender).setWidth 160⟩ payload = .ok true)
    (hquorum : (clientAt (toAddress data.originalTo)).getQuorum data payload 0 = .ok 1)
    (hfresh : r.messageReceipts data.messageId = ⟨0, false⟩)
    (hflag : r.receivedCustomAdapterMessages data.messageId msgSender = false)
    (hid : data.messageId = glacisMessageId keccak256 r.GLACIS_CHAIN_ID fromChainId data.originalTo
      payload data.originalFrom data.nonce) :
    ∃ R, r.receiveMessage keccak256 clientAt msgSender fromChainId glacisPayload = .ok R ∧
      R.glacisData = data ∧ R.payload = payload ∧ R.executed = true := by
  have hallowed : r._routeAllowed (clientAt (toAddress data.originalTo)) msgSender fromChainId data
      payload = .ok true := by
    refine bind_eq_ok.mpr ⟨allowed, hown, ?_⟩
    cases allowed with
    | true => rfl
    | false =>
      rw [if_pos ⟨rfl, hgmp⟩]
      exact hroute
  simp only [receiveMessage, bind_eq_ok, revertIf_eq_ok, orRevert_eq_ok, pure_eq_ok,
    _validateGlacisMessageId_eq_false, not_not]
  refine ⟨_, ⟨(data, payload), hdec, true, hallowed, (), by decide, (), ?_, 1, ?_, (), ?_, (), hid,
    rfl⟩, rfl, rfl, ?_⟩
  · rw [hflag]; decide
  · rw [hfresh]; exact hquorum
  · rw [hfresh]; decide
  · rw [hfresh]; rfl

/-- **A retry** of a valid message whose receipt has reached the client's quorum goes through. -/
theorem retryReceiveMessage_ok {clientAt : Address → Client} {fromChainId : Uint256}
    {glacisPayload : Bytes} {data : GlacisData} {payload : Bytes} {quorum : Nat}
    (hdec : decodeGlacisPayload glacisPayload = some (data, payload))
    (hquorum : (clientAt (toAddress data.originalTo)).getQuorum data payload
      (r.messageReceipts data.messageId).uniqueMessagesReceived = .ok quorum)
    (hle : quorum ≤ (r.messageReceipts data.messageId).uniqueMessagesReceived) (hpos : 0 < quorum)
    (hex : (r.messageReceipts data.messageId).executed = false)
    (hid : data.messageId = glacisMessageId keccak256 r.GLACIS_CHAIN_ID fromChainId data.originalTo
      payload data.originalFrom data.nonce) :
    ∃ R, r.retryReceiveMessage keccak256 clientAt fromChainId glacisPayload = .ok R ∧
      R.glacisData = data ∧ R.payload = payload := by
  simp only [retryReceiveMessage, bind_eq_ok, revertIf_eq_ok, orRevert_eq_ok, pure_eq_ok,
    _validateGlacisMessageId_eq_false, not_not]
  exact ⟨_, ⟨(data, payload), hdec, quorum, hquorum, (), hid, (), ⟨hle, hex, hpos⟩, rfl⟩, rfl, rfl⟩

end GlacisRouter

end CrossRWA
