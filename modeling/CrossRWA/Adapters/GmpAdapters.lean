/-
  The adapters of Wormhole, Hyperlane, LayerZero V2, CCIP and Axelar.

  Each adapter has one function that hands a message to its GMP (`_sendMessage`) and one that takes
  a message from it; the second ends with a call of the router, which is its result here
  (`RouterCall`).  What the GMPs do is an argument: their prices, whether they take a message, and
  what Axelar's gateway has validated (`GmpEnv`).

  1. `GmpCall` is what a GMP was asked to carry, with the arguments of its own interface.
  2. `Sent` adds where the native currency of the call went; `Sent.Spends` says that none of it
     stays in the adapter.
  3. `Forwards` is what every receiving function has in common: it passes `onlyAuthorizedAdapter`
     for the chain and the source its GMP names, and forwards the bytes under the chain's id.
-/
import CrossRWA.Adapters.AbstractAdapter

set_option linter.unusedSectionVars false

namespace CrossRWA

open Calls

/-! ## The GMPs -/

/-- A call of a GMP's sending function. -/
inductive GmpCall
  | sendPayloadToEvm (targetChain : Uint16) (targetAddress : Address) (payload : Bytes)
      (receiverValue gasLimit : Nat) (refundChain : Uint16) (refundAddress : Address)
  | dispatch (destinationDomain : Uint32) (recipientAddress : Bytes32) (body : Bytes)
      (gasLimit : Nat) (refundAddress : Address)
  | endpointSend (dstEid : Uint32) (receiver : Bytes32) (message : Bytes) (gasLimit : Nat)
      (refundAddress : Address)
  | ccipSend (destinationChainSelector : Uint64) (receiver data : Bytes) (gasLimit : Nat)
  | callContract (destinationChain contractAddress payload : Bytes)
  | lzSend (dstChainId : Uint16) (destination payload : Bytes)
      (refundAddress zroPaymentAddress : Address) (adapterParams : Bytes)
deriving DecidableEq, Repr

/-- The GMPs that have an adapter. -/
inductive Gmp
  | wormhole
  | hyperlane
  | layerZeroV2
  | ccip
  | axelar
  | layerZero
deriving DecidableEq, Repr

def GmpCall.gmp : GmpCall → Gmp
  | .sendPayloadToEvm .. => .wormhole
  | .dispatch .. => .hyperlane
  | .endpointSend .. => .layerZeroV2
  | .ccipSend .. => .ccip
  | .callContract .. => .axelar
  | .lzSend .. => .layerZero

/-- The bytes to carry. -/
def GmpCall.payload : GmpCall → Bytes
  | .sendPayloadToEvm _ _ payload _ _ _ _ => payload
  | .dispatch _ _ body _ _ => body
  | .endpointSend _ _ message _ _ => message
  | .ccipSend _ _ data _ => data
  | .callContract _ _ payload => payload
  | .lzSend _ _ payload _ _ _ => payload

/-- What the GMPs do during one call: prices (`none` for a revert), whether a message or a refund
    is taken, and what Axelar's gateway has validated. -/
structure GmpEnv where
  quoteEVMDeliveryPrice : Uint16 → Nat → Nat → Option Nat
  quoteDispatch : Uint32 → Bytes32 → Bytes → Nat → Address → Option Nat
  getFee : Uint64 → Bytes → Bytes → Nat → Option Nat
  accepts : GmpCall → Nat → Bool
  takesRefund : Address → Nat → Bool
  validateContractCall : Bytes32 → Bytes → Bytes → Bytes → Bool

/-- A successful `_sendMessage`: what the GMP was asked, what it was paid, and the refund. -/
structure Sent where
  call : GmpCall
  paid : Nat
  refund : Nat
deriving DecidableEq, Repr

/-- Nothing of the value stays in the adapter. -/
def Sent.Spends (s : Sent) (value : Nat) : Prop := s.paid + s.refund = value

/-- The call of `GLACIS_ROUTER.receiveMessage` that ends a delivery. -/
structure RouterCall where
  fromChainId : Uint256
  glacisPayload : Bytes
deriving DecidableEq, Repr

/-- A delivery of `payload` from `source` on `chain`, authorized and forwarded. -/
structure GlacisAbstractAdapter.Forwards {C : Type} [Inhabited C] (a : GlacisAbstractAdapter C)
    (chain : C) (source : Bytes32) (payload : Bytes) (R : RouterCall) : Prop where
  authorized : a.onlyAuthorizedAdapter (a.adapterChainIdToGlacisChainId chain) source = .ok ()
  call_eq : R = ⟨a.adapterChainIdToGlacisChainId chain, payload⟩

/-- The call of a GMP with `paid`, and the rest of `value` to the refund address. -/
def payAndRefund (env : GmpEnv) (call : GmpCall) (value paid : Nat) (refundAddress : Address)
    (e : AdapterRevert) : Except AdapterRevert Sent := do
  refuseIf (env.accepts call paid = false) .gmpReverted
  refuseIf (paid < value ∧ env.takesRefund refundAddress (value - paid) = false) e
  pure ⟨call, paid, value - paid⟩

theorem payAndRefund_eq_ok {env : GmpEnv} {call : GmpCall} {value paid : Nat}
    {refundAddress : Address} {e : AdapterRevert} {s : Sent} (hpaid : paid ≤ value)
    (h : payAndRefund env call value paid refundAddress e = .ok s) :
    s.call = call ∧ s.Spends value := by
  simp only [payAndRefund, seq_eq_ok, ret_eq_ok] at h
  obtain ⟨_, _, _, _, rfl⟩ := h
  exact ⟨rfl, Nat.add_sub_of_le hpaid⟩

/-- If the GMP takes the message and the refund address the refund. -/
theorem payAndRefund_of_taken {env : GmpEnv} {call : GmpCall} {value paid : Nat}
    {refundAddress : Address} {e : AdapterRevert} (hcall : env.accepts call paid = true)
    (hrefund : env.takesRefund refundAddress (value - paid) = true) :
    payAndRefund env call value paid refundAddress e = .ok ⟨call, paid, value - paid⟩ := by
  simp only [payAndRefund, seq_eq_ok, refuseIf_eq_ok, hcall, hrefund]
  exact ⟨(), Bool.noConfusion, (), fun h => Bool.noConfusion h.2, rfl⟩

/-! ## Wormhole -/

structure GlacisWormholeAdapter extends GlacisAbstractAdapter Uint16 where
  WORMHOLE_RELAYER : Address
  WORMHOLE_CHAIN_ID : Uint16
  seenDeliveryVaaHashes : Bytes32 → Bool

namespace GlacisWormholeAdapter

def GAS_LIMIT : Nat := 900000

def RECEIVER_VALUE : Nat := 0

/-- Unlike in the other adapters, the chain is checked before the counterpart. -/
def _sendMessage (a : GlacisWormholeAdapter) (env : GmpEnv) (value : Nat) (toChainId : Uint256)
    (refundAddress : Address) (incentives : CrossChainGas) (payload : Bytes) :
    Except AdapterRevert Sent := do
  let dstchainId := a.glacisChainIdToAdapterChainId toChainId
  let counterpart := a.remoteCounterpart toChainId
  refuseIf (dstchainId = 0) (.GlacisAbstractAdapter__ChainIsNotAvailable toChainId)
  refuseIf (counterpart = 0) (.GlacisAbstractAdapter__NoRemoteAdapterForChainId toChainId)
  let selectedGasLimit :=
    if incentives.gasLimit.toNat > 0 then incentives.gasLimit.toNat else GAS_LIMIT
  let nativePriceQuote ← orRefuse
    (env.quoteEVMDeliveryPrice dstchainId RECEIVER_VALUE selectedGasLimit) .gmpReverted
  refuseIf (nativePriceQuote > value)
    .GlacisWormholeAdapter__NotEnoughValueForCrossChainTransaction
  payAndRefund env (.sendPayloadToEvm dstchainId (toAddress counterpart) payload RECEIVER_VALUE
    selectedGasLimit a.WORMHOLE_CHAIN_ID refundAddress) value nativePriceQuote refundAddress
    .GlacisWormholeAdapter__RefundAddressMustReceiveNativeCurrency

/-- The additional VAAs are not used. -/
def receiveWormholeMessages (a : GlacisWormholeAdapter) (msgSender : Address) (payload : Bytes)
    (_additionalVaas : List Bytes) (sourceAddress : Bytes32) (sourceChain : Uint16)
    (deliveryHash : Bytes32) : Except AdapterRevert (GlacisWormholeAdapter × RouterCall) := do
  a.onlyAuthorizedAdapter (a.adapterChainIdToGlacisChainId sourceChain) sourceAddress
  refuseIf (msgSender ≠ a.WORMHOLE_RELAYER) .GlacisWormholeAdapter__OnlyRelayerAllowed
  refuseIf (a.seenDeliveryVaaHashes deliveryHash = true) .GlacisWormholeAdapter__AlreadyProcessedVAA
  let sourceChainGlacisId := a.adapterChainIdToGlacisChainId sourceChain
  refuseIf (sourceChainGlacisId = 0) .GlacisAbstractAdapter__SourceChainNotRegistered
  pure ({ a with seenDeliveryVaaHashes := Function.update a.seenDeliveryVaaHashes deliveryHash true },
    ⟨sourceChainGlacisId, payload⟩)

theorem _sendMessage_spec {a : GlacisWormholeAdapter} {env : GmpEnv} {value : Nat}
    {toChainId : Uint256} {refundAddress : Address} {incentives : CrossChainGas} {payload : Bytes}
    {s : Sent} (h : a._sendMessage env value toChainId refundAddress incentives payload = .ok s) :
    s.call.gmp = .wormhole ∧ s.call.payload = payload ∧ s.Spends value := by
  simp only [_sendMessage, seq_eq_ok, refuseIf_eq_ok] at h
  obtain ⟨_, _, _, _, quote, _, _, hle, h⟩ := h
  obtain ⟨hcall, hspends⟩ := payAndRefund_eq_ok (Nat.le_of_not_gt hle) h
  rw [hcall]
  exact ⟨rfl, rfl, hspends⟩

/-- A delivery is the relayer's, new, and forwarded. -/
theorem receiveWormholeMessages_spec {a a' : GlacisWormholeAdapter} {msgSender : Address}
    {payload : Bytes} {additionalVaas : List Bytes} {sourceAddress : Bytes32}
    {sourceChain : Uint16} {deliveryHash : Bytes32} {R : RouterCall}
    (h : a.receiveWormholeMessages msgSender payload additionalVaas sourceAddress sourceChain
      deliveryHash = .ok (a', R)) :
    a.Forwards sourceChain sourceAddress payload R ∧ msgSender = a.WORMHOLE_RELAYER ∧
      a.seenDeliveryVaaHashes deliveryHash = false ∧
      a' = { a with
        seenDeliveryVaaHashes := Function.update a.seenDeliveryVaaHashes deliveryHash true } := by
  simp only [receiveWormholeMessages, seq_eq_ok, refuseIf_eq_ok, ret_eq_ok, Prod.mk.injEq] at h
  obtain ⟨_, hauth, _, hrelayer, _, hnew, _, _, rfl, rfl⟩ := h
  exact ⟨⟨hauth, rfl⟩, not_not.mp hrelayer, Bool.not_eq_true _ ▸ hnew, rfl⟩

end GlacisWormholeAdapter

/-! ## Hyperlane -/

structure GlacisHyperlaneAdapter extends GlacisAbstractAdapter Uint32 where
  MAIL_BOX : Address

namespace GlacisHyperlaneAdapter

def DEFAULT_GAS_LIMIT : Nat := 350000

def _sendMessage (a : GlacisHyperlaneAdapter) (env : GmpEnv) (value : Nat) (toChainId : Uint256)
    (refundAddress : Address) (crossChainGas : CrossChainGas) (payload : Bytes) :
    Except AdapterRevert Sent := do
  let (destinationDomain, destinationAddress) ← a.destination toChainId
  let gasLimit :=
    if crossChainGas.gasLimit.toNat = 0 then DEFAULT_GAS_LIMIT else crossChainGas.gasLimit.toNat
  let nativePriceQuote ← orRefuse
    (env.quoteDispatch destinationDomain destinationAddress payload gasLimit refundAddress)
    .gmpReverted
  refuseIf (value < nativePriceQuote) .GlacisHyperlaneAdapter__FeeNotEnough
  payAndRefund env (.dispatch destinationDomain destinationAddress payload gasLimit refundAddress)
    value nativePriceQuote refundAddress
    .GlacisHyperlaneAdapter__RefundAddressMustReceiveNativeCurrency

def handle (a : GlacisHyperlaneAdapter) (msgSender : Address) (origin : Uint32) (sender : Bytes32)
    (message : Bytes) : Except AdapterRevert RouterCall := do
  a.onlyAuthorizedAdapter (a.adapterChainIdToGlacisChainId origin) sender
  refuseIf (msgSender ≠ a.MAIL_BOX) .GlacisHyperlaneAdapter__OnlyMailboxAllowed
  pure ⟨a.adapterChainIdToGlacisChainId origin, message⟩

theorem _sendMessage_spec {a : GlacisHyperlaneAdapter} {env : GmpEnv} {value : Nat}
    {toChainId : Uint256} {refundAddress : Address} {crossChainGas : CrossChainGas}
    {payload : Bytes} {s : Sent}
    (h : a._sendMessage env value toChainId refundAddress crossChainGas payload = .ok s) :
    s.call.gmp = .hyperlane ∧ s.call.payload = payload ∧ s.Spends value := by
  simp only [_sendMessage, seq_eq_ok, refuseIf_eq_ok] at h
  obtain ⟨_, _, quote, _, _, hle, h⟩ := h
  obtain ⟨hcall, hspends⟩ := payAndRefund_eq_ok (Nat.le_of_not_lt hle) h
  rw [hcall]
  exact ⟨rfl, rfl, hspends⟩

theorem handle_spec {a : GlacisHyperlaneAdapter} {msgSender : Address} {origin : Uint32}
    {sender : Bytes32} {message : Bytes} {R : RouterCall}
    (h : a.handle msgSender origin sender message = .ok R) :
    a.Forwards origin sender message R ∧ msgSender = a.MAIL_BOX := by
  simp only [handle, seq_eq_ok, refuseIf_eq_ok, ret_eq_ok] at h
  obtain ⟨_, hauth, _, hmailbox, rfl⟩ := h
  exact ⟨⟨hauth, rfl⟩, not_not.mp hmailbox⟩

end GlacisHyperlaneAdapter

/-! ## LayerZero V2 -/

/-- Where a packet of LayerZero comes from. -/
structure Origin where
  srcEid : Uint32
  sender : Bytes32
  nonce : Uint64
deriving DecidableEq, Repr

structure GlacisLayerZeroV2Adapter extends GlacisAbstractAdapter Uint32 where
  endpoint : Address

namespace GlacisLayerZeroV2Adapter

def DEFAULT_GAS_LIMIT : Nat := 350000

def _sendMessage (a : GlacisLayerZeroV2Adapter) (env : GmpEnv) (value : Nat) (toChainId : Uint256)
    (refundAddress : Address) (gas : CrossChainGas) (payload : Bytes) :
    Except AdapterRevert Sent := do
  let (dstEid, counterpart) ← a.destination toChainId
  let expectedGasLimit := if gas.gasLimit.toNat = 0 then DEFAULT_GAS_LIMIT else gas.gasLimit.toNat
  let call := .endpointSend dstEid counterpart payload expectedGasLimit refundAddress
  refuseIf (env.accepts call value = false) .gmpReverted
  pure ⟨call, value, 0⟩

/-- `lzReceive` of the base contract, then `_lzReceive`. -/
def lzReceive (a : GlacisLayerZeroV2Adapter) (msgSender : Address) (origin : Origin)
    (_guid : Bytes32) (message : Bytes) (_executor : Address) (_extraData : Bytes) :
    Except AdapterRevert RouterCall := do
  refuseIf (a.endpoint ≠ msgSender) (.OnlyEndpoint msgSender)
  a.onlyAuthorizedAdapter (a.adapterChainIdToGlacisChainId origin.srcEid) origin.sender
  pure ⟨a.adapterChainIdToGlacisChainId origin.srcEid, message⟩

/-- The endpoint asks this before the first message of a path. -/
def allowInitializePath (a : GlacisLayerZeroV2Adapter) (origin : Origin) : Bool :=
  a.remoteCounterpart (a.adapterChainIdToGlacisChainId origin.srcEid) = origin.sender

/-- The owner's own error comes first. -/
def setPeer (a : GlacisLayerZeroV2Adapter) (msgSender : Address) (_eid : Uint32) (_peer : Bytes32) :
    Except AdapterRevert GlacisLayerZeroV2Adapter := do
  a._onlyOwner msgSender
  .error .GlacisLayerZeroV2Adapter__PeersDisabledUseCounterpartInstead

theorem _sendMessage_spec {a : GlacisLayerZeroV2Adapter} {env : GmpEnv} {value : Nat}
    {toChainId : Uint256} {refundAddress : Address} {gas : CrossChainGas} {payload : Bytes}
    {s : Sent} (h : a._sendMessage env value toChainId refundAddress gas payload = .ok s) :
    s.call.gmp = .layerZeroV2 ∧ s.call.payload = payload ∧ s.Spends value := by
  simp only [_sendMessage, seq_eq_ok, refuseIf_eq_ok, ret_eq_ok] at h
  obtain ⟨_, _, _, _, rfl⟩ := h
  exact ⟨rfl, rfl, rfl⟩

theorem lzReceive_spec {a : GlacisLayerZeroV2Adapter} {msgSender : Address} {origin : Origin}
    {guid : Bytes32} {message : Bytes} {executor : Address} {extraData : Bytes} {R : RouterCall}
    (h : a.lzReceive msgSender origin guid message executor extraData = .ok R) :
    a.Forwards origin.srcEid origin.sender message R ∧ msgSender = a.endpoint := by
  simp only [lzReceive, seq_eq_ok, refuseIf_eq_ok, ret_eq_ok] at h
  obtain ⟨_, hendpoint, _, hauth, rfl⟩ := h
  exact ⟨⟨hauth, rfl⟩, (not_not.mp hendpoint).symm⟩

end GlacisLayerZeroV2Adapter

/-! ## CCIP -/

/-- A message of CCIP to the receiving contract. -/
structure Any2EVMMessage where
  messageId : Bytes32
  sourceChainSelector : Uint64
  sender : Bytes
  data : Bytes
deriving DecidableEq, Repr

/-- `abi.encode(address)`. -/
def encodeAddress (a : Address) : Bytes := Abi.encodeWord (toBytes32 a)

/-- `abi.decode(b, (address))`: a word whose upper 96 bits are clear. -/
def decodeAddress (b : Bytes) : Option Address :=
  if b.length < 32 then none
  else if (Abi.wordAt b 0).toNat < 2 ^ 160 then some (toAddress (Abi.wordAt b 0)) else none

theorem decodeAddress_encode (a : Address) : decodeAddress (encodeAddress a) = some a := by
  have hword : Abi.wordAt (encodeAddress a) 0 = toBytes32 a := by
    have h := Abi.wordAt_zero_encodeWord (toBytes32 a) []
    rwa [List.append_nil] at h
  have hlt : (toBytes32 a).toNat < 2 ^ 160 := by
    rw [toBytes32, BitVec.toNat_setWidth]
    exact Nat.lt_of_le_of_lt (Nat.mod_le _ _) a.isLt
  rw [decodeAddress, if_neg (by simp [encodeAddress]), hword, if_pos hlt, toAddress_toBytes32]

structure GlacisCCIPAdapter extends GlacisAbstractAdapter Uint64 where
  i_ccipRouter : Address
  ccipGasLimit : Nat

namespace GlacisCCIPAdapter

/-- Estimates the gas limit that `value` pays for, from the fees of two gas limits.  The receiver of
    the estimate is looked up under the CCIP selector, not under the Glacis chain id. -/
def extrapolateGasLimitFromValue (a : GlacisCCIPAdapter) (env : GmpEnv) (value : Nat)
    (destinationChain : Uint64) (payload : Bytes) : Except AdapterRevert Nat := do
  let receiver := Abi.encodeWord (a.remoteCounterpart (destinationChain.setWidth 256))
  let feeAt0GasLimit ← orRefuse (env.getFee destinationChain receiver payload 0) .gmpReverted
  let feeAt100kGasLimit ←
    orRefuse (env.getFee destinationChain receiver payload 100000) .gmpReverted
  refuseIf (feeAt0GasLimit > value)
    .GlacisCCIPAdapter__PaymentTooSmallForAnyDestinationExecution
  refuseIf (feeAt100kGasLimit < feeAt0GasLimit) (.Panic 0x11)
  let m := (feeAt100kGasLimit - feeAt0GasLimit) / 100000 + 1
  let gasLimit := (value - feeAt0GasLimit) / (m + m / 200)
  pure (if gasLimit > a.ccipGasLimit then a.ccipGasLimit else gasLimit)

/-- The gas limit of a message and its fees: the given limit, or an extrapolated one. -/
def gasLimitAndFees (a : GlacisCCIPAdapter) (env : GmpEnv) (value : Nat) (destinationChain : Uint64)
    (receiver : Bytes) (gasLimit : Nat) (payload : Bytes) : Except AdapterRevert (Nat × Nat) :=
  if gasLimit > 0 then do
    let fees ← orRefuse (env.getFee destinationChain receiver payload gasLimit) .gmpReverted
    refuseIf (fees > value) .GlacisCCIPAdapter__PaymentTooSmallForAnyDestinationExecution
    pure (gasLimit, fees)
  else do
    let extrapolation ← a.extrapolateGasLimitFromValue env value destinationChain payload
    let fees ← orRefuse (env.getFee destinationChain receiver payload extrapolation) .gmpReverted
    refuseIf (fees > value) (.GlacisCCIPAdapter__GlacisFeeExtrapolationFailed value fees)
    pure (extrapolation, fees)

def _sendMessage (a : GlacisCCIPAdapter) (env : GmpEnv) (value : Nat) (toChainId : Uint256)
    (refundAddress : Address) (incentives : CrossChainGas) (payload : Bytes) :
    Except AdapterRevert Sent := do
  let (destinationChain, remoteAdapter) ← a.destination toChainId
  let receiver := Abi.encodeWord remoteAdapter
  let (gasLimit, fees) ← a.gasLimitAndFees env value destinationChain receiver
    incentives.gasLimit.toNat payload
  payAndRefund env (.ccipSend destinationChain receiver payload gasLimit) value fees refundAddress
    .GlacisCCIPAdapter__RefundAddressMustReceiveNativeCurrency

/-- `ccipReceive`, which only the CCIP router may call, then `_ccipReceive`. -/
def ccipReceive (a : GlacisCCIPAdapter) (msgSender : Address) (message : Any2EVMMessage) :
    Except AdapterRevert RouterCall := do
  refuseIf (msgSender ≠ a.i_ccipRouter) .gmpReverted
  let sender ← orRefuse (decodeAddress message.sender) .abiDecode
  a.onlyAuthorizedAdapter (a.adapterChainIdToGlacisChainId message.sourceChainSelector)
    (toBytes32 sender)
  pure ⟨a.adapterChainIdToGlacisChainId message.sourceChainSelector, message.data⟩

def setCCIPGasLimit (a : GlacisCCIPAdapter) (msgSender : Address) (gasLimit : Nat) :
    Except AdapterRevert GlacisCCIPAdapter := do
  a._onlyOwner msgSender
  pure { a with ccipGasLimit := gasLimit }

theorem gasLimitAndFees_le {a : GlacisCCIPAdapter} {env : GmpEnv} {value : Nat}
    {destinationChain : Uint64} {receiver : Bytes} {gasLimit : Nat} {payload : Bytes}
    {selected : Nat × Nat}
    (h : a.gasLimitAndFees env value destinationChain receiver gasLimit payload = .ok selected) :
    selected.2 ≤ value := by
  unfold gasLimitAndFees at h
  split at h
  · simp only [seq_eq_ok, refuseIf_eq_ok, ret_eq_ok] at h
    obtain ⟨_, _, _, hle, rfl⟩ := h
    exact Nat.le_of_not_gt hle
  · simp only [seq_eq_ok, refuseIf_eq_ok, ret_eq_ok] at h
    obtain ⟨_, _, _, _, _, hle, rfl⟩ := h
    exact Nat.le_of_not_gt hle

/-- How CCIP prices the messages of one payload to one chain.  It refuses a receiver that it does
    not take, and may refuse a gas limit above `maxGas`; else the fee is linear in the gas limit,
    rounded down, and the same for all receivers. -/
structure LinearFees (env : GmpEnv) (destinationChain : Uint64) (payload : Bytes)
    (takes : Bytes → Prop) (maxGas base perGas unit : Nat) : Prop where
  unit_pos : 0 < unit
  fee : ∀ receiver, takes receiver → ∀ gas, gas ≤ maxGas →
    env.getFee destinationChain receiver payload gas = some ((base + gas * perGas) / unit)
  refused : ∀ receiver, ¬takes receiver → ∀ gas,
    env.getFee destinationChain receiver payload gas = none

/-- The receiver that the estimate asks the fees for: the counterpart of the chain whose Glacis id
    is the CCIP selector, not the receiver of the message. -/
def askedReceiver (a : GlacisCCIPAdapter) (destinationChain : Uint64) : Bytes :=
  Abi.encodeWord (a.remoteCounterpart (destinationChain.setWidth 256))

/-- The slope of the estimate is above that of the fees, in spite of the rounding. -/
theorem slope_lt {base perGas unit : Nat} (hunit : 0 < unit) :
    perGas < unit * (((base + 100000 * perGas) / unit - base / unit) / 100000 + 1) := by
  have hdiff : 100000 * perGas / unit ≤ (base + 100000 * perGas) / unit - base / unit :=
    Nat.le_sub_of_add_le' Nat.div_add_div_le_add_div
  have hquot : 100000 * perGas / unit / 100000 = perGas / unit := by
    rw [Nat.div_div_eq_div_mul, Nat.mul_comm unit, Nat.mul_div_mul_left _ _ (by decide)]
  calc perGas < unit * (perGas / unit + 1) := Nat.lt_mul_div_succ perGas hunit
    _ ≤ unit * (((base + 100000 * perGas) / unit - base / unit) / 100000 + 1) := by
      refine Nat.mul_le_mul_left _ (Nat.succ_le_succ ?_)
      rw [← hquot]
      exact Nat.div_le_div_right hdiff

/-- A line above the fees. -/
theorem fee_le {base perGas unit m gas : Nat} (hunit : 0 < unit) (hm : perGas ≤ unit * m) :
    (base + gas * perGas) / unit ≤ base / unit + gas * m := by
  rw [← Nat.add_mul_div_left _ _ hunit]
  refine Nat.div_le_div_right (Nat.add_le_add_left ?_ _)
  calc gas * perGas ≤ gas * (unit * m) := Nat.mul_le_mul_left _ hm
    _ = unit * (gas * m) := Nat.mul_left_comm ..

/-- A gas limit not above the one that the estimate allows costs no more than the value. -/
theorem fee_le_value {base perGas unit value gas : Nat} (hunit : 0 < unit)
    (hbase : base / unit ≤ value) {m : Nat} (hm : perGas ≤ unit * m) (hpos : 0 < m)
    (hgas : gas ≤ (value - base / unit) / (m + m / 200)) :
    (base + gas * perGas) / unit ≤ value := by
  have hle : gas * m ≤ value - base / unit :=
    calc gas * m ≤ gas * (m + m / 200) := Nat.mul_le_mul_left _ (Nat.le_add_right _ _)
      _ ≤ value - base / unit :=
        (Nat.le_div_iff_mul_le (Nat.lt_of_lt_of_le hpos (Nat.le_add_right _ _))).mp hgas
  have hline : (base + gas * perGas) / unit ≤ base / unit + gas * m := fee_le hunit hm
  omega

section LinearFees

variable {a : GlacisCCIPAdapter} {env : GmpEnv} {destinationChain : Uint64} {payload : Bytes}
  {takes : Bytes → Prop} {maxGas base perGas unit : Nat}

theorem LinearFees.orRefuse
    (h : LinearFees env destinationChain payload takes maxGas base perGas unit) {receiver : Bytes}
    (hr : takes receiver) {gas : Nat} (hgas : gas ≤ maxGas) :
    Calls.orRefuse (env.getFee destinationChain receiver payload gas) AdapterRevert.gmpReverted
      = .ok ((base + gas * perGas) / unit) :=
  orRefuse_eq_ok.mpr (h.fee receiver hr gas hgas)

/-- The estimate fails if CCIP does not take the receiver it asks for ... -/
theorem extrapolateGasLimitFromValue_refused
    (h : LinearFees env destinationChain payload takes maxGas base perGas unit)
    (hasked : ¬takes (a.askedReceiver destinationChain)) (value : Nat) :
    a.extrapolateGasLimitFromValue env value destinationChain payload = .error .gmpReverted := by
  have hnone := h.refused _ hasked 0
  rw [askedReceiver] at hnone
  rw [extrapolateGasLimitFromValue, hnone]
  rfl

/-- ... and else only for a value that does not pay for no gas. -/
theorem extrapolateGasLimitFromValue_eq
    (h : LinearFees env destinationChain payload takes maxGas base perGas unit)
    (hasked : takes (a.askedReceiver destinationChain)) (hmax : 100000 ≤ maxGas) (value : Nat) :
    (value < base / unit → a.extrapolateGasLimitFromValue env value destinationChain payload =
      .error .GlacisCCIPAdapter__PaymentTooSmallForAnyDestinationExecution) ∧
    (base / unit ≤ value → ∃ gasLimit,
      a.extrapolateGasLimitFromValue env value destinationChain payload = .ok gasLimit ∧
      gasLimit ≤ a.ccipGasLimit ∧ (base + gasLimit * perGas) / unit ≤ value) := by
  have hfee0 := h.orRefuse hasked (Nat.zero_le maxGas)
  have hfee100k := h.orRefuse hasked hmax
  rw [Nat.zero_mul, Nat.add_zero] at hfee0
  rw [askedReceiver] at hfee0 hfee100k
  have hmono : base / unit ≤ (base + 100000 * perGas) / unit :=
    Nat.div_le_div_right (Nat.le_add_right _ _)
  constructor
  · intro hlt
    rw [extrapolateGasLimitFromValue, hfee0, ok_seq, hfee100k, ok_seq, refuseIf_of hlt, error_seq]
  · intro hle
    obtain ⟨m, hm⟩ : ∃ m, m = ((base + 100000 * perGas) / unit - base / unit) / 100000 + 1 :=
      ⟨_, rfl⟩
    have hslope : perGas ≤ unit * m := by rw [hm]; exact Nat.le_of_lt (slope_lt h.unit_pos)
    have hpos : 0 < m := by rw [hm]; exact Nat.succ_pos _
    refine ⟨min a.ccipGasLimit ((value - base / unit) / (m + m / 200)), ?_, Nat.min_le_left _ _,
      fee_le_value h.unit_pos hle hslope hpos (Nat.min_le_right _ _)⟩
    simp only [extrapolateGasLimitFromValue, hfee0, hfee100k, seq_eq_ok, refuseIf_eq_ok, ret_eq_ok]
    refine ⟨_, rfl, _, rfl, (), Nat.not_lt.mpr hle, (), Nat.not_lt.mpr hmono, ?_⟩
    rw [← hm]
    split
    · next hcap => exact (Nat.min_eq_left (Nat.le_of_lt hcap)).symm
    · next hcap => exact (Nat.min_eq_right (Nat.le_of_not_lt hcap)).symm

/-- A message for a known chain, without a gas limit. -/
theorem _sendMessage_of_destination {value : Nat} {toChainId : Uint256} {remoteAdapter : Bytes32}
    (hdest : a.destination toChainId = .ok (destinationChain, remoteAdapter))
    (refundAddress : Address) (nativeCurrencyValue : Uint128) :
    a._sendMessage env value toChainId refundAddress ⟨0, nativeCurrencyValue⟩ payload =
      a.gasLimitAndFees env value destinationChain (Abi.encodeWord remoteAdapter) 0 payload >>=
        fun selected => payAndRefund env
          (.ccipSend destinationChain (Abi.encodeWord remoteAdapter) payload selected.1) value
          selected.2 refundAddress
          .GlacisCCIPAdapter__RefundAddressMustReceiveNativeCurrency := by
  rw [_sendMessage, hdest, ok_seq]
  rfl

/-- It is sent with the estimate and the fees of it, ... -/
theorem _sendMessage_of_extrapolation
    (h : LinearFees env destinationChain payload takes maxGas base perGas unit) {value : Nat}
    {toChainId : Uint256} {remoteAdapter : Bytes32}
    (hdest : a.destination toChainId = .ok (destinationChain, remoteAdapter))
    (htakes : takes (Abi.encodeWord remoteAdapter)) {gasLimit : Nat} (hgas : gasLimit ≤ maxGas)
    (hextra : a.extrapolateGasLimitFromValue env value destinationChain payload = .ok gasLimit)
    (hfees : (base + gasLimit * perGas) / unit ≤ value) (refundAddress : Address)
    (nativeCurrencyValue : Uint128) :
    a._sendMessage env value toChainId refundAddress ⟨0, nativeCurrencyValue⟩ payload =
      payAndRefund env (.ccipSend destinationChain (Abi.encodeWord remoteAdapter) payload gasLimit)
        value ((base + gasLimit * perGas) / unit) refundAddress
        .GlacisCCIPAdapter__RefundAddressMustReceiveNativeCurrency := by
  have hselected : a.gasLimitAndFees env value destinationChain (Abi.encodeWord remoteAdapter) 0
      payload = .ok (gasLimit, (base + gasLimit * perGas) / unit) := by
    rw [gasLimitAndFees, if_neg (Nat.lt_irrefl 0), hextra]
    simp only [seq_eq_ok, refuseIf_eq_ok, ret_eq_ok]
    exact ⟨_, rfl, _, h.orRefuse htakes hgas, (), Nat.not_lt.mpr hfees, rfl⟩
  rw [_sendMessage_of_destination hdest, hselected, ok_seq]

/-- ... and fails with the estimate. -/
theorem _sendMessage_of_failed {value : Nat} {toChainId : Uint256} {remoteAdapter : Bytes32}
    {e : AdapterRevert} (hdest : a.destination toChainId = .ok (destinationChain, remoteAdapter))
    (hextra : a.extrapolateGasLimitFromValue env value destinationChain payload = .error e)
    (refundAddress : Address) (nativeCurrencyValue : Uint128) :
    a._sendMessage env value toChainId refundAddress ⟨0, nativeCurrencyValue⟩ payload =
      .error e := by
  have hselected : a.gasLimitAndFees env value destinationChain (Abi.encodeWord remoteAdapter) 0
      payload = .error e := by
    rw [gasLimitAndFees, if_neg (Nat.lt_irrefl 0), hextra, error_seq]
  rw [_sendMessage_of_destination hdest, hselected, error_seq]

/-- **What the extrapolation can do.**  CCIP takes the receiver of the message.  Sent without a gas
    limit, the message fails if CCIP does not take the receiver that the estimate asks for, which is
    another one.  If it takes it, then the message fails only if the value does not even pay for no
    gas; else CCIP gets it with a gas limit within the cap, for fees within the value, whatever the
    rounding did. -/
theorem extrapolation_suffices {value : Nat} {toChainId : Uint256} {remoteAdapter : Bytes32}
    (h : LinearFees env destinationChain payload takes maxGas base perGas unit)
    (hdest : a.destination toChainId = .ok (destinationChain, remoteAdapter))
    (htakes : takes (Abi.encodeWord remoteAdapter)) (hmax : 100000 ≤ maxGas)
    (hcap : a.ccipGasLimit ≤ maxGas) (refundAddress : Address) (nativeCurrencyValue : Uint128) :
    (¬takes (a.askedReceiver destinationChain) →
      a._sendMessage env value toChainId refundAddress ⟨0, nativeCurrencyValue⟩ payload =
        .error .gmpReverted) ∧
    (takes (a.askedReceiver destinationChain) → value < base / unit →
      a._sendMessage env value toChainId refundAddress ⟨0, nativeCurrencyValue⟩ payload =
        .error .GlacisCCIPAdapter__PaymentTooSmallForAnyDestinationExecution) ∧
    (takes (a.askedReceiver destinationChain) → base / unit ≤ value → ∃ gasLimit fees,
      a._sendMessage env value toChainId refundAddress ⟨0, nativeCurrencyValue⟩ payload =
        payAndRefund env (.ccipSend destinationChain (Abi.encodeWord remoteAdapter) payload gasLimit)
          value fees refundAddress .GlacisCCIPAdapter__RefundAddressMustReceiveNativeCurrency ∧
      gasLimit ≤ a.ccipGasLimit ∧ fees = (base + gasLimit * perGas) / unit ∧ fees ≤ value) := by
  refine ⟨fun hasked => ?_, fun hasked hsmall => ?_, fun hasked henough => ?_⟩
  · exact _sendMessage_of_failed hdest (extrapolateGasLimitFromValue_refused h hasked value) _ _
  · exact _sendMessage_of_failed hdest
      ((extrapolateGasLimitFromValue_eq h hasked hmax value).1 hsmall) _ _
  · obtain ⟨gasLimit, hextra, hle, hfees⟩ :=
      (extrapolateGasLimitFromValue_eq h hasked hmax value).2 henough
    exact ⟨gasLimit, _, _sendMessage_of_extrapolation h hdest htakes (Nat.le_trans hle hcap) hextra
      hfees _ _, hle, rfl, hfees⟩

end LinearFees

namespace Sample

/-- The counterpart on Arbitrum. -/
def counterpart : Address := 0x5afe5afe5afe5afe5afe5afe5afe5afe5afe5afe

def refundAddress : Address := 0x1804c8AB1F12E6bbf3894d4083f33e07309d1f38

/-- An adapter that knows Arbitrum under its chain id; its counterpart is also entered under the
    CCIP selector if `underSelector`. -/
def adapter (underSelector : Bool) : GlacisCCIPAdapter where
  owner := refundAddress
  pendingOwner := 0
  GLACIS_ROUTER := 0x7fa9385be102ac3eac297483dd6233d62b3e1496
  remoteCounterpart := fun chainId =>
    if chainId = 42161 ∨ (underSelector = true ∧ chainId = 4949039107694359620)
    then toBytes32 counterpart else 0
  glacisChainIdToAdapterChainId := fun chainId =>
    if chainId = 42161 then 4949039107694359620 else 0
  adapterChainIdToGlacisChainId := fun selector =>
    if selector = 4949039107694359620 then 42161 else 0
  counterpart_zero := by cases underSelector <;> rfl
  chain_zero := rfl
  i_ccipRouter := 0x141fa059441E0ca23ce184B6A78bafD2A517DdE8
  ccipGasLimit := 3000000

/-- CCIP takes an address, and none of the first ten. -/
def takes (receiver : Bytes) : Bool :=
  match decodeAddress receiver with
  | some a => 10 ≤ a.toNat
  | none => false

/-- A router of CCIP that asks for three wei for two units of gas, and for a base. -/
def env : GmpEnv where
  quoteEVMDeliveryPrice := fun _ _ _ => none
  quoteDispatch := fun _ _ _ _ _ => none
  getFee := fun _ receiver _ gas =>
    if takes receiver = true ∧ gas ≤ 3000000 then some ((1001 + gas * 3) / 2) else none
  accepts := fun _ _ => true
  takesRefund := fun _ _ => true
  validateContractCall := fun _ _ _ _ => false

theorem linearFees (destinationChain : Uint64) (payload : Bytes) :
    LinearFees env destinationChain payload (fun r => takes r = true) 3000000 1001 3 2 where
  unit_pos := Nat.succ_pos 1
  fee := fun _ hr _ hgas => if_pos ⟨hr, hgas⟩
  refused := fun _ hr _ => if_neg fun h => hr h.1

end Sample

/-- Without an entry under the selector no value is enough; with one, `150000` wei are. -/
theorem extrapolation_suffices_sample :
    (∀ value, (Sample.adapter false)._sendMessage Sample.env value 42161 Sample.refundAddress
      ⟨0, 0⟩ [2] = .error .gmpReverted) ∧
    ∃ gasLimit fees,
      (Sample.adapter true)._sendMessage Sample.env 150000 42161 Sample.refundAddress ⟨0, 0⟩ [2] =
        .ok ⟨.ccipSend 4949039107694359620 (encodeAddress Sample.counterpart) [2] gasLimit, fees,
          150000 - fees⟩ ∧
      gasLimit ≤ 3000000 ∧ fees = (1001 + gasLimit * 3) / 2 ∧ fees ≤ 150000 := by
  have hdest : ∀ b, (Sample.adapter b).destination 42161 =
      .ok (4949039107694359620, toBytes32 Sample.counterpart) := by
    intro b
    cases b <;> rfl
  have htakes : Sample.takes (encodeAddress Sample.counterpart) = true := by
    rw [Sample.takes, decodeAddress_encode]
    decide
  have hnot : ¬Sample.takes ((Sample.adapter false).askedReceiver 4949039107694359620) = true := by
    have h0 : (Sample.adapter false).askedReceiver 4949039107694359620 = encodeAddress 0 := rfl
    rw [h0, Sample.takes, decodeAddress_encode]
    decide
  constructor
  · intro value
    exact (extrapolation_suffices (Sample.linearFees _ _) (hdest false) htakes (by decide)
      (Nat.le_refl _) _ _).1 hnot
  · have henough : 1001 / 2 ≤ 150000 := by decide
    obtain ⟨gasLimit, fees, hsent, hrest⟩ := (extrapolation_suffices (Sample.linearFees _ [2])
      (hdest true) htakes (by decide) (Nat.le_refl _) Sample.refundAddress 0).2.2 htakes henough
    exact ⟨gasLimit, fees, hsent.trans (payAndRefund_of_taken rfl rfl), hrest⟩

theorem _sendMessage_spec {a : GlacisCCIPAdapter} {env : GmpEnv} {value : Nat}
    {toChainId : Uint256} {refundAddress : Address} {incentives : CrossChainGas} {payload : Bytes}
    {s : Sent} (h : a._sendMessage env value toChainId refundAddress incentives payload = .ok s) :
    s.call.gmp = .ccip ∧ s.call.payload = payload ∧ s.Spends value := by
  simp only [_sendMessage, seq_eq_ok] at h
  obtain ⟨_, _, selected, hselected, h⟩ := h
  obtain ⟨hcall, hspends⟩ := payAndRefund_eq_ok (gasLimitAndFees_le hselected) h
  rw [hcall]
  exact ⟨rfl, rfl, hspends⟩

theorem ccipReceive_spec {a : GlacisCCIPAdapter} {msgSender : Address} {message : Any2EVMMessage}
    {R : RouterCall} (h : a.ccipReceive msgSender message = .ok R) :
    ∃ sender, decodeAddress message.sender = some sender ∧
      a.Forwards message.sourceChainSelector (toBytes32 sender) message.data R ∧
      msgSender = a.i_ccipRouter := by
  simp only [ccipReceive, seq_eq_ok, refuseIf_eq_ok, orRefuse_eq_ok, ret_eq_ok] at h
  obtain ⟨_, hrouter, sender, hsender, _, hauth, rfl⟩ := h
  exact ⟨sender, hsender, ⟨hauth, rfl⟩, not_not.mp hrouter⟩

end GlacisCCIPAdapter

/-! ## Axelar -/

/-- Axelar names chains by strings. -/
structure GlacisAxelarAdapter extends GlacisAbstractAdapter Bytes where
  gateway : Address
  GAS_SERVICE : Address

namespace GlacisAxelarAdapter

def _sendMessage (a : GlacisAxelarAdapter) (env : GmpEnv) (value : Nat) (toChainId : Uint256)
    (_refundAddress : Address) (_incentives : CrossChainGas) (payload : Bytes) :
    Except AdapterRevert Sent := do
  let (destinationChain, counterpart) ← a.destination toChainId
  let destinationAddress ← (toAddress counterpart).toHexString
  let call := .callContract destinationChain destinationAddress payload
  -- the gas service is paid if there is value; the gateway is not
  refuseIf (env.accepts call value = false) .gmpReverted
  pure ⟨call, value, 0⟩

/-- `execute`, which asks the gateway, then `_execute`. -/
def execute (a : GlacisAxelarAdapter) (env : GmpEnv) (commandId : Bytes32)
    (sourceChain sourceAddress payload : Bytes) : Except AdapterRevert RouterCall := do
  refuseIf (env.validateContractCall commandId sourceChain sourceAddress payload = false)
    .gmpReverted
  -- `sourceAddress[2:42]` of a shorter string reverts
  refuseIf (sourceAddress.length < 42) .abiDecode
  let source ← AddressString.toAddress
    (AddressString._toLowerCase ((sourceAddress.take 42).drop 2))
  a.onlyAuthorizedAdapter (a.adapterChainIdToGlacisChainId sourceChain) (toBytes32 source)
  pure ⟨a.adapterChainIdToGlacisChainId sourceChain, payload⟩

theorem _sendMessage_spec {a : GlacisAxelarAdapter} {env : GmpEnv} {value : Nat}
    {toChainId : Uint256} {refundAddress : Address} {incentives : CrossChainGas} {payload : Bytes}
    {s : Sent} (h : a._sendMessage env value toChainId refundAddress incentives payload = .ok s) :
    s.call.gmp = .axelar ∧ s.call.payload = payload ∧ s.Spends value := by
  simp only [_sendMessage, seq_eq_ok, refuseIf_eq_ok, ret_eq_ok] at h
  obtain ⟨_, _, _, _, _, _, rfl⟩ := h
  exact ⟨rfl, rfl, rfl⟩

theorem execute_spec {a : GlacisAxelarAdapter} {env : GmpEnv} {commandId : Bytes32}
    {sourceChain sourceAddress payload : Bytes} {R : RouterCall}
    (h : a.execute env commandId sourceChain sourceAddress payload = .ok R) :
    ∃ source, AddressString.toAddress (AddressString._toLowerCase ((sourceAddress.take 42).drop 2))
        = .ok source ∧ a.Forwards sourceChain (toBytes32 source) payload R ∧
      env.validateContractCall commandId sourceChain sourceAddress payload = true := by
  simp only [execute, seq_eq_ok, refuseIf_eq_ok, ret_eq_ok] at h
  obtain ⟨_, hvalid, _, _, source, hsource, _, hauth, rfl⟩ := h
  exact ⟨source, hsource, ⟨hauth, rfl⟩, Bool.not_eq_false _ ▸ hvalid⟩

end GlacisAxelarAdapter

end CrossRWA
