/-
  `EndpointV2` — the endpoint of LayerZero, with a log of what it did.

  An endpoint sends packets through a library, takes verifications from one, and hands verified
  messages to their receivers.  The libraries, the receivers and the token of the fees are outside;
  their answers are an argument of every call (`EndpointEnv`).

  1. The functions, each part of the contract under its own name.  A receiver that calls the
     endpoint back does so after its message is cleared, so such calls are calls that follow.
  2. `Endpoint` adds what was sent, verified, cleared, passed over and burnt; `Endpoint.exec` runs
     a call and writes the log.
  3. `EndpointStep`: what a successful call did, one constructor for each kind of call
     (`exec_step`).  No proof after this file unfolds `exec`.
-/
import CrossRWA.Endpoint.MessageLibManager
import CrossRWA.Endpoint.PacketV1Codec

namespace CrossRWA

open Calls

/-! ## State -/

structure MessagingParams where
  dstEid : Uint32
  receiver : Bytes32
  message : Bytes
  options : Bytes
  payInLzToken : Bool
deriving DecidableEq, Repr

structure MessagingFee where
  nativeFee : Nat
  lzTokenFee : Nat
deriving DecidableEq, Repr

/-- Where a composed message is kept. -/
structure ComposeKey where
  sender : Address
  receiver : Address
  guid : Bytes32
  index : Uint16
deriving DecidableEq, Repr

structure EndpointV2 extends MessagingChannel, MessageLibManager where
  lzToken : Address
  delegates : Address → Address
  composeQueue : ComposeKey → Bytes32

/-- What lies outside: the fees of the send library (`none` if it reverts), the answers of the
    receivers, and whether transfers go through. -/
structure EndpointEnv extends LibEnv where
  send : Address → LzPacket → Bytes → Bool → Option MessagingFee
  allowInitializePath : Address → Origin → Option Bool
  lzReceive : Address → Nat → Origin → Bytes32 → Bytes → Address → Bytes → Bool
  lzCompose : Address → Nat → Address → Bytes32 → Bytes → Address → Bytes → Bool
  lzTokenBalance : Nat
  transfer : Address → Nat → Bool
  transferToken : Address → Address → Nat → Bool

namespace EndpointV2

def constructor (eid : Uint32) (owner blockedLibrary : Address) : EndpointV2 where
  toMessagingChannel := .constructor eid
  toMessageLibManager := .constructor owner blockedLibrary
  lzToken := 0
  delegates := fun _ => 0
  composeQueue := fun _ => 0

/-- The application itself, or its delegate. -/
def _assertAuthorized (e : EndpointV2) (msgSender oapp : Address) : Except LzError Unit :=
  refuseIf (msgSender ≠ oapp ∧ msgSender ≠ e.delegates oapp) .LZ_Unauthorized

/-! ## Sending -/

/-- A successful send: the packet, and its fee. -/
structure Sending where
  packet : LzPacket
  fee : MessagingFee
  sendLibrary : Address

/-- The packet of the next message of a path, with the nonce that `_outbound` returns. -/
def packetOf (keccak256 : Bytes → Bytes32) (e : EndpointV2) (sender : Address)
    (params : MessagingParams) : LzPacket :=
  let nonce := e.outboundNonce ⟨sender, params.dstEid, params.receiver⟩ + 1
  ⟨nonce, e.eid, sender, params.dstEid, params.receiver,
    GUID.generate keccak256 nonce e.eid sender params.dstEid params.receiver, params.message⟩

def _send (keccak256 : Bytes → Bytes32) (e : EndpointV2) (env : EndpointEnv) (sender : Address)
    (params : MessagingParams) : Except LzError (EndpointV2 × Sending) := do
  let packet := e.packetOf keccak256 sender params
  let (channel, _) := e._outbound ⟨sender, params.dstEid, params.receiver⟩
  let sendLibrary ← e.getSendLibrary sender params.dstEid
  let fee ← orRefuse (env.send sendLibrary packet params.options params.payInLzToken) .libReverted
  pure ({ e with toMessagingChannel := channel }, ⟨packet, fee, sendLibrary⟩)

def _suppliedLzToken (env : EndpointEnv) (payInLzToken : Bool) : Except LzError Nat :=
  if payInLzToken then do
    refuseIf (env.lzTokenBalance = 0) .LZ_ZeroLzTokenFee
    pure env.lzTokenBalance
  else pure 0

def _assertMessagingFee (required : MessagingFee) (suppliedNativeFee suppliedLzTokenFee : Nat) :
    Except LzError Unit :=
  refuseIf (required.nativeFee > suppliedNativeFee ∨ required.lzTokenFee > suppliedLzTokenFee)
    (.LZ_InsufficientFee required.nativeFee suppliedNativeFee required.lzTokenFee
      suppliedLzTokenFee)

/-- The fee goes to the library, and the rest to the refund address. -/
def pay (transfer : Address → Nat → Bool) (required supplied : Nat)
    (receiver refundAddress : Address) : Except LzError Unit := do
  refuseIf (required > 0 ∧ transfer receiver required = false) .transferFailed
  refuseIf (required < supplied ∧ transfer refundAddress (supplied - required) = false)
    .transferFailed

def _payToken (env : EndpointEnv) (token : Address) : Nat → Nat → Address → Address →
    Except LzError Unit := pay (env.transferToken token)

def _payNative (env : EndpointEnv) : Nat → Nat → Address → Address → Except LzError Unit :=
  pay env.transfer

def send (keccak256 : Bytes → Bytes32) (e : EndpointV2) (env : EndpointEnv) (msgSender : Address)
    (value : Nat) (params : MessagingParams) (refundAddress : Address) :
    Except LzError (EndpointV2 × Sending) := do
  refuseIf (params.payInLzToken = true ∧ e.lzToken = 0) .LZ_LzTokenUnavailable
  let (e', s) ← e._send keccak256 env msgSender params
  let suppliedLzToken ← _suppliedLzToken env params.payInLzToken
  _assertMessagingFee s.fee value suppliedLzToken
  _payToken env e.lzToken s.fee.lzTokenFee suppliedLzToken s.sendLibrary refundAddress
  _payNative env s.fee.nativeFee value s.sendLibrary refundAddress
  pure (e', s)

/-! ## Receiving -/

/-- The path of a message to a receiver. -/
def pathOf (origin : Origin) (receiver : Address) : InboundPath :=
  ⟨receiver, origin.srcEid, origin.sender⟩

/-- A path is open once a message was cleared, or if its receiver allows it. -/
def _initializable (env : EndpointEnv) (origin : Origin) (receiver : Address)
    (lazyInboundNonce : Uint64) : Except LzError Bool :=
  if 0 < lazyInboundNonce then pure true
  else orRefuse (env.allowInitializePath receiver origin) .receiverReverted

def _verifiable (e : EndpointV2) (origin : Origin) (receiver : Address)
    (lazyInboundNonce : Uint64) : Bool :=
  lazyInboundNonce < origin.nonce ∨
    e.inboundPayloadHash (pathOf origin receiver) origin.nonce ≠ MessagingChannel.EMPTY_PAYLOAD_HASH

def verify (e : EndpointV2) (env : EndpointEnv) (msgSender : Address) (origin : Origin)
    (receiver : Address) (payloadHash : Bytes32) : Except LzError EndpointV2 := do
  let valid ← e.isValidReceiveLibrary env.toLibEnv receiver origin.srcEid msgSender
  refuseIf (valid = false) .LZ_InvalidReceiveLibrary
  let lazyNonce := e.lazyInboundNonce (pathOf origin receiver)
  let initializable ← _initializable env origin receiver lazyNonce
  refuseIf (initializable = false) .LZ_PathNotInitializable
  refuseIf (e._verifiable origin receiver lazyNonce = false) .LZ_PathNotVerifiable
  let channel ← e._inbound (pathOf origin receiver) origin.nonce payloadHash
  pure { e with toMessagingChannel := channel }

/-- The payload of a message: its id, and its bytes. -/
def payloadOf (guid : Bytes32) (message : Bytes) : Bytes := Packed.write 32 guid ++ message

def lzReceive (keccak256 : Bytes → Bytes32) (e : EndpointV2) (env : EndpointEnv)
    (msgSender : Address) (value : Nat) (origin : Origin) (receiver : Address) (guid : Bytes32)
    (message extraData : Bytes) : Except LzError EndpointV2 := do
  let channel ← e._clearPayload keccak256 (pathOf origin receiver) origin.nonce
    (payloadOf guid message)
  refuseIf (env.lzReceive receiver value origin guid message msgSender extraData = false)
    .receiverReverted
  pure { e with toMessagingChannel := channel }

def clear (keccak256 : Bytes → Bytes32) (e : EndpointV2) (msgSender oapp : Address)
    (origin : Origin) (guid : Bytes32) (message : Bytes) : Except LzError EndpointV2 := do
  e._assertAuthorized msgSender oapp
  let channel ← e._clearPayload keccak256 (pathOf origin oapp) origin.nonce
    (payloadOf guid message)
  pure { e with toMessagingChannel := channel }

/-- `skip`, `nilify` and `burn` write the channel, for whoever may act for the application. -/
def reconfigure (e : EndpointV2) (msgSender oapp : Address)
    (write : MessagingChannel → Except LzError MessagingChannel) : Except LzError EndpointV2 := do
  e._assertAuthorized msgSender oapp
  let channel ← write e.toMessagingChannel
  pure { e with toMessagingChannel := channel }

def skip (e : EndpointV2) (msgSender : Address) (path : InboundPath) (nonce : Uint64) :
    Except LzError EndpointV2 :=
  e.reconfigure msgSender path.receiver (·.skip path nonce)

def nilify (e : EndpointV2) (msgSender : Address) (path : InboundPath) (nonce : Uint64)
    (payloadHash : Bytes32) : Except LzError EndpointV2 :=
  e.reconfigure msgSender path.receiver (·.nilify path nonce payloadHash)

def burn (e : EndpointV2) (msgSender : Address) (path : InboundPath) (nonce : Uint64)
    (payloadHash : Bytes32) : Except LzError EndpointV2 :=
  e.reconfigure msgSender path.receiver (·.burn path nonce payloadHash)

/-! ## Composing -/

def NO_MESSAGE_HASH : Bytes32 := 0

def RECEIVED_MESSAGE_HASH : Bytes32 := 1

def sendCompose (keccak256 : Bytes → Bytes32) (e : EndpointV2) (msgSender to_ : Address)
    (guid : Bytes32) (index : Uint16) (message : Bytes) : Except LzError EndpointV2 := do
  refuseIf (e.composeQueue ⟨msgSender, to_, guid, index⟩ ≠ NO_MESSAGE_HASH) .LZ_ComposeExists
  pure { e with
    composeQueue := Function.update e.composeQueue ⟨msgSender, to_, guid, index⟩ (keccak256 message) }

def lzCompose (keccak256 : Bytes → Bytes32) (e : EndpointV2) (env : EndpointEnv)
    (msgSender : Address) (value : Nat) (key : ComposeKey) (message extraData : Bytes) :
    Except LzError EndpointV2 := do
  let expectedHash := e.composeQueue key
  let actualHash := keccak256 message
  refuseIf (expectedHash ≠ actualHash) (.LZ_ComposeNotFound expectedHash actualHash)
  refuseIf (env.lzCompose key.receiver value key.sender key.guid message msgSender extraData = false)
    .receiverReverted
  pure { e with composeQueue := Function.update e.composeQueue key RECEIVED_MESSAGE_HASH }

/-! ## Configuration -/

def setDelegate (e : EndpointV2) (msgSender delegate : Address) : EndpointV2 :=
  { e with delegates := Function.update e.delegates msgSender delegate }

def setLzToken (e : EndpointV2) (msgSender lzToken : Address) : Except LzError EndpointV2 := do
  e.onlyOwner msgSender
  pure { e with lzToken := lzToken }

def manage (e : EndpointV2) (env : EndpointEnv) (msgSender : Address)
    (call : MessageLibManager.Call) : Except LzError EndpointV2 := do
  let libs ← e.toMessageLibManager.exec (e._assertAuthorized msgSender) env.toLibEnv msgSender call
  pure { e with toMessageLibManager := libs }

end EndpointV2

/-! ## The log -/

/-- A message that was cleared; `executed` if the receiver was called with it. -/
structure Clearing where
  path : InboundPath
  nonce : Uint64
  guid : Bytes32
  message : Bytes
  executed : Bool
deriving DecidableEq, Repr

def Clearing.payload (x : Clearing) : Bytes := EndpointV2.payloadOf x.guid x.message

/-- What happened to a nonce of a path. -/
inductive InboundEvent
  | verified (path : InboundPath) (nonce : Uint64) (payloadHash : Bytes32) (library : Address)
  | cleared (x : Clearing)
  | skipped (path : InboundPath) (nonce : Uint64)
  | nilified (path : InboundPath) (nonce : Uint64)
  | burnt (path : InboundPath) (nonce : Uint64)
deriving DecidableEq, Repr

/-- An endpoint and what it did.  The events of its inbound messages are kept newest first. -/
structure Endpoint extends EndpointV2 where
  sent : List LzPacket
  events : List InboundEvent
  composed : List (ComposeKey × Bytes)
  composeReceived : List (ComposeKey × Bytes)

inductive LzCall
  | send (params : MessagingParams) (refundAddress : Address)
  | verify (origin : Origin) (receiver : Address) (payloadHash : Bytes32)
  | lzReceive (origin : Origin) (receiver : Address) (guid : Bytes32) (message extraData : Bytes)
  | clear (oapp : Address) (origin : Origin) (guid : Bytes32) (message : Bytes)
  | skip (path : InboundPath) (nonce : Uint64)
  | nilify (path : InboundPath) (nonce : Uint64) (payloadHash : Bytes32)
  | burn (path : InboundPath) (nonce : Uint64) (payloadHash : Bytes32)
  | sendCompose (to_ : Address) (guid : Bytes32) (index : Uint16) (message : Bytes)
  | lzCompose (key : ComposeKey) (message extraData : Bytes)
  | setDelegate (delegate : Address)
  | setLzToken (lzToken : Address)
  | manage (call : MessageLibManager.Call)
deriving DecidableEq, Repr

/-- The functions that take native currency. -/
def LzCall.payable : LzCall → Bool
  | .send .. | .lzReceive .. | .lzCompose .. => true
  | .verify .. | .clear .. | .skip .. | .nilify .. | .burn .. | .sendCompose .. | .setDelegate _
  | .setLzToken _ | .manage _ => false

/-- The message that `lzReceive` or `clear` is asked to clear. -/
def clearingOf (origin : Origin) (receiver : Address) (guid : Bytes32) (message : Bytes)
    (executed : Bool) : Clearing :=
  ⟨EndpointV2.pathOf origin receiver, origin.nonce, guid, message, executed⟩

namespace Endpoint

/-- An endpoint as it is deployed. -/
def deploy (eid : Uint32) (owner blockedLibrary : Address) : Endpoint where
  toEndpointV2 := .constructor eid owner blockedLibrary
  sent := []
  events := []
  composed := []
  composeReceived := []

/-- The function a call is for, and its entry in the log. -/
def dispatch (keccak256 : Bytes → Bytes32) (e : Endpoint) (env : EndpointEnv) (msgSender : Address)
    (value : Nat) : LzCall → Except LzError Endpoint
  | .send params refundAddress => do
    let (c, s) ← e.toEndpointV2.send keccak256 env msgSender value params refundAddress
    pure { e with toEndpointV2 := c, sent := e.sent ++ [s.packet] }
  | .verify origin receiver payloadHash => do
    let c ← e.toEndpointV2.verify env msgSender origin receiver payloadHash
    let event := .verified (EndpointV2.pathOf origin receiver) origin.nonce payloadHash msgSender
    pure { e with toEndpointV2 := c, events := event :: e.events }
  | .lzReceive origin receiver guid message extraData => do
    let c ← e.toEndpointV2.lzReceive keccak256 env msgSender value origin receiver guid message
      extraData
    let event := .cleared (clearingOf origin receiver guid message true)
    pure { e with toEndpointV2 := c, events := event :: e.events }
  | .clear oapp origin guid message => do
    let c ← e.toEndpointV2.clear keccak256 msgSender oapp origin guid message
    let event := .cleared (clearingOf origin oapp guid message false)
    pure { e with toEndpointV2 := c, events := event :: e.events }
  | .skip path nonce => do
    let c ← e.toEndpointV2.skip msgSender path nonce
    pure { e with toEndpointV2 := c, events := .skipped path nonce :: e.events }
  | .nilify path nonce payloadHash => do
    let c ← e.toEndpointV2.nilify msgSender path nonce payloadHash
    pure { e with toEndpointV2 := c, events := .nilified path nonce :: e.events }
  | .burn path nonce payloadHash => do
    let c ← e.toEndpointV2.burn msgSender path nonce payloadHash
    pure { e with toEndpointV2 := c, events := .burnt path nonce :: e.events }
  | .sendCompose to_ guid index message => do
    let c ← e.toEndpointV2.sendCompose keccak256 msgSender to_ guid index message
    let key := ⟨msgSender, to_, guid, index⟩
    pure { e with toEndpointV2 := c, composed := e.composed ++ [(key, message)] }
  | .lzCompose key message extraData => do
    let c ← e.toEndpointV2.lzCompose keccak256 env msgSender value key message extraData
    pure { e with toEndpointV2 := c, composeReceived := e.composeReceived ++ [(key, message)] }
  | .setDelegate delegate =>
    pure { e with toEndpointV2 := e.toEndpointV2.setDelegate msgSender delegate }
  | .setLzToken lzToken => do
    let c ← e.toEndpointV2.setLzToken msgSender lzToken
    pure { e with toEndpointV2 := c }
  | .manage call => do
    let c ← e.toEndpointV2.manage env msgSender call
    pure { e with toEndpointV2 := c }

/-- Run one call.  A function that is not `payable` refuses value before it does anything. -/
def exec (keccak256 : Bytes → Bytes32) (e : Endpoint) (env : EndpointEnv) (msgSender : Address)
    (value : Nat) (call : LzCall) : Except LzError Endpoint := do
  refuseIf (call.payable = false ∧ value ≠ 0) .notPayable
  e.dispatch keccak256 env msgSender value call

/-- The caller may act for the application. -/
def Authorized (e : Endpoint) (msgSender oapp : Address) : Prop :=
  msgSender = oapp ∨ msgSender = e.delegates oapp

/-- The path on which an application sends. -/
def outboundPath (sender : Address) (params : MessagingParams) : OutboundPath :=
  ⟨sender, params.dstEid, params.receiver⟩

/-- The channel with another inbound part, and the event that made it. -/
def note (e : Endpoint) (channel : MessagingChannel) (event : InboundEvent) : Endpoint :=
  { e with toMessagingChannel := channel, events := event :: e.events }

end Endpoint

/-! ## What a call did -/

/-- The successful calls, with what they ask for and leave. -/
inductive EndpointStep (keccak256 : Bytes → Bytes32) (e : Endpoint) (env : EndpointEnv)
    (msgSender : Address) (value : Nat) : LzCall → Endpoint → Prop
  | send {params : MessagingParams} {refundAddress : Address} {fee : MessagingFee}
      {sendLibrary : Address}
      (hlib : e.getSendLibrary msgSender params.dstEid = .ok sendLibrary)
      (hfee : env.send sendLibrary (e.packetOf keccak256 msgSender params) params.options
        params.payInLzToken = some fee)
      (hpaid : fee.nativeFee ≤ value) :
      EndpointStep keccak256 e env msgSender value (.send params refundAddress)
        { e with
          toMessagingChannel := (e._outbound (Endpoint.outboundPath msgSender params)).1
          sent := e.sent ++ [e.packetOf keccak256 msgSender params] }
  | verify {origin : Origin} {receiver : Address} {payloadHash : Bytes32}
      (hvalid : e.isValidReceiveLibrary env.toLibEnv receiver origin.srcEid msgSender = .ok true)
      (hlive : ¬ (e.inbox (EndpointV2.pathOf origin receiver)).Dead origin.nonce.toNat)
      (hhash : payloadHash ≠ 0) :
      EndpointStep keccak256 e env msgSender value (.verify origin receiver payloadHash)
        (e.note (e.setPayloadHash (EndpointV2.pathOf origin receiver) origin.nonce payloadHash)
          (.verified (EndpointV2.pathOf origin receiver) origin.nonce payloadHash msgSender))
  | lzReceive {origin : Origin} {receiver : Address} {guid : Bytes32} {message extraData : Bytes}
      {channel : MessagingChannel}
      (hclear : e._clearPayload keccak256 (EndpointV2.pathOf origin receiver) origin.nonce
        (EndpointV2.payloadOf guid message) = .ok channel)
      (haccept : env.lzReceive receiver value origin guid message msgSender extraData = true) :
      EndpointStep keccak256 e env msgSender value
        (.lzReceive origin receiver guid message extraData)
        (e.note channel (.cleared (clearingOf origin receiver guid message true)))
  | clear {oapp : Address} {origin : Origin} {guid : Bytes32} {message : Bytes}
      {channel : MessagingChannel} (hauth : e.Authorized msgSender oapp)
      (hclear : e._clearPayload keccak256 (EndpointV2.pathOf origin oapp) origin.nonce
        (EndpointV2.payloadOf guid message) = .ok channel) :
      EndpointStep keccak256 e env msgSender value (.clear oapp origin guid message)
        (e.note channel (.cleared (clearingOf origin oapp guid message false)))
  | skip {path : InboundPath} {nonce : Uint64} {channel : MessagingChannel}
      (hauth : e.Authorized msgSender path.receiver)
      (hskip : e.toMessagingChannel.skip path nonce = .ok channel) :
      EndpointStep keccak256 e env msgSender value (.skip path nonce)
        (e.note channel (.skipped path nonce))
  | nilify {path : InboundPath} {nonce : Uint64} {payloadHash : Bytes32}
      {channel : MessagingChannel} (hauth : e.Authorized msgSender path.receiver)
      (hnilify : e.toMessagingChannel.nilify path nonce payloadHash = .ok channel) :
      EndpointStep keccak256 e env msgSender value (.nilify path nonce payloadHash)
        (e.note channel (.nilified path nonce))
  | burn {path : InboundPath} {nonce : Uint64} {payloadHash : Bytes32}
      {channel : MessagingChannel} (hauth : e.Authorized msgSender path.receiver)
      (hburn : e.toMessagingChannel.burn path nonce payloadHash = .ok channel) :
      EndpointStep keccak256 e env msgSender value (.burn path nonce payloadHash)
        (e.note channel (.burnt path nonce))
  | sendCompose {to_ : Address} {guid : Bytes32} {index : Uint16} {message : Bytes}
      (hfree : e.composeQueue ⟨msgSender, to_, guid, index⟩ = EndpointV2.NO_MESSAGE_HASH) :
      EndpointStep keccak256 e env msgSender value (.sendCompose to_ guid index message)
        { e with
          composeQueue := Function.update e.composeQueue ⟨msgSender, to_, guid, index⟩
            (keccak256 message)
          composed := e.composed ++ [(⟨msgSender, to_, guid, index⟩, message)] }
  | lzCompose {key : ComposeKey} {message extraData : Bytes}
      (hhash : e.composeQueue key = keccak256 message) :
      EndpointStep keccak256 e env msgSender value (.lzCompose key message extraData)
        { e with
          composeQueue := Function.update e.composeQueue key EndpointV2.RECEIVED_MESSAGE_HASH
          composeReceived := e.composeReceived ++ [(key, message)] }
  | setDelegate {delegate : Address} :
      EndpointStep keccak256 e env msgSender value (.setDelegate delegate)
        { e with delegates := Function.update e.delegates msgSender delegate }
  | setLzToken {lzToken : Address} :
      EndpointStep keccak256 e env msgSender value (.setLzToken lzToken)
        { e with lzToken := lzToken }
  | manage {call : MessageLibManager.Call} {libs : MessageLibManager}
      (hlibs : e.toMessageLibManager.exec (e._assertAuthorized msgSender) env.toLibEnv msgSender
        call = .ok libs) :
      EndpointStep keccak256 e env msgSender value (.manage call)
        { e with toMessageLibManager := libs }

variable {keccak256 : Bytes → Bytes32} {e e' : Endpoint} {env : EndpointEnv} {msgSender : Address}
  {value : Nat} {call : LzCall}

theorem EndpointV2._assertAuthorized_eq_ok {c : EndpointV2} {oapp : Address} {u : Unit} :
    c._assertAuthorized msgSender oapp = .ok u ↔
      msgSender = oapp ∨ msgSender = c.delegates oapp := by
  rw [_assertAuthorized, refuseIf_eq_ok, not_and_or, not_not, not_not]

/-- `skip`, `nilify` and `burn` are for whoever may act for the application. -/
theorem EndpointV2.reconfigure_eq_ok {c c' : EndpointV2} {oapp : Address}
    {write : MessagingChannel → Except LzError MessagingChannel} :
    c.reconfigure msgSender oapp write = .ok c' ↔
      (msgSender = oapp ∨ msgSender = c.delegates oapp) ∧
        ∃ channel, write c.toMessagingChannel = .ok channel ∧
          { c with toMessagingChannel := channel } = c' := by
  simp only [reconfigure, seq_eq_ok, ret_eq_ok, _assertAuthorized_eq_ok]
  constructor
  · rintro ⟨_, hauth, h⟩
    exact ⟨hauth, h⟩
  · rintro ⟨hauth, h⟩
    exact ⟨(), hauth, h⟩

/-- What `verify` asks for: a nonce that is not dead is one that may be verified. -/
theorem EndpointV2._verifiable_iff {c : EndpointV2} {origin : Origin} {receiver : Address} :
    c._verifiable origin receiver (c.lazyInboundNonce (pathOf origin receiver)) = true ↔
      ¬ (c.inbox (pathOf origin receiver)).Dead origin.nonce.toNat := by
  rw [MessagingChannel.dead_toNat, _verifiable, decide_eq_true_eq, not_and_or, BitVec.not_le]
  rfl

theorem Endpoint.exec_eq_ok : e.exec keccak256 env msgSender value call = .ok e' ↔
    (call.payable = false → value = 0) ∧
      e.dispatch keccak256 env msgSender value call = .ok e' := by
  simp only [exec, seq_eq_ok, refuseIf_eq_ok, not_and, not_not, exists_const]

theorem Endpoint.exec_of_payable (hcall : call.payable = true) :
    e.exec keccak256 env msgSender value call = e.dispatch keccak256 env msgSender value call := by
  rw [exec, hcall]
  rfl

/-- **What a call did.** -/
theorem Endpoint.exec_step (h : e.exec keccak256 env msgSender value call = .ok e') :
    EndpointStep keccak256 e env msgSender value call e' := by
  replace h := (exec_eq_ok.mp h).2
  cases call with
  | send params refundAddress =>
    simp only [dispatch, EndpointV2.send, EndpointV2._send, EndpointV2._assertMessagingFee, seq_eq_ok,
      ret_eq_ok, orRefuse_eq_ok, refuseIf_eq_ok, not_or] at h
    obtain ⟨_, ⟨_, _, _, ⟨sendLibrary, hlib, fee, hfee, rfl⟩, _, _, _, ⟨hpaid, _⟩, _, _, _, _, rfl⟩,
      rfl⟩ := h
    exact .send hlib hfee (Nat.not_lt.mp hpaid)
  | verify origin receiver payloadHash =>
    simp only [dispatch, EndpointV2.verify, seq_eq_ok, ret_eq_ok, refuseIf_eq_ok, Bool.not_eq_false,
      MessagingChannel._inbound_eq_ok, EndpointV2._verifiable_iff] at h
    obtain ⟨_, ⟨_, hvalid, _, rfl, _, _, _, _, _, hlive, _, ⟨hhash, rfl⟩, rfl⟩, rfl⟩ := h
    exact .verify hvalid hlive hhash
  | lzReceive origin receiver guid message extraData =>
    simp only [dispatch, EndpointV2.lzReceive, seq_eq_ok, ret_eq_ok, refuseIf_eq_ok,
      Bool.not_eq_false] at h
    obtain ⟨_, ⟨_, hclear, _, haccept, rfl⟩, rfl⟩ := h
    exact .lzReceive hclear haccept
  | clear oapp origin guid message =>
    simp only [dispatch, EndpointV2.clear, seq_eq_ok, ret_eq_ok,
      EndpointV2._assertAuthorized_eq_ok] at h
    obtain ⟨_, ⟨_, hauth, _, hclear, rfl⟩, rfl⟩ := h
    exact .clear hauth hclear
  | skip path nonce =>
    simp only [dispatch, EndpointV2.skip, seq_eq_ok, ret_eq_ok, EndpointV2.reconfigure_eq_ok] at h
    obtain ⟨_, ⟨hauth, _, hskip, rfl⟩, rfl⟩ := h
    exact .skip hauth hskip
  | nilify path nonce payloadHash =>
    simp only [dispatch, EndpointV2.nilify, seq_eq_ok, ret_eq_ok, EndpointV2.reconfigure_eq_ok] at h
    obtain ⟨_, ⟨hauth, _, hnilify, rfl⟩, rfl⟩ := h
    exact .nilify hauth hnilify
  | burn path nonce payloadHash =>
    simp only [dispatch, EndpointV2.burn, seq_eq_ok, ret_eq_ok, EndpointV2.reconfigure_eq_ok] at h
    obtain ⟨_, ⟨hauth, _, hburn, rfl⟩, rfl⟩ := h
    exact .burn hauth hburn
  | sendCompose to_ guid index message =>
    simp only [dispatch, EndpointV2.sendCompose, seq_eq_ok, ret_eq_ok, refuseIf_eq_ok, not_not] at h
    obtain ⟨_, ⟨_, hfree, rfl⟩, rfl⟩ := h
    exact .sendCompose hfree
  | lzCompose key message extraData =>
    simp only [dispatch, EndpointV2.lzCompose, seq_eq_ok, ret_eq_ok, refuseIf_eq_ok, not_not] at h
    obtain ⟨_, ⟨_, hhash, _, _, rfl⟩, rfl⟩ := h
    exact .lzCompose hhash
  | setDelegate delegate =>
    rw [← ret_eq_ok.mp h]
    exact .setDelegate
  | setLzToken lzToken =>
    simp only [dispatch, EndpointV2.setLzToken, seq_eq_ok, ret_eq_ok] at h
    obtain ⟨_, ⟨_, _, rfl⟩, rfl⟩ := h
    exact .setLzToken
  | manage call =>
    simp only [dispatch, EndpointV2.manage, seq_eq_ok, ret_eq_ok] at h
    obtain ⟨_, ⟨_, hlibs, rfl⟩, rfl⟩ := h
    exact .manage hlibs

end CrossRWA
