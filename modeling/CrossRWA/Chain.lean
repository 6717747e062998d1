/-
  One chain: a token, the mediators and a router, and the calls that cross between them.

  `Chain` is the state of the modelled contracts on one chain together with what an observer of
  its transactions sees: the packets handed to adapters, the messages created, the transfers
  started, the deliveries accepted, the mediators' mints, and the inputs hashed.  No function reads
  the observations; they only grow.

  * `Site` has the two fixed addresses of a chain, `Env` the behaviour of contracts outside the
    model during one call (adapters and foreign clients), which every call takes as an input.
  * The functions that reach another contract are here: `SimpleTokenMediator.sendCrossChain`,
    `sendCrossChainRetry`, `receiveMessage`, and the router's receiving calls with the client call
    that ends them (`executeClient`).
  * `exec` runs one call of the whole interface by an account; a call either returns a new chain
    or reverts, and then there is no new chain.  Value is refused first where a function is not
    `payable`.

  A call is a transaction: what an adapter or a client calls back is a transaction after it.  The
  contracts allow this reading, since they write their state BEFORE they call out (`sendMessage`,
  `receiveMessage`), and what they ask before writing (`isAllowedRoute`, `getQuorum`) is `view`.
-/
import CrossRWA.Mediator.SimpleTokenMediator
import CrossRWA.Token.XERC20

namespace CrossRWA

/-! ## Surroundings -/

/-- The fixed addresses of one chain. -/
structure Site where
  router : Address
  xerc20 : Address

/-- What contracts outside the model do during one call: whether an adapter takes a packet, what
    a foreign client answers, and whether it accepts an execution. -/
structure Env where
  sendMessage : Packet → Bool
  client : Address → Client
  receiveMessage : Address → Bool

/-! ## Observations -/

/-- A message created by `GlacisRouter.route`. -/
structure Message where
  messageId : Bytes32
  toChainId : Uint256
  to_ : Bytes32
  payload : Bytes
  sender : Address
  nonce : Uint256
deriving DecidableEq, Repr

/-- A successful `sendCrossChain`: the message it created, and its recipient and amount. -/
structure Transfer where
  message : Message
  to_ : Bytes32
  tokenAmount : Uint256
deriving DecidableEq, Repr

/-- A `GlacisRouter.receiveMessage` that did not revert. -/
structure Delivery where
  glacisData : GlacisData
  payload : Bytes
  fromChainId : Uint256
  adapter : Address
  executed : Bool
deriving DecidableEq, Repr

/-- A mint a mediator executed, and the message it was called for. -/
structure Mint where
  mediator : Address
  glacisData : GlacisData
  fromChainId : Uint256
  toAddress : Address
  tokenAmount : Uint256
deriving DecidableEq, Repr

/-! ## State -/

structure Chain where
  router : GlacisRouter
  token : Option XERC20
  mediators : Address → Option SimpleTokenMediator
  now : Nat
  packets : List Packet
  routed : List Message
  sends : List Transfer
  deliveries : List Delivery
  mints : List Mint
  hashed : List Bytes

namespace Chain

/-- The token contract at an address. -/
def tokenAt (c : Chain) (site : Site) (a : Address) : Except Revert XERC20 :=
  if a = site.xerc20 then orRevert c.token .noCode else .error .noCode

/-- The client contract at an address. -/
def clientAt (c : Chain) (env : Env) (a : Address) : Client :=
  match c.mediators a with
  | some m => m.client
  | none => env.client a

/-- The message a `route` call created. -/
def messageOf (msgSender : Address) (chainId : Uint256) (to_ : Bytes32) (payload : Bytes)
    (R : GlacisRouter.Routed) : Message :=
  ⟨R.messageId, chainId, to_, payload, msgSender, R.nonce⟩

section Calls

variable (keccak256 : Bytes → Bytes32)

/-- The inputs hashed for the id of a message received or retried on this chain. -/
def hashes (toChainId fromChainId : Uint256) (d : GlacisData) (payload : Bytes) : List Bytes :=
  messageIdInputs keccak256 toChainId fromChainId d.originalTo payload d.originalFrom d.nonce

/-- The chain after a successful `route`. -/
def afterRoute (c : Chain) (m : Message) (R : GlacisRouter.Routed) : Chain :=
  { c with
    router := R.router
    packets := c.packets ++ R.packets
    routed := c.routed ++ [m]
    hashed := c.hashed ++ messageIdInputs keccak256 m.toChainId c.router.GLACIS_CHAIN_ID m.to_
      m.payload (toBytes32 m.sender) m.nonce }

def route (c : Chain) (env : Env) (msgSender : Address) (value : Nat) (chainId : Uint256)
    (to_ : Bytes32) (payload : Bytes) (adapters : List Address) (fees : List CrossChainGas)
    (refundAddress : Address) (retryable : Bool) : Except Revert (Chain × Bytes32 × Uint256) := do
  let R ← c.router.route keccak256 env.sendMessage msgSender value chainId to_ payload adapters
    fees refundAddress retryable
  pure (c.afterRoute keccak256 (messageOf msgSender chainId to_ payload R) R, R.messageId, R.nonce)

/-- The chain after a successful `routeRetry`. -/
def afterRetry (c : Chain) (m : Message) (packets : List Packet) : Chain :=
  { c with
    packets := c.packets ++ packets
    hashed := c.hashed ++ messageIdInputs keccak256 m.toChainId c.router.GLACIS_CHAIN_ID m.to_
      m.payload (toBytes32 m.sender) m.nonce }

def routeRetry (c : Chain) (env : Env) (msgSender : Address) (value : Nat) (chainId : Uint256)
    (to_ : Bytes32) (payload : Bytes) (adapters : List Address) (fees : List CrossChainGas)
    (refundAddress : Address) (messageId : Bytes32) (nonce : Uint256) :
    Except Revert (Chain × Bytes32 × Uint256) := do
  let packets ← c.router.routeRetry keccak256 env.sendMessage msgSender value chainId to_ payload
    adapters fees refundAddress messageId nonce
  pure (c.afterRetry keccak256 ⟨messageId, chainId, to_, payload, msgSender, nonce⟩ packets,
    messageId, nonce)

end Calls

end Chain

/-! ## The mediator's calls -/

namespace SimpleTokenMediator

section Calls

variable (keccak256 : Bytes → Bytes32)

/-- Burns the caller's tokens and routes the token payload to the counterpart.  Returns the
    message id and nonce. -/
def sendCrossChain (site : Site) (c : Chain) (env : Env) (self msgSender : Address) (value : Nat)
    (chainId : Uint256) (to_ : Bytes32) (adapters : List Address) (fees : List CrossChainGas)
    (refundAddress : Address) (tokenAmount : Uint256) :
    Except Revert (Chain × Bytes32 × Uint256) := do
  let m ← orRevert (c.mediators self) .noCode
  let destinationTokenMediator := m.remoteCounterpart chainId
  revertIf (destinationTokenMediator = 0) .SimpleTokenMediator__DestinationChainUnavailable
  let token ← c.tokenAt site m.xERC20Token
  let token ← token.burn c.now self msgSender tokenAmount.toNat
  let tokenPayload := packTokenPayload to_ tokenAmount
  revertIf (m.GLACIS_ROUTER ≠ site.router) .noCode
  -- the mediator always enables retry
  let R ← c.router.route keccak256 env.sendMessage self value chainId destinationTokenMediator
    tokenPayload adapters fees refundAddress true
  let message := Chain.messageOf self chainId destinationTokenMediator tokenPayload R
  pure ({ c.afterRoute keccak256 message R with
      token := some token
      sends := c.sends ++ [⟨message, to_, tokenAmount⟩] }, R.messageId, R.nonce)

def sendCrossChainRetry (site : Site) (c : Chain) (env : Env) (self : Address) (value : Nat)
    (chainId : Uint256) (to_ : Bytes32) (adapters : List Address) (fees : List CrossChainGas)
    (refundAddress : Address) (messageId : Bytes32) (nonce : Uint256) (tokenAmount : Uint256) :
    Except Revert (Chain × Bytes32 × Uint256) := do
  let m ← orRevert (c.mediators self) .noCode
  let tokenPayload := packTokenPayload to_ tokenAmount
  let destinationTokenMediator := m.remoteCounterpart chainId
  revertIf (destinationTokenMediator = 0) .SimpleTokenMediator__DestinationChainUnavailable
  revertIf (m.GLACIS_ROUTER ≠ site.router) .noCode
  c.routeRetry keccak256 env self value chainId destinationTokenMediator tokenPayload adapters fees
    refundAddress messageId nonce

end Calls

/-- `_receiveMessage` mints what the payload says and ignores where the message came from.
    Returns the recipient and the amount it emits. -/
def _receiveMessage (site : Site) (c : Chain) (self : Address) (m : SimpleTokenMediator)
    (payload : Bytes) : Except Revert (Chain × Address × Uint256) := do
  let (to_, tokenAmount) ← orRevert (decodeTokenPayload payload) .abiDecode
  let token ← c.tokenAt site m.xERC20Token
  let token ← token.mint c.now self (toAddress to_) tokenAmount.toNat
  pure ({ c with token := some token }, toAddress to_, tokenAmount)

/-- `GlacisClient.receiveMessage`; the adapters, chain and address of the message reach
    `_receiveMessage`, which does not look at them.  Every mint of a mediator is here, so this is
    where it is noted; `glacisData` is the message of the call, for the note only. -/
def receiveMessage (site : Site) (c : Chain) (self msgSender : Address)
    (_fromAdapters : List Address) (fromChainId : Uint256) (_fromAddress : Bytes32)
    (payload : Bytes) (glacisData : GlacisData) : Except Revert Chain := do
  let m ← orRevert (c.mediators self) .noCode
  revertIf (msgSender ≠ m.GLACIS_ROUTER) .GlacisClient__CanOnlyBeCalledByRouter
  let (c, toAddress, tokenAmount) ← m._receiveMessage site c self payload
  pure { c with mints := c.mints ++ [⟨self, glacisData, fromChainId, toAddress, tokenAmount⟩] }

end SimpleTokenMediator

/-! ## The router's receiving calls -/

namespace Chain

/-- The call of the client that ends a receiving call. -/
def executeClient (site : Site) (c : Chain) (env : Env) (R : GlacisRouter.Received)
    (fromChainId : Uint256) : Except Revert Chain :=
  let client := toAddress R.glacisData.originalTo
  match c.mediators client with
  | some _ =>
    SimpleTokenMediator.receiveMessage site c client site.router R.fromAdapters fromChainId
      R.glacisData.originalFrom R.payload R.glacisData
  | none => do
    revertIf (env.receiveMessage client = false) .clientReverted
    pure c

section Calls

variable (keccak256 : Bytes → Bytes32)

/-- The chain after the router's own part of `receiveMessage`. -/
def afterReceive (c : Chain) (msgSender : Address) (fromChainId : Uint256)
    (R : GlacisRouter.Received) : Chain :=
  { c with
    router := R.router
    deliveries := c.deliveries ++ [⟨R.glacisData, R.payload, fromChainId, msgSender, R.executed⟩]
    hashed := c.hashed ++
      hashes keccak256 c.router.GLACIS_CHAIN_ID fromChainId R.glacisData R.payload }

def receiveMessage (site : Site) (c : Chain) (env : Env) (msgSender : Address)
    (fromChainId : Uint256) (glacisPayload : Bytes) : Except Revert Chain := do
  let R ← c.router.receiveMessage keccak256 (c.clientAt env) msgSender fromChainId glacisPayload
  let c := c.afterReceive keccak256 msgSender fromChainId R
  if R.executed then executeClient site c env R fromChainId else pure c

/-- The chain after the router's own part of `retryReceiveMessage`. -/
def afterRetryReceive (c : Chain) (fromChainId : Uint256) (R : GlacisRouter.Received) : Chain :=
  { c with
    router := R.router
    hashed := c.hashed ++
      hashes keccak256 c.router.GLACIS_CHAIN_ID fromChainId R.glacisData R.payload }

def retryReceiveMessage (site : Site) (c : Chain) (env : Env) (fromChainId : Uint256)
    (glacisPayload : Bytes) : Except Revert Chain := do
  let R ← c.router.retryReceiveMessage keccak256 (c.clientAt env) fromChainId glacisPayload
  executeClient site (c.afterRetryReceive keccak256 fromChainId R) env R fromChainId

end Calls

end Chain

/-! ## The interface -/

/-- One call of one of the modelled contracts on a chain. -/
inductive Call
  | token (call : XERC20.Call)
  | mediator (self : Address) (call : SimpleTokenMediator.LocalCall)
  | sendCrossChain (self : Address) (chainId : Uint256) (to_ : Bytes32) (adapters : List Address)
      (fees : List CrossChainGas) (refundAddress : Address) (tokenAmount : Uint256)
  | sendCrossChainRetry (self : Address) (chainId : Uint256) (to_ : Bytes32)
      (adapters : List Address) (fees : List CrossChainGas) (refundAddress : Address)
      (messageId : Bytes32) (nonce : Uint256) (tokenAmount : Uint256)
  | mediatorReceiveMessage (self : Address) (fromAdapters : List Address) (fromChainId : Uint256)
      (fromAddress : Bytes32) (payload : Bytes)
  | router (call : GlacisRouter.LocalCall)
  | route (chainId : Uint256) (to_ : Bytes32) (payload : Bytes) (adapters : List Address)
      (fees : List CrossChainGas) (refundAddress : Address) (retryable : Bool)
  | routeRetry (chainId : Uint256) (to_ : Bytes32) (payload : Bytes) (adapters : List Address)
      (fees : List CrossChainGas) (refundAddress : Address) (messageId : Bytes32)
      (nonce : Uint256)
  | receiveMessage (fromChainId : Uint256) (glacisPayload : Bytes)
  | retryReceiveMessage (fromChainId : Uint256) (glacisPayload : Bytes)
deriving DecidableEq, Repr

/-- The calls of the `payable` functions. -/
def Call.payable : Call → Bool
  | .sendCrossChain .. | .sendCrossChainRetry .. | .route .. | .routeRetry .. => true
  | _ => false

/-- The calls restricted to an owner or a factory. -/
def Call.restricted : Call → Bool
  | .token call => call.restricted
  | .mediator _ call => call.restricted
  | .router call => call.restricted
  | _ => false

namespace Chain

section Exec

variable (keccak256 : Bytes → Bytes32)

/-- The function a call is for, run by `msgSender` with `value` wei attached. -/
def dispatch (site : Site) (c : Chain) (env : Env) (msgSender : Address) (value : Nat) :
    Call → Except Revert Chain
  | .token call => do
    let t ← orRevert c.token .noCode
    let t ← t.exec c.now msgSender call
    pure { c with token := some t }
  | .mediator self call => do
    let m ← orRevert (c.mediators self) .noCode
    let m ← m.exec msgSender call
    pure { c with mediators := Function.update c.mediators self (some m) }
  | .sendCrossChain self chainId to_ adapters fees refundAddress tokenAmount => do
    let (c, _) ← SimpleTokenMediator.sendCrossChain keccak256 site c env self msgSender value
      chainId to_ adapters fees refundAddress tokenAmount
    pure c
  | .sendCrossChainRetry self chainId to_ adapters fees refundAddress messageId nonce
      tokenAmount => do
    let (c, _) ← SimpleTokenMediator.sendCrossChainRetry keccak256 site c env self value chainId
      to_ adapters fees refundAddress messageId nonce tokenAmount
    pure c
  | .mediatorReceiveMessage self fromAdapters fromChainId fromAddress payload =>
    -- no router's message: the note has an id of zero
    SimpleTokenMediator.receiveMessage site c self msgSender fromAdapters fromChainId fromAddress
      payload ⟨0, 0, fromAddress, toBytes32 self⟩
  | .router call => do
    let r ← c.router.exec msgSender call
    pure { c with router := r }
  | .route chainId to_ payload adapters fees refundAddress retryable => do
    let (c, _) ← c.route keccak256 env msgSender value chainId to_ payload adapters fees
      refundAddress retryable
    pure c
  | .routeRetry chainId to_ payload adapters fees refundAddress messageId nonce => do
    let (c, _) ← c.routeRetry keccak256 env msgSender value chainId to_ payload adapters fees
      refundAddress messageId nonce
    pure c
  | .receiveMessage fromChainId glacisPayload =>
    receiveMessage keccak256 site c env msgSender fromChainId glacisPayload
  | .retryReceiveMessage fromChainId glacisPayload =>
    retryReceiveMessage keccak256 site c env fromChainId glacisPayload

/-- Run one call.  A function that is not `payable` refuses value before it does anything. -/
def exec (site : Site) (c : Chain) (env : Env) (msgSender : Address) (value : Nat) (call : Call) :
    Except Revert Chain := do
  revertIf (call.payable = false ∧ value ≠ 0) .notPayable
  c.dispatch keccak256 site env msgSender value call

end Exec

theorem exec_eq_ok {keccak256 : Bytes → Bytes32} {site : Site} {c c' : Chain} {env : Env}
    {msgSender : Address} {value : Nat} {call : Call} :
    c.exec keccak256 site env msgSender value call = .ok c' ↔
      (call.payable = false → value = 0) ∧
        c.dispatch keccak256 site env msgSender value call = .ok c' := by
  simp only [exec, bind_eq_ok, revertIf_eq_ok]
  constructor
  · rintro ⟨_, hvalue, h⟩
    exact ⟨fun hp => Decidable.not_not.mp fun hne => hvalue ⟨hp, hne⟩, h⟩
  · rintro ⟨hvalue, h⟩
    exact ⟨(), fun ⟨hp, hne⟩ => hne (hvalue hp), h⟩

/-! ## Deployment -/

/-- A chain with a router and nothing else of the deployment yet. -/
def initial (router : GlacisRouter) (now : Nat) : Chain where
  router := router
  token := none
  mediators := fun _ => none
  now := now
  packets := []
  routed := []
  sends := []
  deliveries := []
  mints := []
  hashed := []

/-- `new BasicXERC20Sample(owner)`. -/
def deployXERC20 (c : Chain) (owner : Address) : Except Revert Chain := do
  revertIf (c.token.isSome = true) .createCollision
  let t ← BasicXERC20Sample.constructor owner
  pure { c with token := some t }

/-- `new SimpleTokenMediator(router, 1, owner)`, at the address `self`. -/
def deployMediator (site : Site) (c : Chain) (self owner : Address) : Except Revert Chain := do
  revertIf ((c.mediators self).isSome = true) .createCollision
  let m ← SimpleTokenMediator.constructor site.router 1 owner
  pure { c with mediators := Function.update c.mediators self (some m) }

end Chain

end CrossRWA
