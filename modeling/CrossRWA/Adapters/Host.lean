/-
  One chain with its adapters.

  `Host` is a relay together with the adapter contracts on its chain and a log of what was asked of
  the GMPs there, by adapters and by anyone else.  The relay's packets are no longer taken or
  refused by the surroundings: a packet for a modelled adapter goes through that adapter.

  1. `Adapter` is an adapter of any of the six GMPs, `AdapterCall` a call of one from outside;
     `Adapter.exec` runs it, with the router's part of a delivery as an argument.
  2. `Host.call`, `Host.adapterCall` and `Host.gmpCall` are the three kinds of steps.
  3. `call_spec`, `adapterCall_spec` and `gmpCall_spec` take the steps apart.
-/
import CrossRWA.Adapters.LayerZero
import CrossRWA.Redundancy.Network

set_option linter.unusedSectionVars false

namespace CrossRWA

open Calls

/-! ## Adapters of all kinds -/

inductive Adapter
  | wormhole (a : GlacisWormholeAdapter)
  | hyperlane (a : GlacisHyperlaneAdapter)
  | layerZeroV2 (a : GlacisLayerZeroV2Adapter)
  | ccip (a : GlacisCCIPAdapter)
  | axelar (a : GlacisAxelarAdapter)
  | layerZero (a : GlacisLayerZeroAdapter)

/-- The calls of an adapter, but for the router's `sendMessage`. -/
inductive AdapterCall
  | receiveWormholeMessages (payload : Bytes) (additionalVaas : List Bytes)
      (sourceAddress : Bytes32) (sourceChain : Uint16) (deliveryHash : Bytes32)
  | handle (origin : Uint32) (sender : Bytes32) (message : Bytes)
  | lzReceiveV2 (origin : Origin) (guid : Bytes32) (message : Bytes) (executor : Address)
      (extraData : Bytes)
  | ccipReceive (message : Any2EVMMessage)
  | execute (commandId : Bytes32) (sourceChain sourceAddress payload : Bytes)
  | lzReceive (key : LzKey) (payload : Bytes)
  | retryMessage (key : LzKey) (payload : Bytes)
  | setPeer (eid : Uint32) (peer : Bytes32)
  | setCCIPGasLimit (gasLimit : Nat)
  | owner16 (call : GlacisAbstractAdapter.OwnerCall Uint16)
  | owner32 (call : GlacisAbstractAdapter.OwnerCall Uint32)
  | owner64 (call : GlacisAbstractAdapter.OwnerCall Uint64)
  | ownerBytes (call : GlacisAbstractAdapter.OwnerCall Bytes)
  | ownerLz (call : GlacisLayerZeroAdapter.OwnerCall)
deriving DecidableEq, Repr

/-- The payloads a call hashes. -/
def AdapterCall.hashes : AdapterCall → List Bytes
  | .lzReceive _ payload => [payload]
  | .retryMessage _ payload => [payload]
  | _ => []

namespace Adapter

def gmp : Adapter → Gmp
  | .wormhole _ => .wormhole
  | .hyperlane _ => .hyperlane
  | .layerZeroV2 _ => .layerZeroV2
  | .ccip _ => .ccip
  | .axelar _ => .axelar
  | .layerZero _ => .layerZero

def GLACIS_ROUTER : Adapter → Address
  | .wormhole a => a.GLACIS_ROUTER
  | .hyperlane a => a.GLACIS_ROUTER
  | .layerZeroV2 a => a.GLACIS_ROUTER
  | .ccip a => a.GLACIS_ROUTER
  | .axelar a => a.GLACIS_ROUTER
  | .layerZero a => a.GLACIS_ROUTER

/-- The modifier of `sendMessage`. -/
def onlyGlacisRouter (A : Adapter) (msgSender : Address) : Except AdapterRevert Unit :=
  refuseIf (msgSender ≠ A.GLACIS_ROUTER) .GlacisAbstractAdapter__OnlyGlacisRouterAllowed

def sendMessage (A : Adapter) (self msgSender : Address) (env : GmpEnv) (value : Nat)
    (toChainId : Uint256) (refundAddress : Address) (incentives : CrossChainGas)
    (payload : Bytes) : Except AdapterRevert Sent := do
  A.onlyGlacisRouter msgSender
  match A with
  | .wormhole a => a._sendMessage env value toChainId refundAddress incentives payload
  | .hyperlane a => a._sendMessage env value toChainId refundAddress incentives payload
  | .layerZeroV2 a => a._sendMessage env value toChainId refundAddress incentives payload
  | .ccip a => a._sendMessage env value toChainId refundAddress incentives payload
  | .axelar a => a._sendMessage env value toChainId refundAddress incentives payload
  | .layerZero a => a._sendMessage self env value toChainId refundAddress incentives payload

/-- **What an adapter sends** is its GMP's, carries the payload, and spends the value. -/
theorem sendMessage_spec {A : Adapter} {self msgSender : Address} {env : GmpEnv} {value : Nat}
    {toChainId : Uint256} {refundAddress : Address} {incentives : CrossChainGas} {payload : Bytes}
    {s : Sent} (h : A.sendMessage self msgSender env value toChainId refundAddress incentives
      payload = .ok s) :
    msgSender = A.GLACIS_ROUTER ∧ s.call.gmp = A.gmp ∧ s.call.payload = payload ∧
      s.Spends value := by
  simp only [sendMessage, onlyGlacisRouter, seq_eq_ok, refuseIf_eq_ok] at h
  obtain ⟨_, hrouter, h⟩ := h
  refine ⟨not_not.mp hrouter, ?_⟩
  cases A with
  | wormhole a => exact GlacisWormholeAdapter._sendMessage_spec h
  | hyperlane a => exact GlacisHyperlaneAdapter._sendMessage_spec h
  | layerZeroV2 a => exact GlacisLayerZeroV2Adapter._sendMessage_spec h
  | ccip a => exact GlacisCCIPAdapter._sendMessage_spec h
  | axelar a => exact GlacisAxelarAdapter._sendMessage_spec h
  | layerZero a => exact GlacisLayerZeroAdapter._sendMessage_spec h

section Exec

variable {S : Type} (keccak256 : Bytes → Bytes32)

/-- A delivery that reverts with the router. -/
def forward (router : RouterCall → Except AdapterRevert S) (A : Adapter) (R : RouterCall) :
    Except AdapterRevert (Adapter × Option S) := do
  let s ← router R
  pure (A, some s)

/-- A call that does not reach the router. -/
def quietly (A : Adapter) : Adapter × Option S := (A, none)

/-- Run one call of the adapter at `self`. -/
def exec (self : Address) (env : GmpEnv) (msgSender : Address)
    (router : RouterCall → Except AdapterRevert S) :
    Adapter → AdapterCall → Except AdapterRevert (Adapter × Option S)
  | .wormhole a, .receiveWormholeMessages payload additionalVaas sourceAddress sourceChain
      deliveryHash => do
    let (a, R) ← a.receiveWormholeMessages msgSender payload additionalVaas sourceAddress
      sourceChain deliveryHash
    forward router (.wormhole a) R
  | .wormhole a, .owner16 call => do
    let b ← a.toGlacisAbstractAdapter.exec msgSender call
    pure (quietly (.wormhole { a with toGlacisAbstractAdapter := b }))
  | .hyperlane a, .handle origin sender message => do
    let R ← a.handle msgSender origin sender message
    forward router (.hyperlane a) R
  | .hyperlane a, .owner32 call => do
    let b ← a.toGlacisAbstractAdapter.exec msgSender call
    pure (quietly (.hyperlane { a with toGlacisAbstractAdapter := b }))
  | .layerZeroV2 a, .lzReceiveV2 origin guid message executor extraData => do
    let R ← a.lzReceive msgSender origin guid message executor extraData
    forward router (.layerZeroV2 a) R
  | .layerZeroV2 a, .setPeer eid peer => do
    let a ← a.setPeer msgSender eid peer
    pure (quietly (.layerZeroV2 a))
  | .layerZeroV2 a, .owner32 call => do
    let b ← a.toGlacisAbstractAdapter.exec msgSender call
    pure (quietly (.layerZeroV2 { a with toGlacisAbstractAdapter := b }))
  | .ccip a, .ccipReceive message => do
    let R ← a.ccipReceive msgSender message
    forward router (.ccip a) R
  | .ccip a, .setCCIPGasLimit gasLimit => do
    let a ← a.setCCIPGasLimit msgSender gasLimit
    pure (quietly (.ccip a))
  | .ccip a, .owner64 call => do
    let b ← a.toGlacisAbstractAdapter.exec msgSender call
    pure (quietly (.ccip { a with toGlacisAbstractAdapter := b }))
  | .axelar a, .execute commandId sourceChain sourceAddress payload => do
    let R ← a.execute env commandId sourceChain sourceAddress payload
    forward router (.axelar a) R
  | .axelar a, .ownerBytes call => do
    let b ← a.toGlacisAbstractAdapter.exec msgSender call
    pure (quietly (.axelar { a with toGlacisAbstractAdapter := b }))
  | .layerZero a, .lzReceive key payload => do
    let (a, result) ← a.lzReceive keccak256 self msgSender key payload router
    pure (.layerZero a, result)
  | .layerZero a, .retryMessage key payload => do
    let (a, R) ← a.retryMessage keccak256 key payload
    forward router (.layerZero a) R
  | .layerZero a, .ownerLz call => do
    let a ← a.exec msgSender call
    pure (quietly (.layerZero a))
  | _, _ => .error .noCode

end Exec

end Adapter

/-! ## Hosts -/

structure Host extends Relay where
  adapters : Address → Option Adapter
  gmpCalls : List (Address × GmpCall)
  /-- The payloads hashed by adapters. -/
  payloads : List Bytes

namespace Host

/-- An adapter's answer to a packet. -/
def answer (h : Host) (site : Site) (gmp : GmpEnv) (pk : Packet) : Option (Except AdapterRevert Sent) :=
  (h.adapters pk.adapter).map fun A =>
    A.sendMessage pk.adapter site.router gmp pk.incentives.nativeCurrencyValue.toNat pk.toChainId
      pk.refundAddress pk.incentives pk.payload

/-- Whether a packet is taken: by its adapter, if it is one of the modelled ones. -/
def takes (h : Host) (site : Site) (env : Env) (gmp : GmpEnv) (pk : Packet) : Bool :=
  match h.answer site gmp pk with
  | none => env.sendMessage pk
  | some (.ok _) => true
  | some (.error _) => false

/-- What the adapter of a packet asks its GMP. -/
def asks (h : Host) (site : Site) (gmp : GmpEnv) (pk : Packet) : Option (Address × GmpCall) :=
  match h.answer site gmp pk with
  | some (.ok s) => some (pk.adapter, s.call)
  | _ => none

/-- The surroundings of a call, the adapters taken out of them. -/
def surround (h : Host) (site : Site) (env : Env) (gmp : GmpEnv) : Env :=
  { env with sendMessage := h.takes site env gmp }

section Calls

variable (keccak256 : Bytes → Bytes32)

/-- A call of a contract of the core, by anyone but an adapter. -/
def call (h : Host) (site : Site) (env : Env) (gmp : GmpEnv) (msgSender : Address) (value : Nat)
    (call : Call) : Except AdapterRevert Host := do
  -- an adapter's code has no such call
  refuseIf ((h.adapters msgSender).isSome) .noCode
  let n ← relabel .core
    (h.toRelay.exec keccak256 site (h.surround site env gmp) msgSender value call)
  pure { h with
    toRelay := n
    gmpCalls := h.gmpCalls ++ (n.packets.drop h.packets.length).filterMap (h.asks site gmp) }

/-- The router's part of a delivery by the adapter at `self`. -/
def deliver (h : Host) (site : Site) (env : Env) (gmp : GmpEnv) (self : Address) (A : Adapter)
    (R : RouterCall) : Except AdapterRevert Relay := do
  refuseIf (A.GLACIS_ROUTER ≠ site.router) .noCode
  relabel .core (h.toRelay.exec keccak256 site (h.surround site env gmp) self 0
    (.receiveMessage R.fromChainId R.glacisPayload))

/-- A call of the adapter at `self`. -/
def adapterCall (h : Host) (site : Site) (env : Env) (gmp : GmpEnv) (msgSender self : Address)
    (call : AdapterCall) : Except AdapterRevert Host := do
  let A ← orRefuse (h.adapters self) .noCode
  let (A', result) ← A.exec keccak256 self gmp msgSender
    (h.deliver keccak256 site env gmp self A) call
  pure { h with
    toRelay := result.getD h.toRelay
    adapters := Function.update h.adapters self (some A')
    payloads := h.payloads ++ call.hashes }

/-- Anyone but an adapter asks a GMP to carry something. -/
def gmpCall (h : Host) (sender : Address) (call : GmpCall) : Except AdapterRevert Host := do
  refuseIf ((h.adapters sender).isSome) .noCode
  pure { h with gmpCalls := h.gmpCalls ++ [(sender, call)] }

end Calls

section Inversion

variable {keccak256 : Bytes → Bytes32} {h h' : Host} {site : Site} {env : Env} {gmp : GmpEnv}
  {msgSender : Address}

/-- What an adapter asks for a packet has the packet's payload. -/
theorem asks_spec {pk : Packet} {e : Address × GmpCall} (he : h.asks site gmp pk = some e) :
    e.2.payload = pk.payload := by
  unfold asks at he
  split at he
  · next s hs =>
    obtain rfl := Option.some.inj he
    obtain ⟨A, _, hA⟩ := Option.map_eq_some_iff.mp hs
    exact (Adapter.sendMessage_spec hA).2.2.1
  · cases he

theorem call_spec {value : Nat} {call : Call}
    (hok : h.call keccak256 site env gmp msgSender value call = .ok h') :
    h.adapters msgSender = none ∧ ∃ n, h.toRelay.exec keccak256 site (h.surround site env gmp)
      msgSender value call = .ok n ∧ h' = { h with
        toRelay := n
        gmpCalls := h.gmpCalls ++ (n.packets.drop h.packets.length).filterMap (h.asks site gmp) } := by
  simp only [Host.call, seq_eq_ok, refuseIf_eq_ok, relabel_eq_ok, ret_eq_ok] at hok
  obtain ⟨_, hnone, n, hn, rfl⟩ := hok
  exact ⟨Option.not_isSome_iff_eq_none.mp hnone, n, hn, rfl⟩

theorem deliver_eq_ok {self : Address} {A : Adapter} {R : RouterCall} {n : Relay}
    (hok : h.deliver keccak256 site env gmp self A R = .ok n) :
    A.GLACIS_ROUTER = site.router ∧ h.toRelay.exec keccak256 site (h.surround site env gmp) self 0
      (.receiveMessage R.fromChainId R.glacisPayload) = .ok n := by
  simp only [deliver, seq_eq_ok, refuseIf_eq_ok, relabel_eq_ok] at hok
  obtain ⟨_, hrouter, hn⟩ := hok
  exact ⟨not_not.mp hrouter, hn⟩

theorem adapterCall_spec {self : Address} {call : AdapterCall}
    (hok : h.adapterCall keccak256 site env gmp msgSender self call = .ok h') :
    ∃ A A' result, h.adapters self = some A ∧
      A.exec keccak256 self gmp msgSender (h.deliver keccak256 site env gmp self A) call
        = .ok (A', result) ∧
      h' = { h with
        toRelay := result.getD h.toRelay
        adapters := Function.update h.adapters self (some A')
        payloads := h.payloads ++ call.hashes } := by
  simp only [adapterCall, seq_eq_ok, orRefuse_eq_ok, ret_eq_ok] at hok
  obtain ⟨A, hA, ⟨A', result⟩, hexec, rfl⟩ := hok
  exact ⟨A, A', result, hA, hexec, rfl⟩

theorem gmpCall_spec {sender : Address} {call : GmpCall} (hok : h.gmpCall sender call = .ok h') :
    h.adapters sender = none ∧ h' = { h with gmpCalls := h.gmpCalls ++ [(sender, call)] } := by
  simp only [gmpCall, seq_eq_ok, refuseIf_eq_ok, ret_eq_ok] at hok
  obtain ⟨_, hnone, rfl⟩ := hok
  exact ⟨Option.not_isSome_iff_eq_none.mp hnone, rfl⟩

end Inversion

end Host

end CrossRWA
