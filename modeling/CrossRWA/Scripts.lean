/-
  The deployment scripts — `SimulateDeployMultiXERC20`, `AddNewPath`, `JustDeployTokenMediator`.

  Each script is the list of the transactions it broadcasts, in its order; what it computes off
  chain (addresses, arrays) is written out where the transaction uses it.

  * `SimulateDeployMultiXERC20.run` deploys the tokens and the paths `wh` and `lz`, `AddNewPath.run`
    adds one path more; they share a deployment over `Path n`, which has `n` added paths.
  * `JustDeployTokenMediator.run` wires the only path of a deployment over `Unit`, to a token that
    is already there, and allows every bridge.
  * `Sample` is a deployment at the addresses the scripts record, with fresh routers and
    `keccak256` as a table of what its runs hash; every concrete run of this development is one
    of its.
-/
import CrossRWA.Books

namespace CrossRWA

/-- `1 ether`. -/
def ether : Nat := 10 ^ 18

namespace Deployment

variable {Path : Type} (d : Deployment Path)

/-- A call of a mediator by the deployer. -/
def configure (s : Side) (p : Path) (call : SimpleTokenMediator.LocalCall) : Transaction Path :=
  .call s d.deployer 0 (.mediator (d.mediator s p) call)

/-- A call of a chain's XERC20 by the deployer. -/
def tokenCall (s : Side) (call : XERC20.Call) : Transaction Path :=
  .call s d.deployer 0 (.token call)

/-- `setLimits(mediator, 100 ether, 100 ether)`: "100 per day, both ways". -/
def limits (s : Side) (p : Path) : Transaction Path :=
  d.tokenCall s (.setLimits (d.mediator s p) (100 * ether) (100 * ether))

/-- `addAllowedRoute(GlacisRoute(WILDCARD, counterpart, fromAdapter))`. -/
def allowRoute (s : Side) (p : Path) (fromAdapter : Address) : Transaction Path :=
  d.configure s p
    (.addAllowedRoute ⟨WILD_CHAIN, toBytes32 (d.mediator s.other p), fromAdapter⟩)

/-- `addRemoteCounterparts([chainId], [counterpart])`. -/
def addCounterpart (s : Side) (p : Path) : Transaction Path :=
  d.configure s p (.addRemoteCounterparts [s.other.chainId] [toBytes32 (d.mediator s.other p)])

/-- `sendCrossChain` of the scripts: to the deployer itself, through one adapter. -/
def send (s : Side) (p : Path) (adapter : Address) (tokenAmount : Uint256) : Transaction Path :=
  .call s d.deployer 100000000000000 (.sendCrossChain (d.mediator s p) s.other.chainId
    (toBytes32 d.deployer) [adapter] [⟨0, 100000000000000⟩] d.deployer tokenAmount)

end Deployment

/-- The paths of a two-bridge deployment with `n` paths added later. -/
inductive Path (n : Nat)
  | wh
  | lz
  | added (i : Fin n)
deriving DecidableEq, Repr

/-- The GMP a path's route is reserved for: Wormhole, LayerZero, Axelar. -/
def Path.gmpId {n : Nat} : Path n → Uint8
  | .wh => 3
  | .lz => 2
  | .added _ => 1

/-- The GMP as the scripts write it, among the adapters. -/
def Path.adapterId {n : Nat} : Path n → Address
  | .wh => 3
  | .lz => 2
  | .added _ => 1

theorem Path.gmpId_le {n : Nat} (p : Path n) : p.gmpId.toNat ≤ GLACIS_RESERVED_IDS := by
  cases p <;> simp only [gmpId] <;> decide

theorem Path.gmpId_ne_zero {n : Nat} (p : Path n) : p.gmpId ≠ 0 := by
  cases p <;> simp only [gmpId] <;> decide

namespace SimulateDeployMultiXERC20

/-- `1 ether / 10`. -/
def AMOUNT_TO_SEND : Nat := ether / 10

/-- The script up to its transfers. -/
def wiring {n : Nat} (d : Deployment (Path n)) : List (Transaction (Path n)) :=
  [ .deployXERC20 .opt,
    .deployMediator .opt .wh,
    .deployMediator .opt .lz,
    d.configure .opt .wh (.setXERC20 (d.xerc20 .opt)),
    d.configure .opt .lz (.setXERC20 (d.xerc20 .opt)),
    d.limits .opt .wh,
    d.limits .opt .lz,
    .deployXERC20 .arb,
    .deployMediator .arb .wh,
    .deployMediator .arb .lz,
    d.configure .arb .wh (.setXERC20 (d.xerc20 .arb)),
    d.configure .arb .lz (.setXERC20 (d.xerc20 .arb)),
    d.limits .arb .wh,
    d.limits .arb .lz,
    d.allowRoute .opt .wh 3,
    d.addCounterpart .opt .wh,
    d.allowRoute .opt .lz 2,
    d.addCounterpart .opt .lz,
    d.allowRoute .arb .wh 3,
    d.addCounterpart .arb .wh,
    d.allowRoute .arb .lz 2,
    d.addCounterpart .arb .lz ]

def run {n : Nat} (d : Deployment (Path n)) : List (Transaction (Path n)) :=
  wiring d ++
  [ d.tokenCall .arb (.approve (d.mediator .arb .wh) AMOUNT_TO_SEND),
    d.send .arb .wh 3 (BitVec.ofNat 256 AMOUNT_TO_SEND),
    d.tokenCall .arb (.approve (d.mediator .arb .lz) AMOUNT_TO_SEND),
    d.send .arb .lz 2 (BitVec.ofNat 256 AMOUNT_TO_SEND) ]

end SimulateDeployMultiXERC20

namespace AddNewPath

/-- `1 ether / 10`. -/
def AMOUNT_TO_SEND : Nat := ether / 10

/-- Axelar. -/
def GMP_ID : Address := 1

/-- The script up to its transfer. -/
def wiring {n : Nat} (d : Deployment (Path n)) (i : Fin n) : List (Transaction (Path n)) :=
  [ .deployMediator .opt (.added i),
    d.configure .opt (.added i) (.setXERC20 (d.xerc20 .opt)),
    d.limits .opt (.added i),
    .deployMediator .arb (.added i),
    d.configure .arb (.added i) (.setXERC20 (d.xerc20 .arb)),
    d.limits .arb (.added i),
    d.allowRoute .arb (.added i) GMP_ID,
    d.addCounterpart .arb (.added i),
    d.allowRoute .opt (.added i) GMP_ID,
    d.addCounterpart .opt (.added i) ]

def run {n : Nat} (d : Deployment (Path n)) (i : Fin n) : List (Transaction (Path n)) :=
  wiring d i ++
  [ d.tokenCall .opt (.approve (d.mediator .opt (.added i)) AMOUNT_TO_SEND),
    d.send .opt (.added i) GMP_ID (BitVec.ofNat 256 AMOUNT_TO_SEND) ]

end AddNewPath

/-- The transactions of the two-bridge scripts: the deployment's own, and those of its added
    paths. -/
def scripted {n : Nat} (d : Deployment (Path n)) (t : Transaction (Path n)) : Prop :=
  t ∈ SimulateDeployMultiXERC20.run d ∨ ∃ i, t ∈ AddNewPath.run d i

/-- The transactions that wire a path: the deployment's, and its own if it was added. -/
def Path.wiring {n : Nat} (d : Deployment (Path n)) : Path n → List (Transaction (Path n))
  | .added i => SimulateDeployMultiXERC20.wiring d ++ AddNewPath.wiring d i
  | _ => SimulateDeployMultiXERC20.wiring d

namespace JustDeployTokenMediator

def run (d : Deployment Unit) : List (Transaction Unit) :=
  [ .deployMediator .opt (),
    d.configure .opt () (.setXERC20 (d.xerc20 .opt)),
    .deployMediator .arb (),
    d.configure .arb () (.setXERC20 (d.xerc20 .arb)),
    -- allow any chain, any bridge
    d.allowRoute .opt () WILDCARD,
    d.addCounterpart .opt (),
    d.allowRoute .arb () WILDCARD,
    d.addCounterpart .arb () ]

end JustDeployTokenMediator

/-! ## A script runs as it is -/

section Permitted

variable {Path : Type} (d : Deployment Path)

/-- Deployments, and calls by the deployer. -/
def Transaction.ByDeployer : Transaction Path → Prop
  | .call _ msgSender _ _ => msgSender = d.deployer
  | _ => True

variable {d}

/-- An administrative transaction of the deployer is permitted anywhere. -/
theorem Permitted.of_admin {admin : Transaction Path → Prop} {delivers : Deliveries} {w : World}
    {env : Env} (hsur : ∀ s, d.Surroundings s env) {t : Transaction Path} (hadm : admin t)
    (hby : t.ByDeployer d) : Permitted d admin delivers w (.transact env t) := by
  cases t with
  | call s x v c =>
    obtain rfl := hby
    exact ⟨hsur s, Or.inl ⟨d.deployer_account s, hadm⟩⟩
  | _ => exact ⟨hsur _, hadm⟩

/-- **A list of the deployer's administrative transactions may run from any world.** -/
theorem follows_of_admin (keccak256 : Bytes → Bytes32) {admin : Transaction Path → Prop}
    {delivers : Deliveries} {env : Env} (hsur : ∀ s, d.Surroundings s env)
    {ts : List (Transaction Path)} (hts : ∀ t ∈ ts, admin t ∧ t.ByDeployer d) (w : World) :
    Machine.Follows (World.step keccak256 d) (Permitted d admin delivers) w
      (ts.map (.transact env)) := by
  refine Machine.follows_of_forall ?_ w
  intro a ha w'
  obtain ⟨t, ht, rfl⟩ := List.mem_map.mp ha
  exact Permitted.of_admin hsur (hts t ht).1 (hts t ht).2

end Permitted

theorem SimulateDeployMultiXERC20.run_byDeployer {n : Nat} (d : Deployment (Path n)) :
    ∀ t ∈ run d, scripted d t ∧ t.ByDeployer d := by
  have hby : ∀ t ∈ run d, t.ByDeployer d := by
    simp only [run, wiring, List.cons_append, List.nil_append, List.forall_mem_cons]
    exact ⟨trivial, trivial, trivial, rfl, rfl, rfl, rfl, trivial, trivial, trivial, rfl, rfl, rfl,
      rfl, rfl, rfl, rfl, rfl, rfl, rfl, rfl, rfl, rfl, rfl, rfl, rfl, fun _ h => nomatch h⟩
  exact fun t ht => ⟨Or.inl ht, hby t ht⟩

theorem JustDeployTokenMediator.run_byDeployer (d : Deployment Unit) :
    ∀ t ∈ run d, t.ByDeployer d := by
  simp only [run, List.forall_mem_cons]
  exact ⟨trivial, rfl, trivial, rfl, rfl, rfl, rfl, rfl, fun _ h => nomatch h⟩

/-! ## A recorded deployment -/

namespace Sample

def deployer : Address := 0x1804c8AB1F12E6bbf3894d4083f33e07309d1f38

theorem forall_side {P : Side → Prop} (hopt : P .opt) (harb : P .arb) : ∀ s, P s
  | .opt => hopt
  | .arb => harb

theorem forall_path {P : Path 0 → Prop} (hwh : P .wh) (hlz : P .lz) : ∀ p, P p
  | .wh => hwh
  | .lz => hlz

def recorded : Deployment (Path 0) where
  deployer := deployer
  xerc20 := fun
    | .opt => 0x0c2093c25932D0416C8943CBA70063Dc7461f99E
    | .arb => 0xE2e81C6a0ADd05Be1E3E65E09c307dC54F05a7cA
  mediator := fun
    | .opt, .wh => 0xa54B373A9e8305604F66836396073eE24ab09322
    | .opt, .lz => 0x3f5CE5FBFe3E9af3971dD833D26bA9b5C936f0bE
    | .arb, .wh => 0xC23436e54fEBF9cFdD5FDaD41142Ac7B706b8684
    | .arb, .lz => 0x742d35Cc6634C0532925a3b844Bc454e4438f44e
  mediator_inj := forall_side
    (forall_path (forall_path (by decide) (by decide)) (forall_path (by decide) (by decide)))
    (forall_path (forall_path (by decide) (by decide)) (forall_path (by decide) (by decide)))
  mediator_ordinary := forall_side (forall_path (by decide) (by decide))
    (forall_path (by decide) (by decide))
  mediator_ne_xerc20 := forall_side (forall_path (by decide) (by decide))
    (forall_path (by decide) (by decide))
  mediator_ne_router := forall_side (forall_path (by decide) (by decide))
    (forall_path (by decide) (by decide))
  xerc20_ne_zero := by decide
  deployer_ordinary := by decide
  deployer_ne_router := by decide
  deployer_ne_xerc20 := by decide
  deployer_ne_mediator := forall_side (forall_path (by decide) (by decide))
    (forall_path (by decide) (by decide))

def recordedAnyBridge : Deployment Unit where
  deployer := deployer
  xerc20 := fun _ => 0x75B6AAEaF6DB9F2F5DFF09bc5ca6954c34Bd9fea
  mediator := fun
    | .opt, _ => 0xa54B373A9e8305604F66836396073eE24ab09322
    | .arb, _ => 0xC23436e54fEBF9cFdD5FDaD41142Ac7B706b8684
  mediator_inj := fun _ _ _ _ => rfl
  mediator_ordinary := by decide
  mediator_ne_xerc20 := by decide
  mediator_ne_router := by decide
  xerc20_ne_zero := by decide
  deployer_ordinary := by decide
  deployer_ne_router := by decide
  deployer_ne_xerc20 := by decide
  deployer_ne_mediator := by decide

/-- The adapter of a reserved id: one ordinary address for each of the ids 1, 2 and 3. -/
def adapter (gmpId : Uint8) : Address := gmpId.setWidth 160 + 0xada97e00

def registry : AdapterRegistry where
  glacisGMPIdToAdapter := fun gmpId => if gmpId ∈ [1, 2, 3] then adapter gmpId else 0
  adapterToGlacisGMPId := fun a =>
    if a = adapter 1 then 1 else if a = adapter 2 then 2 else if a = adapter 3 then 3 else 0
  consistent := by
    intro a h
    split at h
    · next heq => rw [if_pos heq, heq]; rfl
    · next h1 =>
      split at h
      · next heq => rw [if_neg h1, if_pos heq, heq]; rfl
      · next h2 =>
        split at h
        · next heq => rw [if_neg h1, if_neg h2, if_pos heq, heq]; rfl
        · exact absurd rfl h

def routers (s : Side) : GlacisRouter :=
  GlacisRouter.constructor s.chainId 0x5afe5afe5afe5afe5afe5afe5afe5afe5afe5afe registry

/-- When the runs start, on both chains. -/
def clock (_ : Side) : Nat := 1722500000

/-- Adapters that take every packet, and no other contract that answers. -/
def env : Env := ⟨fun _ => true, fun _ => Client.noCode, fun _ => true⟩

theorem routers_fresh : FreshRouters routers := FreshRouters.constructor _ _

theorem surroundings {Path : Type} (d : Deployment Path) (s : Side) : d.Surroundings s env :=
  fun _ => rfl

/-- The message from `arb` to `opt` of the path with these mediators. -/
def message (src dst : Address) (messageId : Bytes32) (nonce : Uint256) : GlacisData :=
  ⟨messageId, nonce, toBytes32 src, toBytes32 dst⟩

/-- `1 ether / 10` to the deployer, and to the zero address. -/
def payload : Bytes :=
  SimpleTokenMediator.packTokenPayload (toBytes32 deployer) (BitVec.ofNat 256 (ether / 10))

def zeroPayload : Bytes :=
  SimpleTokenMediator.packTokenPayload 0 (BitVec.ofNat 256 (ether / 10))

def payloadHash : Bytes32 := 0x2c660cf29f446df2cd676fe298cb85f6cad5e864687ffc44af5c35a2df820c1c

def zeroPayloadHash : Bytes32 := 0x91e203af75e2e3d045cc181350c44a546ffaac561aa69d58e12e98f1da108f1d

/-- The inputs the runs hash, with their hashes. -/
def hashTable : List (Bytes × Bytes32) :=
  [ (payload, payloadHash),
    (zeroPayload, zeroPayloadHash),
    (Abi.encodeWords [10, 42161, 0xa54B373A9e8305604F66836396073eE24ab09322, payloadHash,
        0xC23436e54fEBF9cFdD5FDaD41142Ac7B706b8684, 0],
      0x8f2041635195fd6267265a81eaecb472e82b66134a3262f0be1c17dd9a41668d),
    (Abi.encodeWords [10, 42161, 0x3f5CE5FBFe3E9af3971dD833D26bA9b5C936f0bE, payloadHash,
        0x742d35Cc6634C0532925a3b844Bc454e4438f44e, 1],
      0xd47cad356913d35e466869a1005c8b0716e249b196d040e06a957ddeef39a28a),
    -- the first path's mediator on a third chain
    (Abi.encodeWords [10, 8453, 0xa54B373A9e8305604F66836396073eE24ab09322, payloadHash,
        0xC23436e54fEBF9cFdD5FDaD41142Ac7B706b8684, 0],
      0xe56460da4453aeb8c040b8fda76bf78e08fa4e983a12eb35d46b57606327ca10),
    (Abi.encodeWords [10, 42161, 0xa54B373A9e8305604F66836396073eE24ab09322, zeroPayloadHash,
        0xC23436e54fEBF9cFdD5FDaD41142Ac7B706b8684, 2],
      0x00c36451f63b34f134cb9232d9fe79b194ea93eb2b9e15e15e0601b55e1e6766) ]

def keccak (b : Bytes) : Bytes32 := (hashTable.lookup b).getD 0

/-- The script, run with nothing in between. -/
def script : List (Action (Path 0)) :=
  (SimulateDeployMultiXERC20.run recorded).map (.transact env)

/-- The Wormhole adapter brings a message to `opt`. -/
def deliver (fromChainId : Uint256) (data : GlacisData) (payload : Bytes) : Action (Path 0) :=
  .transact env (.call .opt (adapter 3) 0 (.receiveMessage fromChainId (encodeGlacisPayload data payload)))

/-- The script's first transfer. -/
def firstMessage : GlacisData :=
  message (recorded.mediator .arb .wh) (recorded.mediator .opt .wh)
    0x8f2041635195fd6267265a81eaecb472e82b66134a3262f0be1c17dd9a41668d 0

/-- What the Wormhole mediator on `opt` mints for a message. -/
def minted (data : GlacisData) (fromChainId : Uint256) : Mint :=
  ⟨recorded.mediator .opt .wh, data, fromChainId, deployer, BitVec.ofNat 256 (ether / 10)⟩

theorem adapter_account (s : Side) : recorded.Account s (adapter 3) where
  ordinary := by decide
  ne_router := by revert s; decide
  ne_xerc20 := by revert s; decide
  not_mediator := by
    have hne : ∀ s p, adapter 3 ≠ recorded.mediator s p := forall_side
      (forall_path (by decide) (by decide)) (forall_path (by decide) (by decide))
    rintro ⟨p, h⟩
    exact hne s p h

/-- The script may run from any world, whatever else a run may do. -/
theorem script_follows (admin : Transaction (Path 0) → Prop) (delivers : Deliveries)
    (hadmin : ∀ t, scripted recorded t → admin t) (w : World) :
    Machine.Follows (World.step keccak recorded) (Permitted recorded admin delivers) w script := by
  refine follows_of_admin keccak (surroundings recorded) ?_ w
  intro t ht
  obtain ⟨hscripted, hby⟩ := SimulateDeployMultiXERC20.run_byDeployer recorded t ht
  exact ⟨hadmin t hscripted, hby⟩

/-- A delivery is permitted when its sender may make it. -/
theorem deliver_permitted {admin : Transaction (Path 0) → Prop} {delivers : Deliveries} {w : World}
    {fromChainId : Uint256} {data : GlacisData} {payload : Bytes}
    (h : delivers w .opt (adapter 3) fromChainId (encodeGlacisPayload data payload)) :
    Permitted recorded admin delivers w (deliver fromChainId data payload) := by
  refine ⟨surroundings _ _, Or.inr ⟨adapter_account _, rfl, ?_⟩⟩
  intro f b hcall
  obtain ⟨rfl, rfl⟩ := Call.receiveMessage.inj hcall
  exact h

/-- The script's first transfer is on its way. -/
theorem first_honest : Honest recorded ((World.initial routers clock).run keccak recorded script) .opt 42161
    (encodeGlacisPayload firstMessage payload) := Or.inl ⟨rfl, by decide +kernel⟩

/-- The script, and then the delivery of its first transfer. -/
theorem delivered_follows (delivers : Deliveries)
    (h : delivers ((World.initial routers clock).run keccak recorded script) .opt (adapter 3) 42161
      (encodeGlacisPayload firstMessage payload)) :
    Machine.Follows (World.step keccak recorded) (Permitted recorded (scripted recorded) delivers)
      (World.initial routers clock) (script ++ [deliver 42161 firstMessage payload]) :=
  Machine.follows_append.mpr
    ⟨script_follows _ _ (fun _ ht => ht) _, deliver_permitted h, trivial⟩

/-- Nothing collided in that run. -/
theorem delivered_noCollision : NoCollision keccak ((World.initial routers clock).run keccak
    recorded (script ++ [deliver 42161 firstMessage payload])) := by decide +kernel

/-- The any-bridge wiring for two new tokens, the limits their owner gives it, one transfer, and its
    delivery by one adapter and then by another. -/
def anyBridgeRun : List (Action Unit) :=
  ([Transaction.deployXERC20 .opt, .deployXERC20 .arb] ++ JustDeployTokenMediator.run recordedAnyBridge ++
    [ recordedAnyBridge.limits .opt (),
      recordedAnyBridge.limits .arb (),
      recordedAnyBridge.tokenCall .arb (.approve (recordedAnyBridge.mediator .arb ()) (ether / 10)),
      recordedAnyBridge.send .arb () 3 (BitVec.ofNat 256 (ether / 10)),
      .call .opt (adapter 3) 0 (.receiveMessage 42161 (encodeGlacisPayload firstMessage payload)),
      .call .opt (adapter 2) 0 (.receiveMessage 42161 (encodeGlacisPayload firstMessage payload)) ]).map
    (.transact env)

theorem anyBridge_account {gmpId : Uint8} (h : gmpId ∈ [2, 3]) (s : Side) :
    recordedAnyBridge.Account s (adapter gmpId) := by
  have hne : ∀ s p, adapter gmpId ≠ recordedAnyBridge.mediator s p := by
    revert gmpId; decide
  refine ⟨?_, ?_, ?_, ?_⟩
  · revert gmpId; decide
  · revert gmpId s; decide
  · revert gmpId s; decide
  · rintro ⟨p, hp⟩; exact hne s p hp

end Sample

end CrossRWA
