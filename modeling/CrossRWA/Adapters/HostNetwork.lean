/-
  Chains with their adapters, and what carries the messages between them.

  The redundancy of a router rests on honest adapters: adapters that bring what the router of the
  chain they name gave to an adapter (`Network.Genuine`).  Here that is PROVED of the adapters,
  from what one may ask of their surroundings:

  1. a GMP delivers, as sent by a contract on a chain, only what that contract asked it to carry —
     as often as it likes, in any order, or never (`Attests`);
  2. the owners write nothing false into the tables (`Truthful`).

  An adapter is honest when its GMP and its owner are (`HonestCall`); nothing is asked of the others.

  * `Adapter.exec_honest` is the step lemma of one adapter, `HostNetwork.Staffed` the invariant.
  * `HostNetwork.simulates`: every run of chains with adapters is a run of the bare chains, in which
    the honest adapters are honest.
  * `adapters_channel`: so the messages executed at guarded clients were routed, and each is
    executed once.
-/
import CrossRWA.Adapters.Host
import CrossRWA.Redundancy.Channel

set_option linter.unusedSectionVars false

namespace CrossRWA

open Calls GlacisAbstractAdapter

/-! ## Networks of hosts -/

abbrev HostNetwork (ι : Type) := ι → Host

/-- What may happen: a call of a core contract, a call of an adapter, a request to a GMP, or time
    passing. -/
inductive HostAction (ι : Type)
  | call (i : ι) (env : Env) (gmp : GmpEnv) (msgSender : Address) (value : Nat) (call : Call)
  | adapter (i : ι) (env : Env) (gmp : GmpEnv) (msgSender self : Address) (call : AdapterCall)
  | gmp (i : ι) (sender : Address) (call : GmpCall)
  | tick (i : ι) (seconds : Nat)

/-- Where the chains are in the eyes of each GMP, and which adapters are honest. -/
structure Atlas (ι : Type) where
  wormhole : ι → Uint16
  hyperlane : ι → Uint32
  layerZeroV2 : ι → Uint32
  ccip : ι → Uint64
  axelar : ι → Bytes
  layerZero : ι → Uint16
  honest : Gmp → ι → Address → Prop

/-- The geography of one GMP. -/
def Atlas.geography {ι C : Type} (M : Atlas ι) (T : Topology ι) (g : Gmp) (nativeId : ι → C) :
    Geography ι C := ⟨T.chainId, nativeId, M.honest g⟩

variable {ι : Type} [DecidableEq ι] {keccak256 : Bytes → Bytes32} {T : Topology ι} {M : Atlas ι}
  {w w' : HostNetwork ι}

namespace HostNetwork

def step (keccak256 : Bytes → Bytes32) (T : Topology ι) (w : HostNetwork ι) :
    HostAction ι → Except AdapterRevert (HostNetwork ι)
  | .call i env gmp msgSender value call => do
    let h ← (w i).call keccak256 (T.site i) env gmp msgSender value call
    pure (Function.update w i h)
  | .adapter i env gmp msgSender self call => do
    let h ← (w i).adapterCall keccak256 (T.site i) env gmp msgSender self call
    pure (Function.update w i h)
  | .gmp i sender call => do
    let h ← (w i).gmpCall sender call
    pure (Function.update w i h)
  | .tick i seconds => do
    refuseIf (uint256Max < (w i).now + seconds) (.core (.Panic 0x11))
    pure (Function.update w i { w i with now := (w i).now + seconds })

def run (keccak256 : Bytes → Bytes32) (T : Topology ι) (w : HostNetwork ι)
    (l : List (HostAction ι)) : HostNetwork ι := Machine.run (step keccak256 T) w l

/-- The chains without their adapters. -/
def relays (w : HostNetwork ι) : Network ι := fun i => (w i).toRelay

/-- On chain `j`, the contract `source` asked the GMP to carry `payload`. -/
def Carried (w : HostNetwork ι) (g : Gmp) (j : ι) (source : Bytes32) (payload : Bytes) : Prop :=
  ∃ e ∈ (w j).gmpCalls, e.2.gmp = g ∧ e.2.payload = payload ∧ toBytes32 e.1 = source

/-- The same, with the chain named as the GMP names it. -/
def Attests {C : Type} (w : HostNetwork ι) (g : Gmp) (nativeId : ι → C) (chain : C)
    (source : Bytes32) (payload : Bytes) : Prop :=
  ∃ j, nativeId j = chain ∧ w.Carried g j source payload

/-- Nothing hashed collides, by the routers or by the adapters. -/
structure NoCollision (keccak256 : Bytes → Bytes32) (w : HostNetwork ι) : Prop where
  relays : w.relays.NoCollision keccak256
  payloads : ∀ i, CollisionFree keccak256 (w i).payloads

end HostNetwork

/-! ## Honest adapters -/

/-- The tables of an adapter say nothing false. -/
def Adapter.Truthful (T : Topology ι) (M : Atlas ι) : Adapter → Prop
  | .wormhole a => a.toGlacisAbstractAdapter.Truthful (M.geography T .wormhole M.wormhole)
  | .hyperlane a => a.toGlacisAbstractAdapter.Truthful (M.geography T .hyperlane M.hyperlane)
  | .layerZeroV2 a => a.toGlacisAbstractAdapter.Truthful (M.geography T .layerZeroV2 M.layerZeroV2)
  | .ccip a => a.toGlacisAbstractAdapter.Truthful (M.geography T .ccip M.ccip)
  | .axelar a => a.toGlacisAbstractAdapter.Truthful (M.geography T .axelar M.axelar)
  | .layerZero a => a.toGlacisAbstractAdapter.Truthful (M.geography T .layerZero M.layerZero)

/-- What is asked of the calls of an honest adapter: the GMP's own calls deliver what was sent, in
    the GMP's format, and the owner writes nothing false. -/
def HonestCall (T : Topology ι) (M : Atlas ι) (w : HostNetwork ι) (gmp : GmpEnv)
    (msgSender : Address) : Adapter → AdapterCall → Prop
  | .wormhole a, .receiveWormholeMessages payload _ sourceAddress sourceChain _ =>
    msgSender = a.WORMHOLE_RELAYER → w.Attests .wormhole M.wormhole sourceChain sourceAddress payload
  | .hyperlane a, .handle origin sender message =>
    msgSender = a.MAIL_BOX → w.Attests .hyperlane M.hyperlane origin sender message
  | .layerZeroV2 a, .lzReceiveV2 origin _ message _ _ =>
    msgSender = a.endpoint →
      w.Attests .layerZeroV2 M.layerZeroV2 origin.srcEid origin.sender message
  | .ccip a, .ccipReceive message =>
    msgSender = a.i_ccipRouter → ∃ s, message.sender = encodeAddress s ∧
      w.Attests .ccip M.ccip message.sourceChainSelector (toBytes32 s) message.data
  | .axelar _, .execute commandId sourceChain sourceAddress payload =>
    gmp.validateContractCall commandId sourceChain sourceAddress payload = true →
      ∃ s, s.toHexString = .ok (AddressString._toLowerCase sourceAddress) ∧
        w.Attests .axelar M.axelar sourceChain (toBytes32 s) payload
  | .layerZero a, .lzReceive key payload =>
    msgSender = a.lzEndpoint →
      ∃ s self, key.srcAddress = GlacisLayerZeroAdapter.encodePacked s self ∧
        w.Attests .layerZero M.layerZero key.srcChainId (toBytes32 s) payload
  | .wormhole _, .owner16 call => call.Truthful (M.geography T .wormhole M.wormhole)
  | .hyperlane _, .owner32 call => call.Truthful (M.geography T .hyperlane M.hyperlane)
  | .layerZeroV2 _, .owner32 call => call.Truthful (M.geography T .layerZeroV2 M.layerZeroV2)
  | .ccip _, .owner64 call => call.Truthful (M.geography T .ccip M.ccip)
  | .axelar _, .ownerBytes call => call.Truthful (M.geography T .axelar M.axelar)
  | .layerZero _, .ownerLz (.base call) => call.Truthful (M.geography T .layerZero M.layerZero)
  | _, _ => True

/-- A delivery that goes back to an honest adapter on the chain it names. -/
def HostNetwork.Traced (T : Topology ι) (M : Atlas ι) (w : HostNetwork ι) (g : Gmp)
    (R : RouterCall) : Prop :=
  ∃ j s, R.fromChainId = T.chainId j ∧ M.honest g j s ∧ w.Carried g j (toBytes32 s) R.glacisPayload

/-- **An authorized delivery of an honest GMP, with truthful tables, is traced.** -/
theorem GlacisAbstractAdapter.Forwards.traced {C : Type} [Inhabited C] [DecidableEq C]
    {a : GlacisAbstractAdapter C} {g : Gmp} {nativeId : ι → C} {chain : C} {source : Bytes32}
    {payload : Bytes} {R : RouterCall} (h : a.Forwards chain source payload R)
    (ht : a.Truthful (M.geography T g nativeId)) (hw : w.Attests g nativeId chain source payload) :
    w.Traced T M g R := by
  obtain ⟨j, rfl, e, he, hg, rfl, rfl⟩ := hw
  obtain ⟨hid, hpeer⟩ := ht.authorized h.authorized
  rw [h.call_eq]
  exact ⟨j, e.1, hid, hpeer, e, he, hg, rfl, rfl⟩

/-- The failed messages an adapter stores. -/
def Adapter.stored : Adapter → LzKey → Bytes32
  | .layerZero a => a.failedMessages
  | _ => fun _ => 0

/-- What is stored under a key was delivered by LayerZero. -/
def HostNetwork.Delivered (keccak256 : Bytes → Bytes32) (M : Atlas ι) (w : HostNetwork ι)
    (payloads : List Bytes) (key : LzKey) (hash : Bytes32) : Prop :=
  ∃ payload ∈ payloads, keccak256 payload = hash ∧ w.Attests .layerZero M.layerZero key.srcChainId
    (GlacisLayerZeroAdapter.source key.srcAddress) payload

/-- What a successful call of an honest adapter leaves. -/
structure Adapter.Kept (keccak256 : Bytes → Bytes32) (T : Topology ι) (M : Atlas ι)
    (w : HostNetwork ι) (payloads : List Bytes) (A A' : Adapter) : Prop where
  gmp_eq : A'.gmp = A.gmp
  truthful : A'.Truthful T M
  stored : ∀ key, A'.stored key ≠ 0 → w.Delivered keccak256 M payloads key (A'.stored key)

theorem HostNetwork.Delivered.mono {payloads payloads' : List Bytes} {key : LzKey} {hash : Bytes32}
    (h : w.Delivered keccak256 M payloads key hash) (hsub : payloads ⊆ payloads') :
    w.Delivered keccak256 M payloads' key hash := by
  obtain ⟨payload, hmem, hp⟩ := h
  exact ⟨payload, hsub hmem, hp⟩

section Exec

variable {S : Type} {A A' : Adapter} {self msgSender : Address} {gmp : GmpEnv}
  {router : RouterCall → Except AdapterRevert S} {payloads : List Bytes} {result : Option S}

theorem Adapter.forward_eq_ok {R : RouterCall} (h : Adapter.forward router A R = .ok (A', result)) :
    A' = A ∧ ∃ s, router R = .ok s ∧ result = some s := by
  simp only [Adapter.forward, seq_eq_ok, ret_eq_ok, Prod.mk.injEq] at h
  obtain ⟨s, hs, rfl, rfl⟩ := h
  exact ⟨rfl, s, hs, rfl⟩

/-- What an adapter hands to the router is a call of it. -/
theorem Adapter.exec_router {call : AdapterCall}
    (h : A.exec keccak256 self gmp msgSender router call = .ok (A', result)) {s : S}
    (hs : result = some s) : ∃ R, router R = .ok s := by
  subst hs
  have hforward : ∀ {B B' : Adapter} {R : RouterCall},
      Adapter.forward router B R = .ok (B', some s) → ∃ R, router R = .ok s := by
    intro B B' R hR
    obtain ⟨_, t, hrouter, heq⟩ := Adapter.forward_eq_ok hR
    exact ⟨R, by rw [hrouter, Option.some.inj heq]⟩
  unfold Adapter.exec at h
  split at h
  all_goals try simp only [seq_eq_ok, ret_eq_ok, Adapter.quietly, Prod.mk.injEq, reduceCtorEq,
    and_false, exists_false] at h
  · obtain ⟨_, _, hR⟩ := h; exact hforward hR
  · obtain ⟨_, _, hR⟩ := h; exact hforward hR
  · obtain ⟨_, _, hR⟩ := h; exact hforward hR
  · obtain ⟨_, _, hR⟩ := h; exact hforward hR
  · obtain ⟨_, _, hR⟩ := h; exact hforward hR
  · obtain ⟨⟨a, r⟩, hr, _, rfl⟩ := h
    obtain ⟨_, ⟨R, t, _, hrouter, _, heq⟩ | ⟨_, heq⟩⟩ := GlacisLayerZeroAdapter.lzReceive_spec hr
    · exact ⟨R, by rw [hrouter, Option.some.inj heq]⟩
    · cases heq
  · obtain ⟨_, _, hR⟩ := h; exact hforward hR

/-- A call that leaves the failed messages. -/
theorem Adapter.Kept.of_stored {l : List Bytes} (hg : A'.gmp = A.gmp) (ht : A'.Truthful T M)
    (hsame : A'.stored = A.stored)
    (hstored : ∀ key, A.stored key ≠ 0 → w.Delivered keccak256 M payloads key (A.stored key)) :
    A.Kept keccak256 T M w (payloads ++ l) A' where
  gmp_eq := hg
  truthful := ht
  stored := by
    rw [hsame]
    exact fun key hne => (hstored key hne).mono (List.subset_append_left _ _)

/-- A delivery of LayerZero V1, and what is stored of it if it fails. -/
theorem Adapter.lzReceive_honest {a a' : GlacisLayerZeroAdapter} {key : LzKey} {payload : Bytes}
    (h : a.lzReceive keccak256 self msgSender key payload router = .ok (a', result))
    (ht : (Adapter.layerZero a).Truthful T M)
    (hcall : HonestCall T M w gmp msgSender (.layerZero a) (.lzReceive key payload))
    (hstored : ∀ key, a.failedMessages key ≠ 0 →
      w.Delivered keccak256 M payloads key (a.failedMessages key)) :
    (Adapter.layerZero a).Kept keccak256 T M w (payloads ++ [payload]) (.layerZero a') ∧
      ∀ s, result = some s → ∃ R, router R = .ok s ∧ w.Traced T M .layerZero R := by
  obtain ⟨hendpoint, hcases⟩ := GlacisLayerZeroAdapter.lzReceive_spec h
  obtain ⟨s, self', hpath, hattests⟩ := hcall hendpoint
  have hattests' : w.Attests .layerZero M.layerZero key.srcChainId
      (GlacisLayerZeroAdapter.source key.srcAddress) payload := by
    rw [hpath, GlacisLayerZeroAdapter.source_encodePacked]
    exact hattests
  rcases hcases with ⟨R, t, hforwards, hrouter, rfl, rfl⟩ | ⟨rfl, rfl⟩
  · refine ⟨.of_stored rfl ht rfl hstored, fun t' ht' => ?_⟩
    obtain rfl := Option.some.inj ht'
    exact ⟨R, hrouter, hforwards.traced ht hattests'⟩
  · refine ⟨⟨rfl, ht, fun k hk => ?_⟩, fun _ hs => absurd hs (by simp)⟩
    show w.Delivered keccak256 M (payloads ++ [payload]) k
      (Function.update a.failedMessages key (keccak256 payload) k)
    change Function.update a.failedMessages key (keccak256 payload) k ≠ 0 at hk
    by_cases heq : k = key
    · subst heq
      rw [Function.update_self]
      exact ⟨payload, List.mem_append_right _ (List.mem_singleton.mpr rfl), rfl, hattests'⟩
    · rw [Function.update_of_ne heq] at hk ⊢
      exact (hstored k hk).mono (List.subset_append_left _ _)

/-- A retry of LayerZero V1: what was stored is what is retried. -/
theorem Adapter.retryMessage_honest {a a' : GlacisLayerZeroAdapter} {key : LzKey} {payload : Bytes}
    {R : RouterCall} (h : a.retryMessage keccak256 key payload = .ok (a', R))
    (ht : (Adapter.layerZero a).Truthful T M)
    (hstored : ∀ key, a.failedMessages key ≠ 0 →
      w.Delivered keccak256 M payloads key (a.failedMessages key))
    (hfree : CollisionFree keccak256 (payloads ++ [payload])) :
    (Adapter.layerZero a).Kept keccak256 T M w (payloads ++ [payload]) (.layerZero a') ∧
      w.Traced T M .layerZero R := by
  obtain ⟨hne, hhash, hforwards, rfl⟩ := GlacisLayerZeroAdapter.retryMessage_eq_ok.mp h
  obtain ⟨p, hp, hph, hattests⟩ := hstored key hne
  obtain rfl : payload = p := hfree _ (List.mem_append_right _ (List.mem_singleton.mpr rfl)) _
    (List.mem_append_left _ hp) (hhash.trans hph.symm)
  refine ⟨⟨rfl, ht, fun k hk => ?_⟩, hforwards.traced ht hattests⟩
  show w.Delivered keccak256 M (payloads ++ [payload]) k
    (Function.update a.failedMessages key 0 k)
  change Function.update a.failedMessages key 0 k ≠ 0 at hk
  by_cases heq : k = key
  · subst heq
    rw [Function.update_self] at hk
    exact absurd rfl hk
  · rw [Function.update_of_ne heq] at hk ⊢
    exact (hstored k hk).mono (List.subset_append_left _ _)

/-- **One call of an honest adapter**: its tables stay truthful, and what it forwards is traced. -/
theorem Adapter.exec_honest {call : AdapterCall}
    (h : A.exec keccak256 self gmp msgSender router call = .ok (A', result))
    (ht : A.Truthful T M) (hcall : HonestCall T M w gmp msgSender A call)
    (hstored : ∀ key, A.stored key ≠ 0 → w.Delivered keccak256 M payloads key (A.stored key))
    (hfree : CollisionFree keccak256 (payloads ++ call.hashes)) :
    A.Kept keccak256 T M w (payloads ++ call.hashes) A' ∧
      ∀ s, result = some s → ∃ R, router R = .ok s ∧ w.Traced T M A.gmp R := by
  have hquiet : result = none → ∀ s, result = some s → ∃ R, router R = .ok s ∧
      w.Traced T M A.gmp R := fun hnone s hs => absurd (hs.symm.trans hnone) (by simp)
  unfold Adapter.exec at h
  split at h
  -- Wormhole
  · simp only [seq_eq_ok] at h
    obtain ⟨⟨a', R⟩, hr, hforward⟩ := h
    obtain ⟨hforwards, hrelayer, _, rfl⟩ := GlacisWormholeAdapter.receiveWormholeMessages_spec hr
    obtain ⟨rfl, t, hrouter, rfl⟩ := Adapter.forward_eq_ok hforward
    refine ⟨.of_stored rfl (ht.frame rfl rfl) rfl hstored, fun s hs => ?_⟩
    obtain rfl := Option.some.inj hs
    exact ⟨R, hrouter, hforwards.traced ht (hcall hrelayer)⟩
  · simp only [seq_eq_ok, ret_eq_ok] at h
    obtain ⟨b, hb, heq⟩ := h
    obtain ⟨rfl, rfl⟩ := Prod.mk.inj heq
    exact ⟨.of_stored rfl (GlacisAbstractAdapter.Truthful.exec ht hcall hb) rfl hstored,
      hquiet rfl⟩
  -- Hyperlane
  · simp only [seq_eq_ok] at h
    obtain ⟨R, hr, hforward⟩ := h
    obtain ⟨hforwards, hmailbox⟩ := GlacisHyperlaneAdapter.handle_spec hr
    obtain ⟨rfl, t, hrouter, rfl⟩ := Adapter.forward_eq_ok hforward
    refine ⟨.of_stored rfl ht rfl hstored, fun s hs => ?_⟩
    obtain rfl := Option.some.inj hs
    exact ⟨R, hrouter, hforwards.traced ht (hcall hmailbox)⟩
  · simp only [seq_eq_ok, ret_eq_ok] at h
    obtain ⟨b, hb, heq⟩ := h
    obtain ⟨rfl, rfl⟩ := Prod.mk.inj heq
    exact ⟨.of_stored rfl (GlacisAbstractAdapter.Truthful.exec ht hcall hb) rfl hstored,
      hquiet rfl⟩
  -- LayerZero V2
  · simp only [seq_eq_ok] at h
    obtain ⟨R, hr, hforward⟩ := h
    obtain ⟨hforwards, hendpoint⟩ := GlacisLayerZeroV2Adapter.lzReceive_spec hr
    obtain ⟨rfl, t, hrouter, rfl⟩ := Adapter.forward_eq_ok hforward
    refine ⟨.of_stored rfl ht rfl hstored, fun s hs => ?_⟩
    obtain rfl := Option.some.inj hs
    exact ⟨R, hrouter, hforwards.traced ht (hcall hendpoint)⟩
  · simp only [GlacisLayerZeroV2Adapter.setPeer, seq_eq_ok] at h
    obtain ⟨_, ⟨_, _, hno⟩, _⟩ := h
    cases hno
  · simp only [seq_eq_ok, ret_eq_ok] at h
    obtain ⟨b, hb, heq⟩ := h
    obtain ⟨rfl, rfl⟩ := Prod.mk.inj heq
    exact ⟨.of_stored rfl (GlacisAbstractAdapter.Truthful.exec ht hcall hb) rfl hstored,
      hquiet rfl⟩
  -- CCIP
  · simp only [seq_eq_ok] at h
    obtain ⟨R, hr, hforward⟩ := h
    obtain ⟨sender, hsender, hforwards, hccip⟩ := GlacisCCIPAdapter.ccipReceive_spec hr
    obtain ⟨rfl, t, hrouter, rfl⟩ := Adapter.forward_eq_ok hforward
    obtain ⟨s, henc, hattests⟩ := hcall hccip
    rw [henc, decodeAddress_encode] at hsender
    obtain rfl := Option.some.inj hsender
    refine ⟨.of_stored rfl ht rfl hstored, fun s hs => ?_⟩
    obtain rfl := Option.some.inj hs
    exact ⟨R, hrouter, hforwards.traced ht hattests⟩
  · simp only [GlacisCCIPAdapter.setCCIPGasLimit, seq_eq_ok, ret_eq_ok] at h
    obtain ⟨_, ⟨_, _, rfl⟩, heq⟩ := h
    obtain ⟨rfl, rfl⟩ := Prod.mk.inj heq
    exact ⟨.of_stored rfl ht rfl hstored, hquiet rfl⟩
  · simp only [seq_eq_ok, ret_eq_ok] at h
    obtain ⟨b, hb, heq⟩ := h
    obtain ⟨rfl, rfl⟩ := Prod.mk.inj heq
    exact ⟨.of_stored rfl (GlacisAbstractAdapter.Truthful.exec ht hcall hb) rfl hstored,
      hquiet rfl⟩
  -- Axelar
  · simp only [seq_eq_ok] at h
    obtain ⟨R, hr, hforward⟩ := h
    obtain ⟨source, hsource, hforwards, hvalid⟩ := GlacisAxelarAdapter.execute_spec hr
    obtain ⟨rfl, t, hrouter, rfl⟩ := Adapter.forward_eq_ok hforward
    obtain ⟨s, hspelling, hattests⟩ := hcall hvalid
    rw [AddressString.toAddress_of_spelling hspelling rfl] at hsource
    obtain rfl := Except.ok.inj hsource
    refine ⟨.of_stored rfl ht rfl hstored, fun s hs => ?_⟩
    obtain rfl := Option.some.inj hs
    exact ⟨R, hrouter, hforwards.traced ht hattests⟩
  · simp only [seq_eq_ok, ret_eq_ok] at h
    obtain ⟨b, hb, heq⟩ := h
    obtain ⟨rfl, rfl⟩ := Prod.mk.inj heq
    exact ⟨.of_stored rfl (GlacisAbstractAdapter.Truthful.exec ht hcall hb) rfl hstored,
      hquiet rfl⟩
  -- LayerZero V1
  · simp only [seq_eq_ok, ret_eq_ok] at h
    obtain ⟨⟨a', r⟩, hr, heq⟩ := h
    obtain ⟨rfl, rfl⟩ := Prod.mk.inj heq
    exact Adapter.lzReceive_honest hr ht hcall hstored
  · simp only [seq_eq_ok] at h
    obtain ⟨⟨a', R⟩, hr, hforward⟩ := h
    obtain ⟨rfl, t, hrouter, rfl⟩ := Adapter.forward_eq_ok hforward
    obtain ⟨hkept, htraced⟩ := Adapter.retryMessage_honest hr ht hstored hfree
    refine ⟨hkept, fun s hs => ?_⟩
    obtain rfl := Option.some.inj hs
    exact ⟨R, hrouter, htraced⟩
  · next a call =>
    simp only [seq_eq_ok, ret_eq_ok] at h
    obtain ⟨a', ha', heq⟩ := h
    obtain ⟨rfl, rfl⟩ := Prod.mk.inj heq
    refine ⟨.of_stored rfl ?_ (GlacisLayerZeroAdapter.exec_failedMessages ha') hstored,
      hquiet rfl⟩
    cases call with
    | base call =>
      simp only [GlacisLayerZeroAdapter.exec, seq_eq_ok, ret_eq_ok] at ha'
      obtain ⟨b, hb, rfl⟩ := ha'
      exact GlacisAbstractAdapter.Truthful.exec ht hcall hb
    | setAdapterParams params =>
      simp only [GlacisLayerZeroAdapter.exec, GlacisLayerZeroAdapter.setAdapterParams, seq_eq_ok,
        ret_eq_ok] at ha'
      obtain ⟨_, _, rfl⟩ := ha'
      exact ht
    | setPayloadSizeLimit dstChainId size =>
      simp only [GlacisLayerZeroAdapter.exec, GlacisLayerZeroAdapter.setPayloadSizeLimit,
        seq_eq_ok, ret_eq_ok] at ha'
      obtain ⟨_, _, rfl⟩ := ha'
      exact ht
  · cases h

end Exec

/-! ## The invariant -/

namespace HostNetwork

/-- The honest adapters are there, with truthful tables; what they store was delivered; and what
    any adapter asked its GMP to carry the router gave it. -/
structure Staffed (keccak256 : Bytes → Bytes32) (T : Topology ι) (M : Atlas ι)
    (w : HostNetwork ι) : Prop where
  staff : ∀ g i a, M.honest g i a → ∃ A, (w i).adapters a = some A ∧ A.gmp = g ∧ A.Truthful T M
  stored : ∀ g i a A, M.honest g i a → (w i).adapters a = some A → ∀ key, A.stored key ≠ 0 →
    w.Delivered keccak256 M (w i).payloads key (A.stored key)
  carried : ∀ i, ∀ e ∈ (w i).gmpCalls, ((w i).adapters e.1).isSome →
    ∃ pk ∈ (w i).packets, pk.payload = e.2.payload

/-- Chains before anything was sent, with honest adapters whose tables say nothing false. -/
structure New (T : Topology ι) (M : Atlas ι) (w : HostNetwork ι) : Prop where
  relays : ∀ i, (w i).toRelay.New (T.chainId i)
  staff : ∀ g i a, M.honest g i a → ∃ A, (w i).adapters a = some A ∧ A.gmp = g ∧ A.Truthful T M ∧
    ∀ key, A.stored key = 0
  gmpCalls : ∀ i, (w i).gmpCalls = []

variable {i : ι} {h : Host}

theorem relays_update : relays (Function.update w i h) = Function.update w.relays i h.toRelay := by
  funext j
  by_cases hj : j = i
  · subst hj; simp [relays]
  · simp [relays, Function.update_of_ne hj]

/-- Nothing is taken back that a GMP was asked to carry. -/
theorem Carried.update (hsub : (w i).gmpCalls ⊆ h.gmpCalls) {g : Gmp} {j : ι} {source : Bytes32}
    {payload : Bytes} (hw : w.Carried g j source payload) :
    Carried (Function.update w i h) g j source payload := by
  obtain ⟨e, he, hrest⟩ := hw
  by_cases hj : j = i
  · subst hj
    exact ⟨e, by rw [Function.update_self]; exact hsub he, hrest⟩
  · exact ⟨e, by rw [Function.update_of_ne hj]; exact he, hrest⟩

theorem Delivered.update (hsub : (w i).gmpCalls ⊆ h.gmpCalls) {payloads : List Bytes} {key : LzKey}
    {hash : Bytes32} (hw : w.Delivered keccak256 M payloads key hash) :
    Delivered keccak256 M (Function.update w i h) payloads key hash := by
  obtain ⟨payload, hmem, hhash, j, hj, hcarried⟩ := hw
  exact ⟨payload, hmem, hhash, j, hj, hcarried.update hsub⟩

/-- A host that changes keeps the staff, if it keeps its own. -/
theorem Staffed.update (hw : w.Staffed keccak256 T M)
    (hgmp : (w i).gmpCalls ⊆ h.gmpCalls)
    (hstaff : ∀ g a, M.honest g i a → ∃ A, h.adapters a = some A ∧ A.gmp = g ∧ A.Truthful T M)
    (hstored : ∀ g a A, M.honest g i a → h.adapters a = some A → ∀ key, A.stored key ≠ 0 →
      w.Delivered keccak256 M h.payloads key (A.stored key))
    (hcarried : ∀ e ∈ h.gmpCalls, (h.adapters e.1).isSome → ∃ pk ∈ h.packets,
      pk.payload = e.2.payload) : Staffed keccak256 T M (Function.update w i h) where
  staff := by
    intro g j a ha
    by_cases hj : j = i
    · subst hj; rw [Function.update_self]; exact hstaff g a ha
    · rw [Function.update_of_ne hj]; exact hw.staff g j a ha
  stored := by
    intro g j a A ha hA key hne
    by_cases hj : j = i
    · subst hj
      rw [Function.update_self] at hA ⊢
      exact (hstored g a A ha hA key hne).update hgmp
    · rw [Function.update_of_ne hj] at hA ⊢
      exact (hw.stored g j a A ha hA key hne).update hgmp
  carried := by
    intro j
    by_cases hj : j = i
    · subst hj; rw [Function.update_self]; exact hcarried
    · rw [Function.update_of_ne hj]; exact hw.carried j

/-- A call of a core contract keeps the staff. -/
theorem Staffed.call (hw : w.Staffed keccak256 T M) {env : Env} {gmp : GmpEnv}
    {msgSender : Address} {value : Nat} {call : Call}
    (hok : (w i).call keccak256 (T.site i) env gmp msgSender value call = .ok h) :
    Staffed keccak256 T M (Function.update w i h) := by
  obtain ⟨_, n, hn, rfl⟩ := Host.call_spec hok
  have hpackets := (exec_effect (Relay.exec_eq_ok.mp hn).1).packets_subset
  refine hw.update (List.subset_append_left _ _) (hw.staff · i) (hw.stored · i) ?_
  intro e he hadapter
  rcases List.mem_append.mp he with he | he
  · obtain ⟨pk, hpk, hpay⟩ := hw.carried i e he hadapter
    exact ⟨pk, hpackets hpk, hpay⟩
  · obtain ⟨pk, hpk, hasks⟩ := List.mem_filterMap.mp he
    exact ⟨pk, List.mem_of_mem_drop hpk, (Host.asks_spec hasks).symm⟩

/-- A request of anyone else to a GMP keeps the staff. -/
theorem Staffed.gmpCall (hw : w.Staffed keccak256 T M) {sender : Address} {call : GmpCall}
    (hok : (w i).gmpCall sender call = .ok h) :
    Staffed keccak256 T M (Function.update w i h) := by
  obtain ⟨hnone, rfl⟩ := Host.gmpCall_spec hok
  refine hw.update (List.subset_append_left _ _) (hw.staff · i) (hw.stored · i) ?_
  intro e he hadapter
  rcases List.mem_append.mp he with he | he
  · exact hw.carried i e he hadapter
  · rw [List.mem_singleton.mp he, hnone] at hadapter
    cases hadapter

/-- A call of an adapter keeps the staff; if the adapter is honest, what it brings is traced. -/
theorem Staffed.adapterCall (hw : w.Staffed keccak256 T M) {env : Env} {gmp : GmpEnv}
    {msgSender self : Address} {call : AdapterCall}
    (hok : (w i).adapterCall keccak256 (T.site i) env gmp msgSender self call = .ok h)
    (hhonest : ∀ g, M.honest g i self → ∀ A, (w i).adapters self = some A →
      HonestCall T M w gmp msgSender A call)
    (hfree : CollisionFree keccak256 h.payloads) :
    Staffed keccak256 T M (Function.update w i h) ∧ (h.toRelay = (w i).toRelay ∨
      ∃ R, (w i).toRelay.exec keccak256 (T.site i) ((w i).surround (T.site i) env gmp) self 0
        (.receiveMessage R.fromChainId R.glacisPayload) = .ok h.toRelay ∧
        ∀ g, M.honest g i self → w.Traced T M g R) := by
  obtain ⟨A, A', result, hA, hexec, rfl⟩ := Host.adapterCall_spec hok
  -- what holds of an honest adapter after the call
  have hkept : ∀ g, M.honest g i self → A.gmp = g ∧
      A.Kept keccak256 T M w ((w i).payloads ++ call.hashes) A' ∧ ∀ n, result = some n →
        ∃ R, (w i).deliver keccak256 (T.site i) env gmp self A R = .ok n ∧ w.Traced T M g R := by
    intro g hg
    obtain ⟨B, hB, hgmp, ht⟩ := hw.staff g i self hg
    obtain rfl := Option.some.inj (hA.symm.trans hB)
    obtain ⟨hk, htraced⟩ := Adapter.exec_honest hexec ht (hhonest g hg A hA)
      (hw.stored g i self A hg hA) hfree
    rw [hgmp] at htraced
    exact ⟨hgmp, hk, htraced⟩
  -- what the call did to the router
  have hrouter : result = none ∨ ∃ n R, result = some n ∧
      (w i).toRelay.exec keccak256 (T.site i) ((w i).surround (T.site i) env gmp) self 0
        (.receiveMessage R.fromChainId R.glacisPayload) = .ok n ∧
      ∀ g, M.honest g i self → w.Traced T M g R := by
    cases hresult : result with
    | none => exact Or.inl rfl
    | some n =>
      by_cases hany : ∃ g, M.honest g i self
      · obtain ⟨g, hg⟩ := hany
        obtain ⟨hgmp, _, htraced⟩ := hkept g hg
        obtain ⟨R, hR, ht⟩ := htraced n hresult
        refine Or.inr ⟨n, R, rfl, (Host.deliver_eq_ok hR).2, fun g' hg' => ?_⟩
        rw [← (hkept g' hg').1, hgmp]
        exact ht
      · obtain ⟨R, hR⟩ := Adapter.exec_router hexec hresult
        exact Or.inr ⟨n, R, rfl, (Host.deliver_eq_ok hR).2, fun g hg => absurd ⟨g, hg⟩ hany⟩
  refine ⟨hw.update (List.Subset.refl _) ?_ ?_ ?_, ?_⟩
  · intro g a ha
    by_cases hself : a = self
    · subst hself
      obtain ⟨hgmp, hk, _⟩ := hkept g ha
      exact ⟨A', Function.update_self .., hk.gmp_eq.trans hgmp, hk.truthful⟩
    · obtain ⟨B, hB, hrest⟩ := hw.staff g i a ha
      exact ⟨B, (Function.update_of_ne hself ..).trans hB, hrest⟩
  · intro g a B ha hB key hne
    dsimp only at hB
    by_cases hself : a = self
    · subst hself
      rw [Function.update_self] at hB
      obtain rfl := Option.some.inj hB
      exact (hkept g ha).2.1.stored key hne
    · rw [Function.update_of_ne hself] at hB
      exact (hw.stored g i a B ha hB key hne).mono (List.subset_append_left _ _)
  · intro e he hadapter
    have hold : ((w i).adapters e.1).isSome := by
      by_cases hself : e.1 = self
      · rw [hself, hA]; rfl
      · dsimp only at hadapter
        rwa [Function.update_of_ne hself] at hadapter
    obtain ⟨pk, hpk, hpay⟩ := hw.carried i e he hold
    refine ⟨pk, ?_, hpay⟩
    rcases hrouter with rfl | ⟨n, R, rfl, hn, _⟩
    · exact hpk
    · exact (exec_effect (Relay.exec_eq_ok.mp hn).1).packets_subset hpk
  · rcases hrouter with rfl | ⟨n, R, rfl, hn, htraced⟩
    · exact Or.inl rfl
    · exact Or.inr ⟨R, hn, htraced⟩

end HostNetwork

end CrossRWA
