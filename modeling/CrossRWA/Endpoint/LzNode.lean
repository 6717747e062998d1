/-
  A chain's endpoint with its library.

  1. `LzNode`: the endpoint, the library, and the headers the library has hashed.  A commit is one
     transaction: the library reclaims its storage and calls the endpoint.
  2. `NodeStep`: what a successful call did (`LzNode.exec_step`).
  3. `Outgoing`: the packets of an endpoint.  Each names its own chain and carries the id of its
     nonce and path, and on each path the nonces are `1, 2, 3, ...` without a gap, as long as
     fewer than `2 ^ 64` packets are sent; so no id is used twice (`Outgoing.guid_inj`,
     and over every run `sent_in_order`).
  4. `LzNode.Configured`, `LzNode.Kept`: what every step keeps of a node, in whatever network it
     stands; and `Configured.lookup_cases`, `NodeStep.verified_cases`: who verifies.
-/
import CrossRWA.Endpoint.Delivery
import CrossRWA.Endpoint.ReceiveUln302

namespace CrossRWA

open Calls

/-! ## The node -/

/-- The addresses of the contracts of a chain. -/
structure LzSite where
  endpoint : Address
  receiveUln : Address
deriving DecidableEq, Repr

structure LzNode extends Endpoint where
  uln : ReceiveUln302
  headers : List Bytes

inductive NodeCall
  | endpoint (call : LzCall)
  | verify (packetHeader : Bytes) (payloadHash : Bytes32) (confirmations : Uint64)
  | commitVerification (packetHeader : Bytes) (payloadHash : Bytes32)
  | setConfig (oapp lib : Address) (params : List SetConfigParam)
  | setDefaultUlnConfigs (params : List (Uint32 × UlnConfig))
  | transferUlnOwnership (newOwner : Address)
  | renounceUlnOwnership
deriving DecidableEq, Repr

/-- The functions that take native currency. -/
def NodeCall.payable : NodeCall → Bool
  | .endpoint call => call.payable
  | .verify .. | .commitVerification .. | .setConfig .. | .setDefaultUlnConfigs _
  | .transferUlnOwnership _ | .renounceUlnOwnership => false

namespace LzNode

/-- A node as it is deployed; each contract has an owner of its own. -/
def deploy (site : LzSite) (eid : Uint32) (owner ulnOwner blockedLibrary : Address) : LzNode where
  toEndpoint := .deploy eid owner blockedLibrary
  uln := .constructor ulnOwner site.endpoint eid
  headers := []

/-- A call of one of the contracts.  `setConfig` is the endpoint's, which calls the library. -/
def dispatch (keccak256 : Bytes → Bytes32) (site : LzSite) (n : LzNode) (env : EndpointEnv)
    (msgSender : Address) (value : Nat) : NodeCall → Except UlnError LzNode
  | .endpoint call => do
    let e ← relabel .endpoint (n.toEndpoint.exec keccak256 env msgSender value call)
    pure { n with toEndpoint := e }
  | .verify packetHeader payloadHash confirmations =>
    pure { n with
      uln := n.uln._verify keccak256 msgSender packetHeader payloadHash confirmations
      headers := n.headers ++ [packetHeader] }
  | .commitVerification packetHeader payloadHash => do
    let (u, origin, receiver) ← n.uln.commitVerification keccak256 packetHeader payloadHash
    let e ← relabel .endpoint (n.toEndpoint.exec keccak256 env site.receiveUln 0
      (.verify origin receiver payloadHash))
    pure { n with toEndpoint := e, uln := u, headers := n.headers ++ [packetHeader] }
  | .setConfig oapp lib params => do
    relabel .endpoint (n.onlyRegistered lib)
    relabel .endpoint (n._assertAuthorized msgSender oapp)
    if lib = site.receiveUln then do
      let u ← n.uln.setConfig site.endpoint oapp params
      pure { n with uln := { n.uln with toUlnBase := u } }
    else pure n
  | .setDefaultUlnConfigs params => do
    let u ← n.uln.setDefaultUlnConfigs msgSender params
    pure { n with uln := { n.uln with toUlnBase := u } }
  | .transferUlnOwnership newOwner => do
    let u ← n.uln.transferOwnership msgSender newOwner
    pure { n with uln := { n.uln with toUlnBase := u } }
  | .renounceUlnOwnership => do
    let u ← n.uln.renounceOwnership msgSender
    pure { n with uln := { n.uln with toUlnBase := u } }

/-- Run one call.  No function of the library takes native currency. -/
def exec (keccak256 : Bytes → Bytes32) (site : LzSite) (n : LzNode) (env : EndpointEnv)
    (msgSender : Address) (value : Nat) (call : NodeCall) : Except UlnError LzNode := do
  refuseIf (call.payable = false ∧ value ≠ 0) (.endpoint .notPayable)
  n.dispatch keccak256 site env msgSender value call

end LzNode

/-- What a successful call did. -/
inductive NodeStep (keccak256 : Bytes → Bytes32) (site : LzSite) (n : LzNode) (env : EndpointEnv)
    (msgSender : Address) (value : Nat) : NodeCall → LzNode → Prop
  | endpoint {call : LzCall} {e : Endpoint}
      (he : EndpointStep keccak256 n.toEndpoint env msgSender value call e) :
      NodeStep keccak256 site n env msgSender value (.endpoint call) { n with toEndpoint := e }
  | verify {packetHeader : Bytes} {payloadHash : Bytes32} {confirmations : Uint64} :
      NodeStep keccak256 site n env msgSender value
        (.verify packetHeader payloadHash confirmations)
        { n with
          uln := n.uln._verify keccak256 msgSender packetHeader payloadHash confirmations
          headers := n.headers ++ [packetHeader] }
  | commitVerification {packetHeader : Bytes} {payloadHash : Bytes32} {u : ReceiveUln302}
      {origin : Origin} {receiver : Address} {e : Endpoint}
      (hcommit : n.uln.commitVerification keccak256 packetHeader payloadHash
        = .ok (u, origin, receiver))
      (he : EndpointStep keccak256 n.toEndpoint env site.receiveUln 0
        (.verify origin receiver payloadHash) e) :
      NodeStep keccak256 site n env msgSender value (.commitVerification packetHeader payloadHash)
        { n with toEndpoint := e, uln := u, headers := n.headers ++ [packetHeader] }
  | setConfig {oapp lib : Address} {params : List SetConfigParam} {u : UlnBase}
      (hauth : n.Authorized msgSender oapp)
      (hu : n.uln.setConfig site.endpoint oapp params = .ok u) :
      NodeStep keccak256 site n env msgSender value (.setConfig oapp lib params)
        { n with uln := { n.uln with toUlnBase := u } }
  | otherLibrary {oapp lib : Address} {params : List SetConfigParam} :
      NodeStep keccak256 site n env msgSender value (.setConfig oapp lib params) n
  | setDefaultUlnConfigs {params : List (Uint32 × UlnConfig)} {u : UlnBase}
      (hu : n.uln.setDefaultUlnConfigs msgSender params = .ok u) :
      NodeStep keccak256 site n env msgSender value (.setDefaultUlnConfigs params)
        { n with uln := { n.uln with toUlnBase := u } }
  | transferUlnOwnership {newOwner : Address} {u : UlnBase}
      (hu : n.uln.transferOwnership msgSender newOwner = .ok u) :
      NodeStep keccak256 site n env msgSender value (.transferUlnOwnership newOwner)
        { n with uln := { n.uln with toUlnBase := u } }
  | renounceUlnOwnership {u : UlnBase} (hu : n.uln.renounceOwnership msgSender = .ok u) :
      NodeStep keccak256 site n env msgSender value .renounceUlnOwnership
        { n with uln := { n.uln with toUlnBase := u } }

variable {keccak256 : Bytes → Bytes32} {site : LzSite} {n n' : LzNode} {env : EndpointEnv}
  {msgSender : Address} {value : Nat} {call : NodeCall}

theorem LzNode.exec_eq_ok : n.exec keccak256 site env msgSender value call = .ok n' ↔
    (call.payable = false → value = 0) ∧
      n.dispatch keccak256 site env msgSender value call = .ok n' := by
  simp only [exec, seq_eq_ok, refuseIf_eq_ok, not_and, not_not, exists_const]

theorem LzNode.exec_step (h : n.exec keccak256 site env msgSender value call = .ok n') :
    NodeStep keccak256 site n env msgSender value call n' := by
  replace h := (exec_eq_ok.mp h).2
  cases call with
  | endpoint call =>
    simp only [dispatch, seq_eq_ok, relabel_eq_ok, ret_eq_ok] at h
    obtain ⟨_, he, rfl⟩ := h
    exact .endpoint (Endpoint.exec_step he)
  | verify packetHeader payloadHash confirmations =>
    rw [← ret_eq_ok.mp h]
    exact .verify
  | commitVerification packetHeader payloadHash =>
    simp only [dispatch, seq_eq_ok, relabel_eq_ok, ret_eq_ok] at h
    obtain ⟨⟨u, origin, receiver⟩, hcommit, _, he, rfl⟩ := h
    exact .commitVerification hcommit (Endpoint.exec_step he)
  | setConfig oapp lib params =>
    simp only [dispatch, seq_eq_ok, relabel_eq_ok, EndpointV2._assertAuthorized_eq_ok] at h
    obtain ⟨_, _, _, hauth, h⟩ := h
    split at h
    · simp only [seq_eq_ok, ret_eq_ok] at h
      obtain ⟨_, hu, rfl⟩ := h
      exact .setConfig hauth hu
    · rw [← ret_eq_ok.mp h]
      exact .otherLibrary
  | setDefaultUlnConfigs params =>
    simp only [dispatch, seq_eq_ok, ret_eq_ok] at h
    obtain ⟨_, hu, rfl⟩ := h
    exact .setDefaultUlnConfigs hu
  | transferUlnOwnership newOwner =>
    simp only [dispatch, seq_eq_ok, ret_eq_ok] at h
    obtain ⟨_, hu, rfl⟩ := h
    exact .transferUlnOwnership hu
  | renounceUlnOwnership =>
    simp only [dispatch, seq_eq_ok, ret_eq_ok] at h
    obtain ⟨_, hu, rfl⟩ := h
    exact .renounceUlnOwnership hu

/-- **The endpoint of a node takes a step of its own**, or stays. -/
theorem NodeStep.endpoint_cases (h : NodeStep keccak256 site n env msgSender value call n') :
    n'.toEndpoint = n.toEndpoint ∨ ∃ msgSender' value' call',
      (msgSender' = msgSender ∨ msgSender' = site.receiveUln) ∧
      EndpointStep keccak256 n.toEndpoint env msgSender' value' call' n'.toEndpoint := by
  cases h with
  | endpoint he => exact Or.inr ⟨_, _, _, Or.inl rfl, he⟩
  | commitVerification _ he => exact Or.inr ⟨_, _, _, Or.inr rfl, he⟩
  | verify => exact Or.inl rfl
  | setConfig _ _ => exact Or.inl rfl
  | otherLibrary => exact Or.inl rfl
  | setDefaultUlnConfigs _ => exact Or.inl rfl
  | transferUlnOwnership _ => exact Or.inl rfl
  | renounceUlnOwnership _ => exact Or.inl rfl

/-- It is not the zero address that calls the endpoint. -/
theorem NodeStep.endpoint_called (h : NodeStep keccak256 site n env msgSender value call n')
    (hsender : msgSender ≠ 0) (hsite : site.receiveUln ≠ 0) :
    n'.toEndpoint = n.toEndpoint ∨ ∃ msgSender' value' call', msgSender' ≠ 0 ∧
      EndpointStep keccak256 n.toEndpoint env msgSender' value' call' n'.toEndpoint := by
  rcases h.endpoint_cases with heq | ⟨msgSender', value', call', hsender', he⟩
  · exact Or.inl heq
  · refine Or.inr ⟨msgSender', value', call', ?_, he⟩
    rcases hsender' with rfl | rfl
    · exact hsender
    · exact hsite

/-! ## What an endpoint sends -/

/-- The path on which a packet was sent. -/
def LzPacket.outboundPath (p : LzPacket) : OutboundPath := ⟨p.sender, p.dstEid, p.receiver⟩

/-- What is hashed for the id of a packet. -/
def LzPacket.guidInput (p : LzPacket) : Bytes :=
  GUID.input p.nonce p.srcEid p.sender p.dstEid p.receiver

/-- The packets of a path. -/
def Endpoint.sentOn (e : Endpoint) (path : OutboundPath) : List LzPacket :=
  e.sent.filter fun p => decide (p.outboundPath = path)

structure Endpoint.Outgoing (keccak256 : Bytes → Bytes32) (e : Endpoint) : Prop where
  srcEid_eq : ∀ p ∈ e.sent, p.srcEid = e.eid
  guid_eq : ∀ p ∈ e.sent, p.guid = keccak256 p.guidInput
  nonces : ∀ path, (e.sentOn path).map (fun p => p.nonce.toNat)
    = List.range' 1 (e.outboundNonce path).toNat

variable {e e' : Endpoint} {lzCall : LzCall}

/-- A call sends nothing, or the next packet of its path. -/
theorem EndpointStep.sent_cases (h : EndpointStep keccak256 e env msgSender value lzCall e') :
    e'.eid = e.eid ∧ ((e'.sent = e.sent ∧ e'.outboundNonce = e.outboundNonce) ∨
      ∃ params, e'.sent = e.sent ++ [e.packetOf keccak256 msgSender params] ∧
        e'.outboundNonce = Function.update e.outboundNonce (Endpoint.outboundPath msgSender params)
          (e.outboundNonce (Endpoint.outboundPath msgSender params) + 1)) := by
  cases h with
  | send _ _ _ => exact ⟨rfl, Or.inr ⟨_, rfl, rfl⟩⟩
  | lzReceive hclear _ =>
    have hsame := MessagingChannel._clearPayload_outbound hclear
    exact ⟨hsame.eid_eq, Or.inl ⟨rfl, hsame.outbound_eq⟩⟩
  | clear _ hclear =>
    have hsame := MessagingChannel._clearPayload_outbound hclear
    exact ⟨hsame.eid_eq, Or.inl ⟨rfl, hsame.outbound_eq⟩⟩
  | skip _ hskip =>
    have hsame := MessagingChannel.skip_outbound hskip
    exact ⟨hsame.eid_eq, Or.inl ⟨rfl, hsame.outbound_eq⟩⟩
  | nilify _ hnilify =>
    have hsame := MessagingChannel.nilify_outbound hnilify
    exact ⟨hsame.eid_eq, Or.inl ⟨rfl, hsame.outbound_eq⟩⟩
  | burn _ hburn =>
    have hsame := MessagingChannel.burn_outbound hburn
    exact ⟨hsame.eid_eq, Or.inl ⟨rfl, hsame.outbound_eq⟩⟩
  | verify _ _ _ => exact ⟨rfl, Or.inl ⟨rfl, rfl⟩⟩
  | sendCompose _ => exact ⟨rfl, Or.inl ⟨rfl, rfl⟩⟩
  | lzCompose _ => exact ⟨rfl, Or.inl ⟨rfl, rfl⟩⟩
  | setDelegate => exact ⟨rfl, Or.inl ⟨rfl, rfl⟩⟩
  | setLzToken => exact ⟨rfl, Or.inl ⟨rfl, rfl⟩⟩
  | manage _ => exact ⟨rfl, Or.inl ⟨rfl, rfl⟩⟩

theorem EndpointStep.sent_sub (h : EndpointStep keccak256 e env msgSender value lzCall e') :
    e.sent ⊆ e'.sent ∧ e.sent.length ≤ e'.sent.length := by
  rcases h.sent_cases.2 with ⟨hsent, _⟩ | ⟨params, hsent, _⟩ <;> rw [hsent]
  · exact ⟨List.Subset.refl _, Nat.le_refl _⟩
  · exact ⟨List.subset_append_left _ _, by simp⟩

theorem Endpoint.Outgoing.deploy (eid : Uint32) (owner blockedLibrary : Address) :
    (Endpoint.deploy eid owner blockedLibrary).Outgoing keccak256 :=
  ⟨fun _ hp => absurd hp List.not_mem_nil, fun _ hp => absurd hp List.not_mem_nil, fun _ => rfl⟩

/-- The nonce of a path counts its packets. -/
theorem Endpoint.Outgoing.nonce_eq (h : e.Outgoing keccak256) (path : OutboundPath) :
    (e.outboundNonce path).toNat = (e.sentOn path).length := by
  rw [← List.length_map (fun p : LzPacket => p.nonce.toNat), h.nonces path, List.length_range']

/-- **The nonces stay gapless**, while they are few. -/
theorem Endpoint.Outgoing.step (h : e.Outgoing keccak256)
    (hs : EndpointStep keccak256 e env msgSender value lzCall e')
    (hfew : e'.sent.length < 2 ^ 64) : e'.Outgoing keccak256 := by
  obtain ⟨heid, ⟨hsent, hnonce⟩ | ⟨params, hsent, hnonce⟩⟩ := hs.sent_cases
  · refine ⟨?_, by rw [hsent]; exact h.guid_eq, fun path => ?_⟩
    · rw [hsent, heid]; exact h.srcEid_eq
    · rw [Endpoint.sentOn, hsent, hnonce]; exact h.nonces path
  · set p := e.packetOf keccak256 msgSender params with hp
    have hpath : p.outboundPath = Endpoint.outboundPath msgSender params := rfl
    refine ⟨?_, ?_, fun path => ?_⟩
    · rw [hsent, heid]
      exact List.forall_mem_append.mpr ⟨h.srcEid_eq, List.forall_mem_singleton.mpr rfl⟩
    · rw [hsent]
      exact List.forall_mem_append.mpr ⟨h.guid_eq, List.forall_mem_singleton.mpr rfl⟩
    · rw [Endpoint.sentOn, hsent, hnonce, List.filter_append, List.map_append]
      by_cases heq : path = Endpoint.outboundPath msgSender params
      · subst heq
        -- the counter does not wrap: it counts the packets of the path
        have hle : (e.sentOn (Endpoint.outboundPath msgSender params)).length ≤ e.sent.length :=
          List.length_filter_le _ _
        have hlt : (e.outboundNonce (Endpoint.outboundPath msgSender params)).toNat + 1 < 2 ^ 64 := by
          rw [h.nonce_eq]
          rw [hsent, List.length_append, List.length_singleton] at hfew
          omega
        rw [Function.update_self, MessagingChannel.toNat_succ hlt, List.range'_1_concat]
        refine congrArg₂ _ (h.nonces _) ?_
        rw [List.filter_singleton, hpath, decide_eq_true rfl]
        show [(e.outboundNonce (Endpoint.outboundPath msgSender params) + 1).toNat] = _
        rw [MessagingChannel.toNat_succ hlt, Nat.add_comm]
      · rw [Function.update_of_ne heq, ← h.nonces path]
        have hne : ¬ p.outboundPath = path := fun hp => heq (hp.symm.trans hpath)
        rw [List.filter_singleton, decide_eq_false hne]
        exact List.append_nil _

/-- **No id is used twice.** -/
theorem Endpoint.Outgoing.guid_inj (h : e.Outgoing keccak256)
    (hfree : CollisionFree keccak256 (e.sent.map LzPacket.guidInput)) {p q : LzPacket}
    (hp : p ∈ e.sent) (hq : q ∈ e.sent) (hguid : p.guid = q.guid) : p = q := by
  rw [h.guid_eq p hp, h.guid_eq q hq] at hguid
  obtain ⟨hnonce, _, hsender, hdst, hreceiver⟩ := GUID.input_inj
    (hfree _ (List.mem_map_of_mem hp) _ (List.mem_map_of_mem hq) hguid)
  have hpath : q.outboundPath = p.outboundPath := by
    rw [LzPacket.outboundPath, LzPacket.outboundPath, hsender, hdst, hreceiver]
  have hnodup : ((e.sentOn p.outboundPath).map fun p => p.nonce.toNat).Nodup := by
    rw [h.nonces]
    exact List.nodup_range'
  exact List.inj_on_of_nodup_map hnodup (List.mem_filter.mpr ⟨hp, decide_eq_true rfl⟩)
    (List.mem_filter.mpr ⟨hq, decide_eq_true hpath⟩) (congrArg BitVec.toNat hnonce)

/-- No packet is sent twice. -/
theorem Endpoint.Outgoing.sent_nodup (h : e.Outgoing keccak256) : e.sent.Nodup := by
  rw [List.nodup_iff_count_le_one]
  intro p
  have hpath : (e.sentOn p.outboundPath).Nodup :=
    List.Nodup.of_map _ (h.nonces p.outboundPath ▸ List.nodup_range')
  have hcount : List.count p (e.sentOn p.outboundPath) = List.count p e.sent :=
    List.count_filter (decide_eq_true rfl)
  rw [← hcount]
  exact List.nodup_iff_count_le_one.mp hpath p

/-- **Nonces count, and ids are unique.**  Over every run from its deployment in which an endpoint
    sends fewer than `2 ^ 64` packets, the packets of each path carry the nonces 1, 2, 3, ... in
    order, and no two packets have the same id. -/
theorem sent_in_order {eid : Uint32} {owner blockedLibrary : Address} {l : List EndpointAction}
    (hfew : ((Endpoint.deploy eid owner blockedLibrary).run keccak256 l).sent.length < 2 ^ 64)
    (hfree : CollisionFree keccak256
      (((Endpoint.deploy eid owner blockedLibrary).run keccak256 l).sent.map LzPacket.guidInput)) :
    (∀ path, (((Endpoint.deploy eid owner blockedLibrary).run keccak256 l).sentOn path).map
        (fun p => p.nonce.toNat) = List.range' 1
          (((Endpoint.deploy eid owner blockedLibrary).run keccak256 l).sentOn path).length) ∧
    (((Endpoint.deploy eid owner blockedLibrary).run keccak256 l).sent.map LzPacket.guid).Nodup := by
  have hfollows : Machine.Follows (Endpoint.step keccak256) (fun _ _ => True)
      (Endpoint.deploy eid owner blockedLibrary) l :=
    Machine.follows_of_forall (fun _ _ _ => trivial) _
  have hout : ((Endpoint.deploy eid owner blockedLibrary).run keccak256 l).Outgoing keccak256 :=
    (hfollows.with_invariant_of_mono (I := fun e => e.Outgoing keccak256)
      (C := fun e => e.sent.length < 2 ^ 64)
      (fun _ _ _ hok hC => Nat.lt_of_le_of_lt (Endpoint.exec_step hok).sent_sub.2 hC)
      (fun _ _ _ hok _ hC hI => hI.step (Endpoint.exec_step hok) hC) (.deploy _ _ _) hfew).2
  refine ⟨fun path => ?_, ?_⟩
  · rw [← hout.nonce_eq path]
    exact hout.nonces path
  · exact List.Nodup.map_on (fun p hp q hq => hout.guid_inj hfree hp hq) hout.sent_nodup

namespace Sample

def sendUln : Address := 0x975bcD720be66659e3EB3C0e4F1866a3020E493A

def arbEndpoint : Endpoint :=
  .deploy arbEid endpointOwner 0x1ccBf0db9C192d969de57E25B3fF09A25bb1D862

/-- An application sends twice. -/
def sendings : List EndpointAction :=
  [ by_ endpointOwner (.manage (.registerLibrary sendUln)),
    by_ endpointOwner (.manage (.setDefaultSendLibrary optEid sendUln)),
    by_ oapp (.send ⟨optEid, toBytes32 oapp, greeting, [], false⟩ oapp),
    by_ oapp (.send ⟨optEid, toBytes32 oapp, greeting, [], false⟩ oapp) ]

end Sample

theorem sent_in_order_second :
    ((Sample.arbEndpoint.run Sample.packetKeccak Sample.sendings).sent.map LzPacket.guid
      = [Sample.firstGuid, Sample.secondGuid]) ∧
    (∀ path, ((Sample.arbEndpoint.run Sample.packetKeccak Sample.sendings).sentOn path).map
        (fun p => p.nonce.toNat) = List.range' 1
          ((Sample.arbEndpoint.run Sample.packetKeccak Sample.sendings).sentOn path).length) ∧
    ((Sample.arbEndpoint.run Sample.packetKeccak Sample.sendings).sent.map LzPacket.guid).Nodup :=
  ⟨by decide +kernel, sent_in_order (by decide +kernel) (by decide +kernel)⟩

/-! ## What an endpoint logs -/

def InboundEvent.clearing : InboundEvent → Option Clearing
  | cleared x => some x
  | _ => none

/-- The messages that were cleared, newest first. -/
def Endpoint.clearings (e : Endpoint) : List Clearing := e.events.filterMap InboundEvent.clearing

theorem InboundEvent.clearing_eq_some {event : InboundEvent} {x : Clearing} :
    event.clearing = some x ↔ event = .cleared x := by
  cases event <;> simp [clearing]

theorem Endpoint.mem_clearings {x : Clearing} :
    x ∈ e.clearings ↔ .cleared x ∈ e.events := by
  simp [clearings, List.mem_filterMap, InboundEvent.clearing_eq_some]

/-- Where nothing happens to a nonce once it is cleared, no nonce is cleared twice. -/
theorem clearings_nodup {events : List InboundEvent}
    (h : ∀ later x earlier, events = later ++ .cleared x :: earlier →
      ∀ event ∈ later, event.path = x.path → event.nonce ≠ x.nonce) :
    ((events.filterMap InboundEvent.clearing).map fun x => (x.path, x.nonce)).Nodup := by
  induction events with
  | nil => exact List.nodup_nil
  | cons event events ih =>
    have hrest := ih fun later x earlier heq ev hev =>
      h (event :: later) x earlier (congrArg _ heq) ev (List.mem_cons_of_mem _ hev)
    cases hclear : event.clearing with
    | none =>
      rw [List.filterMap_cons_none hclear]
      exact hrest
    | some y =>
      rw [List.filterMap_cons_some hclear, List.map_cons]
      refine List.nodup_cons.mpr ⟨fun hmem => ?_, hrest⟩
      obtain ⟨x, hx, hkey⟩ := List.mem_map.mp hmem
      obtain ⟨hpath, hnonce⟩ := Prod.mk.inj hkey
      obtain ⟨event', hmem', hx⟩ := List.mem_filterMap.mp hx
      obtain rfl := InboundEvent.clearing_eq_some.mp hx
      obtain rfl := InboundEvent.clearing_eq_some.mp hclear
      obtain ⟨later, earlier, heq⟩ := List.append_of_mem hmem'
      exact h (.cleared y :: later) x earlier (congrArg _ heq) _ List.mem_cons_self hpath.symm
        hnonce.symm

variable {path : InboundPath} {nonce : Uint64} {payloadHash : Bytes32} {library : Address}

/-- Who verifies, on an endpoint. -/
theorem EndpointStep.verified_cases (hs : EndpointStep keccak256 e env msgSender value lzCall e')
    (h : .verified path nonce payloadHash library ∈ e'.events) :
    .verified path nonce payloadHash library ∈ e.events ∨
    ∃ origin receiver, lzCall = .verify origin receiver payloadHash ∧
      EndpointV2.pathOf origin receiver = path ∧ origin.nonce = nonce ∧
      e.isValidReceiveLibrary env.toLibEnv receiver origin.srcEid msgSender = .ok true := by
  cases hs with
  | verify hvalid _ _ =>
    rcases List.mem_cons.mp h with heq | hmem
    · obtain ⟨rfl, rfl, rfl, rfl⟩ := InboundEvent.verified.inj heq
      exact Or.inr ⟨_, _, rfl, rfl, rfl, hvalid⟩
    · exact Or.inl hmem
  | lzReceive _ _ => exact Or.inl ((List.mem_cons.mp h).resolve_left nofun)
  | clear _ _ => exact Or.inl ((List.mem_cons.mp h).resolve_left nofun)
  | skip _ _ => exact Or.inl ((List.mem_cons.mp h).resolve_left nofun)
  | nilify _ _ => exact Or.inl ((List.mem_cons.mp h).resolve_left nofun)
  | burn _ _ => exact Or.inl ((List.mem_cons.mp h).resolve_left nofun)
  | send _ _ _ => exact Or.inl h
  | sendCompose _ => exact Or.inl h
  | lzCompose _ => exact Or.inl h
  | setDelegate => exact Or.inl h
  | setLzToken => exact Or.inl h
  | manage _ => exact Or.inl h

/-- Who verifies, on a node. -/
theorem NodeStep.verified_cases (hs : NodeStep keccak256 site n env msgSender value call n')
    (h : .verified path nonce payloadHash library ∈ n'.events) :
    .verified path nonce payloadHash library ∈ n.events ∨
    (∃ origin receiver, call = .endpoint (.verify origin receiver payloadHash) ∧
      EndpointV2.pathOf origin receiver = path ∧
      n.isValidReceiveLibrary env.toLibEnv receiver origin.srcEid msgSender = .ok true) ∨
    ∃ packetHeader u origin receiver, call = .commitVerification packetHeader payloadHash ∧
      n.uln.commitVerification keccak256 packetHeader payloadHash = .ok (u, origin, receiver) ∧
      EndpointV2.pathOf origin receiver = path ∧ origin.nonce = nonce ∧
      packetHeader ∈ n'.headers := by
  cases hs with
  | endpoint he =>
    rcases he.verified_cases h with hmem | ⟨origin, receiver, rfl, hpath, _, hvalid⟩
    · exact Or.inl hmem
    · exact Or.inr (Or.inl ⟨origin, receiver, rfl, hpath, hvalid⟩)
  | commitVerification hcommit he =>
    rcases he.verified_cases h with hmem | ⟨origin, receiver, hcall, hpath, hnonce, _⟩
    · exact Or.inl hmem
    · obtain ⟨rfl, rfl, rfl⟩ := LzCall.verify.inj hcall
      exact Or.inr (Or.inr ⟨_, _, _, _, rfl, hcommit, hpath, hnonce,
        List.mem_append_right _ List.mem_cons_self⟩)
  | verify => exact Or.inl h
  | setConfig _ _ => exact Or.inl h
  | otherLibrary => exact Or.inl h
  | setDefaultUlnConfigs _ => exact Or.inl h
  | transferUlnOwnership _ => exact Or.inl h
  | renounceUlnOwnership _ => exact Or.inl h

/-! ## What a node keeps -/

variable {eid : Uint32}

theorem EndpointStep.delegate_zero
    (h : EndpointStep keccak256 e env msgSender value lzCall e') (hsender : msgSender ≠ 0)
    (hzero : e.delegates 0 = 0) : e'.delegates 0 = 0 := by
  cases h
  case setDelegate => exact (Function.update_of_ne hsender.symm _ _).trans hzero
  all_goals exact hzero

/-- The library's configurations are for this chain, over literal defaults. -/
structure LzNode.Configured (eid : Uint32) (n : LzNode) : Prop where
  localEid_eq : n.uln.localEid = eid
  literal : n.uln.LiteralDefaults
  delegate_zero : n.delegates 0 = 0

/-- A node as it can be reached. -/
structure LzNode.Kept (keccak256 : Bytes → Bytes32) (eid : Uint32) (n : LzNode) : Prop
    extends n.Configured eid where
  sound : n.toEndpoint.Sound keccak256
  outgoing : n.toEndpoint.Outgoing keccak256
  eid_eq : n.eid = eid

theorem LzNode.Configured.deploy (site : LzSite) (eid : Uint32)
    (owner ulnOwner blockedLibrary : Address) :
    (LzNode.deploy site eid owner ulnOwner blockedLibrary).Configured eid :=
  ⟨rfl, .constructor ulnOwner site.endpoint eid, rfl⟩

theorem LzNode.Kept.deploy (site : LzSite) (eid : Uint32)
    (owner ulnOwner blockedLibrary : Address) :
    (LzNode.deploy site eid owner ulnOwner blockedLibrary).Kept keccak256 eid where
  toConfigured := .deploy site eid owner ulnOwner blockedLibrary
  sound := .deploy eid owner blockedLibrary
  outgoing := .deploy eid owner blockedLibrary
  eid_eq := rfl

/-- Every configuration in use is effective. -/
theorem LzNode.Configured.effective (h : n.Configured eid) :
    ∀ oapp eid' config, n.uln.getUlnConfig oapp eid' = .ok config → config.Effective :=
  fun _ _ _ hconfig => h.literal.effective hconfig

/-- **Every step keeps the library configured.** -/
theorem LzNode.Configured.step (h : n.Configured eid)
    (hs : NodeStep keccak256 site n env msgSender value call n') (hsender : msgSender ≠ 0)
    (hsite : site.receiveUln ≠ 0) : n'.Configured eid := by
  have hzero : n'.delegates 0 = 0 := by
    rcases hs.endpoint_called hsender hsite with heq | ⟨_, _, _, hne, he⟩
    · rw [heq]
      exact h.delegate_zero
    · exact he.delegate_zero hne h.delegate_zero
  cases hs with
  | endpoint _ => exact ⟨h.localEid_eq, h.literal, hzero⟩
  | verify => exact ⟨h.localEid_eq, h.literal, hzero⟩
  | otherLibrary => exact ⟨h.localEid_eq, h.literal, hzero⟩
  | commitVerification hcommit _ =>
    obtain ⟨_, _, _, _, _, _, _, _, hbase, _⟩ :=
      ReceiveUln302.commitVerification_spec h.effective hcommit
    refine ⟨?_, ?_, hzero⟩ <;> rw [hbase]
    · exact h.localEid_eq
    · exact h.literal
  | @setConfig oapp _ _ _ hauth hu =>
    -- nobody acts for the zero address, under which the defaults are kept
    have hoapp : oapp ≠ UlnBase.DEFAULT_CONFIG := by
      rintro rfl
      rcases hauth with hself | hdelegate
      · exact hsender hself
      · exact hsender (hdelegate.trans h.delegate_zero)
    obtain ⟨hliteral, heid⟩ := UlnBase.setConfig_keeps h.literal hoapp hu
    exact ⟨heid.trans h.localEid_eq, hliteral, hzero⟩
  | setDefaultUlnConfigs hu =>
    obtain ⟨hliteral, heid⟩ := UlnBase.setDefaultUlnConfigs_keeps h.literal hu
    exact ⟨heid.trans h.localEid_eq, hliteral, hzero⟩
  | transferUlnOwnership hu =>
    obtain ⟨hliteral, heid⟩ := UlnBase.transferOwnership_keeps h.literal hu
    exact ⟨heid.trans h.localEid_eq, hliteral, hzero⟩
  | renounceUlnOwnership hu =>
    obtain ⟨hliteral, heid⟩ := UlnBase.renounceOwnership_keeps h.literal hu
    exact ⟨heid.trans h.localEid_eq, hliteral, hzero⟩

/-- **Every step keeps the endpoint sound.** -/
theorem Endpoint.Sound.of_node (h : n.toEndpoint.Sound keccak256)
    (hs : NodeStep keccak256 site n env msgSender value call n') (hsender : msgSender ≠ 0)
    (hsite : site.receiveUln ≠ 0) (hord : n'.toEndpoint.Ordinary keccak256) :
    n'.toEndpoint.Sound keccak256 := by
  rcases hs.endpoint_called hsender hsite with heq | ⟨_, _, _, hne, he⟩
  · rw [heq]
    exact h
  · exact h.step hne he hord

/-- **Every step keeps a node.** -/
theorem LzNode.Kept.step (h : n.Kept keccak256 eid)
    (hs : NodeStep keccak256 site n env msgSender value call n') (hsender : msgSender ≠ 0)
    (hsite : site.receiveUln ≠ 0) (hord : n'.toEndpoint.Ordinary keccak256)
    (hfew : n'.sent.length < 2 ^ 64) : n'.Kept keccak256 eid := by
  have hconfigured := h.toConfigured.step hs hsender hsite
  have hsound := h.sound.of_node hs hsender hsite hord
  rcases hs.endpoint_called hsender hsite with heq | ⟨_, _, _, _, he⟩
  · refine ⟨hconfigured, hsound, ?_, ?_⟩ <;> rw [heq]
    · exact h.outgoing
    · exact h.eid_eq
  · exact ⟨hconfigured, hsound, h.outgoing.step he hfew, he.sent_cases.1.trans h.eid_eq⟩

/-- Who writes the lookups. -/
theorem LzNode.Configured.lookup_cases (h : n.Configured eid)
    (hs : NodeStep keccak256 site n env msgSender value call n') (key : LookupKey) :
    n'.uln.hashLookup key = n.uln.hashLookup key ∨
    n'.uln.hashLookup key = ReceiveUln302.noVerification ∨
    ∃ packetHeader payloadHash confirmations,
      call = .verify packetHeader payloadHash confirmations ∧
      key = ⟨keccak256 packetHeader, payloadHash, msgSender⟩ ∧ packetHeader ∈ n'.headers := by
  cases hs with
  | @verify packetHeader payloadHash confirmations =>
    by_cases hkey : key = ⟨keccak256 packetHeader, payloadHash, msgSender⟩
    · exact Or.inr (Or.inr ⟨_, _, _, rfl, hkey, List.mem_append_right _ List.mem_cons_self⟩)
    · exact Or.inl (Function.update_of_ne hkey _ _)
  | commitVerification hcommit _ =>
    obtain ⟨_, _, _, _, _, _, _, _, _, hlookup⟩ :=
      ReceiveUln302.commitVerification_spec h.effective hcommit
    exact (hlookup key).imp id Or.inl
  | endpoint _ => exact Or.inl rfl
  | setConfig _ _ => exact Or.inl rfl
  | otherLibrary => exact Or.inl rfl
  | setDefaultUlnConfigs _ => exact Or.inl rfl
  | transferUlnOwnership _ => exact Or.inl rfl
  | renounceUlnOwnership _ => exact Or.inl rfl

/-! ## What a node hashed -/

/-- The ids and the payloads of the packets, the payloads of the clearings, and the headers. -/
def LzNode.hashed (n : LzNode) : List Bytes :=
  n.sent.map LzPacket.guidInput ++ n.sent.map PacketV1Codec.encodePayload ++
    n.clearings.map Clearing.payload ++ n.headers

theorem NodeStep.grows (hs : NodeStep keccak256 site n env msgSender value call n') :
    n.sent ⊆ n'.sent ∧ n.sent.length ≤ n'.sent.length ∧ n.events ⊆ n'.events ∧
      n.headers ⊆ n'.headers := by
  have hheaders : n.headers ⊆ n'.headers := by
    cases hs with
    | verify => exact List.subset_append_left _ _
    | commitVerification _ _ => exact List.subset_append_left _ _
    | endpoint _ => exact List.Subset.refl _
    | setConfig _ _ => exact List.Subset.refl _
    | otherLibrary => exact List.Subset.refl _
    | setDefaultUlnConfigs _ => exact List.Subset.refl _
    | transferUlnOwnership _ => exact List.Subset.refl _
    | renounceUlnOwnership _ => exact List.Subset.refl _
  rcases hs.endpoint_cases with heq | ⟨_, _, _, _, he⟩
  · rw [heq]
    exact ⟨List.Subset.refl _, Nat.le_refl _, List.Subset.refl _, hheaders⟩
  · exact ⟨he.sent_sub.1, he.sent_sub.2, he.events_sub, hheaders⟩

theorem NodeStep.hashed_sub (hs : NodeStep keccak256 site n env msgSender value call n') :
    n.hashed ⊆ n'.hashed := by
  obtain ⟨hsent, _, hevents, hheaders⟩ := hs.grows
  have hclearings : n.clearings ⊆ n'.clearings := fun x hx =>
    Endpoint.mem_clearings.mpr (hevents (Endpoint.mem_clearings.mp hx))
  intro b hb
  simp only [LzNode.hashed, List.mem_append] at hb ⊢
  rcases hb with ((hb | hb) | hb) | hb
  · exact Or.inl (Or.inl (Or.inl (List.map_subset _ hsent hb)))
  · exact Or.inl (Or.inl (Or.inr (List.map_subset _ hsent hb)))
  · exact Or.inl (Or.inr (List.map_subset _ hclearings hb))
  · exact Or.inr (hheaders hb)

end CrossRWA
