/-
  The messages between chains whose receivers' DVNs are not all faulty.

  1. `LzNetwork.step`: any number of chains, each a node.  `LzGuarded`: an honest DVN verifies only
     what an endpoint sent, and the guarded receivers have the ULN alone for their library, with
     quorums that the faulty DVNs cannot make.
  2. `Attested`, `Vouched`: what every step keeps, of the verifications of the honest DVNs and of
     the events of the endpoints.  `Attested.commit`: why a quorum vouches.
  3. `commit_decides`: the ULN lets a header through if and only if it has its quorum.
  4. `pathway_channel`: whatever a guarded receiver is given was sent, and is given to it once.
-/
import CrossRWA.Endpoint.LzNode
import CrossRWA.Lib.OnceChannel
import CrossRWA.World

set_option linter.unusedSectionVars false

namespace CrossRWA

open Calls

/-! ## Networks of nodes -/

abbrev LzNetwork (ι : Type) := ι → LzNode

/-- Where the contracts are, which DVNs are honest, and which receivers are guarded. -/
structure LzAtlas (ι : Type) where
  site : ι → LzSite
  eid : ι → Uint32
  honest : ι → Address → Bool
  guarded : ι → Address → Bool
  eid_inj : Function.Injective eid
  uln_ne_zero : ∀ i, (site i).receiveUln ≠ 0

/-- A call on one of the chains. -/
structure NodeAction (ι : Type) where
  chain : ι
  env : EndpointEnv
  msgSender : Address
  value : Nat
  call : NodeCall

variable {ι : Type} [DecidableEq ι] {keccak256 : Bytes → Bytes32} {M : LzAtlas ι}
  {w w' : LzNetwork ι} {a : NodeAction ι}

namespace LzNetwork

def step (keccak256 : Bytes → Bytes32) (M : LzAtlas ι) (w : LzNetwork ι) (a : NodeAction ι) :
    Except UlnError (LzNetwork ι) := do
  let n ← (w a.chain).exec keccak256 (M.site a.chain) a.env a.msgSender a.value a.call
  pure (Function.update w a.chain n)

def run (keccak256 : Bytes → Bytes32) (M : LzAtlas ι) (w : LzNetwork ι)
    (l : List (NodeAction ι)) : LzNetwork ι := Machine.run (step keccak256 M) w l

theorem step_cases (h : step keccak256 M w a = .ok w') :
    ∃ n, NodeStep keccak256 (M.site a.chain) (w a.chain) a.env a.msgSender a.value a.call n ∧
      w' = Function.update w a.chain n := by
  obtain ⟨n, hn, hw⟩ := seq_eq_ok.mp h
  exact ⟨n, LzNode.exec_step hn, (ret_eq_ok.mp hw).symm⟩

/-- Some endpoint sent a packet with this header and this hash of its payload. -/
def Emitted (keccak256 : Bytes → Bytes32) (w : LzNetwork ι) (packetHeader : Bytes)
    (payloadHash : Bytes32) : Prop :=
  ∃ i, ∃ p ∈ (w i).sent, PacketV1Codec.encodePacketHeader p = packetHeader ∧
    keccak256 (PacketV1Codec.encodePayload p) = payloadHash

end LzNetwork

/-- What is asked of a call: of an honest DVN, that it verifies what was sent; and for a guarded
    receiver, that its libraries and its quorum are sound when they are used.  The ULN is a
    contract, whose calls are those of the model. -/
structure LzGuarded (keccak256 : Bytes → Bytes32) (M : LzAtlas ι) (w : LzNetwork ι)
    (a : NodeAction ι) : Prop where
  called : a.msgSender ≠ 0
  contract : a.msgSender ≠ (M.site a.chain).receiveUln
  attests : ∀ packetHeader payloadHash confirmations,
    a.call = .verify packetHeader payloadHash confirmations → M.honest a.chain a.msgSender = true →
      w.Emitted keccak256 packetHeader payloadHash
  library : ∀ origin receiver payloadHash,
    a.call = .endpoint (.verify origin receiver payloadHash) → M.guarded a.chain receiver = true →
    (w a.chain).isValidReceiveLibrary a.env.toLibEnv receiver origin.srcEid a.msgSender = .ok true →
      a.msgSender = (M.site a.chain).receiveUln
  quorum : ∀ packetHeader payloadHash receiver srcEid config,
    a.call = .commitVerification packetHeader payloadHash →
    PacketV1Codec.receiverB20 packetHeader = .ok receiver →
    PacketV1Codec.srcEid packetHeader = .ok srcEid → M.guarded a.chain receiver = true →
    (w a.chain).uln.getUlnConfig receiver srcEid = .ok config →
      ReceiveUln302.Trustworthy (M.honest a.chain) config

namespace LzNetwork

/-- Nothing hashed on two chains collides, no cleared payload has a special hash, and the nonces
    of no endpoint run out. -/
structure Ordinary (keccak256 : Bytes → Bytes32) (w : LzNetwork ι) : Prop where
  free : ∀ i j, CollisionFree keccak256 ((w i).hashed ++ (w j).hashed)
  special : ∀ i, (w i).toEndpoint.Ordinary keccak256
  few : ∀ i, (w i).sent.length < 2 ^ 64

/-- Logs only grow. -/
theorem grows (h : step keccak256 M w a = .ok w') (i : ι) :
    (w i).sent ⊆ (w' i).sent ∧ (w i).sent.length ≤ (w' i).sent.length ∧
      (w i).events ⊆ (w' i).events ∧ (w i).hashed ⊆ (w' i).hashed := by
  obtain ⟨n, hn, rfl⟩ := step_cases h
  by_cases hi : i = a.chain
  · subst hi
    rw [Function.update_self]
    obtain ⟨hsent, hlen, hevents, _⟩ := hn.grows
    exact ⟨hsent, hlen, hevents, hn.hashed_sub⟩
  · rw [Function.update_of_ne hi]
    exact ⟨List.Subset.refl _, Nat.le_refl _, List.Subset.refl _, List.Subset.refl _⟩

theorem Ordinary.of_step (h : step keccak256 M w a = .ok w') (hord : w'.Ordinary keccak256) :
    w.Ordinary keccak256 where
  free i j := (hord.free i j).mono (List.append_subset.mpr
    ⟨List.subset_append_of_subset_left _ (grows h i).2.2.2,
      List.subset_append_of_subset_right _ (grows h j).2.2.2⟩)
  special i x hx := hord.special i x ((grows h i).2.2.1 hx)
  few i := Nat.lt_of_le_of_lt (grows h i).2.1 (hord.few i)

theorem Emitted.mono {packetHeader : Bytes} {payloadHash : Bytes32}
    (hsent : ∀ i, (w i).sent ⊆ (w' i).sent) :
    w.Emitted keccak256 packetHeader payloadHash → w'.Emitted keccak256 packetHeader payloadHash :=
  fun ⟨i, p, hp, hspec⟩ => ⟨i, p, hsent i hp, hspec⟩

/-- Whatever an honest DVN has verified was sent. -/
def Attested (keccak256 : Bytes → Bytes32) (M : LzAtlas ι) (w : LzNetwork ι) (j : ι) : Prop :=
  ∀ key, M.honest j key.dvn = true → ((w j).uln.hashLookup key).submitted = true →
    ∃ packetHeader ∈ (w j).headers, keccak256 packetHeader = key.headerHash ∧
      w.Emitted keccak256 packetHeader key.payloadHash

end LzNetwork

/-- The path on which a packet arrives. -/
def LzPacket.inboundPath (p : LzPacket) : InboundPath :=
  ⟨toAddress p.receiver, p.srcEid, toBytes32 p.sender⟩

namespace LzNetwork

variable {i j : ι}

/-- A packet to an endpoint was sent on this path, with this nonce and this hash of its payload. -/
def Carries (keccak256 : Bytes → Bytes32) (w : LzNetwork ι) (dstEid : Uint32) (path : InboundPath)
    (nonce : Uint64) (payloadHash : Bytes32) : Prop :=
  ∃ i, ∃ p ∈ (w i).sent, p.dstEid = dstEid ∧ p.inboundPath = path ∧ p.nonce = nonce ∧
    keccak256 (PacketV1Codec.encodePayload p) = payloadHash

/-- Whatever was verified for a guarded receiver was sent to it. -/
def Vouched (keccak256 : Bytes → Bytes32) (M : LzAtlas ι) (w : LzNetwork ι) (j : ι) : Prop :=
  ∀ path nonce payloadHash library, .verified path nonce payloadHash library ∈ (w j).events →
    M.guarded j path.receiver = true → w.Carries keccak256 (M.eid j) path nonce payloadHash

theorem Carries.mono {dstEid : Uint32} {path : InboundPath} {nonce : Uint64}
    {payloadHash : Bytes32} (hsent : ∀ i, (w i).sent ⊆ (w' i).sent) :
    w.Carries keccak256 dstEid path nonce payloadHash →
      w'.Carries keccak256 dstEid path nonce payloadHash :=
  fun ⟨i, p, hp, hspec⟩ => ⟨i, p, hsent i hp, hspec⟩

/-- **What a trustworthy quorum lets through was sent.** -/
theorem Attested.commit {packetHeader : Bytes} {payloadHash : Bytes32} {u : ReceiveUln302}
    {origin : Origin} {receiver : Address} {headers : List Bytes}
    (h : w.Attested keccak256 M j) (hkept : (w j).Kept keccak256 (M.eid j))
    (hcommit : (w j).uln.commitVerification keccak256 packetHeader payloadHash
      = .ok (u, origin, receiver))
    (htrust : ∀ config, (w j).uln.getUlnConfig receiver origin.srcEid = .ok config →
      ReceiveUln302.Trustworthy (M.honest j) config)
    (hsub : (w j).headers ⊆ headers) (hmem : packetHeader ∈ headers)
    (hfree : CollisionFree keccak256 headers) :
    w.Carries keccak256 (M.eid j) (EndpointV2.pathOf origin receiver) origin.nonce payloadHash := by
  obtain ⟨_, _, _, _, _, _, _, ⟨config, hconfig, hquorate⟩, _, _⟩ :=
    ReceiveUln302.commitVerification_spec hkept.effective hcommit
  obtain ⟨dvn, hhonest, hverified⟩ := hquorate.exists_honest
    (hkept.effective _ _ _ hconfig).optional_nodup (htrust config hconfig)
  obtain ⟨header', hmem', hhash, i, p, hp, rfl, hpayload⟩ :=
    h ⟨keccak256 packetHeader, payloadHash, dvn⟩ hhonest (of_decide_eq_true hverified).1
  -- the DVN has verified this very header
  obtain rfl := hfree _ (hsub hmem') _ hmem hhash
  obtain ⟨hdst, rfl, rfl⟩ := ReceiveUln302.commit_origin hkept.effective hcommit
  exact ⟨i, p, hp, hdst.trans hkept.localEid_eq, rfl, rfl, hpayload⟩

/-! ## Every run -/

structure Linked (keccak256 : Bytes → Bytes32) (M : LzAtlas ι) (w : LzNetwork ι) : Prop where
  kept : ∀ j, (w j).Kept keccak256 (M.eid j)
  attested : ∀ j, w.Attested keccak256 M j
  vouched : ∀ j, w.Vouched keccak256 M j

/-- **Every permitted call keeps the network linked.** -/
theorem Linked.step (h : w.Linked keccak256 M) (hs : step keccak256 M w a = .ok w')
    (hP : LzGuarded keccak256 M w a) (hord : w'.Ordinary keccak256) : w'.Linked keccak256 M := by
  have hgrows := fun i => (grows hs i).1
  obtain ⟨n, hn, rfl⟩ := step_cases hs
  set w' := Function.update w a.chain n with hw'
  have hself : w' a.chain = n := Function.update_self ..
  have hother : ∀ {j}, j ≠ a.chain → w' j = w j := fun hj => Function.update_of_ne hj ..
  refine ⟨fun j => ?_, fun j key hhonest hsubmitted => ?_,
    fun j path nonce payloadHash library hmem hguarded => ?_⟩
  · by_cases hj : j = a.chain
    · subst hj
      rw [hself]
      exact (h.kept a.chain).step hn hP.called (M.uln_ne_zero _) (hself ▸ hord.special a.chain)
        (hself ▸ hord.few a.chain)
    · rw [hother hj]
      exact h.kept j
  · by_cases hj : j = a.chain
    · subst hj
      rw [hself] at hsubmitted ⊢
      rcases (h.kept a.chain).lookup_cases hn key with heq | hnone | ⟨header, _, _, hcall, rfl, hin⟩
      · rw [heq] at hsubmitted
        obtain ⟨header, hin, hhash, hemitted⟩ := h.attested a.chain key hhonest hsubmitted
        exact ⟨header, hn.grows.2.2.2 hin, hhash, hemitted.mono hgrows⟩
      · rw [hnone] at hsubmitted
        cases hsubmitted
      · exact ⟨header, hin, rfl, (hP.attests _ _ _ hcall hhonest).mono hgrows⟩
    · rw [hother hj] at hsubmitted ⊢
      obtain ⟨header, hin, hhash, hemitted⟩ := h.attested j key hhonest hsubmitted
      exact ⟨header, hin, hhash, hemitted.mono hgrows⟩
  · by_cases hj : j = a.chain
    · subst hj
      rw [hself] at hmem
      rcases hn.verified_cases hmem with hmem | ⟨origin, receiver, hcall, rfl, hvalid⟩ |
        ⟨header, u, origin, receiver, hcall, hcommit, rfl, rfl, hin⟩
      · exact (h.vouched a.chain _ _ _ _ hmem hguarded).mono hgrows
      · -- no other library is valid for a guarded receiver
        exact absurd (hP.library _ _ _ hcall hguarded hvalid) hP.contract
      · obtain ⟨_, _, _, hreceiver, hsrc, _, _, _⟩ :=
          ReceiveUln302.commitVerification_spec (h.kept a.chain).effective hcommit
        have hfree : CollisionFree keccak256 n.headers :=
          (hself ▸ hord.free a.chain a.chain).mono fun b hb =>
            List.mem_append_left _ (List.mem_append_right _ hb)
        exact ((h.attested a.chain).commit (h.kept a.chain) hcommit
          (fun config hconfig => hP.quorum _ _ _ _ config hcall hreceiver hsrc hguarded hconfig)
          hn.grows.2.2.2 hin hfree).mono hgrows
    · rw [hother hj] at hmem
      exact (h.vouched j _ _ _ _ hmem hguarded).mono hgrows

/-- A network as it is deployed. -/
def New (M : LzAtlas ι) (w : LzNetwork ι) : Prop :=
  ∀ i, ∃ owner ulnOwner blockedLibrary,
    w i = .deploy (M.site i) (M.eid i) owner ulnOwner blockedLibrary

theorem New.linked (h : New M w) : w.Linked keccak256 M := by
  refine ⟨fun j => ?_, fun j key _ hsubmitted => ?_, fun j path nonce hash library hmem _ => ?_⟩
  · obtain ⟨owner, ulnOwner, blockedLibrary, hj⟩ := h j
    rw [hj]
    exact .deploy _ _ _ _ _
  · obtain ⟨owner, ulnOwner, blockedLibrary, hj⟩ := h j
    rw [hj] at hsubmitted
    cases hsubmitted
  · obtain ⟨owner, ulnOwner, blockedLibrary, hj⟩ := h j
    rw [hj] at hmem
    exact absurd hmem List.not_mem_nil

theorem linked_of_run {l : List (NodeAction ι)} (h : New M w)
    (hl : Machine.Follows (step keccak256 M) (LzGuarded keccak256 M) w l)
    (hord : (w.run keccak256 M l).Ordinary keccak256) : (w.run keccak256 M l).Linked keccak256 M :=
  (hl.with_invariant_of_mono (C := fun w => w.Ordinary keccak256)
    (fun _ _ _ hok hord => hord.of_step hok)
    (fun _ _ _ hok hP hord hI => hI.step hok hP hord) h.linked hord).2

/-- Whoever calls, the libraries stay configured. -/
theorem configured_of_run {l : List (NodeAction ι)} (h : New M w) (hl : ∀ a ∈ l, a.msgSender ≠ 0)
    (j : ι) : ((w.run keccak256 M l) j).Configured (M.eid j) := by
  have hnew : ∀ j, (w j).Configured (M.eid j) := by
    intro j
    obtain ⟨owner, ulnOwner, blockedLibrary, hj⟩ := h j
    rw [hj]
    exact .deploy _ _ _ _ _
  have hfollows : Machine.Follows (step keccak256 M) (fun _ a => a.msgSender ≠ 0) w l :=
    Machine.follows_of_forall (fun a ha _ => hl a ha) w
  refine (hfollows.with_invariant (I := fun w => ∀ j, (w j).Configured (M.eid j))
    (fun w a w' hok hcalled hI j => ?_) hnew).2 j
  obtain ⟨n, hn, rfl⟩ := step_cases hok
  by_cases hj : j = a.chain
  · subst hj
    rw [Function.update_self]
    exact (hI a.chain).step hn hcalled (M.uln_ne_zero _)
  · rw [Function.update_of_ne hj]
    exact hI j

end LzNetwork

/-- **Every configuration in use is effective**, whatever the owners and the applications have set:
    the lists have the lengths that are counted, nobody is listed twice, somebody is listed, and
    the threshold can be met and is not zero. -/
theorem configs_effective {l : List (NodeAction ι)} (hnew : LzNetwork.New M w)
    (hl : ∀ a ∈ l, a.msgSender ≠ 0) (j : ι) {oapp : Address} {eid : Uint32} {config : UlnConfig}
    (hconfig : ((w.run keccak256 M l) j).uln.getUlnConfig oapp eid = .ok config) :
    config.Effective :=
  (LzNetwork.configured_of_run hnew hl j).effective _ _ _ hconfig

/-- **What the ULN decides**, whoever has called whatever before.  A header for its chain whose
    receiver has a configuration goes through if and only if the configuration has its quorum;
    the verifications are then used up, and otherwise the only error is `LZ_ULN_Verifying`. -/
theorem commit_decides {l : List (NodeAction ι)} (hnew : LzNetwork.New M w)
    (hl : ∀ a ∈ l, a.msgSender ≠ 0) (j : ι) {packetHeader : Bytes} {payloadHash : Bytes32}
    {receiver : Address} {srcEid : Uint32} {config : UlnConfig}
    (hassert : ReceiveUln302._assertHeader packetHeader (M.eid j) = .ok ())
    (hreceiver : PacketV1Codec.receiverB20 packetHeader = .ok receiver)
    (hsrc : PacketV1Codec.srcEid packetHeader = .ok srcEid)
    (hconfig : ((w.run keccak256 M l) j).uln.getUlnConfig receiver srcEid = .ok config) :
    (ReceiveUln302.Quorate (((w.run keccak256 M l) j).uln._verified (keccak256 packetHeader)
        payloadHash config.confirmations) config →
      ∃ u origin, ((w.run keccak256 M l) j).uln.commitVerification keccak256 packetHeader
          payloadHash = .ok (u, origin, receiver) ∧
        u.commitVerification keccak256 packetHeader payloadHash = .error .LZ_ULN_Verifying) ∧
    (¬ ReceiveUln302.Quorate (((w.run keccak256 M l) j).uln._verified (keccak256 packetHeader)
        payloadHash config.confirmations) config →
      ((w.run keccak256 M l) j).uln.commitVerification keccak256 packetHeader payloadHash
        = .error .LZ_ULN_Verifying) := by
  have hconfigured : ((w.run keccak256 M l) j).Configured (M.eid j) :=
    LzNetwork.configured_of_run hnew hl j
  rw [← hconfigured.localEid_eq] at hassert
  exact ReceiveUln302.commitVerification_decides (hconfigured.effective _ _ _ hconfig) hassert
    hreceiver hsrc hconfig

/-! ## Exactly once -/

/-- What a packet brings: under its id, its path, its nonce and its message. -/
def LzPacket.letter (p : LzPacket) : Bytes32 × InboundPath × Uint64 × Bytes :=
  (p.guid, p.inboundPath, p.nonce, p.message)

/-- What a receiver is given. -/
def Clearing.letter (x : Clearing) : Bytes32 × InboundPath × Uint64 × Bytes :=
  (x.guid, x.path, x.nonce, x.message)

/-- The payload determines the id and the message. -/
theorem Clearing.payload_inj {x : Clearing} {p : LzPacket}
    (h : PacketV1Codec.encodePayload p = x.payload) : p.guid = x.guid ∧ p.message = x.message := by
  obtain ⟨hguid, hmessage⟩ := List.append_inj h (by simp)
  exact ⟨Packed.write_inj rfl hguid, hmessage⟩

namespace LzNetwork

variable {i j : ι}

/-- The packets from one chain to another. -/
def sentTo (M : LzAtlas ι) (w : LzNetwork ι) (i j : ι) : List LzPacket :=
  (w i).sent.filter fun p => decide (p.dstEid = M.eid j)

/-- The messages that the guarded receivers of one chain were given from another, newest first. -/
def receivedFrom (M : LzAtlas ι) (w : LzNetwork ι) (j i : ι) : List Clearing :=
  (w j).clearings.filter fun x => M.guarded j x.path.receiver && decide (x.path.srcEid = M.eid i)

/-- **What a guarded receiver is given was sent**, by the endpoint that its path names. -/
theorem Linked.sent (h : w.Linked keccak256 M) (hord : w.Ordinary keccak256) {x : Clearing}
    (hmem : x ∈ (w j).clearings) (hguarded : M.guarded j x.path.receiver = true) :
    ∃ i, M.eid i = x.path.srcEid ∧ ∃ p ∈ w.sentTo M i j, p.letter = x.letter := by
  obtain ⟨later, earlier, hlog⟩ := List.append_of_mem (Endpoint.mem_clearings.mp hmem)
  obtain ⟨⟨since, before, library, heq, _, _⟩, _, _⟩ :=
    (h.kept j).sound.cleared (hord.special j) hlog
  have hverified : .verified x.path x.nonce (keccak256 x.payload) library ∈ (w j).events := by
    rw [hlog, heq]
    simp
  obtain ⟨i, p, hp, hdst, hpath, hnonce, hhash⟩ := h.vouched j _ _ _ _ hverified hguarded
  have hsrc : M.eid i = x.path.srcEid := by
    rw [← hpath, ← (h.kept i).eid_eq]
    exact ((h.kept i).outgoing.srcEid_eq p hp).symm
  have hpayload : PacketV1Codec.encodePayload p = x.payload := by
    refine hord.free i j _ ?_ _ ?_ hhash
    · simp only [LzNode.hashed, List.mem_append, List.mem_map_of_mem hp, true_or, or_true]
    · simp only [LzNode.hashed, List.mem_append, List.mem_map_of_mem hmem, true_or, or_true]
  obtain ⟨hguid, hmessage⟩ := Clearing.payload_inj hpayload
  refine ⟨i, hsrc, p, List.mem_filter.mpr ⟨hp, decide_eq_true hdst⟩, ?_⟩
  rw [LzPacket.letter, Clearing.letter, hguid, hpath, hnonce, hmessage]

theorem Linked.brought (h : w.Linked keccak256 M) (hord : w.Ordinary keccak256) {x : Clearing}
    (hx : x ∈ w.receivedFrom M j i) : ∃ p ∈ w.sentTo M i j, p.letter = x.letter := by
  obtain ⟨hmem, hfilter⟩ := List.mem_filter.mp hx
  obtain ⟨hguarded, hsrc⟩ := Bool.and_eq_true_iff.mp hfilter
  obtain ⟨i', hi', hsent⟩ := h.sent hord hmem hguarded
  obtain rfl := M.eid_inj (hi'.trans (of_decide_eq_true hsrc))
  exact hsent

/-- **The messages between two chains are an exactly-once channel.** -/
theorem Linked.channel (h : w.Linked keccak256 M) (hord : w.Ordinary keccak256) (i j : ι) :
    ∃ channel : OnceChannel Bytes32 (InboundPath × Uint64 × Bytes),
      channel.sent = (w.sentTo M i j).map LzPacket.letter ∧
      channel.received = (w.receivedFrom M j i).map Clearing.letter := by
  have hfree : CollisionFree keccak256 ((w i).sent.map LzPacket.guidInput) :=
    (hord.free i i).mono fun b hb => by
      simp only [LzNode.hashed, List.mem_append, hb, true_or]
  have hinj : ∀ p ∈ w.sentTo M i j, ∀ q ∈ w.sentTo M i j, p.guid = q.guid → p = q := by
    intro p hp q hq
    exact (h.kept i).outgoing.guid_inj hfree (List.mem_of_mem_filter hp) (List.mem_of_mem_filter hq)
  have hkeys : ((w j).clearings.map fun x => (x.path, x.nonce)).Nodup :=
    clearings_nodup fun later x earlier hlog =>
      ((h.kept j).sound.cleared (hord.special j) hlog).2.2
  refine ⟨⟨_, _, ?_, ?_, fun e he => ?_⟩, rfl, rfl⟩
  · rw [List.map_map]
    exact List.Nodup.map_on hinj ((h.kept i).outgoing.sent_nodup.filter _)
  · rw [List.map_map]
    refine List.Nodup.map_on (fun x hx y hy hguid => ?_) (hkeys.of_map.filter _)
    obtain ⟨p, hp, hpx⟩ := h.brought hord hx
    obtain ⟨q, hq, hqy⟩ := h.brought hord hy
    obtain ⟨hpguid, hpath, hnonce, _⟩ : p.guid = x.guid ∧ p.inboundPath = x.path ∧
        p.nonce = x.nonce ∧ p.message = x.message := by
      simpa only [LzPacket.letter, Clearing.letter, Prod.mk.injEq] using hpx
    obtain ⟨hqguid, hpath', hnonce', _⟩ : q.guid = y.guid ∧ q.inboundPath = y.path ∧
        q.nonce = y.nonce ∧ q.message = y.message := by
      simpa only [LzPacket.letter, Clearing.letter, Prod.mk.injEq] using hqy
    obtain rfl := hinj p hp q hq (hpguid.trans (hguid.trans hqguid.symm))
    refine List.inj_on_of_nodup_map hkeys (List.mem_of_mem_filter hx) (List.mem_of_mem_filter hy) ?_
    rw [← hpath, ← hnonce, hpath', hnonce']
  · obtain ⟨x, hx, rfl⟩ := List.mem_map.mp he
    obtain ⟨p, hp, hletter⟩ := h.brought hord hx
    exact List.mem_map.mpr ⟨p, hp, hletter⟩

end LzNetwork

/-- **Exactly once, through LayerZero.**  If the honest DVNs verify only what was sent, and the
    quorums of the guarded receivers need an honest one, then whatever is given to a guarded
    receiver was sent to it by the chain of its path, with this id, path, nonce and message, and is
    given to it once. -/
theorem pathway_channel {l : List (NodeAction ι)} (hnew : LzNetwork.New M w)
    (hl : Machine.Follows (LzNetwork.step keccak256 M) (LzGuarded keccak256 M) w l)
    (hord : (w.run keccak256 M l).Ordinary keccak256) :
    (∀ i j, ∃ channel : OnceChannel Bytes32 (InboundPath × Uint64 × Bytes),
      channel.sent = ((w.run keccak256 M l).sentTo M i j).map LzPacket.letter ∧
      channel.received = ((w.run keccak256 M l).receivedFrom M j i).map Clearing.letter) ∧
    ∀ j, ∀ x ∈ (w.run keccak256 M l j).clearings, M.guarded j x.path.receiver = true →
      ∃ i, M.eid i = x.path.srcEid ∧
        ∃ p ∈ (w.run keccak256 M l).sentTo M i j, p.letter = x.letter := by
  have hlinked := LzNetwork.linked_of_run hnew hl hord
  exact ⟨hlinked.channel hord, fun j x hx => hlinked.sent hord hx⟩

namespace Sample

def firstPacket : LzPacket := ⟨1, arbEid, oapp, optEid, toBytes32 oapp, firstGuid, greeting⟩

def firstHeader : Bytes := PacketV1Codec.encodePacketHeader firstPacket

def secondPacket : LzPacket := ⟨2, arbEid, oapp, optEid, toBytes32 oapp, secondGuid, greeting⟩

def secondHeader : Bytes := PacketV1Codec.encodePacketHeader secondPacket

/-- The hash function, on the headers too. -/
def pathwayKeccak (b : Bytes) : Bytes32 :=
  if b = firstHeader then 0x359ea0da2999282793c189240b26c77b4751038450381a43bfd7cd6bd2cd8b9e
  else if b = secondHeader then 0xcf36e25a947a1b3bfe0f72711f273abe26043bcccd32119dc0b36016b949bf58
  else packetKeccak b

def firstHash : Bytes32 := pathwayKeccak (PacketV1Codec.encodePayload firstPacket)

def honestDvn : Address := 0x2f55C492897526677C5B68fb199ea31E2c126416

def faultyDvn : Address := 0xa7b5189bcA84Cd304D8553977c7C614329750d99

def lzAtlas : LzAtlas Side where
  site _ := ⟨0x1a44076050125825900e736c501f859c50fE728c, receiveUln⟩
  eid
    | .arb => arbEid
    | .opt => optEid
  honest _ a := decide (a = honestDvn)
  guarded _ a := decide (a = oapp)
  eid_inj := by
    unfold Function.Injective
    decide
  uln_ne_zero := by decide

def ulnOwner : Address := 0x70997970C51812dc3A010C7d01b50e0d17dc79C8

def lzNetwork : LzNetwork Side := fun s =>
  .deploy (lzAtlas.site s) (lzAtlas.eid s) endpointOwner ulnOwner
    0x1ccBf0db9C192d969de57E25B3fF09A25bb1D862

/-- Both DVNs have to verify. -/
def ulnConfig : UlnConfig := ⟨15, 2, 0, 0, [honestDvn, faultyDvn], []⟩

def calls (chain : Side) (msgSender : Address) (call : NodeCall) : NodeAction Side :=
  ⟨chain, endpointEnv, msgSender, 0, call⟩

/-- The owners configure the chains ... -/
def pathwayConfigured : List (NodeAction Side) :=
  [ calls .arb endpointOwner (.endpoint (.manage (.registerLibrary sendUln))),
    calls .arb endpointOwner (.endpoint (.manage (.setDefaultSendLibrary optEid sendUln))),
    calls .opt endpointOwner (.endpoint (.manage (.registerLibrary receiveUln))),
    calls .opt endpointOwner (.endpoint (.manage (.setDefaultReceiveLibrary arbEid receiveUln 0))),
    calls .opt ulnOwner (.setDefaultUlnConfigs [(arbEid, ulnConfig)]),
    calls .arb oapp (.endpoint (.send ⟨optEid, toBytes32 oapp, greeting, [], false⟩ oapp)) ]

/-- ... the DVNs verify what was sent last ... -/
def pathwayVerified : List (NodeAction Side) :=
  pathwayConfigured ++
    [ calls .opt honestDvn (.verify firstHeader firstHash 15),
      calls .opt faultyDvn (.verify firstHeader firstHash 20) ]

/-- ... and anyone commits and delivers it. -/
def pathwayRun : List (NodeAction Side) :=
  pathwayVerified ++
    [ calls .opt executor (.commitVerification firstHeader firstHash),
      calls .opt executor (.endpoint (.lzReceive (fromArb 1) oapp firstGuid greeting [])) ]

/-- The network when the DVNs verify. -/
def configuredNetwork : LzNetwork Side := lzNetwork.run pathwayKeccak lzAtlas pathwayConfigured

/-- The network when the DVNs have verified. -/
def verifiedNetwork : LzNetwork Side := lzNetwork.run pathwayKeccak lzAtlas pathwayVerified

/-- What the calls find, the header's fields and the chains' states. -/
theorem pathwayVerified_finds :
    (∀ a ∈ pathwayVerified, a.msgSender ≠ 0) ∧
    firstPacket ∈ (configuredNetwork .arb).sent ∧
    PacketV1Codec.receiverB20 firstHeader = .ok oapp ∧
    PacketV1Codec.srcEid firstHeader = .ok arbEid ∧
    ReceiveUln302._assertHeader firstHeader (lzAtlas.eid .opt) = .ok () ∧
    (verifiedNetwork .opt).uln.getUlnConfig oapp arbEid = .ok ulnConfig ∧
    ReceiveUln302.Quorate ((verifiedNetwork .opt).uln._verified (pathwayKeccak firstHeader)
      firstHash ulnConfig.confirmations) ulnConfig := by
  decide +kernel

theorem pathwayVerified_called : ∀ a ∈ pathwayVerified, a.msgSender ≠ 0 := pathwayVerified_finds.1

theorem firstPacket_sent : firstPacket ∈ (configuredNetwork .arb).sent :=
  pathwayVerified_finds.2.1

theorem firstHeader_receiver : PacketV1Codec.receiverB20 firstHeader = .ok oapp :=
  pathwayVerified_finds.2.2.1

theorem firstHeader_srcEid : PacketV1Codec.srcEid firstHeader = .ok arbEid :=
  pathwayVerified_finds.2.2.2.1

theorem firstHeader_asserted :
    ReceiveUln302._assertHeader firstHeader (lzAtlas.eid .opt) = .ok () :=
  pathwayVerified_finds.2.2.2.2.1

theorem verified_config : (verifiedNetwork .opt).uln.getUlnConfig oapp arbEid = .ok ulnConfig :=
  pathwayVerified_finds.2.2.2.2.2.1

theorem verified_quorate : ReceiveUln302.Quorate ((verifiedNetwork .opt).uln._verified
    (pathwayKeccak firstHeader) firstHash ulnConfig.confirmations) ulnConfig :=
  pathwayVerified_finds.2.2.2.2.2.2

/-- Most calls are nobody's verification. -/
theorem lzGuarded_plain (w : LzNetwork Side) {a : NodeAction Side} (hcalled : a.msgSender ≠ 0)
    (hcontract : a.msgSender ≠ receiveUln)
    (hverify : ∀ packetHeader payloadHash confirmations,
      a.call ≠ .verify packetHeader payloadHash confirmations)
    (hcommit : ∀ packetHeader payloadHash, a.call ≠ .commitVerification packetHeader payloadHash)
    (hlibrary : ∀ origin receiver payloadHash,
      a.call ≠ .endpoint (.verify origin receiver payloadHash)) :
    LzGuarded pathwayKeccak lzAtlas w a where
  called := hcalled
  contract := hcontract
  attests _ _ _ hcall := absurd hcall (hverify _ _ _)
  library _ _ _ hcall := absurd hcall (hlibrary _ _ _)
  quorum _ _ _ _ _ hcall := absurd hcall (hcommit _ _)

theorem pathwayConfigured_guarded : Machine.Follows (LzNetwork.step pathwayKeccak lzAtlas)
    (LzGuarded pathwayKeccak lzAtlas) lzNetwork pathwayConfigured := by
  refine Machine.follows_of_forall (fun a ha w => ?_) lzNetwork
  simp only [pathwayConfigured, calls, List.mem_cons, List.not_mem_nil, or_false] at ha
  rcases ha with rfl | rfl | rfl | rfl | rfl | rfl <;>
    exact lzGuarded_plain w (by decide) (by decide) (fun _ _ _ => nofun) (fun _ _ => nofun)
      (fun _ _ _ => nofun)

theorem pathwayVerified_guarded : Machine.Follows (LzNetwork.step pathwayKeccak lzAtlas)
    (LzGuarded pathwayKeccak lzAtlas) lzNetwork pathwayVerified := by
  refine Machine.follows_append.mpr ⟨pathwayConfigured_guarded, ?_, ?_, trivial⟩
  · refine ⟨by decide, by decide, fun _ _ _ hcall _ => ?_, fun _ _ _ => nofun,
      fun _ _ _ _ _ => nofun⟩
    obtain ⟨rfl, rfl, _⟩ := NodeCall.verify.inj hcall
    exact ⟨.arb, firstPacket, firstPacket_sent, rfl, rfl⟩
  · -- the other DVN is not asked to be honest
    refine ⟨by decide, by decide, fun _ _ _ _ hhonest => ?_, fun _ _ _ => nofun,
      fun _ _ _ _ _ => nofun⟩
    have hfaulty : lzAtlas.honest .opt faultyDvn = false := by decide
    cases hfaulty.symm.trans hhonest

theorem pathwayRun_guarded : Machine.Follows (LzNetwork.step pathwayKeccak lzAtlas)
    (LzGuarded pathwayKeccak lzAtlas) lzNetwork pathwayRun := by
  refine Machine.follows_append.mpr ⟨pathwayVerified_guarded, ?_, ?_, trivial⟩
  · refine ⟨by decide, by decide, fun _ _ _ => nofun, fun _ _ _ => nofun,
      fun _ _ receiver srcEid config hcall hreceiver hsrc _ hconfig => ?_⟩
    obtain ⟨rfl, rfl⟩ := NodeCall.commitVerification.inj hcall
    obtain rfl := Except.ok.inj (firstHeader_receiver.symm.trans hreceiver)
    obtain rfl := Except.ok.inj (firstHeader_srcEid.symm.trans hsrc)
    obtain rfl := Except.ok.inj (verified_config.symm.trans hconfig)
    exact Or.inl ⟨honestDvn, by decide, by decide⟩
  · exact lzGuarded_plain _ (by decide) (by decide) (fun _ _ _ => nofun) (fun _ _ => nofun)
      (fun _ _ _ => nofun)

theorem pathwayRun_ordinary :
    (lzNetwork.run pathwayKeccak lzAtlas pathwayRun).Ordinary pathwayKeccak where
  free := by decide +kernel
  special i x hx := by
    have hall : ∀ i, ∀ x ∈ ((lzNetwork.run pathwayKeccak lzAtlas pathwayRun) i).clearings,
        pathwayKeccak x.payload ≠ MessagingChannel.EMPTY_PAYLOAD_HASH ∧
          pathwayKeccak x.payload ≠ MessagingChannel.NIL_PAYLOAD_HASH := by
      decide +kernel
    exact hall i x (Endpoint.mem_clearings.mpr hx)
  few := by decide +kernel

theorem lzNetwork_new : LzNetwork.New lzAtlas lzNetwork := fun _ => ⟨_, _, _, rfl⟩

end Sample

namespace Sample

/-- No required DVN, one of two optional ones, and the default's confirmations. -/
def ownConfig : UlnConfig :=
  ⟨UlnConfig.DEFAULT.setWidth 64, UlnConfig.NIL_DVN_COUNT, 2, 1, [], [honestDvn, faultyDvn]⟩

/-- The application configures its chain. -/
def ownConfigured : List (NodeAction Side) :=
  pathwayConfigured ++
    [ calls .opt oapp (.setConfig oapp receiveUln [⟨arbEid, UlnBase.CONFIG_TYPE_ULN, some ownConfig⟩]) ]

theorem ownConfigured_finds :
    (∀ a ∈ ownConfigured, a.msgSender ≠ 0) ∧
    ((lzNetwork.run pathwayKeccak lzAtlas ownConfigured) .opt).uln.getUlnConfig oapp arbEid
      = .ok ⟨15, 0, 2, 1, [], [honestDvn, faultyDvn]⟩ := by
  decide +kernel

end Sample

/-- A configuration of which a part is nobody, a part is the default, and a part is listed. -/
theorem configs_effective_own :
    UlnConfig.Effective ⟨15, 0, 2, 1, [], [Sample.honestDvn, Sample.faultyDvn]⟩ :=
  configs_effective Sample.lzNetwork_new Sample.ownConfigured_finds.1 .opt
    Sample.ownConfigured_finds.2

theorem commit_decides_greeting :
    ∃ u origin, (Sample.verifiedNetwork .opt).uln.commitVerification Sample.pathwayKeccak
        Sample.firstHeader Sample.firstHash = .ok (u, origin, Sample.oapp) ∧
      u.commitVerification Sample.pathwayKeccak Sample.firstHeader Sample.firstHash
        = .error .LZ_ULN_Verifying :=
  (commit_decides Sample.lzNetwork_new Sample.pathwayVerified_called .opt
    Sample.firstHeader_asserted Sample.firstHeader_receiver Sample.firstHeader_srcEid
    Sample.verified_config).1 Sample.verified_quorate

theorem pathway_channel_greeting :
    ((Sample.lzNetwork.run Sample.pathwayKeccak Sample.lzAtlas Sample.pathwayRun).receivedFrom
      Sample.lzAtlas .opt .arb).map Clearing.letter = [Sample.firstPacket.letter] ∧
    ∃ channel : OnceChannel Bytes32 (InboundPath × Uint64 × Bytes),
      channel.sent = ((Sample.lzNetwork.run Sample.pathwayKeccak Sample.lzAtlas
        Sample.pathwayRun).sentTo Sample.lzAtlas .arb .opt).map LzPacket.letter ∧
      channel.received = ((Sample.lzNetwork.run Sample.pathwayKeccak Sample.lzAtlas
        Sample.pathwayRun).receivedFrom Sample.lzAtlas .opt .arb).map Clearing.letter :=
  ⟨by decide +kernel, (pathway_channel Sample.lzNetwork_new Sample.pathwayRun_guarded
    Sample.pathwayRun_ordinary).1 .arb .opt⟩

end CrossRWA
