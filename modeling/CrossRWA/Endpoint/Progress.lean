/-
  A message that its receiver's quorum has verified can be committed and delivered by anyone.

  1. `Endpoint.verify_ok`: what the endpoint's views `initializable` and `verifiable` are for.
  2. `LzNetwork.sound_of_run`: whoever calls, every endpoint keeps its histories.
  3. `LzNode.Configured.commit_ok`: the commit of what a quorum has verified.
  4. `quorum_delivers`: both calls go through, in every state that can be reached; the first one
     also while lower nonces are missing.
-/
import CrossRWA.Endpoint.Pathway

set_option linter.unusedSectionVars false

namespace CrossRWA

open Calls

variable {keccak256 : Bytes → Bytes32} {env : EndpointEnv} {msgSender : Address} {value : Nat}

/-- **A verification goes through** where the endpoint's views say so. -/
theorem Endpoint.verify_ok (keccak256 : Bytes → Bytes32) {e : Endpoint}
    {origin : Origin} {receiver : Address} {payloadHash : Bytes32}
    (hvalid : e.isValidReceiveLibrary env.toLibEnv receiver origin.srcEid msgSender = .ok true)
    (hinit : EndpointV2._initializable env origin receiver
      (e.lazyInboundNonce (EndpointV2.pathOf origin receiver)) = .ok true)
    (hverifiable : e._verifiable origin receiver
      (e.lazyInboundNonce (EndpointV2.pathOf origin receiver)) = true)
    (hhash : payloadHash ≠ 0) :
    ∃ e', e.exec keccak256 env msgSender 0 (.verify origin receiver payloadHash) = .ok e' ∧
      e'.events = .verified (EndpointV2.pathOf origin receiver) origin.nonce payloadHash msgSender
        :: e.events ∧
      (e'.inbox (EndpointV2.pathOf origin receiver)).slot origin.nonce.toNat = some payloadHash := by
  have hne : ¬ payloadHash = MessagingChannel.EMPTY_PAYLOAD_HASH := hhash
  refine ⟨e.note (e.setPayloadHash (EndpointV2.pathOf origin receiver) origin.nonce payloadHash)
    (.verified (EndpointV2.pathOf origin receiver) origin.nonce payloadHash msgSender), ?_, rfl, ?_⟩
  · refine Endpoint.exec_eq_ok.mpr ⟨fun _ => rfl, ?_⟩
    simp only [Endpoint.dispatch, EndpointV2.verify, hvalid, hinit, hverifiable, ok_seq, refuseIf,
      MessagingChannel._inbound, if_neg hne, Bool.true_eq_false, if_false]
    rfl
  · refine MessagingChannel.slot_setPayloadHash.trans ?_
    rw [if_pos rfl, MessagingChannel.confirmed_of_ne hhash]

/-! ## Every state that can be reached -/

variable {ι : Type} [DecidableEq ι] {M : LzAtlas ι} {w : LzNetwork ι}

/-- Whoever calls, the endpoints stay sound. -/
theorem LzNetwork.sound_of_run {l : List (NodeAction ι)} (h : New M w)
    (hl : ∀ a ∈ l, a.msgSender ≠ 0)
    (hord : ∀ j, ((w.run keccak256 M l) j).toEndpoint.Ordinary keccak256) (j : ι) :
    ((w.run keccak256 M l) j).toEndpoint.Sound keccak256 := by
  have hnew : ∀ j, (w j).toEndpoint.Sound keccak256 := by
    intro j
    obtain ⟨owner, ulnOwner, blockedLibrary, hj⟩ := h j
    rw [hj]
    exact .deploy _ _ _
  have hfollows : Machine.Follows (step keccak256 M) (fun _ a => a.msgSender ≠ 0) w l :=
    Machine.follows_of_forall (fun a ha _ => hl a ha) w
  have hback : ∀ w a w', step keccak256 M w a = .ok w' →
      (∀ j, (w' j).toEndpoint.Ordinary keccak256) → ∀ j, (w j).toEndpoint.Ordinary keccak256 :=
    fun w a w' hok hC i x hx => hC i x ((grows hok i).2.2.1 hx)
  refine (hfollows.with_invariant_of_mono (I := fun w => ∀ j, (w j).toEndpoint.Sound keccak256)
    hback (fun w a w' hok hcalled hC hI j => ?_) hnew hord).2 j
  obtain ⟨n, hn, rfl⟩ := step_cases hok
  by_cases hj : j = a.chain
  · subst hj
    have hord' := hC a.chain
    rw [Function.update_self] at hord' ⊢
    exact (hI a.chain).of_node hn hcalled (M.uln_ne_zero _) hord'
  · rw [Function.update_of_ne hj]
    exact hI j

/-- Where a packet comes from. -/
def LzPacket.origin (p : LzPacket) : Origin := ⟨p.srcEid, toBytes32 p.sender, p.nonce⟩

/-- **What a quorum has verified can be committed**; its hash is then in the endpoint. -/
theorem LzNode.Configured.commit_ok {n : LzNode} {eid : Uint32} {site : LzSite} {p : LzPacket}
    {config : UlnConfig} {c : Address} (h : n.Configured eid) (hdst : p.dstEid = eid)
    (hconfig : n.uln.getUlnConfig (toAddress p.receiver) p.srcEid = .ok config)
    (hquorate : ReceiveUln302.Quorate (n.uln._verified
      (keccak256 (PacketV1Codec.encodePacketHeader p)) (keccak256 (PacketV1Codec.encodePayload p))
      config.confirmations) config)
    (hvalid : n.isValidReceiveLibrary env.toLibEnv (toAddress p.receiver) p.srcEid site.receiveUln
      = .ok true)
    (hinit : EndpointV2._initializable env p.origin (toAddress p.receiver)
      (n.lazyInboundNonce p.inboundPath) = .ok true)
    (hverifiable : n._verifiable p.origin (toAddress p.receiver)
      (n.lazyInboundNonce p.inboundPath) = true)
    (hhash : keccak256 (PacketV1Codec.encodePayload p) ≠ 0) :
    ∃ n₁, n.exec keccak256 site env c 0
        (.commitVerification (PacketV1Codec.encodePacketHeader p)
          (keccak256 (PacketV1Codec.encodePayload p))) = .ok n₁ ∧
      ∃ e₁, n₁.toEndpoint = e₁ ∧
        n.toEndpoint.exec keccak256 env site.receiveUln 0 (.verify p.origin (toAddress p.receiver)
          (keccak256 (PacketV1Codec.encodePayload p))) = .ok e₁ ∧
        e₁.events = .verified p.inboundPath p.nonce (keccak256 (PacketV1Codec.encodePayload p))
          site.receiveUln :: n.events ∧
        (e₁.inbox p.inboundPath).slot p.nonce.toNat
          = some (keccak256 (PacketV1Codec.encodePayload p)) := by
  have hreads := PacketV1Codec.reads_encode p
  obtain ⟨u, origin, hcommit, _⟩ := (ReceiveUln302.commitVerification_decides
    (h.effective _ _ _ hconfig)
    (ReceiveUln302._assertHeader_encode (hdst.trans h.localEid_eq.symm))
    (seq_eq_ok.mpr ⟨_, PacketV1Codec.field_header hreads.receiver (by decide), rfl⟩)
    (PacketV1Codec.field_header hreads.srcEid (by decide)) hconfig).1 hquorate
  obtain ⟨_, _, rfl⟩ := ReceiveUln302.commit_origin h.effective hcommit
  obtain ⟨e₁, hverify, hevents, hslot⟩ :=
    Endpoint.verify_ok keccak256 hvalid hinit hverifiable hhash
  refine ⟨{ n with
      toEndpoint := e₁
      uln := u
      headers := n.headers ++ [PacketV1Codec.encodePacketHeader p] }, ?_,
    e₁, rfl, hverify, hevents, hslot⟩
  exact LzNode.exec_eq_ok.mpr ⟨fun _ => rfl,
    seq_eq_ok.mpr ⟨_, hcommit, seq_eq_ok.mpr ⟨_, relabel_eq_ok.mpr hverify, rfl⟩⟩⟩

/-- **What a quorum has verified can be delivered.**  In every state that can be reached, a packet
    that the quorum of its receiver has verified can be committed by anyone, if the endpoint's
    views say so, in whatever order.  Then, if nothing is missing below and the receiver takes it,
    anyone can deliver it. -/
theorem quorum_delivers {l : List (NodeAction ι)} (hnew : LzNetwork.New M w)
    (hl : ∀ a ∈ l, a.msgSender ≠ 0) {j : ι} {p : LzPacket} {config : UlnConfig} {env : EndpointEnv}
    {committer : Address} (hdst : p.dstEid = M.eid j)
    (hconfig : ((w.run keccak256 M l) j).uln.getUlnConfig (toAddress p.receiver) p.srcEid
      = .ok config)
    (hquorate : ReceiveUln302.Quorate (((w.run keccak256 M l) j).uln._verified
      (keccak256 (PacketV1Codec.encodePacketHeader p)) (keccak256 (PacketV1Codec.encodePayload p))
      config.confirmations) config)
    (hvalid : ((w.run keccak256 M l) j).isValidReceiveLibrary env.toLibEnv (toAddress p.receiver)
      p.srcEid (M.site j).receiveUln = .ok true)
    (hinit : EndpointV2._initializable env p.origin (toAddress p.receiver)
      (((w.run keccak256 M l) j).lazyInboundNonce p.inboundPath) = .ok true)
    (hverifiable : ((w.run keccak256 M l) j)._verifiable p.origin (toAddress p.receiver)
      (((w.run keccak256 M l) j).lazyInboundNonce p.inboundPath) = true)
    (hhash : keccak256 (PacketV1Codec.encodePayload p) ≠ 0) :
    ∃ n₁, ((w.run keccak256 M l) j).exec keccak256 (M.site j) env committer 0
        (.commitVerification (PacketV1Codec.encodePacketHeader p)
          (keccak256 (PacketV1Codec.encodePayload p))) = .ok n₁ ∧
      ((∀ j, ((w.run keccak256 M l) j).toEndpoint.Ordinary keccak256) →
        (∀ n, 0 < n → n < p.nonce → Confirmed ((w.run keccak256 M l) j).events p.inboundPath n) →
        p.nonce.toNat + 1 < 2 ^ 64 →
        ∀ (env' : EndpointEnv) (executor : Address) (value : Nat) (extraData : Bytes),
          env'.lzReceive (toAddress p.receiver) value p.origin p.guid p.message executor extraData
            = true →
          ∃ n₂, n₁.exec keccak256 (M.site j) env' executor value (.endpoint
              (.lzReceive p.origin (toAddress p.receiver) p.guid p.message extraData)) = .ok n₂ ∧
            ∃ x ∈ n₂.clearings, x.letter = p.letter) := by
  have hconfigured : ((w.run keccak256 M l) j).Configured (M.eid j) :=
    LzNetwork.configured_of_run hnew hl j
  obtain ⟨n₁, hcommit, e₁, he, hverify, hevents, hslot⟩ := hconfigured.commit_ok (c := committer)
    hdst hconfig hquorate hvalid hinit hverifiable hhash
  refine ⟨n₁, hcommit, fun hord hbelow hlast env' executor value extraData haccept => ?_⟩
  have hsound := LzNetwork.sound_of_run hnew hl hord j
  have hord₁ : e₁.Ordinary keccak256 := by
    intro x hx
    rw [hevents] at hx
    exact hord j x ((List.mem_cons.mp hx).resolve_left nofun)
  have hsound₁ := hsound.step (M.uln_ne_zero j) (Endpoint.exec_step hverify) hord₁
  have hbelow₁ : ∀ k, 0 < k → k < p.nonce → Confirmed e₁.events p.inboundPath k := by
    intro k hpos hk
    rw [hevents]
    exact (hbelow k hpos hk).cons _
  obtain ⟨e₂, hdeliver⟩ := hsound₁.delivers p.origin (toAddress p.receiver) p.guid p.message
    extraData hslot hbelow₁ hlast haccept
  rw [← he] at hdeliver
  refine ⟨{ n₁ with toEndpoint := e₂ },
    LzNode.exec_eq_ok.mpr ⟨nofun, seq_eq_ok.mpr ⟨_, relabel_eq_ok.mpr hdeliver, rfl⟩⟩,
    clearingOf p.origin (toAddress p.receiver) p.guid p.message true, ?_, rfl⟩
  refine Endpoint.mem_clearings.mpr ?_
  cases Endpoint.exec_step hdeliver with
  | lzReceive _ _ => exact List.mem_cons_self

namespace Sample

def secondHash : Bytes32 := pathwayKeccak (PacketV1Codec.encodePayload secondPacket)

/-- The first message is committed but not delivered; the second is sent, and verified. -/
def secondVerified : List (NodeAction Side) :=
  pathwayVerified ++
    [ calls .opt executor (.commitVerification firstHeader firstHash),
      calls .arb oapp (.endpoint (.send ⟨optEid, toBytes32 oapp, greeting, [], false⟩ oapp)),
      calls .opt honestDvn (.verify secondHeader secondHash 15),
      calls .opt faultyDvn (.verify secondHeader secondHash 15) ]

def secondNetwork : LzNetwork Side := lzNetwork.run pathwayKeccak lzAtlas secondVerified

theorem secondVerified_finds :
    (∀ a ∈ secondVerified, a.msgSender ≠ 0) ∧
    (secondNetwork .opt).uln.getUlnConfig oapp arbEid = .ok ulnConfig ∧
    ReceiveUln302.Quorate ((secondNetwork .opt).uln._verified (pathwayKeccak secondHeader)
      secondHash ulnConfig.confirmations) ulnConfig ∧
    (secondNetwork .opt).isValidReceiveLibrary endpointEnv.toLibEnv oapp arbEid receiveUln
      = .ok true ∧
    EndpointV2._initializable endpointEnv secondPacket.origin oapp
      ((secondNetwork .opt).lazyInboundNonce secondPacket.inboundPath) = .ok true ∧
    (secondNetwork .opt)._verifiable secondPacket.origin oapp
      ((secondNetwork .opt).lazyInboundNonce secondPacket.inboundPath) = true ∧
    secondHash ≠ 0 ∧
    (secondNetwork .opt).events = [verifiedEvent 1 firstGuid] ∧
    (secondNetwork .arb).events = [] := by
  decide +kernel

theorem secondVerified_ordinary (j : Side) : (secondNetwork j).toEndpoint.Ordinary pathwayKeccak := by
  obtain ⟨_, _, _, _, _, _, _, hopt, harb⟩ := secondVerified_finds
  intro x hx
  cases j with
  | arb =>
    rw [harb] at hx
    exact absurd hx List.not_mem_nil
  | opt =>
    rw [hopt] at hx
    exact nomatch List.mem_singleton.mp hx

end Sample

/-- The second message goes through while the first one waits. -/
theorem quorum_delivers_second :
    ∃ n₁ n₂, (Sample.secondNetwork .opt).exec Sample.pathwayKeccak (Sample.lzAtlas.site .opt)
        Sample.endpointEnv Sample.executor 0
        (.commitVerification Sample.secondHeader Sample.secondHash) = .ok n₁ ∧
      n₁.exec Sample.pathwayKeccak (Sample.lzAtlas.site .opt) Sample.endpointEnv Sample.executor 0
        (.endpoint (.lzReceive (Sample.fromArb 2) Sample.oapp Sample.secondGuid Sample.greeting []))
          = .ok n₂ ∧
      ∃ x ∈ n₂.clearings, x.letter = Sample.secondPacket.letter := by
  obtain ⟨hcalled, hconfig, hquorate, hvalid, hinit, hverifiable, hhash, hevents, _⟩ :=
    Sample.secondVerified_finds
  obtain ⟨n₁, hcommit, hdelivery⟩ := quorum_delivers (p := Sample.secondPacket)
    Sample.lzNetwork_new hcalled (by decide) hconfig hquorate hvalid hinit hverifiable hhash
  obtain ⟨n₂, hdeliver, hcleared⟩ := hdelivery Sample.secondVerified_ordinary
    (fun n hpos hn => by
      obtain rfl := Sample.eq_one_of_lt_two hpos hn
      exact ⟨Sample.verifiedEvent 1 Sample.firstGuid, hevents ▸ List.mem_cons_self, trivial, rfl, rfl⟩)
    (by decide) Sample.endpointEnv Sample.executor 0 [] rfl
  exact ⟨n₁, n₂, hcommit, hdeliver, hcleared⟩

end CrossRWA
