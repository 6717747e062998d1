/-
  When a message executes.

  * For a client whose quorum never changes, the receipt of a message IS a ballot: the adapters
    that brought it are the voters, and it is executed exactly when they are enough
    (`executed_iff_quorum`).  The delivery that completes the quorum executes (`ExecutesAt`), so
    nothing is left for a retry.
  * A client that lowers its quorum may find messages that no later delivery executes, since a
    delivery executes only if it makes the count EQUAL to the quorum.  `retry_executes`: anyone
    can have such a message executed, with the bytes any of its adapters brought.
-/
import CrossRWA.Redundancy.Channel

set_option linter.unusedSectionVars false

namespace CrossRWA

variable {ι : Type} [DecidableEq ι] {keccak256 : Bytes → Bytes32} {T : Topology ι}
  {w : Network ι} {n n' : Relay} {i : ι} {chainId : Uint256} {env : Env} {msgSender client : Address}
  {q : Nat}

/-! ## A constant quorum -/

/-- The client answers `q`, if it answers. -/
def Relay.ConstantQuorum (n : Relay) (env : Env) (client : Address) (q : Nat) : Prop :=
  ∀ data payload received quorum,
    (n.clientAt env client).getQuorum data payload received = .ok quorum → quorum = q

theorem Relay.ConstantQuorum.eq (h : n.ConstantQuorum env client q) {R : GlacisRouter.Received}
    {quorum : Nat} (hclient : R.glacisData.client = client)
    (hquorum : n.quorumOf env R = .ok quorum) : quorum = q := by
  subst hclient
  exact h _ _ _ _ hquorum

/-- The `q`-th delivery of a list executed, and no other. -/
def ExecutesAt (q : Nat) (l : List Delivery) : Prop :=
  l.map Delivery.executed = (List.range l.length).map fun k => decide (k + 1 = q)

theorem ExecutesAt.append {l : List Delivery} {e : Delivery} (h : ExecutesAt q l)
    (he : e.executed = decide (l.length + 1 = q)) : ExecutesAt q (l ++ [e]) := by
  have hlen : (l ++ [e]).length = l.length + 1 := by simp
  unfold ExecutesAt at *
  rw [hlen, List.range_succ, List.map_append, List.map_append, h, List.map_singleton,
    List.map_singleton, he]

/-- The receipt of a message is a ballot of its adapters, and its deliveries executed by it. -/
def Relay.IsBallot (n : Relay) (q : Nat) (id : Bytes32) : Prop :=
  ∃ b : Ballot q Address, b.voters = n.router.receivedAdaptersList id ∧
    b.decided = (n.router.messageReceipts id).executed ∧ ExecutesAt q (n.deliveriesOf id)

/-- The messages a client got are ballots. -/
def Relay.Ballots (client : Address) (q : Nat) (n : Relay) : Prop :=
  ∀ e ∈ n.deliveries, e.glacisData.client = client → n.IsBallot q e.glacisData.messageId

/-- What was never delivered was never executed. -/
theorem Tally.not_executed (h : Tally keccak256 chainId n) {id : Bytes32}
    (hnil : n.router.receivedAdaptersList id = []) :
    (n.router.messageReceipts id).executed = false := by
  rw [← Bool.not_eq_true, h.executed]
  intro hmem
  obtain ⟨x, hx, rfl⟩ := List.mem_map.mp hmem
  have hb := h.backed x hx
  have hle := hb.adapters.length_le
  have := hb.quorum_pos
  have := hb.quorum_le
  rw [hnil] at hle
  rw [List.length_nil] at hle
  omega

/-- A delivery to a client meets a message without receipt, or a ballot of the client's. -/
theorem Relay.Ballots.ballot (h : n.Ballots client q) (htally : Tally keccak256 chainId n)
    {e : Delivery} {hashed : List Bytes} (hfree : CollisionFree keccak256 hashed)
    (hold : n.hashed ⊆ hashed) (hvalid : e.Valid keccak256 chainId)
    (hnew : e.inputs keccak256 chainId ⊆ hashed) (he : e.glacisData.client = client) :
    n.IsBallot q e.glacisData.messageId := by
  rcases List.eq_nil_or_concat' (n.deliveriesOf e.glacisData.messageId) with hnil | ⟨l, e₀, hl⟩
  · have hlist : n.router.receivedAdaptersList e.glacisData.messageId = [] := by
      rw [htally.lists, hnil]; rfl
    refine ⟨.empty, hlist.symm, (htally.not_executed hlist).symm, ?_⟩
    rw [hnil]
    rfl
  · have hmem : e₀ ∈ n.deliveriesOf e.glacisData.messageId := by rw [hl]; simp
    obtain ⟨he₀, hid⟩ := Chain.mem_deliveriesOf.mp hmem
    -- an id commits to its client
    obtain ⟨_, _, hdata, _⟩ := Delivery.Valid.inj hfree (htally.valid e₀ he₀) hvalid
      (List.Subset.trans (htally.inputs e₀ he₀) hold) hnew hid
    rw [← hdata]
    exact h e₀ he₀ (by rw [hdata]; exact he)

theorem Relay.IsBallot.congr {id : Bytes32} (h : n.IsBallot q id)
    (hlist : n'.router.receivedAdaptersList id = n.router.receivedAdaptersList id)
    (hreceipt : (n'.router.messageReceipts id).executed = (n.router.messageReceipts id).executed)
    (hdeliveries : n'.deliveriesOf id = n.deliveriesOf id) : n'.IsBallot q id := by
  obtain ⟨b, hvoters, hdecided, horder⟩ := h
  exact ⟨b, hvoters.trans hlist.symm, hdecided.trans hreceipt.symm, by rw [hdeliveries]; exact horder⟩

/-- **One call keeps the ballots.** -/
theorem Relay.Ballots.receives {call : Call} (h : n.Ballots client q)
    (htally : Tally keccak256 chainId n) (hchain : n.router.GLACIS_CHAIN_ID = chainId)
    (hconst : n.ConstantQuorum env client q) (hs : Receives keccak256 n env msgSender call n')
    (hfree : CollisionFree keccak256 n'.hashed) : n'.Ballots client q := by
  cases hs with
  | quiet same _ =>
    intro e he hclient
    rw [same.deliveries_eq] at he
    refine (h e he hclient).congr (by rw [same.lists_eq]) (by rw [same.router_eq]) ?_
    rw [Chain.deliveriesOf, same.deliveries_eq]
    rfl
  | @delivery fromChainId glacisPayload R _ quorum hR hquorum hrouter hdel hhashed _ =>
    have hsub : n.hashed ⊆ n'.hashed := by rw [hhashed]; exact List.subset_append_left _ _
    have hstep := receiveStep_of_delivery hR hrouter hdel hsub
    obtain ⟨_, _, hid, ⟨quorum', hq', hex⟩, _⟩ := GlacisRouter.receiveMessage_spec hR
    obtain rfl : quorum' = quorum := Except.ok.inj (hq'.symm.trans hquorum)
    obtain ⟨hflag, hfrom, hlist⟩ := GlacisRouter.receiveMessage_votes hR
    rw [← hrouter, hfrom] at hlist
    set e' : Delivery := ⟨R.glacisData, R.payload, fromChainId, msgSender, R.executed⟩
    have hvalid : e'.Valid keccak256 chainId := by rw [← hchain]; exact hid
    have hnew : e'.inputs keccak256 chainId ⊆ n'.hashed := by
      rw [hhashed, hchain]; exact List.subset_append_right _ _
    -- the delivered message, if it is the client's: one vote more
    have hself : e'.glacisData.client = client → n'.IsBallot q e'.glacisData.messageId := by
      intro hclient
      obtain ⟨b, hvoters, hdecided, horder⟩ := h.ballot htally hfree hsub hvalid hnew hclient
      obtain rfl := hconst.eq hclient hquorum
      have hfresh : msgSender ∉ b.voters := by
        rw [hvoters, ← htally.flags]
        show ¬ n.router.receivedCustomAdapterMessages R.glacisData.messageId msgSender = true
        rw [hflag]; decide
      have hlen : (n.deliveriesOf e'.glacisData.messageId).length = b.voters.length := by
        rw [hvoters, htally.lists, List.length_map]
      refine ⟨b.vote msgSender hfresh, ?_, ?_, ?_⟩
      · rw [hlist, Function.update_self]
        show b.voters ++ [msgSender] = _
        rw [hvoters]
      · rw [hstep.receipts_eq, Function.update_self]
        show (b.decided || _) = (_ || R.executed)
        rw [hex, hvoters, hdecided, ← htally.received]
        cases (n.router.messageReceipts e'.glacisData.messageId).executed <;> simp [e']
      · -- the vote that makes the quorum finds the ballot open
        rw [hstep.deliveriesOf_self]
        refine horder.append ?_
        have hopen : (n.router.messageReceipts e'.glacisData.messageId).executed = true →
            b.voters.length + 1 ≠ quorum' := by
          intro hdone
          have := (b.decided_iff.mp (hdecided.trans hdone)).2
          omega
        have hcount : (n.router.messageReceipts R.glacisData.messageId).uniqueMessagesReceived
            = b.voters.length := by
          rw [htally.received, hvoters]
        show R.executed = _
        rw [hex, hlen, hcount]
        cases hdone : (n.router.messageReceipts R.glacisData.messageId).executed with
        | false => simp
        | true => simp [hopen hdone]
    intro e he hclient
    rw [hdel] at he
    by_cases hsame : e.glacisData.messageId = e'.glacisData.messageId
    · rw [hsame]
      rcases List.mem_append.mp he with hold | hnew
      · obtain ⟨_, _, hdata, _⟩ := Delivery.Valid.inj hfree (htally.valid e hold) hvalid
          (List.Subset.trans (htally.inputs e hold) hsub) hnew hsame
        exact hself (hdata ▸ hclient)
      · rw [List.mem_singleton.mp hnew] at hclient
        exact hself hclient
    · rcases List.mem_append.mp he with hold | hnew
      · refine (h e hold hclient).congr ?_ ?_ (hstep.deliveriesOf_of_ne (Ne.symm hsame))
        · rw [hlist, Function.update_of_ne hsame]
        · rw [hstep.receipts_eq, Function.update_of_ne hsame]
      · rw [List.mem_singleton.mp hnew] at hsame
        exact absurd rfl hsame
  | @retry fromChainId glacisPayload R _ quorum hR hquorum hrouter hdel hhashed _ =>
    have hsub : n.hashed ⊆ n'.hashed := by rw [hhashed]; exact List.subset_append_left _ _
    obtain ⟨_, hid, ⟨quorum', hq', hpos, hle⟩, hex, _, hr⟩ :=
      GlacisRouter.retryReceiveMessage_spec hR
    obtain rfl : quorum' = quorum := Except.ok.inj (hq'.symm.trans hquorum)
    rw [hr] at hrouter
    let e' : Delivery := ⟨R.glacisData, R.payload, fromChainId, msgSender, R.executed⟩
    have hvalid : e'.Valid keccak256 chainId := by rw [← hchain]; exact hid
    have hnew : e'.inputs keccak256 chainId ⊆ n'.hashed := by
      rw [hhashed, hchain]; exact List.subset_append_right _ _
    intro e he hclient
    rw [hdel] at he
    by_cases hsame : e.glacisData.messageId = e'.glacisData.messageId
    · -- the ballot would have been decided by the vote that reached the quorum
      exfalso
      obtain ⟨_, _, hdata, _⟩ := Delivery.Valid.inj hfree (htally.valid e he) hvalid
        (List.Subset.trans (htally.inputs e he) hsub) hnew hsame
      obtain ⟨b, hvoters, hdecided, _⟩ := h e he hclient
      rw [hsame] at hvoters hdecided
      obtain rfl := hconst.eq (R := R) (by rw [← hclient, hdata]) hquorum
      have hreached : b.decided = true := by
        refine b.decided_iff.mpr ⟨hpos, ?_⟩
        rw [hvoters, ← htally.received]
        exact hle
      rw [hdecided, hex] at hreached
      cases hreached
    · refine (h e he hclient).congr (by rw [hrouter]) ?_ ?_
      · rw [hrouter]
        dsimp only
        rw [Function.update_of_ne hsame]
      · rw [Chain.deliveriesOf, hdel]
        rfl

/-- The actions of a run in which one client's quorum stays the same. -/
def NetworkAction.KeepsQuorum (i : ι) (client : Address) (q : Nat) (w : Network ι) :
    NetworkAction ι → Prop
  | .call j env msgSender _ _ => msgSender ≠ 0 ∧ (j = i → (w i).ConstantQuorum env client q)
  | .tick _ _ => True

theorem NetworkAction.KeepsQuorum.called {a : NetworkAction ι} (h : a.KeepsQuorum i client q w) :
    a.Called := by
  cases a with
  | call j env msgSender value call => exact h.1
  | tick j seconds => trivial

/-- **A message executes exactly when enough different adapters have brought it**, for a client
    whose quorum never changes: by the delivery that completes the quorum, and by no other; a
    retry of it fails, whoever makes it. -/
theorem executed_iff_quorum {l : List (NetworkAction ι)} (hnew : ∀ i, (w i).New (T.chainId i))
    (hl : Machine.Follows (Network.step keccak256 T)
      (fun w a => a.KeepsQuorum i client q w) w l)
    (hfree : (w.run keccak256 T l).NoCollision keccak256) {e : Delivery}
    (he : e ∈ (w.run keccak256 T l i).deliveries) (hclient : e.glacisData.client = client) :
    (((w.run keccak256 T l i).deliveriesOf e.glacisData.messageId).map Delivery.adapter).Nodup ∧
    ((∃ x ∈ (w.run keccak256 T l i).executions, x.messageId = e.glacisData.messageId) ↔
      0 < q ∧ q ≤ (((w.run keccak256 T l i).deliveriesOf e.glacisData.messageId).map
        Delivery.adapter).length) ∧
    ExecutesAt q ((w.run keccak256 T l i).deliveriesOf e.glacisData.messageId) ∧
    ∀ env, (w.run keccak256 T l i).ConstantQuorum env client q →
      ∀ msgSender value fromChainId glacisPayload payload,
        decodeGlacisPayload glacisPayload = some (e.glacisData, payload) →
        ∀ n', (w.run keccak256 T l i).exec keccak256 (T.site i) env msgSender value
          (.retryReceiveMessage fromChainId glacisPayload) ≠ .ok n' := by
  have h0 : (w i).Ballots client q := by
    intro e he
    rw [(hnew i).fresh.deliveries] at he
    exact absurd he List.not_mem_nil
  obtain ⟨hsound, hballots⟩ := network_of_run (I := fun w => (w i).Ballots client q)
    (fun _ _ ha => ha.called) (by
      intro w j a n' hs ha hfree hB _ hI
      by_cases hj : i = j
      · subst hj
        have hn' := hfree.chain i
        rw [Function.update_self] at hn' ⊢
        cases hs with
        | call hexec =>
          exact hI.receives (hB i).tally (hB i).outbox.chainId_eq (ha.2 rfl)
            (Relay.exec_receives hexec) hn'
        | tick _ => exact fun e he hc => hI e he hc
      · rw [Function.update_of_ne hj]; exact hI)
    hl (fun j => (hnew j).sound) h0 hfree
  have htally := (hsound i).tally
  obtain ⟨b, hvoters, hdecided, horder⟩ := hballots e he hclient
  have hadapters : ((w.run keccak256 T l i).deliveriesOf e.glacisData.messageId).map
      Delivery.adapter = b.voters := by
    rw [hvoters, htally.lists]
  refine ⟨by rw [hadapters]; exact b.voters_nodup, ?_, horder, ?_⟩
  · rw [hadapters, ← b.decided_iff, hdecided, htally.executed, List.mem_map]
  · intro env hconst msgSender value fromChainId glacisPayload payload hdec n' hok
    cases exec_effect (Relay.exec_eq_ok.mp hok).1 with
    | @retryReceiveMessage _ _ R _ hR _ =>
      -- a quorum that has been reached has been used
      obtain ⟨hdec', _, ⟨quorum, hquorum, hpos, hle⟩, hex, _⟩ :=
        GlacisRouter.retryReceiveMessage_spec hR
      have hdata : R.glacisData = e.glacisData :=
        (congrArg Prod.fst (Option.some.inj (hdec.symm.trans hdec'))).symm
      obtain rfl := hconst.eq (by rw [hdata]; exact hclient) hquorum
      rw [hdata, htally.received, ← hvoters] at hle
      have hdone := hdecided.symm.trans (b.decided_iff.mpr ⟨hpos, hle⟩)
      rw [hdata, hdone] at hex
      cases hex

namespace Sample

/-- The receiver asks for two adapters throughout. -/
theorem receiver_quorum (n : Relay) (hnone : n.mediators receiver = none) (quorum : Nat) :
    n.ConstantQuorum (receiverEnv quorum) receiver quorum := by
  intro data payload received q hq
  simp only [Chain.clientAt, hnone, receiverEnv, if_pos] at hq
  exact (Except.ok.inj hq).symm

theorem brought_keepsQuorum : Machine.Follows (Network.step keccak topology)
    (fun w a => a.KeepsQuorum .opt receiver 2 w) network brought := by
  refine ⟨⟨by decide, fun _ => receiver_quorum _ rfl 2⟩,
    ⟨by decide, fun _ => receiver_quorum _ ?_ 2⟩, ⟨by decide, fun _ => receiver_quorum _ ?_ 2⟩,
    trivial⟩
  · exact Option.isNone_iff_eq_none.mp (by decide +kernel)
  · exact Option.isNone_iff_eq_none.mp (by decide +kernel)

end Sample

theorem executed_iff_quorum_brought :
    (((Sample.network.run Sample.keccak Sample.topology Sample.brought .opt).deliveriesOf
      Sample.firstMessage.messageId).map Delivery.adapter).Nodup ∧
    ((∃ x ∈ (Sample.network.run Sample.keccak Sample.topology Sample.brought .opt).executions,
        x.messageId = Sample.firstMessage.messageId) ↔
      0 < 2 ∧ 2 ≤ (((Sample.network.run Sample.keccak Sample.topology Sample.brought
        .opt).deliveriesOf Sample.firstMessage.messageId).map Delivery.adapter).length) ∧
    ExecutesAt 2 ((Sample.network.run Sample.keccak Sample.topology Sample.brought
      .opt).deliveriesOf Sample.firstMessage.messageId) ∧
    ∀ env, (Sample.network.run Sample.keccak Sample.topology Sample.brought .opt).ConstantQuorum env
      Sample.receiver 2 → ∀ msgSender value fromChainId glacisPayload payload,
        decodeGlacisPayload glacisPayload = some (Sample.firstMessage, payload) →
        ∀ n', (Sample.network.run Sample.keccak Sample.topology Sample.brought .opt).exec
          Sample.keccak (Sample.topology.site .opt) env msgSender value
          (.retryReceiveMessage fromChainId glacisPayload) ≠ .ok n' :=
  executed_iff_quorum (e := ⟨Sample.firstMessage, Sample.payload, 42161, Sample.adapter 3, false⟩)
    Sample.network_new Sample.brought_keepsQuorum Sample.brought_noCollision (by decide +kernel)
    (by decide +kernel)

/-! ## A lowered quorum -/

/-- **Anyone can execute what has its quorum.**  A message brought by as many adapters as its
    client asks for now, at least one, and not executed, is executed by a retry with the bytes of
    the message, if the client is a contract outside the model that takes it. -/
theorem retry_executes {l : List (NetworkAction ι)} (hnew : ∀ i, (w i).New (T.chainId i))
    (hl : Machine.Follows (Network.step keccak256 T) (fun _ a => a.Called) w l)
    (hfree : (w.run keccak256 T l).NoCollision keccak256) {e : Delivery}
    (he : e ∈ (w.run keccak256 T l i).deliveries)
    (hwaits : ∀ x ∈ (w.run keccak256 T l i).executions, x.messageId ≠ e.glacisData.messageId)
    (hforeign : (w.run keccak256 T l i).mediators e.glacisData.client = none) {env : Env}
    (hquorum : (env.client e.glacisData.client).getQuorum e.glacisData e.payload
      ((w.run keccak256 T l i).deliveriesOf e.glacisData.messageId).length = .ok q)
    (hpos : 0 < q)
    (hle : q ≤ ((w.run keccak256 T l i).deliveriesOf e.glacisData.messageId).length)
    (htakes : env.receiveMessage e.glacisData.client = true) {glacisPayload : Bytes}
    (hdec : decodeGlacisPayload glacisPayload = some (e.glacisData, e.payload))
    (msgSender : Address) :
    ∃ n', (w.run keccak256 T l i).exec keccak256 (T.site i) env msgSender 0
        (.retryReceiveMessage e.fromChainId glacisPayload) = .ok n' ∧
      n'.executions = (w.run keccak256 T l i).executions ++
        [⟨e.glacisData, e.payload, e.fromChainId, q,
          ((w.run keccak256 T l i).deliveriesOf e.glacisData.messageId).map Delivery.adapter⟩] := by
  have hsound := (network_of_run (I := fun _ => True) (fun _ _ ha => ha)
    (fun _ _ _ _ _ _ _ _ _ _ => trivial) hl (fun j => (hnew j).sound) trivial hfree).1 i
  generalize w.run keccak256 T l i = n at *
  have htally := hsound.tally
  have hcount : (n.router.messageReceipts e.glacisData.messageId).uniqueMessagesReceived
      = (n.deliveriesOf e.glacisData.messageId).length := by
    rw [htally.received, htally.lists, List.length_map]
  have hex : (n.router.messageReceipts e.glacisData.messageId).executed = false := by
    rw [← Bool.not_eq_true, htally.executed]
    intro hmem
    obtain ⟨x, hx, hid⟩ := List.mem_map.mp hmem
    exact hwaits x hx hid
  have hclient : n.clientAt env e.glacisData.client = env.client e.glacisData.client := by
    simp only [Chain.clientAt, hforeign]
  have hq : (n.clientAt env (toAddress e.glacisData.originalTo)).getQuorum e.glacisData e.payload
      (n.router.messageReceipts e.glacisData.messageId).uniqueMessagesReceived = .ok q := by
    rw [hcount]
    exact (congrArg (fun c : Client => c.getQuorum e.glacisData e.payload _) hclient).trans hquorum
  have hid := htally.valid e he
  rw [← hsound.outbox.chainId_eq] at hid
  -- the router's part of the retry
  obtain ⟨R, hR, hdata, hpay⟩ := GlacisRouter.retryReceiveMessage_ok hdec hq
    (by rw [hcount]; exact hle) hpos hex hid
  have hvotes := GlacisRouter.retryReceiveMessage_votes hR
  have hnote : n.toChain.executionOf keccak256 env msgSender
      (.retryReceiveMessage e.fromChainId glacisPayload) = [⟨e.glacisData, e.payload, e.fromChainId,
        q, (n.deliveriesOf e.glacisData.messageId).map Delivery.adapter⟩] := by
    obtain ⟨_, _, _, _, hexec, _⟩ := GlacisRouter.retryReceiveMessage_spec hR
    have hqR : n.quorumOf env R = .ok q := by
      rw [Chain.quorumOf, hdata, hpay]; exact hq
    rw [Chain.executionOf, hR, Chain.noteExecution_ok hqR, if_pos hexec, hvotes, hdata, hpay,
      htally.lists]
  -- the client's part
  have hrun : Chain.executeClient (T.site i) (n.afterRetryReceive keccak256 e.fromChainId R) env R
      e.fromChainId = .ok (n.afterRetryReceive keccak256 e.fromChainId R) := by
    have hnone : n.mediators (toAddress R.glacisData.originalTo) = none := by
      rw [hdata]; exact hforeign
    have haccept : env.receiveMessage (toAddress R.glacisData.originalTo) = true := by
      rw [hdata]; exact htakes
    simp only [Chain.executeClient, Chain.afterRetryReceive, hnone, bind_eq_ok, revertIf_eq_ok,
      pure_eq_ok, haccept]
    exact ⟨(), by decide, trivial⟩
  refine ⟨⟨n.afterRetryReceive keccak256 e.fromChainId R, _⟩, Relay.exec_eq_ok.mpr ⟨?_, rfl⟩, ?_⟩
  · refine Chain.exec_eq_ok.mpr ⟨fun _ => rfl, ?_⟩
    simp only [Chain.dispatch, Chain.retryReceiveMessage, bind_eq_ok]
    exact ⟨R, hR, hrun⟩
  · show n.executions ++ _ = _
    rw [hnote]

/-- One adapter brought the message while the receiver asked for two; now it asks for one. -/
theorem retry_executes_lowered : ∃ n',
    (Sample.network.run Sample.keccak Sample.topology [Sample.routeTwice 2, Sample.bring 2 3]
        .opt).exec Sample.keccak (Sample.topology.site .opt) (Sample.receiverEnv 1)
        Sample.deployer 0 (.retryReceiveMessage 42161
          (encodeGlacisPayload Sample.firstMessage Sample.payload)) = .ok n' ∧
      n'.executions = (Sample.network.run Sample.keccak Sample.topology
        [Sample.routeTwice 2, Sample.bring 2 3] .opt).executions ++
          [⟨Sample.firstMessage, Sample.payload, 42161, 1,
            ((Sample.network.run Sample.keccak Sample.topology [Sample.routeTwice 2,
              Sample.bring 2 3] .opt).deliveriesOf Sample.firstMessage.messageId).map
                Delivery.adapter⟩] :=
  retry_executes (e := ⟨Sample.firstMessage, Sample.payload, 42161, Sample.adapter 3, false⟩)
    Sample.network_new (Sample.network_called (by decide)) (by decide +kernel) (by decide +kernel)
    (by decide +kernel) (Option.isNone_iff_eq_none.mp (by decide +kernel)) (by rfl)
    (Nat.succ_pos 0) (by decide +kernel) (by decide +kernel) (by decide +kernel) Sample.deployer

end CrossRWA
