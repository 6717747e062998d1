/-
  The receipts of a router — redundancy for any clients.

  A client may ask for any quorum, and for another one at the next call; a message may be executed
  by the delivery that reaches it or by a retry.  `Tally` is what holds for ALL of that: the list
  of a message's adapters is the list of its deliveries and has no adapter twice, the receipt
  counts it, and what was executed was executed once, with a quorum the list had reached.

  * `Tally.receives` is the step lemma.  It asks nobody to be called by anyone in particular, and
    no client to answer twice in the same way.
-/
import CrossRWA.Redundancy.Relay
import CrossRWA.Inbox
import CrossRWA.Lib.Machine
import CrossRWA.Lib.Quorum

namespace CrossRWA

variable {keccak256 : Bytes → Bytes32} {chainId : Uint256} {site : Site} {n n' : Relay} {env : Env}
  {msgSender : Address} {value : Nat} {call : Call}

/-! ## The invariant -/

/-- The id of an executed message. -/
def Execution.messageId (x : Execution) : Bytes32 := x.glacisData.messageId

/-- The delivery of an executed message by one adapter. -/
def Execution.by (x : Execution) (adapter : Address) : Delivery :=
  ⟨x.glacisData, x.payload, x.fromChainId, adapter, true⟩

/-- An execution that a quorum of the message's adapters stands behind. -/
structure Execution.Backed (keccak256 : Bytes → Bytes32) (chainId : Uint256) (n : Relay)
    (x : Execution) : Prop where
  quorum_pos : 0 < x.quorum
  quorum_le : x.quorum ≤ x.fromAdapters.length
  adapters : x.fromAdapters <+: n.router.receivedAdaptersList x.messageId
  valid : ∀ a, (x.by a).Valid keccak256 chainId
  inputs : ∀ a, (x.by a).inputs keccak256 chainId ⊆ n.hashed

structure Tally (keccak256 : Bytes → Bytes32) (chainId : Uint256) (n : Relay) : Prop where
  lists : ∀ id, n.router.receivedAdaptersList id = (n.deliveriesOf id).map Delivery.adapter
  lists_nodup : ∀ id, (n.router.receivedAdaptersList id).Nodup
  received : ∀ id, (n.router.messageReceipts id).uniqueMessagesReceived =
    (n.router.receivedAdaptersList id).length
  flags : ∀ id a, n.router.receivedCustomAdapterMessages id a = true ↔
    a ∈ n.router.receivedAdaptersList id
  valid : ∀ e ∈ n.deliveries, e.Valid keccak256 chainId
  inputs : ∀ e ∈ n.deliveries, e.inputs keccak256 chainId ⊆ n.hashed
  executed : ∀ id, (n.router.messageReceipts id).executed = true ↔
    id ∈ n.executions.map Execution.messageId
  executions_nodup : (n.executions.map Execution.messageId).Nodup
  backed : ∀ x ∈ n.executions, x.Backed keccak256 chainId n

/-- A relay that has received nothing. -/
structure Relay.Fresh (n : Relay) : Prop where
  receipts : ∀ id, n.router.messageReceipts id = ⟨0, false⟩
  flags : ∀ id a, n.router.receivedCustomAdapterMessages id a = false
  lists : ∀ id, n.router.receivedAdaptersList id = []
  deliveries : n.deliveries = []
  executions : n.executions = []

theorem Tally.initial (h : n.Fresh) : Tally keccak256 chainId n where
  lists := by
    intro id
    rw [h.lists, Chain.deliveriesOf, h.deliveries]
    rfl
  lists_nodup := by intro id; rw [h.lists]; exact List.nodup_nil
  received := by intro id; rw [h.lists, h.receipts]; rfl
  flags := by
    intro id a
    rw [h.flags, h.lists]
    exact ⟨fun hf => absurd hf (by decide), fun hm => absurd hm List.not_mem_nil⟩
  valid := by rw [h.deliveries]; exact fun _ he => absurd he List.not_mem_nil
  inputs := by rw [h.deliveries]; exact fun _ he => absurd he List.not_mem_nil
  executed := by
    intro id
    rw [h.receipts, h.executions]
    exact ⟨fun hf => absurd hf (by decide), fun hm => absurd hm List.not_mem_nil⟩
  executions_nodup := by rw [h.executions]; exact List.nodup_nil
  backed := by rw [h.executions]; exact fun _ hx => absurd hx List.not_mem_nil

/-! ## One step -/

theorem Execution.Backed.mono {x : Execution} (h : x.Backed keccak256 chainId n)
    (hlists : ∀ id, n.router.receivedAdaptersList id <+: n'.router.receivedAdaptersList id)
    (hhashed : n.hashed ⊆ n'.hashed) : x.Backed keccak256 chainId n' where
  quorum_pos := h.quorum_pos
  quorum_le := h.quorum_le
  adapters := h.adapters.trans (hlists _)
  valid := h.valid
  inputs := fun a => List.Subset.trans (h.inputs a) hhashed

theorem Tally.quiet (h : Tally keccak256 chainId n) (hs : SameReceipts n.toChain n'.toChain)
    (heq : n'.executions = n.executions) : Tally keccak256 chainId n' where
  lists := by
    intro id
    rw [hs.lists_eq, h.lists, Chain.deliveriesOf, Chain.deliveriesOf, hs.deliveries_eq]
  lists_nodup := by rw [hs.lists_eq]; exact h.lists_nodup
  received := by rw [hs.lists_eq, hs.router_eq]; exact h.received
  flags := by rw [hs.lists_eq, hs.flags_eq]; exact h.flags
  valid := by rw [hs.deliveries_eq]; exact h.valid
  inputs := by
    rw [hs.deliveries_eq]
    exact fun e he => List.Subset.trans (h.inputs e he) hs.hashed_sub
  executed := by rw [hs.router_eq, heq]; exact h.executed
  executions_nodup := by rw [heq]; exact h.executions_nodup
  backed := by
    rw [heq]
    refine fun x hx => (h.backed x hx).mono (fun id => ?_) hs.hashed_sub
    rw [hs.lists_eq]

/-- One execution more of a message that had none. -/
theorem Tally.nodup_append (h : Tally keccak256 chainId n) {x : Execution}
    (hex : (n.router.messageReceipts x.messageId).executed = false) :
    ((n.executions ++ [x]).map Execution.messageId).Nodup := by
  rw [List.map_append, List.map_singleton]
  refine List.nodup_append.mpr ⟨h.executions_nodup, List.nodup_singleton _, ?_⟩
  intro a ha b hb
  rw [List.mem_singleton.mp hb]
  rintro rfl
  rw [(h.executed _).mpr ha] at hex
  cases hex

section Delivery

variable {fromChainId : Uint256} {glacisPayload : Bytes} {R : GlacisRouter.Received}

/-- The delivery of a `receiveMessage`, as a step of the receipts. -/
theorem receiveStep_of_delivery
    (h : n.router.receiveMessage keccak256 (n.clientAt env) msgSender fromChainId glacisPayload
      = .ok R) (hrouter : n'.router = R.router)
    (hdeliveries : n'.deliveries = n.deliveries ++
      [⟨R.glacisData, R.payload, fromChainId, msgSender, R.executed⟩])
    (hhashed : n.hashed ⊆ n'.hashed) :
    ReceiveStep n.toChain n'.toChain
      ⟨R.glacisData, R.payload, fromChainId, msgSender, R.executed⟩ := by
  obtain ⟨_, _, _, _, hreceipts, hflags, _⟩ := GlacisRouter.receiveMessage_spec h
  refine ⟨by rw [hrouter, hreceipts], fun id a hflag => ?_, hdeliveries, hhashed⟩
  rw [hrouter, hflags] at hflag
  by_cases hid : id = R.glacisData.messageId
  · exact Or.inr hid
  · rw [Function.update_of_ne hid] at hflag
    exact Or.inl hflag

/-- **A delivery keeps the tally.** -/
theorem Tally.delivery (h : Tally keccak256 chainId n)
    (hchain : n.router.GLACIS_CHAIN_ID = chainId) {quorum : Nat}
    (hR : n.router.receiveMessage keccak256 (n.clientAt env) msgSender fromChainId glacisPayload
      = .ok R) (hquorum : n.quorumOf env R = .ok quorum) (hrouter : n'.router = R.router)
    (hdeliveries : n'.deliveries = n.deliveries ++
      [⟨R.glacisData, R.payload, fromChainId, msgSender, R.executed⟩])
    (hhashed : n'.hashed = n.hashed ++
      Chain.hashes keccak256 n.router.GLACIS_CHAIN_ID fromChainId R.glacisData R.payload)
    (heq : n'.executions = n.executions ++ if R.executed then
      [⟨R.glacisData, R.payload, fromChainId, quorum, R.fromAdapters⟩] else []) :
    Tally keccak256 chainId n' := by
  have hsub : n.hashed ⊆ n'.hashed := by rw [hhashed]; exact List.subset_append_left _ _
  have hstep := receiveStep_of_delivery hR hrouter hdeliveries hsub
  obtain ⟨_, _, hid, ⟨quorum', hq', hex⟩, _, hflags, _⟩ := GlacisRouter.receiveMessage_spec hR
  obtain rfl : quorum' = quorum := Except.ok.inj (hq'.symm.trans hquorum)
  obtain ⟨hflag, hfrom, hlist⟩ := GlacisRouter.receiveMessage_votes hR
  rw [← hrouter] at hlist hflags
  set id := R.glacisData.messageId with hiddef
  -- the two lists that differ
  have hself : n'.router.receivedAdaptersList id = n.router.receivedAdaptersList id ++ [msgSender] := by
    rw [hlist, Function.update_self, hfrom]
  have hother : ∀ k, k ≠ id → n'.router.receivedAdaptersList k = n.router.receivedAdaptersList k :=
    fun k hk => by rw [hlist, Function.update_of_ne hk]
  have hprefix : ∀ k, n.router.receivedAdaptersList k <+: n'.router.receivedAdaptersList k := by
    intro k
    by_cases hk : k = id
    · subst hk; rw [hself]; exact List.prefix_append _ _
    · rw [hother k hk]
  have hfresh : msgSender ∉ n.router.receivedAdaptersList id := by
    rw [← h.flags, hflag]; decide
  have hexecuted : (n'.router.messageReceipts id).executed =
      ((n.router.messageReceipts id).executed || R.executed) := by
    rw [hstep.receipts_eq, Function.update_self]
  -- an execution here is the first one
  have hfirst : R.executed = true → (n.router.messageReceipts id).executed = false ∧
      (n.router.messageReceipts id).uniqueMessagesReceived + 1 = quorum' := by
    intro ht
    rw [ht] at hex
    exact (of_decide_eq_true hex.symm).symm
  refine ⟨?_, ?_, ?_, ?_, ?_, ?_, ?_, ?_, ?_⟩
  · intro k
    by_cases hk : k = id
    · subst hk
      rw [hself, hstep.deliveriesOf_self, List.map_append, ← h.lists]
      rfl
    · rw [hother k hk, hstep.deliveriesOf_of_ne (Ne.symm hk)]
      exact h.lists k
  · intro k
    by_cases hk : k = id
    · subst hk
      rw [hself]
      refine List.nodup_append.mpr ⟨h.lists_nodup id, List.nodup_singleton _, ?_⟩
      intro a ha b hb
      rw [List.mem_singleton.mp hb]
      rintro rfl
      exact hfresh ha
    · rw [hother k hk]; exact h.lists_nodup k
  · intro k
    by_cases hk : k = id
    · subst hk
      rw [hself, hstep.receipts_eq, Function.update_self, List.length_append, ← h.received]
      rfl
    · rw [hother k hk, hstep.receipts_eq, Function.update_of_ne hk]
      exact h.received k
  · intro k a
    by_cases hk : k = id
    · subst hk
      rw [hself, hflags, Function.update_self, List.mem_append, List.mem_singleton]
      by_cases ha : a = msgSender
      · rw [ha, Function.update_self]; simp
      · rw [Function.update_of_ne ha, h.flags]; simp [ha]
    · rw [hother k hk, hflags, Function.update_of_ne hk]
      exact h.flags k a
  · intro e he
    rw [hdeliveries] at he
    rcases List.mem_append.mp he with he | he
    · exact h.valid e he
    · rw [List.mem_singleton.mp he, ← hchain]; exact hid
  · intro e he
    rw [hdeliveries] at he
    rcases List.mem_append.mp he with he | he
    · exact List.Subset.trans (h.inputs e he) hsub
    · rw [List.mem_singleton.mp he, hhashed, hchain]; exact List.subset_append_right _ _
  · intro k
    rw [heq, List.map_append, List.mem_append, ← h.executed]
    by_cases hk : k = id
    · subst hk
      rw [hexecuted, Bool.or_eq_true]
      cases R.executed <;> simp [Execution.messageId, hiddef]
    · rw [hstep.receipts_eq, Function.update_of_ne hk]
      cases R.executed <;> simp [Execution.messageId, hiddef ▸ hk]
  · rw [heq]
    cases ht : R.executed with
    | false => rw [if_neg (by decide), List.append_nil]; exact h.executions_nodup
    | true => exact h.nodup_append (hfirst ht).1
  · intro x hx
    rw [heq] at hx
    rcases List.mem_append.mp hx with hx | hx
    · exact (h.backed x hx).mono hprefix hsub
    · cases ht : R.executed with
      | false => rw [ht, if_neg (by decide)] at hx; exact absurd hx List.not_mem_nil
      | true =>
        rw [ht, if_pos rfl] at hx
        rw [List.mem_singleton.mp hx]
        have hcount := (hfirst ht).2
        rw [h.received] at hcount
        refine ⟨?_, ?_, ?_, fun a => ?_, fun a => ?_⟩
        · show 0 < quorum'
          omega
        · show quorum' ≤ R.fromAdapters.length
          rw [hfrom, List.length_append]
          exact hcount.symm.le
        · show R.fromAdapters <+: n'.router.receivedAdaptersList id
          rw [hself, hfrom]
        · rw [← hchain]; exact hid
        · rw [hhashed, hchain]; exact List.subset_append_right _ _

/-- **A retried execution keeps the tally.** -/
theorem Tally.retry (h : Tally keccak256 chainId n)
    (hchain : n.router.GLACIS_CHAIN_ID = chainId) {quorum : Nat}
    (hR : n.router.retryReceiveMessage keccak256 (n.clientAt env) fromChainId glacisPayload = .ok R)
    (hquorum : n.quorumOf env R = .ok quorum) (hrouter : n'.router = R.router)
    (hdeliveries : n'.deliveries = n.deliveries)
    (hhashed : n'.hashed = n.hashed ++
      Chain.hashes keccak256 n.router.GLACIS_CHAIN_ID fromChainId R.glacisData R.payload)
    (heq : n'.executions = n.executions ++
      [⟨R.glacisData, R.payload, fromChainId, quorum, R.fromAdapters⟩]) :
    Tally keccak256 chainId n' := by
  have hsub : n.hashed ⊆ n'.hashed := by rw [hhashed]; exact List.subset_append_left _ _
  obtain ⟨_, hid, ⟨quorum', hq', hpos, hle⟩, hex, _, hr⟩ := GlacisRouter.retryReceiveMessage_spec hR
  obtain rfl : quorum' = quorum := Except.ok.inj (hq'.symm.trans hquorum)
  have hfrom := GlacisRouter.retryReceiveMessage_votes hR
  rw [hr] at hrouter
  -- only the executed flag of the one receipt differs
  have hreceipts : ∀ k, (n'.router.messageReceipts k).uniqueMessagesReceived =
      (n.router.messageReceipts k).uniqueMessagesReceived := by
    intro k
    rw [hrouter]
    by_cases hk : k = R.glacisData.messageId
    · subst hk; simp
    · simp [hk]
  have hlists : n'.router.receivedAdaptersList = n.router.receivedAdaptersList := by rw [hrouter]
  have hflags : n'.router.receivedCustomAdapterMessages = n.router.receivedCustomAdapterMessages := by
    rw [hrouter]
  refine ⟨?_, by rw [hlists]; exact h.lists_nodup, ?_, by rw [hlists, hflags]; exact h.flags,
    by rw [hdeliveries]; exact h.valid, ?_, ?_, ?_, ?_⟩
  · intro k
    rw [hlists, h.lists, Chain.deliveriesOf, Chain.deliveriesOf, hdeliveries]
  · intro k
    rw [hreceipts, hlists, h.received]
  · rw [hdeliveries]
    exact fun e he => List.Subset.trans (h.inputs e he) hsub
  · intro k
    rw [heq, List.map_append, List.mem_append, ← h.executed]
    by_cases hk : k = R.glacisData.messageId
    · subst hk
      rw [hrouter]
      simp [Execution.messageId]
    · rw [hrouter]
      simp [Execution.messageId, hk]
  · rw [heq]
    exact h.nodup_append hex
  · intro x hx
    rw [heq] at hx
    rcases List.mem_append.mp hx with hx | hx
    · exact (h.backed x hx).mono (fun id => by rw [hlists]) hsub
    · rw [List.mem_singleton.mp hx]
      refine ⟨hpos, ?_, ?_, fun a => ?_, fun a => ?_⟩
      · show quorum' ≤ R.fromAdapters.length
        rw [hfrom, ← h.received]
        exact hle
      · show R.fromAdapters <+: n'.router.receivedAdaptersList R.glacisData.messageId
        rw [hlists, hfrom]
      · rw [← hchain]; exact hid
      · rw [hhashed, hchain]; exact List.subset_append_right _ _

end Delivery

/-- **One call keeps the tally.** -/
theorem Tally.receives (h : Tally keccak256 chainId n)
    (hchain : n.router.GLACIS_CHAIN_ID = chainId)
    (hs : Receives keccak256 n env msgSender call n') : Tally keccak256 chainId n' := by
  cases hs with
  | quiet same heq => exact h.quiet same heq
  | delivery hR hquorum hrouter hdeliveries hhashed heq =>
    exact h.delivery hchain hR hquorum hrouter hdeliveries hhashed heq
  | retry hR hquorum hrouter hdeliveries hhashed heq =>
    exact h.retry hchain hR hquorum hrouter hdeliveries hhashed heq

end CrossRWA
