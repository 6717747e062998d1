/-
  The receiving side of a chain — receipts, deliveries and mints.

  The router executes on `uniqueMessagesReceived == quorum` in one call and on `>= quorum` in the
  other, and a client may be anything.  `Inbox` is what holds for ALL of that: receipts count the
  deliveries of an id, mints are caused by executed deliveries, no two mints have one id, and
  every id delivered to a MEDIATOR is `Settled`: its first delivery executed and minted, its
  later ones did not.

  The crux is `Inbox.fresh_or_settled`: ids commit to the client, so a delivery to a mediator
  meets either a receipt never used or one its first delivery already executed.  Quorum 1 then
  leaves nothing to `retryReceiveMessage` (`Inbox.retry_external`).
-/
import CrossRWA.Outbox

namespace CrossRWA

/-! ## Deliveries -/

namespace Delivery

variable (keccak256 : Bytes → Bytes32)

/-- The inputs hashed for the id of a delivery on the chain `chainId`. -/
def inputs (chainId : Uint256) (e : Delivery) : List Bytes :=
  Chain.hashes keccak256 chainId e.fromChainId e.glacisData e.payload

/-- The id is the one the router computes. -/
def Valid (chainId : Uint256) (e : Delivery) : Prop :=
  e.glacisData.messageId = glacisMessageId keccak256 chainId e.fromChainId e.glacisData.originalTo
    e.payload e.glacisData.originalFrom e.glacisData.nonce

variable {keccak256}

/-- A delivered message is determined by its id. -/
theorem Valid.inj {hashed : List Bytes} (hfree : CollisionFree keccak256 hashed)
    {chainId chainId' : Uint256} {e e' : Delivery} (he : e.Valid keccak256 chainId)
    (he' : e'.Valid keccak256 chainId') (hin : e.inputs keccak256 chainId ⊆ hashed)
    (hin' : e'.inputs keccak256 chainId' ⊆ hashed)
    (hid : e.glacisData.messageId = e'.glacisData.messageId) :
    chainId = chainId' ∧ e.fromChainId = e'.fromChainId ∧ e.glacisData = e'.glacisData ∧
      e.payload = e'.payload := by
  have hhash := he.symm.trans (hid.trans he')
  obtain ⟨hchain, hfrom, hto, hpay, hsender, hnonce⟩ := messageId_inj hfree hin hin' hhash
  refine ⟨hchain, hfrom, ?_, hpay⟩
  obtain ⟨⟨id, nonce, src, dst⟩, _, _, _, _⟩ := e
  obtain ⟨⟨id', nonce', src', dst'⟩, _, _, _, _⟩ := e'
  simp only at hid hto hsender hnonce
  subst hid hto hsender hnonce
  rfl

end Delivery

/-- A mint and the delivery that caused it. -/
structure Mint.CausedBy (k : Mint) (e : Delivery) : Prop where
  glacisData : k.glacisData = e.glacisData
  fromChainId : k.fromChainId = e.fromChainId
  executed : e.executed = true
  mediator : k.mediator = CrossRWA.toAddress e.glacisData.originalTo
  payload : ∃ to_, SimpleTokenMediator.decodeTokenPayload e.payload = some (to_, k.tokenAmount) ∧
    k.toAddress = CrossRWA.toAddress to_

/-! ## The inbox -/

/-- The deliveries of one id, oldest first. -/
def Chain.deliveriesOf (c : Chain) (id : Bytes32) : List Delivery :=
  c.deliveries.filter fun e => decide (e.glacisData.messageId = id)

/-- An id whose first delivery executed and minted, and no later one. -/
structure Settled (c : Chain) (id : Bytes32) : Prop where
  executed : (c.router.messageReceipts id).executed = true
  first : ∃ n, (c.deliveriesOf id).map Delivery.executed = true :: List.replicate n false
  minted : ∃ k ∈ c.mints, k.glacisData.messageId = id

/-- The invariant of a router's receiving side. -/
structure Inbox (keccak256 : Bytes → Bytes32) (chainId : Uint256) (isMediator : Address → Prop)
    (c : Chain) : Prop where
  received : ∀ id, (c.router.messageReceipts id).uniqueMessagesReceived = (c.deliveriesOf id).length
  executed_pos : ∀ id, (c.router.messageReceipts id).executed = true →
    0 < (c.router.messageReceipts id).uniqueMessagesReceived
  flags : ∀ id a, c.router.receivedCustomAdapterMessages id a = true → c.deliveriesOf id ≠ []
  valid : ∀ e ∈ c.deliveries, e.Valid keccak256 chainId
  inputs : ∀ e ∈ c.deliveries, e.inputs keccak256 chainId ⊆ c.hashed
  settled : ∀ e ∈ c.deliveries, isMediator (toAddress e.glacisData.originalTo) →
    Settled c e.glacisData.messageId
  mints_nodup : (c.mints.map fun k => k.glacisData.messageId).Nodup
  caused : ∀ k ∈ c.mints, ∃ e ∈ c.deliveries, k.CausedBy e
  mediators : ∀ k ∈ c.mints, isMediator k.mediator

variable {keccak256 : Bytes → Bytes32} {chainId : Uint256} {isMediator : Address → Prop}
  {c c' : Chain} {site : Site} {env : Env} {msgSender : Address} {fromChainId : Uint256}
  {glacisPayload : Bytes} {R : GlacisRouter.Received}

theorem Chain.mem_deliveriesOf {e : Delivery} {id : Bytes32} :
    e ∈ c.deliveriesOf id ↔ e ∈ c.deliveries ∧ e.glacisData.messageId = id := by
  rw [Chain.deliveriesOf, List.mem_filter, decide_eq_true_eq]

theorem Inbox.initial {router : GlacisRouter} {now : Nat}
    (hreceipts : ∀ id, router.messageReceipts id = ⟨0, false⟩)
    (hflags : ∀ id a, router.receivedCustomAdapterMessages id a = false) :
    Inbox keccak256 chainId isMediator (Chain.initial router now) where
  received := fun id => congrArg MessageData.uniqueMessagesReceived (hreceipts id)
  executed_pos := fun id h => by
    change (router.messageReceipts id).executed = true at h
    rw [hreceipts id] at h
    cases h
  flags := fun id a h => absurd (h.symm.trans (hflags id a)) (by decide)
  valid := fun _ h => absurd h List.not_mem_nil
  inputs := fun _ h => absurd h List.not_mem_nil
  settled := fun _ h => absurd h List.not_mem_nil
  mints_nodup := List.nodup_nil
  caused := fun _ h => absurd h List.not_mem_nil
  mediators := fun _ h => absurd h List.not_mem_nil

/-- Two chains with the same receiving side, the second having hashed no less. -/
structure SameInbox (c c' : Chain) : Prop where
  receipts_eq : c'.router.messageReceipts = c.router.messageReceipts
  flags_eq : c'.router.receivedCustomAdapterMessages = c.router.receivedCustomAdapterMessages
  deliveries_eq : c'.deliveries = c.deliveries
  mints_eq : c'.mints = c.mints
  hashed_sub : c.hashed ⊆ c'.hashed

theorem SameInbox.deliveriesOf_eq (hs : SameInbox c c') (id : Bytes32) :
    c'.deliveriesOf id = c.deliveriesOf id := by
  rw [Chain.deliveriesOf, hs.deliveries_eq]; rfl

theorem Inbox.frame (h : Inbox keccak256 chainId isMediator c) (hs : SameInbox c c') :
    Inbox keccak256 chainId isMediator c' where
  received := fun id => by rw [hs.receipts_eq, hs.deliveriesOf_eq]; exact h.received id
  executed_pos := by rw [hs.receipts_eq]; exact h.executed_pos
  flags := fun id a => by rw [hs.flags_eq, hs.deliveriesOf_eq]; exact h.flags id a
  valid := by rw [hs.deliveries_eq]; exact h.valid
  inputs := by
    rw [hs.deliveries_eq]
    exact fun e he => List.Subset.trans (h.inputs e he) hs.hashed_sub
  settled := by
    rw [hs.deliveries_eq]
    intro e he hmed
    obtain ⟨hex, hfirst, hmint⟩ := h.settled e he hmed
    exact ⟨by rw [hs.receipts_eq]; exact hex, by rw [hs.deliveriesOf_eq]; exact hfirst,
      by rw [hs.mints_eq]; exact hmint⟩
  mints_nodup := by rw [hs.mints_eq]; exact h.mints_nodup
  caused := by rw [hs.mints_eq, hs.deliveries_eq]; exact h.caused
  mediators := by rw [hs.mints_eq]; exact h.mediators

/-- A mint's id has been delivered. -/
theorem Inbox.deliveriesOf_ne_nil (h : Inbox keccak256 chainId isMediator c) {k : Mint}
    (hk : k ∈ c.mints) : c.deliveriesOf k.glacisData.messageId ≠ [] := by
  obtain ⟨e, he, hcause⟩ := h.caused k hk
  exact List.ne_nil_of_mem (Chain.mem_deliveriesOf.mpr ⟨he, by rw [hcause.glacisData]⟩)

/-- A mint's receipt is executed. -/
theorem Inbox.executed_of_mint (h : Inbox keccak256 chainId isMediator c) {k : Mint}
    (hk : k ∈ c.mints) : (c.router.messageReceipts k.glacisData.messageId).executed = true := by
  obtain ⟨e, he, hcause⟩ := h.caused k hk
  have hset := h.settled e he (by rw [← hcause.mediator]; exact h.mediators k hk)
  rw [hcause.glacisData]
  exact hset.executed

/-! ## The step -/

/-- **An id meets a mediator fresh or settled.**  Whatever was delivered under the id before went
    to the same client. -/
theorem Inbox.fresh_or_settled (h : Inbox keccak256 chainId isMediator c) {e' : Delivery}
    {hashed : List Bytes} (hfree : CollisionFree keccak256 hashed) (hold : c.hashed ⊆ hashed)
    (hvalid : e'.Valid keccak256 chainId) (hnew : e'.inputs keccak256 chainId ⊆ hashed) :
    c.deliveriesOf e'.glacisData.messageId = [] ∨
      ∃ e ∈ c.deliveries, e.glacisData = e'.glacisData := by
  rcases List.eq_nil_or_concat' (c.deliveriesOf e'.glacisData.messageId) with hnil | ⟨l, e, hl⟩
  · exact Or.inl hnil
  · have hmem : e ∈ c.deliveriesOf e'.glacisData.messageId := by rw [hl]; simp
    obtain ⟨he, hid⟩ := Chain.mem_deliveriesOf.mp hmem
    obtain ⟨_, _, hdata, _⟩ := Delivery.Valid.inj hfree (h.valid e he) hvalid
      (List.Subset.trans (h.inputs e he) hold) hnew hid
    exact Or.inr ⟨e, he, hdata⟩

/-- A client without code accepts nothing. -/
theorem clientAt_answers {a : Address} (hnone : c.mediators a = none → c.clientAt env a = .noCode)
    {d : GlacisData} {payload : Bytes} {n quorum : Nat}
    (hq : (c.clientAt env a).getQuorum d payload n = .ok quorum) :
    ∃ m, c.mediators a = some m ∧ quorum = m.DEFAULT_QUORUM := by
  cases hm : c.mediators a with
  | none => rw [hnone hm] at hq; cases hq
  | some m =>
    refine ⟨m, rfl, ?_⟩
    simp only [Chain.clientAt, hm] at hq
    exact (Except.ok.inj hq).symm

/-- What a receiving step leaves: one delivery more, and one mint more if a mediator executed. -/
structure ReceiveStep (c c' : Chain) (e' : Delivery) : Prop where
  receipts_eq : c'.router.messageReceipts = Function.update c.router.messageReceipts
    e'.glacisData.messageId
    ⟨(c.router.messageReceipts e'.glacisData.messageId).uniqueMessagesReceived + 1,
      (c.router.messageReceipts e'.glacisData.messageId).executed || e'.executed⟩
  flags_sub : ∀ id a, c'.router.receivedCustomAdapterMessages id a = true →
    c.router.receivedCustomAdapterMessages id a = true ∨ id = e'.glacisData.messageId
  deliveries_eq : c'.deliveries = c.deliveries ++ [e']
  hashed_sub : c.hashed ⊆ c'.hashed

section ReceiveStep

variable {e' : Delivery}

theorem ReceiveStep.deliveriesOf_self (hs : ReceiveStep c c' e') :
    c'.deliveriesOf e'.glacisData.messageId = c.deliveriesOf e'.glacisData.messageId ++ [e'] := by
  rw [Chain.deliveriesOf, hs.deliveries_eq, List.filter_append]
  simp [Chain.deliveriesOf]

theorem ReceiveStep.deliveriesOf_of_ne (hs : ReceiveStep c c' e') {id : Bytes32}
    (hne : e'.glacisData.messageId ≠ id) : c'.deliveriesOf id = c.deliveriesOf id := by
  rw [Chain.deliveriesOf, hs.deliveries_eq, List.filter_append]
  simp [Chain.deliveriesOf, hne]

/-- Other ids stay settled. -/
theorem ReceiveStep.settled_of_ne (hs : ReceiveStep c c' e') {id : Bytes32} (hset : Settled c id)
    (hne : e'.glacisData.messageId ≠ id) (hmints : ∀ k ∈ c.mints, k ∈ c'.mints) :
    Settled c' id where
  executed := by
    rw [hs.receipts_eq, Function.update_of_ne (Ne.symm hne)]
    exact hset.executed
  first := by rw [hs.deliveriesOf_of_ne hne]; exact hset.first
  minted := by
    obtain ⟨k, hk, hid⟩ := hset.minted
    exact ⟨k, hmints k hk, hid⟩

/-- The parts of the inbox that no mint concerns. -/
theorem Inbox.receive (h : Inbox keccak256 chainId isMediator c) (hs : ReceiveStep c c' e')
    (hvalid : e'.Valid keccak256 chainId) (hnew : e'.inputs keccak256 chainId ⊆ c'.hashed)
    (hsettled : ∀ e ∈ c'.deliveries, isMediator (toAddress e.glacisData.originalTo) →
      Settled c' e.glacisData.messageId)
    (hnodup : (c'.mints.map fun k => k.glacisData.messageId).Nodup)
    (hcaused : ∀ k ∈ c'.mints, ∃ e ∈ c'.deliveries, k.CausedBy e)
    (hmediators : ∀ k ∈ c'.mints, isMediator k.mediator) :
    Inbox keccak256 chainId isMediator c' where
  received := by
    intro id
    by_cases hid : e'.glacisData.messageId = id
    · subst hid
      rw [hs.receipts_eq, Function.update_self, hs.deliveriesOf_self, List.length_append,
        h.received]
      rfl
    · rw [hs.receipts_eq, Function.update_of_ne (Ne.symm hid), hs.deliveriesOf_of_ne hid]
      exact h.received id
  executed_pos := by
    intro id hex
    by_cases hid : id = e'.glacisData.messageId
    · subst hid
      rw [hs.receipts_eq, Function.update_self]
      exact Nat.succ_pos _
    · rw [hs.receipts_eq, Function.update_of_ne hid] at hex ⊢
      exact h.executed_pos id hex
  flags := by
    intro id a hflag
    by_cases hid : e'.glacisData.messageId = id
    · subst hid; rw [hs.deliveriesOf_self]; simp
    · rw [hs.deliveriesOf_of_ne hid]
      rcases hs.flags_sub id a hflag with hflag | heq
      · exact h.flags id a hflag
      · exact absurd heq.symm hid
  valid := by
    intro e he
    rw [hs.deliveries_eq] at he
    rcases List.mem_append.mp he with he | he
    · exact h.valid e he
    · rw [List.mem_singleton.mp he]; exact hvalid
  inputs := by
    intro e he
    rw [hs.deliveries_eq] at he
    rcases List.mem_append.mp he with he | he
    · exact List.Subset.trans (h.inputs e he) hs.hashed_sub
    · rw [List.mem_singleton.mp he]; exact hnew
  settled := hsettled
  mints_nodup := hnodup
  caused := hcaused
  mediators := hmediators

/-- **A delivery that mints nothing** keeps the inbox: it goes to an outside client, or its id is
    settled. -/
theorem Inbox.receive_quiet (h : Inbox keccak256 chainId isMediator c)
    (hs : ReceiveStep c c' e') (hfree : CollisionFree keccak256 c'.hashed)
    (hvalid : e'.Valid keccak256 chainId) (hnew : e'.inputs keccak256 chainId ⊆ c'.hashed)
    (hmints : c'.mints = c.mints)
    (hquiet : ¬ isMediator (toAddress e'.glacisData.originalTo) ∨
      Settled c e'.glacisData.messageId ∧ e'.executed = false) :
    Inbox keccak256 chainId isMediator c' := by
  have hmem : ∀ k ∈ c.mints, k ∈ c'.mints := fun k hk => by rw [hmints]; exact hk
  refine h.receive hs hvalid hnew ?_ (by rw [hmints]; exact h.mints_nodup) ?_
    (by rw [hmints]; exact h.mediators)
  · intro e he hmed
    rw [hs.deliveries_eq] at he
    by_cases hid : e'.glacisData.messageId = e.glacisData.messageId
    · -- the id of the new delivery
      rcases hquiet with hout | ⟨hset, hskip⟩
      · rcases List.mem_append.mp he with he | he
        · obtain ⟨_, _, hdata, _⟩ := Delivery.Valid.inj hfree (h.valid e he) hvalid
            (List.Subset.trans (h.inputs e he) hs.hashed_sub) hnew hid.symm
          exact absurd (hdata ▸ hmed) hout
        · rw [List.mem_singleton.mp he] at hmed
          exact absurd hmed hout
      · rw [← hid]
        obtain ⟨n, hfirst⟩ := hset.first
        refine ⟨?_, ⟨n + 1, ?_⟩, ?_⟩
        · rw [hs.receipts_eq, Function.update_self]
          show (_ || _) = true
          rw [hset.executed, Bool.true_or]
        · rw [hs.deliveriesOf_self, List.map_append, hfirst, List.map_singleton, hskip,
            List.replicate_succ', List.cons_append]
        · obtain ⟨k, hk, hkid⟩ := hset.minted
          exact ⟨k, hmem k hk, hkid⟩
    · rcases List.mem_append.mp he with he | he
      · exact hs.settled_of_ne (h.settled e he hmed) hid hmem
      · rw [List.mem_singleton.mp he] at hid
        exact absurd rfl hid
  · intro k hk
    rw [hmints] at hk
    obtain ⟨e, he, hcause⟩ := h.caused k hk
    exact ⟨e, by rw [hs.deliveries_eq]; exact List.mem_append_left _ he, hcause⟩

/-- **The first delivery of an id to a mediator** mints, and settles the id. -/
theorem Inbox.receive_mint (h : Inbox keccak256 chainId isMediator c)
    (hs : ReceiveStep c c' e') (hvalid : e'.Valid keccak256 chainId)
    (hnew : e'.inputs keccak256 chainId ⊆ c'.hashed) {k : Mint} (hcause : k.CausedBy e')
    (hmints : c'.mints = c.mints ++ [k]) (hfresh : c.deliveriesOf e'.glacisData.messageId = [])
    (hmed : isMediator (toAddress e'.glacisData.originalTo)) :
    Inbox keccak256 chainId isMediator c' := by
  have hmem : ∀ x ∈ c.mints, x ∈ c'.mints :=
    fun x hx => by rw [hmints]; exact List.mem_append_left _ hx
  have hkid : k.glacisData.messageId = e'.glacisData.messageId := by rw [hcause.glacisData]
  -- no earlier mint has the id: it would have a delivery
  have hnone : ∀ x ∈ c.mints, x.glacisData.messageId ≠ e'.glacisData.messageId := by
    intro x hx heq
    have hne := h.deliveriesOf_ne_nil hx
    rw [heq] at hne
    exact hne hfresh
  have hcases : ∀ x ∈ c'.mints, x ∈ c.mints ∨ x = k := by
    intro x hx
    rw [hmints] at hx
    rcases List.mem_append.mp hx with hx | hx
    · exact Or.inl hx
    · exact Or.inr (List.mem_singleton.mp hx)
  have hlast : e' ∈ c'.deliveries := by rw [hs.deliveries_eq]; simp
  refine h.receive hs hvalid hnew ?_ ?_ ?_ ?_
  · intro e he hemed
    rw [hs.deliveries_eq] at he
    by_cases hid : e'.glacisData.messageId = e.glacisData.messageId
    · rw [← hid]
      refine ⟨?_, ⟨0, ?_⟩, k, by rw [hmints]; simp, hkid⟩
      · rw [hs.receipts_eq, Function.update_self]
        show (_ || _) = true
        rw [hcause.executed, Bool.or_true]
      · rw [hs.deliveriesOf_self, hfresh, List.nil_append, List.map_singleton, hcause.executed]
        rfl
    · rcases List.mem_append.mp he with he | he
      · exact hs.settled_of_ne (h.settled e he hemed) hid hmem
      · rw [List.mem_singleton.mp he] at hid
        exact absurd rfl hid
  · rw [hmints, List.map_append, List.map_singleton]
    refine List.nodup_append.mpr ⟨h.mints_nodup, List.nodup_singleton _, ?_⟩
    intro a ha b hb
    obtain ⟨x, hx, rfl⟩ := List.mem_map.mp ha
    rw [List.mem_singleton.mp hb, hkid]
    exact hnone x hx
  · intro x hx
    rcases hcases x hx with hx | rfl
    · obtain ⟨e, he, hxc⟩ := h.caused x hx
      exact ⟨e, by rw [hs.deliveries_eq]; exact List.mem_append_left _ he, hxc⟩
    · exact ⟨e', hlast, hcause⟩
  · intro x hx
    rcases hcases x hx with hx | rfl
    · exact h.mediators x hx
    · rw [hcause.mediator]; exact hmed

end ReceiveStep

/-! ## The router's receiving calls -/

/-- The delivery a `receiveMessage` call records. -/
def deliveryOf (msgSender : Address) (fromChainId : Uint256) (R : GlacisRouter.Received) :
    Delivery := ⟨R.glacisData, R.payload, fromChainId, msgSender, R.executed⟩

section Calls

variable (hid : c.router.GLACIS_CHAIN_ID = chainId)
  (hmed : ∀ a m, c.mediators a = some m → isMediator a ∧ m.DEFAULT_QUORUM = 1)
  (hsur : ∀ a, isMediator a → env.client a = Client.noCode)

include hid in
/-- A successful `receiveMessage` is a receiving step with a valid delivery. -/
theorem receiveMessage_step
    (hR : c.router.receiveMessage keccak256 (c.clientAt env) msgSender fromChainId glacisPayload
      = .ok R) (hrouter : c'.router = R.router)
    (hdel : c'.deliveries = c.deliveries ++ [deliveryOf msgSender fromChainId R])
    (hhash : c'.hashed = (c.afterReceive keccak256 msgSender fromChainId R).hashed) :
    ReceiveStep c c' (deliveryOf msgSender fromChainId R) ∧
      (deliveryOf msgSender fromChainId R).Valid keccak256 chainId ∧
      (deliveryOf msgSender fromChainId R).inputs keccak256 chainId ⊆ c'.hashed := by
  obtain ⟨_, _, hvalid, _, hreceipts, hflags, _⟩ := GlacisRouter.receiveMessage_spec hR
  rw [hid] at hvalid
  refine ⟨⟨?_, ?_, hdel, ?_⟩, hvalid, ?_⟩
  · rw [hrouter]; exact hreceipts
  · intro id a hflag
    rw [hrouter, hflags] at hflag
    by_cases heq : id = R.glacisData.messageId
    · exact Or.inr heq
    · rw [Function.update_of_ne heq] at hflag
      exact Or.inl hflag
  · rw [hhash]; exact List.subset_append_left _ _
  · rw [hhash, Delivery.inputs, ← hid]; exact List.subset_append_right _ _

include hmed hsur in
/-- A mediator whose router asked for its quorum is deployed, and its quorum is 1. -/
theorem mediator_answers {a : Address} (hin : isMediator a) {d : GlacisData} {payload : Bytes}
    {n quorum : Nat} (hq : (c.clientAt env a).getQuorum d payload n = .ok quorum) :
    ∃ m, c.mediators a = some m ∧ quorum = 1 := by
  have hnone : c.mediators a = none → c.clientAt env a = .noCode := by
    intro hnone
    simp only [Chain.clientAt, hnone]
    exact hsur a hin
  obtain ⟨m, hm, hquorum⟩ := clientAt_answers hnone hq
  exact ⟨m, hm, hquorum.trans (hmed a m hm).2⟩

include hid hmed hsur

/-- **`receiveMessage` keeps the inbox**, whoever delivers. -/
theorem Inbox.receiveMessage (h : Inbox keccak256 chainId isMediator c)
    (hR : c.router.receiveMessage keccak256 (c.clientAt env) msgSender fromChainId glacisPayload
      = .ok R)
    (hskip : R.executed = false → c' = c.afterReceive keccak256 msgSender fromChainId R)
    (hexec : R.executed = true →
      Executed site (c.afterReceive keccak256 msgSender fromChainId R) R fromChainId c')
    (hfree : CollisionFree keccak256 c'.hashed) : Inbox keccak256 chainId isMediator c' := by
  have hsame : c'.router = R.router ∧
      c'.deliveries = c.deliveries ++ [deliveryOf msgSender fromChainId R] ∧
      c'.hashed = (c.afterReceive keccak256 msgSender fromChainId R).hashed := by
    cases hex : R.executed with
    | false => rw [hskip hex]; exact ⟨rfl, rfl, rfl⟩
    | true =>
      obtain ⟨h1, h2, h3, _⟩ := (hexec hex).same
      exact ⟨h1, h2, h3⟩
  obtain ⟨hstep, hvalid, hnew⟩ := receiveMessage_step hid hR hsame.1 hsame.2.1 hsame.2.2
  obtain ⟨_, _, _, ⟨quorum, hquorum, hexecuted⟩, _⟩ := GlacisRouter.receiveMessage_spec hR
  by_cases hin : isMediator (toAddress R.glacisData.originalTo)
  · obtain ⟨m, hm, rfl⟩ := mediator_answers hmed hsur hin hquorum
    rcases h.fresh_or_settled hfree hstep.hashed_sub hvalid hnew with hfresh | ⟨e, he, hdata⟩
    · -- never delivered: the receipt is unused, so this delivery executes
      have hzero : (c.router.messageReceipts R.glacisData.messageId).uniqueMessagesReceived = 0 := by
        rw [h.received]; exact congrArg List.length hfresh
      have hnot : (c.router.messageReceipts R.glacisData.messageId).executed = false := by
        cases hex : (c.router.messageReceipts R.glacisData.messageId).executed with
        | false => rfl
        | true => have := h.executed_pos _ hex; omega
      have hex : R.executed = true := by rw [hexecuted, hzero, hnot]; rfl
      cases hexec hex with
      | external hnone =>
        change c.mediators _ = none at hnone
        rw [hm] at hnone; cases hnone
      | @mint m t t' to_ tokenAmount _ _ hpayload _ _ _ =>
        have hcause : Mint.CausedBy ⟨toAddress R.glacisData.originalTo, R.glacisData, fromChainId,
            toAddress to_, tokenAmount⟩ (deliveryOf msgSender fromChainId R) :=
          ⟨rfl, rfl, hex, rfl, to_, hpayload, rfl⟩
        exact h.receive_mint hstep hvalid hnew hcause rfl hfresh hin
    · -- delivered before: its first delivery executed it
      have hset : Settled c R.glacisData.messageId := by
        have hset := h.settled e he (by rw [hdata]; exact hin)
        rwa [hdata] at hset
      have hex : R.executed = false := by rw [hexecuted, hset.executed]; simp
      have hmints : c'.mints = c.mints := by rw [hskip hex]; rfl
      exact h.receive_quiet hstep hfree hvalid hnew hmints (Or.inr ⟨hset, hex⟩)
  · have hmints : c'.mints = c.mints := by
      cases hex : R.executed with
      | false => rw [hskip hex]; rfl
      | true =>
        cases hexec hex with
        | external _ => rfl
        | mint hm _ _ _ _ _ => exact absurd (hmed _ _ hm).1 hin
    exact h.receive_quiet hstep hfree hvalid hnew hmints (Or.inl hin)

omit hmed hsur in
/-- **`retryReceiveMessage` never reaches a mediator**: with quorum 1 a receipt that counted a
    delivery has executed it. -/
theorem Inbox.retry_external (h : Inbox keccak256 chainId isMediator c)
    (hR : c.router.retryReceiveMessage keccak256 (c.clientAt env) fromChainId glacisPayload
      = .ok R)
    (hfree : CollisionFree keccak256 (c.afterRetryReceive keccak256 fromChainId R).hashed) :
    ¬ isMediator (toAddress R.glacisData.originalTo) := by
  intro hin
  obtain ⟨_, hvalid, ⟨quorum, hquorum, hpos, hle⟩, hnot, _, _⟩ :=
    GlacisRouter.retryReceiveMessage_spec hR
  rw [hid] at hvalid
  -- the message as if some account had delivered it
  have hvalid' : (deliveryOf 0 fromChainId R).Valid keccak256 chainId := hvalid
  have hnew : (deliveryOf 0 fromChainId R).inputs keccak256 chainId
      ⊆ (c.afterRetryReceive keccak256 fromChainId R).hashed := by
    rw [Delivery.inputs, ← hid]
    exact List.subset_append_right _ _
  rcases h.fresh_or_settled hfree (List.subset_append_left _ _) hvalid' hnew
    with hfresh | ⟨e, he, hdata⟩
  · have hzero : (c.router.messageReceipts R.glacisData.messageId).uniqueMessagesReceived = 0 := by
      rw [h.received]; exact congrArg List.length hfresh
    omega
  · have hset := h.settled e he (by rw [hdata]; exact hin)
    rw [hdata] at hset
    exact absurd (hset.executed.symm.trans hnot) (by decide)

omit hsur in
/-- **`retryReceiveMessage` keeps the inbox.** -/
theorem Inbox.retryReceiveMessage (h : Inbox keccak256 chainId isMediator c)
    (hR : c.router.retryReceiveMessage keccak256 (c.clientAt env) fromChainId glacisPayload
      = .ok R)
    (hexec : Executed site (c.afterRetryReceive keccak256 fromChainId R) R fromChainId c')
    (hfree : CollisionFree keccak256 c'.hashed) :
    c' = c.afterRetryReceive keccak256 fromChainId R ∧ Inbox keccak256 chainId isMediator c' := by
  have hhash := hexec.same.2.2.1
  have hout := h.retry_external hid hR (hhash ▸ hfree)
  have hc' : c' = c.afterRetryReceive keccak256 fromChainId R := by
    cases hexec with
    | external _ => rfl
    | mint hm _ _ _ _ _ => exact absurd (hmed _ _ hm).1 hout
  refine ⟨hc', ?_⟩
  obtain ⟨_, _, ⟨quorum, _, hpos, hle⟩, _, _, hrouter⟩ := GlacisRouter.retryReceiveMessage_spec hR
  have hreceipts : c'.router.messageReceipts = Function.update c.router.messageReceipts
      R.glacisData.messageId
      ⟨(c.router.messageReceipts R.glacisData.messageId).uniqueMessagesReceived, true⟩ := by
    rw [hc']
    show R.router.messageReceipts = _
    rw [hrouter]
  have hcount : ∀ id, (c'.router.messageReceipts id).uniqueMessagesReceived
      = (c.router.messageReceipts id).uniqueMessagesReceived := by
    intro id
    rw [hreceipts]
    by_cases heq : id = R.glacisData.messageId
    · subst heq; rw [Function.update_self]
    · rw [Function.update_of_ne heq]
  have hflags : c'.router.receivedCustomAdapterMessages = c.router.receivedCustomAdapterMessages := by
    rw [hc']
    show R.router.receivedCustomAdapterMessages = _
    rw [hrouter]
  have hsub : c.hashed ⊆ c'.hashed := by rw [hhash]; exact List.subset_append_left _ _
  obtain ⟨hdel, hmints⟩ : c'.deliveries = c.deliveries ∧ c'.mints = c.mints := by
    rw [hc']; exact ⟨rfl, rfl⟩
  have hof : ∀ id, c'.deliveriesOf id = c.deliveriesOf id := by
    intro id; rw [Chain.deliveriesOf, hdel]; rfl
  refine ⟨?_, ?_, ?_, ?_, ?_, ?_, ?_, ?_, ?_⟩
  · intro id; rw [hcount, hof]; exact h.received id
  · intro id hex
    rw [hcount]
    by_cases heq : id = R.glacisData.messageId
    · subst heq; omega
    · rw [hreceipts, Function.update_of_ne heq] at hex
      exact h.executed_pos id hex
  · intro id a hflag
    rw [hflags] at hflag
    rw [hof]
    exact h.flags id a hflag
  · rw [hdel]; exact h.valid
  · rw [hdel]; exact fun e he => List.Subset.trans (h.inputs e he) hsub
  · rw [hdel]
    intro e he hemed
    obtain ⟨hex, hfirst, hmint⟩ := h.settled e he hemed
    refine ⟨?_, by rw [hof]; exact hfirst, by rw [hmints]; exact hmint⟩
    rw [hreceipts]
    by_cases heq : e.glacisData.messageId = R.glacisData.messageId
    · rw [heq, Function.update_self]
    · rw [Function.update_of_ne heq]; exact hex
  · rw [hmints]; exact h.mints_nodup
  · rw [hmints, hdel]; exact h.caused
  · rw [hmints]; exact h.mediators

end Calls

end CrossRWA
