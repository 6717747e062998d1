/-
  The sending side of a chain — what its router's nonces, senders and packets say.

  * `Outbox` is the invariant of the routed messages: distinct nonces below the router's counter,
    ids that commit to the message, remembered senders that sent, and no packet with anything but
    a routed message in it.
  * `Transfers` ties the mediators' `sendCrossChain` calls to these messages: a mediator's messages
    are exactly those of its transfers, and the router remembers their sender.

  Both are kept by `route` and `routeRetry` of ANY sender other than the zero address
  (`Outbox.afterRoute`, `Outbox.afterRetry`); nothing here asks who may call.
-/
import CrossRWA.Effects

namespace CrossRWA

/-! ## Messages -/

namespace Message

/-- The bytes a router hands to the adapters for a message. -/
def encode (m : Message) : Bytes :=
  encodeGlacisPayload ⟨m.messageId, m.nonce, toBytes32 m.sender, m.to_⟩ m.payload

variable (keccak256 : Bytes → Bytes32)

/-- The inputs hashed for the id of a message routed on the chain `chainId`. -/
def inputs (chainId : Uint256) (m : Message) : List Bytes :=
  messageIdInputs keccak256 m.toChainId chainId m.to_ m.payload (toBytes32 m.sender) m.nonce

/-- The id is the one the router computes. -/
def Valid (chainId : Uint256) (m : Message) : Prop :=
  m.messageId =
    glacisMessageId keccak256 m.toChainId chainId m.to_ m.payload (toBytes32 m.sender) m.nonce

variable {keccak256}

/-- A message is determined by its id. -/
theorem Valid.inj {hashed : List Bytes} (hfree : CollisionFree keccak256 hashed)
    {chainId chainId' : Uint256} {m m' : Message} (hm : m.Valid keccak256 chainId)
    (hm' : m'.Valid keccak256 chainId') (hin : m.inputs keccak256 chainId ⊆ hashed)
    (hin' : m'.inputs keccak256 chainId' ⊆ hashed) (hid : m.messageId = m'.messageId) :
    chainId = chainId' ∧ m = m' := by
  have hhash := hm.symm.trans (hid.trans hm')
  obtain ⟨hchain, hfrom, hto, hpay, hsender, hnonce⟩ := messageId_inj hfree hin hin' hhash
  refine ⟨hfrom, ?_⟩
  cases m
  cases m'
  simp only at hchain hto hpay hnonce hid
  subst hchain hto hpay hnonce hid
  obtain rfl := toBytes32_inj hsender
  rfl

end Message

/-! ## The outbox -/

/-- The invariant of a router's sending side. -/
structure Outbox (keccak256 : Bytes → Bytes32) (chainId : Uint256) (c : Chain) : Prop where
  chainId_eq : c.router.GLACIS_CHAIN_ID = chainId
  nonce_lt : ∀ m ∈ c.routed, m.nonce.toNat < c.router.nonce
  nonce_nodup : (c.routed.map Message.nonce).Nodup
  valid : ∀ m ∈ c.routed, m.Valid keccak256 chainId
  inputs : ∀ m ∈ c.routed, m.inputs keccak256 chainId ⊆ c.hashed
  senders : ∀ id, c.router.messageSenders id ≠ 0 →
    ∃ m ∈ c.routed, m.messageId = id ∧ m.sender = c.router.messageSenders id
  packets : ∀ pk ∈ c.packets, ∃ m ∈ c.routed, pk.payload = m.encode

/-- The mediators' transfers among the routed messages. -/
structure Transfers (isMediator : Address → Prop) (c : Chain) : Prop where
  sublist : (c.sends.map Transfer.message).Sublist c.routed
  complete : ∀ m ∈ c.routed, isMediator m.sender → ∃ t ∈ c.sends, t.message = m
  sender : ∀ t ∈ c.sends, isMediator t.message.sender
  payload : ∀ t ∈ c.sends,
    t.message.payload = SimpleTokenMediator.packTokenPayload t.to_ t.tokenAmount
  retryable : ∀ t ∈ c.sends, c.router.messageSenders t.message.messageId = t.message.sender

variable {keccak256 : Bytes → Bytes32} {chainId : Uint256} {isMediator : Address → Prop}
  {c c' : Chain}

theorem Outbox.initial {router : GlacisRouter} {now : Nat}
    (hid : router.GLACIS_CHAIN_ID = chainId) (hsenders : ∀ id, router.messageSenders id = 0) :
    Outbox keccak256 chainId (Chain.initial router now) where
  chainId_eq := hid
  nonce_lt := fun _ h => absurd h List.not_mem_nil
  nonce_nodup := List.nodup_nil
  valid := fun _ h => absurd h List.not_mem_nil
  inputs := fun _ h => absurd h List.not_mem_nil
  senders := fun id h => absurd (hsenders id) h
  packets := fun _ h => absurd h List.not_mem_nil

theorem Transfers.initial (isMediator : Address → Prop) (router : GlacisRouter) (now : Nat) :
    Transfers isMediator (Chain.initial router now) where
  sublist := List.Sublist.refl _
  complete := fun _ h => absurd h List.not_mem_nil
  sender := fun _ h => absurd h List.not_mem_nil
  payload := fun _ h => absurd h List.not_mem_nil
  retryable := fun _ h => absurd h List.not_mem_nil

/-- Two chains with the same sending side, the second having hashed no less. -/
structure SameOutbox (c c' : Chain) : Prop where
  chainId_eq : c'.router.GLACIS_CHAIN_ID = c.router.GLACIS_CHAIN_ID
  nonce_eq : c'.router.nonce = c.router.nonce
  senders_eq : c'.router.messageSenders = c.router.messageSenders
  packets_eq : c'.packets = c.packets
  routed_eq : c'.routed = c.routed
  sends_eq : c'.sends = c.sends
  hashed_sub : c.hashed ⊆ c'.hashed

theorem Outbox.frame (h : Outbox keccak256 chainId c) (hs : SameOutbox c c') :
    Outbox keccak256 chainId c' where
  chainId_eq := hs.chainId_eq.trans h.chainId_eq
  nonce_lt := by rw [hs.routed_eq, hs.nonce_eq]; exact h.nonce_lt
  nonce_nodup := by rw [hs.routed_eq]; exact h.nonce_nodup
  valid := by rw [hs.routed_eq]; exact h.valid
  inputs := by rw [hs.routed_eq]; exact fun m hm => List.Subset.trans (h.inputs m hm) hs.hashed_sub
  senders := by rw [hs.senders_eq, hs.routed_eq]; exact h.senders
  packets := by rw [hs.packets_eq, hs.routed_eq]; exact h.packets

theorem Transfers.frame (h : Transfers isMediator c) (hs : SameOutbox c c') :
    Transfers isMediator c' where
  sublist := by rw [hs.sends_eq, hs.routed_eq]; exact h.sublist
  complete := by rw [hs.sends_eq, hs.routed_eq]; exact h.complete
  sender := by rw [hs.sends_eq]; exact h.sender
  payload := by rw [hs.sends_eq]; exact h.payload
  retryable := by rw [hs.sends_eq, hs.senders_eq]; exact h.retryable

/-! ## Routing -/

section Routing

variable {sendMessage : Packet → Bool} {sender refundAddress : Address} {value : Nat}
  {toChainId : Uint256} {to_ : Bytes32} {payload : Bytes} {adapters : List Address}
  {fees : List CrossChainGas} {retryable : Bool} {R : GlacisRouter.Routed}

@[simp] theorem messageOf_payload (R : GlacisRouter.Routed) :
    (Chain.messageOf sender toChainId to_ payload R).payload = payload := rfl

/-- The message of a successful `route` is valid. -/
theorem messageOf_valid (hid : c.router.GLACIS_CHAIN_ID = chainId)
    (hR : c.router.route keccak256 sendMessage sender value toChainId to_ payload adapters fees
      refundAddress retryable = .ok R) :
    (Chain.messageOf sender toChainId to_ payload R).Valid keccak256 chainId := by
  obtain ⟨_, hmsg, _, _⟩ := GlacisRouter.route_spec hR
  rw [hid] at hmsg
  exact hmsg

/-- **`route` keeps the outbox**, whoever calls it. -/
theorem Outbox.afterRoute (h : Outbox keccak256 chainId c)
    (hR : c.router.route keccak256 sendMessage sender value toChainId to_ payload adapters fees
      refundAddress retryable = .ok R) :
    Outbox keccak256 chainId
      (c.afterRoute keccak256 (Chain.messageOf sender toChainId to_ payload R) R) := by
  have hvalid := messageOf_valid h.chainId_eq hR
  obtain ⟨hnonce, _, hrouter, hpackets⟩ := GlacisRouter.route_spec hR
  set m := Chain.messageOf sender toChainId to_ payload R with hm
  have hmem : ∀ x ∈ (c.afterRoute keccak256 m R).routed, x ∈ c.routed ∨ x = m := by
    intro x hx
    rcases List.mem_append.mp hx with hx | hx
    · exact Or.inl hx
    · exact Or.inr (List.mem_singleton.mp hx)
  have hnew : m ∈ (c.afterRoute keccak256 m R).routed :=
    List.mem_append_right _ (List.mem_singleton_self m)
  have hold : ∀ x ∈ c.routed, x ∈ (c.afterRoute keccak256 m R).routed :=
    fun x hx => List.mem_append_left _ hx
  refine ⟨?_, ?_, ?_, ?_, ?_, ?_, ?_⟩
  · show R.router.GLACIS_CHAIN_ID = chainId
    rw [hrouter]; exact h.chainId_eq
  · intro x hx
    show x.nonce.toNat < R.router.nonce
    rw [hrouter]
    rcases hmem x hx with hx | rfl
    · exact Nat.lt_succ_of_lt (h.nonce_lt x hx)
    · show R.nonce.toNat < c.router.nonce + 1
      omega
  · show ((c.routed ++ [m]).map Message.nonce).Nodup
    rw [List.map_append, List.map_singleton]
    refine List.nodup_append.mpr ⟨h.nonce_nodup, List.nodup_singleton _, ?_⟩
    intro a ha b hb
    obtain ⟨x, hx, rfl⟩ := List.mem_map.mp ha
    rw [List.mem_singleton.mp hb]
    -- earlier nonces are below the counter, the new one is the counter
    intro heq
    have hlt := h.nonce_lt x hx
    have hnat : x.nonce.toNat = R.nonce.toNat := congrArg BitVec.toNat heq
    omega
  · intro x hx
    rcases hmem x hx with hx | rfl
    · exact h.valid x hx
    · exact hvalid
  · intro x hx
    rcases hmem x hx with hx | rfl
    · exact List.Subset.trans (h.inputs x hx) (List.subset_append_left _ _)
    · rw [Message.inputs, ← h.chainId_eq]
      exact List.subset_append_right _ _
  · intro id hne
    have hstate : R.router.messageSenders = if retryable then
        Function.update c.router.messageSenders R.messageId sender
      else c.router.messageSenders := by rw [hrouter]
    change R.router.messageSenders id ≠ 0 at hne
    show ∃ x ∈ (c.afterRoute keccak256 m R).routed,
      x.messageId = id ∧ x.sender = R.router.messageSenders id
    rw [hstate] at hne ⊢
    by_cases hid : retryable = true ∧ id = R.messageId
    · obtain ⟨hret, rfl⟩ := hid
      rw [if_pos hret, Function.update_self]
      exact ⟨m, hnew, rfl, rfl⟩
    · have hsame : (if retryable then
            Function.update c.router.messageSenders R.messageId sender
          else c.router.messageSenders) id = c.router.messageSenders id := by
        by_cases hret : retryable = true
        · rw [if_pos hret, Function.update_of_ne (fun heq => hid ⟨hret, heq⟩)]
        · rw [if_neg hret]
      rw [hsame] at hne ⊢
      obtain ⟨x, hx, hxid, hxs⟩ := h.senders id hne
      exact ⟨x, hold x hx, hxid, hxs⟩
  · intro pk hpk
    rcases List.mem_append.mp hpk with hpk | hpk
    · obtain ⟨x, hx, hpay⟩ := h.packets pk hpk
      exact ⟨x, hold x hx, hpay⟩
    · exact ⟨m, hnew, (hpackets pk hpk).2⟩

/-- A remembered id belongs to one routed message; a retry hands out that message again. -/
theorem Outbox.retried (h : Outbox keccak256 chainId c) (hsender : sender ≠ 0)
    {messageId : Bytes32} {nonce : Uint256} {packets : List Packet}
    (hR : c.router.routeRetry keccak256 sendMessage sender value toChainId to_ payload adapters
      fees refundAddress messageId nonce = .ok packets) {hashed : List Bytes}
    (hfree : CollisionFree keccak256 hashed) (hold : c.hashed ⊆ hashed)
    (hnew : (⟨messageId, toChainId, to_, payload, sender, nonce⟩ : Message).inputs keccak256 chainId
      ⊆ hashed) :
    (⟨messageId, toChainId, to_, payload, sender, nonce⟩ : Message) ∈ c.routed ∧
      ∀ pk ∈ packets, pk.payload =
        (⟨messageId, toChainId, to_, payload, sender, nonce⟩ : Message).encode := by
  obtain ⟨howner, hid, hpackets⟩ := GlacisRouter.routeRetry_spec hR
  rw [h.chainId_eq] at hid
  obtain ⟨x, hx, hxid, _⟩ := h.senders messageId (by rw [howner]; exact hsender)
  have hvalid : Message.Valid keccak256 chainId ⟨messageId, toChainId, to_, payload, sender, nonce⟩ :=
    hid
  obtain ⟨_, rfl⟩ :=
    (h.valid x hx).inj hfree hvalid (List.Subset.trans (h.inputs x hx) hold) hnew hxid
  exact ⟨hx, fun pk hpk => (hpackets pk hpk).2⟩

/-- **`routeRetry` keeps the outbox**, whoever calls it. -/
theorem Outbox.afterRetry (h : Outbox keccak256 chainId c) (hsender : sender ≠ 0)
    {messageId : Bytes32} {nonce : Uint256} {packets : List Packet}
    (hR : c.router.routeRetry keccak256 sendMessage sender value toChainId to_ payload adapters
      fees refundAddress messageId nonce = .ok packets)
    (hfree : CollisionFree keccak256 (c.afterRetry keccak256
      ⟨messageId, toChainId, to_, payload, sender, nonce⟩ packets).hashed) :
    Outbox keccak256 chainId
      (c.afterRetry keccak256 ⟨messageId, toChainId, to_, payload, sender, nonce⟩ packets) where
  chainId_eq := h.chainId_eq
  nonce_lt := h.nonce_lt
  nonce_nodup := h.nonce_nodup
  valid := h.valid
  inputs := fun m hm => List.Subset.trans (h.inputs m hm) (List.subset_append_left _ _)
  senders := h.senders
  packets := by
    obtain ⟨hmem, hpackets⟩ := h.retried hsender hR hfree (List.subset_append_left _ _) (by
      rw [Message.inputs, ← h.chainId_eq]
      exact List.subset_append_right _ _)
    intro pk hpk
    rcases List.mem_append.mp hpk with hpk | hpk
    · exact h.packets pk hpk
    · exact ⟨_, hmem, hpackets pk hpk⟩

theorem Transfers.afterRetry (h : Transfers isMediator c) (m : Message) (packets : List Packet) :
    Transfers isMediator (c.afterRetry keccak256 m packets) where
  sublist := h.sublist
  complete := h.complete
  sender := h.sender
  payload := h.payload
  retryable := h.retryable

/-- A later `route` does not take over the id of an earlier transfer. -/
theorem Transfers.retryable_afterRoute (h : Transfers isMediator c)
    (hO : Outbox keccak256 chainId c)
    (hR : c.router.route keccak256 sendMessage sender value toChainId to_ payload adapters fees
      refundAddress retryable = .ok R)
    (hfree : CollisionFree keccak256
      (c.afterRoute keccak256 (Chain.messageOf sender toChainId to_ payload R) R).hashed) :
    ∀ t ∈ c.sends, R.router.messageSenders t.message.messageId = t.message.sender := by
  intro t ht
  have hvalid := messageOf_valid hO.chainId_eq hR
  obtain ⟨hnonce, _, hrouter, _⟩ := GlacisRouter.route_spec hR
  have hmem : t.message ∈ c.routed := h.sublist.subset (List.mem_map_of_mem ht)
  have hne : t.message.messageId ≠ R.messageId := by
    intro heq
    obtain ⟨_, hsame⟩ := Message.Valid.inj hfree (hO.valid _ hmem) hvalid
      (List.Subset.trans (hO.inputs _ hmem) (List.subset_append_left _ _))
      (by rw [Message.inputs, ← hO.chainId_eq]; exact List.subset_append_right _ _) heq
    have hlt := hO.nonce_lt _ hmem
    have hnat : t.message.nonce.toNat = R.nonce.toNat :=
      congrArg (fun m : Message => m.nonce.toNat) hsame
    omega
  rw [hrouter]
  dsimp only
  split
  · rw [Function.update_of_ne hne]; exact h.retryable t ht
  · exact h.retryable t ht

/-- **A route by an outside account** starts no transfer. -/
theorem Transfers.afterRoute (h : Transfers isMediator c) (hO : Outbox keccak256 chainId c)
    (hout : ¬ isMediator sender)
    (hR : c.router.route keccak256 sendMessage sender value toChainId to_ payload adapters fees
      refundAddress retryable = .ok R)
    (hfree : CollisionFree keccak256
      (c.afterRoute keccak256 (Chain.messageOf sender toChainId to_ payload R) R).hashed) :
    Transfers isMediator
      (c.afterRoute keccak256 (Chain.messageOf sender toChainId to_ payload R) R) where
  sublist := h.sublist.trans (List.sublist_append_left _ _)
  complete := by
    intro m hm hmed
    rcases List.mem_append.mp hm with hm | hm
    · exact h.complete m hm hmed
    · rw [List.mem_singleton.mp hm] at hmed
      exact absurd hmed hout
  sender := h.sender
  payload := h.payload
  retryable := h.retryable_afterRoute hO hR hfree

/-- **A route by a mediator** is one transfer more. -/
theorem Transfers.afterSend (h : Transfers isMediator c) (hO : Outbox keccak256 chainId c)
    (hin : isMediator sender) {recipient : Bytes32} {tokenAmount : Uint256} {token : Option XERC20}
    (hR : c.router.route keccak256 sendMessage sender value toChainId to_
      (SimpleTokenMediator.packTokenPayload recipient tokenAmount) adapters fees refundAddress true
      = .ok R) {m : Message}
    (hm : m = Chain.messageOf sender toChainId to_
      (SimpleTokenMediator.packTokenPayload recipient tokenAmount) R)
    (hfree : CollisionFree keccak256 (c.afterRoute keccak256 m R).hashed) :
    Transfers isMediator { c.afterRoute keccak256 m R with
      token := token
      sends := c.sends ++ [⟨m, recipient, tokenAmount⟩] } := by
  obtain ⟨_, _, hrouter, _⟩ := GlacisRouter.route_spec hR
  have hmem : ∀ t ∈ c.sends ++ [⟨m, recipient, tokenAmount⟩],
      t ∈ c.sends ∨ t = ⟨m, recipient, tokenAmount⟩ := by
    intro t ht
    rcases List.mem_append.mp ht with ht | ht
    · exact Or.inl ht
    · exact Or.inr (List.mem_singleton.mp ht)
  refine ⟨?_, ?_, ?_, ?_, ?_⟩
  · show ((c.sends ++ [_]).map Transfer.message).Sublist (c.routed ++ [m])
    rw [List.map_append]
    exact h.sublist.append (List.Sublist.refl _)
  · intro x hx hmed
    rcases List.mem_append.mp hx with hx | hx
    · obtain ⟨t, ht, htx⟩ := h.complete x hx hmed
      exact ⟨t, List.mem_append_left _ ht, htx⟩
    · exact ⟨_, List.mem_append_right _ (List.mem_singleton_self _), (List.mem_singleton.mp hx).symm⟩
  · intro t ht
    rcases hmem t ht with ht | rfl
    · exact h.sender t ht
    · have hsender : m.sender = sender := congrArg Message.sender hm
      exact hsender ▸ hin
  · intro t ht
    rcases hmem t ht with ht | rfl
    · exact h.payload t ht
    · exact (congrArg Message.payload hm).trans (messageOf_payload R)
  · intro t ht
    rcases hmem t ht with hold | rfl
    · subst hm
      exact h.retryable_afterRoute hO hR hfree t hold
    · show R.router.messageSenders m.messageId = m.sender
      rw [hrouter, hm]
      exact Function.update_self _ _ _

end Routing

/-! ## What the transfers of a chain look like -/

/-- No two transfers of a chain have one id. -/
theorem Transfers.ids_nodup (h : Transfers isMediator c) (hO : Outbox keccak256 chainId c)
    (hfree : CollisionFree keccak256 c.hashed) :
    (c.sends.map fun t => t.message.messageId).Nodup := by
  have hrouted : (c.routed.map Message.messageId).Nodup := by
    have hnodup : c.routed.Nodup := List.Nodup.of_map _ hO.nonce_nodup
    refine (List.nodup_map_iff_inj_on hnodup).mpr ?_
    intro m hm m' hm' hid
    exact (Message.Valid.inj hfree (hO.valid m hm) (hO.valid m' hm') (hO.inputs m hm)
      (hO.inputs m' hm') hid).2
  have hmap : (c.sends.map fun t => t.message.messageId)
      = (c.sends.map Transfer.message).map Message.messageId := by
    rw [List.map_map]; rfl
  rw [hmap]
  exact hrouted.sublist (h.sublist.map _)

end CrossRWA
