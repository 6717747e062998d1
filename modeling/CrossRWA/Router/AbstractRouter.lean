/-
  `GlacisAbstractRouter` — the adapter registry and the message ids.

  * The registry is two maps, GMP id to adapter and adapter to GMP id.  One direction of their
    agreement always holds and is a FIELD of `AdapterRegistry`: an adapter with an id is the
    adapter of that id.  (The other direction does not: an address registered under two ids
    keeps the last one only.)
  * A message id is the hash of `abi.encode(toChainId, fromChainId, to, keccak256(payload), sender,
    nonce)`.  `messageId_inj`: where nothing collides, the id determines all six components.
  * `encodeGlacisPayload`/`decodeGlacisPayload` are the wire format `abi.encode(GlacisData, bytes)`;
    `decode_encode` is the round trip.
-/
import CrossRWA.Commons

namespace CrossRWA

/-! ## The adapter registry -/

structure AdapterRegistry where
  glacisGMPIdToAdapter : Uint8 → Address
  adapterToGlacisGMPId : Address → Uint8
  /-- An adapter with an id is the adapter of that id. -/
  consistent : ∀ a, adapterToGlacisGMPId a ≠ 0 →
    glacisGMPIdToAdapter (adapterToGlacisGMPId a) = a

namespace AdapterRegistry

/-- Nothing registered. -/
def empty : AdapterRegistry where
  glacisGMPIdToAdapter := fun _ => 0
  adapterToGlacisGMPId := fun _ => 0
  consistent := fun _ h => absurd rfl h

/-- Deleting an id's adapter from both maps. -/
theorem consistent_delete (r : AdapterRegistry) (glacisGMPId : Uint8) (a : Address)
    (h : Function.update r.adapterToGlacisGMPId (r.glacisGMPIdToAdapter glacisGMPId) 0 a ≠ 0) :
    r.adapterToGlacisGMPId a ≠ glacisGMPId ∧
      Function.update r.adapterToGlacisGMPId (r.glacisGMPIdToAdapter glacisGMPId) 0 a
        = r.adapterToGlacisGMPId a ∧
      r.glacisGMPIdToAdapter (r.adapterToGlacisGMPId a) = a := by
  have hne : a ≠ r.glacisGMPIdToAdapter glacisGMPId := by
    rintro rfl; rw [Function.update_self] at h; exact h rfl
  rw [Function.update_of_ne hne] at h ⊢
  have hcon := r.consistent a h
  refine ⟨?_, rfl, hcon⟩
  rintro rfl
  exact hne hcon.symm

def registerAdapter (r : AdapterRegistry) (glacisGMPId : Uint8) (glacisAdapter : Address) :
    Except Revert AdapterRegistry := do
  revertIf (glacisAdapter = 0) .GlacisAbstractRouter__InvalidAdapterAddress
  revertIf (glacisGMPId = 0) .GlacisAbstractRouter__GMPIDCannotBeZero
  revertIf (GLACIS_RESERVED_IDS < glacisGMPId.toNat) .GlacisAbstractRouter__GMPIDTooHigh
  let previousAdapter := r.glacisGMPIdToAdapter glacisGMPId
  pure
    { glacisGMPIdToAdapter := Function.update r.glacisGMPIdToAdapter glacisGMPId glacisAdapter
      adapterToGlacisGMPId := Function.update
        (Function.update r.adapterToGlacisGMPId previousAdapter 0) glacisAdapter glacisGMPId
      consistent := by
        intro a h
        by_cases ha : a = glacisAdapter
        · rw [ha, Function.update_self, Function.update_self]
        · rw [Function.update_of_ne ha] at h ⊢
          obtain ⟨hid, heq, hcon⟩ := r.consistent_delete glacisGMPId a h
          rw [heq, Function.update_of_ne hid, hcon] }

def unRegisterAdapter (r : AdapterRegistry) (glacisGMPId : Uint8) :
    Except Revert AdapterRegistry := do
  let adapter := r.glacisGMPIdToAdapter glacisGMPId
  revertIf (adapter = 0) .GlacisAbstractRouter__InvalidAdapterAddress
  revertIf (glacisGMPId = 0) .GlacisAbstractRouter__GMPIDCannotBeZero
  pure
    { glacisGMPIdToAdapter := Function.update r.glacisGMPIdToAdapter glacisGMPId 0
      adapterToGlacisGMPId := Function.update r.adapterToGlacisGMPId adapter 0
      consistent := by
        intro a h
        obtain ⟨hid, heq, hcon⟩ := r.consistent_delete glacisGMPId a h
        rw [heq, Function.update_of_ne hid, hcon] }

end AdapterRegistry

/-! ## Message ids -/

section MessageId

variable (keccak256 : Bytes → Bytes32)

/-- What a message id commits to, `sender` already as `bytes32`. -/
def messageIdPreimage (toChainId fromChainId : Uint256) (to_ : Bytes32) (payload : Bytes)
    (sender : Bytes32) (nonce : Uint256) : Bytes :=
  Abi.encodeWords [toChainId, fromChainId, to_, keccak256 payload, sender, nonce]

/-- The id both `_createGlacisMessageId` and `_validateGlacisMessageId` compute. -/
def glacisMessageId (toChainId fromChainId : Uint256) (to_ : Bytes32) (payload : Bytes)
    (sender : Bytes32) (nonce : Uint256) : Bytes32 :=
  keccak256 (messageIdPreimage keccak256 toChainId fromChainId to_ payload sender nonce)

def _validateGlacisMessageId (messageId : Bytes32) (toChainId fromChainId : Uint256)
    (to_ messageSender : Bytes32) (messageNonce : Uint256) (payload : Bytes) : Bool :=
  glacisMessageId keccak256 toChainId fromChainId to_ payload messageSender messageNonce
    = messageId

theorem _validateGlacisMessageId_eq_false {messageId : Bytes32} {toChainId fromChainId : Uint256}
    {to_ messageSender : Bytes32} {messageNonce : Uint256} {payload : Bytes} :
    _validateGlacisMessageId keccak256 messageId toChainId fromChainId to_ messageSender
        messageNonce payload = false ↔
      messageId ≠ glacisMessageId keccak256 toChainId fromChainId to_ payload messageSender
        messageNonce := by
  rw [_validateGlacisMessageId, decide_eq_false_iff_not, ne_comm]

/-- The two inputs one id computation hashes. -/
def messageIdInputs (toChainId fromChainId : Uint256) (to_ : Bytes32) (payload : Bytes)
    (sender : Bytes32) (nonce : Uint256) : List Bytes :=
  [payload, messageIdPreimage keccak256 toChainId fromChainId to_ payload sender nonce]

variable {keccak256}

theorem messageIdInputs_subset {toChainId fromChainId nonce : Uint256} {to_ sender : Bytes32}
    {payload : Bytes} {l : List Bytes} :
    messageIdInputs keccak256 toChainId fromChainId to_ payload sender nonce ⊆ l ↔
      payload ∈ l ∧
        messageIdPreimage keccak256 toChainId fromChainId to_ payload sender nonce ∈ l := by
  rw [messageIdInputs, List.cons_subset, List.cons_subset]
  simp

/-- **The id determines the message.** -/
theorem messageId_inj {hashed : List Bytes} (hfree : CollisionFree keccak256 hashed)
    {toChain fromChain toChain' fromChain' nonce nonce' : Uint256} {to_ to_' sender sender' : Bytes32}
    {payload payload' : Bytes}
    (hin : messageIdInputs keccak256 toChain fromChain to_ payload sender nonce ⊆ hashed)
    (hin' : messageIdInputs keccak256 toChain' fromChain' to_' payload' sender' nonce' ⊆ hashed)
    (h : glacisMessageId keccak256 toChain fromChain to_ payload sender nonce
      = glacisMessageId keccak256 toChain' fromChain' to_' payload' sender' nonce') :
    toChain = toChain' ∧ fromChain = fromChain' ∧ to_ = to_' ∧ payload = payload' ∧
      sender = sender' ∧ nonce = nonce' := by
  obtain ⟨hpay, hpre⟩ := messageIdInputs_subset.mp hin
  obtain ⟨hpay', hpre'⟩ := messageIdInputs_subset.mp hin'
  have hpreimages := hfree _ hpre _ hpre' h
  unfold messageIdPreimage at hpreimages
  have hwords := Abi.encodeWords_inj (by simp) hpreimages
  simp only [List.cons.injEq, and_true] at hwords
  obtain ⟨h1, h2, h3, h4, h5, h6⟩ := hwords
  exact ⟨h1, h2, h3, hfree _ hpay _ hpay' h4, h5, h6⟩

end MessageId

/-! ## The wire format -/

/-- `abi.encode(messageId, nonce, from, to, payload)`. -/
def encodeGlacisPayload (d : GlacisData) (payload : Bytes) : Bytes :=
  Abi.encodeWords [d.messageId, d.nonce, d.originalFrom, d.originalTo, 160]
    ++ Abi.encodeBytesTail payload

/-- `abi.decode(glacisPayload, (GlacisData, bytes))`. -/
def decodeGlacisPayload (b : Bytes) : Option (GlacisData × Bytes) :=
  if b.length < 160 then none
  else
    match Abi.decodeBytes b 128 with
    | none => none
    | some payload =>
      some (⟨Abi.wordAt b 0, Abi.wordAt b 32, Abi.wordAt b 64, Abi.wordAt b 96⟩, payload)

/-- Whatever an encoded message decodes to, its head is the one that was encoded. -/
theorem decode_encode_head {d d' : GlacisData} {p p' : Bytes}
    (h : decodeGlacisPayload (encodeGlacisPayload d p) = some (d', p')) : d' = d := by
  unfold decodeGlacisPayload at h
  split at h
  · cases h
  · split at h
    · cases h
    · have hd : _ = d' := congrArg Prod.fst (Option.some.inj h)
      have hw := Abi.wordAt_encodeWords [d.messageId, d.nonce, d.originalFrom, d.originalTo, 160]
        (Abi.encodeBytesTail p)
      have h0 := hw 0 (by simp)
      have h1 := hw 1 (by simp)
      have h2 := hw 2 (by simp)
      have h3 := hw 3 (by simp)
      rw [← encodeGlacisPayload] at h0 h1 h2 h3
      rw [← hd]
      exact congr (congr (congr (congrArg GlacisData.mk h0) h1) h2) h3

/-- **Round trip** of the wire format. -/
theorem decode_encode (d : GlacisData) {p : Bytes} (hp : p.length ≤ Abi.maxLen) :
    decodeGlacisPayload (encodeGlacisPayload d p) = some (d, p) := by
  have hlen : ¬ (encodeGlacisPayload d p).length < 160 := by
    simp only [encodeGlacisPayload, List.length_append, Abi.length_encodeWords, List.length_cons,
      List.length_nil]
    omega
  have hoff : ([d.messageId, d.nonce, d.originalFrom, d.originalTo, 160][4]).toNat = 32 * 5 := rfl
  have hbytes : Abi.decodeBytes (encodeGlacisPayload d p) 128 = some p :=
    Abi.decodeBytes_encode [d.messageId, d.nonce, d.originalFrom, d.originalTo, 160] p 4
      (by simp) hoff (by decide : 32 * 5 ≤ Abi.maxLen) hp
  have hsome : ∃ d', decodeGlacisPayload (encodeGlacisPayload d p) = some (d', p) := by
    rw [decodeGlacisPayload, if_neg hlen, hbytes]
    exact ⟨_, rfl⟩
  obtain ⟨d', hd'⟩ := hsome
  rw [hd', decode_encode_head hd']

end CrossRWA
