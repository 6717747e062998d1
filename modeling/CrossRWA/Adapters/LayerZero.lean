/-
  The adapter of LayerZero V1 — a delivery that fails is kept, and anyone may retry it.

  `lzReceive` never reverts for the endpoint: it calls itself, and if that call reverts (because
  the source is not authorized, or because the router or its client refuses) it stores the hash of
  the payload under the delivery's key.  `retryMessage` takes the payload again.

  1. The functions follow `SimpleNonblockingLzApp` and `GlacisLayerZeroAdapter`; what the router
     does with the forwarded call is an argument of `lzReceive`.
  2. `LzRun` logs what the endpoint delivered and what the router took.  Its steps refine those of
     an exactly-once channel (`Refines`): what is stored is what the channel has pending.
  3. `nothing_lost` reads this back for whole runs, and adds that whatever is pending can be retried.
-/
import CrossRWA.Adapters.GmpAdapters
import CrossRWA.Lib.Machine
import CrossRWA.Lib.OnceChannel

namespace CrossRWA

open Calls

/-! ## The contract -/

/-- The key a failed message is stored under. -/
structure LzKey where
  srcChainId : Uint16
  srcAddress : Bytes
  nonce : Uint64
deriving DecidableEq, Repr

/-- `minDstGasLookup` and `precrime` are written by the owner and read by no function. -/
structure GlacisLayerZeroAdapter extends GlacisAbstractAdapter Uint16 where
  lzEndpoint : Address
  adapterParams : Bytes
  payloadSizeLimitLookup : Uint16 → Nat
  failedMessages : LzKey → Bytes32

namespace GlacisLayerZeroAdapter

def DEFAULT_PAYLOAD_SIZE_LIMIT : Nat := 10000

def _checkPayloadSize (a : GlacisLayerZeroAdapter) (dstChainId : Uint16) (payloadSize : Nat) :
    Except AdapterRevert Unit :=
  let payloadSizeLimit := if a.payloadSizeLimitLookup dstChainId = 0 then DEFAULT_PAYLOAD_SIZE_LIMIT
    else a.payloadSizeLimitLookup dstChainId
  refuseIf (payloadSizeLimit < payloadSize) (.require "LzApp: payload size is too large")

/-- `abi.encodePacked(address, address)`. -/
def encodePacked (a b : Address) : Bytes := Abi.natToBytes 20 a.toNat ++ Abi.natToBytes 20 b.toNat

/-- `_sendMessage` with its `_lzSend`; the incentives are not used. -/
def _sendMessage (a : GlacisLayerZeroAdapter) (self : Address) (env : GmpEnv) (value : Nat)
    (toChainId : Uint256) (refundAddress : Address) (_incentives : CrossChainGas)
    (payload : Bytes) : Except AdapterRevert Sent := do
  let (dstchainId, counterpart) ← a.destination toChainId
  a._checkPayloadSize dstchainId payload.length
  let call := .lzSend dstchainId (encodePacked (toAddress counterpart) self) payload refundAddress 0
    a.adapterParams
  refuseIf (env.accepts call value = false) .gmpReverted
  pure ⟨call, value, 0⟩

/-- `bytes32(bytes20(sourceAddress)) >> 96`: the first twenty bytes, zeros after a shorter string. -/
def source (sourceAddress : Bytes) : Bytes32 :=
  BitVec.ofNat 256 (Abi.bytesToNat ((sourceAddress ++ List.replicate 20 0).take 20))

def _nonblockingLzReceive (a : GlacisLayerZeroAdapter) (key : LzKey) (payload : Bytes) :
    Except AdapterRevert RouterCall := do
  a.onlyAuthorizedAdapter (a.adapterChainIdToGlacisChainId key.srcChainId) (source key.srcAddress)
  pure ⟨a.adapterChainIdToGlacisChainId key.srcChainId, payload⟩

def nonblockingLzReceive (a : GlacisLayerZeroAdapter) (self msgSender : Address) (key : LzKey)
    (payload : Bytes) : Except AdapterRevert RouterCall := do
  refuseIf (msgSender ≠ self) (.require "NonblockingLzApp: caller must be LzApp")
  a._nonblockingLzReceive key payload

section Hashing

variable (keccak256 : Bytes → Bytes32)

def _storeFailedMessage (a : GlacisLayerZeroAdapter) (key : LzKey) (payload : Bytes) :
    GlacisLayerZeroAdapter :=
  { a with failedMessages := Function.update a.failedMessages key (keccak256 payload) }

/-- `lzReceive`.  `router` is the rest of the forwarded call; `none` says that it failed. -/
def lzReceive {S : Type} (a : GlacisLayerZeroAdapter) (self msgSender : Address) (key : LzKey)
    (payload : Bytes) (router : RouterCall → Except AdapterRevert S) :
    Except AdapterRevert (GlacisLayerZeroAdapter × Option S) := do
  refuseIf (msgSender ≠ a.lzEndpoint) (.require "LzApp: invalid endpoint caller")
  match a.nonblockingLzReceive self self key payload >>= router with
  | .ok s => pure (a, some s)
  | .error _ => pure (a._storeFailedMessage keccak256 key payload, none)

def retryMessage (a : GlacisLayerZeroAdapter) (key : LzKey) (payload : Bytes) :
    Except AdapterRevert (GlacisLayerZeroAdapter × RouterCall) := do
  let payloadHash := a.failedMessages key
  refuseIf (payloadHash = 0) (.require "NonblockingLzApp: no stored message")
  refuseIf (keccak256 payload ≠ payloadHash) (.require "NonblockingLzApp: invalid payload")
  let R ← a._nonblockingLzReceive key payload
  pure ({ a with failedMessages := Function.update a.failedMessages key 0 }, R)

end Hashing

def setAdapterParams (a : GlacisLayerZeroAdapter) (msgSender : Address) (params : Bytes) :
    Except AdapterRevert GlacisLayerZeroAdapter := do
  a._onlyOwner msgSender
  pure { a with adapterParams := params }

/-- A size of zero stands for the default. -/
def setPayloadSizeLimit (a : GlacisLayerZeroAdapter) (msgSender : Address) (dstChainId : Uint16)
    (size : Nat) : Except AdapterRevert GlacisLayerZeroAdapter := do
  a._onlyOwner msgSender
  pure { a with
    payloadSizeLimitLookup := Function.update a.payloadSizeLimitLookup dstChainId size }

/-- The calls of the owner, those of the base contract among them. -/
inductive OwnerCall
  | base (call : GlacisAbstractAdapter.OwnerCall Uint16)
  | setAdapterParams (params : Bytes)
  | setPayloadSizeLimit (dstChainId : Uint16) (size : Nat)
deriving DecidableEq, Repr

def exec (a : GlacisLayerZeroAdapter) (msgSender : Address) :
    OwnerCall → Except AdapterRevert GlacisLayerZeroAdapter
  | .base call => do
    let b ← a.toGlacisAbstractAdapter.exec msgSender call
    pure { a with toGlacisAbstractAdapter := b }
  | .setAdapterParams params => a.setAdapterParams msgSender params
  | .setPayloadSizeLimit dstChainId size => a.setPayloadSizeLimit msgSender dstChainId size

variable {keccak256 : Bytes → Bytes32} {a a' : GlacisLayerZeroAdapter} {self msgSender : Address}
  {key : LzKey} {payload : Bytes} {R : RouterCall}

theorem _sendMessage_spec {env : GmpEnv} {value : Nat} {toChainId : Uint256}
    {refundAddress : Address} {incentives : CrossChainGas} {s : Sent}
    (h : a._sendMessage self env value toChainId refundAddress incentives payload = .ok s) :
    s.call.gmp = .layerZero ∧ s.call.payload = payload ∧ s.Spends value := by
  simp only [_sendMessage, seq_eq_ok, refuseIf_eq_ok, ret_eq_ok] at h
  obtain ⟨_, _, _, _, _, _, rfl⟩ := h
  exact ⟨rfl, rfl, rfl⟩

/-- The twenty bytes of a packed path are the source. -/
theorem source_encodePacked (a b : Address) : source (encodePacked a b) = toBytes32 a := by
  have htake : ((encodePacked a b ++ List.replicate 20 0).take 20) = Abi.natToBytes 20 a.toNat := by
    rw [encodePacked, List.append_assoc]
    exact List.take_left' (Abi.length_natToBytes 20 a.toNat)
  have hlt : a.toNat < 256 ^ 20 := by
    have := a.isLt
    norm_num at this ⊢
    exact this
  rw [source, htake, Abi.bytesToNat_natToBytes 20 _ hlt, toBytes32, BitVec.ofNat_toNat]

theorem _nonblockingLzReceive_eq_ok :
    a._nonblockingLzReceive key payload = .ok R ↔
      a.Forwards key.srcChainId (source key.srcAddress) payload R := by
  simp only [_nonblockingLzReceive, seq_eq_ok, ret_eq_ok]
  constructor
  · rintro ⟨_, hauth, rfl⟩
    exact ⟨hauth, rfl⟩
  · rintro ⟨hauth, rfl⟩
    exact ⟨(), hauth, rfl⟩

/-- **A delivery is the endpoint's, and is either taken by the router or stored.** -/
theorem lzReceive_spec {S : Type} {router : RouterCall → Except AdapterRevert S}
    {result : Option S}
    (h : a.lzReceive keccak256 self msgSender key payload router = .ok (a', result)) :
    msgSender = a.lzEndpoint ∧
      ((∃ R s, a.Forwards key.srcChainId (source key.srcAddress) payload R ∧ router R = .ok s ∧
          a' = a ∧ result = some s) ∨
        (a' = a._storeFailedMessage keccak256 key payload ∧ result = none)) := by
  simp only [lzReceive, seq_eq_ok, refuseIf_eq_ok] at h
  obtain ⟨_, hendpoint, h⟩ := h
  refine ⟨not_not.mp hendpoint, ?_⟩
  split at h
  · next s hs =>
    obtain ⟨R, hR, hrouter⟩ := seq_eq_ok.mp hs
    obtain ⟨rfl, rfl⟩ := Prod.mk.inj (ret_eq_ok.mp h)
    simp only [nonblockingLzReceive, seq_eq_ok] at hR
    obtain ⟨_, _, hR⟩ := hR
    exact Or.inl ⟨R, s, _nonblockingLzReceive_eq_ok.mp hR, hrouter, rfl, rfl⟩
  · obtain ⟨rfl, rfl⟩ := Prod.mk.inj (ret_eq_ok.mp h)
    exact Or.inr ⟨rfl, rfl⟩

theorem retryMessage_eq_ok :
    a.retryMessage keccak256 key payload = .ok (a', R) ↔
      a.failedMessages key ≠ 0 ∧ keccak256 payload = a.failedMessages key ∧
        a.Forwards key.srcChainId (source key.srcAddress) payload R ∧
        a' = { a with failedMessages := Function.update a.failedMessages key 0 } := by
  simp only [retryMessage, seq_eq_ok, refuseIf_eq_ok, ret_eq_ok, Prod.mk.injEq,
    _nonblockingLzReceive_eq_ok]
  constructor
  · rintro ⟨_, hstored, _, hhash, _, hforwards, rfl, rfl⟩
    exact ⟨hstored, not_not.mp hhash, hforwards, rfl⟩
  · rintro ⟨hstored, hhash, hforwards, rfl⟩
    exact ⟨(), hstored, (), not_not.mpr hhash, R, hforwards, rfl, rfl⟩

/-- The owner's calls leave the failed messages. -/
theorem exec_failedMessages {call : OwnerCall} (h : a.exec msgSender call = .ok a') :
    a'.failedMessages = a.failedMessages := by
  cases call with
  | base call =>
    simp only [exec, seq_eq_ok, ret_eq_ok] at h
    obtain ⟨_, _, rfl⟩ := h
    rfl
  | setAdapterParams params =>
    simp only [exec, setAdapterParams, seq_eq_ok, ret_eq_ok] at h
    obtain ⟨_, _, rfl⟩ := h
    rfl
  | setPayloadSizeLimit dstChainId size =>
    simp only [exec, setPayloadSizeLimit, seq_eq_ok, ret_eq_ok] at h
    obtain ⟨_, _, rfl⟩ := h
    rfl

end GlacisLayerZeroAdapter

/-! ## Runs -/

/-- An adapter with the deliveries of its endpoint, those the router took, and what was hashed. -/
structure LzRun extends GlacisLayerZeroAdapter where
  delivered : List (LzKey × Bytes)
  taken : List (LzKey × Bytes)
  hashed : List Bytes

/-- What happens to an adapter.  `takes` is what the router answers at that moment. -/
inductive LzAction
  | lzReceive (msgSender : Address) (key : LzKey) (payload : Bytes) (takes : RouterCall → Bool)
  | retryMessage (key : LzKey) (payload : Bytes) (takes : RouterCall → Bool)
  | owner (msgSender : Address) (call : GlacisLayerZeroAdapter.OwnerCall)

namespace LzRun

/-- The router's call, as far as the adapter sees it. -/
def route (takes : RouterCall → Bool) (R : RouterCall) : Except AdapterRevert Unit :=
  refuseIf (takes R = false) (.core .clientReverted)

section Step

variable (keccak256 : Bytes → Bytes32) (self : Address)

def step (s : LzRun) : LzAction → Except AdapterRevert LzRun
  | .lzReceive msgSender key payload takes => do
    let (a, result) ← s.lzReceive keccak256 self msgSender key payload (route takes)
    pure ⟨a, s.delivered ++ [(key, payload)],
      if result.isSome then s.taken ++ [(key, payload)] else s.taken,
      if result.isSome then s.hashed else s.hashed ++ [payload]⟩
  | .retryMessage key payload takes => do
    let (a, R) ← s.retryMessage keccak256 key payload
    route takes R
    pure ⟨a, s.delivered, s.taken ++ [(key, payload)], s.hashed ++ [payload]⟩
  | .owner msgSender call => do
    let a ← s.exec msgSender call
    pure { s with toGlacisLayerZeroAdapter := a }

/-- The endpoint never delivers under one key twice. -/
def NewKey (s : LzRun) : LzAction → Prop
  | .lzReceive _ key _ _ => key ∉ s.delivered.map Prod.fst
  | _ => True

/-- What one step does to an adapter's books. -/
inductive Logged (s : LzRun) : LzAction → LzRun → Prop
  | taken {msgSender : Address} {key : LzKey} {payload : Bytes} {takes : RouterCall → Bool}
      {s' : LzRun} (hstored : s'.failedMessages = s.failedMessages)
      (hdelivered : s'.delivered = s.delivered ++ [(key, payload)])
      (htaken : s'.taken = s.taken ++ [(key, payload)]) (hhashed : s'.hashed = s.hashed) :
      Logged s (.lzReceive msgSender key payload takes) s'
  | stored {msgSender : Address} {key : LzKey} {payload : Bytes} {takes : RouterCall → Bool}
      {s' : LzRun}
      (hstored : s'.failedMessages = Function.update s.failedMessages key (keccak256 payload))
      (hdelivered : s'.delivered = s.delivered ++ [(key, payload)])
      (htaken : s'.taken = s.taken) (hhashed : s'.hashed = s.hashed ++ [payload]) :
      Logged s (.lzReceive msgSender key payload takes) s'
  | retried {key : LzKey} {payload : Bytes} {takes : RouterCall → Bool} {s' : LzRun}
      (hne : s.failedMessages key ≠ 0) (hhash : keccak256 payload = s.failedMessages key)
      (hstored : s'.failedMessages = Function.update s.failedMessages key 0)
      (hdelivered : s'.delivered = s.delivered) (htaken : s'.taken = s.taken ++ [(key, payload)])
      (hhashed : s'.hashed = s.hashed ++ [payload]) : Logged s (.retryMessage key payload takes) s'
  | owner {msgSender : Address} {call : GlacisLayerZeroAdapter.OwnerCall} {s' : LzRun}
      (hstored : s'.failedMessages = s.failedMessages) (hdelivered : s'.delivered = s.delivered)
      (htaken : s'.taken = s.taken) (hhashed : s'.hashed = s.hashed) :
      Logged s (.owner msgSender call) s'

end Step

variable {keccak256 : Bytes → Bytes32} {self : Address} {s s' : LzRun} {x : LzAction}

/-- **The inversion of a step.** -/
theorem step_logged (h : s.step keccak256 self x = .ok s') : s.Logged keccak256 x s' := by
  cases x with
  | lzReceive msgSender key payload takes =>
    simp only [step, seq_eq_ok, ret_eq_ok] at h
    obtain ⟨⟨a, result⟩, ha, rfl⟩ := h
    obtain ⟨_, ⟨R, _, _, _, rfl, rfl⟩ | ⟨rfl, rfl⟩⟩ :=
      GlacisLayerZeroAdapter.lzReceive_spec ha
    · exact .taken rfl rfl rfl rfl
    · exact .stored rfl rfl rfl rfl
  | retryMessage key payload takes =>
    simp only [step, seq_eq_ok, ret_eq_ok] at h
    obtain ⟨⟨a, R⟩, ha, _, _, rfl⟩ := h
    obtain ⟨hne, hhash, _, rfl⟩ := GlacisLayerZeroAdapter.retryMessage_eq_ok.mp ha
    exact .retried hne hhash rfl rfl rfl rfl
  | owner msgSender call =>
    simp only [step, seq_eq_ok, ret_eq_ok] at h
    obtain ⟨a, ha, rfl⟩ := h
    exact .owner (GlacisLayerZeroAdapter.exec_failedMessages ha) rfl rfl rfl

/-- An adapter that has received nothing. -/
structure New (s : LzRun) : Prop where
  failedMessages : ∀ key, s.failedMessages key = 0
  delivered : s.delivered = []
  taken : s.taken = []

/-- No payload hashes to zero, and no two collide. -/
structure Hashes (keccak256 : Bytes → Bytes32) (s : LzRun) : Prop where
  ne_zero : ∀ p ∈ s.hashed, keccak256 p ≠ 0
  free : CollisionFree keccak256 s.hashed

/-- The run of an adapter refines a channel: the endpoint's deliveries are sent, what the router
    took is received, and what is stored is what is pending. -/
structure Refines (keccak256 : Bytes → Bytes32) (c : OnceChannel LzKey Bytes) (s : LzRun) :
    Prop where
  sent : c.sent = s.delivered
  received : c.received = s.taken
  stored : ∀ key, s.failedMessages key ≠ 0 → ∃ payload, (key, payload) ∈ c.pending
  pending : ∀ e ∈ c.pending, s.failedMessages e.1 = keccak256 e.2 ∧ e.2 ∈ s.hashed

theorem Refines.initial (h : s.New) : s.Refines keccak256 .empty where
  sent := h.delivered.symm
  received := h.taken.symm
  stored := fun key hne => absurd (h.failedMessages key) hne
  pending := fun _ he => absurd he List.not_mem_nil

theorem Logged.hashed_subset (h : s.Logged keccak256 x s') : s.hashed ⊆ s'.hashed := by
  cases h with
  | taken _ _ _ hhashed => rw [hhashed]; exact List.Subset.refl _
  | stored _ _ _ hhashed => rw [hhashed]; exact List.subset_append_left _ _
  | retried _ _ _ _ _ hhashed => rw [hhashed]; exact List.subset_append_left _ _
  | owner _ _ _ hhashed => rw [hhashed]; exact List.Subset.refl _

theorem Hashes.of_logged (h : s.Logged keccak256 x s') (hs' : s'.Hashes keccak256) :
    s.Hashes keccak256 :=
  ⟨fun p hp => hs'.ne_zero p (h.hashed_subset hp), hs'.free.mono h.hashed_subset⟩

/-- What is pending was hashed before, and is hashed after more was. -/
theorem Refines.pending_mono {c : OnceChannel LzKey Bytes} (h : s.Refines keccak256 c)
    (hsub : s.hashed ⊆ s'.hashed) {e : LzKey × Bytes} (he : e ∈ c.pending) :
    s.failedMessages e.1 = keccak256 e.2 ∧ e.2 ∈ s'.hashed :=
  (h.pending e he).imp_right fun hmem => hsub hmem

/-- Nothing is stored under a new key. -/
theorem Refines.not_stored {c : OnceChannel LzKey Bytes} (h : s.Refines keccak256 c) {key : LzKey}
    (hnew : key ∉ c.sent.map Prod.fst) : s.failedMessages key = 0 := by
  by_contra hne
  obtain ⟨payload, hmem⟩ := h.stored key hne
  exact hnew (List.mem_map_of_mem (OnceChannel.mem_pending.mp hmem).1)

/-- A delivery that the router takes is sent and received. -/
theorem Refines.taken {c : OnceChannel LzKey Bytes} (h : s.Refines keccak256 c) {key : LzKey}
    {payload : Bytes} (hnew : key ∉ c.sent.map Prod.fst)
    (hstored : s'.failedMessages = s.failedMessages)
    (hdelivered : s'.delivered = s.delivered ++ [(key, payload)])
    (htaken : s'.taken = s.taken ++ [(key, payload)]) (hhashed : s'.hashed = s.hashed) :
    ∃ c', s'.Refines keccak256 c' := by
  have hmem : (key, payload) ∈ (c.send (key, payload) hnew).sent :=
    List.mem_append_right _ (List.mem_singleton.mpr rfl)
  have hout : key ∉ c.received.map Prod.fst := OnceChannel.not_received hnew
  refine ⟨(c.send (key, payload) hnew).receive (key, payload) hmem hout, ?_, ?_, ?_, ?_⟩
  · rw [hdelivered, ← h.sent]; rfl
  · rw [htaken, ← h.received]; rfl
  · intro k hne
    rw [hstored] at hne
    obtain ⟨p, hp⟩ := h.stored k hne
    refine ⟨p, (OnceChannel.mem_pending_receive hmem _).mpr
      ⟨(OnceChannel.mem_pending_send hnew).mpr (Or.inl hp), ?_⟩⟩
    rintro rfl
    exact hne (h.not_stored hnew)
  · intro e he
    obtain ⟨he, hk⟩ := (OnceChannel.mem_pending_receive hmem _).mp he
    rw [hstored, hhashed]
    rcases (OnceChannel.mem_pending_send hnew).mp he with he | rfl
    · exact h.pending e he
    · exact absurd rfl hk

/-- A delivery that fails is sent. -/
theorem Refines.failed {c : OnceChannel LzKey Bytes} (h : s.Refines keccak256 c) {key : LzKey}
    {payload : Bytes} (hnew : key ∉ c.sent.map Prod.fst)
    (hstored : s'.failedMessages = Function.update s.failedMessages key (keccak256 payload))
    (hdelivered : s'.delivered = s.delivered ++ [(key, payload)]) (htaken : s'.taken = s.taken)
    (hhashed : s'.hashed = s.hashed ++ [payload]) : ∃ c', s'.Refines keccak256 c' := by
  have hsub : s.hashed ⊆ s'.hashed := by rw [hhashed]; exact List.subset_append_left _ _
  refine ⟨c.send (key, payload) hnew, ?_, htaken ▸ h.received, ?_, ?_⟩
  · rw [hdelivered, ← h.sent]; rfl
  · intro k hne
    by_cases hk : k = key
    · rw [hk]
      exact ⟨payload, (OnceChannel.mem_pending_send hnew).mpr (Or.inr rfl)⟩
    · rw [hstored, Function.update_of_ne hk] at hne
      obtain ⟨p, hp⟩ := h.stored k hne
      exact ⟨p, (OnceChannel.mem_pending_send hnew).mpr (Or.inl hp)⟩
  · intro e he
    rw [hstored]
    rcases (OnceChannel.mem_pending_send hnew).mp he with hpend | rfl
    · have hk : e.1 ≠ key := fun hk =>
        hnew (hk ▸ List.mem_map_of_mem (OnceChannel.mem_pending.mp hpend).1)
      rw [Function.update_of_ne hk]
      exact h.pending_mono hsub hpend
    · rw [Function.update_self, hhashed]
      exact ⟨rfl, List.mem_append_right _ (List.mem_singleton.mpr rfl)⟩

/-- A successful retry receives what is pending under its key. -/
theorem Refines.retried {c : OnceChannel LzKey Bytes} (h : s.Refines keccak256 c) {key : LzKey}
    {payload : Bytes} (hne : s.failedMessages key ≠ 0)
    (hhash : keccak256 payload = s.failedMessages key)
    (hstored : s'.failedMessages = Function.update s.failedMessages key 0)
    (hdelivered : s'.delivered = s.delivered) (htaken : s'.taken = s.taken ++ [(key, payload)])
    (hhashed : s'.hashed = s.hashed ++ [payload]) (hfree : CollisionFree keccak256 s'.hashed) :
    ∃ c', s'.Refines keccak256 c' := by
  have hsub : s.hashed ⊆ s'.hashed := by rw [hhashed]; exact List.subset_append_left _ _
  obtain ⟨p, hp⟩ := h.stored key hne
  -- the stored hash is that of the pending payload, so the retry has that payload
  obtain ⟨hstoredHash, hmem⟩ := h.pending_mono hsub hp
  obtain rfl : payload = p := by
    refine hfree _ ?_ _ hmem (hhash.trans hstoredHash)
    rw [hhashed]
    exact List.mem_append_right _ (List.mem_singleton.mpr rfl)
  obtain ⟨hsent, hout⟩ := OnceChannel.mem_pending.mp hp
  refine ⟨c.receive (key, payload) hsent hout, hdelivered ▸ h.sent, ?_, ?_, ?_⟩
  · rw [htaken, ← h.received]; rfl
  · intro k hk
    rw [hstored] at hk
    have hkey : k ≠ key := by
      rintro rfl
      rw [Function.update_self] at hk
      exact hk rfl
    rw [Function.update_of_ne hkey] at hk
    obtain ⟨q, hq⟩ := h.stored k hk
    exact ⟨q, (OnceChannel.mem_pending_receive hsent hout).mpr ⟨hq, hkey⟩⟩
  · intro e he
    obtain ⟨he, hkey⟩ := (OnceChannel.mem_pending_receive hsent hout).mp he
    rw [hstored, Function.update_of_ne hkey]
    exact h.pending_mono hsub he

/-- **One step refines the channel.** -/
theorem Refines.step {c : OnceChannel LzKey Bytes} (h : s.Refines keccak256 c)
    (hs : s.Logged keccak256 x s') (hnew : s.NewKey x) (hfree : CollisionFree keccak256 s'.hashed) :
    ∃ c', s'.Refines keccak256 c' := by
  cases hs with
  | taken hstored hdelivered htaken hhashed =>
    exact h.taken (h.sent ▸ hnew) hstored hdelivered htaken hhashed
  | stored hstored hdelivered htaken hhashed =>
    exact h.failed (h.sent ▸ hnew) hstored hdelivered htaken hhashed
  | retried hne hhash hstored hdelivered htaken hhashed =>
    exact h.retried hne hhash hstored hdelivered htaken hhashed hfree
  | owner hstored hdelivered htaken hhashed =>
    refine ⟨c, hdelivered ▸ h.sent, htaken ▸ h.received, ?_, ?_⟩
    · rw [hstored]; exact h.stored
    · rw [hstored, hhashed]; exact h.pending

/-- **Nothing is lost, and nothing is forwarded twice.**  In every run the deliveries of the
    endpoint and those the router took form an exactly-once channel, and whatever is pending can be
    retried by anyone, as soon as its source is authorized. -/
theorem nothing_lost {l : List LzAction} (hnew : s.New)
    (hl : Machine.Follows (step keccak256 self) NewKey s l)
    (hhashes : (Machine.run (step keccak256 self) s l).Hashes keccak256) :
    ∃ channel : OnceChannel LzKey Bytes,
      channel.sent = (Machine.run (step keccak256 self) s l).delivered ∧
      channel.received = (Machine.run (step keccak256 self) s l).taken ∧
      ∀ e ∈ channel.pending, ∀ R, (Machine.run (step keccak256 self) s l).Forwards e.1.srcChainId
          (GlacisLayerZeroAdapter.source e.1.srcAddress) e.2 R →
        ∃ a', (Machine.run (step keccak256 self) s l).retryMessage keccak256 e.1 e.2
          = .ok (a', R) := by
  obtain ⟨c, hrefines⟩ := (hl.with_invariant_of_mono (I := fun s => ∃ c, s.Refines keccak256 c)
    (C := Hashes keccak256) (fun _ _ _ hok hs' => hs'.of_logged (step_logged hok))
    (fun _ _ _ hok hP hs' ⟨_, hI⟩ => hI.step (step_logged hok) hP hs'.free)
    ⟨_, Refines.initial hnew⟩ hhashes).2
  refine ⟨c, hrefines.sent, hrefines.received, ?_⟩
  intro e he R hforwards
  obtain ⟨hhash, hmem⟩ := hrefines.pending e he
  refine ⟨_, GlacisLayerZeroAdapter.retryMessage_eq_ok.mpr ⟨?_, hhash.symm, hforwards, rfl⟩⟩
  rw [hhash]
  exact hhashes.ne_zero _ hmem

end LzRun

namespace Sample

def hello : Bytes := "hello".toUTF8.toList

/-- The hash function on what the run below hashes. -/
def helloKeccak (b : Bytes) : Bytes32 :=
  if b = hello then 0x1c8aff950685c2ed4bc3174f3472287b56d9517b9c948127319a09a7a36deac8 else 0

def lzOwner : Address := 0x1804c8AB1F12E6bbf3894d4083f33e07309d1f38

def lzEndpoint : Address := 0x3c2269811836af69497E5F486A85D7316753cf62

/-- An adapter without tables. -/
def lzRun : LzRun where
  toGlacisLayerZeroAdapter :=
    { toGlacisAbstractAdapter := .constructor 0x5afe5afe5afe5afe5afe5afe5afe5afe5afe5afe lzOwner
      lzEndpoint := lzEndpoint
      adapterParams := []
      payloadSizeLimitLookup := fun _ => 0
      failedMessages := fun _ => 0 }
  delivered := []
  taken := []
  hashed := []

def lzKey (nonce : Uint64) : LzKey := ⟨110, GlacisLayerZeroAdapter.encodePacked 0xada97e01 0xada97e01, nonce⟩

/-- A message arrives before the owner has named its source; another one after. -/
def lzActions : List LzAction :=
  [ .lzReceive lzEndpoint (lzKey 1) hello fun _ => true,
    .owner lzOwner (.base (.addRemoteCounterparts [42161] [0xada97e01])),
    .owner lzOwner (.base (.setGlacisChainIds [42161] [110])),
    .lzReceive lzEndpoint (lzKey 2) hello fun _ => true ]

theorem lzActions_newKey :
    Machine.Follows (LzRun.step helloKeccak 0xada97e01) LzRun.NewKey lzRun lzActions := by
  refine ⟨List.not_mem_nil, trivial, trivial, ?_, trivial⟩
  unfold LzRun.NewKey
  decide +kernel

theorem lzActions_hashes :
    (Machine.run (LzRun.step helloKeccak 0xada97e01) lzRun lzActions).Hashes helloKeccak :=
  ⟨by decide +kernel, by decide +kernel⟩

end Sample

theorem nothing_lost_hello :
    let s := Machine.run (LzRun.step Sample.helloKeccak 0xada97e01) Sample.lzRun Sample.lzActions
    s.delivered = [(Sample.lzKey 1, Sample.hello), (Sample.lzKey 2, Sample.hello)] ∧
    s.taken = [(Sample.lzKey 2, Sample.hello)] ∧
    ∃ channel : OnceChannel LzKey Bytes,
      channel.sent = s.delivered ∧ channel.received = s.taken ∧
      ∀ e ∈ channel.pending, ∀ R, s.Forwards e.1.srcChainId
          (GlacisLayerZeroAdapter.source e.1.srcAddress) e.2 R →
        ∃ a', s.retryMessage Sample.helloKeccak e.1 e.2 = .ok (a', R) :=
  ⟨by decide +kernel, by decide +kernel, LzRun.nothing_lost ⟨fun _ => rfl, rfl, rfl⟩
    Sample.lzActions_newKey Sample.lzActions_hashes⟩

end CrossRWA
