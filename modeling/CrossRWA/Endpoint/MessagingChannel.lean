/-
  `MessagingChannel` — the nonces and the payload hashes of LayerZero's endpoint.

  For every path the endpoint keeps the nonces it has sent, a lazy inbound nonce, and the payload
  hashes of verified messages.  Messages are verified in any order; a message is cleared only if
  every nonce below it has been verified.

  1. The functions, with their two loops.  The loops count in unchecked `uint64` arithmetic: the
     nonce after the last one is zero, whose slot is empty.  Each has as much fuel as there are
     nonces; `inboundNonce_spec` and `checkGapless_spec` say that the fuel does not run out.
  2. `inbox`: a path as a lazy inbox.  Zero is the empty slot, and every function is one step of
     the inbox of its path (`Moves`), with the other paths as they were.
-/
import CrossRWA.Adapters.GmpAdapters
import CrossRWA.Lib.LazyInbox

namespace CrossRWA

open Calls

/-! ## Errors -/

/-- The errors of the endpoint and its parts.  `outOfGas` is a loop that does not end, `badSlice` a
    slice beyond the calldata, and `notPayable` value for a function that takes none;
    `libReverted`, `receiverReverted` and `transferFailed` are reverts outside of the endpoint. -/
inductive LzError
  | LZ_LzTokenUnavailable
  | LZ_InvalidReceiveLibrary
  | LZ_InvalidNonce (nonce : Uint64)
  | LZ_InvalidExpiry
  | LZ_OnlyRegisteredOrDefaultLib
  | LZ_OnlyRegisteredLib
  | LZ_OnlyNonDefaultLib
  | LZ_Unauthorized
  | LZ_DefaultSendLibUnavailable
  | LZ_DefaultReceiveLibUnavailable
  | LZ_PathNotInitializable
  | LZ_PathNotVerifiable
  | LZ_OnlySendLib
  | LZ_OnlyReceiveLib
  | LZ_UnsupportedEid
  | LZ_UnsupportedInterface
  | LZ_AlreadyRegistered
  | LZ_SameValue
  | LZ_InvalidPayloadHash
  | LZ_PayloadHashNotFound (expected actual : Bytes32)
  | LZ_ComposeNotFound (expected actual : Bytes32)
  | LZ_ComposeExists
  | LZ_InsufficientFee
      (requiredNative suppliedNative requiredLzToken suppliedLzToken : Nat)
  | LZ_ZeroLzTokenFee
  | require (message : String)
  | Panic (code : Nat)
  | outOfGas
  | notPayable
  | libReverted
  | receiverReverted
  | transferFailed
  | badSlice
deriving DecidableEq, Repr

/-! ## State -/

/-- Where messages come from, and for whom. -/
structure InboundPath where
  receiver : Address
  srcEid : Uint32
  sender : Bytes32
deriving DecidableEq, Repr

/-- Where messages go, and from whom. -/
structure OutboundPath where
  sender : Address
  dstEid : Uint32
  receiver : Bytes32
deriving DecidableEq, Repr

structure MessagingChannel where
  eid : Uint32
  lazyInboundNonce : InboundPath → Uint64
  inboundPayloadHash : InboundPath → Uint64 → Bytes32
  outboundNonce : OutboundPath → Uint64

namespace MessagingChannel

def EMPTY_PAYLOAD_HASH : Bytes32 := 0

def NIL_PAYLOAD_HASH : Bytes32 := BitVec.allOnes 256

def constructor (eid : Uint32) : MessagingChannel where
  eid := eid
  lazyInboundNonce := fun _ => 0
  inboundPayloadHash := fun _ _ => 0
  outboundNonce := fun _ => 0

/-- The write of one payload hash. -/
def setPayloadHash (c : MessagingChannel) (path : InboundPath) (nonce : Uint64)
    (payloadHash : Bytes32) : MessagingChannel :=
  { c with
    inboundPayloadHash := Function.update c.inboundPayloadHash path
      (Function.update (c.inboundPayloadHash path) nonce payloadHash) }

/-- The write of a lazy nonce. -/
def setLazyNonce (c : MessagingChannel) (path : InboundPath) (nonce : Uint64) : MessagingChannel :=
  { c with lazyInboundNonce := Function.update c.lazyInboundNonce path nonce }

/-! ## The functions -/

/-- The next nonce; the increment is unchecked. -/
def _outbound (c : MessagingChannel) (path : OutboundPath) : MessagingChannel × Uint64 :=
  ({ c with outboundNonce := Function.update c.outboundNonce path (c.outboundNonce path + 1) },
    c.outboundNonce path + 1)

def _inbound (c : MessagingChannel) (path : InboundPath) (nonce : Uint64) (payloadHash : Bytes32) :
    Except LzError MessagingChannel := do
  refuseIf (payloadHash = EMPTY_PAYLOAD_HASH) .LZ_InvalidPayloadHash
  pure (c.setPayloadHash path nonce payloadHash)

def _hasPayloadHash (c : MessagingChannel) (path : InboundPath) (nonce : Uint64) : Bool :=
  c.inboundPayloadHash path nonce ≠ EMPTY_PAYLOAD_HASH

/-- The loop of `inboundNonce`. -/
def inboundNonceFrom (c : MessagingChannel) (path : InboundPath) :
    Nat → Uint64 → Except LzError Uint64
  | 0, _ => .error .outOfGas
  | fuel + 1, nonceCursor =>
    if c._hasPayloadHash path (nonceCursor + 1) then c.inboundNonceFrom path fuel (nonceCursor + 1)
    else .ok nonceCursor

def inboundNonce (c : MessagingChannel) (path : InboundPath) : Except LzError Uint64 :=
  c.inboundNonceFrom path (2 ^ 64) (c.lazyInboundNonce path)

/-- The loop of `_clearPayload`. -/
def checkGapless (c : MessagingChannel) (path : InboundPath) (nonce : Uint64) :
    Nat → Uint64 → Except LzError Unit
  | 0, _ => .error .outOfGas
  | fuel + 1, i =>
    if i ≤ nonce then
      if c._hasPayloadHash path i then c.checkGapless path nonce fuel (i + 1)
      else .error (.LZ_InvalidNonce i)
    else .ok ()

/-- The first part of `_clearPayload`: the lazy nonce moves to `nonce`, unless it is past it. -/
def updateLazyNonce (c : MessagingChannel) (path : InboundPath) (nonce : Uint64) :
    Except LzError MessagingChannel :=
  if c.lazyInboundNonce path < nonce then do
    c.checkGapless path nonce (2 ^ 64) (c.lazyInboundNonce path + 1)
    pure (c.setLazyNonce path nonce)
  else pure c

def _clearPayload (keccak256 : Bytes → Bytes32) (c : MessagingChannel) (path : InboundPath)
    (nonce : Uint64) (payload : Bytes) : Except LzError MessagingChannel := do
  let c ← c.updateLazyNonce path nonce
  let actualHash := keccak256 payload
  let expectedHash := c.inboundPayloadHash path nonce
  refuseIf (expectedHash ≠ actualHash) (.LZ_PayloadHashNotFound expectedHash actualHash)
  pure (c.setPayloadHash path nonce EMPTY_PAYLOAD_HASH)

/-- `skip`, after the authorization; the sum is checked. -/
def skip (c : MessagingChannel) (path : InboundPath) (nonce : Uint64) :
    Except LzError MessagingChannel := do
  let current ← c.inboundNonce path
  refuseIf (2 ^ 64 ≤ current.toNat + 1) (.Panic 0x11)
  refuseIf (nonce ≠ current + 1) (.LZ_InvalidNonce nonce)
  pure (c.setLazyNonce path nonce)

/-- `nilify`, after the authorization. -/
def nilify (c : MessagingChannel) (path : InboundPath) (nonce : Uint64) (payloadHash : Bytes32) :
    Except LzError MessagingChannel := do
  let curPayloadHash := c.inboundPayloadHash path nonce
  refuseIf (curPayloadHash ≠ payloadHash) (.LZ_PayloadHashNotFound curPayloadHash payloadHash)
  refuseIf (nonce ≤ c.lazyInboundNonce path ∧ curPayloadHash = EMPTY_PAYLOAD_HASH)
    (.LZ_InvalidNonce nonce)
  pure (c.setPayloadHash path nonce NIL_PAYLOAD_HASH)

/-- `burn`, after the authorization. -/
def burn (c : MessagingChannel) (path : InboundPath) (nonce : Uint64) (payloadHash : Bytes32) :
    Except LzError MessagingChannel := do
  let curPayloadHash := c.inboundPayloadHash path nonce
  refuseIf (curPayloadHash ≠ payloadHash) (.LZ_PayloadHashNotFound curPayloadHash payloadHash)
  refuseIf (curPayloadHash = EMPTY_PAYLOAD_HASH ∨ c.lazyInboundNonce path < nonce)
    (.LZ_InvalidNonce nonce)
  pure (c.setPayloadHash path nonce EMPTY_PAYLOAD_HASH)

/-! ## A path as an inbox -/

/-- What is in a slot: the hash zero stands for nothing. -/
def confirmed (payloadHash : Bytes32) : Option Bytes32 :=
  if payloadHash = 0 then none else some payloadHash

/-- The inbox of a path; beyond the last nonce there is nothing. -/
def inbox (c : MessagingChannel) (path : InboundPath) : LazyInbox Bytes32 where
  checkpoint := (c.lazyInboundNonce path).toNat
  slot := fun n =>
    if n < 2 ^ 64 then confirmed (c.inboundPayloadHash path (BitVec.ofNat 64 n)) else none

variable {c c' : MessagingChannel} {path path' : InboundPath} {nonce : Uint64}

@[simp] theorem confirmed_zero : confirmed 0 = none := if_pos rfl

theorem confirmed_of_ne {payloadHash : Bytes32} (h : payloadHash ≠ 0) :
    confirmed payloadHash = some payloadHash := if_neg h

theorem confirmed_eq_none {payloadHash : Bytes32} :
    confirmed payloadHash = none ↔ payloadHash = 0 := by
  constructor
  · intro h
    by_contra hne
    rw [confirmed_of_ne hne] at h
    cases h
  · rintro rfl
    exact confirmed_zero

theorem slot_toNat (c : MessagingChannel) (path : InboundPath) (nonce : Uint64) :
    (c.inbox path).slot nonce.toNat = confirmed (c.inboundPayloadHash path nonce) := by
  simp only [inbox, if_pos nonce.isLt, BitVec.ofNat_toNat, BitVec.setWidth_eq]

theorem slot_of_ge {n : Nat} (hn : 2 ^ 64 ≤ n) : (c.inbox path).slot n = none :=
  if_neg (Nat.not_lt.mpr hn)

theorem slot_eq_none :
    (c.inbox path).slot nonce.toNat = none ↔ c.inboundPayloadHash path nonce = 0 := by
  rw [slot_toNat, confirmed_eq_none]

theorem _hasPayloadHash_iff :
    c._hasPayloadHash path nonce = true ↔ (c.inbox path).slot nonce.toNat ≠ none := by
  rw [Ne, slot_eq_none, _hasPayloadHash, decide_eq_true_eq]
  rfl

/-- A write of a hash fills or empties one slot. -/
theorem slot_setPayloadHash {payloadHash : Bytes32} {n : Nat} :
    ((c.setPayloadHash path nonce payloadHash).inbox path).slot n =
      if n = nonce.toNat then confirmed payloadHash else (c.inbox path).slot n := by
  by_cases hn : n < 2 ^ 64
  · obtain ⟨m, rfl⟩ : ∃ m : Uint64, m.toNat = n :=
      ⟨BitVec.ofNat 64 n, by rw [BitVec.toNat_ofNat, Nat.mod_eq_of_lt hn]⟩
    rw [slot_toNat, slot_toNat, setPayloadHash]
    dsimp only
    rw [Function.update_self]
    by_cases hm : m = nonce
    · subst hm
      rw [Function.update_self, if_pos rfl]
    · rw [Function.update_of_ne hm, if_neg (fun h => hm (BitVec.toNat_inj.mp h))]
  · have hne : n ≠ nonce.toNat := fun h => hn (h ▸ nonce.isLt)
    rw [if_neg hne, slot_of_ge (Nat.not_lt.mp hn), slot_of_ge (Nat.not_lt.mp hn)]

theorem inbox_put {payloadHash : Bytes32} (h : payloadHash ≠ 0) :
    (c.setPayloadHash path nonce payloadHash).inbox path
      = (c.inbox path).put nonce.toNat payloadHash := by
  refine LazyInbox.ext rfl (funext fun n => ?_)
  rw [slot_setPayloadHash, confirmed_of_ne h]
  exact (Function.update_apply ..).symm

theorem inbox_drop :
    (c.setPayloadHash path nonce 0).inbox path = (c.inbox path).drop nonce.toNat := by
  refine LazyInbox.ext rfl (funext fun n => ?_)
  rw [slot_setPayloadHash, confirmed_zero]
  exact (Function.update_apply ..).symm

/-- A path whose nonce and hashes are left is left. -/
theorem inbox_congr (hlazy : c'.lazyInboundNonce path = c.lazyInboundNonce path)
    (hhash : c'.inboundPayloadHash path = c.inboundPayloadHash path) :
    c'.inbox path = c.inbox path := by
  unfold inbox
  rw [hlazy, hhash]

theorem inbox_setPayloadHash_of_ne {payloadHash : Bytes32} (h : path' ≠ path) :
    (c.setPayloadHash path nonce payloadHash).inbox path' = c.inbox path' :=
  inbox_congr rfl (Function.update_of_ne h ..)

theorem inbox_setLazyNonce :
    (c.setLazyNonce path nonce).inbox path = { c.inbox path with checkpoint := nonce.toNat } := by
  simp only [inbox, setLazyNonce, Function.update_self]

theorem inbox_setLazyNonce_of_ne (h : path' ≠ path) :
    (c.setLazyNonce path nonce).inbox path' = c.inbox path' :=
  inbox_congr (Function.update_of_ne h ..) rfl

/-! ## The loops -/

theorem toNat_succ {n : Uint64} (h : n.toNat + 1 < 2 ^ 64) : (n + 1).toNat = n.toNat + 1 :=
  BitVec.toNat_add_of_lt h

/-- After the last nonce comes zero. -/
theorem succ_eq_zero {n : Uint64} (h : ¬ n.toNat + 1 < 2 ^ 64) : n + 1 = 0 := by
  have hlt := n.isLt
  have heq : n.toNat + 1 = 2 ^ 64 := by omega
  refine BitVec.toNat_inj.mp ?_
  rw [BitVec.toNat_add]
  show (n.toNat + 1) % 2 ^ 64 = 0
  rw [heq, Nat.mod_self]

/-- **The loop of `inboundNonce`** ends at the frontier. -/
theorem inboundNonceFrom_spec (h0 : (c.inbox path).Dead 0) {fuel : Nat} {nonceCursor : Uint64}
    (hle : (c.inbox path).checkpoint ≤ nonceCursor.toNat)
    (hgap : (c.inbox path).Gapless nonceCursor.toNat) (hfuel : 2 ^ 64 ≤ nonceCursor.toNat + fuel) :
    ∃ n, c.inboundNonceFrom path fuel nonceCursor = .ok n ∧ (c.inbox path).Frontier n.toNat := by
  induction fuel generalizing nonceCursor with
  | zero => exact absurd hfuel (Nat.not_le.mpr nonceCursor.isLt)
  | succ fuel ih =>
    rw [inboundNonceFrom]
    by_cases hhas : c._hasPayloadHash path (nonceCursor + 1) = true
    · rw [if_pos hhas]
      have hslot := _hasPayloadHash_iff.mp hhas
      -- the cursor does not wrap, as the slot of zero is empty
      have hlt : nonceCursor.toNat + 1 < 2 ^ 64 := by
        by_contra hwrap
        rw [succ_eq_zero hwrap] at hslot
        exact hslot h0.2
      refine ih ?_ ?_ ?_
      · rw [toNat_succ hlt]; exact Nat.le_succ_of_le hle
      · intro m hm hmn
        rw [toNat_succ hlt] at hmn
        rcases Nat.lt_or_eq_of_le hmn with hlt' | rfl
        · exact hgap m hm (Nat.le_of_lt_succ hlt')
        · rw [← toNat_succ hlt]; exact hslot
      · rw [toNat_succ hlt]; omega
    · rw [if_neg hhas]
      refine ⟨nonceCursor, rfl, hle, hgap, ?_⟩
      by_cases hlt : nonceCursor.toNat + 1 < 2 ^ 64
      · rw [_hasPayloadHash_iff, not_not, toNat_succ hlt] at hhas
        exact hhas
      · exact slot_of_ge (Nat.not_lt.mp hlt)

/-- **`inboundNonce` returns**, and what it returns is the frontier. -/
theorem inboundNonce_spec (h0 : (c.inbox path).Dead 0) :
    ∃ n, c.inboundNonce path = .ok n ∧ (c.inbox path).Frontier n.toNat :=
  inboundNonceFrom_spec h0 (Nat.le_refl _) (fun _ hm hmn => absurd hmn (Nat.not_le.mpr hm))
    (Nat.le_add_left _ _)

/-- What the loop of `_clearPayload` looks for. -/
def Full (c : MessagingChannel) (path : InboundPath) (i nonce : Uint64) : Prop :=
  ∀ m, i.toNat ≤ m → m ≤ nonce.toNat → (c.inbox path).slot m ≠ none

/-- **The loop of `_clearPayload`** ends, and succeeds if the slots are full, unless `nonce` is the
    last one of all. -/
theorem checkGapless_cases (h0 : (c.inbox path).Dead 0) {fuel : Nat} {i : Uint64}
    (hpos : 0 < i.toNat) (hi : i.toNat ≤ nonce.toNat + 1) (hfuel : 2 ^ 64 < i.toNat + fuel) :
    (c.checkGapless path nonce fuel i = .ok () ∧ c.Full path i nonce ∧ nonce.toNat + 1 < 2 ^ 64) ∨
    (∃ m, c.checkGapless path nonce fuel i = .error (.LZ_InvalidNonce m)) ∧
      ¬ (c.Full path i nonce ∧ nonce.toNat + 1 < 2 ^ 64) := by
  induction fuel generalizing i with
  | zero => exact absurd hfuel (Nat.not_lt.mpr (Nat.le_of_lt i.isLt))
  | succ fuel ih =>
    rw [checkGapless]
    by_cases hin : i ≤ nonce
    · rw [if_pos hin]
      have hin' : i.toNat ≤ nonce.toNat := hin
      by_cases hhas : c._hasPayloadHash path i = true
      · rw [if_pos hhas]
        have hslot := _hasPayloadHash_iff.mp hhas
        by_cases hlt : i.toNat + 1 < 2 ^ 64
        · have hsucc := toNat_succ hlt
          have hfull : c.Full path i nonce ↔ c.Full path (i + 1) nonce := by
            unfold Full
            rw [hsucc]
            constructor
            · exact fun h m hm => h m (Nat.le_of_succ_le hm)
            · intro h m hm hmn
              rcases Nat.eq_or_lt_of_le hm with rfl | hm
              · exact hslot
              · exact h m hm hmn
          rw [hfull]
          refine ih ?_ ?_ ?_ <;> rw [hsucc] <;> omega
        · -- the counter wraps to zero, whose slot is empty
          have hzero : c._hasPayloadHash path 0 = false := by
            rw [← Bool.not_eq_true, _hasPayloadHash_iff, not_not]
            exact h0.2
          refine Or.inr ⟨⟨0, ?_⟩, fun h => hlt (by omega)⟩
          rw [succ_eq_zero hlt]
          cases fuel with
          | zero => exact absurd hfuel (by omega)
          | succ fuel =>
            have hle : (0 : Uint64) ≤ nonce := Nat.zero_le _
            rw [checkGapless, if_pos hle, hzero]
            rfl
      · rw [if_neg hhas]
        refine Or.inr ⟨⟨i, rfl⟩, fun h => hhas (_hasPayloadHash_iff.mpr ?_)⟩
        exact h.1 i.toNat (Nat.le_refl _) hin'
    · rw [if_neg hin]
      have hgt : nonce.toNat < i.toNat := Nat.not_le.mp hin
      have hlt := i.isLt
      refine Or.inl ⟨rfl, fun m hm hmn => ?_, by omega⟩
      exact absurd hmn (by omega)

/-! ## What each function does -/

/-- One step of the inbox of a path; the other paths stay. -/
structure Moves (c : MessagingChannel) (path : InboundPath) (ev : LazyInbox.Event Bytes32)
    (c' : MessagingChannel) : Prop where
  step : (c.inbox path).Step ev (c'.inbox path)
  others : ∀ path', path' ≠ path → c'.inbox path' = c.inbox path'

/-- What was sent stays. -/
structure SameOutbound (c c' : MessagingChannel) : Prop where
  outbound_eq : c'.outboundNonce = c.outboundNonce
  eid_eq : c'.eid = c.eid

theorem dead_toNat : (c.inbox path).Dead nonce.toNat ↔
    nonce ≤ c.lazyInboundNonce path ∧ c.inboundPayloadHash path nonce = 0 := by
  rw [LazyInbox.Dead, slot_eq_none]
  rfl

theorem Moves.put {payloadHash : Bytes32} (h : payloadHash ≠ 0)
    (hn : ¬ (c.inbox path).Dead nonce.toNat) :
    c.Moves path (.put nonce.toNat payloadHash) (c.setPayloadHash path nonce payloadHash) where
  step := by rw [inbox_put h]; exact .put hn
  others := fun _ hne => inbox_setPayloadHash_of_ne hne

/-- `_inbound` refuses the hash zero. -/
theorem _inbound_eq_ok {payloadHash : Bytes32} :
    c._inbound path nonce payloadHash = .ok c' ↔
      payloadHash ≠ 0 ∧ c' = c.setPayloadHash path nonce payloadHash := by
  simp only [_inbound, seq_eq_ok, refuseIf_eq_ok, ret_eq_ok]
  constructor
  · rintro ⟨_, hne, rfl⟩
    exact ⟨hne, rfl⟩
  · rintro ⟨hne, rfl⟩
    exact ⟨(), hne, rfl⟩

/-- **`skip`** passes the frontier. -/
theorem skip_spec (h0 : (c.inbox path).Dead 0) (h : c.skip path nonce = .ok c') :
    ∃ n, (c.inbox path).Frontier n ∧ nonce.toNat = n + 1 ∧ c' = c.setLazyNonce path nonce := by
  simp only [skip, seq_eq_ok, refuseIf_eq_ok, ret_eq_ok, not_not] at h
  obtain ⟨current, hcurrent, _, hlt, _, rfl, rfl⟩ := h
  obtain ⟨n, hn, hfrontier⟩ := inboundNonce_spec h0
  obtain rfl := Except.ok.inj (hcurrent.symm.trans hn)
  exact ⟨_, hfrontier, toNat_succ (Nat.not_le.mp hlt), rfl⟩

theorem skip_moves (h0 : (c.inbox path).Dead 0) (h : c.skip path nonce = .ok c') :
    c.Moves path (.skip nonce.toNat) c' := by
  obtain ⟨n, hfrontier, hnonce, rfl⟩ := skip_spec h0 h
  have heq : (c.setLazyNonce path nonce).inbox path = (c.inbox path).skip n := by
    rw [inbox_setLazyNonce, hnonce]
    rfl
  rw [hnonce]
  exact ⟨heq ▸ .skip hfrontier, fun _ hne => inbox_setLazyNonce_of_ne hne⟩

theorem skip_outbound (h : c.skip path nonce = .ok c') : c.SameOutbound c' := by
  simp only [skip, seq_eq_ok, ret_eq_ok] at h
  obtain ⟨_, _, _, _, _, _, rfl⟩ := h
  exact ⟨rfl, rfl⟩

/-- **`nilify`** puts the hash that no payload has. -/
theorem nilify_moves {payloadHash : Bytes32} (h : c.nilify path nonce payloadHash = .ok c') :
    c.Moves path (.put nonce.toNat NIL_PAYLOAD_HASH) c' := by
  simp only [nilify, seq_eq_ok, refuseIf_eq_ok, ret_eq_ok] at h
  obtain ⟨_, _, _, hdead, rfl⟩ := h
  exact .put (by decide) fun hd => hdead (dead_toNat.mp hd)

theorem nilify_outbound {payloadHash : Bytes32} (h : c.nilify path nonce payloadHash = .ok c') :
    c.SameOutbound c' := by
  simp only [nilify, seq_eq_ok, ret_eq_ok] at h
  obtain ⟨_, _, _, _, rfl⟩ := h
  exact ⟨rfl, rfl⟩

/-- **`burn`** empties a slot that the lazy nonce has passed. -/
theorem burn_moves {payloadHash : Bytes32} (h : c.burn path nonce payloadHash = .ok c') :
    c.Moves path (.drop nonce.toNat) c' := by
  simp only [burn, seq_eq_ok, refuseIf_eq_ok, ret_eq_ok, not_or] at h
  obtain ⟨_, _, _, ⟨hne, hle⟩, rfl⟩ := h
  refine ⟨?_, fun _ hne => inbox_setPayloadHash_of_ne hne⟩
  show (c.inbox path).Step _ ((c.setPayloadHash path nonce 0).inbox path)
  rw [inbox_drop]
  exact .drop (BitVec.not_lt.mp hle) fun hnone => hne (slot_eq_none.mp hnone)

theorem burn_outbound {payloadHash : Bytes32} (h : c.burn path nonce payloadHash = .ok c') :
    c.SameOutbound c' := by
  simp only [burn, seq_eq_ok, ret_eq_ok] at h
  obtain ⟨_, _, _, _, rfl⟩ := h
  exact ⟨rfl, rfl⟩

/-- The lazy nonce moves over full slots. -/
theorem updateLazyNonce_eq_ok (h0 : (c.inbox path).Dead 0) :
    c.updateLazyNonce path nonce = .ok c' ↔ (c.inbox path).Gapless nonce.toNat ∧
      (c.lazyInboundNonce path < nonce → nonce.toNat + 1 < 2 ^ 64) ∧
      c' = if c.lazyInboundNonce path < nonce then c.setLazyNonce path nonce else c := by
  rw [updateLazyNonce]
  by_cases hlt : c.lazyInboundNonce path < nonce
  · rw [if_pos hlt, if_pos hlt]
    have hlt' : (c.lazyInboundNonce path).toNat < nonce.toNat := hlt
    have hsucc := toNat_succ (Nat.lt_of_le_of_lt (Nat.succ_le_of_lt hlt') nonce.isLt)
    have hfull : c.Full path (c.lazyInboundNonce path + 1) nonce ↔
        (c.inbox path).Gapless nonce.toNat := by
      unfold Full
      rw [hsucc]
      rfl
    simp only [seq_eq_ok, ret_eq_ok]
    have hloop : (c.checkGapless path nonce (2 ^ 64) (c.lazyInboundNonce path + 1) = .ok () ∧
        c.Full path (c.lazyInboundNonce path + 1) nonce ∧ nonce.toNat + 1 < 2 ^ 64) ∨ _ :=
      checkGapless_cases h0 (by rw [hsucc]; omega) (by rw [hsucc]; omega) (by rw [hsucc]; omega)
    rcases hloop with ⟨hok, hgap, hlast⟩ | ⟨⟨m, herr⟩, hnot⟩
    · rw [hok]
      constructor
      · rintro ⟨_, _, rfl⟩
        exact ⟨hfull.mp hgap, fun _ => hlast, rfl⟩
      · rintro ⟨_, _, rfl⟩
        exact ⟨(), rfl, rfl⟩
    · rw [herr]
      constructor
      · rintro ⟨_, hno, _⟩
        cases hno
      · rintro ⟨hgap, hlast, _⟩
        exact absurd ⟨hfull.mpr hgap, hlast hlt⟩ hnot
  · rw [if_neg hlt, if_neg hlt, ret_eq_ok]
    constructor
    · rintro rfl
      exact ⟨fun m hm hmn => absurd (Nat.lt_of_lt_of_le hm hmn) hlt, fun h => absurd h hlt, rfl⟩
    · exact fun h => h.2.2.symm

/-- **What `_clearPayload` asks for, and does.** -/
theorem _clearPayload_eq_ok {keccak256 : Bytes → Bytes32} {payload : Bytes}
    (h0 : (c.inbox path).Dead 0) :
    c._clearPayload keccak256 path nonce payload = .ok c' ↔ (c.inbox path).Gapless nonce.toNat ∧
      (c.lazyInboundNonce path < nonce → nonce.toNat + 1 < 2 ^ 64) ∧
      c.inboundPayloadHash path nonce = keccak256 payload ∧
      c' = (if c.lazyInboundNonce path < nonce then c.setLazyNonce path nonce
        else c).setPayloadHash path nonce 0 := by
  have hhash : (if c.lazyInboundNonce path < nonce then c.setLazyNonce path nonce
      else c).inboundPayloadHash path nonce = c.inboundPayloadHash path nonce := by
    split <;> rfl
  simp only [_clearPayload, seq_eq_ok, refuseIf_eq_ok, ret_eq_ok, not_not,
    updateLazyNonce_eq_ok h0]
  constructor
  · rintro ⟨_, ⟨hgap, hlast, rfl⟩, _, heq, rfl⟩
    exact ⟨hgap, hlast, hhash ▸ heq, rfl⟩
  · rintro ⟨hgap, hlast, heq, rfl⟩
    exact ⟨_, ⟨hgap, hlast, rfl⟩, (), hhash.trans heq, rfl⟩

/-- **Clearing takes the message.** -/
theorem _clearPayload_moves {keccak256 : Bytes → Bytes32} {payload : Bytes}
    (h0 : (c.inbox path).Dead 0) (hne : keccak256 payload ≠ 0)
    (h : c._clearPayload keccak256 path nonce payload = .ok c') :
    c.Moves path (.take nonce.toNat (keccak256 payload)) c' := by
  obtain ⟨hgap, _, hhash, rfl⟩ := (_clearPayload_eq_ok h0).mp h
  have htake : ((if c.lazyInboundNonce path < nonce then c.setLazyNonce path nonce
      else c).setPayloadHash path nonce 0).inbox path = (c.inbox path).take nonce.toNat := by
    rw [inbox_drop]
    split
    · next hlt =>
      rw [inbox_setLazyNonce]
      exact LazyInbox.ext (Nat.max_eq_right (Nat.le_of_lt hlt)).symm rfl
    · next hle =>
      exact LazyInbox.ext (Nat.max_eq_left (Nat.not_lt.mp hle)).symm rfl
  have hslot : (c.inbox path).slot nonce.toNat = some (keccak256 payload) := by
    rw [slot_toNat, hhash, confirmed_of_ne hne]
  refine ⟨htake ▸ .take hgap hslot, fun path' hne => ?_⟩
  rw [inbox_setPayloadHash_of_ne hne]
  split
  · exact inbox_setLazyNonce_of_ne hne
  · rfl

theorem _clearPayload_outbound {keccak256 : Bytes → Bytes32} {payload : Bytes}
    (h : c._clearPayload keccak256 path nonce payload = .ok c') : c.SameOutbound c' := by
  simp only [_clearPayload, updateLazyNonce, seq_eq_ok, ret_eq_ok] at h
  obtain ⟨c₁, hlazy, _, _, rfl⟩ := h
  split at hlazy
  · simp only [seq_eq_ok, ret_eq_ok] at hlazy
    obtain ⟨_, _, rfl⟩ := hlazy
    exact ⟨rfl, rfl⟩
  · rw [← ret_eq_ok.mp hlazy]
    exact ⟨rfl, rfl⟩

end MessagingChannel

end CrossRWA
