/-
  `ReceiveUln302` — the library that verifies messages for an endpoint.

  DVNs submit the hash of a packet header with a payload hash; when enough of them have, anyone may
  commit the verification to the endpoint.

  1. The functions, with the two loops over the DVNs.  The loops count in `uint8` and index the
     lists, so each could panic; over an `Effective` configuration none does.
  2. `checkVerifiable_spec`: the check decides `Quorate` — every required DVN and a threshold of
     the optional ones have submitted, with enough confirmations.
  3. `Quorate.exists_honest`: if a required DVN is honest, or fewer optional ones are faulty than
     the threshold, then an honest one has submitted.
  4. `commitVerification_spec`: what a commit asked for.  `commitVerification_decides`: it succeeds
     if and only if there is a quorum, which it uses up.
-/
import CrossRWA.Endpoint.UlnBase
import CrossRWA.Lib.Quorum

namespace CrossRWA

open Calls

/-! ## State -/

structure Verification where
  submitted : Bool
  confirmations : Uint64
deriving DecidableEq, Repr

/-- What a DVN submits is kept under the hash of the header, the payload hash and the DVN. -/
structure LookupKey where
  headerHash : Bytes32
  payloadHash : Bytes32
  dvn : Address
deriving DecidableEq, Repr

structure ReceiveUln302 extends UlnBase where
  hashLookup : LookupKey → Verification

namespace ReceiveUln302

/-- A deleted verification. -/
def noVerification : Verification := ⟨false, 0⟩

def constructor (owner endpoint : Address) (localEid : Uint32) : ReceiveUln302 where
  toUlnBase := .constructor owner endpoint localEid
  hashLookup := fun _ => noVerification

def setLookup (u : ReceiveUln302) (key : LookupKey) (v : Verification) : ReceiveUln302 :=
  { u with hashLookup := Function.update u.hashLookup key v }

/-! ## The functions -/

/-- `_verify`: whoever calls is the DVN. -/
def _verify (u : ReceiveUln302) (keccak256 : Bytes → Bytes32) (msgSender : Address)
    (packetHeader : Bytes) (payloadHash : Bytes32) (confirmations : Uint64) : ReceiveUln302 :=
  u.setLookup ⟨keccak256 packetHeader, payloadHash, msgSender⟩ ⟨true, confirmations⟩

def _verified (u : ReceiveUln302) (headerHash payloadHash : Bytes32) (requiredConfirmation : Uint64)
    (dvn : Address) : Bool :=
  let verification := u.hashLookup ⟨headerHash, payloadHash, dvn⟩
  verification.submitted ∧ requiredConfirmation ≤ verification.confirmations

/-- The loop over the required DVNs: `n` rounds from the index `i` on. -/
def checkRequired (verified : Address → Bool) (dvns : List Address) :
    Nat → Nat → Except UlnError Bool
  | 0, _ => .ok true
  | n + 1, i => do
    let dvn ← orRefuse dvns[i]? (.Panic 0x32)
    if verified dvn then checkRequired verified dvns n (i + 1) else pure false

/-- The loop over the optional DVNs; the threshold counts down, with a check. -/
def checkOptional (verified : Address → Bool) (dvns : List Address) :
    Nat → Nat → Uint8 → Except UlnError Bool
  | 0, _, _ => .ok false
  | n + 1, i, threshold => do
    let dvn ← orRefuse dvns[i]? (.Panic 0x32)
    if verified dvn then do
      refuseIf (threshold = 0) (.Panic 0x11)
      if threshold - 1 = 0 then pure true else checkOptional verified dvns n (i + 1) (threshold - 1)
    else checkOptional verified dvns n (i + 1) threshold

/-- `_checkVerifiable`, for what the DVNs have verified. -/
def checkVerifiable (verified : Address → Bool) (config : UlnConfig) : Except UlnError Bool :=
  let optional := checkOptional verified config.optionalDVNs config.optionalDVNCount.toNat 0
    config.optionalDVNThreshold
  if 0 < config.requiredDVNCount then do
    let all ← checkRequired verified config.requiredDVNs config.requiredDVNCount.toNat 0
    if all = false then pure false
    else if config.optionalDVNCount = 0 then pure true
    else optional
  else optional

def _checkVerifiable (u : ReceiveUln302) (config : UlnConfig) (headerHash payloadHash : Bytes32) :
    Except UlnError Bool :=
  checkVerifiable (u._verified headerHash payloadHash config.confirmations) config

/-- The loops that delete what was submitted. -/
def reclaim (headerHash payloadHash : Bytes32) (dvns : List Address) :
    Nat → Nat → ReceiveUln302 → Except UlnError ReceiveUln302
  | 0, _, u => .ok u
  | n + 1, i, u => do
    let dvn ← orRefuse dvns[i]? (.Panic 0x32)
    reclaim headerHash payloadHash dvns n (i + 1)
      (u.setLookup ⟨headerHash, payloadHash, dvn⟩ noVerification)

def _verifyAndReclaimStorage (u : ReceiveUln302) (config : UlnConfig)
    (headerHash payloadHash : Bytes32) : Except UlnError ReceiveUln302 := do
  let verifiable ← u._checkVerifiable config headerHash payloadHash
  refuseIf (verifiable = false) .LZ_ULN_Verifying
  let u ← reclaim headerHash payloadHash config.requiredDVNs config.requiredDVNCount.toNat 0 u
  reclaim headerHash payloadHash config.optionalDVNs config.optionalDVNCount.toNat 0 u

def _assertHeader (packetHeader : Bytes) (localEid : Uint32) : Except UlnError Unit := do
  refuseIf (packetHeader.length ≠ 81) .LZ_ULN_InvalidPacketHeader
  let version ← relabel .endpoint (PacketV1Codec.version packetHeader)
  refuseIf (version ≠ PacketV1Codec.PACKET_VERSION) .LZ_ULN_InvalidPacketVersion
  let dstEid ← relabel .endpoint (PacketV1Codec.dstEid packetHeader)
  refuseIf (dstEid ≠ localEid) .LZ_ULN_InvalidEid

/-- `commitVerification` up to the call of the endpoint, with the arguments of that call. -/
def commitVerification (u : ReceiveUln302) (keccak256 : Bytes → Bytes32) (packetHeader : Bytes)
    (payloadHash : Bytes32) : Except UlnError (ReceiveUln302 × Origin × Address) := do
  _assertHeader packetHeader u.localEid
  let receiver ← relabel .endpoint (PacketV1Codec.receiverB20 packetHeader)
  let srcEid ← relabel .endpoint (PacketV1Codec.srcEid packetHeader)
  let config ← u.getUlnConfig receiver srcEid
  let u ← u._verifyAndReclaimStorage config (keccak256 packetHeader) payloadHash
  let sender ← relabel .endpoint (PacketV1Codec.sender packetHeader)
  let nonce ← relabel .endpoint (PacketV1Codec.nonce packetHeader)
  pure (u, ⟨srcEid, sender, nonce⟩, receiver)

/-! ## The loops -/

variable {u u' : ReceiveUln302} {verified : Address → Bool} {dvns : List Address}
  {headerHash payloadHash : Bytes32} {config : UlnConfig}

/-- A round looks at the first of the DVNs that are left. -/
theorem getElem?_of_drop {dvn : Address} {left : List Address} {i : Nat}
    (h : dvns.drop i = dvn :: left) : dvns[i]? = some dvn ∧ dvns.drop (i + 1) = left := by
  constructor
  · rw [← List.head?_drop, h]
    rfl
  · rw [← List.tail_drop, h]
    rfl

/-- **The loop over the required DVNs** asks for all. -/
theorem checkRequired_spec {left : List Address} {i : Nat} (h : dvns.drop i = left) :
    checkRequired verified dvns left.length i = .ok (left.all verified) := by
  induction left generalizing i with
  | nil => rfl
  | cons dvn left ih =>
    obtain ⟨hget, hdrop⟩ := getElem?_of_drop h
    rw [List.length_cons, checkRequired, hget, List.all_cons]
    show (if verified dvn = true then _ else _) = _
    cases verified dvn with
    | true => exact ih hdrop
    | false => rfl

/-- **The loop over the optional DVNs** asks for as many as the threshold. -/
theorem checkOptional_spec {left : List Address} {i : Nat} {threshold : Uint8}
    (h : dvns.drop i = left) (hpos : 0 < threshold.toNat) :
    checkOptional verified dvns left.length i threshold
      = .ok (decide (threshold.toNat ≤ left.countP verified)) := by
  induction left generalizing i threshold with
  | nil =>
    rw [List.countP_nil, decide_eq_false (Nat.not_le.mpr hpos)]
    rfl
  | cons dvn left ih =>
    obtain ⟨hget, hdrop⟩ := getElem?_of_drop h
    rw [List.length_cons, checkOptional, hget, List.countP_cons]
    show (if verified dvn = true then _ else _) = _
    cases verified dvn with
    | true =>
      have hne : threshold ≠ 0 := by
        rintro rfl
        exact Nat.lt_irrefl 0 hpos
      have hsub : (threshold - 1).toNat = threshold.toNat - 1 :=
        BitVec.toNat_sub_of_le (BitVec.le_def.mpr hpos)
      rw [if_pos rfl, if_pos rfl, refuseIf, if_neg hne, ok_seq]
      by_cases hone : threshold - 1 = 0
      · have hle : threshold.toNat ≤ left.countP verified + 1 := by
          rw [hone] at hsub
          have : (0 : Uint8).toNat = 0 := rfl
          omega
        rw [if_pos hone, decide_eq_true hle]
        rfl
      · have hpos' : 0 < (threshold - 1).toNat := by
          rw [Nat.pos_iff_ne_zero]
          exact fun hzero => hone (BitVec.eq_of_toNat_eq hzero)
        rw [if_neg hone, ih hdrop hpos', hsub]
        congr 2
        exact propext (by omega)
    | false => exact ih hdrop hpos

/-- **The loop that deletes** empties the lookups of the DVNs and no other. -/
theorem reclaim_spec {left : List Address} {i : Nat} (h : dvns.drop i = left)
    (u : ReceiveUln302) : ∃ u', reclaim headerHash payloadHash dvns left.length i u = .ok u' ∧
      u'.toUlnBase = u.toUlnBase ∧
      (∀ key, u'.hashLookup key = u.hashLookup key ∨ u'.hashLookup key = noVerification) ∧
      ∀ dvn ∈ left, u'.hashLookup ⟨headerHash, payloadHash, dvn⟩ = noVerification := by
  induction left generalizing i u with
  | nil => exact ⟨u, rfl, rfl, fun _ => Or.inl rfl, fun _ hmem => absurd hmem List.not_mem_nil⟩
  | cons dvn left ih =>
    obtain ⟨hget, hdrop⟩ := getElem?_of_drop h
    obtain ⟨u', hrec, hbase, hlookup, hempty⟩ := ih hdrop
      (u.setLookup ⟨headerHash, payloadHash, dvn⟩ noVerification)
    have hself : u'.hashLookup ⟨headerHash, payloadHash, dvn⟩ = noVerification :=
      (hlookup _).elim (fun heq => heq.trans (Function.update_self ..)) id
    refine ⟨u', ?_, hbase, fun key => ?_, List.forall_mem_cons.mpr ⟨hself, hempty⟩⟩
    · rw [List.length_cons, reclaim, hget]
      exact hrec
    · by_cases hkey : key = ⟨headerHash, payloadHash, dvn⟩
      · subst hkey
        exact Or.inr hself
      · exact (hlookup key).imp_left fun heq => heq.trans (Function.update_of_ne hkey ..)

/-! ## The quorum -/

/-- Every required DVN, and a threshold of the optional ones. -/
def Quorate (verified : Address → Bool) (config : UlnConfig) : Prop :=
  config.requiredDVNs.all verified = true ∧
    config.optionalDVNThreshold.toNat ≤ config.optionalDVNs.countP verified

instance : Decidable (Quorate verified config) := inferInstanceAs (Decidable (_ ∧ _))

/-- **The check decides the quorum**, and never panics. -/
theorem checkVerifiable_spec (h : config.Effective) :
    checkVerifiable verified config = .ok (decide (Quorate verified config)) := by
  have hrequired : checkRequired verified config.requiredDVNs config.requiredDVNCount.toNat 0
      = .ok (config.requiredDVNs.all verified) := by
    rw [← h.required_length]
    exact checkRequired_spec List.drop_zero
  have hoptional : config.optionalDVNs ≠ [] →
      checkOptional verified config.optionalDVNs config.optionalDVNCount.toNat 0
        config.optionalDVNThreshold
      = .ok (decide (config.optionalDVNThreshold.toNat ≤ config.optionalDVNs.countP verified)) := by
    intro hne
    rw [← h.optional_length]
    exact checkOptional_spec List.drop_zero (h.threshold_pos hne)
  have hcount : config.optionalDVNCount = 0 ↔ config.optionalDVNs = [] := by
    rw [← List.length_eq_zero_iff, h.optional_length]
    exact BitVec.toNat_inj.symm
  have hpos : 0 < config.requiredDVNCount ↔ config.requiredDVNs ≠ [] := by
    rw [Ne, ← List.length_eq_zero_iff, h.required_length, ← Ne, ← Nat.pos_iff_ne_zero]
    rfl
  rw [checkVerifiable]
  by_cases hreq : 0 < config.requiredDVNCount
  · rw [if_pos hreq, hrequired, ok_seq]
    cases hall : config.requiredDVNs.all verified with
    | false => simp [Quorate, hall, pure, Except.pure]
    | true =>
      rw [if_neg (by decide)]
      by_cases hopt : config.optionalDVNCount = 0
      · -- without optional DVNs there is no threshold
        have hle := h.threshold_le
        rw [hcount.mp hopt] at hle
        have hquorate : Quorate verified config :=
          ⟨hall, Nat.le_trans hle (Nat.zero_le _)⟩
        rw [if_pos hopt, decide_eq_true hquorate]
        rfl
      · rw [if_neg hopt, hoptional (fun hnil => hopt (hcount.mpr hnil))]
        simp only [Quorate, hall, true_and]
  · have hnil : config.requiredDVNs = [] := by
      by_contra hne
      exact hreq (hpos.mpr hne)
    rw [if_neg hreq, hoptional (h.somebody.resolve_left (not_not.mpr hnil))]
    simp only [Quorate, hnil, List.all_nil, true_and]

/-- A quorum that the faulty DVNs cannot make: a required DVN is honest, or fewer optional ones are
    faulty than the threshold. -/
def Trustworthy (honest : Address → Bool) (config : UlnConfig) : Prop :=
  (∃ dvn ∈ config.requiredDVNs, honest dvn = true) ∨
    config.optionalDVNs.countP (fun dvn => !honest dvn) < config.optionalDVNThreshold.toNat

/-- **Then an honest one has verified.** -/
theorem Quorate.exists_honest {honest : Address → Bool} (h : Quorate verified config)
    (hnodup : config.optionalDVNs.Nodup) (htrust : Trustworthy honest config) :
    ∃ dvn, honest dvn = true ∧ verified dvn = true := by
  rcases htrust with ⟨dvn, hmem, hhonest⟩ | hfew
  · exact ⟨dvn, hhonest, List.all_eq_true.mp h.1 dvn hmem⟩
  · -- more have verified than are faulty
    have hlt : (config.optionalDVNs.filter fun dvn => !honest dvn).length
        < (config.optionalDVNs.filter verified).length := by
      rw [← List.countP_eq_length_filter, ← List.countP_eq_length_filter]
      exact Nat.lt_of_lt_of_le hfew h.2
    obtain ⟨dvn, hmem, hnot⟩ := (hnodup.filter verified).exists_notMem_of_length_lt hlt
    obtain ⟨hmem, hverified⟩ := List.mem_filter.mp hmem
    refine ⟨dvn, ?_, hverified⟩
    by_contra hfaulty
    rw [Bool.not_eq_true] at hfaulty
    exact hnot (List.mem_filter.mpr ⟨hmem, by rw [hfaulty]; rfl⟩)

/-! ## Committing -/

theorem reclaim_all {n : Nat} (hn : dvns.length = n) (u : ReceiveUln302) :
    ∃ u', reclaim headerHash payloadHash dvns n 0 u = .ok u' ∧ u'.toUlnBase = u.toUlnBase ∧
      (∀ key, u'.hashLookup key = u.hashLookup key ∨ u'.hashLookup key = noVerification) ∧
      ∀ dvn ∈ dvns, u'.hashLookup ⟨headerHash, payloadHash, dvn⟩ = noVerification :=
  hn ▸ reclaim_spec List.drop_zero u

/-- **What a commit asks for, and leaves.**  The header is one of this chain, the receiver's
    configuration has its quorum, and afterwards some lookups are empty. -/
theorem commitVerification_spec {keccak256 : Bytes → Bytes32} {packetHeader : Bytes}
    {origin : Origin} {receiver : Address}
    (heffective : ∀ oapp eid config, u.getUlnConfig oapp eid = .ok config → config.Effective)
    (h : u.commitVerification keccak256 packetHeader payloadHash = .ok (u', origin, receiver)) :
    packetHeader.length = 81 ∧
    PacketV1Codec.version packetHeader = .ok PacketV1Codec.PACKET_VERSION ∧
    PacketV1Codec.dstEid packetHeader = .ok u.localEid ∧
    PacketV1Codec.receiverB20 packetHeader = .ok receiver ∧
    PacketV1Codec.srcEid packetHeader = .ok origin.srcEid ∧
    PacketV1Codec.sender packetHeader = .ok origin.sender ∧
    PacketV1Codec.nonce packetHeader = .ok origin.nonce ∧
    (∃ config, u.getUlnConfig receiver origin.srcEid = .ok config ∧
      Quorate (u._verified (keccak256 packetHeader) payloadHash config.confirmations) config) ∧
    u'.toUlnBase = u.toUlnBase ∧
    ∀ key, u'.hashLookup key = u.hashLookup key ∨ u'.hashLookup key = noVerification := by
  simp only [commitVerification, _assertHeader, _verifyAndReclaimStorage, _checkVerifiable,
    seq_eq_ok, refuseIf_eq_ok, relabel_eq_ok, ret_eq_ok, not_not, Bool.not_eq_false] at h
  obtain ⟨_, ⟨_, hlen, version, hversion, _, rfl, dstEid, hdst, rfl⟩, r, hreceiver, srcEid, hsrc,
    config, hconfig, u₂, ⟨verifiable, hcheck, _, rfl, u₁, hreq, hopt⟩, sender, hsender, nonce, hnonce,
    heq⟩ := h
  obtain ⟨rfl, rfl, rfl⟩ := heq
  have heff := heffective _ _ _ hconfig
  rw [checkVerifiable_spec heff] at hcheck
  obtain ⟨v₁, hreq', hbase₁, hlookup₁, _⟩ := reclaim_all heff.required_length u
  obtain rfl := Except.ok.inj (hreq.symm.trans hreq')
  obtain ⟨v₂, hopt', hbase₂, hlookup₂, _⟩ := reclaim_all heff.optional_length u₁
  obtain rfl := Except.ok.inj (hopt.symm.trans hopt')
  refine ⟨hlen, hversion, hdst, hreceiver, hsrc, hsender, hnonce, ⟨config, hconfig,
    of_decide_eq_true (Except.ok.inj hcheck)⟩, hbase₂.trans hbase₁, fun key => ?_⟩
  rcases hlookup₂ key with heq | hnone
  · exact (hlookup₁ key).imp heq.trans heq.trans
  · exact Or.inr hnone

/-- A header is read as the packet's path and nonce. -/
theorem commit_origin {keccak256 : Bytes → Bytes32} {p : LzPacket} {origin : Origin} {receiver : Address}
    (heffective : ∀ oapp eid config, u.getUlnConfig oapp eid = .ok config → config.Effective)
    (h : u.commitVerification keccak256 (PacketV1Codec.encodePacketHeader p) payloadHash
      = .ok (u', origin, receiver)) :
    p.dstEid = u.localEid ∧ receiver = toAddress p.receiver ∧
      origin = ⟨p.srcEid, toBytes32 p.sender, p.nonce⟩ := by
  obtain ⟨_, _, hdst, hreceiver, hsrc, hsender, hnonce, _, _, _⟩ :=
    commitVerification_spec heffective h
  have hreads := PacketV1Codec.reads_encode p
  have hdst' := Except.ok.inj
    ((PacketV1Codec.field_header hreads.dstEid (by decide)).symm.trans hdst)
  have hsrc' := Except.ok.inj
    ((PacketV1Codec.field_header hreads.srcEid (by decide)).symm.trans hsrc)
  have hsender' := Except.ok.inj
    ((PacketV1Codec.field_header hreads.sender (by decide)).symm.trans hsender)
  have hnonce' := Except.ok.inj
    ((PacketV1Codec.field_header hreads.nonce (by decide)).symm.trans hnonce)
  obtain ⟨r, hr, hto⟩ := seq_eq_ok.mp hreceiver
  obtain rfl := Except.ok.inj
    ((PacketV1Codec.field_header hreads.receiver (by decide)).symm.trans hr)
  refine ⟨hdst', (ret_eq_ok.mp hto).symm, ?_⟩
  rw [hsrc', hsender', hnonce']

/-- A header for a chain passes the library's checks. -/
theorem _assertHeader_encode {p : LzPacket} {localEid : Uint32}
    (hdst : p.dstEid = localEid) :
    _assertHeader (PacketV1Codec.encodePacketHeader p) localEid = .ok () := by
  have hreads := PacketV1Codec.reads_encode p
  simp only [_assertHeader, PacketV1Codec.length_encodePacketHeader,
    show PacketV1Codec.version _ = _ from
      PacketV1Codec.field_header hreads.version (by decide),
    show PacketV1Codec.dstEid _ = _ from PacketV1Codec.field_header hreads.dstEid (by decide)]
  subst hdst
  simp [refuseIf, relabel, bind, Except.bind]

/-- **What a quorum decides**, and that it is used up. -/
theorem _verifyAndReclaimStorage_spec (h : config.Effective) (u : ReceiveUln302)
    (headerHash payloadHash : Bytes32) :
    (Quorate (u._verified headerHash payloadHash config.confirmations) config →
      ∃ u', u._verifyAndReclaimStorage config headerHash payloadHash = .ok u' ∧
        u'.toUlnBase = u.toUlnBase ∧
        ¬ Quorate (u'._verified headerHash payloadHash config.confirmations) config) ∧
    (¬ Quorate (u._verified headerHash payloadHash config.confirmations) config →
      u._verifyAndReclaimStorage config headerHash payloadHash = .error .LZ_ULN_Verifying) := by
  have hcheck : u._checkVerifiable config headerHash payloadHash
      = .ok (decide (Quorate (u._verified headerHash payloadHash config.confirmations) config)) :=
    checkVerifiable_spec h
  refine ⟨fun hquorate => ?_, fun hnot => ?_⟩
  · obtain ⟨u₁, hreq, hbase₁, _, hempty₁⟩ := reclaim_all h.required_length u
    obtain ⟨u₂, hopt, hbase₂, hlookup₂, hempty₂⟩ := reclaim_all h.optional_length u₁
    refine ⟨u₂, ?_, hbase₂.trans hbase₁, ?_⟩
    · rw [_verifyAndReclaimStorage, hcheck, ok_seq, decide_eq_true hquorate, refuseIf,
        if_neg (by decide), ok_seq, hreq, ok_seq, hopt]
    · -- nobody has verified any more, and somebody is asked for
      have hnone : ∀ dvn, u₂.hashLookup ⟨headerHash, payloadHash, dvn⟩ = noVerification →
          u₂._verified headerHash payloadHash config.confirmations dvn = false := by
        intro dvn hdvn
        refine decide_eq_false fun hand => ?_
        have hsubmitted : (u₂.hashLookup ⟨headerHash, payloadHash, dvn⟩).submitted = true := hand.1
        rw [hdvn] at hsubmitted
        cases hsubmitted
      rintro ⟨hall, hle⟩
      have hrequired : config.requiredDVNs = [] := by
        refine List.eq_nil_iff_forall_not_mem.mpr fun dvn hmem => ?_
        have hfalse := hnone dvn ((hlookup₂ _).elim (fun heq => heq.trans (hempty₁ dvn hmem)) id)
        rw [List.all_eq_true.mp hall dvn hmem] at hfalse
        cases hfalse
      have hcount : config.optionalDVNs.countP
          (u₂._verified headerHash payloadHash config.confirmations) = 0 :=
        List.countP_eq_zero.mpr fun dvn hmem => by
          rw [hnone dvn (hempty₂ dvn hmem)]
          decide
      have hoptional := h.somebody.resolve_left (not_not.mpr hrequired)
      have hpos := h.threshold_pos hoptional
      omega
  · rw [_verifyAndReclaimStorage, hcheck, ok_seq, decide_eq_false hnot, refuseIf_of rfl, error_seq]

/-- **What a commit decides**: a header for this chain goes through if and only if it has its
    quorum, and not again; nothing else fails. -/
theorem commitVerification_decides {keccak256 : Bytes → Bytes32} {packetHeader : Bytes}
    {receiver : Address} {srcEid : Uint32} (h : config.Effective)
    (hassert : _assertHeader packetHeader u.localEid = .ok ())
    (hreceiver : PacketV1Codec.receiverB20 packetHeader = .ok receiver)
    (hsrc : PacketV1Codec.srcEid packetHeader = .ok srcEid)
    (hconfig : u.getUlnConfig receiver srcEid = .ok config) :
    (Quorate (u._verified (keccak256 packetHeader) payloadHash config.confirmations) config →
      ∃ u' origin, u.commitVerification keccak256 packetHeader payloadHash
          = .ok (u', origin, receiver) ∧
        u'.commitVerification keccak256 packetHeader payloadHash = .error .LZ_ULN_Verifying) ∧
    (¬ Quorate (u._verified (keccak256 packetHeader) payloadHash config.confirmations) config →
      u.commitVerification keccak256 packetHeader payloadHash = .error .LZ_ULN_Verifying) := by
  -- the fields that are left to read are in the header
  have hlen : packetHeader.length = 81 := by
    obtain ⟨_, hlen, _⟩ := seq_eq_ok.mp hassert
    exact not_not.mp (refuseIf_eq_ok.mp hlen)
  obtain ⟨sender, hsender⟩ : ∃ sender, PacketV1Codec.sender packetHeader = .ok sender :=
    ⟨_, PacketV1Codec.field_eq_ok.mpr ⟨by omega, rfl⟩⟩
  obtain ⟨nonce, hnonce⟩ : ∃ nonce, PacketV1Codec.nonce packetHeader = .ok nonce :=
    ⟨_, PacketV1Codec.field_eq_ok.mpr ⟨by omega, rfl⟩⟩
  have hcommit : ∀ v : ReceiveUln302, v.toUlnBase = u.toUlnBase →
      v.commitVerification keccak256 packetHeader payloadHash
        = (v._verifyAndReclaimStorage config (keccak256 packetHeader) payloadHash >>= fun v' =>
            pure (v', ⟨srcEid, sender, nonce⟩, receiver)) := by
    intro v hv
    rw [commitVerification, hv, hassert, hreceiver, hsrc, hsender, hnonce]
    show (u.getUlnConfig receiver srcEid >>= _) = _
    rw [hconfig]
    rfl
  obtain ⟨hyes, hno⟩ := _verifyAndReclaimStorage_spec h u (keccak256 packetHeader) payloadHash
  refine ⟨fun hquorate => ?_, fun hnot => ?_⟩
  · obtain ⟨u', hu', hbase, hused⟩ := hyes hquorate
    refine ⟨u', ⟨srcEid, sender, nonce⟩, ?_, ?_⟩
    · rw [hcommit u rfl, hu']
      rfl
    · rw [hcommit u' hbase, (_verifyAndReclaimStorage_spec h u' _ _).2 hused]
      rfl
  · rw [hcommit u rfl, hno hnot]
    rfl

end ReceiveUln302

end CrossRWA
