/-
  `UlnBase` — which verifiers an application asks for.

  A message is verified by decentralized verifier networks (DVNs): all of the required ones, and a
  threshold of the optional ones.  Every application has a configuration for every remote endpoint,
  whose parts may point to a default.

  1. The checks of `_setConfig`, each with its errors.  They accept exactly the `Valid`
     configurations (`assertConfig_eq_ok`), and `UlnBase` keeps no others: its field
     `configs_valid` says so, and `_setConfig` is the only write.
  2. `getUlnConfig` lays a custom configuration over the default.  Over a default without NIL the
     result is `Effective`: the counts are the lengths, nobody is named twice, and there is
     somebody to ask (`getUlnConfig_effective`).
-/
import CrossRWA.Endpoint.PacketV1Codec

namespace CrossRWA

open Calls

/-! ## Errors -/

/-- The errors of the library; `badConfig` is bytes that are no configuration, and `endpoint` an
    error of the endpoint that it calls. -/
inductive UlnError
  | LZ_ULN_Unsorted
  | LZ_ULN_InvalidRequiredDVNCount
  | LZ_ULN_InvalidOptionalDVNCount
  | LZ_ULN_AtLeastOneDVN
  | LZ_ULN_InvalidOptionalDVNThreshold
  | LZ_ULN_InvalidConfirmations
  | LZ_ULN_UnsupportedEid (eid : Uint32)
  | LZ_ULN_InvalidPacketHeader
  | LZ_ULN_InvalidPacketVersion
  | LZ_ULN_InvalidEid
  | LZ_ULN_Verifying
  | LZ_ULN_InvalidConfigType (configType : Uint32)
  | LZ_MessageLib_OnlyEndpoint
  | require (message : String)
  | Panic (code : Nat)
  | badConfig
  | endpoint (error : LzError)
deriving DecidableEq, Repr

/-! ## Configurations -/

structure UlnConfig where
  confirmations : Uint64
  requiredDVNCount : Uint8
  optionalDVNCount : Uint8
  optionalDVNThreshold : Uint8
  requiredDVNs : List Address
  optionalDVNs : List Address
deriving DecidableEq, Repr

namespace UlnConfig

def DEFAULT : Uint8 := 0

def NIL_DVN_COUNT : Uint8 := 255

def NIL_CONFIRMATIONS : Uint64 := BitVec.allOnes 64

def MAX_COUNT : Uint8 := 127

/-- A configuration that was never set. -/
def unset : UlnConfig := ⟨0, 0, 0, 0, [], []⟩

/-- The loop of `_assertNoDuplicates`, after `lastDVN`. -/
def assertAscending (lastDVN : Address) : List Address → Except UlnError Unit
  | [] => .ok ()
  | dvn :: dvns => do
    refuseIf (dvn ≤ lastDVN) .LZ_ULN_Unsorted
    assertAscending dvn dvns

def _assertNoDuplicates (dvns : List Address) : Except UlnError Unit := assertAscending 0 dvns

/-- The checks of the required DVNs, ... -/
def assertRequired (param : UlnConfig) : Except UlnError Unit :=
  if param.requiredDVNCount = NIL_DVN_COUNT ∨ param.requiredDVNCount = DEFAULT then
    refuseIf (param.requiredDVNs.length ≠ 0) .LZ_ULN_InvalidRequiredDVNCount
  else do
    refuseIf (param.requiredDVNs.length ≠ param.requiredDVNCount.toNat ∨
      MAX_COUNT < param.requiredDVNCount) .LZ_ULN_InvalidRequiredDVNCount
    _assertNoDuplicates param.requiredDVNs

/-- ... of the optional ones, ... -/
def assertOptional (param : UlnConfig) : Except UlnError Unit :=
  if param.optionalDVNCount = NIL_DVN_COUNT ∨ param.optionalDVNCount = DEFAULT then do
    refuseIf (param.optionalDVNs.length ≠ 0) .LZ_ULN_InvalidOptionalDVNCount
    refuseIf (param.optionalDVNThreshold ≠ 0) .LZ_ULN_InvalidOptionalDVNThreshold
  else do
    refuseIf (param.optionalDVNs.length ≠ param.optionalDVNCount.toNat ∨
      MAX_COUNT < param.optionalDVNCount) .LZ_ULN_InvalidOptionalDVNCount
    refuseIf (param.optionalDVNThreshold = 0 ∨
      param.optionalDVNCount < param.optionalDVNThreshold) .LZ_ULN_InvalidOptionalDVNThreshold
    _assertNoDuplicates param.optionalDVNs

/-- ... and both. -/
def assertConfig (param : UlnConfig) : Except UlnError Unit := do
  assertRequired param
  assertOptional param

def _assertAtLeastOneDVN (config : UlnConfig) : Except UlnError Unit :=
  refuseIf (config.requiredDVNCount = 0 ∧ config.optionalDVNThreshold = 0) .LZ_ULN_AtLeastOneDVN

/-- Nobody is named, or as many as the count says, in ascending order. -/
def Listed (count : Uint8) (dvns : List Address) : Prop :=
  if count = NIL_DVN_COUNT ∨ count = DEFAULT then dvns = []
  else dvns.length = count.toNat ∧ count ≤ MAX_COUNT ∧ (0 :: dvns).Pairwise (· < ·)

structure Valid (c : UlnConfig) : Prop where
  required : Listed c.requiredDVNCount c.requiredDVNs
  optional : Listed c.optionalDVNCount c.optionalDVNs
  threshold_le : c.optionalDVNThreshold.toNat ≤ c.optionalDVNs.length
  threshold_pos : c.optionalDVNs ≠ [] → 0 < c.optionalDVNThreshold.toNat

theorem Valid.unset : UlnConfig.unset.Valid where
  required := by simp [Listed, UlnConfig.unset, DEFAULT]
  optional := by simp [Listed, UlnConfig.unset, DEFAULT]
  threshold_le := by decide
  threshold_pos := by decide

variable {c : UlnConfig} {u : Unit}

/-- Ascending, and therefore without duplicates. -/
theorem assertAscending_eq_ok {lastDVN : Address} {dvns : List Address} :
    assertAscending lastDVN dvns = .ok u ↔ (lastDVN :: dvns).IsChain (· < ·) := by
  induction dvns generalizing lastDVN with
  | nil => simp [assertAscending]
  | cons dvn dvns ih =>
    simp only [assertAscending, seq_eq_ok, refuseIf_eq_ok, ih, List.isChain_cons_cons]
    constructor
    · rintro ⟨_, hlt, hchain⟩
      exact ⟨BitVec.not_le.mp hlt, hchain⟩
    · rintro ⟨hlt, hchain⟩
      exact ⟨(), BitVec.not_le.mpr hlt, hchain⟩

theorem _assertNoDuplicates_eq_ok {dvns : List Address} :
    _assertNoDuplicates dvns = .ok u ↔ (0 :: dvns).Pairwise (· < ·) := by
  have : Trans (α := Address) (β := Address) (γ := Address) (· < ·) (· < ·) (· < ·) :=
    ⟨fun h h' => BitVec.lt_trans h h'⟩
  rw [_assertNoDuplicates, assertAscending_eq_ok, List.isChain_iff_pairwise]

theorem assertRequired_eq_ok :
    assertRequired c = .ok u ↔ Listed c.requiredDVNCount c.requiredDVNs := by
  rw [assertRequired, Listed]
  split
  · rw [refuseIf_eq_ok, not_not, List.length_eq_zero_iff]
  · simp only [seq_eq_ok, refuseIf_eq_ok, _assertNoDuplicates_eq_ok, not_or, not_not,
      BitVec.not_lt]
    constructor
    · rintro ⟨_, ⟨hlen, hmax⟩, hasc⟩
      exact ⟨hlen, hmax, hasc⟩
    · rintro ⟨hlen, hmax, hasc⟩
      exact ⟨(), ⟨hlen, hmax⟩, hasc⟩

theorem assertOptional_eq_ok :
    assertOptional c = .ok u ↔ Listed c.optionalDVNCount c.optionalDVNs ∧
      c.optionalDVNThreshold.toNat ≤ c.optionalDVNs.length ∧
      (c.optionalDVNs ≠ [] → 0 < c.optionalDVNThreshold.toNat) := by
  rw [assertOptional, Listed]
  split
  · simp only [seq_eq_ok, refuseIf_eq_ok, not_not, List.length_eq_zero_iff]
    constructor
    · rintro ⟨_, hnil, hzero⟩
      simp [hnil, hzero]
    · rintro ⟨hnil, hle, _⟩
      rw [hnil] at hle
      exact ⟨(), hnil, BitVec.eq_of_toNat_eq (Nat.le_zero.mp hle)⟩
  · next hcount =>
    simp only [seq_eq_ok, refuseIf_eq_ok, _assertNoDuplicates_eq_ok, not_or, not_not,
      BitVec.not_lt]
    have hpos : c.optionalDVNThreshold ≠ 0 ↔ 0 < c.optionalDVNThreshold.toNat := by
      rw [Nat.pos_iff_ne_zero]
      exact not_congr BitVec.toNat_inj.symm
    constructor
    · rintro ⟨_, ⟨hlen, hmax⟩, _, ⟨hzero, hle⟩, hasc⟩
      exact ⟨⟨hlen, hmax, hasc⟩, hlen ▸ hle, fun _ => hpos.mp hzero⟩
    · rintro ⟨⟨hlen, hmax, hasc⟩, hle, hne⟩
      refine ⟨(), ⟨hlen, hmax⟩, (), ⟨hpos.mpr (hne ?_), ?_⟩, hasc⟩
      · intro hnil
        rw [hnil] at hlen
        exact hcount (Or.inr (BitVec.eq_of_toNat_eq hlen.symm))
      · show c.optionalDVNThreshold.toNat ≤ c.optionalDVNCount.toNat
        rw [← hlen]
        exact hle

/-- **What the checks accept.** -/
theorem assertConfig_eq_ok : assertConfig c = .ok u ↔ c.Valid := by
  simp only [assertConfig, seq_eq_ok, assertRequired_eq_ok, assertOptional_eq_ok]
  constructor
  · rintro ⟨_, hrequired, hoptional, hle, hpos⟩
    exact ⟨hrequired, hoptional, hle, hpos⟩
  · rintro ⟨hrequired, hoptional, hle, hpos⟩
    exact ⟨(), hrequired, hoptional, hle, hpos⟩

/-! ## The default and the custom configuration -/

/-- A part of the custom configuration, or of the default it points to; `none` for nobody. -/
def pick {A : Type} (custom default : Uint8) (ofCustom ofDefault : A) (none : A) : A :=
  if custom = DEFAULT then (if 0 < default then ofDefault else none)
  else if custom ≠ NIL_DVN_COUNT then ofCustom
  else none

def requiredOf (default custom : UlnConfig) : List Address × Uint8 :=
  pick custom.requiredDVNCount default.requiredDVNCount
    (custom.requiredDVNs, custom.requiredDVNCount)
    (default.requiredDVNs, default.requiredDVNCount) ([], 0)

def optionalOf (default custom : UlnConfig) : List Address × Uint8 × Uint8 :=
  pick custom.optionalDVNCount default.optionalDVNCount
    (custom.optionalDVNs, custom.optionalDVNCount, custom.optionalDVNThreshold)
    (default.optionalDVNs, default.optionalDVNCount, default.optionalDVNThreshold) ([], 0, 0)

/-- The confirmations have a NIL value of their own. -/
def confirmationsOf (default custom : UlnConfig) : Uint64 :=
  if custom.confirmations = 0 then default.confirmations
  else if custom.confirmations ≠ NIL_CONFIRMATIONS then custom.confirmations
  else 0

/-- `getUlnConfig`, of what is stored for the default and for the application. -/
def resolve (default custom : UlnConfig) : Except UlnError UlnConfig := do
  let required := requiredOf default custom
  let optional := optionalOf default custom
  let config := ⟨confirmationsOf default custom, required.2, optional.2.1, optional.2.2, required.1,
    optional.1⟩
  _assertAtLeastOneDVN config
  pure config

/-- The counts of a default are numbers. -/
def Literal (c : UlnConfig) : Prop :=
  c.requiredDVNCount ≠ NIL_DVN_COUNT ∧ c.optionalDVNCount ≠ NIL_DVN_COUNT

/-- A configuration as it is used. -/
structure Effective (c : UlnConfig) : Prop where
  required_length : c.requiredDVNs.length = c.requiredDVNCount.toNat
  optional_length : c.optionalDVNs.length = c.optionalDVNCount.toNat
  required_nodup : c.requiredDVNs.Nodup
  optional_nodup : c.optionalDVNs.Nodup
  threshold_le : c.optionalDVNThreshold.toNat ≤ c.optionalDVNs.length
  threshold_pos : c.optionalDVNs ≠ [] → 0 < c.optionalDVNThreshold.toNat
  somebody : c.requiredDVNs ≠ [] ∨ c.optionalDVNs ≠ []

/-- The DVNs of a count that is not NIL. -/
theorem Listed.length_nodup {count : Uint8} {dvns : List Address} (h : Listed count dvns)
    (hcount : count ≠ NIL_DVN_COUNT) : dvns.length = count.toNat ∧ dvns.Nodup := by
  rw [Listed] at h
  split at h
  · next hor =>
    obtain rfl := hor.resolve_left hcount
    subst h
    exact ⟨rfl, List.nodup_nil⟩
  · obtain ⟨hlen, _, hasc⟩ := h
    refine ⟨hlen, (List.pairwise_cons.mp hasc).2.imp ?_⟩
    rintro dvn _ hlt rfl
    exact BitVec.lt_irrefl dvn hlt

/-- What is picked has what both choices and nobody have. -/
theorem pick_of {A : Type} {P : A → Prop} {custom default : Uint8} {ofCustom ofDefault none : A}
    (hcustom : custom ≠ DEFAULT → custom ≠ NIL_DVN_COUNT → P ofCustom)
    (hdefault : 0 < default → P ofDefault) (hnone : P none) :
    P (pick custom default ofCustom ofDefault none) := by
  unfold pick
  split
  · split
    · next h => exact hdefault h
    · exact hnone
  · next hne =>
    split
    · next hnil => exact hcustom hne hnil
    · exact hnone

/-- **Over a literal default the configuration is effective.** -/
theorem resolve_effective {default custom : UlnConfig} (hdefault : default.Valid)
    (hliteral : default.Literal) (hcustom : custom.Valid) (h : resolve default custom = .ok c) :
    c.Effective := by
  simp only [resolve, _assertAtLeastOneDVN, seq_eq_ok, refuseIf_eq_ok, ret_eq_ok] at h
  obtain ⟨_, hsome, rfl⟩ := h
  obtain ⟨hrequired, hrequired_nodup⟩ : (requiredOf default custom).1.length
      = (requiredOf default custom).2.toNat ∧ (requiredOf default custom).1.Nodup :=
    pick_of (P := fun p : List Address × Uint8 => p.1.length = p.2.toNat ∧ p.1.Nodup)
      (fun _ hne => hcustom.required.length_nodup hne)
      (fun _ => hdefault.required.length_nodup hliteral.1) ⟨rfl, List.nodup_nil⟩
  obtain ⟨⟨hoptional, hoptional_nodup⟩, hle, hpos⟩ : ((optionalOf default custom).1.length
      = (optionalOf default custom).2.1.toNat ∧ (optionalOf default custom).1.Nodup) ∧
      (optionalOf default custom).2.2.toNat ≤ (optionalOf default custom).1.length ∧
      ((optionalOf default custom).1 ≠ [] → 0 < (optionalOf default custom).2.2.toNat) :=
    pick_of (P := fun p : List Address × Uint8 × Uint8 =>
        (p.1.length = p.2.1.toNat ∧ p.1.Nodup) ∧ p.2.2.toNat ≤ p.1.length ∧
          (p.1 ≠ [] → 0 < p.2.2.toNat))
      (fun _ hne => ⟨hcustom.optional.length_nodup hne, hcustom.threshold_le, hcustom.threshold_pos⟩)
      (fun _ => ⟨hdefault.optional.length_nodup hliteral.2, hdefault.threshold_le,
        hdefault.threshold_pos⟩)
      ⟨⟨rfl, List.nodup_nil⟩, Nat.le_refl _, fun hne => absurd rfl hne⟩
  refine ⟨hrequired, hoptional, hrequired_nodup, hoptional_nodup, hle, hpos, ?_⟩
  -- a configuration that names nobody has no DVN at all
  by_contra hnobody
  rw [not_or, not_not, not_not] at hnobody
  obtain ⟨hnone, hnone'⟩ : (requiredOf default custom).1 = [] ∧ (optionalOf default custom).1 = [] :=
    hnobody
  refine hsome ⟨BitVec.eq_of_toNat_eq ?_, BitVec.eq_of_toNat_eq ?_⟩
  · rw [← hrequired, hnone]
    rfl
  · rw [hnone'] at hle
    exact Nat.le_zero.mp hle

end UlnConfig

/-! ## State -/

/-- The endpoint of the library, and the configurations, each of them valid. -/
structure UlnBase where
  owner : Address
  endpoint : Address
  localEid : Uint32
  ulnConfigs : Address × Uint32 → UlnConfig
  configs_valid : ∀ k, (ulnConfigs k).Valid

/-- A new configuration for a remote endpoint; `config` is what is decoded, if it can be. -/
structure SetConfigParam where
  eid : Uint32
  configType : Uint32
  config : Option UlnConfig
deriving DecidableEq, Repr

namespace UlnBase

def DEFAULT_CONFIG : Address := 0

def CONFIG_TYPE_ULN : Uint32 := 2

def constructor (owner endpoint : Address) (localEid : Uint32) : UlnBase where
  owner := owner
  endpoint := endpoint
  localEid := localEid
  ulnConfigs := fun _ => .unset
  configs_valid := fun _ => .unset

def getUlnConfig (u : UlnBase) (oapp : Address) (remoteEid : Uint32) :
    Except UlnError UlnConfig :=
  UlnConfig.resolve (u.ulnConfigs (DEFAULT_CONFIG, remoteEid)) (u.ulnConfigs (oapp, remoteEid))

/-- The write of a configuration that passed the checks. -/
def put (u : UlnBase) (oapp : Address) (eid : Uint32) (param : UlnConfig) (h : param.Valid) :
    UlnBase :=
  { u with
    ulnConfigs := Function.update u.ulnConfigs (oapp, eid) param
    configs_valid := (Function.forall_update_iff u.ulnConfigs (p := fun _ c => c.Valid)).mpr
      ⟨h, fun k _ => u.configs_valid k⟩ }

def _setConfig (u : UlnBase) (oapp : Address) (eid : Uint32) (param : UlnConfig) :
    Except UlnError UlnBase :=
  match h : param.assertConfig with
  | .error error => .error error
  | .ok _ => .ok (u.put oapp eid param (UlnConfig.assertConfig_eq_ok.mp h))

def _setUlnConfig (u : UlnBase) (remoteEid : Uint32) (oapp : Address) (param : UlnConfig) :
    Except UlnError UlnBase := do
  let u ← u._setConfig oapp remoteEid param
  let _ ← u.getUlnConfig oapp remoteEid
  pure u

def _isSupportedEid (u : UlnBase) (remoteEid : Uint32) : Bool :=
  let defaultConfig := u.ulnConfigs (DEFAULT_CONFIG, remoteEid)
  0 < defaultConfig.requiredDVNCount ∨ 0 < defaultConfig.optionalDVNThreshold

/-- One round of the loop of `setDefaultUlnConfigs`. -/
def setDefaultUlnConfig (u : UlnBase) (eid : Uint32) (config : UlnConfig) :
    Except UlnError UlnBase := do
  refuseIf (config.requiredDVNCount = UlnConfig.NIL_DVN_COUNT) .LZ_ULN_InvalidRequiredDVNCount
  refuseIf (config.optionalDVNCount = UlnConfig.NIL_DVN_COUNT) .LZ_ULN_InvalidOptionalDVNCount
  refuseIf (config.confirmations = UlnConfig.NIL_CONFIRMATIONS) .LZ_ULN_InvalidConfirmations
  config._assertAtLeastOneDVN
  u._setConfig DEFAULT_CONFIG eid config

def onlyOwner (u : UlnBase) (msgSender : Address) : Except UlnError Unit :=
  refuseIf (u.owner ≠ msgSender) (.require "Ownable: caller is not the owner")

def setDefaultUlnConfigs (u : UlnBase) (msgSender : Address) (params : List (Uint32 × UlnConfig)) :
    Except UlnError UlnBase := do
  u.onlyOwner msgSender
  params.foldlM (fun u param => u.setDefaultUlnConfig param.1 param.2) u

/-- `Ownable.transferOwnership`. -/
def transferOwnership (u : UlnBase) (msgSender newOwner : Address) : Except UlnError UlnBase := do
  u.onlyOwner msgSender
  refuseIf (newOwner = 0) (.require "Ownable: new owner is the zero address")
  pure { u with owner := newOwner }

/-- `Ownable.renounceOwnership`. -/
def renounceOwnership (u : UlnBase) (msgSender : Address) : Except UlnError UlnBase := do
  u.onlyOwner msgSender
  pure { u with owner := 0 }

/-- One round of the loop of `setConfig`. -/
def setOneConfig (u : UlnBase) (oapp : Address) (param : SetConfigParam) :
    Except UlnError UlnBase := do
  refuseIf (u._isSupportedEid param.eid = false) (.LZ_ULN_UnsupportedEid param.eid)
  refuseIf (param.configType ≠ CONFIG_TYPE_ULN) (.LZ_ULN_InvalidConfigType param.configType)
  let config ← orRefuse param.config .badConfig
  u._setUlnConfig param.eid oapp config

def setConfig (u : UlnBase) (msgSender oapp : Address) (params : List SetConfigParam) :
    Except UlnError UlnBase := do
  refuseIf (u.endpoint ≠ msgSender) .LZ_MessageLib_OnlyEndpoint
  params.foldlM (fun u param => u.setOneConfig oapp param) u

/-! ## The defaults stay literal -/

variable {u u' : UlnBase} {oapp msgSender : Address} {eid : Uint32} {param : UlnConfig}

/-- No default has NIL. -/
def LiteralDefaults (u : UlnBase) : Prop := ∀ eid, (u.ulnConfigs (DEFAULT_CONFIG, eid)).Literal

theorem LiteralDefaults.constructor (owner endpoint : Address) (localEid : Uint32) :
    (UlnBase.constructor owner endpoint localEid).LiteralDefaults :=
  fun _ => show UlnConfig.unset.Literal from ⟨by decide, by decide⟩

/-- **Over literal defaults every configuration is effective.** -/
theorem LiteralDefaults.effective (h : u.LiteralDefaults) {config : UlnConfig}
    (hconfig : u.getUlnConfig oapp eid = .ok config) : config.Effective :=
  UlnConfig.resolve_effective (u.configs_valid _) (h eid) (u.configs_valid _) hconfig

/-- A configuration is written if it is valid. -/
theorem _setConfig_eq_ok :
    u._setConfig oapp eid param = .ok u' ↔ ∃ h : param.Valid, u.put oapp eid param h = u' := by
  unfold _setConfig
  split
  · next error herror =>
    refine ⟨fun h => (nomatch h), fun ⟨h, _⟩ => ?_⟩
    rw [(UlnConfig.assertConfig_eq_ok (u := ())).mpr h] at herror
    cases herror
  · next hok =>
    constructor
    · intro h
      exact ⟨_, Except.ok.inj h⟩
    · rintro ⟨_, rfl⟩
      rfl

/-- The write of a configuration keeps the defaults literal if it is not a default, or literal. -/
theorem LiteralDefaults.put (h : u.LiteralDefaults) {hvalid : param.Valid}
    (hparam : oapp = DEFAULT_CONFIG → param.Literal) : (u.put oapp eid param hvalid).LiteralDefaults := by
  intro eid'
  show (Function.update u.ulnConfigs (oapp, eid) param (DEFAULT_CONFIG, eid')).Literal
  by_cases hkey : (DEFAULT_CONFIG, eid') = (oapp, eid)
  · rw [hkey, Function.update_self]
    exact hparam (Prod.mk.inj hkey).1.symm
  · rw [Function.update_of_ne hkey]
    exact h eid'

/-- A loop keeps what each of its rounds keeps. -/
theorem foldlM_keeps {A : Type} {I : UlnBase → Prop} {f : UlnBase → A → Except UlnError UlnBase}
    (hround : ∀ u a u', f u a = .ok u' → I u → I u') {l : List A} (hu : I u)
    (h : l.foldlM f u = .ok u') : I u' := by
  induction l generalizing u with
  | nil =>
    rw [← ret_eq_ok.mp h]
    exact hu
  | cons a l ih =>
    rw [List.foldlM_cons] at h
    obtain ⟨u₁, hu₁, hrest⟩ := seq_eq_ok.mp h
    exact ih (hround u a u₁ hu₁ hu) hrest

/-- **The owner's defaults are literal.** -/
theorem setDefaultUlnConfigs_keeps {params : List (Uint32 × UlnConfig)} (hu : u.LiteralDefaults)
    (h : u.setDefaultUlnConfigs msgSender params = .ok u') :
    u'.LiteralDefaults ∧ u'.localEid = u.localEid := by
  simp only [setDefaultUlnConfigs, seq_eq_ok] at h
  obtain ⟨_, _, hloop⟩ := h
  refine foldlM_keeps (I := fun v => v.LiteralDefaults ∧ v.localEid = u.localEid) ?_
    ⟨hu, rfl⟩ hloop
  rintro v param v' hround ⟨hv, heid⟩
  simp only [setDefaultUlnConfig, seq_eq_ok, refuseIf_eq_ok, _setConfig_eq_ok] at hround
  obtain ⟨_, hreq, _, hopt, _, _, _, _, _, rfl⟩ := hround
  exact ⟨hv.put fun _ => ⟨hreq, hopt⟩, heid⟩

/-- A new owner changes no configuration. -/
theorem transferOwnership_keeps {newOwner : Address} (hu : u.LiteralDefaults)
    (h : u.transferOwnership msgSender newOwner = .ok u') :
    u'.LiteralDefaults ∧ u'.localEid = u.localEid := by
  simp only [transferOwnership, seq_eq_ok, ret_eq_ok] at h
  obtain ⟨_, _, _, _, rfl⟩ := h
  exact ⟨hu, rfl⟩

theorem renounceOwnership_keeps (hu : u.LiteralDefaults)
    (h : u.renounceOwnership msgSender = .ok u') :
    u'.LiteralDefaults ∧ u'.localEid = u.localEid := by
  simp only [renounceOwnership, seq_eq_ok, ret_eq_ok] at h
  obtain ⟨_, _, rfl⟩ := h
  exact ⟨hu, rfl⟩

/-- **An application writes its own configurations only.** -/
theorem setConfig_keeps {params : List SetConfigParam} (hu : u.LiteralDefaults)
    (hoapp : oapp ≠ DEFAULT_CONFIG) (h : u.setConfig msgSender oapp params = .ok u') :
    u'.LiteralDefaults ∧ u'.localEid = u.localEid := by
  simp only [setConfig, seq_eq_ok] at h
  obtain ⟨_, _, hloop⟩ := h
  refine foldlM_keeps (I := fun v => v.LiteralDefaults ∧ v.localEid = u.localEid) ?_
    ⟨hu, rfl⟩ hloop
  rintro v param v' hround ⟨hv, heid⟩
  simp only [setOneConfig, _setUlnConfig, seq_eq_ok, ret_eq_ok, _setConfig_eq_ok] at hround
  obtain ⟨_, _, _, _, config, _, _, ⟨_, rfl⟩, _, _, rfl⟩ := hround
  exact ⟨hv.put fun heq => absurd heq hoapp, heid⟩

end UlnBase

end CrossRWA
