/-
  `MessageLibManager` — which message libraries an endpoint trusts.

  A message is verified by a library, and every receiver chooses its own, or follows the default.
  An old library may stay valid for a grace period.

  1. The tables, the modifiers, and the setters, each with its checks in the order of the source.
     What the libraries answer, and the block number, are arguments (`LibEnv`); so is the check of
     the authority over an application, which is the endpoint's.
  2. `Registered`: whatever is in a table is a registered library, or the zero address that stands
     for the default.  Every setter keeps it (`Registered.exec`), and a valid receive library is
     therefore a registered one (`Registered.valid`).
-/
import CrossRWA.Endpoint.MessagingChannel

namespace CrossRWA

open Calls

/-! ## State -/

inductive MessageLibType
  | Send
  | Receive
  | SendAndReceive
deriving DecidableEq, Repr

/-- What the libraries answer, and the block. -/
structure LibEnv where
  blockNumber : Nat
  supportsInterface : Address → Bool
  messageLibType : Address → MessageLibType
  isSupportedEid : Address → Uint32 → Bool

structure Timeout where
  lib : Address
  expiry : Nat
deriving DecidableEq, Repr

/-- The tables of an application are keyed by the application and the endpoint id. -/
structure MessageLibManager where
  owner : Address
  blockedLibrary : Address
  registeredLibraries : List Address
  isRegisteredLibrary : Address → Bool
  sendLibrary : Address × Uint32 → Address
  receiveLibrary : Address × Uint32 → Address
  receiveLibraryTimeout : Address × Uint32 → Timeout
  defaultSendLibrary : Uint32 → Address
  defaultReceiveLibrary : Uint32 → Address
  defaultReceiveLibraryTimeout : Uint32 → Timeout

namespace MessageLibManager

def DEFAULT_LIB : Address := 0

/-- A deleted timeout. -/
def noTimeout : Timeout := ⟨0, 0⟩

def constructor (owner blockedLibrary : Address) : MessageLibManager where
  owner := owner
  blockedLibrary := blockedLibrary
  registeredLibraries := [blockedLibrary]
  isRegisteredLibrary := Function.update (fun _ => false) blockedLibrary true
  sendLibrary := fun _ => 0
  receiveLibrary := fun _ => 0
  receiveLibraryTimeout := fun _ => noTimeout
  defaultSendLibrary := fun _ => 0
  defaultReceiveLibrary := fun _ => 0
  defaultReceiveLibraryTimeout := fun _ => noTimeout

/-! ## Modifiers -/

def onlyOwner (m : MessageLibManager) (msgSender : Address) : Except LzError Unit :=
  refuseIf (m.owner ≠ msgSender) (.require "Ownable: caller is not the owner")

def onlyRegistered (m : MessageLibManager) (lib : Address) : Except LzError Unit :=
  refuseIf (m.isRegisteredLibrary lib = false) .LZ_OnlyRegisteredLib

def onlyRegisteredOrDefault (m : MessageLibManager) (lib : Address) : Except LzError Unit :=
  refuseIf (m.isRegisteredLibrary lib = false ∧ lib ≠ DEFAULT_LIB) .LZ_OnlyRegisteredOrDefaultLib

def isSendLib (env : LibEnv) (lib : Address) : Except LzError Unit :=
  refuseIf (lib ≠ DEFAULT_LIB ∧ env.messageLibType lib = .Receive) .LZ_OnlySendLib

def isReceiveLib (env : LibEnv) (lib : Address) : Except LzError Unit :=
  refuseIf (lib ≠ DEFAULT_LIB ∧ env.messageLibType lib = .Send) .LZ_OnlyReceiveLib

def onlySupportedEid (env : LibEnv) (lib : Address) (eid : Uint32) : Except LzError Unit :=
  refuseIf (lib ≠ DEFAULT_LIB ∧ env.isSupportedEid lib eid = false) .LZ_UnsupportedEid

/-! ## Queries -/

def getSendLibrary (m : MessageLibManager) (sender : Address) (dstEid : Uint32) :
    Except LzError Address :=
  let lib := m.sendLibrary (sender, dstEid)
  if lib = DEFAULT_LIB then do
    refuseIf (m.defaultSendLibrary dstEid = 0) .LZ_DefaultSendLibUnavailable
    pure (m.defaultSendLibrary dstEid)
  else pure lib

/-- The library, and whether it is the default. -/
def getReceiveLibrary (m : MessageLibManager) (receiver : Address) (srcEid : Uint32) :
    Except LzError (Address × Bool) :=
  let lib := m.receiveLibrary (receiver, srcEid)
  if lib = DEFAULT_LIB then do
    refuseIf (m.defaultReceiveLibrary srcEid = 0) .LZ_DefaultReceiveLibUnavailable
    pure (m.defaultReceiveLibrary srcEid, true)
  else pure (lib, false)

def isValidReceiveLibrary (m : MessageLibManager) (env : LibEnv) (receiver : Address)
    (srcEid : Uint32) (actualReceiveLib : Address) : Except LzError Bool := do
  let (expectedReceiveLib, isDefault) ← m.getReceiveLibrary receiver srcEid
  let timeout := if isDefault then m.defaultReceiveLibraryTimeout srcEid
    else m.receiveLibraryTimeout (receiver, srcEid)
  pure (decide (actualReceiveLib = expectedReceiveLib ∨
    timeout.lib = actualReceiveLib ∧ env.blockNumber < timeout.expiry))

/-! ## The owner's setters -/

def registerLibrary (m : MessageLibManager) (env : LibEnv) (msgSender lib : Address) :
    Except LzError MessageLibManager := do
  m.onlyOwner msgSender
  refuseIf (env.supportsInterface lib = false) .LZ_UnsupportedInterface
  refuseIf (m.isRegisteredLibrary lib = true) .LZ_AlreadyRegistered
  pure { m with
    isRegisteredLibrary := Function.update m.isRegisteredLibrary lib true
    registeredLibraries := m.registeredLibraries ++ [lib] }

def setDefaultSendLibrary (m : MessageLibManager) (env : LibEnv) (msgSender : Address)
    (eid : Uint32) (newLib : Address) : Except LzError MessageLibManager := do
  m.onlyOwner msgSender
  m.onlyRegistered newLib
  isSendLib env newLib
  onlySupportedEid env newLib eid
  refuseIf (m.defaultSendLibrary eid = newLib) .LZ_SameValue
  pure { m with defaultSendLibrary := Function.update m.defaultSendLibrary eid newLib }

/-- The timeout that a grace period gives to the old library; none for no grace period. -/
def graceTimeout (env : LibEnv) (oldLib : Address) (gracePeriod : Nat) : Except LzError Timeout :=
  if 0 < gracePeriod then do
    refuseIf (uint256Max < env.blockNumber + gracePeriod) (.Panic 0x11)
    pure ⟨oldLib, env.blockNumber + gracePeriod⟩
  else pure noTimeout

def setDefaultReceiveLibrary (m : MessageLibManager) (env : LibEnv) (msgSender : Address)
    (eid : Uint32) (newLib : Address) (gracePeriod : Nat) : Except LzError MessageLibManager := do
  m.onlyOwner msgSender
  m.onlyRegistered newLib
  isReceiveLib env newLib
  onlySupportedEid env newLib eid
  let oldLib := m.defaultReceiveLibrary eid
  refuseIf (oldLib = newLib) .LZ_SameValue
  let timeout ← graceTimeout env oldLib gracePeriod
  pure { m with
    defaultReceiveLibrary := Function.update m.defaultReceiveLibrary eid newLib
    defaultReceiveLibraryTimeout := Function.update m.defaultReceiveLibraryTimeout eid timeout }

/-- The timeout that a setter writes; none for the expiry zero. -/
def expiryTimeout (env : LibEnv) (lib : Address) (expiry : Nat) : Except LzError Timeout :=
  if expiry = 0 then pure noTimeout
  else do
    refuseIf (expiry ≤ env.blockNumber) .LZ_InvalidExpiry
    pure ⟨lib, expiry⟩

/-- Here the owner is checked last. -/
def setDefaultReceiveLibraryTimeout (m : MessageLibManager) (env : LibEnv) (msgSender : Address)
    (eid : Uint32) (lib : Address) (expiry : Nat) : Except LzError MessageLibManager := do
  m.onlyRegistered lib
  isReceiveLib env lib
  onlySupportedEid env lib eid
  m.onlyOwner msgSender
  let timeout ← expiryTimeout env lib expiry
  pure { m with
    defaultReceiveLibraryTimeout := Function.update m.defaultReceiveLibraryTimeout eid timeout }

/-- `Ownable.transferOwnership`. -/
def transferOwnership (m : MessageLibManager) (msgSender newOwner : Address) :
    Except LzError MessageLibManager := do
  m.onlyOwner msgSender
  refuseIf (newOwner = 0) (.require "Ownable: new owner is the zero address")
  pure { m with owner := newOwner }

/-- `Ownable.renounceOwnership`. -/
def renounceOwnership (m : MessageLibManager) (msgSender : Address) :
    Except LzError MessageLibManager := do
  m.onlyOwner msgSender
  pure { m with owner := 0 }

/-! ## The applications' setters -/

section Applications

-- the endpoint checks that the caller may act for the application
variable (_assertAuthorized : Address → Except LzError Unit)

def setSendLibrary (m : MessageLibManager) (env : LibEnv) (oapp : Address) (eid : Uint32)
    (newLib : Address) : Except LzError MessageLibManager := do
  m.onlyRegisteredOrDefault newLib
  isSendLib env newLib
  onlySupportedEid env newLib eid
  _assertAuthorized oapp
  refuseIf (m.sendLibrary (oapp, eid) = newLib) .LZ_SameValue
  pure { m with sendLibrary := Function.update m.sendLibrary (oapp, eid) newLib }

/-- A grace period is only for a change from one library of one's own to another. -/
def setReceiveLibrary (m : MessageLibManager) (env : LibEnv) (oapp : Address) (eid : Uint32)
    (newLib : Address) (gracePeriod : Nat) : Except LzError MessageLibManager := do
  m.onlyRegisteredOrDefault newLib
  isReceiveLib env newLib
  onlySupportedEid env newLib eid
  _assertAuthorized oapp
  let oldLib := m.receiveLibrary (oapp, eid)
  refuseIf (oldLib = newLib) .LZ_SameValue
  refuseIf (0 < gracePeriod ∧ (oldLib = DEFAULT_LIB ∨ newLib = DEFAULT_LIB)) .LZ_OnlyNonDefaultLib
  let timeout ← graceTimeout env oldLib gracePeriod
  pure { m with
    receiveLibrary := Function.update m.receiveLibrary (oapp, eid) newLib
    receiveLibraryTimeout := Function.update m.receiveLibraryTimeout (oapp, eid) timeout }

def setReceiveLibraryTimeout (m : MessageLibManager) (env : LibEnv) (oapp : Address)
    (eid : Uint32) (lib : Address) (expiry : Nat) : Except LzError MessageLibManager := do
  m.onlyRegistered lib
  isReceiveLib env lib
  onlySupportedEid env lib eid
  _assertAuthorized oapp
  let (_, isDefault) ← m.getReceiveLibrary oapp eid
  refuseIf (isDefault = true) .LZ_OnlyNonDefaultLib
  let timeout ← expiryTimeout env lib expiry
  pure { m with
    receiveLibraryTimeout := Function.update m.receiveLibraryTimeout (oapp, eid) timeout }

/-- The calls that write the tables. -/
inductive Call
  | registerLibrary (lib : Address)
  | setDefaultSendLibrary (eid : Uint32) (newLib : Address)
  | setDefaultReceiveLibrary (eid : Uint32) (newLib : Address) (gracePeriod : Nat)
  | setDefaultReceiveLibraryTimeout (eid : Uint32) (lib : Address) (expiry : Nat)
  | transferOwnership (newOwner : Address)
  | renounceOwnership
  | setSendLibrary (oapp : Address) (eid : Uint32) (newLib : Address)
  | setReceiveLibrary (oapp : Address) (eid : Uint32) (newLib : Address) (gracePeriod : Nat)
  | setReceiveLibraryTimeout (oapp : Address) (eid : Uint32) (lib : Address) (expiry : Nat)
deriving DecidableEq, Repr

def exec (m : MessageLibManager) (env : LibEnv) (msgSender : Address) :
    Call → Except LzError MessageLibManager
  | .registerLibrary lib => m.registerLibrary env msgSender lib
  | .setDefaultSendLibrary eid newLib => m.setDefaultSendLibrary env msgSender eid newLib
  | .setDefaultReceiveLibrary eid newLib gracePeriod =>
    m.setDefaultReceiveLibrary env msgSender eid newLib gracePeriod
  | .setDefaultReceiveLibraryTimeout eid lib expiry =>
    m.setDefaultReceiveLibraryTimeout env msgSender eid lib expiry
  | .transferOwnership newOwner => m.transferOwnership msgSender newOwner
  | .renounceOwnership => m.renounceOwnership msgSender
  | .setSendLibrary oapp eid newLib => m.setSendLibrary _assertAuthorized env oapp eid newLib
  | .setReceiveLibrary oapp eid newLib gracePeriod =>
    m.setReceiveLibrary _assertAuthorized env oapp eid newLib gracePeriod
  | .setReceiveLibraryTimeout oapp eid lib expiry =>
    m.setReceiveLibraryTimeout _assertAuthorized env oapp eid lib expiry

end Applications

/-! ## Only registered libraries -/

/-- Registered, or the default's sign. -/
def Known (m : MessageLibManager) (lib : Address) : Prop :=
  lib = 0 ∨ m.isRegisteredLibrary lib = true

/-- Every library in the tables is known. -/
structure Registered (m : MessageLibManager) : Prop where
  sendLibrary : ∀ k, m.Known (m.sendLibrary k)
  receiveLibrary : ∀ k, m.Known (m.receiveLibrary k)
  receiveLibraryTimeout : ∀ k, m.Known (m.receiveLibraryTimeout k).lib
  defaultSendLibrary : ∀ eid, m.Known (m.defaultSendLibrary eid)
  defaultReceiveLibrary : ∀ eid, m.Known (m.defaultReceiveLibrary eid)
  defaultReceiveLibraryTimeout : ∀ eid, m.Known (m.defaultReceiveLibraryTimeout eid).lib

variable {m m' : MessageLibManager} {env : LibEnv} {msgSender lib : Address}
  {_assertAuthorized : Address → Except LzError Unit}

theorem Registered.constructor (owner blockedLibrary : Address) :
    (MessageLibManager.constructor owner blockedLibrary).Registered :=
  ⟨fun _ => Or.inl rfl, fun _ => Or.inl rfl, fun _ => Or.inl rfl, fun _ => Or.inl rfl,
    fun _ => Or.inl rfl, fun _ => Or.inl rfl⟩

theorem forall_update {K V : Type} [DecidableEq K] {P : V → Prop} {f : K → V} (h : ∀ k, P (f k))
    {k : K} {v : V} (hv : P v) : ∀ k', P (Function.update f k v k') :=
  (Function.forall_update_iff f (p := fun _ => P)).mpr ⟨hv, fun k' _ => h k'⟩

theorem onlyRegistered_eq_ok {u : Unit} :
    m.onlyRegistered lib = .ok u ↔ m.isRegisteredLibrary lib = true := by
  rw [onlyRegistered, refuseIf_eq_ok, Bool.not_eq_false]

theorem onlyRegisteredOrDefault_eq_ok {u : Unit} :
    m.onlyRegisteredOrDefault lib = .ok u ↔ m.Known lib := by
  rw [onlyRegisteredOrDefault, refuseIf_eq_ok, not_and_or, Bool.not_eq_false, not_not, or_comm]
  rfl

theorem graceTimeout_known {oldLib : Address} {gracePeriod : Nat} {timeout : Timeout}
    (hold : m.Known oldLib) (h : graceTimeout env oldLib gracePeriod = .ok timeout) :
    m.Known timeout.lib := by
  unfold graceTimeout at h
  split at h
  · simp only [seq_eq_ok, ret_eq_ok] at h
    obtain ⟨_, _, rfl⟩ := h
    exact hold
  · rw [← ret_eq_ok.mp h]
    exact Or.inl rfl

theorem expiryTimeout_known {expiry : Nat} {timeout : Timeout} (hlib : m.Known lib)
    (h : expiryTimeout env lib expiry = .ok timeout) : m.Known timeout.lib := by
  unfold expiryTimeout at h
  split at h
  · rw [← ret_eq_ok.mp h]
    exact Or.inl rfl
  · simp only [seq_eq_ok, ret_eq_ok] at h
    obtain ⟨_, _, rfl⟩ := h
    exact hlib

/-- A library stays known when another is registered. -/
theorem Known.register {newLib : Address} (h : m.Known lib) : lib = 0 ∨
    Function.update m.isRegisteredLibrary newLib true lib = true := by
  rcases h with h | h
  · exact Or.inl h
  · by_cases heq : lib = newLib
    · exact Or.inr (by rw [heq, Function.update_self])
    · exact Or.inr (by rw [Function.update_of_ne heq]; exact h)

/-- **Every setter leaves known libraries only**, and unregisters none. -/
theorem Registered.exec (h : m.Registered) {call : Call}
    (hok : m.exec _assertAuthorized env msgSender call = .ok m') :
    m'.Registered ∧ ∀ lib, m.Known lib → m'.Known lib := by
  cases call with
  | registerLibrary newLib =>
    simp only [MessageLibManager.exec, registerLibrary, seq_eq_ok, ret_eq_ok] at hok
    obtain ⟨_, _, _, _, _, _, rfl⟩ := hok
    exact ⟨⟨fun k => (h.sendLibrary k).register, fun k => (h.receiveLibrary k).register,
      fun k => (h.receiveLibraryTimeout k).register, fun k => (h.defaultSendLibrary k).register,
      fun k => (h.defaultReceiveLibrary k).register,
      fun k => (h.defaultReceiveLibraryTimeout k).register⟩, fun _ hlib => hlib.register⟩
  | setDefaultSendLibrary eid newLib =>
    simp only [MessageLibManager.exec, setDefaultSendLibrary, seq_eq_ok, ret_eq_ok,
      onlyRegistered_eq_ok] at hok
    obtain ⟨_, _, _, hreg, _, _, _, _, _, _, rfl⟩ := hok
    exact ⟨{ h with defaultSendLibrary := forall_update h.defaultSendLibrary (Or.inr hreg) },
      fun _ hlib => hlib⟩
  | setDefaultReceiveLibrary eid newLib gracePeriod =>
    simp only [MessageLibManager.exec, setDefaultReceiveLibrary, seq_eq_ok, ret_eq_ok,
      onlyRegistered_eq_ok] at hok
    obtain ⟨_, _, _, hreg, _, _, _, _, _, _, timeout, htimeout, rfl⟩ := hok
    have hold := graceTimeout_known (h.defaultReceiveLibrary eid) htimeout
    exact ⟨{ h with
      defaultReceiveLibrary := forall_update h.defaultReceiveLibrary (Or.inr hreg)
      defaultReceiveLibraryTimeout := forall_update (P := fun t : Timeout => m.Known t.lib)
        h.defaultReceiveLibraryTimeout hold }, fun _ hlib => hlib⟩
  | setDefaultReceiveLibraryTimeout eid newLib expiry =>
    simp only [MessageLibManager.exec, setDefaultReceiveLibraryTimeout, seq_eq_ok, ret_eq_ok,
      onlyRegistered_eq_ok] at hok
    obtain ⟨_, hreg, _, _, _, _, _, _, timeout, htimeout, rfl⟩ := hok
    have hnew := expiryTimeout_known (Or.inr hreg) htimeout
    exact ⟨{ h with
      defaultReceiveLibraryTimeout := forall_update (P := fun t : Timeout => m.Known t.lib)
        h.defaultReceiveLibraryTimeout hnew }, fun _ hlib => hlib⟩
  | transferOwnership newOwner =>
    simp only [MessageLibManager.exec, transferOwnership, seq_eq_ok, ret_eq_ok] at hok
    obtain ⟨_, _, _, _, rfl⟩ := hok
    exact ⟨{ h with }, fun _ hlib => hlib⟩
  | renounceOwnership =>
    simp only [MessageLibManager.exec, renounceOwnership, seq_eq_ok, ret_eq_ok] at hok
    obtain ⟨_, _, rfl⟩ := hok
    exact ⟨{ h with }, fun _ hlib => hlib⟩
  | setSendLibrary oapp eid newLib =>
    simp only [MessageLibManager.exec, setSendLibrary, seq_eq_ok, ret_eq_ok,
      onlyRegisteredOrDefault_eq_ok] at hok
    obtain ⟨_, hknown, _, _, _, _, _, _, _, _, rfl⟩ := hok
    exact ⟨{ h with sendLibrary := forall_update h.sendLibrary hknown }, fun _ hlib => hlib⟩
  | setReceiveLibrary oapp eid newLib gracePeriod =>
    simp only [MessageLibManager.exec, setReceiveLibrary, seq_eq_ok, ret_eq_ok,
      onlyRegisteredOrDefault_eq_ok] at hok
    obtain ⟨_, hknown, _, _, _, _, _, _, _, _, _, _, timeout, htimeout, rfl⟩ := hok
    have hold := graceTimeout_known (h.receiveLibrary (oapp, eid)) htimeout
    exact ⟨{ h with
      receiveLibrary := forall_update h.receiveLibrary hknown
      receiveLibraryTimeout := forall_update (P := fun t : Timeout => m.Known t.lib)
        h.receiveLibraryTimeout hold }, fun _ hlib => hlib⟩
  | setReceiveLibraryTimeout oapp eid newLib expiry =>
    simp only [MessageLibManager.exec, setReceiveLibraryTimeout, seq_eq_ok, ret_eq_ok,
      onlyRegistered_eq_ok] at hok
    obtain ⟨_, hreg, _, _, _, _, _, _, _, _, _, _, timeout, htimeout, rfl⟩ := hok
    have hnew := expiryTimeout_known (Or.inr hreg) htimeout
    exact ⟨{ h with
      receiveLibraryTimeout := forall_update (P := fun t : Timeout => m.Known t.lib)
        h.receiveLibraryTimeout hnew }, fun _ hlib => hlib⟩

/-- **A valid receive library is a known one.** -/
theorem Registered.valid (h : m.Registered) {receiver : Address} {srcEid : Uint32}
    (hok : m.isValidReceiveLibrary env receiver srcEid lib = .ok true) : m.Known lib := by
  simp only [isValidReceiveLibrary, seq_eq_ok, ret_eq_ok, decide_eq_true_eq] at hok
  obtain ⟨⟨expected, isDefault⟩, hget, hvalid⟩ := hok
  have hexpected : m.Known expected := by
    unfold getReceiveLibrary at hget
    dsimp only at hget
    split at hget
    · simp only [seq_eq_ok, ret_eq_ok, Prod.mk.injEq] at hget
      obtain ⟨_, _, rfl, _⟩ := hget
      exact h.defaultReceiveLibrary srcEid
    · obtain ⟨rfl, _⟩ := Prod.mk.inj (ret_eq_ok.mp hget)
      exact h.receiveLibrary (receiver, srcEid)
  rcases hvalid with rfl | ⟨rfl, _⟩
  · exact hexpected
  · dsimp only
    split
    · exact h.defaultReceiveLibraryTimeout srcEid
    · exact h.receiveLibraryTimeout (receiver, srcEid)

end MessageLibManager

end CrossRWA
