/-
  `SimpleTokenMediator` — the mediator's own state and the functions that stay inside it.

  The contract inherits the allowed-route table (`GlacisAccessControlClient`), the counterpart
  table with its two-step owner (`GlacisRemoteCounterpartManager`, `Ownable2Step`), and the router
  and quorum fixed at construction (`GlacisClient`).  The calls that reach the token or the router
  (`sendCrossChain`, `sendCrossChainRetry`, `receiveMessage`) are in `CrossRWA.Chain`.

  `decode_packTokenPayload` is the round trip of the token payload.
-/
import CrossRWA.Mediator.AccessControl

namespace CrossRWA

structure SimpleTokenMediator where
  owner : Address
  pendingOwner : Address
  GLACIS_ROUTER : Address
  DEFAULT_QUORUM : Nat
  xERC20Token : Address
  allowedRoutes : AllowedRoutes
  remoteCounterpart : Uint256 → Bytes32

namespace SimpleTokenMediator

def constructor (glacisRouter : Address) (quorum : Nat) (owner : Address) :
    Except Revert SimpleTokenMediator := do
  revertIf (glacisRouter = 0) .GlacisClient__InvalidRouterAddress
  pure
    { owner := owner
      pendingOwner := 0
      GLACIS_ROUTER := glacisRouter
      DEFAULT_QUORUM := quorum
      xERC20Token := 0
      allowedRoutes := fun _ _ _ => false
      remoteCounterpart := fun _ => 0 }

def _onlyOwner (m : SimpleTokenMediator) (msgSender : Address) : Except Revert Unit :=
  require (m.owner = msgSender) "Ownable: caller is not the owner"

/-- `Ownable2Step.transferOwnership`: the new owner has to accept. -/
def transferOwnership (m : SimpleTokenMediator) (msgSender newOwner : Address) :
    Except Revert SimpleTokenMediator := do
  m._onlyOwner msgSender
  pure { m with pendingOwner := newOwner }

/-- `Ownable2Step.acceptOwnership`. -/
def acceptOwnership (m : SimpleTokenMediator) (msgSender : Address) :
    Except Revert SimpleTokenMediator := do
  require (m.pendingOwner = msgSender) "Ownable2Step: caller is not the new owner"
  pure { m with owner := msgSender, pendingOwner := 0 }

/-- `Ownable.renounceOwnership`. -/
def renounceOwnership (m : SimpleTokenMediator) (msgSender : Address) :
    Except Revert SimpleTokenMediator := do
  m._onlyOwner msgSender
  pure { m with owner := 0, pendingOwner := 0 }

def setXERC20 (m : SimpleTokenMediator) (msgSender xERC20Token : Address) :
    Except Revert SimpleTokenMediator := do
  m._onlyOwner msgSender
  pure { m with xERC20Token := xERC20Token }

def addAllowedRoute (m : SimpleTokenMediator) (msgSender : Address) (allowedRoute : GlacisRoute) :
    Except Revert SimpleTokenMediator := do
  m._onlyOwner msgSender
  pure { m with allowedRoutes := m.allowedRoutes._addAllowedRoute allowedRoute }

def removeAllowedRoute (m : SimpleTokenMediator) (msgSender : Address) (route : GlacisRoute) :
    Except Revert SimpleTokenMediator := do
  m._onlyOwner msgSender
  pure { m with allowedRoutes := m.allowedRoutes._removeAllowedRoute route }

/-- The loop of `addRemoteCounterparts`, over pairs of one index. -/
def _addCounterparts (remoteCounterpart : Uint256 → Bytes32) :
    List (Uint256 × Bytes32) → Except Revert (Uint256 → Bytes32)
  | [] => pure remoteCounterpart
  | (chainId, counterpart) :: rest => do
    revertIf (chainId = 0)
      .GlacisRemoteCounterpartManager__RemoteCounterpartCannotHaveChainIdZero
    _addCounterparts (Function.update remoteCounterpart chainId counterpart) rest

def addRemoteCounterparts (m : SimpleTokenMediator) (msgSender : Address)
    (chainIDs : List Uint256) (counterpart : List Bytes32) : Except Revert SimpleTokenMediator := do
  m._onlyOwner msgSender
  revertIf (chainIDs.length ≠ counterpart.length)
    .GlacisRemoteCounterpartManager__CounterpartsAndChainIDsMustHaveSameLength
  let table ← _addCounterparts m.remoteCounterpart (chainIDs.zip counterpart)
  pure { m with remoteCounterpart := table }

def removeRemoteCounterpart (m : SimpleTokenMediator) (msgSender : Address) (chainId : Uint256) :
    Except Revert SimpleTokenMediator := do
  m._onlyOwner msgSender
  revertIf (chainId = 0)
    .GlacisRemoteCounterpartManager__RemoteCounterpartCannotHaveChainIdZero
  pure { m with remoteCounterpart := Function.update m.remoteCounterpart chainId 0 }

/-- The calls that stay inside the mediator. -/
inductive LocalCall
  | acceptOwnership
  | transferOwnership (newOwner : Address)
  | renounceOwnership
  | setXERC20 (xERC20Token : Address)
  | addAllowedRoute (route : GlacisRoute)
  | removeAllowedRoute (route : GlacisRoute)
  | addRemoteCounterparts (chainIDs : List Uint256) (counterpart : List Bytes32)
  | removeRemoteCounterpart (chainId : Uint256)
deriving DecidableEq, Repr

/-- The owner's calls. -/
def LocalCall.restricted : LocalCall → Bool
  | .acceptOwnership => false
  | _ => true

/-- Run one call that stays inside the mediator. -/
def exec (m : SimpleTokenMediator) (msgSender : Address) :
    LocalCall → Except Revert SimpleTokenMediator
  | .acceptOwnership => m.acceptOwnership msgSender
  | .transferOwnership newOwner => m.transferOwnership msgSender newOwner
  | .renounceOwnership => m.renounceOwnership msgSender
  | .setXERC20 xERC20Token => m.setXERC20 msgSender xERC20Token
  | .addAllowedRoute route => m.addAllowedRoute msgSender route
  | .removeAllowedRoute route => m.removeAllowedRoute msgSender route
  | .addRemoteCounterparts chainIDs counterpart =>
    m.addRemoteCounterparts msgSender chainIDs counterpart
  | .removeRemoteCounterpart chainId => m.removeRemoteCounterpart msgSender chainId

/-- One pair is one write. -/
theorem _addCounterparts_singleton {table table' : Uint256 → Bytes32} {chainId : Uint256}
    {counterpart : Bytes32} (h : _addCounterparts table [(chainId, counterpart)] = .ok table') :
    table' = Function.update table chainId counterpart := by
  simp only [_addCounterparts, bind_eq_ok, pure_eq_ok] at h
  obtain ⟨_, _, rfl⟩ := h
  rfl

/-- Pairs that write nothing else under a chain id leave its counterpart. -/
theorem _addCounterparts_keeps {table table' : Uint256 → Bytes32} {l : List (Uint256 × Bytes32)}
    (h : _addCounterparts table l = .ok table') {chainId : Uint256} {counterpart : Bytes32}
    (hl : ∀ e ∈ l, e.1 = chainId → e.2 = counterpart) (htable : table chainId = counterpart) :
    table' chainId = counterpart := by
  induction l generalizing table with
  | nil =>
    obtain rfl := pure_eq_ok.mp h
    exact htable
  | cons e l ih =>
    simp only [_addCounterparts, bind_eq_ok] at h
    obtain ⟨_, _, h⟩ := h
    refine ih h (fun x hx => hl x (List.mem_cons_of_mem e hx)) ?_
    by_cases he : chainId = e.1
    · rw [he, Function.update_self]
      exact hl e List.mem_cons_self he.symm
    · rw [Function.update_of_ne he]
      exact htable

theorem _onlyOwner_eq_ok {m : SimpleTokenMediator} {msgSender : Address} {u : Unit} :
    m._onlyOwner msgSender = .ok u ↔ m.owner = msgSender := require_eq_ok

/-- A new mediator: its owner and router, no token, and empty tables. -/
theorem constructor_spec {glacisRouter owner : Address} {quorum : Nat} {m : SimpleTokenMediator}
    (h : constructor glacisRouter quorum owner = .ok m) :
    m.owner = owner ∧ m.pendingOwner = 0 ∧ m.GLACIS_ROUTER = glacisRouter ∧
      m.DEFAULT_QUORUM = quorum ∧ m.xERC20Token = 0 ∧ (m.allowedRoutes = fun _ _ _ => false) ∧
      m.remoteCounterpart = fun _ => 0 := by
  simp only [constructor, bind_eq_ok, pure_eq_ok] at h
  obtain ⟨_, _, rfl⟩ := h
  exact ⟨rfl, rfl, rfl, rfl, rfl, rfl, rfl⟩

/-- **What a local call changes**: the owner by accepting, else ownership, one table or the token,
    and only for the owner. -/
theorem exec_spec {m m' : SimpleTokenMediator} {msgSender : Address} {call : LocalCall}
    (h : m.exec msgSender call = .ok m') :
    match call with
    | .acceptOwnership =>
      m.pendingOwner = msgSender ∧ m' = { m with owner := msgSender, pendingOwner := 0 }
    | .transferOwnership newOwner => m.owner = msgSender ∧ m' = { m with pendingOwner := newOwner }
    | .renounceOwnership => m.owner = msgSender ∧ m' = { m with owner := 0, pendingOwner := 0 }
    | .setXERC20 xERC20Token => m.owner = msgSender ∧ m' = { m with xERC20Token := xERC20Token }
    | .addAllowedRoute route => m.owner = msgSender ∧
      m' = { m with allowedRoutes := m.allowedRoutes._addAllowedRoute route }
    | .removeAllowedRoute route => m.owner = msgSender ∧
      m' = { m with allowedRoutes := m.allowedRoutes._removeAllowedRoute route }
    | .addRemoteCounterparts chainIDs counterpart => m.owner = msgSender ∧
      ∃ table, _addCounterparts m.remoteCounterpart (chainIDs.zip counterpart) = .ok table ∧
        m' = { m with remoteCounterpart := table }
    | .removeRemoteCounterpart chainId => m.owner = msgSender ∧
      m' = { m with remoteCounterpart := Function.update m.remoteCounterpart chainId 0 } := by
  cases call with
  | acceptOwnership =>
    simp only [exec, acceptOwnership, bind_eq_ok, require_eq_ok, pure_eq_ok] at h
    obtain ⟨_, hpending, rfl⟩ := h
    exact ⟨hpending, rfl⟩
  | transferOwnership newOwner =>
    simp only [exec, transferOwnership, bind_eq_ok, _onlyOwner_eq_ok, pure_eq_ok] at h
    obtain ⟨_, howner, rfl⟩ := h
    exact ⟨howner, rfl⟩
  | renounceOwnership =>
    simp only [exec, renounceOwnership, bind_eq_ok, _onlyOwner_eq_ok, pure_eq_ok] at h
    obtain ⟨_, howner, rfl⟩ := h
    exact ⟨howner, rfl⟩
  | setXERC20 xERC20Token =>
    simp only [exec, setXERC20, bind_eq_ok, _onlyOwner_eq_ok, pure_eq_ok] at h
    obtain ⟨_, howner, rfl⟩ := h
    exact ⟨howner, rfl⟩
  | addAllowedRoute route =>
    simp only [exec, addAllowedRoute, bind_eq_ok, _onlyOwner_eq_ok, pure_eq_ok] at h
    obtain ⟨_, howner, rfl⟩ := h
    exact ⟨howner, rfl⟩
  | removeAllowedRoute route =>
    simp only [exec, removeAllowedRoute, bind_eq_ok, _onlyOwner_eq_ok, pure_eq_ok] at h
    obtain ⟨_, howner, rfl⟩ := h
    exact ⟨howner, rfl⟩
  | addRemoteCounterparts chainIDs counterpart =>
    simp only [exec, addRemoteCounterparts, bind_eq_ok, _onlyOwner_eq_ok, pure_eq_ok] at h
    obtain ⟨_, howner, _, _, table, htable, rfl⟩ := h
    exact ⟨howner, table, htable, rfl⟩
  | removeRemoteCounterpart chainId =>
    simp only [exec, removeRemoteCounterpart, bind_eq_ok, _onlyOwner_eq_ok, pure_eq_ok] at h
    obtain ⟨_, howner, _, _, rfl⟩ := h
    exact ⟨howner, rfl⟩

/-- A restricted call that goes through is the owner's. -/
theorem owner_of_exec {m m' : SimpleTokenMediator} {msgSender : Address} {call : LocalCall}
    (h : m.exec msgSender call = .ok m') (hcall : call.restricted = true) : m.owner = msgSender := by
  have hspec := exec_spec h
  cases call with
  | acceptOwnership => cases hcall
  | _ => exact hspec.1

/-- The owner's calls go through. -/
theorem exec_of_owner (m : SimpleTokenMediator) :
    (∀ a, m.exec m.owner (.setXERC20 a) = .ok { m with xERC20Token := a }) ∧
    (∀ route, m.exec m.owner (.addAllowedRoute route) =
      .ok { m with allowedRoutes := m.allowedRoutes._addAllowedRoute route }) ∧
    ∀ chainId counterpart, chainId ≠ 0 →
      m.exec m.owner (.addRemoteCounterparts [chainId] [counterpart]) =
        .ok { m with remoteCounterpart := Function.update m.remoteCounterpart chainId counterpart } := by
  have howner : m._onlyOwner m.owner = .ok () := _onlyOwner_eq_ok.mpr rfl
  refine ⟨fun a => bind_eq_ok.mpr ⟨(), howner, rfl⟩, fun r => bind_eq_ok.mpr ⟨(), howner, rfl⟩, ?_⟩
  intro chainId counterpart hne
  simp only [exec, addRemoteCounterparts, bind_eq_ok, pure_eq_ok, revertIf_eq_ok]
  refine ⟨(), howner, (), by simp, _, ?_, rfl⟩
  simp only [List.zip_cons_cons, List.zip_nil_left, _addCounterparts, bind_eq_ok, revertIf_eq_ok]
  exact ⟨(), hne, rfl⟩

/-- No local call changes the router or the quorum. -/
theorem exec_frame {m m' : SimpleTokenMediator} {msgSender : Address} {call : LocalCall}
    (h : m.exec msgSender call = .ok m') :
    m'.GLACIS_ROUTER = m.GLACIS_ROUTER ∧ m'.DEFAULT_QUORUM = m.DEFAULT_QUORUM := by
  have hspec := exec_spec h
  cases call with
  | addRemoteCounterparts chainIDs counterpart =>
    obtain ⟨_, _, _, rfl⟩ := hspec
    exact ⟨rfl, rfl⟩
  | _ =>
    obtain ⟨_, rfl⟩ := hspec
    exact ⟨rfl, rfl⟩

/-- The mediator's answers to the router: its route table, and its constant quorum. -/
def client (m : SimpleTokenMediator) : Client where
  isAllowedRoute := fun route _ => .ok (m.allowedRoutes.isAllowedRoute route)
  getQuorum := fun _ _ _ => .ok m.DEFAULT_QUORUM

/-! ## The token payload -/

def packTokenPayload (to_ : Bytes32) (tokenAmount : Uint256) : Bytes :=
  Abi.encodeWords [to_, tokenAmount]

/-- `abi.decode(payload, (bytes32, uint256))`: trailing bytes are ignored. -/
def decodeTokenPayload (payload : Bytes) : Option (Bytes32 × Uint256) :=
  if payload.length < 64 then none
  else some (Abi.wordAt payload 0, Abi.wordAt payload 32)

@[simp] theorem length_packTokenPayload (to_ : Bytes32) (tokenAmount : Uint256) :
    (packTokenPayload to_ tokenAmount).length = 64 := by
  simp [packTokenPayload]

@[simp] theorem decode_packTokenPayload (to_ : Bytes32) (tokenAmount : Uint256) :
    decodeTokenPayload (packTokenPayload to_ tokenAmount) = some (to_, tokenAmount) := by
  have h := Abi.wordAt_encodeWords [to_, tokenAmount] []
  rw [List.append_nil] at h
  have h0 := h 0 (by simp)
  have h1 := h 1 (by simp)
  rw [decodeTokenPayload, if_neg (by simp)]
  exact congrArg some (congr (congrArg Prod.mk h0) h1)

end SimpleTokenMediator

end CrossRWA
