/-
  `GlacisCommons`, `AddressBytes32` and what Solidity itself contributes.

  * value types: `bytes32`/`uint256` are `BitVec 256`, `address` is `BitVec 160`, `bytes` is a list
    of bytes.  Quantities that are only added, subtracted and compared (balances, limits,
    timestamps) are `Nat` with the checks of Solidity 0.8 written out (`checkedAdd`, ...).
  * `Revert`: every way a call of the modelled contracts reverts, under the error's own name or
    with its `require` text.
  * calls are functions into `Except Revert`: a reverting call has no state, so it changes none.
    `bind_eq_ok` and `revertIf_eq_ok` take a successful call apart.
  * `keccak256` is a parameter of everything that hashes.  What the protocol needs of it is not
    injectivity (no 256-bit hash has it) but `CollisionFree`: among the inputs hashed so far no
    two different ones collide.
-/
import CrossRWA.Lib.Abi

namespace CrossRWA

/-! ## Value types -/

abbrev Bytes := List UInt8
abbrev Uint8 := BitVec 8
abbrev Uint128 := BitVec 128
abbrev Uint256 := BitVec 256
abbrev Bytes32 := BitVec 256
abbrev Address := BitVec 160

/-- `type(uint160).max`, used both as a chain id (zero-extended) and as an adapter address. -/
def WILDCARD : Address := BitVec.allOnes 160

/-- Adapter addresses up to this one are reserved GMP ids. -/
def GLACIS_RESERVED_IDS : Nat := 248

/-- `AddressBytes32.toBytes32`. -/
def toBytes32 (addr : Address) : Bytes32 := addr.setWidth 256

/-- `AddressBytes32.toAddress`: the low 160 bits. -/
def toAddress (b : Bytes32) : Address := b.setWidth 160

@[simp] theorem toAddress_toBytes32 (a : Address) : toAddress (toBytes32 a) = a := by
  rw [toAddress, toBytes32, BitVec.setWidth_setWidth_of_le _ (by decide), BitVec.setWidth_eq]

theorem toBytes32_inj {a b : Address} (h : toBytes32 a = toBytes32 b) : a = b := by
  rw [← toAddress_toBytes32 a, h, toAddress_toBytes32]

theorem toBytes32_ne_zero {a : Address} (h : a ≠ 0) : toBytes32 a ≠ 0 :=
  fun h0 => h (toBytes32_inj (h0.trans (by decide)))

/-! ## The structures of `GlacisCommons` -/

structure GlacisData where
  messageId : Bytes32
  nonce : Uint256
  originalFrom : Bytes32
  originalTo : Bytes32
deriving DecidableEq, Repr

structure GlacisRoute where
  fromChainId : Uint256
  fromAddress : Bytes32
  fromAdapter : Address
deriving DecidableEq, Repr

structure CrossChainGas where
  gasLimit : Uint128
  nativeCurrencyValue : Uint128
deriving DecidableEq, Repr

/-! ## Reverts -/

/-- The ways a call reverts.  `noCode` is a high-level call to an address whose code does not
    answer it, `abiDecode` a failed `abi.decode`, `outOfGas` a loop that does not end,
    `adapterReverted`/`clientReverted` a revert inside a contract outside the model,
    `createCollision` a deployment to an address in use, `notPayable` a value a function does not
    take. -/
inductive Revert
  | GlacisRouter__GMPNotSupported
  | GlacisRouter__RouteDoesNotExist
  | GlacisRouter__ClientDeniedRoute
  | GlacisRouter__NotOwnerOfMessageToRetry
  | GlacisRouter__MessageInputNotIdenticalForRetry
  | GlacisRouter__MessageAlreadyReceivedFromGMP
  | GlacisRouter__MessageIdNotValid
  | GlacisRouter__FeeArrayMustEqualGMPArray
  | GlacisRouter__GMPCountMustBeAtLeastOne
  | GlacisRouter__FeeSumMustBeEqualToValue
  | GlacisRouter__DestinationRetryNotSatisfied
      (quorumSatisfied notExecuted quorumIsNotZero : Bool)
  | GlacisAbstractRouter__InvalidAdapterAddress
  | GlacisAbstractRouter__GMPIDCannotBeZero
  | GlacisAbstractRouter__GMPIDTooHigh
  | GlacisClient__CanOnlyBeCalledByRouter
  | GlacisClient__InvalidRouterAddress
  | GlacisRemoteCounterpartManager__RemoteCounterpartCannotHaveChainIdZero
  | GlacisRemoteCounterpartManager__CounterpartsAndChainIDsMustHaveSameLength
  | SimpleTokenMediator__DestinationChainUnavailable
  | IXERC20_NotHighEnoughLimits
  | IXERC20_NotFactory
  | require (message : String)
  | Panic (code : Nat)
  | noCode
  | abiDecode
  | outOfGas
  | adapterReverted
  | clientReverted
  | createCollision
  | notPayable
deriving DecidableEq, Repr

/-- `if (c) revert e;` -/
def revertIf (c : Prop) [Decidable c] (e : Revert) : Except Revert Unit :=
  if c then .error e else .ok ()

@[simp] theorem revertIf_eq_ok {c : Prop} [Decidable c] {e : Revert} {u : Unit} :
    revertIf c e = .ok u ↔ ¬c := by
  unfold revertIf
  split <;> simp [*]

/-- `require(c, message);` -/
def require (c : Prop) [Decidable c] (message : String) : Except Revert Unit :=
  if c then .ok () else .error (.require message)

@[simp] theorem require_eq_ok {c : Prop} [Decidable c] {message : String} {u : Unit} :
    require c message = .ok u ↔ c := by
  unfold require
  split <;> simp [*]

/-- A successful sequence is a successful first call and a successful rest. -/
theorem bind_eq_ok {α β : Type} {x : Except Revert α} {f : α → Except Revert β} {b : β} :
    (x >>= f) = .ok b ↔ ∃ a, x = .ok a ∧ f a = .ok b := by
  cases x with
  | error e => simp [bind, Except.bind]
  | ok a => simp [bind, Except.bind]

theorem pure_eq_ok {α : Type} {a b : α} : (pure a : Except Revert α) = .ok b ↔ a = b := by
  simp [pure, Except.pure]

/-- An optional decoding result as a call. -/
def orRevert {α : Type} (o : Option α) (e : Revert) : Except Revert α :=
  match o with
  | some a => .ok a
  | none => .error e

@[simp] theorem orRevert_eq_ok {α : Type} {o : Option α} {e : Revert} {a : α} :
    orRevert o e = .ok a ↔ o = some a := by
  cases o <;> simp [orRevert]

/-! ## Checked and unchecked `uint256` arithmetic -/

/-- `type(uint256).max`. -/
def uint256Max : Nat := 2 ^ 256 - 1

def checkedAdd (a b : Nat) : Except Revert Nat :=
  if a + b ≤ uint256Max then .ok (a + b) else .error (.Panic 0x11)

def checkedSub (a b : Nat) : Except Revert Nat :=
  if b ≤ a then .ok (a - b) else .error (.Panic 0x11)

def checkedMul (a b : Nat) : Except Revert Nat :=
  if a * b ≤ uint256Max then .ok (a * b) else .error (.Panic 0x11)

def uncheckedAdd (a b : Nat) : Nat := (a + b) % 2 ^ 256

def uncheckedSub (a b : Nat) : Nat := (a + 2 ^ 256 - b) % 2 ^ 256

@[simp] theorem checkedAdd_eq_ok {a b c : Nat} :
    checkedAdd a b = .ok c ↔ a + b ≤ uint256Max ∧ c = a + b := by
  unfold checkedAdd
  split <;> simp [*, eq_comm]

@[simp] theorem checkedSub_eq_ok {a b c : Nat} :
    checkedSub a b = .ok c ↔ b ≤ a ∧ c = a - b := by
  unfold checkedSub
  split <;> simp [*, eq_comm]

@[simp] theorem checkedMul_eq_ok {a b c : Nat} :
    checkedMul a b = .ok c ↔ a * b ≤ uint256Max ∧ c = a * b := by
  unfold checkedMul
  split <;> simp [*, eq_comm]

theorem uncheckedAdd_eq {a b : Nat} (h : a + b ≤ uint256Max) : uncheckedAdd a b = a + b :=
  Nat.mod_eq_of_lt (by unfold uint256Max at h; omega)

theorem uncheckedSub_eq {a b : Nat} (ha : a ≤ uint256Max) (h : b ≤ a) :
    uncheckedSub a b = a - b := by
  unfold uncheckedSub
  unfold uint256Max at ha
  omega

/-! ## Hashing -/

/-- Among the inputs hashed so far, no two different ones collide. -/
def CollisionFree (keccak256 : Bytes → Bytes32) (hashed : List Bytes) : Prop :=
  ∀ x ∈ hashed, ∀ y ∈ hashed, keccak256 x = keccak256 y → x = y

instance (keccak256 : Bytes → Bytes32) (hashed : List Bytes) :
    Decidable (CollisionFree keccak256 hashed) :=
  inferInstanceAs (Decidable (∀ x ∈ hashed, ∀ y ∈ hashed, _ → _))

theorem CollisionFree.mono {keccak256 : Bytes → Bytes32} {l l' : List Bytes}
    (h : CollisionFree keccak256 l') (hsub : l ⊆ l') : CollisionFree keccak256 l :=
  fun x hx y hy => h x (hsub hx) y (hsub hy)

end CrossRWA
