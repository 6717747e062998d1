/-
  `XERC20Basic` and `BasicXERC20Sample` — a mintable token with a refilling limit per bridge.

  Every bridge has one allowance for minting and one for burning, each a `BridgeParameters`
  record.  The record's two invariants — the current limit is at most the maximum, and the rate
  is the maximum over a day — are FIELDS: `_useLimits` and `_changeLimit` have to prove them, and
  no other function writes a record.

  `_useMinterLimits`/`_useBurnerLimits` and `_changeMinterLimit`/`_changeBurnerLimit` are one
  function each, applied to the minting or the burning side.

  `exec` runs a call of the token's interface; `Call.restricted` marks the calls only the owner
  or the factory may make.  `exec_frame` says what an unrestricted call never changes.
-/
import CrossRWA.Token.ERC20

namespace CrossRWA

/-! ## Allowances -/

/-- `_DURATION`: one day, in seconds. -/
def DURATION : Nat := 86400

structure BridgeParameters where
  timestamp : Nat
  ratePerSecond : Nat
  maxLimit : Nat
  currentLimit : Nat
  current_le : currentLimit ≤ maxLimit
  rate_eq : ratePerSecond = maxLimit / DURATION

namespace BridgeParameters

/-- The record of an address nobody gave a limit to. -/
def zero : BridgeParameters where
  timestamp := 0
  ratePerSecond := 0
  maxLimit := 0
  currentLimit := 0
  current_le := Nat.le_refl 0
  rate_eq := rfl

def _getCurrentLimit (now currentLimit maxLimit timestamp ratePerSecond : Nat) :
    Except Revert Nat :=
  if currentLimit = maxLimit then pure currentLimit
  else do
    let refilled ← checkedAdd timestamp DURATION
    if refilled ≤ now then pure maxLimit
    else do
      let timePassed ← checkedSub now timestamp
      let gain ← checkedMul timePassed ratePerSecond
      let calculatedLimit ← checkedAdd currentLimit gain
      pure (if maxLimit < calculatedLimit then maxLimit else calculatedLimit)

def _calculateNewCurrentLimit (limit oldLimit currentLimit : Nat) : Except Revert Nat :=
  if limit < oldLimit then do
    let difference ← checkedSub oldLimit limit
    if difference < currentLimit then checkedSub currentLimit difference else pure 0
  else do
    let difference ← checkedSub limit oldLimit
    checkedAdd currentLimit difference

/-- `mintingCurrentLimitOf`/`burningCurrentLimitOf` of one record. -/
def currentLimitAt (p : BridgeParameters) (now : Nat) : Except Revert Nat :=
  _getCurrentLimit now p.currentLimit p.maxLimit p.timestamp p.ratePerSecond

/-- What the refilled limit is: never above the maximum, and — once a day has passed or the
    record is full — exactly the maximum. -/
theorem _getCurrentLimit_spec {now cur max ts rate c : Nat} (hle : cur ≤ max)
    (h : _getCurrentLimit now cur max ts rate = .ok c) :
    c ≤ max ∧ (c = max ∧ (cur = max ∨ ts + DURATION ≤ now) ∨
      ts ≤ now ∧ c ≤ cur + (now - ts) * rate) := by
  unfold _getCurrentLimit at h
  split at h
  · next heq =>
    obtain rfl := pure_eq_ok.mp h
    exact ⟨hle, Or.inl ⟨heq, Or.inl heq⟩⟩
  · simp only [bind_eq_ok, checkedAdd_eq_ok] at h
    obtain ⟨_, ⟨_, rfl⟩, h⟩ := h
    split at h
    · next hday =>
      obtain rfl := pure_eq_ok.mp h
      exact ⟨Nat.le_refl _, Or.inl ⟨rfl, Or.inr hday⟩⟩
    · simp only [bind_eq_ok, checkedSub_eq_ok, checkedMul_eq_ok, checkedAdd_eq_ok,
        pure_eq_ok] at h
      obtain ⟨_, ⟨hts, rfl⟩, _, ⟨_, rfl⟩, _, ⟨_, rfl⟩, rfl⟩ := h
      split
      · exact ⟨Nat.le_refl _, Or.inr ⟨hts, by omega⟩⟩
      · exact ⟨by omega, Or.inr ⟨hts, Nat.le_refl _⟩⟩

theorem currentLimitAt_le {p : BridgeParameters} {now c : Nat} (h : p.currentLimitAt now = .ok c) :
    c ≤ p.maxLimit := (_getCurrentLimit_spec p.current_le h).1

/-- A day after its last use a record is full. -/
theorem currentLimitAt_of_day {p : BridgeParameters} {now : Nat}
    (hday : p.timestamp + DURATION ≤ now) (hnow : now ≤ uint256Max) :
    p.currentLimitAt now = .ok p.maxLimit := by
  unfold currentLimitAt _getCurrentLimit
  split
  · next heq => rw [heq]; rfl
  · have hadd : checkedAdd p.timestamp DURATION = .ok (p.timestamp + DURATION) :=
      checkedAdd_eq_ok.mpr ⟨by omega, rfl⟩
    rw [hadd]
    show (if p.timestamp + DURATION ≤ now then _ else _) = _
    rw [if_pos hday]; rfl

theorem _calculateNewCurrentLimit_le {limit oldLimit cur c : Nat} (hle : cur ≤ oldLimit)
    (h : _calculateNewCurrentLimit limit oldLimit cur = .ok c) : c ≤ limit := by
  unfold _calculateNewCurrentLimit at h
  split at h
  · simp only [bind_eq_ok, checkedSub_eq_ok] at h
    obtain ⟨_, ⟨_, rfl⟩, h⟩ := h
    split at h
    · obtain ⟨_, rfl⟩ := checkedSub_eq_ok.mp h; omega
    · obtain rfl := pure_eq_ok.mp h; exact Nat.zero_le _
  · simp only [bind_eq_ok, checkedSub_eq_ok, checkedAdd_eq_ok] at h
    obtain ⟨_, ⟨_, rfl⟩, _, rfl⟩ := h
    omega

/-- `_useMinterLimits`/`_useBurnerLimits` on one record. -/
def _useLimits (p : BridgeParameters) (now change : Nat) : Except Revert BridgeParameters :=
  match h : p.currentLimitAt now with
  | .error e => .error e
  | .ok currentLimit =>
    if change ≤ currentLimit then
      .ok { p with
        timestamp := now
        currentLimit := currentLimit - change
        current_le := Nat.le_trans (Nat.sub_le _ _) (currentLimitAt_le h) }
    else .error (.Panic 0x11)

/-- `_changeMinterLimit`/`_changeBurnerLimit` on one record. -/
def _changeLimit (p : BridgeParameters) (now limit : Nat) : Except Revert BridgeParameters :=
  match h : p.currentLimitAt now with
  | .error e => .error e
  | .ok currentLimit =>
    match h' : _calculateNewCurrentLimit limit p.maxLimit currentLimit with
    | .error e => .error e
    | .ok newCurrentLimit =>
      .ok { timestamp := now
            ratePerSecond := limit / DURATION
            maxLimit := limit
            currentLimit := newCurrentLimit
            current_le := _calculateNewCurrentLimit_le (currentLimitAt_le h) h'
            rate_eq := rfl }

theorem _useLimits_spec {p p' : BridgeParameters} {now change : Nat}
    (h : p._useLimits now change = .ok p') :
    ∃ c, p.currentLimitAt now = .ok c ∧ change ≤ c ∧ p'.maxLimit = p.maxLimit ∧
      p'.timestamp = now ∧ p'.currentLimit = c - change := by
  unfold _useLimits at h
  split at h
  · cases h
  · next c hc =>
    split at h
    · next hle => cases h; exact ⟨c, hc, hle, rfl, rfl, rfl⟩
    · cases h

theorem _useLimits_ok {p : BridgeParameters} {now change c : Nat}
    (hc : p.currentLimitAt now = .ok c) (hle : change ≤ c) :
    ∃ p', p._useLimits now change = .ok p' := by
  unfold _useLimits
  split
  · next e he => rw [hc] at he; cases he
  · next c' hc' =>
    rw [hc] at hc'; cases hc'
    rw [if_pos hle]
    exact ⟨_, rfl⟩

theorem _changeLimit_spec {p p' : BridgeParameters} {now limit : Nat}
    (h : p._changeLimit now limit = .ok p') : p'.maxLimit = limit ∧ p'.timestamp = now := by
  unfold _changeLimit at h
  split at h
  · cases h
  · split at h
    · cases h
    · cases h; exact ⟨rfl, rfl⟩

/-- Giving a first limit always goes through. -/
theorem _changeLimit_ok {p : BridgeParameters} {limit : Nat} (now : Nat) (hp : p.maxLimit = 0)
    (hle : limit ≤ uint256Max) : ∃ p', p._changeLimit now limit = .ok p' := by
  have hcur : p.currentLimit = p.maxLimit := by have := p.current_le; omega
  have hc : p.currentLimitAt now = .ok 0 := by
    rw [currentLimitAt, _getCurrentLimit, if_pos hcur, hcur, hp]; rfl
  have hnew : _calculateNewCurrentLimit limit p.maxLimit 0 = .ok limit := by
    rw [_calculateNewCurrentLimit, hp, if_neg (Nat.not_lt_zero limit)]
    exact bind_eq_ok.mpr ⟨limit, checkedSub_eq_ok.mpr ⟨Nat.zero_le _, rfl⟩,
      checkedAdd_eq_ok.mpr ⟨by omega, (Nat.zero_add _).symm⟩⟩
  unfold _changeLimit
  split
  · next e he => rw [hc] at he; cases he
  · next c hc' =>
    rw [hc] at hc'; cases hc'
    split
    · next e he => rw [hnew] at he; cases he
    · exact ⟨_, rfl⟩

end BridgeParameters

structure Bridge where
  minterParams : BridgeParameters
  burnerParams : BridgeParameters

/-! ## The token -/

structure XERC20 extends ERC20 where
  owner : Address
  FACTORY : Address
  lockbox : Address
  bridges : Address → Bridge

namespace XERC20

/-- The constructor of `XERC20Basic`. -/
def constructor (factory : Address) : XERC20 where
  toERC20 := ERC20.constructor
  owner := factory
  FACTORY := factory
  lockbox := 0
  bridges := fun _ => ⟨.zero, .zero⟩

def _onlyOwner (t : XERC20) (msgSender : Address) : Except Revert Unit :=
  require (t.owner = msgSender) "Ownable: caller is not the owner"

/-- `Ownable.transferOwnership`. -/
def transferOwnership (t : XERC20) (msgSender newOwner : Address) : Except Revert XERC20 := do
  t._onlyOwner msgSender
  require (newOwner ≠ 0) "Ownable: new owner is the zero address"
  pure { t with owner := newOwner }

/-- `Ownable.renounceOwnership`. -/
def renounceOwnership (t : XERC20) (msgSender : Address) : Except Revert XERC20 := do
  t._onlyOwner msgSender
  pure { t with owner := 0 }

def mintingCurrentLimitOf (t : XERC20) (now : Nat) (bridge : Address) : Except Revert Nat :=
  (t.bridges bridge).minterParams.currentLimitAt now

def burningCurrentLimitOf (t : XERC20) (now : Nat) (bridge : Address) : Except Revert Nat :=
  (t.bridges bridge).burnerParams.currentLimitAt now

def _useMinterLimits (t : XERC20) (now : Nat) (bridge : Address) (change : Nat) :
    Except Revert XERC20 := do
  let p ← (t.bridges bridge).minterParams._useLimits now change
  pure { t with
    bridges := Function.update t.bridges bridge { t.bridges bridge with minterParams := p } }

def _useBurnerLimits (t : XERC20) (now : Nat) (bridge : Address) (change : Nat) :
    Except Revert XERC20 := do
  let p ← (t.bridges bridge).burnerParams._useLimits now change
  pure { t with
    bridges := Function.update t.bridges bridge { t.bridges bridge with burnerParams := p } }

def _changeMinterLimit (t : XERC20) (now : Nat) (bridge : Address) (limit : Nat) :
    Except Revert XERC20 := do
  let p ← (t.bridges bridge).minterParams._changeLimit now limit
  pure { t with
    bridges := Function.update t.bridges bridge { t.bridges bridge with minterParams := p } }

def _changeBurnerLimit (t : XERC20) (now : Nat) (bridge : Address) (limit : Nat) :
    Except Revert XERC20 := do
  let p ← (t.bridges bridge).burnerParams._changeLimit now limit
  pure { t with
    bridges := Function.update t.bridges bridge { t.bridges bridge with burnerParams := p } }

def _mintWithCaller (t : XERC20) (now : Nat) (caller user : Address) (amount : Nat) :
    Except Revert XERC20 := do
  let t ← (if caller ≠ t.lockbox then do
      let currentLimit ← t.mintingCurrentLimitOf now caller
      revertIf (currentLimit < amount) .IXERC20_NotHighEnoughLimits
      t._useMinterLimits now caller amount
    else pure t)
  let e ← t.toERC20._mint user amount
  pure { t with toERC20 := e }

def _burnWithCaller (t : XERC20) (now : Nat) (caller user : Address) (amount : Nat) :
    Except Revert XERC20 := do
  let t ← (if caller ≠ t.lockbox then do
      let currentLimit ← t.burningCurrentLimitOf now caller
      revertIf (currentLimit < amount) .IXERC20_NotHighEnoughLimits
      t._useBurnerLimits now caller amount
    else pure t)
  let e ← t.toERC20._burn user amount
  pure { t with toERC20 := e }

def mint (t : XERC20) (now : Nat) (msgSender user : Address) (amount : Nat) :
    Except Revert XERC20 :=
  t._mintWithCaller now msgSender user amount

def burn (t : XERC20) (now : Nat) (msgSender user : Address) (amount : Nat) :
    Except Revert XERC20 := do
  let t ← (if msgSender ≠ user then do
      let e ← t.toERC20._spendAllowance user msgSender amount
      pure { t with toERC20 := e }
    else pure t)
  t._burnWithCaller now msgSender user amount

def setLockbox (t : XERC20) (msgSender lockbox : Address) : Except Revert XERC20 := do
  revertIf (msgSender ≠ t.FACTORY) .IXERC20_NotFactory
  pure { t with lockbox := lockbox }

def setLimits (t : XERC20) (now : Nat) (msgSender bridge : Address)
    (mintingLimit burningLimit : Nat) : Except Revert XERC20 := do
  t._onlyOwner msgSender
  let t ← t._changeMinterLimit now bridge mintingLimit
  t._changeBurnerLimit now bridge burningLimit

/-! ## The interface -/

/-- The calls of the token's interface. -/
inductive Call
  | mint (user : Address) (amount : Nat)
  | burn (user : Address) (amount : Nat)
  | transfer (dst : Address) (amount : Nat)
  | approve (spender : Address) (amount : Nat)
  | transferFrom (src dst : Address) (amount : Nat)
  | increaseAllowance (spender : Address) (addedValue : Nat)
  | decreaseAllowance (spender : Address) (subtractedValue : Nat)
  | permit (owner spender : Address) (value deadline : Nat) (validSignature : Bool)
  | setLimits (bridge : Address) (mintingLimit burningLimit : Nat)
  | setLockbox (lockbox : Address)
  | transferOwnership (newOwner : Address)
  | renounceOwnership
deriving DecidableEq, Repr

/-- The calls restricted to the owner or to the factory. -/
def Call.restricted : Call → Bool
  | .setLimits .. | .setLockbox .. | .transferOwnership _ | .renounceOwnership => true
  | _ => false

/-- A call that changes the ERC20 part only. -/
def onERC20 (t : XERC20) (x : Except Revert ERC20) : Except Revert XERC20 := do
  let e ← x
  pure { t with toERC20 := e }

/-- Run one call of the interface. -/
def exec (t : XERC20) (now : Nat) (msgSender : Address) : Call → Except Revert XERC20
  | .mint user amount => t.mint now msgSender user amount
  | .burn user amount => t.burn now msgSender user amount
  | .transfer dst amount => t.onERC20 (t.toERC20.transfer msgSender dst amount)
  | .approve spender amount => t.onERC20 (t.toERC20.approve msgSender spender amount)
  | .transferFrom src dst amount => t.onERC20 (t.toERC20.transferFrom msgSender src dst amount)
  | .increaseAllowance spender v => t.onERC20 (t.toERC20.increaseAllowance msgSender spender v)
  | .decreaseAllowance spender v => t.onERC20 (t.toERC20.decreaseAllowance msgSender spender v)
  | .permit owner spender value deadline validSignature =>
    t.onERC20 (t.toERC20.permit now owner spender value deadline validSignature)
  | .setLimits bridge mintingLimit burningLimit =>
    t.setLimits now msgSender bridge mintingLimit burningLimit
  | .setLockbox lockbox => t.setLockbox msgSender lockbox
  | .transferOwnership newOwner => t.transferOwnership msgSender newOwner
  | .renounceOwnership => t.renounceOwnership msgSender

/-! ## What the calls do -/

/-- A mint is charged to the caller's minting limits, and to nothing else. -/
theorem mint_limits {t t' : XERC20} {now : Nat} {msgSender user : Address} {amount : Nat}
    (h : t.mint now msgSender user amount = .ok t') (hbox : msgSender ≠ t.lockbox) :
    ∃ p, (t.bridges msgSender).minterParams._useLimits now amount = .ok p ∧
      t'.bridges = Function.update t.bridges msgSender
        { t.bridges msgSender with minterParams := p } := by
  simp only [mint, _mintWithCaller, if_pos hbox, _useMinterLimits, bind_eq_ok, pure_eq_ok] at h
  obtain ⟨_, ⟨_, _, _, _, p, hp, rfl⟩, _, _, rfl⟩ := h
  exact ⟨p, hp, rfl⟩

/-- **Minting**, whoever calls: the recipient is not the zero address, supply and balance grow by
    the amount. -/
theorem mint_funds {t t' : XERC20} {now : Nat} {msgSender user : Address} {amount : Nat}
    (h : t.mint now msgSender user amount = .ok t') (hs : t.Solvent) :
    user ≠ 0 ∧ t'.Solvent ∧ t'.totalSupply = t.totalSupply + amount ∧
      t'.balances = Function.update t.balances user (t.balances user + amount) := by
  simp only [mint, _mintWithCaller, bind_eq_ok, pure_eq_ok] at h
  obtain ⟨t₁, hlim, e, he, rfl⟩ := h
  have hsame : t₁.toERC20 = t.toERC20 := by
    split at hlim
    · simp only [_useMinterLimits, bind_eq_ok, pure_eq_ok] at hlim
      obtain ⟨_, _, _, _, _, _, rfl⟩ := hlim
      rfl
    · obtain rfl := pure_eq_ok.mp hlim
      rfl
  rw [hsame] at he
  exact ERC20._mint_spec he hs

/-- A mint goes through when the allowance, the recipient and the supply allow it. -/
theorem mint_ok {t : XERC20} {now : Nat} {msgSender user : Address} {amount c : Nat}
    (hbox : msgSender ≠ t.lockbox) (hc : t.mintingCurrentLimitOf now msgSender = .ok c)
    (hle : amount ≤ c) (huser : user ≠ 0) (hsup : t.totalSupply + amount ≤ uint256Max) :
    ∃ t', t.mint now msgSender user amount = .ok t' := by
  obtain ⟨p, hp⟩ := BridgeParameters._useLimits_ok hc hle
  obtain ⟨e, he⟩ := ERC20._mint_ok t.toERC20 huser hsup
  simp only [mint, _mintWithCaller, if_pos hbox, _useMinterLimits, bind_eq_ok, pure_eq_ok]
  exact ⟨_, _, ⟨c, hc, (), revertIf_eq_ok.mpr (by omega), p, hp, rfl⟩, e, he, rfl⟩

/-- Nobody mints to the zero address, whoever calls. -/
theorem mint_zero_address (t t' : XERC20) (now : Nat) (msgSender : Address) (amount : Nat) :
    t.mint now msgSender 0 amount ≠ .ok t' := by
  intro h
  simp only [mint, _mintWithCaller, bind_eq_ok] at h
  obtain ⟨_, _, e, he, _⟩ := h
  exact ERC20._mint_zero_address _ e amount he

/-- **Burning**, whoever calls: supply and balance shrink by the amount. -/
theorem burn_funds {t t' : XERC20} {now : Nat} {msgSender user : Address} {amount : Nat}
    (h : t.burn now msgSender user amount = .ok t') (hs : t.Solvent) :
    amount ≤ t.totalSupply ∧ t'.Solvent ∧ t'.totalSupply = t.totalSupply - amount ∧
      t'.balances = Function.update t.balances user (t.balances user - amount) := by
  simp only [burn, _burnWithCaller, bind_eq_ok, pure_eq_ok] at h
  obtain ⟨t₁, hspend, t₂, hlim, e, he, rfl⟩ := h
  have hsame : t.toERC20.SameFunds t₁.toERC20 := by
    split at hspend
    · simp only [bind_eq_ok, pure_eq_ok] at hspend
      obtain ⟨_, hallow, rfl⟩ := hspend
      exact ERC20._spendAllowance_spec hallow
    · obtain rfl := pure_eq_ok.mp hspend
      exact ⟨rfl, rfl⟩
  have hkept : t₂.toERC20 = t₁.toERC20 := by
    split at hlim
    · simp only [_useBurnerLimits, bind_eq_ok, pure_eq_ok] at hlim
      obtain ⟨_, _, _, _, _, _, rfl⟩ := hlim
      rfl
    · obtain rfl := pure_eq_ok.mp hlim
      rfl
  rw [hkept] at he
  obtain ⟨hle, hsol, hsup, hbal⟩ := ERC20._burn_spec he (hsame.solvent hs)
  rw [hsame.2] at hle hsup
  rw [hsame.1] at hbal
  exact ⟨hle, hsol, hsup, hbal⟩

/-- A burn is charged to the caller's burning limits, and to nothing else. -/
theorem burn_limits {t t' : XERC20} {now : Nat} {msgSender user : Address} {amount : Nat}
    (h : t.burn now msgSender user amount = .ok t') (hbox : msgSender ≠ t.lockbox) :
    ∃ p, (t.bridges msgSender).burnerParams._useLimits now amount = .ok p ∧
      t'.bridges = Function.update t.bridges msgSender
        { t.bridges msgSender with burnerParams := p } := by
  simp only [burn, bind_eq_ok] at h
  obtain ⟨t₁, hspend, h⟩ := h
  have hsame : t₁.bridges = t.bridges ∧ t₁.lockbox = t.lockbox := by
    split at hspend
    · simp only [bind_eq_ok, pure_eq_ok] at hspend
      obtain ⟨_, _, rfl⟩ := hspend
      exact ⟨rfl, rfl⟩
    · obtain rfl := pure_eq_ok.mp hspend
      exact ⟨rfl, rfl⟩
  rw [← hsame.2] at hbox
  simp only [_burnWithCaller, if_pos hbox, _useBurnerLimits, bind_eq_ok, pure_eq_ok, hsame.1] at h
  obtain ⟨_, ⟨_, _, _, _, p, hp, rfl⟩, _, _, rfl⟩ := h
  exact ⟨p, hp, rfl⟩

/-- The calls outside minting and burning leave the bridges and the roles alone. -/
theorem onERC20_spec {t t' : XERC20} {x : Except Revert ERC20} (h : t.onERC20 x = .ok t') :
    ∃ e, x = .ok e ∧ t' = { t with toERC20 := e } := by
  simp only [onERC20, bind_eq_ok, pure_eq_ok] at h
  obtain ⟨e, he, rfl⟩ := h
  exact ⟨e, he, rfl⟩

theorem setLimits_spec {t t' : XERC20} {now : Nat} {msgSender bridge : Address} {m b : Nat}
    (h : t.setLimits now msgSender bridge m b = .ok t') :
    ∃ p q, (t.bridges bridge).minterParams._changeLimit now m = .ok p ∧
      (t.bridges bridge).burnerParams._changeLimit now b = .ok q ∧
      t' = { t with bridges := Function.update t.bridges bridge ⟨p, q⟩ } := by
  simp only [setLimits, _changeMinterLimit, _changeBurnerLimit, bind_eq_ok, pure_eq_ok] at h
  obtain ⟨_, _, _, ⟨p, hp, rfl⟩, q, hq, rfl⟩ := h
  simp only [Function.update_self] at hq
  refine ⟨p, q, hp, hq, ?_⟩
  simp

/-- The owner's first `setLimits` for a bridge goes through. -/
theorem setLimits_ok {t : XERC20} (now : Nat) {bridge : Address} {m b : Nat}
    (hm : (t.bridges bridge).minterParams.maxLimit = 0)
    (hb : (t.bridges bridge).burnerParams.maxLimit = 0) (hmle : m ≤ uint256Max)
    (hble : b ≤ uint256Max) : ∃ t', t.setLimits now t.owner bridge m b = .ok t' := by
  obtain ⟨p, hp⟩ := BridgeParameters._changeLimit_ok now hm hmle
  obtain ⟨q, hq⟩ := BridgeParameters._changeLimit_ok now hb hble
  have howner : t._onlyOwner t.owner = .ok () := require_eq_ok.mpr rfl
  simp only [setLimits, _changeMinterLimit, _changeBurnerLimit, bind_eq_ok, pure_eq_ok]
  refine ⟨_, (), howner, _, ⟨p, hp, rfl⟩, q, ?_, rfl⟩
  dsimp only
  rw [Function.update_self]
  exact hq

/-! ## Frames -/

/-- The roles of a token: who owns it, who deployed it, who is exempt from limits. -/
def SameRoles (t t' : XERC20) : Prop :=
  t'.owner = t.owner ∧ t'.FACTORY = t.FACTORY ∧ t'.lockbox = t.lockbox

/-- Only `a`'s records are touched, and no maximum changes. -/
def TouchesOnly (t t' : XERC20) (a : Address) : Prop :=
  (∀ x, (t'.bridges x).minterParams.maxLimit = (t.bridges x).minterParams.maxLimit ∧
    (t'.bridges x).burnerParams.maxLimit = (t.bridges x).burnerParams.maxLimit) ∧
  ∀ x, x ≠ a → t'.bridges x = t.bridges x

theorem TouchesOnly.of_eq {t t' : XERC20} {a : Address} (h : t'.bridges = t.bridges) :
    t.TouchesOnly t' a := by
  refine ⟨fun x => ?_, fun x _ => by rw [h]⟩
  rw [h]; exact ⟨rfl, rfl⟩

/-- A write to `a`'s record that keeps both maxima touches only `a`. -/
theorem TouchesOnly.of_update {t t' : XERC20} {a : Address} {b : Bridge}
    (h : t'.bridges = Function.update t.bridges a b)
    (hm : b.minterParams.maxLimit = (t.bridges a).minterParams.maxLimit)
    (hb : b.burnerParams.maxLimit = (t.bridges a).burnerParams.maxLimit) :
    t.TouchesOnly t' a := by
  refine ⟨fun x => ?_, fun x hx => by rw [h, Function.update_of_ne hx]⟩
  by_cases hx : x = a
  · subst hx; rw [h, Function.update_self]; exact ⟨hm, hb⟩
  · rw [h, Function.update_of_ne hx]; exact ⟨rfl, rfl⟩

theorem mint_frame {t t' : XERC20} {now : Nat} {msgSender user : Address} {amount : Nat}
    (h : t.mint now msgSender user amount = .ok t') :
    t.SameRoles t' ∧ t.TouchesOnly t' msgSender := by
  simp only [mint, _mintWithCaller, bind_eq_ok, pure_eq_ok] at h
  obtain ⟨t₁, hlim, e, _, rfl⟩ := h
  split at hlim
  · simp only [_useMinterLimits, bind_eq_ok, pure_eq_ok] at hlim
    obtain ⟨_, _, _, _, p, hp, rfl⟩ := hlim
    obtain ⟨_, _, _, hmax, _⟩ := BridgeParameters._useLimits_spec hp
    exact ⟨⟨rfl, rfl, rfl⟩, .of_update rfl hmax rfl⟩
  · obtain rfl := pure_eq_ok.mp hlim
    exact ⟨⟨rfl, rfl, rfl⟩, .of_eq rfl⟩

theorem burn_frame {t t' : XERC20} {now : Nat} {msgSender user : Address} {amount : Nat}
    (h : t.burn now msgSender user amount = .ok t') :
    t.SameRoles t' ∧ t.TouchesOnly t' msgSender := by
  simp only [burn, _burnWithCaller, bind_eq_ok, pure_eq_ok] at h
  obtain ⟨t₁, hspend, t₂, hlim, e, _, rfl⟩ := h
  have hsame : t.SameRoles t₁ ∧ t₁.bridges = t.bridges := by
    split at hspend
    · simp only [bind_eq_ok, pure_eq_ok] at hspend
      obtain ⟨_, _, rfl⟩ := hspend
      exact ⟨⟨rfl, rfl, rfl⟩, rfl⟩
    · obtain rfl := pure_eq_ok.mp hspend
      exact ⟨⟨rfl, rfl, rfl⟩, rfl⟩
  obtain ⟨hroles, hbridges⟩ := hsame
  split at hlim
  · simp only [_useBurnerLimits, bind_eq_ok, pure_eq_ok] at hlim
    obtain ⟨_, _, _, _, p, hp, rfl⟩ := hlim
    obtain ⟨_, _, _, hmax, _⟩ := BridgeParameters._useLimits_spec hp
    refine ⟨hroles, ?_⟩
    unfold TouchesOnly
    rw [← hbridges]
    exact TouchesOnly.of_update rfl rfl hmax
  · obtain rfl := pure_eq_ok.mp hlim
    exact ⟨hroles, .of_eq hbridges⟩

/-- **The frame of an unrestricted call**: the roles stay, every maximum stays, and only the
    caller's records are touched at all. -/
theorem exec_frame {t t' : XERC20} {now : Nat} {msgSender : Address} {c : Call}
    (h : t.exec now msgSender c = .ok t') (hc : c.restricted = false) :
    t.SameRoles t' ∧ t.TouchesOnly t' msgSender := by
  cases c with
  | mint user amount => exact mint_frame h
  | burn user amount => exact burn_frame h
  | setLimits bridge m b => cases hc
  | setLockbox lockbox => cases hc
  | transferOwnership newOwner => cases hc
  | renounceOwnership => cases hc
  | _ =>
    obtain ⟨e, _, rfl⟩ := onERC20_spec h
    exact ⟨⟨rfl, rfl, rfl⟩, .of_eq rfl⟩

/-- What a call does to the supply: minting and burning move it by their amount, with the balance
    of the user, and nothing else moves it. -/
def Call.Moves (t t' : XERC20) : Call → Prop
  | .mint user amount => t'.totalSupply = t.totalSupply + amount ∧
      t'.balances = Function.update t.balances user (t.balances user + amount)
  | .burn user amount => amount ≤ t.totalSupply ∧ t'.totalSupply = t.totalSupply - amount ∧
      t'.balances = Function.update t.balances user (t.balances user - amount)
  | _ => t'.totalSupply = t.totalSupply

/-- **The supply under any call**, by anyone. -/
theorem exec_moves {t t' : XERC20} {now : Nat} {msgSender : Address} {c : Call}
    (h : t.exec now msgSender c = .ok t') (hs : t.Solvent) : t'.Solvent ∧ c.Moves t t' := by
  cases c with
  | mint user amount =>
    obtain ⟨_, hsol, hmoves⟩ := mint_funds h hs
    exact ⟨hsol, hmoves⟩
  | burn user amount =>
    obtain ⟨hle, hsol, hmoves⟩ := burn_funds h hs
    exact ⟨hsol, hle, hmoves⟩
  | setLimits bridge m b =>
    obtain ⟨_, _, _, _, rfl⟩ := setLimits_spec h
    exact ⟨hs, rfl⟩
  | setLockbox lockbox =>
    simp only [exec, setLockbox, bind_eq_ok, pure_eq_ok] at h
    obtain ⟨_, _, rfl⟩ := h
    exact ⟨hs, rfl⟩
  | transferOwnership newOwner =>
    simp only [exec, transferOwnership, bind_eq_ok, pure_eq_ok] at h
    obtain ⟨_, _, _, _, rfl⟩ := h
    exact ⟨hs, rfl⟩
  | renounceOwnership =>
    simp only [exec, renounceOwnership, bind_eq_ok, pure_eq_ok] at h
    obtain ⟨_, _, rfl⟩ := h
    exact ⟨hs, rfl⟩
  | transfer dst amount =>
    obtain ⟨e, he, rfl⟩ := onERC20_spec h
    exact ERC20._transfer_spec he hs
  | transferFrom src dst amount =>
    obtain ⟨e, he, rfl⟩ := onERC20_spec h
    exact ERC20.transferFrom_spec he hs
  | approve spender amount =>
    obtain ⟨e, he, rfl⟩ := onERC20_spec h
    exact ⟨(ERC20._approve_spec he).solvent hs, (ERC20._approve_spec he).2⟩
  | increaseAllowance spender v =>
    obtain ⟨e, he, rfl⟩ := onERC20_spec h
    exact ⟨(ERC20.increaseAllowance_spec he).solvent hs, (ERC20.increaseAllowance_spec he).2⟩
  | decreaseAllowance spender v =>
    obtain ⟨e, he, rfl⟩ := onERC20_spec h
    exact ⟨(ERC20.decreaseAllowance_spec he).solvent hs, (ERC20.decreaseAllowance_spec he).2⟩
  | permit owner spender value deadline validSignature =>
    obtain ⟨e, he, rfl⟩ := onERC20_spec h
    exact ⟨(ERC20.permit_spec he).solvent hs, (ERC20.permit_spec he).2⟩

/-- **Supply under unrestricted calls**: a caller without limits changes no supply. -/
theorem exec_supply {t t' : XERC20} {now : Nat} {msgSender : Address} {c : Call}
    (h : t.exec now msgSender c = .ok t') (hs : t.Solvent)
    (hbox : msgSender ≠ t.lockbox) (hm : (t.bridges msgSender).minterParams.maxLimit = 0)
    (hb : (t.bridges msgSender).burnerParams.maxLimit = 0) :
    t'.Solvent ∧ t'.totalSupply = t.totalSupply := by
  obtain ⟨hsol, hmoves⟩ := exec_moves h hs
  refine ⟨hsol, ?_⟩
  cases c with
  | mint user amount =>
    obtain ⟨p, hp, _⟩ := mint_limits h hbox
    obtain ⟨c, hc, hle, _⟩ := BridgeParameters._useLimits_spec hp
    have hcur := BridgeParameters.currentLimitAt_le hc
    have hsup := hmoves.1
    omega
  | burn user amount =>
    obtain ⟨p, hp, _⟩ := burn_limits h hbox
    obtain ⟨c, hc, hle, _⟩ := BridgeParameters._useLimits_spec hp
    have hcur := BridgeParameters.currentLimitAt_le hc
    have hsup := hmoves.2.1
    omega
  | _ => exact hmoves

end XERC20

/-! ## The deployed token -/

/-- `BasicXERC20Sample`'s constructor: `10 ** 18` units for the owner. -/
def BasicXERC20Sample.constructor (owner : Address) : Except Revert XERC20 :=
  (XERC20.constructor owner).onERC20 ((XERC20.constructor owner).toERC20._mint owner (10 ^ 18))

theorem BasicXERC20Sample.constructor_spec {owner : Address} {t : XERC20}
    (h : constructor owner = .ok t) :
    t.Solvent ∧ t.totalSupply = 10 ^ 18 ∧ t.owner = owner ∧ t.lockbox = 0 ∧
      t.bridges = fun _ => ⟨.zero, .zero⟩ := by
  obtain ⟨e, he, rfl⟩ := XERC20.onERC20_spec h
  obtain ⟨_, hsol, hsup, _⟩ := ERC20._mint_spec he ERC20.constructor_solvent
  refine ⟨hsol, ?_, rfl, rfl, rfl⟩
  simpa [XERC20.constructor, ERC20.constructor] using hsup

end CrossRWA
