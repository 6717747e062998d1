/-
  OpenZeppelin `ERC20` — balances, allowances and total supply.

  Each function is the contract's, with its `require` texts, its checked additions and its
  `unchecked` blocks.  The comments of the contract claim that the unchecked updates cannot
  overflow because the balances sum to the total supply; that claim is the invariant
  `ERC20.Solvent`, and it is what makes the wrap-around arithmetic exact:

  * `_mint_spec`, `_burn_spec`, `_transfer_spec` say what a successful call does WITHOUT any
    `% 2 ^ 256`, and that it keeps `Solvent`;
  * `_approve_spec` and `_spendAllowance_spec`: allowances never touch balances or supply.
-/
import CrossRWA.Commons
import CrossRWA.Lib.Ledger

namespace CrossRWA

instance : Fintype Address :=
  Fintype.ofEquiv (Fin (2 ^ 160)) ⟨BitVec.ofFin, BitVec.toFin, fun _ => rfl, fun _ => rfl⟩

structure ERC20 where
  balances : Address → Nat
  allowances : Address → Address → Nat
  totalSupply : Nat

namespace ERC20

/-! ## The contract's functions -/

/-- The empty token of the constructor. -/
def constructor : ERC20 where
  balances := fun _ => 0
  allowances := fun _ _ => 0
  totalSupply := 0

def _transfer (t : ERC20) (src dst : Address) (amount : Nat) : Except Revert ERC20 := do
  require (src ≠ 0) "ERC20: transfer from the zero address"
  require (dst ≠ 0) "ERC20: transfer to the zero address"
  let fromBalance := t.balances src
  require (amount ≤ fromBalance) "ERC20: transfer amount exceeds balance"
  -- unchecked: the second write reads the first
  let balances := Function.update t.balances src (uncheckedSub fromBalance amount)
  pure { t with
    balances := Function.update balances dst (uncheckedAdd (balances dst) amount) }

def _mint (t : ERC20) (account : Address) (amount : Nat) : Except Revert ERC20 := do
  require (account ≠ 0) "ERC20: mint to the zero address"
  let totalSupply ← checkedAdd t.totalSupply amount
  pure { t with
    totalSupply := totalSupply
    balances := Function.update t.balances account (uncheckedAdd (t.balances account) amount) }

def _burn (t : ERC20) (account : Address) (amount : Nat) : Except Revert ERC20 := do
  require (account ≠ 0) "ERC20: burn from the zero address"
  let accountBalance := t.balances account
  require (amount ≤ accountBalance) "ERC20: burn amount exceeds balance"
  pure { t with
    balances := Function.update t.balances account (uncheckedSub accountBalance amount)
    totalSupply := uncheckedSub t.totalSupply amount }

def _approve (t : ERC20) (owner spender : Address) (amount : Nat) : Except Revert ERC20 := do
  require (owner ≠ 0) "ERC20: approve from the zero address"
  require (spender ≠ 0) "ERC20: approve to the zero address"
  pure { t with
    allowances := Function.update t.allowances owner
      (Function.update (t.allowances owner) spender amount) }

def _spendAllowance (t : ERC20) (owner spender : Address) (amount : Nat) :
    Except Revert ERC20 :=
  let currentAllowance := t.allowances owner spender
  if currentAllowance ≠ uint256Max then do
    require (amount ≤ currentAllowance) "ERC20: insufficient allowance"
    t._approve owner spender (uncheckedSub currentAllowance amount)
  else pure t

def transfer (t : ERC20) (msgSender dst : Address) (amount : Nat) : Except Revert ERC20 :=
  t._transfer msgSender dst amount

def approve (t : ERC20) (msgSender spender : Address) (amount : Nat) : Except Revert ERC20 :=
  t._approve msgSender spender amount

def transferFrom (t : ERC20) (msgSender src dst : Address) (amount : Nat) :
    Except Revert ERC20 := do
  let t ← t._spendAllowance src msgSender amount
  t._transfer src dst amount

def increaseAllowance (t : ERC20) (msgSender spender : Address) (addedValue : Nat) :
    Except Revert ERC20 := do
  let amount ← checkedAdd (t.allowances msgSender spender) addedValue
  t._approve msgSender spender amount

def decreaseAllowance (t : ERC20) (msgSender spender : Address) (subtractedValue : Nat) :
    Except Revert ERC20 := do
  let currentAllowance := t.allowances msgSender spender
  require (subtractedValue ≤ currentAllowance) "ERC20: decreased allowance below zero"
  t._approve msgSender spender (uncheckedSub currentAllowance subtractedValue)

/-- `ERC20Permit.permit`; whether `ECDSA.recover` returns `owner` is an input of the call. -/
def permit (t : ERC20) (now : Nat) (owner spender : Address) (value deadline : Nat)
    (validSignature : Bool) : Except Revert ERC20 := do
  require (now ≤ deadline) "ERC20Permit: expired deadline"
  require (validSignature = true) "ERC20Permit: invalid signature"
  t._approve owner spender value

/-! ## The supply invariant -/

/-- The balances sum to the total supply, and the total supply is a `uint256`. -/
structure Solvent (t : ERC20) : Prop where
  sum_eq : ∑ a, t.balances a = t.totalSupply
  supply_le : t.totalSupply ≤ uint256Max

theorem constructor_solvent : constructor.Solvent where
  sum_eq := by simp [constructor]
  supply_le := Nat.zero_le _

theorem Solvent.balance_le {t : ERC20} (h : t.Solvent) (a : Address) :
    t.balances a ≤ t.totalSupply := h.sum_eq ▸ Ledger.le_sum t.balances a

/-! ## What a successful call does -/

theorem _mint_spec {t t' : ERC20} {account : Address} {amount : Nat}
    (h : t._mint account amount = .ok t') (hs : t.Solvent) :
    account ≠ 0 ∧ t'.Solvent ∧ t'.totalSupply = t.totalSupply + amount ∧
      t'.balances = Function.update t.balances account (t.balances account + amount) := by
  simp only [_mint, bind_eq_ok, require_eq_ok, checkedAdd_eq_ok, pure_eq_ok] at h
  obtain ⟨_, hacc, supply, ⟨hle, rfl⟩, rfl⟩ := h
  have hbal := hs.balance_le account
  have hexact : uncheckedAdd (t.balances account) amount = t.balances account + amount :=
    uncheckedAdd_eq (by omega)
  refine ⟨hacc, ⟨?_, hle⟩, rfl, by rw [hexact]⟩
  have hsum := Ledger.sum_update_add t.balances account (t.balances account + amount)
  have := hs.sum_eq
  simp only [hexact]
  omega

/-- When a mint goes through: a recipient, and room in the supply. -/
theorem _mint_ok (t : ERC20) {account : Address} {amount : Nat} (hacc : account ≠ 0)
    (hle : t.totalSupply + amount ≤ uint256Max) : ∃ t', t._mint account amount = .ok t' := by
  simp only [_mint, bind_eq_ok, require_eq_ok, checkedAdd_eq_ok, pure_eq_ok]
  exact ⟨_, (), hacc, _, ⟨hle, rfl⟩, rfl⟩

theorem _mint_zero_address (t t' : ERC20) (amount : Nat) : t._mint 0 amount ≠ .ok t' := by
  intro h
  simp only [_mint, bind_eq_ok, require_eq_ok] at h
  obtain ⟨_, hacc, _⟩ := h
  exact hacc rfl

theorem _burn_spec {t t' : ERC20} {account : Address} {amount : Nat}
    (h : t._burn account amount = .ok t') (hs : t.Solvent) :
    amount ≤ t.totalSupply ∧ t'.Solvent ∧ t'.totalSupply = t.totalSupply - amount ∧
      t'.balances = Function.update t.balances account (t.balances account - amount) := by
  simp only [_burn, bind_eq_ok, require_eq_ok, pure_eq_ok] at h
  obtain ⟨_, hacc, _, hle, rfl⟩ := h
  have hbal := hs.balance_le account
  have hmax := hs.supply_le
  have hb : uncheckedSub (t.balances account) amount = t.balances account - amount :=
    uncheckedSub_eq (by omega) hle
  have ht : uncheckedSub t.totalSupply amount = t.totalSupply - amount :=
    uncheckedSub_eq hmax (by omega)
  refine ⟨by omega, ⟨?_, by simp only [ht]; omega⟩, ht, by rw [hb]⟩
  have hsum := Ledger.sum_update_add t.balances account (t.balances account - amount)
  have := hs.sum_eq
  simp only [hb, ht]
  omega

theorem _transfer_spec {t t' : ERC20} {src dst : Address} {amount : Nat}
    (h : t._transfer src dst amount = .ok t') (hs : t.Solvent) :
    t'.Solvent ∧ t'.totalSupply = t.totalSupply := by
  simp only [_transfer, bind_eq_ok, require_eq_ok, pure_eq_ok] at h
  obtain ⟨_, _, _, _, _, hle, rfl⟩ := h
  have hmax := hs.supply_le
  have hsrc := hs.balance_le src
  have hb : uncheckedSub (t.balances src) amount = t.balances src - amount :=
    uncheckedSub_eq (by omega) hle
  have hroom : Function.update t.balances src (t.balances src - amount) dst + amount
      ≤ uint256Max := by
    have hs' := hs.sum_eq
    by_cases hd : dst = src
    · subst hd; rw [Function.update_self]; omega
    · have := Ledger.add_le_sum t.balances (Ne.symm hd)
      rw [Function.update_of_ne hd]; omega
  refine ⟨⟨?_, hmax⟩, rfl⟩
  simp only [hb, uncheckedAdd_eq hroom]
  rw [Ledger.sum_transfer t.balances src dst hle, hs.sum_eq]

/-- Two tokens that differ in their allowances at most. -/
def SameFunds (t t' : ERC20) : Prop := t'.balances = t.balances ∧ t'.totalSupply = t.totalSupply

theorem SameFunds.solvent {t t' : ERC20} (h : t.SameFunds t') (hs : t.Solvent) : t'.Solvent :=
  ⟨by rw [h.1, h.2]; exact hs.sum_eq, by rw [h.2]; exact hs.supply_le⟩

theorem _approve_spec {t t' : ERC20} {owner spender : Address} {amount : Nat}
    (h : t._approve owner spender amount = .ok t') : t.SameFunds t' := by
  simp only [_approve, bind_eq_ok, require_eq_ok, pure_eq_ok] at h
  obtain ⟨_, _, _, _, rfl⟩ := h
  exact ⟨rfl, rfl⟩

theorem _spendAllowance_spec {t t' : ERC20} {owner spender : Address} {amount : Nat}
    (h : t._spendAllowance owner spender amount = .ok t') : t.SameFunds t' := by
  dsimp only [_spendAllowance] at h
  split at h
  · simp only [bind_eq_ok] at h
    obtain ⟨_, _, happ⟩ := h
    exact _approve_spec happ
  · obtain rfl := pure_eq_ok.mp h
    exact ⟨rfl, rfl⟩

theorem transferFrom_spec {t t' : ERC20} {msgSender src dst : Address} {amount : Nat}
    (h : t.transferFrom msgSender src dst amount = .ok t') (hs : t.Solvent) :
    t'.Solvent ∧ t'.totalSupply = t.totalSupply := by
  simp only [transferFrom, bind_eq_ok] at h
  obtain ⟨t₁, hspend, htr⟩ := h
  have hsame := _spendAllowance_spec hspend
  obtain ⟨hsol, hsup⟩ := _transfer_spec htr (hsame.solvent hs)
  exact ⟨hsol, hsup.trans hsame.2⟩

theorem increaseAllowance_spec {t t' : ERC20} {msgSender spender : Address} {v : Nat}
    (h : t.increaseAllowance msgSender spender v = .ok t') : t.SameFunds t' := by
  simp only [increaseAllowance, bind_eq_ok] at h
  obtain ⟨_, _, happ⟩ := h
  exact _approve_spec happ

theorem decreaseAllowance_spec {t t' : ERC20} {msgSender spender : Address} {v : Nat}
    (h : t.decreaseAllowance msgSender spender v = .ok t') : t.SameFunds t' := by
  simp only [decreaseAllowance, bind_eq_ok] at h
  obtain ⟨_, _, happ⟩ := h
  exact _approve_spec happ

theorem permit_spec {t t' : ERC20} {now : Nat} {owner spender : Address} {value deadline : Nat}
    {validSignature : Bool}
    (h : t.permit now owner spender value deadline validSignature = .ok t') :
    t.SameFunds t' := by
  simp only [permit, bind_eq_ok] at h
  obtain ⟨_, _, _, _, happ⟩ := h
  exact _approve_spec happ

end ERC20

end CrossRWA
