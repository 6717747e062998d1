/-
  `GlacisAccessControlClient` — the allowed-route table and its eight-way wildcard query.

  The table is keyed by (chain, address, adapter), and each of the three keys has a wildcard.
  What the scripts put into a table is ONE entry, under the wildcard chain; `OnlyRoute` says that
  a table holds at most that entry, and `OnlyRoute.of_isAllowedRoute` reads the query back for
  such tables: the message comes from the entry's address, and from the entry's adapter — or from
  any RESERVED adapter id when the entry's adapter is the wildcard.  The chain is not constrained.
-/
import CrossRWA.Router.GlacisRouter

namespace CrossRWA

/-- `allowedRoutes[chain][address][adapter]`. -/
abbrev AllowedRoutes := Uint256 → Bytes32 → Address → Bool

/-- `WILDCARD` as a chain id. -/
def WILD_CHAIN : Uint256 := toBytes32 WILDCARD

def WILD_BYTES : Bytes32 := toBytes32 WILDCARD

def WILD_ADDR : Address := WILDCARD

namespace AllowedRoutes

def write (allowedRoutes : AllowedRoutes) (route : GlacisRoute) (b : Bool) : AllowedRoutes :=
  Function.update allowedRoutes route.fromChainId
    (Function.update (allowedRoutes route.fromChainId) route.fromAddress
      (Function.update (allowedRoutes route.fromChainId route.fromAddress) route.fromAdapter b))

def _addAllowedRoute (allowedRoutes : AllowedRoutes) (route : GlacisRoute) : AllowedRoutes :=
  allowedRoutes.write route true

def _removeAllowedRoute (allowedRoutes : AllowedRoutes) (route : GlacisRoute) : AllowedRoutes :=
  allowedRoutes.write route false

def isAllowedRoute (allowedRoutes : AllowedRoutes) (route_ : GlacisRoute) : Bool :=
  allowedRoutes route_.fromChainId route_.fromAddress route_.fromAdapter ||
  allowedRoutes WILD_CHAIN route_.fromAddress route_.fromAdapter ||
  allowedRoutes WILD_CHAIN WILD_BYTES route_.fromAdapter ||
  allowedRoutes route_.fromChainId WILD_BYTES route_.fromAdapter ||
  (decide (route_.fromAdapter.toNat ≤ GLACIS_RESERVED_IDS) && (
    allowedRoutes route_.fromChainId route_.fromAddress WILD_ADDR ||
    allowedRoutes route_.fromChainId WILD_BYTES WILD_ADDR ||
    allowedRoutes WILD_CHAIN route_.fromAddress WILD_ADDR ||
    allowedRoutes WILD_CHAIN WILD_BYTES WILD_ADDR))

/-- The table holds at most the entry (wildcard chain, `src`, `adapter`). -/
def OnlyRoute (allowedRoutes : AllowedRoutes) (src : Bytes32) (adapter : Address) : Prop :=
  ∀ c f a, allowedRoutes c f a = true → c = WILD_CHAIN ∧ f = src ∧ a = adapter

variable {allowedRoutes : AllowedRoutes} {src : Bytes32} {adapter : Address}

theorem OnlyRoute.empty : OnlyRoute (fun _ _ _ => false) src adapter :=
  fun _ _ _ h => absurd h Bool.false_ne_true

/-- Writing the entry keeps the table to that entry. -/
theorem OnlyRoute.add (h : allowedRoutes.OnlyRoute src adapter) :
    (allowedRoutes._addAllowedRoute ⟨WILD_CHAIN, src, adapter⟩).OnlyRoute src adapter := by
  intro c f a hcfa
  unfold _addAllowedRoute write at hcfa
  by_cases hc : c = WILD_CHAIN
  · subst hc
    rw [Function.update_self] at hcfa
    by_cases hf : f = src
    · subst hf
      rw [Function.update_self] at hcfa
      by_cases ha : a = adapter
      · exact ⟨rfl, rfl, ha⟩
      · rw [Function.update_of_ne ha] at hcfa
        exact h _ _ _ hcfa
    · rw [Function.update_of_ne hf] at hcfa
      exact h _ _ _ hcfa
  · rw [Function.update_of_ne hc] at hcfa
    exact h _ _ _ hcfa

/-- Adding a route sets its entry ... -/
theorem _addAllowedRoute_self (allowedRoutes : AllowedRoutes) (c : Uint256) (f : Bytes32)
    (a : Address) : allowedRoutes._addAllowedRoute ⟨c, f, a⟩ c f a = true := by
  simp [_addAllowedRoute, write]

/-- ... and clears none. -/
theorem _addAllowedRoute_mono {c : Uint256} {f : Bytes32} {a : Address} (route : GlacisRoute)
    (h : allowedRoutes c f a = true) : allowedRoutes._addAllowedRoute route c f a = true := by
  unfold _addAllowedRoute write
  by_cases hc : c = route.fromChainId
  · subst hc
    rw [Function.update_self]
    by_cases hf : f = route.fromAddress
    · subst hf
      rw [Function.update_self]
      by_cases ha : a = route.fromAdapter
      · subst ha; exact Function.update_self _ _ _
      · rw [Function.update_of_ne ha]; exact h
    · rw [Function.update_of_ne hf]; exact h
  · rw [Function.update_of_ne hc]; exact h

/-- **Reading the query back.**  An allowed message comes from the entry's address and adapter,
    or through a reserved id when the entry allows every adapter. -/
theorem OnlyRoute.of_isAllowedRoute (h : allowedRoutes.OnlyRoute src adapter)
    (hsrc : src ≠ WILD_BYTES) {route : GlacisRoute} (hr : allowedRoutes.isAllowedRoute route = true) :
    route.fromAddress = src ∧ (route.fromAdapter = adapter ∨
      adapter = WILD_ADDR ∧ route.fromAdapter.toNat ≤ GLACIS_RESERVED_IDS) := by
  simp only [isAllowedRoute, Bool.or_eq_true, Bool.and_eq_true, decide_eq_true_eq] at hr
  -- the four disjuncts with a wildcard address read entries the table does not hold
  have hwild : ∀ c a, allowedRoutes c WILD_BYTES a = true → False :=
    fun c a hca => hsrc (h _ _ _ hca).2.1.symm
  rcases hr with (((hr | hr) | hr) | hr) | ⟨hres, ((hr | hr) | hr) | hr⟩
  · exact ⟨(h _ _ _ hr).2.1, Or.inl (h _ _ _ hr).2.2⟩
  · exact ⟨(h _ _ _ hr).2.1, Or.inl (h _ _ _ hr).2.2⟩
  · exact (hwild _ _ hr).elim
  · exact (hwild _ _ hr).elim
  · exact ⟨(h _ _ _ hr).2.1, Or.inr ⟨(h _ _ _ hr).2.2.symm, hres⟩⟩
  · exact (hwild _ _ hr).elim
  · exact ⟨(h _ _ _ hr).2.1, Or.inr ⟨(h _ _ _ hr).2.2.symm, hres⟩⟩
  · exact (hwild _ _ hr).elim

/-- An entry under the wildcard chain allows its address and adapter from every chain. -/
theorem isAllowedRoute_of_entry (h : allowedRoutes WILD_CHAIN src adapter = true)
    (fromChainId : Uint256) : allowedRoutes.isAllowedRoute ⟨fromChainId, src, adapter⟩ = true := by
  simp [isAllowedRoute, h]

end AllowedRoutes

end CrossRWA
