/-
  What the scripts leave behind — a wired path, in every run that contains their transactions.

  1. `Owned`: the deployer owns the mediators and the token, whatever accounts do, so that the
     scripts' owner calls go through whenever they come.
  2. `Setting` is one of the three things a script sets on a mediator: its token, its route, its
     counterpart.  `Setting.reached`: once the mediator is deployed and the setting's call is made,
     in this order and with anything permitted in between, it holds for good.  `HasLimits.reached`
     is the same for the limits on the token.
  3. `Wired` has all four; `wired_of_run`: a path is wired in every run in which its scripts' wiring
     transactions occur in their order.
-/
import CrossRWA.TokenSide

namespace CrossRWA

variable {Path : Type} {keccak256 : Bytes → Bytes32} {d : Deployment Path} {entry : Path → Address}
  {s : Side} {p : Path} {c c' : Chain} {w w' : World} {a : Action Path}
  {admin : Transaction Path → Prop} {delivers : Deliveries} {l : List (Action Path)}

/-! ## Ownership -/

/-- The deployer owns the mediators and the token, and no mediator waits for another owner. -/
structure Owned (d : Deployment Path) (c : Chain) : Prop where
  mediators : ∀ x m, c.mediators x = some m → m.owner = d.deployer ∧ m.pendingOwner = 0
  token : ∀ t, c.token = some t → t.owner = d.deployer

/-- **What a step does to the token**: nothing, its deployment, a call that keeps every maximum,
    or a restricted call. -/
theorem ChainStep.token_cases (hs : ChainStep keccak256 d s c a c') :
    c'.token = c.token ∨
    (c.token = none ∧ ∃ t, BasicXERC20Sample.constructor d.deployer = .ok t ∧ c'.token = some t) ∨
    ∃ t t', c.token = some t ∧ c'.token = some t' ∧
      ((∃ x, t.SameRoles t' ∧ t.TouchesOnly t' x) ∨
        ∃ env x v call, a = .transact env (.call s x v (.token call)) ∧ call.restricted = true ∧
          t.exec c.now x call = .ok t') := by
  have hclient : ∀ {c₁ : Chain} {R : GlacisRouter.Received} {fromChainId : Uint256},
      Executed (d.site s) c₁ R fromChainId c' → c₁.token = c.token →
      c'.token = c.token ∨ ∃ t t', c.token = some t ∧ c'.token = some t' ∧
        ∃ x, t.SameRoles t' ∧ t.TouchesOnly t' x := by
    intro c₁ R f he htoken
    cases he with
    | external _ => exact Or.inl htoken
    | mint _ _ _ _ ht hmint =>
      exact Or.inr ⟨_, _, htoken.symm.trans ht, rfl, _, XERC20.mint_frame hmint⟩
  cases hs with
  | deployXERC20 hnone ht => exact Or.inr (Or.inl ⟨hnone, _, ht, rfl⟩)
  | deployMediator _ _ => exact Or.inl rfl
  | tick _ => exact Or.inl rfl
  | @call env x v call _ he =>
    cases he with
    | mediator _ _ => exact Or.inl rfl
    | router _ => exact Or.inl rfl
    | route _ => exact Or.inl rfl
    | routeRetry _ => exact Or.inl rfl
    | sendCrossChainRetry _ _ => exact Or.inl rfl
    | @token call t t' ht hexec =>
      refine Or.inr (Or.inr ⟨t, t', ht, rfl, ?_⟩)
      cases hres : call.restricted with
      | false => exact Or.inl ⟨x, XERC20.exec_frame hexec hres⟩
      | true => exact Or.inr ⟨env, x, v, call, rfl, hres, hexec⟩
    | sendCrossChain _ _ _ ht hburn _ _ =>
      exact Or.inr (Or.inr ⟨_, _, ht, rfl, Or.inl ⟨_, XERC20.burn_frame hburn⟩⟩)
    | mediatorReceiveMessage _ _ _ _ ht hmint =>
      exact Or.inr (Or.inr ⟨_, _, ht, rfl, Or.inl ⟨_, XERC20.mint_frame hmint⟩⟩)
    | @receiveMessage fromChainId _ R _ _ hskip hexec =>
      cases hex : R.executed with
      | false => rw [hskip hex]; exact Or.inl rfl
      | true =>
        rcases hclient (hexec hex) rfl with heq | ⟨t, t', ht, ht', hframe⟩
        · exact Or.inl heq
        · exact Or.inr (Or.inr ⟨t, t', ht, ht', Or.inl hframe⟩)
    | retryReceiveMessage _ hexec =>
      rcases hclient hexec rfl with heq | ⟨t, t', ht, ht', hframe⟩
      · exact Or.inl heq
      · exact Or.inr (Or.inr ⟨t, t', ht, ht', Or.inl hframe⟩)

/-- **Ownership is kept by every permitted step**: the scripts transfer none, and neither do the
    owner's later changes of counterparts. -/
theorem Owned.step (h : Owned d c) (hs : ChainStep keccak256 d s c a c')
    (hP : Permitted d admin delivers w a)
    (hadmin : ∀ t, admin t → t.IsCall fun s call => WiringCall d entry s call ∨ CounterpartCall call) :
    Owned d c' where
  mediators := by
    intro x m' hm'
    rcases hs.mediator_cases hm' with hold | hnew | ⟨m, call, env, y, v, hm, hexec, rfl⟩
    · exact h.mediators x m' hold
    · obtain ⟨howner, hpending, _⟩ := SimpleTokenMediator.constructor_spec hnew
      exact ⟨howner, hpending⟩
    · obtain ⟨howner, hpending⟩ := h.mediators x m hm
      have hspec := SimpleTokenMediator.exec_spec hexec
      cases call with
      | acceptOwnership =>
        -- the pending owner is the zero address, which makes no calls
        have hy := hP.account.2.ordinary.ne_zero
        exact absurd (hspec.1.symm.trans hpending) hy
      | transferOwnership _ => rcases hadmin _ (hP.admin rfl) with hw | hw <;> exact hw.elim
      | renounceOwnership => rcases hadmin _ (hP.admin rfl) with hw | hw <;> exact hw.elim
      | addRemoteCounterparts _ _ =>
        obtain ⟨_, _, _, rfl⟩ := hspec
        exact ⟨howner, hpending⟩
      | _ =>
        obtain ⟨_, rfl⟩ := hspec
        exact ⟨howner, hpending⟩
  token := by
    intro t' ht'
    rcases hs.token_cases with heq | ⟨_, t, ht, heq⟩ | ⟨t, t₁, ht, heq, hcases⟩
    · exact h.token t' (heq ▸ ht')
    · rw [heq] at ht'
      obtain rfl := Option.some.inj ht'
      exact (BasicXERC20Sample.constructor_spec ht).2.2.1
    · rw [heq] at ht'
      obtain rfl := Option.some.inj ht'
      rcases hcases with ⟨x, hroles, _⟩ | ⟨env, x, v, call, rfl, hres, hexec⟩
      · rw [hroles.1]; exact h.token t ht
      · rcases hadmin _ (hP.admin hres) with hcall | hcall
        · obtain ⟨bridge, _, rfl⟩ := WiringCall.setLimits hcall hres
          obtain ⟨_, _, _, _, rfl⟩ := XERC20.setLimits_spec hexec
          exact h.token t ht
        · exact hcall.elim

theorem Owned.initial (router : GlacisRouter) (now : Nat) : Owned d (Chain.initial router now) where
  mediators := fun _ _ hm => nomatch hm
  token := fun _ ht => nomatch ht

/-! ## A mediator's settings -/

/-- A mediator is there, and something holds of it. -/
def HasMediator (d : Deployment Path) (s : Side) (p : Path) (holds : SimpleTokenMediator → Prop)
    (c : Chain) : Prop := ∃ m, c.mediators (d.mediator s p) = some m ∧ holds m

/-- What every local call the run makes keeps, every step keeps. -/
theorem HasMediator.step {holds : SimpleTokenMediator → Prop} (h : HasMediator d s p holds (w s))
    (hok : w.step keccak256 d a = .ok w') (hkept : ∀ m m' env x v call,
      (w s).mediators (d.mediator s p) = some m →
      a = .transact env (.call s x v (.mediator (d.mediator s p) call)) → m.exec x call = .ok m' →
      holds m → holds m') : HasMediator d s p holds (w' s) := by
  rcases World.step_at hok s with heq | hs
  · rw [heq]; exact h
  · obtain ⟨m, hm, hholds⟩ := h
    obtain ⟨m', hm', rfl | ⟨call, env, x, v, hexec, ha⟩⟩ := hs.mediator_stays hm
    · exact ⟨_, hm', hholds⟩
    · exact ⟨m', hm', hkept m m' env x v call hm ha hexec hholds⟩

/-- After its deployment a mediator is there: deployed now, or there before. -/
theorem hasMediator_of_deploy (w : World) (env : Env) : HasMediator d s p (fun _ => True)
    (Machine.apply (World.step keccak256 d) w (.transact env (.deployMediator s p)) s) := by
  cases hm : (w s).mediators (d.mediator s p) with
  | none =>
    obtain ⟨m, hnew⟩ : ∃ m, SimpleTokenMediator.constructor s.router 1 d.deployer = .ok m := by
      cases s <;> exact ⟨_, rfl⟩
    have hstep : w.step keccak256 d (.transact env (.deployMediator s p)) =
        .ok (Function.update w s { w s with
          mediators := Function.update (w s).mediators (d.mediator s p) (some m) }) := by
      refine World.on_eq_ok.mpr ⟨_, ?_, rfl⟩
      simp only [Chain.deployMediator, hm, bind_eq_ok, pure_eq_ok, revertIf_eq_ok]
      exact ⟨(), by simp, m, hnew, rfl⟩
    rw [Machine.apply_of_ok hstep, Function.update_self]
    exact ⟨m, Function.update_self _ _ _, trivial⟩
  | some m =>
    have hhas : HasMediator d s p (fun _ => True) (w s) := ⟨m, hm, trivial⟩
    rcases Machine.apply_cases (World.step keccak256 d) w (.transact env (.deployMediator s p))
      with hok | heq
    · exact hhas.step hok fun _ _ _ _ _ _ _ _ _ h => h
    · rw [heq]; exact hhas

/-- One thing a script sets on a mediator: the call, what it establishes, and which of the owner's
    calls leave it, the scripts' among them. -/
structure Setting (d : Deployment Path) (entry : Path → Address) (s : Side) (p : Path) where
  call : SimpleTokenMediator.LocalCall
  holds : SimpleTokenMediator → Prop
  admits : SimpleTokenMediator.LocalCall → Prop
  wires : ∀ {call}, WiringCall d entry s (.mediator (d.mediator s p) call) → admits call
  set : ∀ m : SimpleTokenMediator, ∃ m', m.exec m.owner call = .ok m' ∧ holds m'
  kept : ∀ {m m' : SimpleTokenMediator} {x : Address} {call : SimpleTokenMediator.LocalCall},
    m.exec x call = .ok m' → (call.restricted = true → admits call) → holds m → holds m'

/-- Its token. -/
def tokenSetting (d : Deployment Path) (entry : Path → Address) (s : Side) (p : Path) :
    Setting d entry s p where
  call := .setXERC20 (d.xerc20 s)
  holds := fun m => m.xERC20Token = d.xerc20 s
  admits := fun call => ∀ token, call = .setXERC20 token → token = d.xerc20 s
  wires := by
    rintro _ h token rfl
    exact h
  set := fun m => ⟨_, (SimpleTokenMediator.exec_of_owner m).1 _, rfl⟩
  kept := by
    intro m m' x call hexec hadmits hholds
    have hspec := SimpleTokenMediator.exec_spec hexec
    cases call with
    | setXERC20 token => rw [hspec.2]; exact hadmits rfl token rfl
    | addRemoteCounterparts _ _ =>
      obtain ⟨_, _, _, rfl⟩ := hspec
      exact hholds
    | _ => rw [hspec.2]; exact hholds

/-- The route from the path's other mediator, over the path's adapter. -/
def routeSetting (d : Deployment Path) (entry : Path → Address) (s : Side) (p : Path) :
    Setting d entry s p where
  call := .addAllowedRoute ⟨WILD_CHAIN, toBytes32 (d.mediator s.other p), entry p⟩
  holds := fun m =>
    m.allowedRoutes WILD_CHAIN (toBytes32 (d.mediator s.other p)) (entry p) = true
  admits := fun call => ∀ route, call ≠ .removeAllowedRoute route
  wires := by
    rintro _ h route rfl
    exact h
  set := fun m => ⟨_, (SimpleTokenMediator.exec_of_owner m).2.1 _,
    AllowedRoutes._addAllowedRoute_self m.allowedRoutes WILD_CHAIN (toBytes32 (d.mediator s.other p))
      (entry p)⟩
  kept := by
    intro m m' x call hexec hadmits hholds
    have hspec := SimpleTokenMediator.exec_spec hexec
    cases call with
    | addAllowedRoute route => rw [hspec.2]; exact AllowedRoutes._addAllowedRoute_mono route hholds
    | removeAllowedRoute route => exact absurd rfl (hadmits rfl route)
    | addRemoteCounterparts _ _ =>
      obtain ⟨_, _, _, rfl⟩ := hspec
      exact hholds
    | _ => rw [hspec.2]; exact hholds

/-- The owner's calls that leave the counterpart of the other chain: they write no other value
    under its id. -/
def KeepsCounterpart (d : Deployment Path) (s : Side) (p : Path) :
    SimpleTokenMediator.LocalCall → Prop
  | .addRemoteCounterparts chainIDs counterpart => ∀ e ∈ chainIDs.zip counterpart,
    e.1 = s.other.chainId → e.2 = toBytes32 (d.mediator s.other p)
  | .removeRemoteCounterpart chainId => chainId ≠ s.other.chainId
  | _ => True

/-- The counterpart on the other chain. -/
def counterpartSetting (d : Deployment Path) (entry : Path → Address) (s : Side) (p : Path) :
    Setting d entry s p where
  call := .addRemoteCounterparts [s.other.chainId] [toBytes32 (d.mediator s.other p)]
  holds := fun m => m.remoteCounterpart s.other.chainId = toBytes32 (d.mediator s.other p)
  admits := KeepsCounterpart d s p
  wires := by
    intro call h
    cases call with
    | addRemoteCounterparts _ _ =>
      obtain ⟨q, hq, rfl, rfl⟩ := h
      obtain rfl := d.mediator_inj s p q hq
      intro e he _
      rw [List.mem_singleton.mp he]
    | removeRemoteCounterpart _ => exact h.elim
    | _ => trivial
  set := fun m => ⟨_, (SimpleTokenMediator.exec_of_owner m).2.2 _ _ s.other.chainId_ne_zero,
    Function.update_self _ _ _⟩
  kept := by
    intro m m' x call hexec hadmits hholds
    have hspec := SimpleTokenMediator.exec_spec hexec
    cases call with
    | addRemoteCounterparts _ _ =>
      obtain ⟨_, table, htable, rfl⟩ := hspec
      exact SimpleTokenMediator._addCounterparts_keeps htable (hadmits rfl) hholds
    | removeRemoteCounterpart chainId =>
      rw [hspec.2]
      exact (Function.update_of_ne (Ne.symm (hadmits rfl)) _ _).trans hholds
    | _ => rw [hspec.2]; exact hholds

/-- **A setting stays** as long as the owner's calls of the mediator leave it. -/
theorem Setting.step (σ : Setting d entry s p) (h : HasMediator d s p σ.holds (w s))
    (howned : Owned d (w s)) (hok : w.step keccak256 d a = .ok w') (hcalls : ∀ env v call,
      a = .transact env (.call s d.deployer v (.mediator (d.mediator s p) call)) →
      call.restricted = true → σ.admits call) : HasMediator d s p σ.holds (w' s) := by
  refine h.step hok ?_
  intro m m' env x v call hm ha hexec hholds
  refine σ.kept hexec (fun hres => ?_) hholds
  -- the caller is the owner, and the owner is the deployer
  have hx := SimpleTokenMediator.owner_of_exec hexec hres
  rw [(howned.mediators _ m hm).1] at hx
  exact hcalls env v call (hx ▸ ha) hres

/-- **A setting is made** by its call on a mediator that is there. -/
theorem Setting.made (σ : Setting d entry s p) (howned : Owned d (w s))
    (hm : HasMediator d s p (fun _ => True) (w s)) (env : Env) :
    HasMediator d s p σ.holds
      (Machine.apply (World.step keccak256 d) w (.transact env (d.configure s p σ.call)) s) := by
  obtain ⟨m, hm, -⟩ := hm
  obtain ⟨m', hexec, hholds⟩ := σ.set m
  rw [(howned.mediators _ m hm).1] at hexec
  have hstep : w.step keccak256 d (.transact env (d.configure s p σ.call)) =
      .ok (Function.update w s { w s with
        mediators := Function.update (w s).mediators (d.mediator s p) (some m') }) := by
    refine World.on_eq_ok.mpr ⟨_, Chain.exec_eq_ok.mpr ⟨fun _ => rfl, ?_⟩, rfl⟩
    simp only [Chain.dispatch, bind_eq_ok, pure_eq_ok, orRevert_eq_ok]
    exact ⟨m, hm, m', hexec, rfl⟩
  rw [Machine.apply_of_ok hstep, Function.update_self]
  exact ⟨m', Function.update_self _ _ _, hholds⟩

/-- **A setting is reached** by every run that deploys the mediator and then makes the setting's
    call, as long as the owner's other calls of the mediator leave it. -/
theorem Setting.reached (σ : Setting d entry s p) {P : World → Action Path → Prop}
    (howned : ∀ w a, P w a → Owned d (w s))
    (hcalls : ∀ w env v call,
      P w (.transact env (.call s d.deployer v (.mediator (d.mediator s p) call))) →
      call.restricted = true → σ.admits call)
    (hl : Machine.Follows (World.step keccak256 d) P w l)
    (hσ : [Transaction.deployMediator s p, d.configure s p σ.call].Sublist
      (l.filterMap Action.transaction)) :
    HasMediator d s p σ.holds (w.run keccak256 d l s) := by
  refine hl.reaches_after (F := fun w => HasMediator d s p (fun _ => True) (w s))
    (G := fun w => HasMediator d s p σ.holds (w s)) ?_ ?_ ?_ ?_ hσ
  · intro w a w' hok _ hF
    exact hF.step hok fun _ _ _ _ _ _ _ _ _ h => h
  · intro w a ha _
    obtain ⟨env, rfl⟩ := Action.of_transaction ha
    exact hasMediator_of_deploy w env
  · intro w a w' hok hP hG
    refine σ.step hG (howned w a hP) hok ?_
    rintro env v call rfl hres
    exact hcalls w env v call hP hres
  · intro w a ha hP hm
    obtain ⟨env, rfl⟩ := Action.of_transaction ha
    exact σ.made (howned w _ hP) hm env

/-! ## Limits -/

/-- The token is there, and the path's mediator may mint. -/
def HasLimits (d : Deployment Path) (s : Side) (p : Path) (c : Chain) : Prop :=
  ∃ t, c.token = some t ∧ (t.bridges (d.mediator s p)).minterParams.maxLimit = LIMIT

/-- A deployed token stays deployed. -/
theorem ChainStep.token_stays (hs : ChainStep keccak256 d s c a c') (h : ∃ t, c.token = some t) :
    ∃ t, c'.token = some t := by
  obtain ⟨t, ht⟩ := h
  rcases hs.token_cases with heq | ⟨hnone, _⟩ | ⟨_, t', _, heq, _⟩
  · exact ⟨t, heq.trans ht⟩
  · rw [ht] at hnone; cases hnone
  · exact ⟨t', heq⟩

/-- **The limits stay**: the scripts set no others. -/
theorem HasLimits.step (h : HasLimits d s p c) (hs : ChainStep keccak256 d s c a c')
    (hP : Permitted d admin delivers w a)
    (hadmin : ∀ t, admin t → t.IsCall (WiringCall d entry)) : HasLimits d s p c' := by
  obtain ⟨t, ht, hmax⟩ := h
  rcases hs.token_cases with heq | ⟨hnone, _⟩ | ⟨t₁, t', ht₁, heq, hcases⟩
  · exact ⟨t, heq.trans ht, hmax⟩
  · rw [ht] at hnone; cases hnone
  · rw [ht] at ht₁
    obtain rfl := Option.some.inj ht₁
    refine ⟨t', heq, ?_⟩
    rcases hcases with ⟨x, _, hmaxes, _⟩ | ⟨env, x, v, call, rfl, hres, hexec⟩
    · rw [(hmaxes _).1]; exact hmax
    · have hcall : WiringCall d entry s (.token call) := hadmin _ (hP.admin hres)
      obtain ⟨bridge, _, rfl⟩ := hcall.setLimits hres
      obtain ⟨q, _, hq, _, rfl⟩ := XERC20.setLimits_spec hexec
      dsimp only
      by_cases hbridge : d.mediator s p = bridge
      · rw [hbridge, Function.update_self]
        exact (BridgeParameters._changeLimit_spec hq).1
      · rw [Function.update_of_ne hbridge]; exact hmax

/-- After its deployment a token is there: deployed now, or there before. -/
theorem hasToken_of_deploy (w : World) (env : Env) :
    ∃ t, (Machine.apply (World.step keccak256 d) w (.transact env (.deployXERC20 s)) s).token
      = some t := by
  cases ht : (w s).token with
  | none =>
    obtain ⟨e, he⟩ := ERC20._mint_ok ERC20.constructor d.deployer_ordinary.ne_zero
      (by decide : ERC20.constructor.totalSupply + 10 ^ 18 ≤ uint256Max)
    have hnew : BasicXERC20Sample.constructor d.deployer
        = .ok { XERC20.constructor d.deployer with toERC20 := e } :=
      bind_eq_ok.mpr ⟨e, he, rfl⟩
    have hstep : w.step keccak256 d (.transact env (.deployXERC20 s)) = .ok (Function.update w s
        { w s with token := some { XERC20.constructor d.deployer with toERC20 := e } }) := by
      refine World.on_eq_ok.mpr ⟨_, ?_, rfl⟩
      simp only [Chain.deployXERC20, ht, bind_eq_ok, pure_eq_ok, revertIf_eq_ok]
      exact ⟨(), by simp, _, hnew, rfl⟩
    rw [Machine.apply_of_ok hstep, Function.update_self]
    exact ⟨_, rfl⟩
  | some t =>
    rcases Machine.apply_cases (World.step keccak256 d) w (.transact env (.deployXERC20 s))
      with hok | heq
    · rcases World.step_at hok s with heq | hs
      · rw [heq]; exact ⟨t, ht⟩
      · exact hs.token_stays ⟨t, ht⟩
    · rw [heq]; exact ⟨t, ht⟩

/-- **The limits are reached** by every run that deploys the token and then sets them. -/
theorem HasLimits.reached {P : World → Action Path → Prop}
    (hP : ∀ w a, P w a → Permitted d admin delivers w a ∧ Owned d (w s) ∧ TokenSide d s (w s))
    (hadmin : ∀ t, admin t → t.IsCall (WiringCall d entry))
    (hl : Machine.Follows (World.step keccak256 d) P w l)
    (hσ : [Transaction.deployXERC20 s, d.limits s p].Sublist (l.filterMap Action.transaction)) :
    HasLimits d s p (w.run keccak256 d l s) := by
  have hkept : ∀ w a w', World.step keccak256 d w a = .ok w' → P w a →
      HasLimits d s p (w s) → HasLimits d s p (w' s) := by
    intro w a w' hok hPa h
    rcases World.step_at hok s with heq | hs
    · rw [heq]; exact h
    · exact h.step hs (hP w a hPa).1 hadmin
  refine hl.reaches_after (F := fun w => ∃ t, (w s).token = some t)
    (G := fun w => HasLimits d s p (w s)) ?_ ?_ hkept ?_ hσ
  · intro w a w' hok _ hF
    rcases World.step_at hok s with heq | hs
    · rw [heq]; exact hF
    · exact hs.token_stays hF
  · intro w a ha _
    obtain ⟨env, rfl⟩ := Action.of_transaction ha
    exact hasToken_of_deploy w env
  · rintro w a ha hPa ⟨t, ht⟩
    obtain ⟨env, rfl⟩ := Action.of_transaction ha
    obtain ⟨_, howned, htok⟩ := hP w _ hPa
    rcases (htok t ht).limits (d.mediator s p) with ⟨hm, hb⟩ | ⟨_, hm, _⟩
    · -- the first limits of the mediator
      obtain ⟨t', hset⟩ := XERC20.setLimits_ok (w s).now hm hb
        (by decide : LIMIT ≤ uint256Max) (by decide : LIMIT ≤ uint256Max)
      rw [howned.token t ht] at hset
      have hstep : w.step keccak256 d (.transact env (d.limits s p)) =
          .ok (Function.update w s { w s with token := some t' }) := by
        refine World.on_eq_ok.mpr ⟨_, Chain.exec_eq_ok.mpr ⟨fun _ => rfl, ?_⟩, rfl⟩
        simp only [Chain.dispatch, bind_eq_ok, pure_eq_ok, orRevert_eq_ok]
        exact ⟨t, ht, t', hset, rfl⟩
      rw [Machine.apply_of_ok hstep, Function.update_self]
      obtain ⟨q, _, hq, _, rfl⟩ := XERC20.setLimits_spec hset
      refine ⟨_, rfl, ?_⟩
      dsimp only
      rw [Function.update_self]
      exact (BridgeParameters._changeLimit_spec hq).1
    · rcases Machine.apply_cases (World.step keccak256 d) w
        (.transact env (d.limits s p)) with hok | heq
      · exact hkept w _ _ hok hPa ⟨t, ht, hm⟩
      · rw [heq]; exact ⟨t, ht, hm⟩

/-! ## A wired path -/

/-- One side of a path as its script leaves it. -/
structure Wired (d : Deployment Path) (entry : Path → Address) (s : Side) (p : Path) (c : Chain) :
    Prop where
  token : HasMediator d s p (tokenSetting d entry s p).holds c
  route : HasMediator d s p (routeSetting d entry s p).holds c
  counterpart : HasMediator d s p (counterpartSetting d entry s p).holds c
  limits : HasLimits d s p c

/-- Each thing a script sets comes after the contract it is set on. -/
theorem Path.wiring_order {n : Nat} (d : Deployment (CrossRWA.Path n)) (s : Side)
    (p : CrossRWA.Path n) :
    [.deployMediator s p, d.configure s p (.setXERC20 (d.xerc20 s))].Sublist (p.wiring d) ∧
      [.deployMediator s p, d.allowRoute s p p.adapterId].Sublist (p.wiring d) ∧
      [.deployMediator s p, d.addCounterpart s p].Sublist (p.wiring d) ∧
      [.deployXERC20 s, d.limits s p].Sublist (p.wiring d) := by
  cases s <;> cases p <;> refine ⟨?_, ?_, ?_, ?_⟩ <;>
    repeat (first
      | exact List.nil_sublist _
      | apply List.Sublist.cons_cons
      | apply List.Sublist.cons)

/-- **A path is wired** in every run that contains its scripts' wiring transactions in their order,
    with anything permitted in between. -/
theorem wired_of_run {n : Nat} {d : Deployment (CrossRWA.Path n)} {router : Side → GlacisRouter}
    {now : Side → Nat} {l : List (Action (CrossRWA.Path n))} (hrouters : FreshRouters router)
    (hl : Machine.Follows (World.step keccak256 d) (Permitted d (scripted d) delivers)
      (World.initial router now) l)
    (hfree : NoCollision keccak256 ((World.initial router now).run keccak256 d l))
    {p : CrossRWA.Path n} (hp : (p.wiring d).Sublist (l.filterMap Action.transaction)) (s : Side) :
    Wired d (idEntry CrossRWA.Path.gmpId) s p ((World.initial router now).run keccak256 d l s) := by
  obtain ⟨hfollows, _⟩ := world_of_run
    (I := fun w => (∀ s, Owned d (w s)) ∧ ∀ s, TokenSide d s (w s))
    (fun w s _ _ hs hP _ hB _ hI => ⟨forall_update (I := fun _ => Owned d) hI.1
        ((hI.1 s).step hs hP fun t ht => (scripted_wires d t ht).mono fun _ _ => Or.inl),
      forall_update hI.2 (hs.moves hP (fun t ht => (scripted_wires d t ht).mono fun _ _ => Or.inl)
        (hI.2 s) (hB s).deployed).1⟩)
    hl (hrouters.books now) ⟨fun _ => Owned.initial _ _, fun _ => TokenSide.initial _ _⟩ hfree
  have hreached : ∀ σ : Setting d (idEntry CrossRWA.Path.gmpId) s p,
      [Transaction.deployMediator s p, d.configure s p σ.call].Sublist (p.wiring d) →
      HasMediator d s p σ.holds ((World.initial router now).run keccak256 d l s) := by
    intro σ hσ
    refine σ.reached (fun w a hP => hP.2.2.1 s) ?_ hfollows (hσ.trans hp)
    exact fun w env v call hP hres => σ.wires (scripted_wires d _ (hP.1.admin hres))
  obtain ⟨h1, h2, h3, h4⟩ := CrossRWA.Path.wiring_order d s p
  rw [p.adapterId_eq] at h2
  exact ⟨hreached _ h1, hreached _ h2, hreached _ h3,
    HasLimits.reached (fun w a hP => ⟨hP.1, hP.2.2.1 s, hP.2.2.2 s⟩) (scripted_wires d) hfollows
      (h4.trans hp)⟩

end CrossRWA
