/-
  The token of a chain under the wiring — limits, and what moves the supply.

  `TokenOk` is the invariant of an XERC20 the scripts deployed: solvent, no lockbox, and limits for
  mediators only, of `LIMIT` both ways or none yet.  `ChainStep.moves` keeps it and says what a step
  does to supply, transfers and mints TOGETHER (`Moves`): the token appears, a transfer burns its
  amount, a mint of a mediator credits its recipient, or no supply moves and nothing is noted.  This
  is all that conservation needs to know about a chain, and why the notes of mints can be trusted:
  the supply rises with a note or not at all (`moves_of_run`).
-/
import CrossRWA.Minted
import CrossRWA.Wiring

namespace CrossRWA

variable {Path : Type} {keccak256 : Bytes → Bytes32} {d : Deployment Path} {entry : Path → Address}
  {s : Side} {c c' : Chain} {w : World} {a : Action Path} {admin : Transaction Path → Prop}
  {delivers : Deliveries} {t t' : XERC20}

/-- The invariant of a token of the scripts. -/
structure TokenOk (d : Deployment Path) (s : Side) (t : XERC20) : Prop where
  solvent : t.Solvent
  lockbox : t.lockbox = 0
  limits : ∀ x, ((t.bridges x).minterParams.maxLimit = 0 ∧ (t.bridges x).burnerParams.maxLimit = 0) ∨
    (d.IsMediator s x ∧ (t.bridges x).minterParams.maxLimit = LIMIT ∧
      (t.bridges x).burnerParams.maxLimit = LIMIT)

/-! ## The token's calls -/

theorem TokenOk.constructor {owner : Address} (h : BasicXERC20Sample.constructor owner = .ok t) :
    TokenOk d s t ∧ t.totalSupply = ether := by
  obtain ⟨hsol, hsup, _, hbox, hbridges⟩ := BasicXERC20Sample.constructor_spec h
  refine ⟨⟨hsol, hbox, fun x => Or.inl ?_⟩, hsup⟩
  rw [hbridges]
  exact ⟨rfl, rfl⟩

/-- The roles and maxima of a token carry the invariant over. -/
theorem TokenOk.of_frame (h : TokenOk d s t) (hsol : t'.Solvent) {x : Address}
    (hframe : t.SameRoles t' ∧ t.TouchesOnly t' x) : TokenOk d s t' := by
  obtain ⟨⟨_, _, hbox⟩, hmax, _⟩ := hframe
  refine ⟨hsol, hbox.trans h.lockbox, fun y => ?_⟩
  obtain ⟨hm, hb⟩ := hmax y
  rw [hm, hb]
  exact h.limits y

/-- A limit above zero is `LIMIT`. -/
theorem TokenOk.max_le (h : TokenOk d s t) (x : Address) :
    (t.bridges x).minterParams.maxLimit ≤ LIMIT ∧ (t.bridges x).burnerParams.maxLimit ≤ LIMIT := by
  rcases h.limits x with ⟨h1, h2⟩ | ⟨_, h1, h2⟩
  · rw [h1, h2]; exact ⟨Nat.zero_le _, Nat.zero_le _⟩
  · rw [h1, h2]; exact ⟨Nat.le_refl _, Nat.le_refl _⟩

/-- An account is no bridge: it has no limits. -/
theorem TokenOk.account_limits (h : TokenOk d s t) {x : Address} (hx : d.Account s x) :
    (t.bridges x).minterParams.maxLimit = 0 ∧ (t.bridges x).burnerParams.maxLimit = 0 := by
  rcases h.limits x with hzero | ⟨hmed, _⟩
  · exact hzero
  · exact absurd hmed hx.not_mediator

theorem TokenOk.mint (h : TokenOk d s t) {now amount : Nat} {bridge user : Address}
    (hmint : t.mint now bridge user amount = .ok t') :
    TokenOk d s t' ∧ t'.totalSupply = t.totalSupply + amount := by
  obtain ⟨_, hsol, hsup, _⟩ := XERC20.mint_funds hmint h.solvent
  exact ⟨h.of_frame hsol (XERC20.mint_frame hmint), hsup⟩

theorem TokenOk.burn (h : TokenOk d s t) {now amount : Nat} {bridge user : Address}
    (hb : bridge ≠ 0) (hburn : t.burn now bridge user amount = .ok t') :
    TokenOk d s t' ∧ amount ≤ t.totalSupply ∧ t'.totalSupply = t.totalSupply - amount ∧
      amount ≤ LIMIT := by
  have hbox : bridge ≠ t.lockbox := by rw [h.lockbox]; exact hb
  obtain ⟨hle, hsol, hsup, _⟩ := XERC20.burn_funds hburn h.solvent
  obtain ⟨p, hp, _⟩ := XERC20.burn_limits hburn hbox
  obtain ⟨c, hc, hamount, _⟩ := BridgeParameters._useLimits_spec hp
  have hcur := BridgeParameters.currentLimitAt_le hc
  have hmax := (h.max_le bridge).2
  exact ⟨h.of_frame hsol (XERC20.burn_frame hburn), hle, hsup, by omega⟩

/-- **An account's call of the token** moves no supply. -/
theorem TokenOk.exec (h : TokenOk d s t) {now : Nat} {x : Address} {call : XERC20.Call}
    (hx : d.Account s x) (hcall : call.restricted = false) (hexec : t.exec now x call = .ok t') :
    TokenOk d s t' ∧ t'.totalSupply = t.totalSupply := by
  have hbox : x ≠ t.lockbox := by rw [h.lockbox]; exact hx.ordinary.ne_zero
  obtain ⟨hm, hb⟩ := h.account_limits hx
  obtain ⟨hsol, hsup⟩ := XERC20.exec_supply hexec h.solvent hbox hm hb
  exact ⟨h.of_frame hsol (XERC20.exec_frame hexec hcall), hsup⟩

/-- **The scripts' `setLimits`** gives a mediator its limits. -/
theorem TokenOk.setLimits (h : TokenOk d s t) {now : Nat} {x bridge : Address}
    (hbridge : d.IsMediator s bridge) (hset : t.setLimits now x bridge LIMIT LIMIT = .ok t') :
    TokenOk d s t' ∧ t'.totalSupply = t.totalSupply := by
  obtain ⟨p, q, hp, hq, rfl⟩ := XERC20.setLimits_spec hset
  refine ⟨⟨h.solvent, h.lockbox, fun y => ?_⟩, rfl⟩
  dsimp only
  by_cases hy : y = bridge
  · subst hy
    rw [Function.update_self]
    exact Or.inr ⟨hbridge, (BridgeParameters._changeLimit_spec hp).1,
      (BridgeParameters._changeLimit_spec hq).1⟩
  · rw [Function.update_of_ne hy]
    exact h.limits y

/-! ## The chain's token -/

def TokenSide (d : Deployment Path) (s : Side) (c : Chain) : Prop :=
  ∀ t, c.token = some t → TokenOk d s t

/-- The supply of a chain's token, zero before it is deployed. -/
def Chain.supply (c : Chain) : Nat :=
  match c.token with
  | some t => t.totalSupply
  | none => 0

theorem Chain.supply_of_token (h : c.token = some t) : c.supply = t.totalSupply := by
  rw [Chain.supply, h]

/-- What a step does to supply, transfers and mints. -/
inductive Moves (c c' : Chain) : Prop
  | idle (hsupply : c'.supply = c.supply) (hsome : c'.token.isSome = c.token.isSome)
      (hsends : c'.sends = c.sends) (hmints : c'.mints = c.mints)
  | issue (hnone : c.token = none) (hsupply : c'.supply = ether) (hsome : c'.token.isSome = true)
      (hsends : c'.sends = c.sends) (hmints : c'.mints = c.mints)
  | send (t : Transfer) (hle : t.tokenAmount.toNat ≤ c.supply) (hlimit : t.tokenAmount.toNat ≤ LIMIT)
      (hsupply : c'.supply = c.supply - t.tokenAmount.toNat)
      (hsome : c'.token.isSome = c.token.isSome) (hsends : c'.sends = c.sends ++ [t])
      (hmints : c'.mints = c.mints)
  | mint (k : Mint) (hsupply : c'.supply = c.supply + k.tokenAmount.toNat)
      (hsome : c'.token.isSome = c.token.isSome) (hsends : c'.sends = c.sends)
      (hcredited : Credited c c' k)

/-- A change elsewhere on the chain moves nothing. -/
theorem moves_idle (h : TokenSide d s c) (htoken : c'.token = c.token) (hsends : c'.sends = c.sends)
    (hmints : c'.mints = c.mints) : TokenSide d s c' ∧ Moves c c' := by
  refine ⟨fun t ht => h t (htoken ▸ ht), .idle ?_ (by rw [htoken]) hsends hmints⟩
  rw [Chain.supply, htoken]; rfl

/-- The client call of a received message mints or moves nothing. -/
theorem Executed.moves {c₁ : Chain} {R : GlacisRouter.Received} {fromChainId : Uint256}
    (he : Executed (d.site s) c₁ R fromChainId c') (h : TokenSide d s c)
    (htoken : c₁.token = c.token) (hsends : c₁.sends = c.sends) (hmints : c₁.mints = c.mints) :
    TokenSide d s c' ∧ Moves c c' := by
  cases he with
  | external _ => exact moves_idle h htoken hsends hmints
  | @mint m t t' to_ tokenAmount _ _ _ _ ht hmint =>
    rw [htoken] at ht
    obtain ⟨hok, hsup⟩ := (h _ ht).mint hmint
    obtain ⟨_, _, _, hbalances⟩ := XERC20.mint_funds hmint (h _ ht).solvent
    refine ⟨fun x hx => Option.some.inj hx ▸ hok,
      .mint ⟨toAddress R.glacisData.originalTo, R.glacisData, fromChainId, toAddress to_,
        tokenAmount⟩ ?_ (by rw [ht]; rfl) hsends ⟨?_, _, _, ht, rfl, hsup, hbalances⟩⟩
    · rw [Chain.supply_of_token ht]; exact hsup
    · show c₁.mints ++ _ = _
      rw [hmints]

/-- **What a permitted step moves.** -/
theorem ChainStep.moves (hs : ChainStep keccak256 d s c a c') (hP : Permitted d admin delivers w a)
    (hadmin : ∀ t, admin t → t.IsCall fun s call => WiringCall d entry s call ∨ CounterpartCall call)
    (h : TokenSide d s c) (hdep : Deployed d s c) : TokenSide d s c' ∧ Moves c c' := by
  cases hs with
  | deployMediator _ _ => exact moves_idle h rfl rfl rfl
  | tick _ => exact moves_idle h rfl rfl rfl
  | deployXERC20 hnone ht =>
    obtain ⟨hok, hsup⟩ := TokenOk.constructor ht
    exact ⟨fun x hx => Option.some.inj hx ▸ hok, .issue hnone hsup rfl rfl rfl⟩
  | call he =>
    have hacc := hP.account.2
    cases he with
    | mediator _ _ => exact moves_idle h rfl rfl rfl
    | router _ => exact moves_idle h rfl rfl rfl
    | route _ => exact moves_idle h rfl rfl rfl
    | routeRetry _ => exact moves_idle h rfl rfl rfl
    | sendCrossChainRetry _ _ => exact moves_idle h rfl rfl rfl
    | mediatorReceiveMessage hm hr _ _ _ _ => exact absurd hr (hdep.ne_router hacc _ _ hm)
    | @token call t t' ht hexec =>
      have hok : TokenOk d s t' ∧ t'.totalSupply = t.totalSupply := by
        cases hres : call.restricted with
        | false => exact (h t ht).exec hacc hres hexec
        | true =>
          rcases hadmin _ (hP.admin hres) with hcall | hcall
          · obtain ⟨bridge, hbridge, rfl⟩ := hcall.setLimits hres
            exact (h t ht).setLimits hbridge hexec
          · exact hcall.elim
      refine ⟨fun x hx => Option.some.inj hx ▸ hok.1, .idle ?_ (by rw [ht]; rfl) rfl rfl⟩
      rw [Chain.supply_of_token ht]
      exact hok.2
    | @sendCrossChain self _ to_ _ _ _ tokenAmount m t t' R message hm _ _ ht hburn _ _ =>
      obtain ⟨p, rfl⟩ := (hdep _ _ hm).1
      obtain ⟨hok, hle, hsup, hlimit⟩ := (h t ht).burn (d.mediator_ordinary s p).ne_zero hburn
      refine ⟨fun x hx => Option.some.inj hx ▸ hok,
        .send ⟨message, to_, tokenAmount⟩ ?_ hlimit ?_ (by rw [ht]; rfl) rfl rfl⟩
      · rw [Chain.supply_of_token ht]; exact hle
      · rw [Chain.supply_of_token ht]; exact hsup
    | @receiveMessage fromChainId _ R _ _ hskip hexec =>
      cases hex : R.executed with
      | false => rw [hskip hex]; exact moves_idle h rfl rfl rfl
      | true => exact (hexec hex).moves h rfl rfl rfl
    | retryReceiveMessage _ hexec => exact hexec.moves h rfl rfl rfl

/-- **What a run of the wiring moves**, at every action and on both chains. -/
theorem moves_of_run {router : Side → GlacisRouter} {now : Side → Nat} {l : List (Action Path)}
    (hadmin : ∀ t, admin t → t.IsCall fun s call => WiringCall d entry s call ∨ CounterpartCall call)
    (hrouters : FreshRouters router)
    (hl : Machine.Follows (World.step keccak256 d) (Permitted d admin delivers)
      (World.initial router now) l)
    (hfree : NoCollision keccak256 ((World.initial router now).run keccak256 d l))
    {l₁ l₂ : List (Action Path)} (hsplit : l = l₁ ++ a :: l₂) (s : Side) :
    Moves ((World.initial router now).run keccak256 d l₁ s)
      ((World.initial router now).run keccak256 d (l₁ ++ [a]) s) := by
  obtain ⟨hfollows, _⟩ := world_of_run (I := fun w => ∀ s, TokenSide d s (w s))
    (fun w s _ _ hs hP _ hB _ hI =>
      forall_update hI (hs.moves hP hadmin (hI s) (hB s).deployed).1)
    hl (hrouters.books now) (fun _ _ ht => nomatch ht) hfree
  rw [hsplit] at hfollows
  obtain ⟨_, ⟨hP, hB, hI⟩, _⟩ := Machine.follows_append.mp hfollows
  rw [World.run_concat]
  rcases Machine.apply_cases (World.step keccak256 d) ((World.initial router now).run keccak256 d l₁) a
    with hok | heq
  · rcases World.step_at hok s with heq | hs
    · exact (moves_idle (hI s) (by rw [heq]; rfl) (by rw [heq]; rfl) (by rw [heq]; rfl)).2
    · exact (hs.moves hP hadmin (hI s) (hB s).deployed).2
  · exact (moves_idle (hI s) (by rw [heq]; rfl) (by rw [heq]; rfl) (by rw [heq]; rfl)).2

theorem TokenSide.initial (router : GlacisRouter) (now : Nat) :
    TokenSide d s (Chain.initial router now) := fun _ ht => nomatch ht

end CrossRWA
