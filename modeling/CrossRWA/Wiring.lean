/-
  The wiring of a deployment — what the administrative transactions can have set.

  1. `WiringCall` reads off a call whether it is one the scripts broadcast: each path's entry in
     the route table, its counterpart, its limits.  `scripts_wire` and `justDeploy_wires` check
     the three scripts' transaction lists against it.
  2. Two invariants of a chain follow, each kept by every step permitted by such calls (and by
     the further administration its hypothesis names):
       - `RoutesOnly`: a mediator's route table holds at most its path's entry;
       - `CounterpartsOnly`: its counterpart table, and with it every transfer, points at its
         path's other mediator;
     and, in `CrossRWA.TokenSide`, what they can have set on the token.
-/
import CrossRWA.Books
import CrossRWA.Scripts

namespace CrossRWA

variable {Path : Type} {keccak256 : Bytes → Bytes32} {d : Deployment Path} {entry : Path → Address}
  {s : Side} {c c' : Chain} {w : World} {a : Action Path} {admin : Transaction Path → Prop}
  {delivers : Deliveries}

/-! ## Administration -/

/-- The scripts' limit, "100 per day, both ways". -/
def LIMIT : Nat := 100 * ether

/-- A call the scripts may broadcast on the chain `s`; `entry` is the adapter of a path's route. -/
def WiringCall (d : Deployment Path) (entry : Path → Address) (s : Side) : Call → Prop
  | .token (.setLimits bridge mintingLimit burningLimit) =>
    d.IsMediator s bridge ∧ mintingLimit = LIMIT ∧ burningLimit = LIMIT
  | .token (.setLockbox _) => False
  | .token (.transferOwnership _) => False
  | .token .renounceOwnership => False
  | .mediator _ (.setXERC20 xERC20Token) => xERC20Token = d.xerc20 s
  | .mediator self (.addAllowedRoute route) => ∃ p, self = d.mediator s p ∧
    route = ⟨WILD_CHAIN, toBytes32 (d.mediator s.other p), entry p⟩
  | .mediator self (.addRemoteCounterparts chainIDs counterpart) => ∃ p, self = d.mediator s p ∧
    chainIDs = [s.other.chainId] ∧ counterpart = [toBytes32 (d.mediator s.other p)]
  | .mediator _ _ => False
  | .router _ => False
  | .receiveMessage _ _ => False
  | _ => True

/-- The scripts' only restricted call of a token sets a mediator's limits. -/
theorem WiringCall.setLimits {call : XERC20.Call} (h : WiringCall d entry s (.token call))
    (hres : call.restricted = true) :
    ∃ bridge, d.IsMediator s bridge ∧ call = .setLimits bridge LIMIT LIMIT := by
  cases call with
  | setLimits bridge m b =>
    obtain ⟨hbridge, rfl, rfl⟩ := h
    exact ⟨bridge, hbridge, rfl⟩
  | setLockbox _ => exact h.elim
  | transferOwnership _ => exact h.elim
  | renounceOwnership => exact h.elim
  | _ => cases hres

/-- The mediator owner's later changes of a counterpart table. -/
def CounterpartCall : Call → Prop
  | .mediator _ (.addRemoteCounterparts _ _) => True
  | .mediator _ (.removeRemoteCounterpart _) => True
  | _ => False

/-- The token owner's and the router owner's calls. -/
def OwnerCall : Call → Prop
  | .token call => call.restricted = true
  | .router call => call.restricted = true
  | _ => False

/-- A transaction that deploys, or whose call is of a kind. -/
def Transaction.IsCall (kind : Side → Call → Prop) : Transaction Path → Prop
  | .call s _ _ c => kind s c
  | _ => True

/-- A kind of call is one of more kinds. -/
theorem Transaction.IsCall.mono {kind kind' : Side → Call → Prop}
    (hkind : ∀ s call, kind s call → kind' s call) {t : Transaction Path} (h : t.IsCall kind) :
    t.IsCall kind' := by
  cases t with
  | call s x v c => exact hkind s c h
  | _ => trivial

/-- The route table entries of a path that reserves a GMP id. -/
def idEntry (gmp : Path → Uint8) (p : Path) : Address := (gmp p).setWidth 160

theorem Path.adapterId_eq {n : Nat} (p : CrossRWA.Path n) :
    p.adapterId = idEntry CrossRWA.Path.gmpId p := by cases p <;> rfl

section Scripts

variable (d entry)

/-- The owner's transactions for one path, and the token's, all wire. -/
theorem wires_setXERC20 (s : Side) (p : Path) :
    (d.configure s p (.setXERC20 (d.xerc20 s))).IsCall (WiringCall d entry) := rfl

theorem wires_limits (s : Side) (p : Path) :
    (d.limits s p).IsCall (WiringCall d entry) := ⟨⟨p, rfl⟩, rfl, rfl⟩

theorem wires_allowRoute (s : Side) (p : Path) {fromAdapter : Address} (h : fromAdapter = entry p) :
    (d.allowRoute s p fromAdapter).IsCall (WiringCall d entry) := ⟨p, rfl, by rw [h]⟩

theorem wires_addCounterpart (s : Side) (p : Path) :
    (d.addCounterpart s p).IsCall (WiringCall d entry) := ⟨p, rfl, rfl, rfl⟩

end Scripts

/-- **`SimulateDeployMultiXERC20` only wires.** -/
theorem simulate_wires {n : Nat} (d : Deployment (CrossRWA.Path n)) :
    ∀ t ∈ SimulateDeployMultiXERC20.run d, t.IsCall (WiringCall d (idEntry CrossRWA.Path.gmpId)) := by
  have htoken := wires_setXERC20 d (idEntry CrossRWA.Path.gmpId)
  have hlimits := wires_limits d (idEntry CrossRWA.Path.gmpId)
  have hroute : ∀ s p, (d.allowRoute s p (idEntry CrossRWA.Path.gmpId p)).IsCall
      (WiringCall d (idEntry CrossRWA.Path.gmpId)) :=
    fun s p => wires_allowRoute d _ s p rfl
  have hcounterpart := wires_addCounterpart d (idEntry CrossRWA.Path.gmpId)
  simp only [SimulateDeployMultiXERC20.run, SimulateDeployMultiXERC20.wiring, List.cons_append,
    List.nil_append, List.forall_mem_cons]
  refine ⟨trivial, trivial, trivial, htoken _ _, htoken _ _, hlimits _ _, hlimits _ _,
    trivial, trivial, trivial, htoken _ _, htoken _ _, hlimits _ _, hlimits _ _,
    hroute _ .wh, hcounterpart _ _, hroute _ .lz, hcounterpart _ _,
    hroute _ .wh, hcounterpart _ _, hroute _ .lz, hcounterpart _ _,
    trivial, trivial, trivial, trivial, ?_⟩
  exact fun _ h => absurd h List.not_mem_nil

/-- **`AddNewPath` only wires.** -/
theorem addNewPath_wires {n : Nat} (d : Deployment (CrossRWA.Path n)) (i : Fin n) :
    ∀ t ∈ AddNewPath.run d i, t.IsCall (WiringCall d (idEntry CrossRWA.Path.gmpId)) := by
  have htoken := wires_setXERC20 d (idEntry CrossRWA.Path.gmpId)
  have hlimits := wires_limits d (idEntry CrossRWA.Path.gmpId)
  have hroute : ∀ s, (d.allowRoute s (.added i) AddNewPath.GMP_ID).IsCall
      (WiringCall d (idEntry CrossRWA.Path.gmpId)) := fun s => wires_allowRoute d _ s _ rfl
  have hcounterpart := wires_addCounterpart d (idEntry CrossRWA.Path.gmpId)
  simp only [AddNewPath.run, AddNewPath.wiring, List.cons_append, List.nil_append,
    List.forall_mem_cons]
  refine ⟨trivial, htoken _ _, hlimits _ _, trivial, htoken _ _, hlimits _ _, hroute _,
    hcounterpart _ _, hroute _, hcounterpart _ _, trivial, trivial, ?_⟩
  exact fun _ h => absurd h List.not_mem_nil

theorem scripted_wires {n : Nat} (d : Deployment (CrossRWA.Path n)) :
    ∀ t, scripted d t → t.IsCall (WiringCall d (idEntry CrossRWA.Path.gmpId)) := by
  rintro t (ht | ⟨i, ht⟩)
  · exact simulate_wires d t ht
  · exact addNewPath_wires d i t ht

/-- **`JustDeployTokenMediator` only wires**, with the wildcard as its entry. -/
theorem justDeploy_wires (d : Deployment Unit) :
    ∀ t ∈ JustDeployTokenMediator.run d, t.IsCall (WiringCall d fun _ => WILDCARD) := by
  have hroute : ∀ s, (d.allowRoute s () WILDCARD).IsCall (WiringCall d fun _ => WILDCARD) :=
    fun s => wires_allowRoute d _ s () rfl
  simp only [JustDeployTokenMediator.run, List.forall_mem_cons]
  refine ⟨trivial, wires_setXERC20 d _ _ _, trivial, wires_setXERC20 d _ _ _, hroute _,
    wires_addCounterpart d _ _ _, hroute _, wires_addCounterpart d _ _ _, ?_⟩
  exact fun _ h => absurd h List.not_mem_nil

/-! ## The mediators' tables -/

/-- **What a step does to the mediators**: nothing, a deployment, or a local call. -/
theorem ChainStep.mediators_cases (hs : ChainStep keccak256 d s c a c') :
    c'.mediators = c.mediators ∨
    (∃ p m, c.mediators (d.mediator s p) = none ∧
      SimpleTokenMediator.constructor s.router 1 d.deployer = .ok m ∧
      c'.mediators = Function.update c.mediators (d.mediator s p) (some m)) ∨
    ∃ env msgSender value self call m m',
      a = .transact env (.call s msgSender value (.mediator self call)) ∧
      c.mediators self = some m ∧ m.exec msgSender call = .ok m' ∧
      c'.mediators = Function.update c.mediators self (some m') := by
  cases hs with
  | deployXERC20 _ _ => exact Or.inl rfl
  | tick _ => exact Or.inl rfl
  | deployMediator hnone hm => exact Or.inr (Or.inl ⟨_, _, hnone, hm, rfl⟩)
  | call he =>
    rcases he.mediators_cases with heq | ⟨self, call, m, m', rfl, hm, hexec, heq⟩
    · exact Or.inl heq
    · exact Or.inr (Or.inr ⟨_, _, _, self, call, m, m', rfl, hm, hexec, heq⟩)

/-- **Where a mediator comes from**: it was there, it is new, or a local call left it. -/
theorem ChainStep.mediator_cases (hs : ChainStep keccak256 d s c a c') {x : Address}
    {m' : SimpleTokenMediator} (hm' : c'.mediators x = some m') :
    c.mediators x = some m' ∨ SimpleTokenMediator.constructor s.router 1 d.deployer = .ok m' ∨
      ∃ m call env msgSender value, c.mediators x = some m ∧ m.exec msgSender call = .ok m' ∧
        a = .transact env (.call s msgSender value (.mediator x call)) := by
  rcases hs.mediators_cases with heq | ⟨p, m, _, hm, heq⟩ |
    ⟨env, msgSender, value, self, call, m, m₁, rfl, hm, hexec, heq⟩
  · rw [heq] at hm'; exact Or.inl hm'
  · rw [heq] at hm'
    by_cases hx : x = d.mediator s p
    · subst hx
      rw [Function.update_self] at hm'
      obtain rfl := Option.some.inj hm'
      exact Or.inr (Or.inl hm)
    · rw [Function.update_of_ne hx] at hm'
      exact Or.inl hm'
  · rw [heq] at hm'
    by_cases hx : x = self
    · subst hx
      rw [Function.update_self] at hm'
      obtain rfl := Option.some.inj hm'
      exact Or.inr (Or.inr ⟨m, call, env, msgSender, value, hm, hexec, rfl⟩)
    · rw [Function.update_of_ne hx] at hm'
      exact Or.inl hm'

/-- **Where a mediator goes**: it stays as it is, or a local call changes it. -/
theorem ChainStep.mediator_stays (hs : ChainStep keccak256 d s c a c') {x : Address}
    {m : SimpleTokenMediator} (hm : c.mediators x = some m) :
    ∃ m', c'.mediators x = some m' ∧ (m' = m ∨ ∃ call env msgSender value,
      m.exec msgSender call = .ok m' ∧
      a = .transact env (.call s msgSender value (.mediator x call))) := by
  rcases hs.mediators_cases with heq | ⟨p, m₁, hnone, _, heq⟩ |
    ⟨env, msgSender, value, self, call, m₁, m', rfl, hm₁, hexec, heq⟩
  · exact ⟨m, by rw [heq]; exact hm, Or.inl rfl⟩
  · have hx : x ≠ d.mediator s p := by
      rintro rfl
      rw [hm] at hnone
      cases hnone
    exact ⟨m, by rw [heq, Function.update_of_ne hx]; exact hm, Or.inl rfl⟩
  · by_cases hx : x = self
    · subst hx
      rw [hm] at hm₁
      obtain rfl := Option.some.inj hm₁
      exact ⟨m', by rw [heq, Function.update_self],
        Or.inr ⟨call, env, msgSender, value, hexec, rfl⟩⟩
    · exact ⟨m, by rw [heq, Function.update_of_ne hx]; exact hm, Or.inl rfl⟩

/-- A mediator's route table holds at most its path's entry. -/
def RoutesOnly (d : Deployment Path) (entry : Path → Address) (s : Side) (c : Chain) : Prop :=
  ∀ p m, c.mediators (d.mediator s p) = some m →
    m.allowedRoutes.OnlyRoute (toBytes32 (d.mediator s.other p)) (entry p)

/-- **The routes stay the scripts'**, also when owners change counterparts. -/
theorem RoutesOnly.step (h : RoutesOnly d entry s c) (hs : ChainStep keccak256 d s c a c')
    (hP : Permitted d admin delivers w a)
    (hadmin : ∀ t, admin t → t.IsCall fun s call => WiringCall d entry s call ∨ CounterpartCall call) :
    RoutesOnly d entry s c' := by
  intro p m' hm'
  rcases hs.mediator_cases hm' with hold | hnew | ⟨m, call, env, x, v, hm, hexec, rfl⟩
  · exact h p m' hold
  · obtain ⟨_, _, _, _, _, hroutes, _⟩ := SimpleTokenMediator.constructor_spec hnew
    rw [hroutes]
    exact AllowedRoutes.OnlyRoute.empty
  · have hspec := SimpleTokenMediator.exec_spec hexec
    cases call with
    | acceptOwnership => rw [hspec.2]; exact h p m hm
    | transferOwnership _ => rw [hspec.2]; exact h p m hm
    | renounceOwnership => rw [hspec.2]; exact h p m hm
    | setXERC20 _ => rw [hspec.2]; exact h p m hm
    | removeRemoteCounterpart _ => rw [hspec.2]; exact h p m hm
    | addRemoteCounterparts _ _ =>
      obtain ⟨_, _, _, rfl⟩ := hspec
      exact h p m hm
    | removeAllowedRoute _ =>
      rcases hadmin _ (hP.admin rfl) with hw | hw
      · exact hw.elim
      · exact hw.elim
    | addAllowedRoute route =>
      rcases hadmin _ (hP.admin rfl) with ⟨q, hq, rfl⟩ | hw
      · -- the entry written is the path's own
        obtain rfl := d.mediator_inj s p q hq
        rw [hspec.2]
        exact (h p m hm).add
      · exact hw.elim

/-- A mediator's counterpart table points at most at its path's other mediator, and its transfers
    went there. -/
structure CounterpartsOnly (d : Deployment Path) (s : Side) (c : Chain) : Prop where
  tables : ∀ p m, c.mediators (d.mediator s p) = some m → ∀ k, m.remoteCounterpart k ≠ 0 →
    k = s.other.chainId ∧ m.remoteCounterpart k = toBytes32 (d.mediator s.other p)
  sends : ∀ t ∈ c.sends, ∃ p, t.message.sender = d.mediator s p ∧
    t.message.toChainId = s.other.chainId ∧ t.message.to_ = toBytes32 (d.mediator s.other p)

/-- A transfer recorded by a call went to the counterpart of the mediator that made it. -/
theorem Effect.sends_cases {site : Site} {env : Env} {msgSender : Address} {value : Nat}
    {call : Call} (h : Effect keccak256 site c env msgSender value call c') :
    c'.sends = c.sends ∨ ∃ t m, c'.sends = c.sends ++ [t] ∧
      c.mediators t.message.sender = some m ∧ m.remoteCounterpart t.message.toChainId ≠ 0 ∧
      t.message.to_ = m.remoteCounterpart t.message.toChainId := by
  cases h with
  | token _ _ => exact Or.inl rfl
  | mediator _ _ => exact Or.inl rfl
  | router _ => exact Or.inl rfl
  | route _ => exact Or.inl rfl
  | sendCrossChain hm hdst _ _ _ _ hmessage =>
    subst hmessage
    exact Or.inr ⟨_, _, rfl, hm, hdst, rfl⟩
  | routeRetry _ => exact Or.inl rfl
  | sendCrossChainRetry _ _ => exact Or.inl rfl
  | mediatorReceiveMessage _ _ _ _ _ _ => exact Or.inl rfl
  | @receiveMessage fromChainId _ R _ _ hskip hexec =>
    left
    cases hex : R.executed with
    | false => rw [hskip hex]; rfl
    | true => exact (hexec hex).same.2.2.2.2.2.1
  | retryReceiveMessage _ hexec => exact Or.inl hexec.same.2.2.2.2.2.1

theorem ChainStep.sends_cases (hs : ChainStep keccak256 d s c a c') :
    c'.sends = c.sends ∨ ∃ t m, c'.sends = c.sends ++ [t] ∧
      c.mediators t.message.sender = some m ∧ m.remoteCounterpart t.message.toChainId ≠ 0 ∧
      t.message.to_ = m.remoteCounterpart t.message.toChainId := by
  cases hs with
  | call he => exact he.sends_cases
  | _ => exact Or.inl rfl

/-- **The counterparts stay the scripts'**, whatever the token's and the router's owners do. -/
theorem CounterpartsOnly.step (h : CounterpartsOnly d s c) (hdep : Deployed d s c)
    (hs : ChainStep keccak256 d s c a c') (hP : Permitted d admin delivers w a)
    (hadmin : ∀ t, admin t → t.IsCall fun s call => WiringCall d entry s call ∨ OwnerCall call) :
    CounterpartsOnly d s c' where
  tables := by
    intro p m' hm'
    rcases hs.mediator_cases hm' with hold | hnew | ⟨m, call, env, x, v, hm, hexec, rfl⟩
    · exact h.tables p m' hold
    · obtain ⟨_, _, _, _, _, _, htable⟩ := SimpleTokenMediator.constructor_spec hnew
      intro k hk
      rw [htable] at hk
      exact absurd rfl hk
    · have hspec := SimpleTokenMediator.exec_spec hexec
      cases call with
      | acceptOwnership => rw [hspec.2]; exact h.tables p m hm
      | transferOwnership _ => rw [hspec.2]; exact h.tables p m hm
      | renounceOwnership => rw [hspec.2]; exact h.tables p m hm
      | setXERC20 _ => rw [hspec.2]; exact h.tables p m hm
      | addAllowedRoute _ => rw [hspec.2]; exact h.tables p m hm
      | removeAllowedRoute _ => rw [hspec.2]; exact h.tables p m hm
      | removeRemoteCounterpart _ =>
        rcases hadmin _ (hP.admin rfl) with hw | hw
        · exact hw.elim
        · exact hw.elim
      | addRemoteCounterparts chainIDs counterpart =>
        rcases hadmin _ (hP.admin rfl) with ⟨q, hq, rfl, rfl⟩ | hw
        · obtain rfl := d.mediator_inj s p q hq
          obtain ⟨_, table, htable, rfl⟩ := hspec
          obtain rfl := SimpleTokenMediator._addCounterparts_singleton htable
          intro k hk
          change Function.update m.remoteCounterpart _ _ k ≠ 0 at hk
          show k = _ ∧ Function.update m.remoteCounterpart _ _ k = _
          by_cases hkey : k = s.other.chainId
          · subst hkey
            exact ⟨rfl, Function.update_self _ _ _⟩
          · rw [Function.update_of_ne hkey] at hk ⊢
            exact h.tables p m hm k hk
        · exact hw.elim
  sends := by
    rcases hs.sends_cases with heq | ⟨t, m, heq, hm, hdst, hto⟩
    · rw [heq]; exact h.sends
    · rw [heq]
      intro t' ht'
      rcases List.mem_append.mp ht' with ht' | ht'
      · exact h.sends t' ht'
      · obtain rfl := List.mem_singleton.mp ht'
        obtain ⟨p, hp⟩ := (hdep _ _ hm).1
        rw [hp] at hm
        obtain ⟨hchain, htable⟩ := h.tables p m hm _ hdst
        exact ⟨p, hp, hchain, hto.trans htable⟩

/-- Nothing is wired on a fresh chain. -/
theorem RoutesOnly.initial (router : GlacisRouter) (now : Nat) :
    RoutesOnly d entry s (Chain.initial router now) := fun _ _ hm => nomatch hm

theorem CounterpartsOnly.initial (router : GlacisRouter) (now : Nat) :
    CounterpartsOnly d s (Chain.initial router now) where
  tables := fun _ _ hm => nomatch hm
  sends := fun _ ht => nomatch ht

end CrossRWA
