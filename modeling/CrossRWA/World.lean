/-
  Two chains, one deployment — the system the scripts wire.

  * `Side` is one of the scripts' two chains, with its chain id and its `GlacisRouter`.
  * `Deployment Path` fixes the addresses the scripts' transactions create: one XERC20 per chain
    and, for every path, one mediator per chain.  Its FIELDS say that these are addresses of
    different contracts, and that none of them is a reserved id or the wildcard.
  * `World` is the state of both chains; `step` is one action: a transaction on one chain, with
    the behaviour of the contracts outside the model as an input, or the passing of time.
  * `Permitted` says which actions a run may take, in terms of two parameters: the administrative
    transactions, and the deliveries a sender may make.  All else is free: every account may make
    every call that is not restricted to an owner or a factory.
-/
import CrossRWA.Effects
import CrossRWA.Lib.Machine
import Mathlib.Data.Fintype.Basic

namespace CrossRWA

/-! ## The two chains -/

/-- `OPTIMISM_CHAIN_ID` or `ARBITRUM_CHAIN_ID`'s chain. -/
inductive Side
  | opt
  | arb
deriving DecidableEq, Repr

instance : Fintype Side := ⟨{.opt, .arb}, fun s => by cases s <;> decide⟩

def OPTIMISM_CHAIN_ID : Uint256 := 10

def ARBITRUM_CHAIN_ID : Uint256 := 42161

def GLACIS_ROUTER_OPTIMISM : Address := 0xb515a38AE7FAb6F85aD03cBBa227D8c198823180

def GLACIS_ROUTER_ARBITRUM : Address := 0x46c2996ee4391787Afef520543c78f2C1aE3fE22

namespace Side

def other : Side → Side
  | opt => arb
  | arb => opt

def chainId : Side → Uint256
  | opt => OPTIMISM_CHAIN_ID
  | arb => ARBITRUM_CHAIN_ID

def router : Side → Address
  | opt => GLACIS_ROUTER_OPTIMISM
  | arb => GLACIS_ROUTER_ARBITRUM

@[simp] theorem other_other (s : Side) : s.other.other = s := by cases s <;> rfl

theorem other_ne (s : Side) : s.other ≠ s := by cases s <;> decide

theorem eq_or_eq_other (s s' : Side) : s' = s ∨ s' = s.other := by
  cases s <;> cases s' <;> simp [other]

theorem chainId_ne_other (s : Side) : s.chainId ≠ s.other.chainId := by cases s <;> decide

theorem chainId_ne_zero (s : Side) : s.chainId ≠ 0 := by cases s <;> decide

end Side

/-! ## The deployment -/

/-- Neither a reserved GMP id nor the wildcard. -/
def Ordinary (a : Address) : Prop := GLACIS_RESERVED_IDS < a.toNat ∧ a ≠ WILDCARD

instance (a : Address) : Decidable (Ordinary a) := inferInstanceAs (Decidable (_ ∧ _))

theorem Ordinary.ne_zero {a : Address} (h : Ordinary a) : a ≠ 0 := by
  rintro rfl
  exact absurd h.1 (by decide)

/-- The addresses of the scripts' contracts, and the account that runs the scripts. -/
structure Deployment (Path : Type) where
  deployer : Address
  xerc20 : Side → Address
  mediator : Side → Path → Address
  mediator_inj : ∀ s p q, mediator s p = mediator s q → p = q
  mediator_ordinary : ∀ s p, Ordinary (mediator s p)
  mediator_ne_xerc20 : ∀ s p, mediator s p ≠ xerc20 s
  mediator_ne_router : ∀ s p, mediator s p ≠ s.router
  /-- The mediators' token is a contract, not the address they start with. -/
  xerc20_ne_zero : ∀ s, xerc20 s ≠ 0
  deployer_ordinary : Ordinary deployer
  deployer_ne_router : ∀ s : Side, deployer ≠ s.router
  deployer_ne_xerc20 : ∀ s, deployer ≠ xerc20 s
  deployer_ne_mediator : ∀ s p, deployer ≠ mediator s p

namespace Deployment

variable {Path : Type} (d : Deployment Path)

def site (s : Side) : Site := ⟨s.router, d.xerc20 s⟩

/-- One of the deployment's mediators on a chain. -/
def IsMediator (s : Side) (a : Address) : Prop := ∃ p, a = d.mediator s p

/-- An account: anything that makes calls and is not one of the deployment's contracts. -/
structure Account (s : Side) (a : Address) : Prop where
  ordinary : Ordinary a
  ne_router : a ≠ s.router
  ne_xerc20 : a ≠ d.xerc20 s
  not_mediator : ¬ d.IsMediator s a

theorem deployer_account (s : Side) : d.Account s d.deployer :=
  ⟨d.deployer_ordinary, d.deployer_ne_router s, d.deployer_ne_xerc20 s,
    fun ⟨p, h⟩ => d.deployer_ne_mediator s p h⟩

/-- Only the deployment puts code at a mediator's address. -/
def Surroundings (s : Side) (env : Env) : Prop :=
  ∀ p, env.client (d.mediator s p) = Client.noCode

end Deployment

/-! ## State and steps -/

/-- The two chains. -/
abbrev World := Side → Chain

/-- A transaction on one chain. -/
inductive Transaction (Path : Type)
  | deployXERC20 (s : Side)
  | deployMediator (s : Side) (p : Path)
  | call (s : Side) (msgSender : Address) (value : Nat) (call : Call)
deriving DecidableEq

/-- A transaction, with the behaviour of the outside contracts it meets, or some seconds. -/
inductive Action (Path : Type)
  | transact (env : Env) (t : Transaction Path)
  | tick (s : Side) (seconds : Nat)

/-- The transaction of an action. -/
def Action.transaction {Path : Type} : Action Path → Option (Transaction Path)
  | .transact _ t => some t
  | .tick _ _ => none

theorem Action.of_transaction {Path : Type} {a : Action Path} {t : Transaction Path}
    (h : a.transaction = some t) : ∃ env, a = .transact env t := by
  cases a with
  | tick _ _ => cases h
  | transact env _ => exact ⟨env, by rw [Option.some.inj h]⟩

namespace World

/-- Every input hashed on either chain. -/
def hashed (w : World) : List Bytes := (w .opt).hashed ++ (w .arb).hashed

theorem hashed_subset (w : World) (s : Side) : (w s).hashed ⊆ w.hashed := by
  cases s
  · exact List.subset_append_left _ _
  · exact List.subset_append_right _ _

/-- The routers as the scripts find them, no token, no mediator. -/
def initial (router : Side → GlacisRouter) (now : Side → Nat) : World :=
  fun s => Chain.initial (router s) (now s)

/-- A call on one chain. -/
def on (w : World) (s : Side) (x : Except Revert Chain) : Except Revert World := do
  let c ← x
  pure (Function.update w s c)

theorem on_eq_ok {w w' : World} {s : Side} {x : Except Revert Chain} :
    w.on s x = .ok w' ↔ ∃ c, x = .ok c ∧ w' = Function.update w s c := by
  simp only [on, bind_eq_ok, pure_eq_ok]
  constructor
  · rintro ⟨c, hc, rfl⟩; exact ⟨c, hc, rfl⟩
  · rintro ⟨c, hc, rfl⟩; exact ⟨c, hc, rfl⟩

variable {Path : Type} (keccak256 : Bytes → Bytes32) (d : Deployment Path)

def step (w : World) : Action Path → Except Revert World
  | .transact _ (.deployXERC20 s) => w.on s ((w s).deployXERC20 d.deployer)
  | .transact _ (.deployMediator s p) =>
    w.on s ((w s).deployMediator (d.site s) (d.mediator s p) d.deployer)
  | .transact env (.call s msgSender value call) =>
    w.on s ((w s).exec keccak256 (d.site s) env msgSender value call)
  | .tick s seconds => do
    -- block timestamps are `uint256`
    revertIf (uint256Max < (w s).now + seconds) (.Panic 0x11)
    w.on s (.ok { w s with now := (w s).now + seconds })

/-- A run of actions; a reverting transaction changes nothing. -/
def run (w : World) (l : List (Action Path)) : World := Machine.run (step keccak256 d) w l

end World

/-! ## What a step does -/

/-- What a successful step does to the chain `s` it happens on. -/
inductive ChainStep {Path : Type} (keccak256 : Bytes → Bytes32) (d : Deployment Path) (s : Side)
    (c : Chain) : Action Path → Chain → Prop
  | deployXERC20 {env : Env} {t : XERC20} (hnone : c.token = none)
      (ht : BasicXERC20Sample.constructor d.deployer = .ok t) :
      ChainStep keccak256 d s c (.transact env (.deployXERC20 s)) { c with token := some t }
  | deployMediator {env : Env} {p : Path} {m : SimpleTokenMediator}
      (hnone : c.mediators (d.mediator s p) = none)
      (hm : SimpleTokenMediator.constructor s.router 1 d.deployer = .ok m) :
      ChainStep keccak256 d s c (.transact env (.deployMediator s p))
        { c with mediators := Function.update c.mediators (d.mediator s p) (some m) }
  | call {env : Env} {msgSender : Address} {value : Nat} {call : Call} {c' : Chain}
      (h : Effect keccak256 (d.site s) c env msgSender value call c') :
      ChainStep keccak256 d s c (.transact env (.call s msgSender value call)) c'
  | tick {seconds : Nat} (hnow : c.now + seconds ≤ uint256Max) :
      ChainStep keccak256 d s c (.tick s seconds) { c with now := c.now + seconds }

/-- **The inversion of a step**: it happens on one chain. -/
theorem World.step_cases {Path : Type} {keccak256 : Bytes → Bytes32} {d : Deployment Path}
    {w w' : World} {a : Action Path} (h : w.step keccak256 d a = .ok w') :
    ∃ s c', ChainStep keccak256 d s (w s) a c' ∧ w' = Function.update w s c' := by
  cases a with
  | tick s seconds =>
    simp only [World.step, bind_eq_ok, revertIf_eq_ok, World.on_eq_ok] at h
    obtain ⟨_, hnow, c', hc', rfl⟩ := h
    obtain rfl := Except.ok.inj hc'
    exact ⟨s, _, .tick (by omega), rfl⟩
  | transact env t =>
    cases t with
    | deployXERC20 s =>
      simp only [World.step, Chain.deployXERC20, World.on_eq_ok, bind_eq_ok, revertIf_eq_ok,
        pure_eq_ok, Bool.not_eq_true, Option.isSome_eq_false_iff, Option.isNone_iff_eq_none] at h
      obtain ⟨_, ⟨_, hnone, t, ht, rfl⟩, rfl⟩ := h
      exact ⟨s, _, .deployXERC20 hnone ht, rfl⟩
    | deployMediator s p =>
      simp only [World.step, Chain.deployMediator, World.on_eq_ok, bind_eq_ok, revertIf_eq_ok,
        pure_eq_ok, Bool.not_eq_true, Option.isSome_eq_false_iff, Option.isNone_iff_eq_none] at h
      obtain ⟨_, ⟨_, hnone, m, hm, rfl⟩, rfl⟩ := h
      exact ⟨s, _, .deployMediator hnone hm, rfl⟩
    | call s msgSender value call =>
      obtain ⟨c', hc', rfl⟩ := World.on_eq_ok.mp h
      exact ⟨s, c', .call (exec_effect hc'), rfl⟩

/-- A step, seen from either chain. -/
theorem World.step_at {Path : Type} {keccak256 : Bytes → Bytes32} {d : Deployment Path}
    {w w' : World} {a : Action Path} (h : w.step keccak256 d a = .ok w') (s : Side) :
    w' s = w s ∨ ChainStep keccak256 d s (w s) a (w' s) := by
  obtain ⟨s', c', hs, rfl⟩ := World.step_cases h
  by_cases heq : s = s'
  · subst heq
    rw [Function.update_self]
    exact Or.inr hs
  · exact Or.inl (Function.update_of_ne heq _ _)

/-! ## What a run may do -/

section Permitted

variable {Path : Type} (d : Deployment Path)

/-- Which deliveries a sender may make: on which chain, from which chain, which bytes. -/
abbrev Deliveries := World → Side → Address → Uint256 → Bytes → Prop

/-- An unrestricted call by an account, with the deliveries `delivers` allows. -/
structure Ordinarily (delivers : Deliveries) (w : World) (s : Side) (msgSender : Address)
    (call : Call) : Prop where
  account : d.Account s msgSender
  unrestricted : call.restricted = false
  delivers : ∀ fromChainId glacisPayload, call = .receiveMessage fromChainId glacisPayload →
    delivers w s msgSender fromChainId glacisPayload

/-- The actions of a run: time passes, `admin` transactions happen, and accounts make
    unrestricted calls, delivering what `delivers` allows. -/
def Permitted (admin : Transaction Path → Prop) (delivers : Deliveries) (w : World) :
    Action Path → Prop
  | .tick _ _ => True
  | .transact env (.deployXERC20 s) => d.Surroundings s env ∧ admin (.deployXERC20 s)
  | .transact env (.deployMediator s p) => d.Surroundings s env ∧ admin (.deployMediator s p)
  | .transact env (.call s msgSender value call) =>
    d.Surroundings s env ∧
      (d.Account s msgSender ∧ admin (.call s msgSender value call) ∨
        Ordinarily d delivers w s msgSender call)

variable {d}

/-- Whatever a run permits, a caller is an account. -/
theorem Permitted.account {admin : Transaction Path → Prop} {delivers : Deliveries} {w : World}
    {env : Env} {s : Side} {msgSender : Address} {value : Nat} {call : Call}
    (h : Permitted d admin delivers w (.transact env (.call s msgSender value call))) :
    d.Surroundings s env ∧ d.Account s msgSender := by
  obtain ⟨hsur, ⟨hacc, _⟩ | hord⟩ := h
  · exact ⟨hsur, hacc⟩
  · exact ⟨hsur, hord.account⟩

/-- A restricted call is an administrative one. -/
theorem Permitted.admin {admin : Transaction Path → Prop} {delivers : Deliveries} {w : World}
    {env : Env} {s : Side} {msgSender : Address} {value : Nat} {call : Call}
    (h : Permitted d admin delivers w (.transact env (.call s msgSender value call)))
    (hcall : call.restricted = true) : admin (.call s msgSender value call) := by
  obtain ⟨_, ⟨_, hadm⟩ | hord⟩ := h
  · exact hadm
  · exact absurd (hord.unrestricted.symm.trans hcall) (by decide)

/-- More administration and more deliveries permit more. -/
theorem Permitted.mono {admin admin' : Transaction Path → Prop} {delivers delivers' : Deliveries}
    (hadmin : ∀ t, admin t → admin' t)
    (hdel : ∀ w s x f b, delivers w s x f b → delivers' w s x f b) {w : World} {a : Action Path}
    (h : Permitted d admin delivers w a) : Permitted d admin' delivers' w a := by
  cases a with
  | tick s seconds => trivial
  | transact env t =>
    cases t with
    | deployXERC20 s => exact ⟨h.1, hadmin _ h.2⟩
    | deployMediator s p => exact ⟨h.1, hadmin _ h.2⟩
    | call s msgSender value call =>
      obtain ⟨hsur, ⟨hacc, hadm⟩ | ⟨hacc, hres, hd⟩⟩ := h
      · exact ⟨hsur, Or.inl ⟨hacc, hadmin _ hadm⟩⟩
      · exact ⟨hsur, Or.inr ⟨hacc, hres, fun f b hc => hdel _ _ _ _ _ (hd f b hc)⟩⟩

variable (d)

/-- Any bytes from anyone. -/
def anyDelivery : Deliveries := fun _ _ _ _ _ => True

/-- What arrives through an honest adapter: what the other chain's router gave to an adapter, or
    a message of a third chain, where no contract has a mediator's address. -/
def Honest (w : World) (s : Side) (fromChainId : Uint256) (glacisPayload : Bytes) : Prop :=
  (fromChainId = s.other.chainId ∧ ∃ pk ∈ (w s.other).packets, pk.payload = glacisPayload) ∨
  (fromChainId ≠ s.other.chainId ∧ ∀ data payload,
    decodeGlacisPayload glacisPayload = some (data, payload) →
      ∀ s' p, data.originalFrom ≠ toBytes32 (d.mediator s' p))

/-- The adapters registered under the `trusted` GMP ids are honest; nobody else need be. -/
def honestUnder (trusted : Uint8 → Prop) : Deliveries :=
  fun w s msgSender fromChainId glacisPayload =>
    trusted ((w s).router.registry.adapterToGlacisGMPId msgSender) →
      Honest d w s fromChainId glacisPayload

/-- Every registered adapter is honest: an address without an id is not registered. -/
def honestAdapters : Deliveries := honestUnder d (· ≠ 0)

/-- The adapter registered under `gmpId` is honest. -/
def honestAdapter (gmpId : Uint8) : Deliveries := honestUnder d (· = gmpId)

end Permitted

end CrossRWA
