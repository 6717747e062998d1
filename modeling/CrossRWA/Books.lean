/-
  The books of a chain — what every run keeps, whoever may do what.

  `Books` collects the invariants that hold in EVERY permitted run: the mediators are the
  deployment's with quorum 1, and the sending and the receiving side are in order.  The step lemma
  `Books.step` needs no trust in adapters, owners or accounts; it only needs that callers are
  accounts, that nobody else puts code at a mediator's address, and that no collision was hashed.

  `books_of_run` is the run lemma every claim about messages starts from.
-/
import CrossRWA.World
import CrossRWA.Inbox

namespace CrossRWA

variable {Path : Type} {keccak256 : Bytes → Bytes32} {d : Deployment Path} {s : Side}
  {c c' : Chain}

/-- Every mediator on the chain is the deployment's, with its constructor's router and quorum. -/
def Deployed (d : Deployment Path) (s : Side) (c : Chain) : Prop :=
  ∀ a m, c.mediators a = some m →
    d.IsMediator s a ∧ m.GLACIS_ROUTER = s.router ∧ m.DEFAULT_QUORUM = 1

structure Books (keccak256 : Bytes → Bytes32) (d : Deployment Path) (s : Side) (c : Chain) :
    Prop where
  deployed : Deployed d s c
  outbox : Outbox keccak256 s.chainId c
  transfers : Transfers (d.IsMediator s) c
  inbox : Inbox keccak256 s.chainId (d.IsMediator s) c

/-! ## One step -/

/-- An account is never a mediator's router. -/
theorem Deployed.ne_router (h : Deployed d s c) {x : Address} (hx : d.Account s x) :
    ∀ a m, c.mediators a = some m → x ≠ m.GLACIS_ROUTER := by
  intro a m hm
  rw [(h a m hm).2.1]
  exact hx.ne_router

theorem Deployed.update (h : Deployed d s c) {a : Address} {m : SimpleTokenMediator}
    (ha : d.IsMediator s a) (hr : m.GLACIS_ROUTER = s.router) (hq : m.DEFAULT_QUORUM = 1) :
    Deployed d s { c with mediators := Function.update c.mediators a (some m) } := by
  intro x y hxy
  change Function.update c.mediators a (some m) x = some y at hxy
  by_cases hx : x = a
  · subst hx
    rw [Function.update_self] at hxy
    obtain rfl := Option.some.inj hxy
    exact ⟨ha, hr, hq⟩
  · rw [Function.update_of_ne hx] at hxy
    exact h x y hxy

/-- A change of the token, the clock or the mediators' own tables concerns no message. -/
theorem Books.frame (h : Books keccak256 d s c) (hdep : Deployed d s c') (hout : SameOutbox c c')
    (hin : SameInbox c c') : Books keccak256 d s c' :=
  ⟨hdep, h.outbox.frame hout, h.transfers.frame hout, h.inbox.frame hin⟩

/-- **One call keeps the books.** -/
theorem Books.effect (h : Books keccak256 d s c) {env : Env} {msgSender : Address} {value : Nat}
    {call : Call} (he : Effect keccak256 (d.site s) c env msgSender value call c')
    (hacc : d.Account s msgSender) (hsur : d.Surroundings s env)
    (hfree : CollisionFree keccak256 c'.hashed) : Books keccak256 d s c' := by
  have hmed : ∀ a m, c.mediators a = some m → d.IsMediator s a ∧ m.DEFAULT_QUORUM = 1 :=
    fun a m hm => ⟨(h.deployed a m hm).1, (h.deployed a m hm).2.2⟩
  have hclient : ∀ a, d.IsMediator s a → env.client a = Client.noCode := by
    rintro a ⟨p, rfl⟩; exact hsur p
  cases he with
  | token ht hexec =>
    exact h.frame h.deployed ⟨rfl, rfl, rfl, rfl, rfl, rfl, List.Subset.refl _⟩
      ⟨rfl, rfl, rfl, rfl, List.Subset.refl _⟩
  | mediator hm hexec =>
    obtain ⟨ha, hr, hq⟩ := h.deployed _ _ hm
    obtain ⟨hr', hq'⟩ := SimpleTokenMediator.exec_frame hexec
    exact h.frame (h.deployed.update ha (hr'.trans hr) (hq'.trans hq))
      ⟨rfl, rfl, rfl, rfl, rfl, rfl, List.Subset.refl _⟩ ⟨rfl, rfl, rfl, rfl, List.Subset.refl _⟩
  | router hexec =>
    obtain ⟨⟨_, _, _, rfl⟩, _⟩ := GlacisRouter.exec_spec hexec
    exact h.frame h.deployed ⟨rfl, rfl, rfl, rfl, rfl, rfl, List.Subset.refl _⟩
      ⟨rfl, rfl, rfl, rfl, List.Subset.refl _⟩
  | @route _ _ _ _ _ _ retryable R hR =>
    obtain ⟨_, _, hrouter, _⟩ := GlacisRouter.route_spec hR
    refine ⟨h.deployed, h.outbox.afterRoute hR, h.transfers.afterRoute h.outbox hacc.not_mediator hR
      hfree, h.inbox.frame ⟨?_, ?_, rfl, rfl, List.subset_append_left _ _⟩⟩
    · show R.router.messageReceipts = _
      rw [hrouter]
    · show R.router.receivedCustomAdapterMessages = _
      rw [hrouter]
  | @sendCrossChain self _ _ _ _ _ _ m t t' R message hm hdst htoken ht hburn hR hmessage =>
    obtain ⟨_, _, hrouter, _⟩ := GlacisRouter.route_spec hR
    have hself := (h.deployed _ _ hm).1
    have hout : Outbox keccak256 s.chainId (c.afterRoute keccak256 message R) := by
      rw [hmessage]; exact h.outbox.afterRoute hR
    refine ⟨h.deployed, ⟨hout.1, hout.2, hout.3, hout.4, hout.5, hout.6, hout.7⟩,
      h.transfers.afterSend h.outbox hself hR hmessage hfree,
      h.inbox.frame ⟨?_, ?_, rfl, rfl, List.subset_append_left _ _⟩⟩
    · show R.router.messageReceipts = _
      rw [hrouter]
    · show R.router.receivedCustomAdapterMessages = _
      rw [hrouter]
  | routeRetry hR =>
    exact ⟨h.deployed, h.outbox.afterRetry hacc.ordinary.ne_zero hR hfree,
      h.transfers.afterRetry _ _,
      h.inbox.frame ⟨rfl, rfl, rfl, rfl, List.subset_append_left _ _⟩⟩
  | sendCrossChainRetry hm hR =>
    obtain ⟨p, rfl⟩ := (h.deployed _ _ hm).1
    exact ⟨h.deployed, h.outbox.afterRetry (d.mediator_ordinary s p).ne_zero hR hfree,
      h.transfers.afterRetry _ _,
      h.inbox.frame ⟨rfl, rfl, rfl, rfl, List.subset_append_left _ _⟩⟩
  | mediatorReceiveMessage hm hr _ _ _ _ => exact absurd hr (h.deployed.ne_router hacc _ _ hm)
  | @receiveMessage fromChainId _ R _ hR hskip hexec =>
    have hinbox := h.inbox.receiveMessage h.outbox.chainId_eq hmed hclient hR hskip hexec hfree
    obtain ⟨_, _, _, _, _, _, hid, _, hnonce, hsenders⟩ := GlacisRouter.receiveMessage_spec hR
    have hout : SameOutbox c (c.afterReceive keccak256 msgSender fromChainId R) :=
      ⟨hid, hnonce, hsenders, rfl, rfl, rfl, List.subset_append_left _ _⟩
    cases hex : R.executed with
    | false =>
      obtain rfl := hskip hex
      exact ⟨h.deployed, h.outbox.frame hout, h.transfers.frame hout, hinbox⟩
    | true =>
      have hout' : SameOutbox c c' ∧ c'.mediators = c.mediators := by
        obtain ⟨h1, _, h3, h4, h5, h6, h7, _⟩ := (hexec hex).same
        refine ⟨⟨?_, ?_, ?_, h4, h5, h6, ?_⟩, h7⟩
        · rw [h1]; exact hid
        · rw [h1]; exact hnonce
        · rw [h1]; exact hsenders
        · rw [h3]; exact List.subset_append_left _ _
      refine ⟨?_, h.outbox.frame hout'.1, h.transfers.frame hout'.1, hinbox⟩
      unfold Deployed
      rw [hout'.2]
      exact h.deployed
  | @retryReceiveMessage fromChainId _ R _ hR hexec =>
    obtain ⟨rfl, hinbox⟩ :=
      h.inbox.retryReceiveMessage h.outbox.chainId_eq hmed hR hexec hfree
    obtain ⟨_, _, _, _, _, hrouter⟩ := GlacisRouter.retryReceiveMessage_spec hR
    have hout : SameOutbox c (c.afterRetryReceive keccak256 fromChainId R) := by
      refine ⟨?_, ?_, ?_, rfl, rfl, rfl, List.subset_append_left _ _⟩
      · show R.router.GLACIS_CHAIN_ID = _
        rw [hrouter]
      · show R.router.nonce = _
        rw [hrouter]
      · show R.router.messageSenders = _
        rw [hrouter]
    exact ⟨h.deployed, h.outbox.frame hout, h.transfers.frame hout, hinbox⟩

/-- **One step keeps the books**, whatever it is permitted by. -/
theorem Books.step (h : Books keccak256 d s c) {w : World} {a : Action Path}
    {admin : Transaction Path → Prop} {delivers : Deliveries}
    (hs : ChainStep keccak256 d s c a c') (hP : Permitted d admin delivers w a)
    (hfree : CollisionFree keccak256 c'.hashed) : Books keccak256 d s c' := by
  have hout : ∀ (t : Option XERC20) (ms : Address → Option SimpleTokenMediator) (now : Nat),
      SameOutbox c { c with token := t, mediators := ms, now := now } :=
    fun _ _ _ => ⟨rfl, rfl, rfl, rfl, rfl, rfl, List.Subset.refl _⟩
  have hin : ∀ (t : Option XERC20) (ms : Address → Option SimpleTokenMediator) (now : Nat),
      SameInbox c { c with token := t, mediators := ms, now := now } :=
    fun _ _ _ => ⟨rfl, rfl, rfl, rfl, List.Subset.refl _⟩
  cases hs with
  | deployXERC20 _ _ => exact h.frame h.deployed (hout _ _ _) (hin _ _ _)
  | @deployMediator env p m _ hm =>
    obtain ⟨_, _, hr, hq, _⟩ := SimpleTokenMediator.constructor_spec hm
    exact h.frame (h.deployed.update ⟨p, rfl⟩ hr hq) (hout _ _ _) (hin _ _ _)
  | call he =>
    obtain ⟨hsur, hacc⟩ := hP.account
    exact h.effect he hacc hsur hfree
  | tick _ => exact h.frame h.deployed (hout _ _ _) (hin _ _ _)

/-! ## Runs -/

theorem ChainStep.hashed_subset {a : Action Path} (h : ChainStep keccak256 d s c a c') :
    c.hashed ⊆ c'.hashed := by
  cases h with
  | deployXERC20 _ _ => exact List.Subset.refl _
  | deployMediator _ _ => exact List.Subset.refl _
  | call he => exact he.hashed_subset
  | tick _ => exact List.Subset.refl _

/-- What is hashed on either chain stays hashed. -/
theorem World.hashed_mono {w w' : World} {a : Action Path}
    (h : w.step keccak256 d a = .ok w') : w.hashed ⊆ w'.hashed := by
  obtain ⟨s, c', hs, rfl⟩ := World.step_cases h
  intro b hb
  have hin : ∀ s', b ∈ (w s').hashed → b ∈ (Function.update w s c' s').hashed := by
    intro s' hb'
    by_cases heq : s' = s
    · subst heq; rw [Function.update_self]; exact hs.hashed_subset hb'
    · rw [Function.update_of_ne heq]; exact hb'
  rcases List.mem_append.mp hb with hb | hb
  · exact List.mem_append_left _ (hin .opt hb)
  · exact List.mem_append_right _ (hin .arb hb)

/-- No collision was hashed: the side condition of every run. -/
def NoCollision (keccak256 : Bytes → Bytes32) (w : World) : Prop :=
  CollisionFree keccak256 w.hashed

instance (keccak256 : Bytes → Bytes32) (w : World) : Decidable (NoCollision keccak256 w) :=
  inferInstanceAs (Decidable (CollisionFree keccak256 w.hashed))

theorem NoCollision.of_step {w w' : World} {a : Action Path}
    (h : w.step keccak256 d a = .ok w') (hw' : NoCollision keccak256 w') :
    NoCollision keccak256 w := CollisionFree.mono hw' (World.hashed_mono h)

/-- What did not collide by the end of a run had not collided at its start. -/
theorem NoCollision.of_run {w : World} {l : List (Action Path)}
    (h : NoCollision keccak256 (w.run keccak256 d l)) : NoCollision keccak256 w := by
  induction l generalizing w with
  | nil => exact h
  | cons a l ih =>
    have hnext := ih h
    rcases Machine.apply_cases (World.step keccak256 d) w a with hok | heq
    · exact hnext.of_step hok
    · rwa [heq] at hnext

theorem NoCollision.chain {w : World} (h : NoCollision keccak256 w) (s : Side) :
    CollisionFree keccak256 (w s).hashed := CollisionFree.mono h (w.hashed_subset s)

/-- Chain by chain: a step keeps an invariant of every chain if it keeps that of its own. -/
theorem forall_update {I : Side → Chain → Prop} {w : World} (h : ∀ s', I s' (w s'))
    (hnew : I s c') : ∀ s', I s' (Function.update w s c' s') := by
  intro s'
  by_cases heq : s' = s
  · subst heq; rw [Function.update_self]; exact hnew
  · rw [Function.update_of_ne heq]; exact h s'

/-- **The run rule.**  An invariant of the world that every permitted step keeps, the books of
    both chains at hand before and after it, holds along every permitted run and after it. -/
theorem world_of_run {I : World → Prop} {admin : Transaction Path → Prop} {delivers : Deliveries}
    (hstep : ∀ (w : World) s a c', ChainStep keccak256 d s (w s) a c' →
      Permitted d admin delivers w a → NoCollision keccak256 (Function.update w s c') →
      (∀ s', Books keccak256 d s' (w s')) →
      (∀ s', Books keccak256 d s' (Function.update w s c' s')) → I w → I (Function.update w s c'))
    {w : World} {l : List (Action Path)}
    (hl : Machine.Follows (World.step keccak256 d) (Permitted d admin delivers) w l)
    (hbooks : ∀ s, Books keccak256 d s (w s)) (h0 : I w)
    (hfree : NoCollision keccak256 (w.run keccak256 d l)) :
    Machine.Follows (World.step keccak256 d) (fun w a => Permitted d admin delivers w a ∧
        (∀ s, Books keccak256 d s (w s)) ∧ I w) w l ∧
      (∀ s, Books keccak256 d s (w.run keccak256 d l s)) ∧ I (w.run keccak256 d l) := by
  refine hl.with_invariant_of_mono (I := fun w => (∀ s, Books keccak256 d s (w s)) ∧ I w)
    (C := NoCollision keccak256) (fun w a w' h hw' => hw'.of_step h) ?_ ⟨hbooks, h0⟩ hfree
  rintro w a w' hok hP hw' ⟨hB, hI⟩
  obtain ⟨s, c', hs, rfl⟩ := World.step_cases hok
  have hc' := hw'.chain s
  rw [Function.update_self] at hc'
  have hB' := forall_update hB ((hB s).step hs hP hc')
  exact ⟨hB', hstep w s a c' hs hP hw' hB hB' hI⟩

/-! ## The scripts' routers -/

/-- The chains' own routers, not used yet: whatever they did before the scripts is part of the
    run. -/
structure FreshRouters (router : Side → GlacisRouter) : Prop where
  chainId : ∀ s, (router s).GLACIS_CHAIN_ID = s.chainId
  senders : ∀ s id, (router s).messageSenders id = 0
  receipts : ∀ s id, (router s).messageReceipts id = ⟨0, false⟩
  flags : ∀ s id a, (router s).receivedCustomAdapterMessages id a = false

/-- Routers just constructed are fresh, whatever adapters they have. -/
theorem FreshRouters.constructor (owner : Address) (registry : Side → AdapterRegistry) :
    FreshRouters fun s => GlacisRouter.constructor s.chainId owner (registry s) where
  chainId := fun _ => rfl
  senders := fun _ _ => rfl
  receipts := fun _ _ => rfl
  flags := fun _ _ _ => rfl

theorem FreshRouters.books {router : Side → GlacisRouter} (h : FreshRouters router)
    (now : Side → Nat) (s : Side) : Books keccak256 d s (World.initial router now s) where
  deployed := fun _ _ hm => nomatch hm
  outbox := Outbox.initial (h.chainId s) (h.senders s)
  transfers := Transfers.initial _ _ _
  inbox := Inbox.initial (h.receipts s) (h.flags s)

end CrossRWA
