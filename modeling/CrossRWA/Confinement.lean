/-
  Source confinement of the mediators — which message a mint comes from.

  A mediator leaves access control to its allowed routes and does not look at its counterpart table
  when it receives.  The scripts fill the two tables with different keys: the route has the
  wildcard chain, the counterpart the other chain's id.

  1. `Confined` is what the route guarantees of a mint's message, whatever the owner does to the
     counterparts: its sender is the path's other mediator, its adapter the path's.
  2. `mints_confined`: the token's supply rises by noted mints only, and every mint of every run has
     a moment at which it is confined; and when its message is from the counterpart's chain and the
     owner left that chain's entry as the scripts set it (`CounterpartKept`), the counterpart table
     agrees (`MatchesCounterpart`).
  3. `unmatched_mints`: without these conditions it need not.
-/
import CrossRWA.Provenance
import CrossRWA.Wired

namespace CrossRWA

variable {Path : Type} {keccak256 : Bytes → Bytes32} {d : Deployment Path} {gmp : Path → Uint8}
  {s : Side} {w : World} {a : Action Path}

/-! ## A mint at its moment -/

/-- The message of a mint, as the state `w` before the mint and the action `a` show it. -/
structure Confined (d : Deployment Path) (gmp : Path → Uint8) (w : World) (s : Side)
    (a : Action Path) (p : Path) (k : Mint) : Prop where
  mediator : k.mediator = d.mediator s p
  /-- The sender is the path's other mediator, ... -/
  originalFrom : k.glacisData.originalFrom = toBytes32 (d.mediator s.other p)
  originalFrom_ne_zero : k.glacisData.originalFrom ≠ 0
  /-- ... and the adapter registered under the path's id delivered it. -/
  delivered : ∃ env adapter value glacisPayload,
    a = .transact env (.call s adapter value (.receiveMessage k.fromChainId glacisPayload)) ∧
    (w s).router.registry.adapterToGlacisGMPId adapter = gmp p

/-- The mediator's counterpart for the message's chain is the message's sender. -/
def MatchesCounterpart (w : World) (s : Side) (k : Mint) : Prop :=
  match (w s).mediators k.mediator with
  | some m => m.remoteCounterpart k.fromChainId = k.glacisData.originalFrom ∧
      k.glacisData.originalFrom ≠ 0
  | none => False

instance (w : World) (s : Side) (k : Mint) : Decidable (MatchesCounterpart w s k) :=
  match h : (w s).mediators k.mediator with
  | some m => decidable_of_iff (m.remoteCounterpart k.fromChainId = k.glacisData.originalFrom ∧
      k.glacisData.originalFrom ≠ 0) (by rw [MatchesCounterpart, h])
  | none => isFalse (by rw [MatchesCounterpart, h]; exact id)

/-- **A step that adds a mint** adds a confined one. -/
theorem confined_of_step {admin : Transaction Path → Prop} {delivers : Deliveries} {w' : World}
    {k : Mint} (hok : w.step keccak256 d a = .ok w') (hP : Permitted d admin delivers w a)
    (hB : Books keccak256 d s (w s)) (hroutes : RoutesOnly d (idEntry gmp) s (w s))
    (hgmp : ∀ p, (gmp p).toNat ≤ GLACIS_RESERVED_IDS) (hfree : NoCollision keccak256 w')
    (hnot : k ∉ (w s).mints) (hk : k ∈ (w' s).mints) : ∃ p, Confined d gmp w s a p k := by
  rcases World.step_at hok s with heq | hs
  · rw [heq] at hk; exact absurd hk hnot
  · rcases hs.mint_cases hP hB (hfree.chain s) with
      hmints | ⟨env, adapter, v, f, b, R, k', rfl, hstep, hmints, _⟩
    · rw [hmints] at hk; exact absurd hk hnot
    · rw [hmints] at hk
      rcases List.mem_append.mp hk with hk | hk
      · exact absurd hk hnot
      · obtain rfl := List.mem_singleton.mp hk
        obtain ⟨m, hm⟩ := hstep.deployed
        obtain ⟨p, hp⟩ := (hB.deployed _ _ hm).1
        obtain ⟨hfrom, hid, _⟩ := hstep.accepted hroutes hP.account.2 hgmp hp
        have hne : k.glacisData.originalFrom ≠ 0 := by
          rw [hfrom]
          exact toBytes32_ne_zero (d.mediator_ordinary s.other p).ne_zero
        have hchain : k.fromChainId = f := hstep.caused.fromChainId
        exact ⟨p, hp, hfrom, hne, env, adapter, v, b, by rw [hchain], hid⟩

/-! ## Runs -/

section Run

variable {n : Nat}

/-- The scripts' transactions, and the mediator owner's later changes of counterparts. -/
def confinementAdmin (d : Deployment (CrossRWA.Path n)) (t : Transaction (CrossRWA.Path n)) : Prop :=
  scripted d t ∨ ∃ s msgSender value call, t = .call s msgSender value call ∧ CounterpartCall call

theorem confinementAdmin_wires (d : Deployment (CrossRWA.Path n)) : ∀ t, confinementAdmin d t →
    t.IsCall fun s call =>
      WiringCall d (idEntry CrossRWA.Path.gmpId) s call ∨ CounterpartCall call := by
  rintro t (ht | ⟨s, x, v, call, rfl, hcall⟩)
  · exact (scripted_wires d t ht).mono fun _ _ hc => Or.inl hc
  · exact Or.inr hcall

/-- The scripts set the counterpart of the mediator, after deploying it, and since then the owner
    wrote nothing else under the counterpart's chain. -/
def CounterpartKept (d : Deployment (CrossRWA.Path n)) (s : Side) (p : CrossRWA.Path n)
    (l : List (Action (CrossRWA.Path n))) : Prop :=
  ∃ before env after, l = before ++ .transact env (d.addCounterpart s p) :: after ∧
    Transaction.deployMediator s p ∈ before.filterMap Action.transaction ∧
    ∀ a ∈ after, ∀ env value call,
      a = .transact env (.call s d.deployer value (.mediator (d.mediator s p) call)) →
      KeepsCounterpart d s p call

/-- **The counterpart is registered** after a run that set it and left it. -/
theorem CounterpartKept.registered {d : Deployment (CrossRWA.Path n)} {p : CrossRWA.Path n}
    {l : List (Action (CrossRWA.Path n))} (h : CounterpartKept d s p l)
    {P : World → Action (CrossRWA.Path n) → Prop} (howned : ∀ w a, P w a → Owned d (w s))
    (hl : Machine.Follows (World.step keccak256 d) P w l) :
    HasMediator d s p (fun m => m.remoteCounterpart s.other.chainId = toBytes32 (d.mediator s.other p))
      (w.run keccak256 d l s) := by
  obtain ⟨before, env, after, rfl, hdeploy, hkept⟩ := h
  obtain ⟨hbefore, hset, hafter⟩ := Machine.follows_append.mp hl
  let σ := counterpartSetting d (idEntry CrossRWA.Path.gmpId) s p
  -- the mediator is there when the scripts' call is made ...
  have hthere : HasMediator d s p (fun _ => True) (w.run keccak256 d before s) := by
    refine hbefore.reaches (F := fun w => HasMediator d s p (fun _ => True) (w s)) ?_ ?_ hdeploy
    · intro w a w' hok _ hF
      exact hF.step hok fun _ _ _ _ _ _ _ _ _ h => h
    · intro w a ha _
      obtain ⟨env, rfl⟩ := Action.of_transaction ha
      exact hasMediator_of_deploy w env
  -- ... and keeps its counterpart afterwards
  have hmade : HasMediator d s p σ.holds (Machine.apply (World.step keccak256 d)
      (w.run keccak256 d before) (.transact env (d.addCounterpart s p)) s) :=
    σ.made (howned _ _ hset) hthere env
  obtain ⟨_, hend⟩ := (hafter.and_mem hkept).with_invariant
    (I := fun w => HasMediator d s p σ.holds (w s))
    (fun w a w' hok hP hG => σ.step hG (howned w a hP.1) hok fun env v call ha _ =>
      hP.2 env v call ha) hmade
  rw [World.run, Machine.run_append]
  exact hend

/-- **Source confinement.**  In every run of the scripts' wiring, whatever messages arrive, accounts
    call and owners do to the counterparts, the supply of a token rises at its deployment and by the
    mints that are noted, no two of them for one message.  Every mint has its moment: the state `l₁`
    leads to, in which the delivery `a` mints it and the token credits it.  There its message comes
    from the path's other mediator over the path's adapter; and if the message is from the
    counterpart's chain and the owner left the scripts' entry, the counterpart table agrees. -/
theorem mints_confined (keccak256 : Bytes → Bytes32) (d : Deployment (CrossRWA.Path n))
    {router : Side → GlacisRouter} {now : Side → Nat} {l : List (Action (CrossRWA.Path n))}
    (hrouters : FreshRouters router)
    (hl : Machine.Follows (World.step keccak256 d) (Permitted d (confinementAdmin d) anyDelivery)
      (World.initial router now) l)
    (hfree : NoCollision keccak256 ((World.initial router now).run keccak256 d l)) (s : Side) :
    (∀ l₁ a l₂, l = l₁ ++ a :: l₂ → Moves ((World.initial router now).run keccak256 d l₁ s)
      ((World.initial router now).run keccak256 d (l₁ ++ [a]) s)) ∧
    (((World.initial router now).run keccak256 d l s).mints.map
      fun k => k.glacisData.messageId).Nodup ∧
    ∀ k ∈ ((World.initial router now).run keccak256 d l s).mints,
      ∃ l₁ a l₂ p, l = l₁ ++ a :: l₂ ∧
        Credited ((World.initial router now).run keccak256 d l₁ s)
          ((World.initial router now).run keccak256 d (l₁ ++ [a]) s) k ∧
        Confined d CrossRWA.Path.gmpId ((World.initial router now).run keccak256 d l₁) s a p k ∧
        (CounterpartKept d s p l₁ → k.fromChainId = s.other.chainId →
          MatchesCounterpart ((World.initial router now).run keccak256 d l₁) s k) := by
  refine ⟨fun l₁ a l₂ hsplit =>
    moves_of_run (confinementAdmin_wires d) hrouters hl hfree hsplit s, ?_⟩
  obtain ⟨hfollows, hbooks, _⟩ := world_of_run
    (I := fun w => (∀ s, Owned d (w s)) ∧ ∀ s, RoutesOnly d (idEntry CrossRWA.Path.gmpId) s (w s))
    (fun w s _ _ hs hP _ _ _ hI =>
      ⟨forall_update (I := fun _ => Owned d) hI.1 ((hI.1 s).step hs hP (confinementAdmin_wires d)),
        forall_update hI.2 ((hI.2 s).step hs hP (confinementAdmin_wires d))⟩)
    hl (hrouters.books now) ⟨fun _ => Owned.initial _ _, fun _ => RoutesOnly.initial _ _⟩ hfree
  refine ⟨(hbooks s).inbox.mints_nodup, fun k hk => ?_⟩
  have hnone : k ∉ (World.initial router now s).mints := fun h => nomatch h
  obtain ⟨l₁, a, l₂, rfl, hnot, hok, hin⟩ :=
    Machine.exists_first (R := fun w : World => k ∈ (w s).mints) hnone hk
  obtain ⟨hbefore, hat⟩ := Machine.follows_append.mp hfollows
  obtain ⟨⟨hP, hB, hI⟩, _⟩ := hat
  have hfree' : NoCollision keccak256 (Machine.apply (World.step keccak256 d)
      ((World.initial router now).run keccak256 d l₁) a) := by
    refine NoCollision.of_run (d := d) (l := l₂) ?_
    rw [World.run, Machine.run_append] at hfree
    exact hfree
  obtain ⟨p, hconf⟩ := confined_of_step hok hP (hB s) (hI.2 s) CrossRWA.Path.gmpId_le hfree'
    hnot hin
  refine ⟨l₁, a, l₂, p, rfl, (accounted_of_run l₁ a s).credited hnot ?_, hconf, ?_⟩
  · rw [World.run_concat]
    exact hin
  · intro hkept hchain
    obtain ⟨m, hm, htable⟩ := hkept.registered (fun w a ha => ha.2.2.1 s) hbefore
    unfold MatchesCounterpart
    rw [hconf.mediator, hm]
    exact ⟨by rw [hchain, htable, hconf.originalFrom], hconf.originalFrom_ne_zero⟩

end Run

/-- The script's first delivery is confined, with the counterpart the script registered. -/
theorem mints_confined_delivered : ∃ l₁ a l₂ p,
    Sample.script ++ [Sample.deliver 42161 Sample.firstMessage Sample.payload] = l₁ ++ a :: l₂ ∧
    Credited
      ((World.initial Sample.routers Sample.clock).run Sample.keccak Sample.recorded l₁ .opt)
      ((World.initial Sample.routers Sample.clock).run Sample.keccak Sample.recorded
        (l₁ ++ [a]) .opt) (Sample.minted Sample.firstMessage 42161) ∧
    Confined Sample.recorded CrossRWA.Path.gmpId ((World.initial Sample.routers Sample.clock).run
      Sample.keccak Sample.recorded l₁) .opt a p (Sample.minted Sample.firstMessage 42161) ∧
    (CounterpartKept Sample.recorded .opt p l₁ →
      (Sample.minted Sample.firstMessage 42161).fromChainId = Side.opt.other.chainId →
      MatchesCounterpart ((World.initial Sample.routers Sample.clock).run Sample.keccak
        Sample.recorded l₁) .opt (Sample.minted Sample.firstMessage 42161)) :=
  (mints_confined Sample.keccak Sample.recorded Sample.routers_fresh
    ((Sample.delivered_follows anyDelivery trivial).mono fun _ _ h =>
      h.mono (fun _ ht => Or.inl ht) fun _ _ _ _ _ hd => hd)
    Sample.delivered_noCollision .opt).2.2 _ (by decide +kernel)

/-! ## Mints without a counterpart -/

/-- Adapters deliver from the other chain what its router handed out; what third chains' routers
    hand out is theirs. -/
def connectedAdapters : Deliveries :=
  fun w s msgSender fromChainId glacisPayload =>
    (w s).router.registry.adapterToGlacisGMPId msgSender ≠ 0 → fromChainId = s.other.chainId →
      ∃ pk ∈ (w s.other).packets, pk.payload = glacisPayload

namespace Sample

/-- The owner of the Wormhole mediator on `opt` removes its counterpart. -/
def remove : Action (CrossRWA.Path 0) :=
  .transact env (recorded.configure .opt .wh (.removeRemoteCounterpart 42161))

/-- A message of a third chain, from a contract at the address of the path's other mediator. -/
def thirdMessage : GlacisData :=
  message (recorded.mediator .arb .wh) (recorded.mediator .opt .wh)
    0xe56460da4453aeb8c040b8fda76bf78e08fa4e983a12eb35d46b57606327ca10 0

theorem remove_permitted {delivers : Deliveries} (w : World) :
    Permitted recorded (confinementAdmin recorded) delivers w remove :=
  ⟨surroundings _ _,
    Or.inl ⟨recorded.deployer_account _, Or.inr ⟨_, _, _, _, rfl, trivial⟩⟩⟩

end Sample

/-- **Mints without a matching counterpart**, honest adapters notwithstanding: of a counterpart the
    owner has removed, and from a chain that is not the counterpart's. -/
theorem unmatched_mints :
    (Machine.Follows (World.step Sample.keccak Sample.recorded)
        (Permitted Sample.recorded (confinementAdmin Sample.recorded) connectedAdapters)
        (World.initial Sample.routers Sample.clock)
        (Sample.script ++ [Sample.remove, Sample.deliver 42161 Sample.firstMessage Sample.payload]) ∧
      ((World.initial Sample.routers Sample.clock).run Sample.keccak Sample.recorded
        (Sample.script ++ [Sample.remove,
          Sample.deliver 42161 Sample.firstMessage Sample.payload]) .opt).mints =
        [Sample.minted Sample.firstMessage 42161] ∧
      ¬ MatchesCounterpart ((World.initial Sample.routers Sample.clock).run Sample.keccak
        Sample.recorded (Sample.script ++ [Sample.remove])) .opt
        (Sample.minted Sample.firstMessage 42161)) ∧
    (Machine.Follows (World.step Sample.keccak Sample.recorded)
        (Permitted Sample.recorded (confinementAdmin Sample.recorded) connectedAdapters)
        (World.initial Sample.routers Sample.clock)
        (Sample.script ++ [Sample.deliver 8453 Sample.thirdMessage Sample.payload]) ∧
      ((World.initial Sample.routers Sample.clock).run Sample.keccak Sample.recorded
        (Sample.script ++ [Sample.deliver 8453 Sample.thirdMessage Sample.payload]) .opt).mints =
        [Sample.minted Sample.thirdMessage 8453] ∧
      ¬ MatchesCounterpart ((World.initial Sample.routers Sample.clock).run Sample.keccak
        Sample.recorded Sample.script) .opt (Sample.minted Sample.thirdMessage 8453)) := by
  have hscript := Sample.script_follows (confinementAdmin Sample.recorded) connectedAdapters
    (fun _ ht => Or.inl ht) (World.initial Sample.routers Sample.clock)
  refine ⟨⟨?_, by decide +kernel, by decide +kernel⟩, ?_, by decide +kernel, by decide +kernel⟩
  · refine Machine.follows_append.mpr ⟨hscript, Sample.remove_permitted _, ?_, trivial⟩
    refine Sample.deliver_permitted fun _ _ => ?_
    -- removing a counterpart touches no packet
    show ∃ pk ∈ ((World.initial Sample.routers Sample.clock).run Sample.keccak Sample.recorded
      (Sample.script ++ [Sample.remove]) .arb).packets, _
    decide +kernel
  · refine Machine.follows_append.mpr ⟨hscript, Sample.deliver_permitted ?_, trivial⟩
    intro _ hchain
    exact absurd hchain (by decide)

end CrossRWA
