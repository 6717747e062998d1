/-
  Path isolation — what one honest adapter guarantees when all others are adversaries.

  `mintsOf`/`transfersOf` are one path's share of a chain's mints and transfers.  Under an
  adversary that controls every adapter but one id's, and every account, the mints of the path
  that reserves this id still inject into the transfers of its other mediator: `path_isolated`.

  The router's maps, the token and its limits are shared with the adversary; what isolates the
  path is `Backed`, whose proof looks at the ONE delivery that minted, and the ids of mints, which
  are distinct whoever delivered.
-/
import CrossRWA.Provenance
import CrossRWA.Lib.OnceChannel

namespace CrossRWA

variable {Path : Type} {keccak256 : Bytes → Bytes32} {d : Deployment Path} {gmp : Path → Uint8}
  {admin : Transaction Path → Prop}

/-- The mints of a mediator. -/
def Chain.mintsOf (c : Chain) (a : Address) : List Mint :=
  c.mints.filter fun k => decide (k.mediator = a)

/-- The transfers of a mediator. -/
def Chain.transfersOf (c : Chain) (a : Address) : List Transfer :=
  c.sends.filter fun t => decide (t.message.sender = a)

/-- **Every run of a wired bridge keeps it**, whichever adapters are trusted. -/
theorem bridged_of_run {trusted : Uint8 → Prop} {router : Side → GlacisRouter} {now : Side → Nat}
    {l : List (Action Path)} (hadmin : ∀ t, admin t → t.IsCall (WiringCall d (idEntry gmp)))
    (hgmp : ∀ p, (gmp p).toNat ≤ GLACIS_RESERVED_IDS) (hrouters : FreshRouters router)
    (hl : Machine.Follows (World.step keccak256 d) (Permitted d admin (honestUnder d trusted))
      (World.initial router now) l)
    (hfree : NoCollision keccak256 ((World.initial router now).run keccak256 d l)) :
    (∀ s, Books keccak256 d s ((World.initial router now).run keccak256 d l s)) ∧
      Bridged d gmp trusted ((World.initial router now).run keccak256 d l) :=
  (world_of_run (fun _ _ _ _ hs hP hfree' hB _ hI => hI.step hs hP hadmin hB hgmp hfree') hl
    (hrouters.books now) (Bridged.initial _ _) hfree).2

/-- The mints of a trusted path inject into its other mediator's transfers. -/
theorem Bridged.injection {trusted : Uint8 → Prop} {w : World} (h : Bridged d gmp trusted w)
    (hB : ∀ s, Books keccak256 d s (w s)) (s : Side) {p : Path} (hp : trusted (gmp p)) :
    ∃ f : Fin ((w s).mintsOf (d.mediator s p)).length →
        Fin ((w s.other).transfersOf (d.mediator s.other p)).length,
      Function.Injective f ∧ ∀ i,
        ((w s).mintsOf (d.mediator s p))[i].toAddress =
            toAddress ((w s.other).transfersOf (d.mediator s.other p))[f i].to_ ∧
          ((w s).mintsOf (d.mediator s p))[i].tokenAmount =
            ((w s.other).transfersOf (d.mediator s.other p))[f i].tokenAmount := by
  have hkeys : (((w s).mintsOf (d.mediator s p)).map fun k => k.glacisData.messageId).Nodup :=
    (hB s).inbox.mints_nodup.sublist (List.filter_sublist.map _)
  refine exists_injection (fun t : Transfer => t.message.messageId)
    (fun k t => k.toAddress = toAddress t.to_ ∧ k.tokenAmount = t.tokenAmount) hkeys ?_
  intro k hk
  obtain ⟨hmem, hmed⟩ := List.mem_filter.mp hk
  obtain ⟨t, ht, hsender, hbacks⟩ := h.backed s k hmem p (of_decide_eq_true hmed) hp
  exact ⟨t, List.mem_filter.mpr ⟨ht, decide_eq_true hsender⟩, hbacks.messageId, hbacks.recipient,
    hbacks.tokenAmount⟩

/-- **Path isolation.**  With only the adapter under a path's GMP id honest — every other adapter
    delivering any bytes at any time — the path's mints on either chain inject into the successful
    `sendCrossChain` calls of its mediator on the other, recipient and amount matching; and at no
    action of the run does the supply rise but by what is noted as a mint, or by the token's
    deployment. -/
theorem path_isolated {n : Nat} (keccak256 : Bytes → Bytes32) (d : Deployment (CrossRWA.Path n))
    (p : CrossRWA.Path n) {router : Side → GlacisRouter} {now : Side → Nat}
    {l : List (Action (CrossRWA.Path n))} (hrouters : FreshRouters router)
    (hl : Machine.Follows (World.step keccak256 d)
      (Permitted d (scripted d) (honestAdapter d p.gmpId)) (World.initial router now) l)
    (hfree : NoCollision keccak256 ((World.initial router now).run keccak256 d l)) (s : Side) :
    (∃ f : Fin (((World.initial router now).run keccak256 d l s).mintsOf (d.mediator s p)).length →
        Fin (((World.initial router now).run keccak256 d l s.other).transfersOf
          (d.mediator s.other p)).length,
      Function.Injective f ∧ ∀ i,
        (((World.initial router now).run keccak256 d l s).mintsOf
              (d.mediator s p))[i].toAddress =
            toAddress (((World.initial router now).run keccak256 d l s.other).transfersOf
              (d.mediator s.other p))[f i].to_ ∧
          (((World.initial router now).run keccak256 d l s).mintsOf
              (d.mediator s p))[i].tokenAmount =
            (((World.initial router now).run keccak256 d l s.other).transfersOf
              (d.mediator s.other p))[f i].tokenAmount) ∧
    ∀ l₁ a l₂, l = l₁ ++ a :: l₂ → Moves ((World.initial router now).run keccak256 d l₁ s)
      ((World.initial router now).run keccak256 d (l₁ ++ [a]) s) := by
  obtain ⟨hB, hbridge⟩ :=
    bridged_of_run (scripted_wires d) CrossRWA.Path.gmpId_le hrouters hl hfree
  exact ⟨hbridge.injection hB s rfl, fun l₁ a l₂ hsplit =>
    moves_of_run (fun t ht => (scripted_wires d t ht).mono fun _ _ => Or.inl) hrouters hl hfree
      hsplit s⟩

/-- The Wormhole path of the script after its first delivery, with only the Wormhole adapter
    honest. -/
theorem path_isolated_wormhole :
    (∃ f : Fin (((World.initial Sample.routers Sample.clock).run Sample.keccak Sample.recorded
        (Sample.script ++ [Sample.deliver 42161 Sample.firstMessage Sample.payload]) .opt).mintsOf
          (Sample.recorded.mediator .opt .wh)).length →
        Fin (((World.initial Sample.routers Sample.clock).run Sample.keccak Sample.recorded
        (Sample.script ++ [Sample.deliver 42161 Sample.firstMessage Sample.payload]) .arb).transfersOf
          (Sample.recorded.mediator .arb .wh)).length,
      Function.Injective f ∧ ∀ i,
        (((World.initial Sample.routers Sample.clock).run Sample.keccak Sample.recorded
        (Sample.script ++ [Sample.deliver 42161 Sample.firstMessage Sample.payload]) .opt).mintsOf
            (Sample.recorded.mediator .opt .wh))[i].toAddress =
          toAddress (((World.initial Sample.routers Sample.clock).run Sample.keccak Sample.recorded
        (Sample.script ++ [Sample.deliver 42161 Sample.firstMessage Sample.payload]) .arb).transfersOf
            (Sample.recorded.mediator .arb .wh))[f i].to_ ∧
        (((World.initial Sample.routers Sample.clock).run Sample.keccak Sample.recorded
        (Sample.script ++ [Sample.deliver 42161 Sample.firstMessage Sample.payload]) .opt).mintsOf
            (Sample.recorded.mediator .opt .wh))[i].tokenAmount =
          (((World.initial Sample.routers Sample.clock).run Sample.keccak Sample.recorded
        (Sample.script ++ [Sample.deliver 42161 Sample.firstMessage Sample.payload]) .arb).transfersOf
            (Sample.recorded.mediator .arb .wh))[f i].tokenAmount) ∧
    ∀ l₁ a l₂, Sample.script ++ [Sample.deliver 42161 Sample.firstMessage Sample.payload]
        = l₁ ++ a :: l₂ →
      Moves ((World.initial Sample.routers Sample.clock).run Sample.keccak Sample.recorded l₁ .opt)
        ((World.initial Sample.routers Sample.clock).run Sample.keccak Sample.recorded
          (l₁ ++ [a]) .opt) :=
  path_isolated Sample.keccak Sample.recorded .wh Sample.routers_fresh
    (Sample.delivered_follows _ fun _ => Sample.first_honest) Sample.delivered_noCollision .opt

end CrossRWA
