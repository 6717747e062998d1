/-
  What the note of a mint says of the token.

  `Chain.mints` is an observation; the token's supply and balances are the contract's state.  This
  file ties the two, in every run, whoever calls what:

  1. `Credited`: a mint more in the notes, and the token has credited exactly its amount to exactly
     its recipient.
  2. `Effect.accounted`: a call is such a mint, or notes none; and then no message it brought to a
     client has moved the token (`Accounted`).
  3. `accounted_of_run`, `credited_of_mem`: so it is at every action of every run, and every mint
     noted has its moment.

  All of it rests on the token being solvent, which no call ever changes (`solvent_of_run`).
-/
import CrossRWA.World

namespace CrossRWA

/-- A mint of a mediator: it is noted, and the token has what the note says. -/
structure Credited (c c' : Chain) (k : Mint) : Prop where
  mints : c'.mints = c.mints ++ [k]
  token : ∃ t t', c.token = some t ∧ c'.token = some t' ∧
    t'.totalSupply = t.totalSupply + k.tokenAmount.toNat ∧
    t'.balances = Function.update t.balances k.toAddress
      (t.balances k.toAddress + k.tokenAmount.toNat)

/-- The calls that bring a message to a client. -/
def Call.bringsMessage : Call → Bool
  | .receiveMessage .. | .retryReceiveMessage .. | .mediatorReceiveMessage .. => true
  | _ => false

/-- The token of a chain, once there is one, is solvent. -/
def Chain.Solvent (c : Chain) : Prop := ∀ t, c.token = some t → t.Solvent

section Calls

variable {keccak256 : Bytes → Bytes32} {site : Site} {c c' : Chain} {env : Env}
  {msgSender : Address} {value : Nat} {call : Call}

/-! ## One call -/

/-- The client call of a message credits a mint, or leaves token and notes. -/
theorem Executed.credited {R : GlacisRouter.Received} {fromChainId : Uint256}
    (h : Executed site c R fromChainId c') (hc : c.Solvent) :
    (∃ k, Credited c c' k) ∨ c'.mints = c.mints ∧ c'.token = c.token := by
  cases h with
  | external _ => exact Or.inr ⟨rfl, rfl⟩
  | mint _ _ _ _ ht hmint =>
    obtain ⟨_, _, hsupply, hbalances⟩ := XERC20.mint_funds hmint (hc _ ht)
    exact Or.inl ⟨_, rfl, _, _, ht, rfl, hsupply, hbalances⟩

/-- **A call credits a mint, or notes none**; and then a message it brought moved no token. -/
theorem Effect.accounted (h : Effect keccak256 site c env msgSender value call c')
    (hc : c.Solvent) : (∃ k, Credited c c' k) ∨
      c'.mints = c.mints ∧ (call.bringsMessage = true → c'.token = c.token) := by
  cases h with
  | token _ _ => exact Or.inr ⟨rfl, fun hcall => nomatch hcall⟩
  | mediator _ _ => exact Or.inr ⟨rfl, fun hcall => nomatch hcall⟩
  | router _ => exact Or.inr ⟨rfl, fun hcall => nomatch hcall⟩
  | route _ => exact Or.inr ⟨rfl, fun hcall => nomatch hcall⟩
  | sendCrossChain _ _ _ _ _ _ _ => exact Or.inr ⟨rfl, fun hcall => nomatch hcall⟩
  | routeRetry _ => exact Or.inr ⟨rfl, fun hcall => nomatch hcall⟩
  | sendCrossChainRetry _ _ => exact Or.inr ⟨rfl, fun hcall => nomatch hcall⟩
  | mediatorReceiveMessage _ _ _ _ ht hmint =>
    obtain ⟨_, _, hsupply, hbalances⟩ := XERC20.mint_funds hmint (hc _ ht)
    exact Or.inl ⟨_, rfl, _, _, ht, rfl, hsupply, hbalances⟩
  | @receiveMessage fromChainId _ R _ _ hskip hexec =>
    have hc₁ : (c.afterReceive keccak256 msgSender fromChainId R).Solvent := hc
    cases hex : R.executed with
    | false => rw [hskip hex]; exact Or.inr ⟨rfl, fun _ => rfl⟩
    | true =>
      rcases (hexec hex).credited hc₁ with ⟨k, hmints, htoken⟩ | ⟨hmints, htoken⟩
      · exact Or.inl ⟨k, hmints, htoken⟩
      · exact Or.inr ⟨hmints, fun _ => htoken⟩
  | @retryReceiveMessage fromChainId _ R _ _ hexec =>
    have hc₁ : (c.afterRetryReceive keccak256 fromChainId R).Solvent := hc
    rcases hexec.credited hc₁ with ⟨k, hmints, htoken⟩ | ⟨hmints, htoken⟩
    · exact Or.inl ⟨k, hmints, htoken⟩
    · exact Or.inr ⟨hmints, fun _ => htoken⟩

theorem Executed.solvent {R : GlacisRouter.Received} {fromChainId : Uint256}
    (h : Executed site c R fromChainId c') (hc : c.Solvent) : c'.Solvent := by
  cases h with
  | external _ => exact hc
  | mint _ _ _ _ ht hmint =>
    obtain ⟨_, hsol, _⟩ := XERC20.mint_funds hmint (hc _ ht)
    exact fun x hx => Option.some.inj hx ▸ hsol

/-- **Every call keeps the token solvent**, whoever makes it. -/
theorem Effect.solvent (h : Effect keccak256 site c env msgSender value call c')
    (hc : c.Solvent) : c'.Solvent := by
  cases h with
  | token ht hexec =>
    obtain ⟨hsol, _⟩ := XERC20.exec_moves hexec (hc _ ht)
    exact fun x hx => Option.some.inj hx ▸ hsol
  | sendCrossChain _ _ _ ht hburn _ _ =>
    obtain ⟨_, hsol, _⟩ := XERC20.burn_funds hburn (hc _ ht)
    exact fun x hx => Option.some.inj hx ▸ hsol
  | mediatorReceiveMessage _ _ _ _ ht hmint =>
    obtain ⟨_, hsol, _⟩ := XERC20.mint_funds hmint (hc _ ht)
    exact fun x hx => Option.some.inj hx ▸ hsol
  | @receiveMessage fromChainId _ R _ _ hskip hexec =>
    have hc₁ : (c.afterReceive keccak256 msgSender fromChainId R).Solvent := hc
    cases hex : R.executed with
    | false => rw [hskip hex]; exact hc₁
    | true => exact (hexec hex).solvent hc₁
  | @retryReceiveMessage fromChainId _ R _ _ hexec =>
    have hc₁ : (c.afterRetryReceive keccak256 fromChainId R).Solvent := hc
    exact hexec.solvent hc₁
  | mediator _ _ => exact hc
  | router _ => exact hc
  | route _ => exact hc
  | routeRetry _ => exact hc
  | sendCrossChainRetry _ _ => exact hc

end Calls

/-! ## Runs -/

section Runs

variable {Path : Type} {keccak256 : Bytes → Bytes32} {d : Deployment Path} {s : Side}
  {c c' : Chain} {w w' : World} {a : Action Path} {l : List (Action Path)}
  {router : Side → GlacisRouter} {now : Side → Nat}

/-- What an action does to the notes of mints and to the token: it credits a mint, or notes none; and
    then a message it brought to a client of this chain moved no token. -/
def Accounted (s : Side) (a : Action Path) (c c' : Chain) : Prop :=
  (∃ k, Credited c c' k) ∨ c'.mints = c.mints ∧ ∀ env msgSender value call,
    a = .transact env (.call s msgSender value call) → call.bringsMessage = true →
      c'.token = c.token

/-- A mint more in the notes is the one credited. -/
theorem Accounted.credited (h : Accounted s a c c') {k : Mint} (hnot : k ∉ c.mints)
    (hin : k ∈ c'.mints) : Credited c c' k := by
  rcases h with ⟨k', hk'⟩ | ⟨hmints, _⟩
  · rw [hk'.mints] at hin
    rcases List.mem_append.mp hin with hold | hnew
    · exact absurd hold hnot
    · obtain rfl := List.mem_singleton.mp hnew
      exact hk'
  · rw [hmints] at hin
    exact absurd hin hnot

theorem ChainStep.accounted (hs : ChainStep keccak256 d s c a c') (hc : c.Solvent) :
    Accounted s a c c' := by
  cases hs with
  | deployXERC20 _ _ => exact Or.inr ⟨rfl, fun _ _ _ _ heq => nomatch heq⟩
  | deployMediator _ _ => exact Or.inr ⟨rfl, fun _ _ _ _ heq => nomatch heq⟩
  | tick _ => exact Or.inr ⟨rfl, fun _ _ _ _ heq => nomatch heq⟩
  | call he =>
    rcases he.accounted hc with hk | ⟨hmints, htoken⟩
    · exact Or.inl hk
    · refine Or.inr ⟨hmints, fun _ _ _ _ heq hcall => htoken ?_⟩
      cases heq
      exact hcall

theorem ChainStep.solvent (hs : ChainStep keccak256 d s c a c') (hc : c.Solvent) : c'.Solvent := by
  cases hs with
  | deployXERC20 _ ht =>
    have hsol := (BasicXERC20Sample.constructor_spec ht).1
    exact fun x hx => Option.some.inj hx ▸ hsol
  | deployMediator _ _ => exact hc
  | tick _ => exact hc
  | call he => exact he.solvent hc

/-- **The tokens are always solvent.** -/
theorem solvent_of_run (s : Side) : ((World.initial router now).run keccak256 d l s).Solvent := by
  have hfollows : Machine.Follows (World.step keccak256 d) (fun _ _ => True)
      (World.initial router now) l := Machine.follows_of_forall (fun _ _ _ => trivial) _
  refine (hfollows.with_invariant (I := fun w => ∀ s, (w s).Solvent) ?_ ?_).2 s
  · intro w a w' hok _ hI s
    rcases World.step_at hok s with heq | hs
    · rw [heq]; exact hI s
    · exact hs.solvent (hI s)
  · exact fun _ _ ht => nomatch ht

/-- An action is accounted for on both chains, also one that reverts. -/
theorem World.accounted (hw : (w s).Solvent) (a : Action Path) :
    Accounted s a (w s) (Machine.apply (World.step keccak256 d) w a s) := by
  rcases Machine.apply_cases (World.step keccak256 d) w a with hok | heq
  · rcases World.step_at hok s with heq | hs
    · rw [heq]; exact Or.inr ⟨rfl, fun _ _ _ _ _ _ => rfl⟩
    · exact hs.accounted hw
  · rw [heq]; exact Or.inr ⟨rfl, fun _ _ _ _ _ _ => rfl⟩

/-- A run's last action. -/
theorem World.run_concat (w : World) (l : List (Action Path)) (a : Action Path) :
    w.run keccak256 d (l ++ [a]) =
      Machine.apply (World.step keccak256 d) (w.run keccak256 d l) a := Machine.run_append w l [a]

/-- **Every action of every run is accounted for.** -/
theorem accounted_of_run (l : List (Action Path)) (a : Action Path) (s : Side) :
    Accounted s a ((World.initial router now).run keccak256 d l s)
      ((World.initial router now).run keccak256 d (l ++ [a]) s) := by
  rw [World.run_concat]
  exact World.accounted (solvent_of_run s) a

/-- **Every mint noted has its moment**: an action of the run by which the token credited it. -/
theorem credited_of_mem {k : Mint}
    (hk : k ∈ ((World.initial router now).run keccak256 d l s).mints) :
    ∃ l₁ a l₂, l = l₁ ++ a :: l₂ ∧ Credited ((World.initial router now).run keccak256 d l₁ s)
      ((World.initial router now).run keccak256 d (l₁ ++ [a]) s) k := by
  have hnone : k ∉ (World.initial router now s).mints := fun h => nomatch h
  obtain ⟨l₁, a, l₂, rfl, hnot, _, hin⟩ :=
    Machine.exists_first (R := fun w : World => k ∈ (w s).mints) hnone hk
  have hin : k ∈ ((World.initial router now).run keccak256 d (l₁ ++ [a]) s).mints := by
    rw [World.run_concat]
    exact hin
  exact ⟨l₁, a, l₂, rfl, (accounted_of_run l₁ a s).credited hnot hin⟩

end Runs

end CrossRWA
