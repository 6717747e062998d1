/-
  Recovery of burnt tokens — when the transfer behind a burn can still be minted.

  The source chain burns before the destination is asked, so what a wired path has to offer is a
  second chance: anyone may retry the message, and a day after the minting limit was last used
  its delivery finds the whole limit.  `Recoverable` says both, of one transfer.

  1. `retryable_of_wired`: the retry passes every check of the mediator and the router.  The router
     remembered the sender, and the message's id is a function of arguments the retry repeats.
  2. `delivery_mints`: the delivery goes through and mints, PROVIDED the recipient has an address:
     the receipt is fresh, the route is there, and by conservation the amount is within the
     limit and the supply has room.
  3. `delivery_recipient_ne_zero`: nothing is ever minted to the zero address, and nothing on the
     source chain asked.  So `recoverable_iff`: a transfer is recoverable exactly when the low 160
     bits of its recipient are not all zero; `stranded_burn` is one that is not.
-/
import CrossRWA.Conservation
import CrossRWA.ExactlyOnce
import CrossRWA.Wired

namespace CrossRWA

variable {Path : Type} {keccak256 : Bytes → Bytes32} {d : Deployment Path} {gmp : Path → Uint8}
  {w : World} {s : Side} {p : Path} {t : Transfer} {adapter : Address}

/-! ## The statement -/

/-- What the router tells a client of a message. -/
def Message.glacisData (m : Message) : GlacisData :=
  ⟨m.messageId, m.nonce, toBytes32 m.sender, m.to_⟩

/-- A retry of the transfer through its path's id, by anyone and for any fee, goes through and hands
    its message to the path's adapter. -/
def Retryable (keccak256 : Bytes → Bytes32) (d : Deployment Path) (gmp : Path → Uint8) (w : World)
    (s : Side) (p : Path) (t : Transfer) : Prop :=
  ∀ (env : Env) (msgSender : Address) (fee : CrossChainGas) (refundAddress : Address),
    (∀ packet, env.sendMessage packet = true) →
    ∃ c', (w s).exec keccak256 (d.site s) env msgSender fee.nativeCurrencyValue.toNat
        (.sendCrossChainRetry (d.mediator s p) t.message.toChainId t.to_ [idEntry gmp p] [fee]
          refundAddress t.message.messageId t.message.nonce t.tokenAmount) = .ok c' ∧
      c'.packets = (w s).packets ++ [⟨(w s).router.registry.glacisGMPIdToAdapter (gmp p),
        t.message.toChainId, refundAddress, fee, t.message.encode⟩]

/-- A time at which a day has passed since a mediator's minting limit was last updated. -/
structure DayLater (d : Deployment Path) (s : Side) (p : Path) (c : Chain) (later : Nat) : Prop where
  now_le : c.now ≤ later
  later_le : later ≤ uint256Max
  day : ∀ token, c.token = some token →
    (token.bridges (d.mediator s p)).minterParams.timestamp + DURATION ≤ later

instance {Path : Type} (d : Deployment Path) (s : Side) (p : Path) (c : Chain) (later : Nat) :
    Decidable (DayLater d s p c later) :=
  decidable_of_iff (c.now ≤ later ∧ later ≤ uint256Max ∧ c.token.all fun token =>
      decide ((token.bridges (d.mediator s p)).minterParams.timestamp + DURATION ≤ later)) <| by
    simp only [Option.all_eq_true, decide_eq_true_eq]
    exact ⟨fun ⟨h1, h2, h3⟩ => ⟨h1, h2, h3⟩, fun ⟨h1, h2, h3⟩ => ⟨h1, h2, h3⟩⟩

/-- The mint of a transfer by its counterpart. -/
def Transfer.mint (t : Transfer) (mediator : Address) (fromChainId : Uint256) : Mint :=
  ⟨mediator, t.message.glacisData, fromChainId, CrossRWA.toAddress t.to_, t.tokenAmount⟩

/-- A transfer whose message `adapter` can still deliver. -/
structure Recoverable (keccak256 : Bytes → Bytes32) (d : Deployment Path) (gmp : Path → Uint8)
    (w : World) (s : Side) (p : Path) (t : Transfer) (adapter : Address) : Prop where
  retry : Retryable keccak256 d gmp w s p t
  delivery : ∀ later, DayLater d s.other p (w s.other) later → ∀ env,
    ∃ c', ({ w s.other with now := later } : Chain).exec keccak256 (d.site s.other) env adapter 0
        (.receiveMessage s.chainId t.message.encode) = .ok c' ∧
      Credited (w s.other) c' (t.mint (d.mediator s.other p) s.chainId)

/-! ## What a transfer meets -/

/-- The one mediator that has all its settings. -/
theorem Wired.mediator {entry : Path → Address} {c : Chain} (h : Wired d entry s p c) :
    ∃ m, c.mediators (d.mediator s p) = some m ∧ m.xERC20Token = d.xerc20 s ∧
      m.allowedRoutes WILD_CHAIN (toBytes32 (d.mediator s.other p)) (entry p) = true ∧
      m.remoteCounterpart s.other.chainId = toBytes32 (d.mediator s.other p) := by
  obtain ⟨m, hm, htoken⟩ := h.token
  obtain ⟨m₁, hm₁, hroute⟩ := h.route
  obtain ⟨m₂, hm₂, hcounterpart⟩ := h.counterpart
  rw [hm] at hm₁ hm₂
  obtain rfl := Option.some.inj hm₁
  obtain rfl := Option.some.inj hm₂
  exact ⟨m, hm, htoken, hroute, hcounterpart⟩

/-- A mediator's transfer goes to its path's other mediator. -/
theorem CounterpartsOnly.of_sender {c : Chain} (h : CounterpartsOnly d s c) (ht : t ∈ c.sends)
    (hsender : t.message.sender = d.mediator s p) :
    t.message.toChainId = s.other.chainId ∧ t.message.to_ = toBytes32 (d.mediator s.other p) := by
  obtain ⟨q, hq, hchain, hto⟩ := h.sends t ht
  obtain rfl := d.mediator_inj s p q (hsender.symm.trans hq)
  exact ⟨hchain, hto⟩

/-- **A transfer not executed has left no trace** in the router it goes to. -/
theorem fresh_of_not_executed (hB : ∀ s', Books keccak256 d s' (w s'))
    (hC : CounterpartsOnly d s (w s)) (hfree : NoCollision keccak256 w) (ht : t ∈ (w s).sends)
    (hnew : ((w s.other).router.messageReceipts t.message.messageId).executed = false) :
    (w s.other).router.messageReceipts t.message.messageId = ⟨0, false⟩ ∧
      ∀ a, (w s.other).router.receivedCustomAdapterMessages t.message.messageId a = false := by
  have hnone : (w s.other).deliveriesOf t.message.messageId = [] := by
    rw [List.eq_nil_iff_forall_not_mem]
    intro e he
    obtain ⟨hmem, hid⟩ := Chain.mem_deliveriesOf.mp he
    -- a delivery under the id would have been to the mediator, and the first one executed it
    obtain ⟨_, _, hto, _⟩ := delivery_of_transfer hB hfree ht hmem hid
    obtain ⟨p, _, _, hdst⟩ := hC.sends t ht
    have hset := (hB s.other).inbox.settled e hmem ⟨p, by rw [hto, hdst, toAddress_toBytes32]⟩
    rw [hid] at hset
    exact absurd (hset.executed.symm.trans hnew) (by decide)
  constructor
  · have hcount := (hB s.other).inbox.received t.message.messageId
    rw [hnone] at hcount
    exact congr (congrArg MessageData.mk hcount) hnew
  · intro a
    cases hflag : (w s.other).router.receivedCustomAdapterMessages t.message.messageId a with
    | false => rfl
    | true => exact absurd hnone ((hB s.other).inbox.flags _ a hflag)

/-! ## The retry -/

/-- **Every transfer of a wired path is retryable.** -/
theorem retryable_of_wired (hB : Books keccak256 d s (w s)) (hC : CounterpartsOnly d s (w s))
    (hwired : Wired d (idEntry gmp) s p (w s)) (hgmp : (gmp p).toNat ≤ GLACIS_RESERVED_IDS)
    (hreg : (w s).router.registry.glacisGMPIdToAdapter (gmp p) ≠ 0) (ht : t ∈ (w s).sends)
    (hsender : t.message.sender = d.mediator s p) : Retryable keccak256 d gmp w s p t := by
  intro env msgSender fee refundAddress hsend
  obtain ⟨hchain, hto⟩ := hC.of_sender ht hsender
  obtain ⟨m, hm, _, _, hcounterpart⟩ := hwired.mediator
  have hrouted : t.message ∈ (w s).routed :=
    hB.transfers.sublist.subset (List.mem_map_of_mem ht)
  have hid : t.message.messageId = glacisMessageId keccak256 t.message.toChainId
      (w s).router.GLACIS_CHAIN_ID (m.remoteCounterpart t.message.toChainId)
      (SimpleTokenMediator.packTokenPayload t.to_ t.tokenAmount) (toBytes32 (d.mediator s p))
      t.message.nonce := by
    have hvalid : t.message.messageId = _ := hB.outbox.valid _ hrouted
    rw [hB.transfers.payload t ht, hsender, hto, ← hB.outbox.chainId_eq] at hvalid
    rw [hvalid, hchain, hcounterpart]
  have hmine : (w s).router.messageSenders t.message.messageId = d.mediator s p := by
    rw [hB.transfers.retryable t ht, hsender]
  have hretry : ∃ packets, (w s).router.routeRetry keccak256 env.sendMessage (d.mediator s p)
      fee.nativeCurrencyValue.toNat t.message.toChainId (m.remoteCounterpart t.message.toChainId)
      (SimpleTokenMediator.packTokenPayload t.to_ t.tokenAmount) [idEntry gmp p] [fee] refundAddress
      t.message.messageId t.message.nonce = .ok packets ∧
      packets = [⟨(w s).router.registry.glacisGMPIdToAdapter (gmp p), t.message.toChainId,
        refundAddress, fee, t.message.encode⟩] := by
    refine ⟨_, GlacisRouter.routeRetry_ok hsend hgmp hreg hmine hid, ?_⟩
    rw [Message.encode, hB.transfers.payload t ht, hsender, hto, hchain, hcounterpart]
  obtain ⟨packets, hok, rfl⟩ := hretry
  refine ⟨(w s).afterRetry keccak256 ⟨t.message.messageId, t.message.toChainId,
      m.remoteCounterpart t.message.toChainId,
      SimpleTokenMediator.packTokenPayload t.to_ t.tokenAmount, d.mediator s p, t.message.nonce⟩ _,
    ?_, rfl⟩
  refine Chain.exec_eq_ok.mpr ⟨(fun hp => nomatch hp), ?_⟩
  simp only [Chain.dispatch, SimpleTokenMediator.sendCrossChainRetry, Chain.routeRetry, bind_eq_ok,
    pure_eq_ok, orRevert_eq_ok, revertIf_eq_ok, not_not]
  refine ⟨_, ⟨m, hm, (), ?_, (), (hB.deployed _ _ hm).2.1, _, hok, rfl⟩, rfl⟩
  rw [hchain, hcounterpart]
  exact toBytes32_ne_zero (d.mediator_ordinary s.other p).ne_zero

/-! ## The delivery -/

/-- What the router on the other chain reads of a transfer. -/
theorem Transfers.decode {isMediator : Address → Prop} {c : Chain} (h : Transfers isMediator c)
    (ht : t ∈ c.sends) : decodeGlacisPayload t.message.encode =
      some (t.message.glacisData, SimpleTokenMediator.packTokenPayload t.to_ t.tokenAmount) := by
  rw [Message.encode, h.payload t ht]
  refine decode_encode _ ?_
  rw [SimpleTokenMediator.length_packTokenPayload]
  decide

/-- **The router executes the delivery** of a transfer that left no trace. -/
theorem received_of_wired (hB : ∀ s', Books keccak256 d s' (w s')) (hC : CounterpartsOnly d s (w s))
    (hwired : Wired d (idEntry gmp) s.other p (w s.other)) (hfree : NoCollision keccak256 w)
    (ht : t ∈ (w s).sends) (hsender : t.message.sender = d.mediator s p)
    (hnew : ((w s.other).router.messageReceipts t.message.messageId).executed = false)
    (hgmp : gmp p ≠ 0) (hadapter : (w s.other).router.registry.adapterToGlacisGMPId adapter = gmp p)
    (env : Env) :
    ∃ R, (w s.other).router.receiveMessage keccak256 ((w s.other).clientAt env) adapter s.chainId
        t.message.encode = .ok R ∧ R.glacisData = t.message.glacisData ∧
      R.payload = SimpleTokenMediator.packTokenPayload t.to_ t.tokenAmount ∧ R.executed = true := by
  obtain ⟨m, hm, _, hroute, _⟩ := hwired.mediator
  obtain ⟨hchain, hto⟩ := hC.of_sender ht hsender
  obtain ⟨hreceipt, hflags⟩ := fresh_of_not_executed hB hC hfree ht hnew
  have hquorum := ((hB s.other).deployed _ _ hm).2.2
  have hclient : (w s.other).clientAt env (toAddress t.message.glacisData.originalTo) = m.client := by
    show (w s.other).clientAt env (toAddress t.message.to_) = _
    rw [hto, toAddress_toBytes32, Chain.clientAt, hm]
  have hrouted : t.message ∈ (w s).routed :=
    (hB s).transfers.sublist.subset (List.mem_map_of_mem ht)
  have hid : t.message.messageId = glacisMessageId keccak256 (w s.other).router.GLACIS_CHAIN_ID
      s.chainId t.message.to_ (SimpleTokenMediator.packTokenPayload t.to_ t.tokenAmount)
      (toBytes32 t.message.sender) t.message.nonce := by
    have hvalid : t.message.messageId = _ := (hB s).outbox.valid _ hrouted
    rw [(hB s).transfers.payload t ht, hchain] at hvalid
    rw [(hB s.other).outbox.chainId_eq]
    exact hvalid
  have hown : ((w s.other).clientAt env (toAddress t.message.glacisData.originalTo)).isAllowedRoute
      ⟨s.chainId, t.message.glacisData.originalFrom, adapter⟩
      (SimpleTokenMediator.packTokenPayload t.to_ t.tokenAmount) = .ok (m.allowedRoutes.isAllowedRoute
        ⟨s.chainId, t.message.glacisData.originalFrom, adapter⟩) := by
    rw [hclient]; rfl
  refine GlacisRouter.receiveMessage_ok ((hB s).transfers.decode ht) (hadapter ▸ hgmp) hown ?_ ?_
    hreceipt (hflags adapter) hid
  · -- the id of the path's adapter is the entry of the path's route
    rw [hclient, hadapter]
    show Except.ok (m.allowedRoutes.isAllowedRoute ⟨s.chainId, toBytes32 t.message.sender, _⟩) = _
    rw [Side.other_other] at hroute
    rw [hsender]
    exact congrArg Except.ok (AllowedRoutes.isAllowedRoute_of_entry hroute _)
  · rw [hclient]
    exact congrArg Except.ok hquorum

/-- **A day later a mediator can mint** what is within its limit and fits the supply. -/
theorem TokenOk.mint_of_day {token : XERC20} {later amount : Nat} {user : Address}
    (h : TokenOk d s token) (hlimit : (token.bridges (d.mediator s p)).minterParams.maxLimit = LIMIT)
    (hday : (token.bridges (d.mediator s p)).minterParams.timestamp + DURATION ≤ later)
    (hlater : later ≤ uint256Max) (hamount : amount ≤ LIMIT)
    (hsupply : token.totalSupply + amount ≤ uint256Max) (huser : user ≠ 0) :
    ∃ token', token.mint later (d.mediator s p) user amount = .ok token' ∧
      token'.totalSupply = token.totalSupply + amount ∧
      token'.balances = Function.update token.balances user (token.balances user + amount) := by
  have hbox : d.mediator s p ≠ token.lockbox := by
    rw [h.lockbox]; exact (d.mediator_ordinary s p).ne_zero
  have hfull : token.mintingCurrentLimitOf later (d.mediator s p) = .ok LIMIT := by
    rw [← hlimit]; exact BridgeParameters.currentLimitAt_of_day hday hlater
  obtain ⟨token', hmint⟩ := XERC20.mint_ok hbox hfull hamount huser hsupply
  obtain ⟨_, _, hfunds⟩ := XERC20.mint_funds hmint h.solvent
  exact ⟨token', hmint, hfunds⟩

/-- **The delivery of a transfer mints it**, a day after the limit was last used, if the recipient
    has an address. -/
theorem delivery_mints (hB : ∀ s', Books keccak256 d s' (w s')) (hC : CounterpartsOnly d s (w s))
    (hwired : Wired d (idEntry gmp) s.other p (w s.other))
    (htoken : TokenSide d s.other (w s.other)) (hfree : NoCollision keccak256 w)
    (ht : t ∈ (w s).sends) (hsender : t.message.sender = d.mediator s p)
    (hnew : ((w s.other).router.messageReceipts t.message.messageId).executed = false)
    (hgmp : gmp p ≠ 0) (hadapter : (w s.other).router.registry.adapterToGlacisGMPId adapter = gmp p)
    (hamount : t.tokenAmount.toNat ≤ LIMIT)
    (hsupply : (w s.other).supply + t.tokenAmount.toNat ≤ uint256Max) (hzero : toAddress t.to_ ≠ 0)
    {later : Nat} (hday : DayLater d s.other p (w s.other) later) (env : Env) :
    ∃ c', ({ w s.other with now := later } : Chain).exec keccak256 (d.site s.other) env adapter 0
        (.receiveMessage s.chainId t.message.encode) = .ok c' ∧
      Credited (w s.other) c' (t.mint (d.mediator s.other p) s.chainId) := by
  obtain ⟨R, hR, hdata, hpayload, hex⟩ :=
    received_of_wired hB hC hwired hfree ht hsender hnew hgmp hadapter env
  obtain ⟨m, hm, hxerc20, _, _⟩ := hwired.mediator
  obtain ⟨token, htok, hlimit⟩ := hwired.limits
  rw [Chain.supply_of_token htok] at hsupply
  obtain ⟨token', hmint, hfunds⟩ := (htoken token htok).mint_of_day hlimit (hday.day token htok)
    hday.later_le hamount hsupply hzero
  have hclient : toAddress R.glacisData.originalTo = d.mediator s.other p := by
    rw [hdata, Message.glacisData, (hC.of_sender ht hsender).2, toAddress_toBytes32]
  let c : Chain := ({ w s.other with now := later } : Chain).afterReceive keccak256 adapter s.chainId R
  let c' : Chain := { c with
    token := some token'
    mints := c.mints ++ [⟨toAddress R.glacisData.originalTo, R.glacisData, s.chainId,
      toAddress t.to_, t.tokenAmount⟩] }
  have hcall : Chain.executeClient (d.site s.other) c env R s.chainId = .ok c' := by
    refine executeClient_mint (m := m) (t := token) ?_ ((hB s.other).deployed _ _ hm).2.1 ?_ hxerc20
      htok ?_
    · rw [hclient]; exact hm
    · rw [hpayload]; exact SimpleTokenMediator.decode_packTokenPayload _ _
    · rw [hclient]; exact hmint
  have hexec : ({ w s.other with now := later } : Chain).exec keccak256 (d.site s.other) env adapter
      0 (.receiveMessage s.chainId t.message.encode) = .ok c' := by
    refine Chain.exec_eq_ok.mpr ⟨fun _ => rfl, ?_⟩
    simp only [Chain.dispatch, Chain.receiveMessage, bind_eq_ok]
    refine ⟨R, hR, ?_⟩
    rw [if_pos hex]
    exact hcall
  refine ⟨c', hexec, ?_, token, token', htok, rfl, hfunds⟩
  show (w s.other).mints ++ [_] = _
  rw [hclient, hdata]
  rfl

/-- **A delivery mints nothing to the zero address.** -/
theorem delivery_recipient_ne_zero {site : Site} {c c' : Chain} {env : Env} {value : Nat}
    {fromChainId : Uint256} {glacisPayload : Bytes} {k : Mint}
    (h : c.exec keccak256 site env adapter value (.receiveMessage fromChainId glacisPayload) = .ok c')
    (hk : c'.mints = c.mints ++ [k]) : k.toAddress ≠ 0 := by
  intro hzero
  have hquiet : c'.mints ≠ c.mints := by rw [hk]; simp
  cases exec_effect h with
  | @receiveMessage _ _ R _ _ hskip hexec =>
    cases hex : R.executed with
    | false => rw [hskip hex] at hquiet; exact hquiet rfl
    | true =>
      cases hexec hex with
      | external _ => exact hquiet rfl
      | mint _ _ _ _ _ hmint =>
        have hlast := List.singleton_inj.mp (List.append_cancel_left hk)
        rw [show toAddress _ = k.toAddress from congrArg Mint.toAddress hlast, hzero] at hmint
        exact XERC20.mint_zero_address _ _ _ _ _ hmint

/-- **What can be recovered has a recipient**, as long as there is a time to deliver it. -/
theorem Recoverable.recipient_ne_zero (h : Recoverable keccak256 d gmp w s p t adapter) {later : Nat}
    (hday : DayLater d s.other p (w s.other) later) : toAddress t.to_ ≠ 0 := by
  obtain ⟨c', hexec, hcredited⟩ := h.delivery later hday
    ⟨fun _ => true, fun _ => Client.noCode, fun _ => true⟩
  exact delivery_recipient_ne_zero hexec hcredited.mints

/-! ## Recovery -/

theorem Chain.issued_le (c : Chain) : c.issued ≤ ether := by
  unfold Chain.issued
  split
  · exact Nat.le_refl _
  · exact Nat.zero_le _

/-- What is in flight fits: with the supply it goes to, it is within what was issued. -/
theorem room_of_pending (hconserved : (w .opt).supply + (w .arb).supply + w.inFlight =
    (w .opt).issued + (w .arb).issued) (ht : t ∈ w.pending s) :
    (w s.other).supply + t.tokenAmount.toNat ≤ 2 * ether := by
  have hin : t ∈ w.pending .opt ++ w.pending .arb := by
    cases s
    · exact List.mem_append_left _ ht
    · exact List.mem_append_right _ ht
  have hle : t.tokenAmount.toNat ≤ w.inFlight :=
    List.le_sum_of_mem (List.mem_map_of_mem hin)
  have hopt := (w .opt).issued_le
  have harb := (w .arb).issued_le
  cases s <;> simp only [Side.other] <;> omega

/-- **Which burns can be recovered.**  In every state the scripts, accounts and honest adapters can
    reach once a path is wired, a transfer of the path that is not executed can be retried
    and delivered exactly when the low 160 bits of its recipient are an address one can mint to. -/
theorem recoverable_iff {n : Nat} (keccak256 : Bytes → Bytes32) (d : Deployment (CrossRWA.Path n))
    {router : Side → GlacisRouter} {now : Side → Nat} {l : List (Action (CrossRWA.Path n))}
    (hrouters : FreshRouters router)
    (hl : Machine.Follows (World.step keccak256 d) (Permitted d (scripted d) (honestAdapters d))
      (World.initial router now) l)
    (hfree : NoCollision keccak256 ((World.initial router now).run keccak256 d l))
    {p : CrossRWA.Path n} (hwiring : (p.wiring d).Sublist (l.filterMap Action.transaction))
    {s : Side} {t : Transfer} (ht : t ∈ ((World.initial router now).run keccak256 d l s).sends)
    (hsender : t.message.sender = d.mediator s p)
    (hnew : (((World.initial router now).run keccak256 d l s.other).router.messageReceipts
      t.message.messageId).executed = false)
    (hregistered : ((World.initial router now).run keccak256 d l
      s).router.registry.glacisGMPIdToAdapter p.gmpId ≠ 0)
    {adapter : Address} (hadapter : ((World.initial router now).run keccak256 d l
      s.other).router.registry.adapterToGlacisGMPId adapter = p.gmpId)
    (hday : ∃ later, DayLater d s.other p ((World.initial router now).run keccak256 d l s.other) later) :
    Recoverable keccak256 d CrossRWA.Path.gmpId ((World.initial router now).run keccak256 d l) s p t
      adapter ↔ toAddress t.to_ ≠ 0 := by
  obtain ⟨hB, hbridge, A, hrun, hA⟩ := refines_of_run (scripted_wires d) CrossRWA.Path.gmpId_le
    CrossRWA.Path.gmpId_ne_zero hrouters hl hfree
  have hwired := wired_of_run hrouters hl hfree hwiring
  have hC := hbridge.counterparts s
  constructor
  · intro hrec
    obtain ⟨later, hlater⟩ := hday
    exact hrec.recipient_ne_zero hlater
  · intro hzero
    -- the transfer is in flight, so its amount is backed by what was issued
    have hpending : t ∈ ((World.initial router now).run keccak256 d l).pending s :=
      List.mem_filter.mpr ⟨ht, by rw [hnew]; rfl⟩
    have hroom := room_of_pending (hA.conserved hrun hB hbridge.counterparts hfree) hpending
    have hlimit : 2 * ether ≤ LIMIT := by decide
    have hmax : 2 * ether ≤ uint256Max := by decide
    refine ⟨retryable_of_wired (hB s) hC (hwired s) (CrossRWA.Path.gmpId_le p) hregistered ht hsender,
      fun later hlater env => ?_⟩
    exact delivery_mints hB hC (hwired s.other) (hbridge.tokens s.other) hfree ht hsender hnew
      (CrossRWA.Path.gmpId_ne_zero p) hadapter (by omega) (by omega) hzero hlater env

namespace Sample

/-- A transfer of `1 ether / 10` from `arb` to `opt` over the Wormhole path. -/
def transfer (messageId : Bytes32) (nonce : Uint256) (to_ : Bytes32) : Transfer :=
  ⟨⟨messageId, 10, toBytes32 (recorded.mediator .opt .wh),
    SimpleTokenMediator.packTokenPayload to_ (BitVec.ofNat 256 (ether / 10)),
    recorded.mediator .arb .wh, nonce⟩, to_, BitVec.ofNat 256 (ether / 10)⟩

/-- The script's first transfer, to the deployer. -/
def firstTransfer : Transfer :=
  transfer 0x8f2041635195fd6267265a81eaecb472e82b66134a3262f0be1c17dd9a41668d 0 (toBytes32 deployer)

/-- A transfer to the zero address. -/
def strandedTransfer : Transfer :=
  transfer 0x00c36451f63b34f134cb9232d9fe79b194ea93eb2b9e15e15e0601b55e1e6766 2 0

/-- The deployer approves the Wormhole mediator on `arb` and sends to the zero address. -/
def strand : List (Action (CrossRWA.Path 0)) :=
  [ .transact env (recorded.tokenCall .arb (.approve (recorded.mediator .arb .wh) (ether / 10))),
    .transact env (.call .arb deployer 100000000000000 (.sendCrossChain (recorded.mediator .arb .wh)
      10 0 [3] [⟨0, 100000000000000⟩] deployer (BitVec.ofNat 256 (ether / 10)))) ]

theorem strand_follows (delivers : Deliveries) :
    Machine.Follows (World.step keccak recorded) (Permitted recorded (scripted recorded) delivers)
      (World.initial routers clock) (script ++ strand) := by
  have hdeployer := recorded.deployer_account .arb
  refine Machine.follows_append.mpr ⟨script_follows _ _ (fun _ ht => ht) _, ?_, ?_, trivial⟩
  · exact ⟨surroundings _ _, Or.inr ⟨hdeployer, rfl, fun _ _ h => nomatch h⟩⟩
  · exact ⟨surroundings _ _, Or.inr ⟨hdeployer, rfl, fun _ _ h => nomatch h⟩⟩

/-- The transactions of a list of actions made from them. -/
theorem transactions_script : script.filterMap Action.transaction =
    SimulateDeployMultiXERC20.run recorded := by
  rw [script, List.filterMap_map]
  exact List.filterMap_some

end Sample

/-- The script's first transfer, not yet delivered, is recoverable. -/
theorem recoverable_iff_first :
    Recoverable Sample.keccak Sample.recorded CrossRWA.Path.gmpId
      ((World.initial Sample.routers Sample.clock).run Sample.keccak Sample.recorded Sample.script)
      .arb .wh Sample.firstTransfer (Sample.adapter 3) ↔ toAddress Sample.firstTransfer.to_ ≠ 0 :=
  recoverable_iff Sample.keccak Sample.recorded Sample.routers_fresh
    (Sample.script_follows _ _ (fun _ ht => ht) _) (by decide +kernel)
    (by rw [Sample.transactions_script]; exact List.sublist_append_left _ _) (by decide +kernel) rfl
    (by decide +kernel) (by decide +kernel) (by decide +kernel)
    ⟨1722500000 + DURATION, by decide +kernel⟩

/-- **A stranded burn.**  The source mediator burns for a transfer to the zero address, which no
    delivery can mint. -/
theorem stranded_burn :
    Machine.Follows (World.step Sample.keccak Sample.recorded)
      (Permitted Sample.recorded (scripted Sample.recorded) (honestAdapters Sample.recorded))
      (World.initial Sample.routers Sample.clock) (Sample.script ++ Sample.strand) ∧
    NoCollision Sample.keccak ((World.initial Sample.routers Sample.clock).run Sample.keccak
      Sample.recorded (Sample.script ++ Sample.strand)) ∧
    Sample.strandedTransfer ∈ ((World.initial Sample.routers Sample.clock).run Sample.keccak
      Sample.recorded (Sample.script ++ Sample.strand) .arb).sends ∧
    (((World.initial Sample.routers Sample.clock).run Sample.keccak Sample.recorded
      (Sample.script ++ Sample.strand) .opt).router.messageReceipts
        Sample.strandedTransfer.message.messageId).executed = false ∧
    DayLater Sample.recorded .opt .wh ((World.initial Sample.routers Sample.clock).run Sample.keccak
      Sample.recorded (Sample.script ++ Sample.strand) .opt) (1722500000 + DURATION) ∧
    ¬ Recoverable Sample.keccak Sample.recorded CrossRWA.Path.gmpId
      ((World.initial Sample.routers Sample.clock).run Sample.keccak Sample.recorded
        (Sample.script ++ Sample.strand)) .arb .wh Sample.strandedTransfer (Sample.adapter 3) := by
  have hday : DayLater Sample.recorded .opt .wh ((World.initial Sample.routers Sample.clock).run
      Sample.keccak Sample.recorded (Sample.script ++ Sample.strand) .opt) (1722500000 + DURATION) := by
    decide +kernel
  refine ⟨Sample.strand_follows _, by decide +kernel, by decide +kernel, by decide +kernel, hday, ?_⟩
  intro hrec
  exact hrec.recipient_ne_zero hday (by decide)

end CrossRWA
