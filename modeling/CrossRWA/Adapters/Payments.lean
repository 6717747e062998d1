/-
  Where the native currency of a call goes.

  A call that sends a message brings native currency.  The router gives each packet the fee the
  caller wrote for it, the adapter of the packet pays its GMP from that, and returns the rest.

  1. `Splits`: the packets of a call are taken, and their fees add up to the value of the call.
     The router's two sending functions split their value (`route_splits`, `routeRetry_splits`),
     and so does every call of the chain that sends (`Effect.splits`).
  2. `call_spends`: with modelled adapters, what the GMPs are paid and what is returned add up to
     the value, so that none of it stays in the router, in a mediator or in an adapter.
-/
import CrossRWA.Adapters.Channel

set_option linter.unusedSectionVars false

namespace CrossRWA

open Calls

/-! ## The router's part -/

/-- The native currency that goes with a packet. -/
def Packet.value (pk : Packet) : Nat := pk.incentives.nativeCurrencyValue.toNat

/-- Packets that are all taken, and are worth `value` together. -/
structure Splits (sendMessage : Packet → Bool) (value : Nat) (packets : List Packet) : Prop where
  taken : ∀ pk ∈ packets, sendMessage pk = true
  sum_eq : (packets.map Packet.value).sum = value

namespace GlacisRouter

variable {keccak256 : Bytes → Bytes32} {r : GlacisRouter} {sendMessage : Packet → Bool}
  {chainId : Uint256} {refundAddress : Address} {adapters : List Address}
  {fees : List CrossChainGas} {packets : List Packet} {value : Nat}

/-- The dispatch loop gives every packet its own fee. -/
theorem _processRouting_fees {packed : Bytes} (hlength : adapters.length = fees.length)
    (h : r._processRouting sendMessage chainId packed refundAddress adapters fees = .ok packets) :
    packets.map Packet.incentives = fees ∧ ∀ pk ∈ packets, sendMessage pk = true := by
  induction adapters generalizing fees packets with
  | nil =>
    obtain rfl := pure_eq_ok.mp h
    obtain rfl := List.length_eq_zero_iff.mp hlength.symm
    exact ⟨rfl, fun _ hpk => absurd hpk List.not_mem_nil⟩
  | cons adapter adapters ih =>
    cases fees with
    | nil => cases h
    | cons fee fees =>
      simp only [_processRouting, bind_eq_ok, pure_eq_ok, revertIf_eq_ok] at h
      obtain ⟨_, _, _, htaken, rest, hrest, rfl⟩ := h
      obtain ⟨hfees, hall⟩ := ih (Nat.succ.inj hlength) hrest
      refine ⟨by rw [List.map_cons, hfees], fun pk hpk => ?_⟩
      rcases List.mem_cons.mp hpk with rfl | hpk
      · rwa [Bool.not_eq_false] at htaken
      · exact hall pk hpk

/-- What the check of the fees and the dispatch loop do together. -/
theorem splits {packed : Bytes} {u : Unit}
    (hfees : validateFeesInput value adapters.length fees = .ok u)
    (h : r._processRouting sendMessage chainId packed refundAddress adapters fees = .ok packets) :
    Splits sendMessage value packets := by
  simp only [validateFeesInput, bind_eq_ok, revertIf_eq_ok, not_not] at hfees
  obtain ⟨_, _, _, hlength, _, _, hsum⟩ := hfees
  obtain ⟨hmap, htaken⟩ := _processRouting_fees hlength h
  refine ⟨htaken, ?_⟩
  rw [← hsum, ← hmap, List.map_map]
  rfl

theorem route_splits {msgSender : Address} {to_ : Bytes32} {payload : Bytes} {retryable : Bool}
    {R : Routed} (h : r.route keccak256 sendMessage msgSender value chainId to_ payload adapters
      fees refundAddress retryable = .ok R) : Splits sendMessage value R.packets := by
  simp only [route, bind_eq_ok, pure_eq_ok] at h
  obtain ⟨_, hfees, _, _, packets, hpackets, rfl⟩ := h
  exact splits hfees hpackets

theorem routeRetry_splits {msgSender : Address} {to_ : Bytes32} {payload : Bytes}
    {messageId : Bytes32} {nonce : Uint256}
    (h : r.routeRetry keccak256 sendMessage msgSender value chainId to_ payload adapters fees
      refundAddress messageId nonce = .ok packets) : Splits sendMessage value packets := by
  simp only [routeRetry, bind_eq_ok] at h
  obtain ⟨_, hfees, _, _, _, _, hpackets⟩ := h
  exact splits hfees hpackets

end GlacisRouter

/-! ## The chain's part -/

/-- The calls that send a message. -/
def Call.sends : Call → Bool
  | .route .. | .routeRetry .. | .sendCrossChain .. | .sendCrossChainRetry .. => true
  | _ => false

/-- **Every call that sends splits its value over its packets.** -/
theorem Effect.splits {keccak256 : Bytes → Bytes32} {site : Site} {c c' : Chain} {env : Env}
    {msgSender : Address} {value : Nat} {call : Call} (hsends : call.sends = true)
    (h : Effect keccak256 site c env msgSender value call c') :
    Splits env.sendMessage value (c'.packets.drop c.packets.length) := by
  have hnew : ∀ packets : List Packet,
      (c.packets ++ packets).drop c.packets.length = packets := fun _ => List.drop_left
  cases h with
  | route hR => exact (hnew _).symm ▸ GlacisRouter.route_splits hR
  | sendCrossChain _ _ _ _ _ hR _ => exact (hnew _).symm ▸ GlacisRouter.route_splits hR
  | routeRetry hR => exact (hnew _).symm ▸ GlacisRouter.routeRetry_splits hR
  | sendCrossChainRetry _ hR => exact (hnew _).symm ▸ GlacisRouter.routeRetry_splits hR
  | token _ _ => cases hsends
  | mediator _ _ => cases hsends
  | router _ => cases hsends
  | mediatorReceiveMessage _ _ _ _ _ _ => cases hsends
  | receiveMessage _ _ _ => cases hsends
  | retryReceiveMessage _ _ => cases hsends

/-! ## The adapters' part -/

namespace Host

variable {keccak256 : Bytes → Bytes32} {h h' : Host} {site : Site} {env : Env} {gmp : GmpEnv}

/-- What the adapters sent for these packets. -/
def sent (h : Host) (site : Site) (gmp : GmpEnv) (packets : List Packet) : List Sent :=
  packets.filterMap fun pk =>
    match h.answer site gmp pk with
    | some (.ok s) => some s
    | _ => none

/-- A packet that a modelled adapter takes is spent. -/
theorem takes_spends {pk : Packet} (hmodelled : (h.adapters pk.adapter).isSome)
    (htakes : h.takes site env gmp pk = true) :
    ∃ s, h.answer site gmp pk = some (.ok s) ∧ s.Spends pk.value := by
  obtain ⟨A, hA⟩ := Option.isSome_iff_exists.mp hmodelled
  have hanswer : h.answer site gmp pk = some (A.sendMessage pk.adapter site.router gmp pk.value
      pk.toChainId pk.refundAddress pk.incentives pk.payload) := by
    rw [answer, hA]
    rfl
  rw [takes, hanswer] at htakes
  split at htakes
  · next heq => cases heq
  · next s heq =>
    rw [hanswer, heq]
    exact ⟨s, rfl, (Adapter.sendMessage_spec (Option.some.inj heq)).2.2.2⟩
  · cases htakes

/-- Packets that modelled adapters take are spent together. -/
theorem sent_spends {packets : List Packet}
    (hmodelled : ∀ pk ∈ packets, (h.adapters pk.adapter).isSome)
    (htaken : ∀ pk ∈ packets, h.takes site env gmp pk = true) :
    ((h.sent site gmp packets).map fun s => s.paid + s.refund).sum
      = (packets.map Packet.value).sum := by
  induction packets with
  | nil => rfl
  | cons pk packets ih =>
    obtain ⟨s, hs, hspends⟩ := takes_spends (hmodelled pk List.mem_cons_self)
      (htaken pk List.mem_cons_self)
    have hrest := ih (fun q hq => hmodelled q (List.mem_cons_of_mem _ hq))
      (fun q hq => htaken q (List.mem_cons_of_mem _ hq))
    have hcons : h.sent site gmp (pk :: packets) = s :: h.sent site gmp packets := by
      rw [sent, List.filterMap_cons, hs]
      rfl
    rw [hcons, List.map_cons, List.sum_cons, List.map_cons, List.sum_cons, hrest, hspends]

/-- **No native currency is lost.**  Whatever a call that sends brings is paid to GMPs or returned:
    none of it stays in the router, in a mediator or in an adapter. -/
theorem call_spends {msgSender : Address} {value : Nat} {call : Call} (hsends : call.sends = true)
    (hok : h.call keccak256 site env gmp msgSender value call = .ok h')
    (hmodelled : ∀ pk ∈ h'.packets.drop h.packets.length, (h.adapters pk.adapter).isSome) :
    ((h.sent site gmp (h'.packets.drop h.packets.length)).map fun s => s.paid + s.refund).sum
      = value := by
  obtain ⟨_, n, hn, rfl⟩ := call_spec hok
  have hsplits := (exec_effect (Relay.exec_eq_ok.mp hn).1).splits hsends
  rw [sent_spends hmodelled hsplits.taken]
  exact hsplits.sum_eq

end Host

namespace Sample

/-- The first call of `carried`. -/
def pays : Call := .route 10 (toBytes32 receiver) payload [3, 2]
  [⟨0, 100000000000000⟩, ⟨0, 100000000000000⟩] deployer true

theorem pays_ok : ∃ h', (hosts .arb).call keccak (topology.site .arb) adapterEnv gmpEnv
    (recorded.mediator .arb .wh) 200000000000000 pays = .ok h' ∧
    ∀ pk ∈ h'.packets, ((hosts .arb).adapters pk.adapter).isSome := by
  have hok : ((hosts .arb).call keccak (topology.site .arb) adapterEnv gmpEnv
      (recorded.mediator .arb .wh) 200000000000000 pays).toOption.any
        (fun h' => h'.packets.all fun pk => ((hosts .arb).adapters pk.adapter).isSome) = true := by
    decide +kernel
  cases hcall : (hosts .arb).call keccak (topology.site .arb) adapterEnv gmpEnv
      (recorded.mediator .arb .wh) 200000000000000 pays with
  | error e => rw [hcall] at hok; cases hok
  | ok h' =>
    rw [hcall] at hok
    exact ⟨h', rfl, List.all_eq_true.mp hok⟩

end Sample

theorem call_spends_pays : ∃ h', (Sample.hosts .arb).call Sample.keccak
    (Sample.topology.site .arb) Sample.adapterEnv Sample.gmpEnv
    (Sample.recorded.mediator .arb .wh) 200000000000000 Sample.pays = .ok h' ∧
    (((Sample.hosts .arb).sent (Sample.topology.site .arb) Sample.gmpEnv
      (h'.packets.drop (Sample.hosts .arb).packets.length)).map fun s => s.paid + s.refund).sum
      = 200000000000000 := by
  obtain ⟨h', hok, hmodelled⟩ := Sample.pays_ok
  exact ⟨h', hok, Host.call_spends rfl hok fun pk hpk => hmodelled pk (List.mem_of_mem_drop hpk)⟩

end CrossRWA
