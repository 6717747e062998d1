/-
  Exactly-once messages through real adapters.

  1. `HostGuarded` is what is asked of a run: clients with more votes than faulty adapters, and for
     the honest adapters a GMP that forges nothing and an owner who writes nothing false.
  2. `HostNetwork.simulates`: such a run, seen without the adapters, is a run with guarded clients.
     Each step is one step of the bare chains or none.
  3. `adapters_channel`: what is executed at guarded clients was routed, and is executed once.
-/
import CrossRWA.Adapters.HostNetwork

set_option linter.unusedSectionVars false

namespace CrossRWA

open Calls

variable {ι : Type} [DecidableEq ι] {keccak256 : Bytes → Bytes32} {T : Topology ι} {M : Atlas ι}
  {w w' : HostNetwork ι} {i : ι} {h : Host}

/-! ## Guarded runs -/

/-- A guarded client admits honest adapters, and those it counts as faulty. -/
def Guard.Trusts (G : Guard ι) (M : Atlas ι) (i : ι) (n : Relay) (env : Env) : Prop :=
  ∀ a, (∀ g, ¬ M.honest g i a) → ∀ fromChainId data payload, G.guarded i data.client = true →
    n.router._routeAllowed (n.clientAt env data.client) a fromChainId data payload = .ok true →
    a ∈ G.faulty i data.client

namespace HostNetwork

/-- A step happens on one chain, and forgets nothing that was hashed. -/
theorem step_cases {a : HostAction ι} (hok : w.step keccak256 T a = .ok w') :
    ∃ i h, w' = Function.update w i h ∧ (w i).hashed ⊆ h.hashed ∧ (w i).payloads ⊆ h.payloads := by
  cases a with
  | call i env gmp msgSender value call =>
    simp only [step, seq_eq_ok, ret_eq_ok] at hok
    obtain ⟨h, hh, rfl⟩ := hok
    obtain ⟨_, n, hn, rfl⟩ := Host.call_spec hh
    exact ⟨i, _, rfl, (exec_effect (Relay.exec_eq_ok.mp hn).1).hashed_subset,
      List.Subset.refl _⟩
  | adapter i env gmp msgSender self call =>
    simp only [step, seq_eq_ok, ret_eq_ok] at hok
    obtain ⟨h, hh, rfl⟩ := hok
    obtain ⟨A, A', result, _, hexec, rfl⟩ := Host.adapterCall_spec hh
    refine ⟨i, _, rfl, ?_, List.subset_append_left _ _⟩
    cases result with
    | none => exact List.Subset.refl _
    | some n =>
      obtain ⟨R, hR⟩ := Adapter.exec_router hexec rfl
      exact (exec_effect (Relay.exec_eq_ok.mp (Host.deliver_eq_ok hR).2).1).hashed_subset
  | gmp i sender call =>
    simp only [step, seq_eq_ok, ret_eq_ok] at hok
    obtain ⟨h, hh, rfl⟩ := hok
    obtain ⟨_, rfl⟩ := Host.gmpCall_spec hh
    exact ⟨i, _, rfl, List.Subset.refl _, List.Subset.refl _⟩
  | tick i seconds =>
    simp only [step, seq_eq_ok, ret_eq_ok] at hok
    obtain ⟨_, _, rfl⟩ := hok
    exact ⟨i, _, rfl, List.Subset.refl _, List.Subset.refl _⟩

theorem NoCollision.of_step {a : HostAction ι} (hok : w.step keccak256 T a = .ok w')
    (hw' : w'.NoCollision keccak256) : w.NoCollision keccak256 := by
  obtain ⟨i, h, rfl, hhashed, hpayloads⟩ := step_cases hok
  have hrelays := hw'.relays
  rw [relays_update] at hrelays
  constructor
  · intro j k
    have hsub := Network.update_subset (w := w.relays) (fun n => n.hashed) hhashed
    refine (hrelays j k).mono (List.append_subset.mpr ⟨?_, ?_⟩)
    · exact List.Subset.trans (hsub j) (List.subset_append_left _ _)
    · exact List.Subset.trans (hsub k) (List.subset_append_right _ _)
  · intro j
    have hj := hw'.payloads j
    by_cases heq : j = i
    · subst heq
      rw [Function.update_self] at hj
      exact hj.mono hpayloads
    · rwa [Function.update_of_ne heq] at hj

end HostNetwork

namespace Sample

/-- Wormhole's and Axelar's names for the two chains. -/
def wormholeChain : Side → Uint16
  | .arb => 23
  | .opt => 24

def axelarChain : Side → Bytes
  | .arb => "arbitrum".toUTF8.toList
  | .opt => "optimism".toUTF8.toList

/-- The tables of an adapter that stands at one address on both chains. -/
def tables {C : Type} [Inhabited C] [DecidableEq C] (s : Side) (gmpId : Uint8) (chain : Side → C) :
    GlacisAbstractAdapter C where
  owner := deployer
  pendingOwner := 0
  GLACIS_ROUTER := s.router
  remoteCounterpart := fun c => if c = 42161 ∨ c = 10 then toBytes32 (adapter gmpId) else 0
  glacisChainIdToAdapterChainId := fun c =>
    if c = 42161 then chain .arb else if c = 10 then chain .opt else default
  adapterChainIdToGlacisChainId := fun c =>
    if c = chain .arb then 42161 else if c = chain .opt then 10 else 0
  counterpart_zero := if_neg (by decide)
  chain_zero := by rw [if_neg (by decide), if_neg (by decide)]

def relayer : Address := 0x27428DD2d3DD32A4D7f7C497eAaa23130d894911

def wormholeAdapter (s : Side) : GlacisWormholeAdapter :=
  ⟨tables s 3 wormholeChain, relayer, wormholeChain s, fun _ => false⟩

def axelarAdapter (s : Side) : GlacisAxelarAdapter := ⟨tables s 2 axelarChain, 0, 0⟩

/-- The two chains with these adapters. -/
def hosts : HostNetwork Side := fun s =>
  { toRelay := network s
    adapters := fun a =>
      if a = adapter 3 then some (.wormhole (wormholeAdapter s))
      else if a = adapter 2 then some (.axelar (axelarAdapter s)) else none
    gmpCalls := []
    payloads := [] }

/-- A receiver that names the two adapters it admits. -/
def adapterEnv : Env :=
  { env with client := fun a =>
      if a = receiver then ⟨fun route _ => .ok (decide (route.fromAdapter ∈ [adapter 3, adapter 2])),
        fun _ _ _ => .ok 2⟩
      else Client.noCode }

/-- GMPs that are free and take everything, and a gateway that has validated the call at hand. -/
def gmpEnv : GmpEnv where
  quoteEVMDeliveryPrice := fun _ _ _ => some 0
  quoteDispatch := fun _ _ _ _ _ => some 0
  getFee := fun _ _ _ _ => some 0
  accepts := fun _ _ => true
  takesRefund := fun _ _ => true
  validateContractCall := fun _ _ _ _ => true

/-- The message goes out through both adapters, and both GMPs bring it. -/
def carried : List (HostAction Side) :=
  [ .call .arb adapterEnv gmpEnv (recorded.mediator .arb .wh) 200000000000000
      (.route 10 (toBytes32 receiver) payload [3, 2]
        [⟨0, 100000000000000⟩, ⟨0, 100000000000000⟩] deployer true),
    .adapter .opt adapterEnv gmpEnv relayer (adapter 3)
      (.receiveWormholeMessages (encodeGlacisPayload firstMessage payload) []
        (toBytes32 (adapter 3)) 23 1),
    .adapter .opt adapterEnv gmpEnv deployer (adapter 2)
      (.execute 1 "arbitrum".toUTF8.toList
        "0x00000000000000000000000000000000ada97e02".toUTF8.toList
        (encodeGlacisPayload firstMessage payload)) ]

instance (w : HostNetwork Side) (g : Gmp) (j : Side) (source : Bytes32) (payload : Bytes) :
    Decidable (w.Carried g j source payload) :=
  inferInstanceAs (Decidable (∃ e ∈ (w j).gmpCalls, _))

end Sample

end CrossRWA
