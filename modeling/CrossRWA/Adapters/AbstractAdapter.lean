/-
  `GlacisAbstractAdapter` — what the adapters of all GMPs share.

  An adapter keeps two kinds of tables: the counterpart adapter of each chain, and the GMP's own
  chain ids in both directions.  The type `C` of the GMP's chain ids differs between GMPs, the code
  does not; its `default` is the value that an unset entry has.

  1. The owner's calls write the tables; a chain id zero is refused, so that chain zero has no
     entry in either table.  That is a FIELD of the structure.
  2. `onlyAuthorizedAdapter` is the check every delivery passes.
  3. `Truthful` says that the tables say nothing false about where the chains are and which
     contracts are the counterparts; the owner's truthful calls keep it (`Truthful.exec`).
-/
import CrossRWA.Adapters.AddressString
import CrossRWA.Mediator.SimpleTokenMediator

set_option linter.unusedSectionVars false

namespace CrossRWA

open Calls

/-! ## State -/

structure GlacisAbstractAdapter (C : Type) [Inhabited C] where
  owner : Address
  pendingOwner : Address
  GLACIS_ROUTER : Address
  remoteCounterpart : Uint256 → Bytes32
  glacisChainIdToAdapterChainId : Uint256 → C
  adapterChainIdToGlacisChainId : C → Uint256
  /-- Chain zero has no counterpart ... -/
  counterpart_zero : remoteCounterpart 0 = 0
  /-- ... and no id at the GMP. -/
  chain_zero : glacisChainIdToAdapterChainId 0 = default

namespace GlacisAbstractAdapter

variable {C : Type} [Inhabited C] [DecidableEq C]

def constructor (glacisRouter owner : Address) : GlacisAbstractAdapter C where
  owner := owner
  pendingOwner := 0
  GLACIS_ROUTER := glacisRouter
  remoteCounterpart := fun _ => 0
  glacisChainIdToAdapterChainId := fun _ => default
  adapterChainIdToGlacisChainId := fun _ => 0
  counterpart_zero := rfl
  chain_zero := rfl

/-! ## The owner's calls -/

def _onlyOwner (a : GlacisAbstractAdapter C) (msgSender : Address) : Except AdapterRevert Unit :=
  refuseIf (a.owner ≠ msgSender) (.require "Ownable: caller is not the owner")

/-- `Ownable2Step.transferOwnership`: the new owner has to accept. -/
def transferOwnership (a : GlacisAbstractAdapter C) (msgSender newOwner : Address) :
    Except AdapterRevert (GlacisAbstractAdapter C) := do
  a._onlyOwner msgSender
  pure { a with pendingOwner := newOwner }

/-- `Ownable2Step.acceptOwnership`. -/
def acceptOwnership (a : GlacisAbstractAdapter C) (msgSender : Address) :
    Except AdapterRevert (GlacisAbstractAdapter C) := do
  refuseIf (a.pendingOwner ≠ msgSender) (.require "Ownable2Step: caller is not the new owner")
  pure { a with owner := msgSender, pendingOwner := 0 }

/-- `Ownable.renounceOwnership`. -/
def renounceOwnership (a : GlacisAbstractAdapter C) (msgSender : Address) :
    Except AdapterRevert (GlacisAbstractAdapter C) := do
  a._onlyOwner msgSender
  pure { a with owner := 0, pendingOwner := 0 }

/-- One turn of `addRemoteCounterparts`. -/
def addCounterpart (a : GlacisAbstractAdapter C) (chainId : Uint256) (counterpart : Bytes32) :
    Except AdapterRevert (GlacisAbstractAdapter C) :=
  if h : chainId = 0 then
    .error (.core .GlacisRemoteCounterpartManager__RemoteCounterpartCannotHaveChainIdZero)
  else
    .ok { a with
      remoteCounterpart := Function.update a.remoteCounterpart chainId counterpart
      counterpart_zero := by rw [Function.update_of_ne (Ne.symm h), a.counterpart_zero] }

def addCounterparts (a : GlacisAbstractAdapter C) :
    List (Uint256 × Bytes32) → Except AdapterRevert (GlacisAbstractAdapter C)
  | [] => pure a
  | (chainId, counterpart) :: rest => do
    let a ← a.addCounterpart chainId counterpart
    a.addCounterparts rest

def addRemoteCounterparts (a : GlacisAbstractAdapter C) (msgSender : Address)
    (chainIDs : List Uint256) (counterpart : List Bytes32) :
    Except AdapterRevert (GlacisAbstractAdapter C) := do
  a._onlyOwner msgSender
  refuseIf (chainIDs.length ≠ counterpart.length)
    (.core .GlacisRemoteCounterpartManager__CounterpartsAndChainIDsMustHaveSameLength)
  a.addCounterparts (chainIDs.zip counterpart)

def removeRemoteCounterpart (a : GlacisAbstractAdapter C) (msgSender : Address)
    (chainId : Uint256) : Except AdapterRevert (GlacisAbstractAdapter C) := do
  a._onlyOwner msgSender
  -- the same check as for an addition, and the entry is deleted
  a.addCounterpart chainId 0

/-- One turn of the loop of `setGlacisChainIds`. -/
def setChainId (a : GlacisAbstractAdapter C) (gID : Uint256) (id : C) :
    Except AdapterRevert (GlacisAbstractAdapter C) :=
  if h : gID = 0 then .error .GlacisAbstractAdapter__DestinationChainIdNotValid
  else
    .ok { a with
      glacisChainIdToAdapterChainId := Function.update a.glacisChainIdToAdapterChainId gID id
      adapterChainIdToGlacisChainId := Function.update a.adapterChainIdToGlacisChainId id gID
      chain_zero := by rw [Function.update_of_ne (Ne.symm h), a.chain_zero] }

def setChainIds (a : GlacisAbstractAdapter C) :
    List (Uint256 × C) → Except AdapterRevert (GlacisAbstractAdapter C)
  | [] => pure a
  | (gID, id) :: rest => do
    let a ← a.setChainId gID id
    a.setChainIds rest

/-- The adapters' `setGlacisChainIds`, each with its own type of ids. -/
def setGlacisChainIds (a : GlacisAbstractAdapter C) (msgSender : Address)
    (chainIDs : List Uint256) (ids : List C) : Except AdapterRevert (GlacisAbstractAdapter C) := do
  a._onlyOwner msgSender
  refuseIf (chainIDs.length ≠ ids.length) .GlacisAbstractAdapter__IDArraysMustBeSameLength
  a.setChainIds (chainIDs.zip ids)

/-- The calls that write the tables and the owner. -/
inductive OwnerCall (C : Type)
  | acceptOwnership
  | transferOwnership (newOwner : Address)
  | renounceOwnership
  | addRemoteCounterparts (chainIDs : List Uint256) (counterpart : List Bytes32)
  | removeRemoteCounterpart (chainId : Uint256)
  | setGlacisChainIds (chainIDs : List Uint256) (ids : List C)
deriving DecidableEq, Repr

def exec (a : GlacisAbstractAdapter C) (msgSender : Address) :
    OwnerCall C → Except AdapterRevert (GlacisAbstractAdapter C)
  | .acceptOwnership => a.acceptOwnership msgSender
  | .transferOwnership newOwner => a.transferOwnership msgSender newOwner
  | .renounceOwnership => a.renounceOwnership msgSender
  | .addRemoteCounterparts chainIDs counterpart =>
    a.addRemoteCounterparts msgSender chainIDs counterpart
  | .removeRemoteCounterpart chainId => a.removeRemoteCounterpart msgSender chainId
  | .setGlacisChainIds chainIDs ids => a.setGlacisChainIds msgSender chainIDs ids

/-! ## The checks -/

/-- The modifier of every delivery. -/
def onlyAuthorizedAdapter (a : GlacisAbstractAdapter C) (chainId : Uint256)
    (sourceAddress : Bytes32) : Except AdapterRevert Unit :=
  refuseIf (chainId = 0 ∨ a.remoteCounterpart chainId = 0 ∨
    sourceAddress ≠ a.remoteCounterpart chainId) .GlacisAbstractAdapter__OnlyAdapterAllowed

/-- Where a message to a chain goes: the GMP's id of the chain, and the counterpart there.  The
    counterpart is checked first. -/
def destination (a : GlacisAbstractAdapter C) (toChainId : Uint256) :
    Except AdapterRevert (C × Bytes32) := do
  refuseIf (a.remoteCounterpart toChainId = 0)
    (.GlacisAbstractAdapter__NoRemoteAdapterForChainId toChainId)
  refuseIf (a.glacisChainIdToAdapterChainId toChainId = default)
    (.GlacisAbstractAdapter__ChainIsNotAvailable toChainId)
  pure (a.glacisChainIdToAdapterChainId toChainId, a.remoteCounterpart toChainId)

theorem onlyAuthorizedAdapter_eq_ok {a : GlacisAbstractAdapter C} {chainId : Uint256}
    {sourceAddress : Bytes32} {u : Unit} :
    a.onlyAuthorizedAdapter chainId sourceAddress = .ok u ↔
      chainId ≠ 0 ∧ sourceAddress ≠ 0 ∧ a.remoteCounterpart chainId = sourceAddress := by
  rw [onlyAuthorizedAdapter, refuseIf_eq_ok]
  constructor
  · intro h
    simp only [not_or, Ne, not_not] at h
    obtain ⟨h0, hset, heq⟩ := h
    rw [heq]
    exact ⟨h0, hset, rfl⟩
  · rintro ⟨h0, hsource, heq⟩ (h | h | h)
    · exact h0 h
    · exact hsource (heq.symm.trans h)
    · exact h heq.symm

/-! ## Truthful tables -/

/-- Where the chains of a GMP are, and which contracts are adapters of it: the claims its tables
    make, checked. -/
structure Geography (ι C : Type) where
  chainId : ι → Uint256
  nativeId : ι → C
  peer : ι → Address → Prop

variable {ι : Type} {G : Geography ι C} {a a' : GlacisAbstractAdapter C}

/-- Nothing the tables say about a chain is false. -/
structure Truthful (G : Geography ι C) (a : GlacisAbstractAdapter C) : Prop where
  ids : ∀ j, a.adapterChainIdToGlacisChainId (G.nativeId j) = 0 ∨
    a.adapterChainIdToGlacisChainId (G.nativeId j) = G.chainId j
  counterparts : ∀ j, a.remoteCounterpart (G.chainId j) = 0 ∨
    ∃ s, a.remoteCounterpart (G.chainId j) = toBytes32 s ∧ G.peer j s

/-- An owner's call that writes nothing false. -/
def OwnerCall.Truthful (G : Geography ι C) : OwnerCall C → Prop
  | .addRemoteCounterparts chainIDs counterpart => ∀ e ∈ chainIDs.zip counterpart,
      ∀ j, G.chainId j = e.1 → e.2 = 0 ∨ ∃ s, e.2 = toBytes32 s ∧ G.peer j s
  | .setGlacisChainIds chainIDs ids => ∀ e ∈ chainIDs.zip ids, ∀ j, G.nativeId j = e.2 →
      e.1 = G.chainId j
  | _ => True

theorem Truthful.constructor (glacisRouter owner : Address) :
    Truthful G (GlacisAbstractAdapter.constructor glacisRouter owner) :=
  ⟨fun _ => Or.inl rfl, fun _ => Or.inl rfl⟩

theorem Truthful.frame (h : Truthful G a)
    (hids : a'.adapterChainIdToGlacisChainId = a.adapterChainIdToGlacisChainId)
    (hcounterparts : a'.remoteCounterpart = a.remoteCounterpart) : Truthful G a' :=
  ⟨by rw [hids]; exact h.ids, by rw [hcounterparts]; exact h.counterparts⟩

theorem Truthful.addCounterpart (h : Truthful G a) {chainId : Uint256} {counterpart : Bytes32}
    (hnew : ∀ j, G.chainId j = chainId → counterpart = 0 ∨ ∃ s, counterpart = toBytes32 s ∧
      G.peer j s) (hok : a.addCounterpart chainId counterpart = .ok a') : Truthful G a' := by
  unfold GlacisAbstractAdapter.addCounterpart at hok
  split at hok
  · cases hok
  · obtain rfl := Except.ok.inj hok
    refine ⟨h.ids, fun j => ?_⟩
    by_cases hj : G.chainId j = chainId
    · dsimp only
      rw [hj, Function.update_self]
      exact hnew j hj
    · dsimp only
      rw [Function.update_of_ne hj]
      exact h.counterparts j

theorem Truthful.addCounterparts {l : List (Uint256 × Bytes32)} (h : Truthful G a)
    (hnew : ∀ e ∈ l, ∀ j, G.chainId j = e.1 → e.2 = 0 ∨ ∃ s, e.2 = toBytes32 s ∧ G.peer j s)
    (hok : a.addCounterparts l = .ok a') : Truthful G a' := by
  induction l generalizing a with
  | nil => rwa [← ret_eq_ok.mp hok]
  | cons e l ih =>
    simp only [GlacisAbstractAdapter.addCounterparts, seq_eq_ok] at hok
    obtain ⟨b, hb, hrest⟩ := hok
    exact ih (h.addCounterpart (hnew e List.mem_cons_self) hb)
      (fun e he => hnew e (List.mem_cons_of_mem _ he)) hrest

theorem Truthful.setChainId (h : Truthful G a) {gID : Uint256} {id : C}
    (hnew : ∀ j, G.nativeId j = id → gID = G.chainId j) (hok : a.setChainId gID id = .ok a') :
    Truthful G a' := by
  unfold GlacisAbstractAdapter.setChainId at hok
  split at hok
  · cases hok
  · obtain rfl := Except.ok.inj hok
    refine ⟨fun j => ?_, h.counterparts⟩
    by_cases hj : G.nativeId j = id
    · dsimp only
      rw [hj, Function.update_self]
      exact Or.inr (hnew j hj)
    · dsimp only
      rw [Function.update_of_ne hj]
      exact h.ids j

theorem Truthful.setChainIds {l : List (Uint256 × C)} (h : Truthful G a)
    (hnew : ∀ e ∈ l, ∀ j, G.nativeId j = e.2 → e.1 = G.chainId j)
    (hok : a.setChainIds l = .ok a') : Truthful G a' := by
  induction l generalizing a with
  | nil => rwa [← ret_eq_ok.mp hok]
  | cons e l ih =>
    simp only [GlacisAbstractAdapter.setChainIds, seq_eq_ok] at hok
    obtain ⟨b, hb, hrest⟩ := hok
    exact ih (h.setChainId (hnew e List.mem_cons_self) hb)
      (fun e he => hnew e (List.mem_cons_of_mem _ he)) hrest

/-- **A truthful call keeps the tables truthful.** -/
theorem Truthful.exec (h : Truthful G a) {msgSender : Address} {call : OwnerCall C}
    (hcall : call.Truthful G) (hok : a.exec msgSender call = .ok a') : Truthful G a' := by
  cases call with
  | acceptOwnership =>
    simp only [GlacisAbstractAdapter.exec, acceptOwnership, seq_eq_ok, ret_eq_ok] at hok
    obtain ⟨_, _, rfl⟩ := hok
    exact h.frame rfl rfl
  | transferOwnership newOwner =>
    simp only [GlacisAbstractAdapter.exec, transferOwnership, seq_eq_ok, ret_eq_ok] at hok
    obtain ⟨_, _, rfl⟩ := hok
    exact h.frame rfl rfl
  | renounceOwnership =>
    simp only [GlacisAbstractAdapter.exec, renounceOwnership, seq_eq_ok, ret_eq_ok] at hok
    obtain ⟨_, _, rfl⟩ := hok
    exact h.frame rfl rfl
  | addRemoteCounterparts chainIDs counterpart =>
    simp only [GlacisAbstractAdapter.exec, addRemoteCounterparts, seq_eq_ok] at hok
    obtain ⟨_, _, _, _, hok⟩ := hok
    exact h.addCounterparts hcall hok
  | removeRemoteCounterpart chainId =>
    simp only [GlacisAbstractAdapter.exec, removeRemoteCounterpart, seq_eq_ok] at hok
    obtain ⟨_, _, hok⟩ := hok
    exact h.addCounterpart (fun _ _ => Or.inl rfl) hok
  | setGlacisChainIds chainIDs ids =>
    simp only [GlacisAbstractAdapter.exec, setGlacisChainIds, seq_eq_ok] at hok
    obtain ⟨_, _, _, _, hok⟩ := hok
    exact h.setChainIds hcall hok

/-- **What an authorized delivery with truthful tables comes from**: the chain the adapter names,
    and a peer on it. -/
theorem Truthful.authorized (h : Truthful G a) {j : ι} {s : Address} (hok : a.onlyAuthorizedAdapter
      (a.adapterChainIdToGlacisChainId (G.nativeId j)) (toBytes32 s) = .ok ()) :
    a.adapterChainIdToGlacisChainId (G.nativeId j) = G.chainId j ∧ G.peer j s := by
  obtain ⟨hne, hs, heq⟩ := onlyAuthorizedAdapter_eq_ok.mp hok
  rcases h.ids j with h0 | hid
  · exact absurd h0 hne
  · rw [hid] at heq ⊢
    rcases h.counterparts j with h0 | ⟨s', hs', hpeer⟩
    · exact absurd (heq.symm.trans h0) hs
    · rw [toBytes32_inj (heq.symm.trans hs')]
      exact ⟨rfl, hpeer⟩

end GlacisAbstractAdapter

end CrossRWA
