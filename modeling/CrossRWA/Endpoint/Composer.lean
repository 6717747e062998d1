/-
  `MessagingComposer` — composed messages are received once.

  An application leaves a message for a composer under a key, and anyone may have it executed.
  The queue keeps a hash for each key: zero before, the hash of the message while it waits, one
  afterwards.  `Endpoint.Composes` says that the queue is the state of a `OnceChannel` from the
  applications to their composers; `composed_once` is the channel of a run.
-/
import CrossRWA.Endpoint.Delivery
import CrossRWA.Lib.OnceChannel

namespace CrossRWA

open Calls

variable {keccak256 : Bytes → Bytes32} {e e' : Endpoint} {env : EndpointEnv} {msgSender : Address}
  {value : Nat} {call : LzCall}

namespace Endpoint

/-- The messages that were composed, or received. -/
def composeMessages (e : Endpoint) : List Bytes :=
  e.composed.map Prod.snd ++ e.composeReceived.map Prod.snd

/-- No two of them have one hash, and none has a hash that the queue uses for its own. -/
structure ComposeHashes (keccak256 : Bytes → Bytes32) (e : Endpoint) : Prop where
  collisionFree : CollisionFree keccak256 e.composeMessages
  ordinary : ∀ m ∈ e.composeMessages,
    keccak256 m ≠ EndpointV2.NO_MESSAGE_HASH ∧ keccak256 m ≠ EndpointV2.RECEIVED_MESSAGE_HASH

/-- The queue is the state of the channel. -/
structure Composes (keccak256 : Bytes → Bytes32) (e : Endpoint)
    (channel : OnceChannel ComposeKey Bytes) : Prop where
  sent_eq : channel.sent = e.composed
  received_eq : channel.received = e.composeReceived
  free : ∀ key, key ∉ channel.sent.map Prod.fst → e.composeQueue key = EndpointV2.NO_MESSAGE_HASH
  waiting : ∀ p ∈ channel.pending, e.composeQueue p.1 = keccak256 p.2
  done : ∀ key ∈ channel.received.map Prod.fst,
    e.composeQueue key = EndpointV2.RECEIVED_MESSAGE_HASH

variable {channel : OnceChannel ComposeKey Bytes}

theorem ComposeHashes.mono (h : e'.ComposeHashes keccak256)
    (hsub : e.composeMessages ⊆ e'.composeMessages) : e.ComposeHashes keccak256 :=
  ⟨h.collisionFree.mono hsub, fun m hm => h.ordinary m (hsub hm)⟩

/-- A key is free, or its message waits, or it was received. -/
theorem key_cases (channel : OnceChannel ComposeKey Bytes) (key : ComposeKey) :
    key ∉ channel.sent.map Prod.fst ∨ (∃ m, (key, m) ∈ channel.pending) ∨
      key ∈ channel.received.map Prod.fst := by
  by_cases hr : key ∈ channel.received.map Prod.fst
  · exact Or.inr (Or.inr hr)
  by_cases hs : key ∈ channel.sent.map Prod.fst
  · obtain ⟨⟨_, m⟩, hp, rfl⟩ := List.mem_map.mp hs
    exact Or.inr (Or.inl ⟨m, OnceChannel.mem_pending.mpr ⟨hp, hr⟩⟩)
  · exact Or.inl hs

/-- A pending message was composed. -/
theorem Composes.mem_composed (h : e.Composes keccak256 channel) {p : ComposeKey × Bytes}
    (hp : p ∈ channel.pending) : p.2 ∈ e.composed.map Prod.snd := by
  rw [← h.sent_eq]
  exact List.mem_map_of_mem (OnceChannel.mem_pending.mp hp).1

/-- **A key whose slot is zero was never used.** -/
theorem Composes.fresh (h : e.Composes keccak256 channel) (hhash : e.ComposeHashes keccak256)
    {key : ComposeKey} (hkey : e.composeQueue key = EndpointV2.NO_MESSAGE_HASH) :
    key ∉ channel.sent.map Prod.fst := by
  rcases key_cases channel key with hfree | ⟨m, hm⟩ | hdone
  · exact hfree
  · have hmem := List.mem_append_left (e.composeReceived.map Prod.snd) (h.mem_composed hm)
    exact absurd ((h.waiting _ hm).symm.trans hkey) (hhash.ordinary m hmem).1
  · exact absurd ((h.done key hdone).symm.trans hkey) (by decide)

/-- **A message whose hash is in the slot is the one that waits.** -/
theorem Composes.waits (h : e.Composes keccak256 channel) {message : Bytes} {key : ComposeKey}
    (hkey : e.composeQueue key = keccak256 message)
    (hfree : CollisionFree keccak256 (message :: e.composed.map Prod.snd))
    (hzero : keccak256 message ≠ EndpointV2.NO_MESSAGE_HASH)
    (hone : keccak256 message ≠ EndpointV2.RECEIVED_MESSAGE_HASH) :
    (key, message) ∈ channel.pending := by
  rcases key_cases channel key with hnone | ⟨m, hm⟩ | hdone
  · exact absurd (hkey.symm.trans (h.free key hnone)) hzero
  · obtain rfl := hfree m (List.mem_cons_of_mem _ (h.mem_composed hm)) message List.mem_cons_self
      ((h.waiting _ hm).symm.trans hkey)
    exact hm
  · exact absurd (hkey.symm.trans (h.done key hdone)) hone

theorem Composes.quiet (h : e.Composes keccak256 channel) (hqueue : e'.composeQueue = e.composeQueue)
    (hcomposed : e'.composed = e.composed) (hreceived : e'.composeReceived = e.composeReceived) :
    e'.Composes keccak256 channel where
  sent_eq := h.sent_eq.trans hcomposed.symm
  received_eq := h.received_eq.trans hreceived.symm
  free := by rw [hqueue]; exact h.free
  waiting := by rw [hqueue]; exact h.waiting
  done := by rw [hqueue]; exact h.done

end Endpoint

theorem EndpointStep.composeMessages_sub
    (hs : EndpointStep keccak256 e env msgSender value call e') :
    e.composeMessages ⊆ e'.composeMessages := by
  unfold Endpoint.composeMessages
  cases hs
  case sendCompose | lzCompose =>
    intro m hm
    simp only [List.map_append, List.mem_append] at hm ⊢
    tauto
  all_goals exact List.Subset.refl _

/-- **One call is one step of the channel**, or none. -/
theorem Endpoint.Composes.step {channel : OnceChannel ComposeKey Bytes}
    (h : e.Composes keccak256 channel)
    (hs : EndpointStep keccak256 e env msgSender value call e')
    (hhash : e'.ComposeHashes keccak256) : ∃ channel', e'.Composes keccak256 channel' := by
  have hback := hhash.mono hs.composeMessages_sub
  cases hs with
  | @sendCompose to_ guid index message hfree =>
    have hnew := h.fresh hback hfree
    refine ⟨channel.send (⟨msgSender, to_, guid, index⟩, message) hnew, ?_, h.received_eq, ?_, ?_, ?_⟩
    · exact congrArg (· ++ _) h.sent_eq
    · intro key hkey
      rw [OnceChannel.send, List.map_append, List.mem_append, not_or] at hkey
      have hne : key ≠ ⟨msgSender, to_, guid, index⟩ := fun heq => hkey.2 (by simp [heq])
      exact (Function.update_of_ne hne ..).trans (h.free key hkey.1)
    · intro p hp
      rcases (OnceChannel.mem_pending_send hnew).mp hp with hp | rfl
      · have hne : p.1 ≠ ⟨msgSender, to_, guid, index⟩ := by
          intro heq
          exact hnew (heq ▸ List.mem_map_of_mem (OnceChannel.mem_pending.mp hp).1)
        exact (Function.update_of_ne hne ..).trans (h.waiting p hp)
      · exact Function.update_self ..
    · intro key hkey
      have hne : key ≠ ⟨msgSender, to_, guid, index⟩ := by
        rintro rfl
        exact OnceChannel.not_received hnew hkey
      exact (Function.update_of_ne hne ..).trans (h.done key hkey)
  | @lzCompose key message extraData hkey =>
    have hmem : message ∈ Endpoint.composeMessages { e with
        composeQueue := Function.update e.composeQueue key EndpointV2.RECEIVED_MESSAGE_HASH
        composeReceived := e.composeReceived ++ [(key, message)] } := by
      simp [Endpoint.composeMessages]
    obtain ⟨hzero, hone⟩ := hhash.ordinary message hmem
    have hpending := h.waits hkey (hhash.collisionFree.mono (List.cons_subset.mpr
      ⟨hmem, List.subset_append_left _ _⟩)) hzero hone
    obtain ⟨hsent, hnot⟩ := OnceChannel.mem_pending.mp hpending
    refine ⟨channel.receive (key, message) hsent hnot, h.sent_eq, ?_, ?_, ?_, ?_⟩
    · exact congrArg (· ++ _) h.received_eq
    · intro key' hkey'
      have hne : key' ≠ key := by
        rintro rfl
        exact hkey' (List.mem_map_of_mem hsent)
      exact (Function.update_of_ne hne ..).trans (h.free key' hkey')
    · intro p hp
      obtain ⟨hp, hne⟩ := (OnceChannel.mem_pending_receive hsent hnot).mp hp
      exact (Function.update_of_ne hne ..).trans (h.waiting p hp)
    · intro key' hkey'
      by_cases heq : key' = key
      · subst heq
        exact Function.update_self ..
      · rw [OnceChannel.receive, List.map_append, List.mem_append] at hkey'
        exact (Function.update_of_ne heq ..).trans
          (h.done key' (hkey'.resolve_right fun hm => heq (List.mem_singleton.mp hm)))
  | send _ _ _ => exact ⟨channel, h.quiet rfl rfl rfl⟩
  | verify _ _ _ => exact ⟨channel, h.quiet rfl rfl rfl⟩
  | lzReceive _ _ => exact ⟨channel, h.quiet rfl rfl rfl⟩
  | clear _ _ => exact ⟨channel, h.quiet rfl rfl rfl⟩
  | skip _ _ => exact ⟨channel, h.quiet rfl rfl rfl⟩
  | nilify _ _ => exact ⟨channel, h.quiet rfl rfl rfl⟩
  | burn _ _ => exact ⟨channel, h.quiet rfl rfl rfl⟩
  | setDelegate => exact ⟨channel, h.quiet rfl rfl rfl⟩
  | setLzToken => exact ⟨channel, h.quiet rfl rfl rfl⟩
  | manage _ => exact ⟨channel, h.quiet rfl rfl rfl⟩

/-- **Composed messages are received once.**  In every run what the composers received is what the
    applications composed for them, each message once; and a message that waits can be executed by
    anyone, if its composer takes it. -/
theorem composed_once {eid : Uint32} {owner blockedLibrary : Address} (l : List EndpointAction)
    (hhash : ((Endpoint.deploy eid owner blockedLibrary).run keccak256 l).ComposeHashes keccak256) :
    ∃ channel : OnceChannel ComposeKey Bytes,
      channel.sent = ((Endpoint.deploy eid owner blockedLibrary).run keccak256 l).composed ∧
      channel.received
        = ((Endpoint.deploy eid owner blockedLibrary).run keccak256 l).composeReceived ∧
      ∀ p ∈ channel.pending, ∀ env msgSender value extraData,
        env.lzCompose p.1.receiver value p.1.sender p.1.guid p.2 msgSender extraData = true →
        ∃ e', ((Endpoint.deploy eid owner blockedLibrary).run keccak256 l).exec keccak256 env
          msgSender value (.lzCompose p.1 p.2 extraData) = .ok e' := by
  have h0 : ∃ channel, (Endpoint.deploy eid owner blockedLibrary).Composes keccak256 channel :=
    ⟨.empty, rfl, rfl, fun _ _ => rfl, fun _ hp => absurd hp List.not_mem_nil,
      fun _ hk => absurd hk List.not_mem_nil⟩
  obtain ⟨channel, hchannel⟩ := (Machine.Follows.with_invariant_of_mono (P := fun _ _ => True)
    (C := fun e : Endpoint => e.ComposeHashes keccak256) (I := fun e : Endpoint => ∃ c, e.Composes keccak256 c)
    (fun _ _ _ hok hs => hs.mono (Endpoint.exec_step hok).composeMessages_sub)
    (fun _ _ _ hok _ hs hI => by
      obtain ⟨c, hc⟩ := hI
      exact hc.step (Endpoint.exec_step hok) hs)
    (Machine.follows_of_forall (l := l) (fun _ _ _ => trivial) _) h0 hhash).2
  refine ⟨channel, hchannel.sent_eq, hchannel.received_eq, ?_⟩
  intro p hp env msgSender value extraData haccept
  have hqueue : ((Endpoint.deploy eid owner blockedLibrary).run keccak256 l).composeQueue p.1
      = keccak256 p.2 := hchannel.waiting p hp
  generalize (Endpoint.deploy eid owner blockedLibrary).run keccak256 l = s at *
  rw [Endpoint.exec_of_payable rfl]
  simp only [Endpoint.dispatch, EndpointV2.lzCompose, hqueue, haccept, refuseIf, ne_eq,
    not_true_eq_false, if_false]
  exact ⟨_, rfl⟩

namespace Sample

def greetingKeccak (b : Bytes) : Bytes32 :=
  if b = greeting then 0x1c8aff950685c2ed4bc3174f3472287b56d9517b9c948127319a09a7a36deac8 else 0

/-- The application leaves a message for two composers; one of them receives it. -/
def compositions : List EndpointAction :=
  [ by_ oapp (.sendCompose executor firstGuid 0 greeting),
    by_ oapp (.sendCompose endpointOwner firstGuid 0 greeting),
    by_ executor (.lzCompose ⟨oapp, executor, firstGuid, 0⟩ greeting []) ]

theorem compositions_hashes :
    (optEndpoint.run greetingKeccak compositions).ComposeHashes greetingKeccak :=
  ⟨by decide +kernel, by decide +kernel⟩

end Sample

theorem composed_once_greeting :
    (Sample.optEndpoint.run Sample.greetingKeccak Sample.compositions).composeReceived.length = 1 ∧
    ∃ channel : OnceChannel ComposeKey Bytes,
      channel.sent = (Sample.optEndpoint.run Sample.greetingKeccak Sample.compositions).composed ∧
      channel.received
        = (Sample.optEndpoint.run Sample.greetingKeccak Sample.compositions).composeReceived ∧
      ∀ p ∈ channel.pending, ∀ env msgSender value extraData,
        env.lzCompose p.1.receiver value p.1.sender p.1.guid p.2 msgSender extraData = true →
        ∃ e', (Sample.optEndpoint.run Sample.greetingKeccak Sample.compositions).exec
          Sample.greetingKeccak env msgSender value (.lzCompose p.1 p.2 extraData) = .ok e' :=
  ⟨by decide +kernel, composed_once Sample.compositions Sample.compositions_hashes⟩

end CrossRWA
