/-
  What an endpoint delivers, over every run from its deployment.

  1. `InboundEvent.act`: an event as a step of the inbox of its path.  `Endpoint.Tracks`: the events
     of a path are a history of its inbox.  Every call keeps it, if the hash of a cleared payload
     is neither of the two special hashes (`Ordinary`).
  2. `delivered_once`: a message is cleared at most once; a registered library verified its payload,
     last; and no lower nonce was missing.
  3. `inboundNonce_of_run`: what `inboundNonce` returns, from the events alone, and that it never
     goes back.
  4. `anyone_delivers`: a verified message can be delivered by anyone, whatever anyone but its
     receiver does.
-/
import CrossRWA.Endpoint.EndpointV2
import CrossRWA.Lib.Machine

namespace CrossRWA

open Calls

/-! ## Runs -/

/-- A call to an endpoint, with what lies outside of it at that time. -/
structure EndpointAction where
  env : EndpointEnv
  msgSender : Address
  value : Nat
  call : LzCall

/-- It is not the zero address that calls. -/
def EndpointAction.Called (a : EndpointAction) : Prop := a.msgSender ≠ 0

def Endpoint.step (keccak256 : Bytes → Bytes32) (e : Endpoint) (a : EndpointAction) :
    Except LzError Endpoint :=
  e.exec keccak256 a.env a.msgSender a.value a.call

def Endpoint.run (keccak256 : Bytes → Bytes32) (e : Endpoint) (l : List EndpointAction) : Endpoint :=
  Machine.run (Endpoint.step keccak256) e l

/-! ## Events as steps of an inbox -/

namespace InboundEvent

def path : InboundEvent → InboundPath
  | verified path _ _ _ | skipped path _ | nilified path _ | burnt path _ => path
  | cleared x => x.path

def nonce : InboundEvent → Uint64
  | verified _ nonce _ _ | skipped _ nonce | nilified _ nonce | burnt _ nonce => nonce
  | cleared x => x.nonce

/-- The step of the inbox. -/
def act (keccak256 : Bytes → Bytes32) : InboundEvent → LazyInbox.Event Bytes32
  | verified _ nonce payloadHash _ => .put nonce.toNat payloadHash
  | cleared x => .take x.nonce.toNat (keccak256 x.payload)
  | skipped _ nonce => .skip nonce.toNat
  | nilified _ nonce => .put nonce.toNat MessagingChannel.NIL_PAYLOAD_HASH
  | burnt _ nonce => .drop nonce.toNat

/-- After the event, its nonce counts as received. -/
def Confirms : InboundEvent → Prop
  | verified .. | skipped .. | nilified .. => True
  | cleared _ | burnt .. => False

theorem number_act {keccak256 : Bytes → Bytes32} (event : InboundEvent) :
    (event.act keccak256).number = event.nonce.toNat := by
  cases event <;> rfl

theorem confirms_act {keccak256 : Bytes → Bytes32} (event : InboundEvent) :
    (event.act keccak256).Confirms ↔ event.Confirms := by
  cases event <;> rfl

end InboundEvent

/-- The nonce was verified, skipped or nilified. -/
def Confirmed (events : List InboundEvent) (path : InboundPath) (nonce : Uint64) : Prop :=
  ∃ event ∈ events, event.Confirms ∧ event.path = path ∧ event.nonce = nonce

theorem Confirmed.cons {events : List InboundEvent} {path : InboundPath} {nonce : Uint64}
    (h : Confirmed events path nonce) (event : InboundEvent) :
    Confirmed (event :: events) path nonce := by
  obtain ⟨event', hmem, hspec⟩ := h
  exact ⟨event', List.mem_cons_of_mem _ hmem, hspec⟩

/-- The history of a path. -/
def historyOf (keccak256 : Bytes → Bytes32) (path : InboundPath) (events : List InboundEvent) :
    List (LazyInbox.Event Bytes32) :=
  (events.filter fun event => decide (event.path = path)).map (InboundEvent.act keccak256)

variable {keccak256 : Bytes → Bytes32} {e e' : Endpoint} {env : EndpointEnv} {msgSender : Address}
  {value : Nat} {call : LzCall} {path : InboundPath} {nonce : Uint64}
  {events : List InboundEvent}

theorem historyOf_append (later earlier : List InboundEvent) :
    historyOf keccak256 path (later ++ earlier)
      = historyOf keccak256 path later ++ historyOf keccak256 path earlier := by
  rw [historyOf, List.filter_append, List.map_append]
  rfl

theorem historyOf_cons (event : InboundEvent) :
    historyOf keccak256 path (event :: events) =
      if event.path = path then event.act keccak256 :: historyOf keccak256 path events
      else historyOf keccak256 path events := by
  rw [historyOf, List.filter_cons]
  split
  · next h => rw [if_pos (of_decide_eq_true h)]; rfl
  · next h => rw [if_neg (fun hp => h (decide_eq_true hp))]; rfl

theorem historyOf_split (event : InboundEvent) (h : event.path = path)
    (later earlier : List InboundEvent) :
    historyOf keccak256 path (later ++ event :: earlier)
      = historyOf keccak256 path later ++ event.act keccak256 :: historyOf keccak256 path earlier := by
  rw [historyOf_append, historyOf_cons, if_pos h]

theorem mem_historyOf {ev : LazyInbox.Event Bytes32} :
    ev ∈ historyOf keccak256 path events ↔
      ∃ event ∈ events, event.path = path ∧ event.act keccak256 = ev := by
  simp only [historyOf, List.mem_map, List.mem_filter, decide_eq_true_eq, and_assoc]

/-- Confirmed in the log is confirmed in the history. -/
theorem confirmed_iff :
    LazyInbox.Confirmed (historyOf keccak256 path events) nonce.toNat ↔
      Confirmed events path nonce := by
  constructor
  · rintro ⟨_, hev, hconfirms, hnumber⟩
    obtain ⟨event, hmem, hpath, rfl⟩ := mem_historyOf.mp hev
    rw [InboundEvent.number_act, BitVec.toNat_inj] at hnumber
    exact ⟨event, hmem, event.confirms_act.mp hconfirms, hpath, hnumber.symm⟩
  · rintro ⟨event, hmem, hconfirms, hpath, rfl⟩
    exact ⟨_, mem_historyOf.mpr ⟨event, hmem, hpath, rfl⟩, event.confirms_act.mpr hconfirms,
      event.number_act.symm⟩

/-! ## One call -/

/-- No cleared payload has one of the special hashes. -/
def Endpoint.Ordinary (keccak256 : Bytes → Bytes32) (e : Endpoint) : Prop :=
  ∀ x, .cleared x ∈ e.events → keccak256 x.payload ≠ MessagingChannel.EMPTY_PAYLOAD_HASH ∧
    keccak256 x.payload ≠ MessagingChannel.NIL_PAYLOAD_HASH

/-- The events of every path are a history of its inbox. -/
def Endpoint.Tracks (keccak256 : Bytes → Bytes32) (e : Endpoint) : Prop :=
  ∀ path, LazyInbox.History (historyOf keccak256 path e.events) (e.inbox path)

/-- A call adds an event or none. -/
theorem EndpointStep.events_cases (hs : EndpointStep keccak256 e env msgSender value call e') :
    e'.events = e.events ∨ ∃ event, e'.events = event :: e.events := by
  cases hs
  case verify | lzReceive | clear | skip | nilify | burn => exact Or.inr ⟨_, rfl⟩
  all_goals exact Or.inl rfl

theorem EndpointStep.events_sub (hs : EndpointStep keccak256 e env msgSender value call e') :
    e.events ⊆ e'.events := by
  rcases hs.events_cases with h | ⟨event, h⟩ <;> rw [h]
  · exact List.Subset.refl _
  · exact List.subset_cons_self _ _

/-- The calls that make a nonce count as received. -/
def LzCall.Receives : LzCall → Prop
  | .verify .. | .skip .. | .nilify .. => True
  | .send .. | .lzReceive .. | .clear .. | .burn .. | .sendCompose .. | .lzCompose ..
  | .setDelegate _ | .setLzToken _ | .manage _ => False

/-- The other calls receive nothing. -/
theorem EndpointStep.confirmed_iff (hs : EndpointStep keccak256 e env msgSender value call e')
    (hcall : ¬ call.Receives) :
    Confirmed e'.events path nonce ↔ Confirmed e.events path nonce := by
  have hcons : ∀ event : InboundEvent, ¬ event.Confirms →
      (Confirmed (event :: e.events) path nonce ↔ Confirmed e.events path nonce) := by
    intro event hnot
    refine ⟨?_, fun h => h.cons event⟩
    rintro ⟨event', hmem, hconfirms, hspec⟩
    rcases List.mem_cons.mp hmem with rfl | hmem
    · exact absurd hconfirms hnot
    · exact ⟨event', hmem, hconfirms, hspec⟩
  cases hs with
  | verify _ _ _ => exact absurd trivial hcall
  | skip _ _ => exact absurd trivial hcall
  | nilify _ _ => exact absurd trivial hcall
  | lzReceive _ _ => exact hcons _ id
  | clear _ _ => exact hcons _ id
  | burn _ _ => exact hcons _ id
  | send _ _ _ => exact Iff.rfl
  | sendCompose _ => exact Iff.rfl
  | lzCompose _ => exact Iff.rfl
  | setDelegate => exact Iff.rfl
  | setLzToken => exact Iff.rfl
  | manage _ => exact Iff.rfl

theorem EndpointStep.ordinary (hs : EndpointStep keccak256 e env msgSender value call e')
    (h : e'.Ordinary keccak256) : e.Ordinary keccak256 :=
  fun x hx => h x (hs.events_sub hx)

theorem Endpoint.ordinary_of_step (e : Endpoint) (a : EndpointAction) (e' : Endpoint)
    (hok : Endpoint.step keccak256 e a = .ok e') (h : e'.Ordinary keccak256) :
    e.Ordinary keccak256 :=
  (Endpoint.exec_step hok).ordinary h

theorem Endpoint.ordinary_of_run {l : List EndpointAction}
    (h : (e.run keccak256 l).Ordinary keccak256) : e.Ordinary keccak256 :=
  Machine.of_run Endpoint.ordinary_of_step h

/-- **What a call does to the inboxes**: nothing, or the step of its event. -/
theorem EndpointStep.moves (hs : EndpointStep keccak256 e env msgSender value call e')
    (h0 : ∀ path, (e.inbox path).Dead 0) (hord : e'.Ordinary keccak256) :
    (e'.events = e.events ∧ ∀ path, e'.inbox path = e.inbox path) ∨
    ∃ event, e'.events = event :: e.events ∧
      e.Moves event.path (event.act keccak256) e'.toMessagingChannel := by
  cases hs with
  | verify _ hlive hhash => exact Or.inr ⟨_, rfl, .put hhash hlive⟩
  | lzReceive hclear _ =>
    have hne := (hord _ List.mem_cons_self).1
    exact Or.inr ⟨_, rfl, MessagingChannel._clearPayload_moves (h0 _) hne hclear⟩
  | clear _ hclear =>
    have hne := (hord _ List.mem_cons_self).1
    exact Or.inr ⟨_, rfl, MessagingChannel._clearPayload_moves (h0 _) hne hclear⟩
  | skip _ hskip => exact Or.inr ⟨_, rfl, MessagingChannel.skip_moves (h0 _) hskip⟩
  | nilify _ hnilify => exact Or.inr ⟨_, rfl, MessagingChannel.nilify_moves hnilify⟩
  | burn _ hburn => exact Or.inr ⟨_, rfl, MessagingChannel.burn_moves hburn⟩
  | send _ _ _ => exact Or.inl ⟨rfl, fun _ => rfl⟩
  | sendCompose _ => exact Or.inl ⟨rfl, fun _ => rfl⟩
  | lzCompose _ => exact Or.inl ⟨rfl, fun _ => rfl⟩
  | setDelegate => exact Or.inl ⟨rfl, fun _ => rfl⟩
  | setLzToken => exact Or.inl ⟨rfl, fun _ => rfl⟩
  | manage _ => exact Or.inl ⟨rfl, fun _ => rfl⟩

/-- **Every call keeps the histories.** -/
theorem Endpoint.Tracks.step (h : e.Tracks keccak256)
    (hs : EndpointStep keccak256 e env msgSender value call e') (hord : e'.Ordinary keccak256) :
    e'.Tracks keccak256 := by
  intro path
  rcases hs.moves (fun p => (h p).dead_zero) hord with ⟨hevents, hinbox⟩ | ⟨event, hevents, hmoves⟩
  · rw [hevents, hinbox]
    exact h path
  · rw [hevents, historyOf_cons]
    split
    · next hp =>
      subst hp
      exact .cons (h _) hmoves.step
    · next hp =>
      rw [hmoves.others path (fun heq => hp heq.symm)]
      exact h path

/-- Whatever was verified, a registered library verified it. -/
structure Endpoint.Trusts (e : Endpoint) : Prop where
  tables : e.Registered
  libraries : ∀ path nonce payloadHash library,
    .verified path nonce payloadHash library ∈ e.events →
      library ≠ 0 ∧ e.isRegisteredLibrary library = true

/-- **Every call keeps that.** -/
theorem Endpoint.Trusts.step (h : e.Trusts) (hsender : msgSender ≠ 0)
    (hs : EndpointStep keccak256 e env msgSender value call e') : e'.Trusts := by
  -- an event that verifies nothing
  have hother : ∀ {event : InboundEvent} {channel : MessagingChannel},
      (∀ p n x lib, InboundEvent.verified p n x lib ≠ event) → (e.note channel event).Trusts := by
    intro event channel hne
    refine ⟨h.tables, fun p n x lib hmem => h.libraries p n x lib ?_⟩
    exact (List.mem_cons.mp hmem).resolve_left (hne p n x lib)
  cases hs with
  | verify hvalid _ _ =>
    refine ⟨h.tables, fun p n x lib hmem => ?_⟩
    rcases List.mem_cons.mp hmem with heq | hmem
    · obtain ⟨_, _, _, rfl⟩ := InboundEvent.verified.inj heq
      exact ⟨hsender, (h.tables.valid hvalid).resolve_left hsender⟩
    · exact h.libraries p n x lib hmem
  | manage hlibs =>
    obtain ⟨htables, hknown⟩ := h.tables.exec hlibs
    refine ⟨htables, fun p n x lib hmem => ?_⟩
    obtain ⟨hne, hreg⟩ := h.libraries p n x lib hmem
    exact ⟨hne, (hknown lib (Or.inr hreg)).resolve_left hne⟩
  | lzReceive _ _ => exact hother fun _ _ _ _ => nofun
  | clear _ _ => exact hother fun _ _ _ _ => nofun
  | skip _ _ => exact hother fun _ _ _ _ => nofun
  | nilify _ _ => exact hother fun _ _ _ _ => nofun
  | burn _ _ => exact hother fun _ _ _ _ => nofun
  | send _ _ _ => exact ⟨h.tables, h.libraries⟩
  | sendCompose _ => exact ⟨h.tables, h.libraries⟩
  | lzCompose _ => exact ⟨h.tables, h.libraries⟩
  | setDelegate => exact ⟨h.tables, h.libraries⟩
  | setLzToken => exact ⟨h.tables, h.libraries⟩

/-! ## Every run -/

structure Endpoint.Sound (keccak256 : Bytes → Bytes32) (e : Endpoint) : Prop where
  tracks : e.Tracks keccak256
  trusts : e.Trusts

theorem Endpoint.Sound.step (h : e.Sound keccak256) (hsender : msgSender ≠ 0)
    (hs : EndpointStep keccak256 e env msgSender value call e') (hord : e'.Ordinary keccak256) :
    e'.Sound keccak256 :=
  ⟨h.tracks.step hs hord, h.trusts.step hsender hs⟩

theorem Endpoint.Sound.deploy (eid : Uint32) (owner blockedLibrary : Address) :
    (Endpoint.deploy eid owner blockedLibrary).Sound keccak256 where
  tracks := by
    intro path
    have hempty : (Endpoint.deploy eid owner blockedLibrary).inbox path = LazyInbox.empty := by
      refine LazyInbox.ext rfl (funext fun n => ?_)
      show (if n < 2 ^ 64 then MessagingChannel.confirmed 0 else none) = none
      rw [MessagingChannel.confirmed_zero, ite_self]
    rw [hempty]
    exact .nil
  trusts := ⟨.constructor owner blockedLibrary, fun _ _ _ _ hmem => absurd hmem List.not_mem_nil⟩

/-- **The run lemma.** -/
theorem Endpoint.Sound.run {P : Endpoint → EndpointAction → Prop} {l : List EndpointAction}
    (h : e.Sound keccak256) (hP : ∀ e a, P e a → a.Called)
    (hl : Machine.Follows (Endpoint.step keccak256) P e l)
    (hord : (e.run keccak256 l).Ordinary keccak256) :
    Machine.Follows (Endpoint.step keccak256) (fun e a => P e a ∧ e.Sound keccak256) e l ∧
      (e.run keccak256 l).Sound keccak256 :=
  hl.with_invariant_of_mono (C := fun e => e.Ordinary keccak256) Endpoint.ordinary_of_step
    (fun _ _ _ hok ha hord hI => hI.step (hP _ _ ha) (exec_step hok) hord) h hord

/-- What was put last in the history of a path was verified last, or nilified. -/
theorem verified_of_standing {payloadHash : Bytes32}
    (h : LazyInbox.standing (historyOf keccak256 path events) nonce.toNat = some payloadHash)
    (hne : payloadHash ≠ MessagingChannel.NIL_PAYLOAD_HASH) :
    ∃ later earlier library, events = later ++ .verified path nonce payloadHash library :: earlier ∧
      ∀ event ∈ later, event.path = path → event.nonce ≠ nonce := by
  obtain ⟨later', earlier', hsplit, hlater⟩ := LazyInbox.standing_eq_some h
  obtain ⟨l₁, l₂, hfilter, rfl, hl₂⟩ := List.map_eq_append_iff.mp hsplit
  obtain ⟨event, l₃, rfl, hact, rfl⟩ := List.map_eq_cons_iff.mp hl₂
  obtain ⟨m₁, m₂, rfl, rfl, hm₂⟩ := List.filter_eq_append_iff.mp hfilter
  obtain ⟨n₁, n₂, rfl, hn₁, hpath, rfl⟩ := List.filter_eq_cons_iff.mp hm₂
  -- the event that put it
  obtain ⟨library, rfl⟩ : ∃ library, event = .verified path nonce payloadHash library := by
    cases event with
    | verified p n x lib =>
      obtain ⟨hn, rfl⟩ := LazyInbox.Event.put.inj hact
      obtain rfl := BitVec.toNat_inj.mp hn
      obtain rfl : p = path := of_decide_eq_true hpath
      exact ⟨lib, rfl⟩
    | nilified p n => exact absurd (LazyInbox.Event.put.inj hact).2.symm hne
    | cleared x => cases hact
    | skipped p n => cases hact
    | burnt p n => cases hact
  refine ⟨m₁ ++ n₁, n₂, library, (List.append_assoc ..).symm, fun event hmem hp hn => ?_⟩
  rcases List.mem_append.mp hmem with hmem | hmem
  · refine hlater _ (List.mem_map_of_mem (List.mem_filter.mpr ⟨hmem, decide_eq_true hp⟩)) ?_
    rw [InboundEvent.number_act, hn]
  · exact hn₁ event hmem (decide_eq_true hp)

/-- What was cleared was verified last, with nothing missing below it, and nothing happens to it
    afterwards. -/
theorem Endpoint.Sound.cleared (h : e.Sound keccak256) (hord : e.Ordinary keccak256)
    {x : Clearing} {later earlier : List InboundEvent}
    (hlog : e.events = later ++ .cleared x :: earlier) :
    (∃ since before library,
      earlier = since ++ .verified x.path x.nonce (keccak256 x.payload) library :: before ∧
      (∀ event ∈ since, event.path = x.path → event.nonce ≠ x.nonce) ∧
      e.isRegisteredLibrary library = true) ∧
    (∀ n, 0 < n → n ≤ x.nonce → Confirmed earlier x.path n) ∧
    ∀ event ∈ later, event.path = x.path → event.nonce ≠ x.nonce := by
  have hhist := h.tracks x.path
  have hmem : .cleared x ∈ e.events := by
    rw [hlog]
    exact List.mem_append_right _ List.mem_cons_self
  have hsplit : historyOf keccak256 x.path e.events = historyOf keccak256 x.path later ++
      .take x.nonce.toNat (keccak256 x.payload) :: historyOf keccak256 x.path earlier := by
    rw [hlog]
    exact historyOf_split (.cleared x) rfl later earlier
  obtain ⟨hstands, hbelow⟩ := hhist.taken hsplit
  obtain ⟨_, hfinal⟩ := hhist.final hsplit rfl
  refine ⟨?_, fun n hpos hn => ?_, fun event hmem hpath hnonce => ?_⟩
  · obtain ⟨since, before, library, heq, hsince⟩ := verified_of_standing hstands (hord x hmem).2
    have hverified : .verified x.path x.nonce (keccak256 x.payload) library ∈ e.events := by
      rw [hlog, heq]
      simp
    exact ⟨since, before, library, heq, hsince, (h.trusts.libraries _ _ _ _ hverified).2⟩
  · exact confirmed_iff.mp (hbelow n.toNat hpos hn)
  · refine hfinal _ (mem_historyOf.mpr ⟨event, hmem, hpath, rfl⟩) ?_
    rw [InboundEvent.number_act, hnonce]
    rfl

/-- **The result of `inboundNonce`**, from the events. -/
theorem Endpoint.Sound.inboundNonce (h : e.Sound keccak256) (path : InboundPath) :
    ∃ n, e.inboundNonce path = .ok n ∧
      ∀ m, m ≤ n ↔ ∀ k, 0 < k → k ≤ m → Confirmed e.events path k := by
  have hhist := h.tracks path
  obtain ⟨n, hn, hfrontier⟩ := MessagingChannel.inboundNonce_spec hhist.dead_zero
  obtain ⟨hbelow, hnext⟩ := hhist.frontier_iff.mp hfrontier
  refine ⟨n, hn, fun m => ⟨fun hm k hpos hk => ?_, fun hall => ?_⟩⟩
  · exact confirmed_iff.mp (hbelow k.toNat hpos (Nat.le_trans hk hm))
  · by_contra hlt
    have hlt' : n.toNat < m.toNat := Nat.lt_of_not_le hlt
    have hsucc := MessagingChannel.toNat_succ (Nat.lt_of_le_of_lt (Nat.succ_le_of_lt hlt') m.isLt)
    refine hnext (hsucc ▸ confirmed_iff.mpr (hall (n + 1) ?_ ?_))
    · show 0 < (n + 1).toNat
      omega
    · show (n + 1).toNat ≤ m.toNat
      omega

/-- One action, successful or not: it keeps what was received, and a call that receives nothing
    adds nothing to it. -/
theorem Endpoint.confirmed_apply (e : Endpoint) (a : EndpointAction) :
    (Confirmed e.events path nonce →
      Confirmed (Machine.apply (Endpoint.step keccak256) e a).events path nonce) ∧
    (¬ a.call.Receives → Confirmed (Machine.apply (Endpoint.step keccak256) e a).events path nonce →
      Confirmed e.events path nonce) := by
  rcases Machine.apply_cases (Endpoint.step keccak256) e a with hok | heq
  · have hs := Endpoint.exec_step hok
    refine ⟨fun ⟨event, hmem, hspec⟩ => ⟨event, hs.events_sub hmem, hspec⟩, fun hcall hconf => ?_⟩
    exact (hs.confirmed_iff hcall).mp hconf
  · rw [heq]
    exact ⟨id, fun _ => id⟩

/-- **What an action does to `inboundNonce`.** -/
theorem Endpoint.Sound.inboundNonce_apply (h : e.Sound keccak256) (a : EndpointAction)
    (h' : (Machine.apply (Endpoint.step keccak256) e a).Sound keccak256) (path : InboundPath) :
    ∃ n n', e.inboundNonce path = .ok n ∧
      (Machine.apply (Endpoint.step keccak256) e a).inboundNonce path = .ok n' ∧
      n ≤ n' ∧ (¬ a.call.Receives → n' = n) := by
  obtain ⟨n, hn, hiff⟩ := h.inboundNonce path
  obtain ⟨n', hn', hiff'⟩ := h'.inboundNonce path
  have hle : n ≤ n' := (hiff' n).mpr fun k hpos hk =>
    (e.confirmed_apply a).1 ((hiff n).mp (BitVec.le_refl n) k hpos hk)
  refine ⟨n, n', hn, hn', hle, fun hcall => BitVec.le_antisymm ((hiff n').mpr ?_) hle⟩
  exact fun k hpos hk =>
    (e.confirmed_apply a).2 hcall ((hiff' n').mp (BitVec.le_refl n') k hpos hk)

section Deployed

variable {eid : Uint32} {owner blockedLibrary : Address} {l : List EndpointAction}

theorem Endpoint.sound_of_run (hl : ∀ a ∈ l, a.Called)
    (hord : ((Endpoint.deploy eid owner blockedLibrary).run keccak256 l).Ordinary keccak256) :
    ((Endpoint.deploy eid owner blockedLibrary).run keccak256 l).Sound keccak256 :=
  ((Endpoint.Sound.deploy eid owner blockedLibrary).run (fun _ _ ha => ha)
    (Machine.follows_of_forall (fun a ha _ => hl a ha) _) hord).2

/-- **What is delivered.**  A cleared message was verified, as the last thing that happened to its
    nonce, by a registered library; no lower nonce of the path was missing; and nothing happens to
    its nonce afterwards, so that it is cleared once. -/
theorem delivered_once (hl : ∀ a ∈ l, a.Called)
    (hord : ((Endpoint.deploy eid owner blockedLibrary).run keccak256 l).Ordinary keccak256)
    {x : Clearing} {later earlier : List InboundEvent}
    (hlog : ((Endpoint.deploy eid owner blockedLibrary).run keccak256 l).events
      = later ++ .cleared x :: earlier) :
    (∃ since before library,
      earlier = since ++ .verified x.path x.nonce (keccak256 x.payload) library :: before ∧
      (∀ event ∈ since, event.path = x.path → event.nonce ≠ x.nonce) ∧
      ((Endpoint.deploy eid owner blockedLibrary).run keccak256 l).isRegisteredLibrary library
        = true) ∧
    (∀ n, 0 < n → n ≤ x.nonce → Confirmed earlier x.path n) ∧
    ∀ event ∈ later, event.path = x.path → event.nonce ≠ x.nonce :=
  (Endpoint.sound_of_run hl hord).cleared hord hlog

/-- **What `inboundNonce` returns**: the number of nonces received without a gap, where a nonce is
    received when it is verified, skipped or nilified.  Along the run it never decreases, and only a
    verification, a skip or a nilification moves it. -/
theorem inboundNonce_of_run (hl : ∀ a ∈ l, a.Called)
    (hord : ((Endpoint.deploy eid owner blockedLibrary).run keccak256 l).Ordinary keccak256)
    (path : InboundPath) :
    (∃ n, ((Endpoint.deploy eid owner blockedLibrary).run keccak256 l).inboundNonce path = .ok n ∧
      ∀ m, m ≤ n ↔ ∀ k, 0 < k → k ≤ m →
        Confirmed ((Endpoint.deploy eid owner blockedLibrary).run keccak256 l).events path k) ∧
    ∀ l₁ a l₂, l = l₁ ++ a :: l₂ → ∃ n n',
      ((Endpoint.deploy eid owner blockedLibrary).run keccak256 l₁).inboundNonce path = .ok n ∧
      ((Endpoint.deploy eid owner blockedLibrary).run keccak256 (l₁ ++ [a])).inboundNonce path
        = .ok n' ∧
      n ≤ n' ∧ (¬ a.call.Receives → n' = n) := by
  refine ⟨(Endpoint.sound_of_run hl hord).inboundNonce path, ?_⟩
  rintro l₁ a l₂ rfl
  -- before the call and after it, the state is sound
  have hrun : ∀ l l', (Endpoint.deploy eid owner blockedLibrary).run keccak256 (l ++ l') =
      ((Endpoint.deploy eid owner blockedLibrary).run keccak256 l).run keccak256 l' :=
    fun l l' => Machine.run_append _ _ _
  rw [← List.singleton_append, ← List.append_assoc] at hl hord
  rw [hrun] at hord
  have hord' := Endpoint.ordinary_of_run hord
  have hsound' := Endpoint.sound_of_run (fun x hx => hl x (List.mem_append_left _ hx)) hord'
  rw [hrun] at hord' hsound' ⊢
  rw [List.append_assoc] at hl
  have hsound := Endpoint.sound_of_run (fun x hx => hl x (List.mem_append_left _ hx))
    (Endpoint.ordinary_of_run hord')
  exact hsound.inboundNonce_apply a hsound' path

end Deployed

namespace Sample

/-- An application that stands at one address on both chains. -/
def oapp : Address := 0xada97e02ada97e02ada97e02ada97e02ada97e02

def arbEid : Uint32 := 30110

def optEid : Uint32 := 30111

def endpointOwner : Address := 0x1804c8AB1F12E6bbf3894d4083f33e07309d1f38

def executor : Address := 0x2CCA08ae69E0C44b18a57Ab2A87644234dAebaE4

def receiveUln : Address := 0x3c4962Ff6258dcfCafD23a814237B7d6Eb712063

def greeting : Bytes := "hello".toUTF8.toList

/-- The ids of the first two packets from Arbitrum. -/
def firstGuid : Bytes32 := 0x9671f6cca8330a5bfd9746ea7739275589badfb64d03e86fe46022f76fdeb60c

def secondGuid : Bytes32 := 0x5e10f1a52a9384002e315979068bd309e3693aac3f6de85ecd147e0fe3550c06

/-- The hash function on what the runs of the endpoints hash. -/
def packetKeccak (b : Bytes) : Bytes32 :=
  if b = GUID.input 1 arbEid oapp optEid (toBytes32 oapp) then firstGuid
  else if b = GUID.input 2 arbEid oapp optEid (toBytes32 oapp) then secondGuid
  else if b = EndpointV2.payloadOf firstGuid greeting then
    0x7c5d27cb65acc63ca96583e28828883921b40387af3e6341c7e4ada22bccc50c
  else if b = EndpointV2.payloadOf secondGuid greeting then
    0x595e4c94bbb8fb11c6a08501ead8fb00f96f306b3bac312ae915fbd63febd0bc
  else 0

/-- Everything outside agrees, and nothing costs anything. -/
def endpointEnv : EndpointEnv where
  blockNumber := 0
  supportsInterface := fun _ => true
  messageLibType := fun _ => .SendAndReceive
  isSupportedEid := fun _ _ => true
  send := fun _ _ _ _ => some ⟨0, 0⟩
  allowInitializePath := fun _ _ => some true
  lzReceive := fun _ _ _ _ _ _ _ => true
  lzCompose := fun _ _ _ _ _ _ _ => true
  lzTokenBalance := 0
  transfer := fun _ _ => true
  transferToken := fun _ _ _ => true

def optEndpoint : Endpoint := .deploy optEid endpointOwner 0x1ccBf0db9C192d969de57E25B3fF09A25bb1D862

def fromArb (nonce : Uint64) : Origin := ⟨arbEid, toBytes32 oapp, nonce⟩

def by_ (msgSender : Address) (call : LzCall) : EndpointAction := ⟨endpointEnv, msgSender, 0, call⟩

def verifies (nonce : Uint64) (guid : Bytes32) : EndpointAction :=
  by_ receiveUln (.verify (fromArb nonce) oapp (packetKeccak (EndpointV2.payloadOf guid greeting)))

def delivers (nonce : Uint64) (guid : Bytes32) : EndpointAction :=
  by_ executor (.lzReceive (fromArb nonce) oapp guid greeting [])

/-- The owner names the library ... -/
def configured : List EndpointAction :=
  [ by_ endpointOwner (.manage (.registerLibrary receiveUln)),
    by_ endpointOwner (.manage (.setDefaultReceiveLibrary arbEid receiveUln 0)) ]

/-- ... which verifies the second message before the first one; the second is delivered first. -/
def deliveries : List EndpointAction :=
  configured ++ [verifies 2 secondGuid, verifies 1 firstGuid, delivers 2 secondGuid,
    delivers 1 firstGuid]

def verifiedEvent (nonce : Uint64) (guid : Bytes32) : InboundEvent :=
  .verified ⟨oapp, arbEid, toBytes32 oapp⟩ nonce (packetKeccak (EndpointV2.payloadOf guid greeting))
    receiveUln

def clearedEvent (nonce : Uint64) (guid : Bytes32) : InboundEvent :=
  .cleared ⟨⟨oapp, arbEid, toBytes32 oapp⟩, nonce, guid, greeting, true⟩

theorem deliveries_events : (optEndpoint.run packetKeccak deliveries).events =
    [clearedEvent 1 firstGuid, clearedEvent 2 secondGuid, verifiedEvent 1 firstGuid,
      verifiedEvent 2 secondGuid] := by
  decide +kernel

theorem deliveries_called : ∀ a ∈ deliveries, a.Called := by
  unfold EndpointAction.Called
  decide +kernel

theorem deliveries_ordinary : (optEndpoint.run packetKeccak deliveries).Ordinary packetKeccak := by
  intro x hx
  rw [deliveries_events] at hx
  simp only [List.mem_cons, List.not_mem_nil, or_false, clearedEvent, verifiedEvent, reduceCtorEq,
    InboundEvent.cleared.injEq] at hx
  rcases hx with rfl | rfl <;> exact ⟨by decide +kernel, by decide +kernel⟩

end Sample

theorem delivered_once_second :
    (∃ since before library,
      [Sample.verifiedEvent 1 Sample.firstGuid, Sample.verifiedEvent 2 Sample.secondGuid] = since ++
        .verified ⟨Sample.oapp, Sample.arbEid, toBytes32 Sample.oapp⟩ 2
          (Sample.packetKeccak (EndpointV2.payloadOf Sample.secondGuid Sample.greeting)) library ::
          before ∧
      (∀ event ∈ since, event.path = ⟨Sample.oapp, Sample.arbEid, toBytes32 Sample.oapp⟩ →
        event.nonce ≠ 2) ∧
      (Sample.optEndpoint.run Sample.packetKeccak Sample.deliveries).isRegisteredLibrary library
        = true) ∧
    (∀ n, 0 < n → n ≤ 2 → Confirmed
      [Sample.verifiedEvent 1 Sample.firstGuid, Sample.verifiedEvent 2 Sample.secondGuid]
      ⟨Sample.oapp, Sample.arbEid, toBytes32 Sample.oapp⟩ n) ∧
    ∀ event ∈ [Sample.clearedEvent 1 Sample.firstGuid],
      event.path = ⟨Sample.oapp, Sample.arbEid, toBytes32 Sample.oapp⟩ → event.nonce ≠ 2 :=
  delivered_once
    (x := ⟨⟨Sample.oapp, Sample.arbEid, toBytes32 Sample.oapp⟩, 2, Sample.secondGuid,
      Sample.greeting, true⟩)
    Sample.deliveries_called Sample.deliveries_ordinary Sample.deliveries_events

/-- The first two nonces were received, and no third. -/
theorem inboundNonce_of_run_deliveries :
    (∃ n, (Sample.optEndpoint.run Sample.packetKeccak Sample.deliveries).inboundNonce
        ⟨Sample.oapp, Sample.arbEid, toBytes32 Sample.oapp⟩ = .ok n ∧
      ∀ m, m ≤ n ↔ ∀ k, 0 < k → k ≤ m → Confirmed
        (Sample.optEndpoint.run Sample.packetKeccak Sample.deliveries).events
        ⟨Sample.oapp, Sample.arbEid, toBytes32 Sample.oapp⟩ k) ∧
    ∀ l₁ a l₂, Sample.deliveries = l₁ ++ a :: l₂ → ∃ n n',
      (Sample.optEndpoint.run Sample.packetKeccak l₁).inboundNonce
        ⟨Sample.oapp, Sample.arbEid, toBytes32 Sample.oapp⟩ = .ok n ∧
      (Sample.optEndpoint.run Sample.packetKeccak (l₁ ++ [a])).inboundNonce
        ⟨Sample.oapp, Sample.arbEid, toBytes32 Sample.oapp⟩ = .ok n' ∧
      n ≤ n' ∧ (¬ a.call.Receives → n' = n) :=
  inboundNonce_of_run Sample.deliveries_called Sample.deliveries_ordinary _

/-! ## Anyone can deliver -/

/-- Neither the receiver's doing, nor a verification of another hash. -/
def EndpointAction.Leaves (path : InboundPath) (nonce : Uint64) (payloadHash : Bytes32) (e : Endpoint)
    (a : EndpointAction) : Prop :=
  ¬ e.Authorized a.msgSender path.receiver ∧
    ∀ origin receiver payloadHash', a.call = .verify origin receiver payloadHash' →
      EndpointV2.pathOf origin receiver = path → origin.nonce = nonce → payloadHash' = payloadHash

/-- A payload hash stands for its nonce, or a payload with this hash was cleared. -/
def Endpoint.Awaits (keccak256 : Bytes → Bytes32) (path : InboundPath) (nonce : Uint64)
    (payloadHash : Bytes32) (e : Endpoint) : Prop :=
  (e.inbox path).slot nonce.toNat = some payloadHash ∨
    ∃ x, .cleared x ∈ e.events ∧ x.path = path ∧ x.nonce = nonce ∧
      keccak256 x.payload = payloadHash

/-- Who makes which events. -/
theorem EndpointStep.event_cases {event : InboundEvent}
    (hs : EndpointStep keccak256 e env msgSender value call e')
    (h : e'.events = event :: e.events) :
    (∃ x, event = .cleared x) ∨ e.Authorized msgSender event.path.receiver ∨
      ∃ origin receiver payloadHash, call = .verify origin receiver payloadHash ∧
        event = .verified (EndpointV2.pathOf origin receiver) origin.nonce payloadHash msgSender := by
  cases hs with
  | verify _ _ _ =>
    obtain ⟨rfl, _⟩ := List.cons.inj h
    exact Or.inr (Or.inr ⟨_, _, _, rfl, rfl⟩)
  | lzReceive _ _ =>
    obtain ⟨rfl, _⟩ := List.cons.inj h
    exact Or.inl ⟨_, rfl⟩
  | clear _ _ =>
    obtain ⟨rfl, _⟩ := List.cons.inj h
    exact Or.inl ⟨_, rfl⟩
  | skip hauth _ =>
    obtain ⟨rfl, _⟩ := List.cons.inj h
    exact Or.inr (Or.inl hauth)
  | nilify hauth _ =>
    obtain ⟨rfl, _⟩ := List.cons.inj h
    exact Or.inr (Or.inl hauth)
  | burn hauth _ =>
    obtain ⟨rfl, _⟩ := List.cons.inj h
    exact Or.inr (Or.inl hauth)
  | send _ _ _ => exact absurd h.symm (List.cons_ne_self _ _)
  | sendCompose _ => exact absurd h.symm (List.cons_ne_self _ _)
  | lzCompose _ => exact absurd h.symm (List.cons_ne_self _ _)
  | setDelegate => exact absurd h.symm (List.cons_ne_self _ _)
  | setLzToken => exact absurd h.symm (List.cons_ne_self _ _)
  | manage _ => exact absurd h.symm (List.cons_ne_self _ _)

/-- **A call that leaves a hash alone** lets it stand, or clears it. -/
theorem Endpoint.Awaits.step {payloadHash : Bytes32} {a : EndpointAction}
    (h : e.Awaits keccak256 path nonce payloadHash) (htracks : e.Tracks keccak256)
    (ha : a.Leaves path nonce payloadHash e)
    (hs : EndpointStep keccak256 e a.env a.msgSender a.value a.call e')
    (hord : e'.Ordinary keccak256) : e'.Awaits keccak256 path nonce payloadHash := by
  rcases h with hslot | ⟨x, hx, hspec⟩
  swap
  · exact Or.inr ⟨x, hs.events_sub hx, hspec⟩
  rcases hs.moves (fun p => (htracks p).dead_zero) hord with
    ⟨_, hinbox⟩ | ⟨event, hevents, hmoves⟩
  · exact Or.inl (by rw [hinbox]; exact hslot)
  by_cases hpath : path = event.path
  swap
  · exact Or.inl (by rw [hmoves.others path hpath]; exact hslot)
  subst hpath
  have hslot' := hmoves.step.slot_eq nonce.toNat
  simp only [InboundEvent.number_act, BitVec.toNat_inj] at hslot'
  by_cases hnonce : nonce = event.nonce
  swap
  · exact Or.inl (by rw [hslot', if_neg hnonce]; exact hslot)
  subst hnonce
  -- the event is about this very nonce
  rcases hs.event_cases hevents with ⟨x, rfl⟩ | hauth | ⟨origin, receiver, hash, hcall, rfl⟩
  · refine Or.inr ⟨x, by rw [hevents]; exact List.mem_cons_self, rfl, rfl, ?_⟩
    -- what was cleared is what stood there
    exact Option.some.inj (hmoves.step.slot_of_take.symm.trans hslot)
  · exact absurd hauth ha.1
  · obtain rfl := ha.2 _ _ _ hcall rfl rfl
    exact Or.inl (by rw [hslot', if_pos rfl]; rfl)

/-- **What stands can be delivered**, once nothing is missing below it. -/
theorem Endpoint.Sound.delivers {e : Endpoint} (h : e.Sound keccak256) (origin : Origin)
    (receiver : Address) (guid : Bytes32) (message extraData : Bytes)
    (hslot : (e.inbox (EndpointV2.pathOf origin receiver)).slot origin.nonce.toNat
      = some (keccak256 (EndpointV2.payloadOf guid message)))
    (hbelow : ∀ n, 0 < n → n < origin.nonce →
      Confirmed e.events (EndpointV2.pathOf origin receiver) n)
    (hlast : origin.nonce.toNat + 1 < 2 ^ 64)
    (haccept : env.lzReceive receiver value origin guid message msgSender extraData = true) :
    ∃ e', e.exec keccak256 env msgSender value
      (.lzReceive origin receiver guid message extraData) = .ok e' := by
  have hhist := h.tracks (EndpointV2.pathOf origin receiver)
  -- nothing is missing: what is below was received, and the message is there
  have hgap : (e.inbox (EndpointV2.pathOf origin receiver)).Gapless origin.nonce.toNat := by
    intro m hm hmn
    rcases Nat.eq_or_lt_of_le hmn with rfl | hlt
    · rw [hslot]; exact Option.some_ne_none _
    · have hm64 : m < 2 ^ 64 := Nat.lt_trans hlt origin.nonce.isLt
      have hto : (BitVec.ofNat 64 m).toNat = m := by
        rw [BitVec.toNat_ofNat, Nat.mod_eq_of_lt hm64]
      have hconf := hbelow (BitVec.ofNat 64 m) (by show 0 < (BitVec.ofNat 64 m).toNat; omega)
        (by show (BitVec.ofNat 64 m).toNat < origin.nonce.toNat; omega)
      have hsettled := (hhist.settled_iff m).mpr (Or.inr (hto ▸ confirmed_iff.mpr hconf))
      exact hsettled.resolve_left (Nat.not_le.mpr hm)
  have hhash : e.inboundPayloadHash (EndpointV2.pathOf origin receiver) origin.nonce
      = keccak256 (EndpointV2.payloadOf guid message) := by
    rw [MessagingChannel.slot_toNat] at hslot
    by_cases hzero : e.inboundPayloadHash (EndpointV2.pathOf origin receiver) origin.nonce = 0
    · rw [hzero, MessagingChannel.confirmed_zero] at hslot
      cases hslot
    · rw [MessagingChannel.confirmed_of_ne hzero] at hslot
      exact Option.some.inj hslot
  have hclear : e._clearPayload keccak256 (EndpointV2.pathOf origin receiver) origin.nonce
      (EndpointV2.payloadOf guid message) = .ok _ :=
    (MessagingChannel._clearPayload_eq_ok hhist.dead_zero).mpr
      ⟨hgap, fun _ => hlast, hhash, rfl⟩
  rw [Endpoint.exec_of_payable rfl]
  simp only [Endpoint.dispatch, EndpointV2.lzReceive, hclear, ok_seq, refuseIf, haccept]
  exact ⟨_, rfl⟩

/-- **Anyone can deliver.**  After a hash was verified, let anyone but the receiver and its delegate
    do anything, except for a verification of another hash for the same nonce.  Once nothing is
    missing below, a payload with this hash has been cleared; or anyone can have the message
    delivered, if the receiver takes it. -/
theorem anyone_delivers {eid : Uint32} {owner blockedLibrary library : Address}
    {l l' : List EndpointAction} {origin : Origin} {receiver : Address} {guid : Bytes32} {message : Bytes}
    (hl : ∀ a ∈ l, a.Called) (hlibrary : library ≠ 0)
    (hverify : ((Endpoint.deploy eid owner blockedLibrary).run keccak256 l).exec keccak256 env library
      value (.verify origin receiver (keccak256 (EndpointV2.payloadOf guid message))) = .ok e)
    (hl' : Machine.Follows (Endpoint.step keccak256) (fun e a => a.Called ∧
      a.Leaves (EndpointV2.pathOf origin receiver) origin.nonce
        (keccak256 (EndpointV2.payloadOf guid message)) e) e l')
    (hord : (e.run keccak256 l').Ordinary keccak256)
    (hbelow : ∀ n, 0 < n → n < origin.nonce →
      Confirmed (e.run keccak256 l').events (EndpointV2.pathOf origin receiver) n)
    (hlast : origin.nonce.toNat + 1 < 2 ^ 64) :
    (∃ x, .cleared x ∈ (e.run keccak256 l').events ∧ x.path = EndpointV2.pathOf origin receiver ∧
      x.nonce = origin.nonce ∧
      keccak256 x.payload = keccak256 (EndpointV2.payloadOf guid message)) ∨
    ∀ env msgSender value extraData,
      env.lzReceive receiver value origin guid message msgSender extraData = true →
      ∃ e', (e.run keccak256 l').exec keccak256 env msgSender value
        (.lzReceive origin receiver guid message extraData) = .ok e' := by
  have hord₁ : e.Ordinary keccak256 := Endpoint.ordinary_of_run hord
  have hs := Endpoint.exec_step hverify
  have hsound := (Endpoint.sound_of_run hl (hs.ordinary hord₁)).step hlibrary hs hord₁
  -- the verification puts the hash, which then stands until it is cleared
  obtain ⟨hne, hawaits⟩ : keccak256 (EndpointV2.payloadOf guid message) ≠ 0 ∧
      e.Awaits keccak256 (EndpointV2.pathOf origin receiver) origin.nonce
        (keccak256 (EndpointV2.payloadOf guid message)) := by
    cases hs with
    | verify _ hlive hhash =>
      have hput := (MessagingChannel.Moves.put hhash hlive).step.slot_eq origin.nonce.toNat
      exact ⟨hhash, Or.inl (hput.trans (if_pos rfl))⟩
  obtain ⟨hsound', hawaits'⟩ := (hl'.with_invariant_of_mono
    (I := fun e => e.Sound keccak256 ∧ e.Awaits keccak256 (EndpointV2.pathOf origin receiver)
      origin.nonce (keccak256 (EndpointV2.payloadOf guid message)))
    Endpoint.ordinary_of_step (fun s a s' hok ha hs' hI => ⟨hI.1.step ha.1 (Endpoint.exec_step hok) hs',
      hI.2.step hI.1.tracks ha.2 (Endpoint.exec_step hok) hs'⟩) ⟨hsound, hawaits⟩ hord).2
  change Endpoint.Sound keccak256 (e.run keccak256 l') at hsound'
  change Endpoint.Awaits _ _ _ _ (e.run keccak256 l') at hawaits'
  generalize e.run keccak256 l' = s at *
  rcases hawaits' with hslot | hcleared
  swap
  · exact Or.inl hcleared
  refine Or.inr fun env msgSender value extraData haccept => ?_
  exact hsound'.delivers origin receiver guid message extraData hslot hbelow hlast haccept

namespace Sample

/-- After the messages are verified, somebody sends one. -/
def sends : List EndpointAction :=
  [by_ executor (.send ⟨arbEid, toBytes32 oapp, greeting, [], false⟩ executor)]

theorem sends_leaves (e : Endpoint) (h : e.delegates oapp = 0) {nonce : Uint64}
    {payloadHash : Bytes32} : Machine.Follows (Endpoint.step packetKeccak) (fun e a => a.Called ∧
      a.Leaves ⟨oapp, arbEid, toBytes32 oapp⟩ nonce payloadHash e) e sends := by
  refine ⟨⟨by unfold EndpointAction.Called; decide, ?_, fun _ _ _ => nofun⟩, trivial⟩
  rintro (hsender | hsender)
  · revert hsender; decide
  · rw [h] at hsender
    revert hsender; decide

/-- The library verified the first message ... -/
def receivedFirst : List EndpointAction := configured ++ [verifies 1 firstGuid]

def receivedEndpoint : Endpoint := optEndpoint.run packetKeccak receivedFirst

/-- ... and then the second one. -/
def verifiedEndpoint : Endpoint :=
  Machine.apply (Endpoint.step packetKeccak) receivedEndpoint (verifies 2 secondGuid)

theorem receivedFirst_called : ∀ a ∈ receivedFirst, a.Called := by
  unfold EndpointAction.Called
  decide +kernel

theorem verified_ok :
    Endpoint.step packetKeccak receivedEndpoint (verifies 2 secondGuid) = .ok verifiedEndpoint := by
  rcases Machine.apply_cases (Endpoint.step packetKeccak) receivedEndpoint (verifies 2 secondGuid)
    with hok | heq
  · exact hok
  · exact absurd (congrArg (fun e : Endpoint => e.events.length) heq) (by decide +kernel)

theorem sends_events : (verifiedEndpoint.run packetKeccak sends).events =
    [verifiedEvent 2 secondGuid, verifiedEvent 1 firstGuid] := by
  decide +kernel

theorem sends_ordinary : (verifiedEndpoint.run packetKeccak sends).Ordinary packetKeccak := by
  intro x hx
  rw [sends_events] at hx
  simp [verifiedEvent] at hx

/-- The only nonce below the second. -/
theorem eq_one_of_lt_two {n : Uint64} (hpos : 0 < n) (hn : n < 2) : n = 1 := by
  have hpos' : 0 < n.toNat := hpos
  have hn' : n.toNat < 2 := hn
  exact BitVec.eq_of_toNat_eq (by show n.toNat = 1; omega)

end Sample

/-- The second message, over the first one, which was received. -/
theorem anyone_delivers_second :
    (∃ x, .cleared x ∈ (Sample.verifiedEndpoint.run Sample.packetKeccak Sample.sends).events ∧
      x.path = EndpointV2.pathOf (Sample.fromArb 2) Sample.oapp ∧ x.nonce = 2 ∧
      Sample.packetKeccak x.payload
        = Sample.packetKeccak (EndpointV2.payloadOf Sample.secondGuid Sample.greeting)) ∨
    ∀ env msgSender value extraData, env.lzReceive Sample.oapp value (Sample.fromArb 2)
        Sample.secondGuid Sample.greeting msgSender extraData = true →
      ∃ e', (Sample.verifiedEndpoint.run Sample.packetKeccak Sample.sends).exec Sample.packetKeccak
        env msgSender value (.lzReceive (Sample.fromArb 2) Sample.oapp Sample.secondGuid
          Sample.greeting extraData) = .ok e' :=
  anyone_delivers (l := Sample.receivedFirst) Sample.receivedFirst_called (by decide)
    Sample.verified_ok (Sample.sends_leaves _ (by decide +kernel)) Sample.sends_ordinary
    (fun n hpos hn => by
      obtain rfl := Sample.eq_one_of_lt_two hpos hn
      rw [Sample.sends_events]
      exact ⟨_, List.mem_cons_of_mem _ List.mem_cons_self, trivial, rfl, rfl⟩)
    (by decide)

end CrossRWA
