/-
  What redundancy buys.

  * `executed_once`: in every run, on every chain, no message executes twice, and each executed
    with a quorum of different adapters behind it, all of which brought that very message.
  * A `Guard` names clients that ask for a quorum above the number of their FAULTY adapters; the
    other adapters such a client admits are honest, that is, they bring what the router of the
    chain they name gave to an adapter (`Guarded`).
  * `redundant_channel`: between any two chains, the messages routed and the messages executed at
    guarded clients form an exactly-once channel.  An executed message was routed on the chain and
    by the sender it names, to this chain and this client, with this payload.

  The argument is one step of counting: a quorum above the number of faulty adapters has an honest
  one among its voters, and the tally knows what that one brought.
-/
import CrossRWA.Redundancy.Network
import CrossRWA.Lib.OnceChannel
import CrossRWA.Scripts

set_option linter.unusedSectionVars false

namespace CrossRWA

variable {ι : Type} [DecidableEq ι] {keccak256 : Bytes → Bytes32} {T : Topology ι}
  {w : Network ι} {n n' : Relay} {i : ι} {chainId : Uint256}

/-! ## Two chains and two adapters -/

namespace Sample

/-- The scripts' two chains, without the scripts. -/
def topology : Topology Side := ⟨fun s => ⟨s.router, 0⟩, Side.chainId, by decide⟩

def network : Network Side := fun s => ⟨Chain.initial (routers s) (clock s), []⟩

/-- A contract on `opt` that takes messages from anyone, and asks for a quorum. -/
def receiver : Address := recorded.mediator .opt .wh

def receiverEnv (quorum : Nat) : Env :=
  { env with client := fun a =>
      if a = receiver then ⟨fun _ _ => .ok true, fun _ _ _ => .ok quorum⟩ else Client.noCode }

/-- A message to it from an account on `arb`, through two adapters. -/
def routeTwice (quorum : Nat) : NetworkAction Side :=
  .call .arb (receiverEnv quorum) (recorded.mediator .arb .wh) 200000000000000
    (.route 10 (toBytes32 receiver) payload [3, 2]
      [⟨0, 100000000000000⟩, ⟨0, 100000000000000⟩] deployer true)

/-- One adapter brings it. -/
def bring (quorum : Nat) (gmpId : Uint8) : NetworkAction Side :=
  .call .opt (receiverEnv quorum) (adapter gmpId) 0
    (.receiveMessage 42161 (encodeGlacisPayload firstMessage payload))

/-- The message goes out, and both adapters bring it. -/
def brought : List (NetworkAction Side) := [routeTwice 2, bring 2 3, bring 2 2]

theorem network_new (s : Side) : (network s).New (topology.chainId s) where
  fresh := ⟨fun _ => rfl, fun _ _ => rfl, fun _ => rfl, rfl, rfl⟩
  chainId_eq := rfl
  senders := fun _ => rfl
  routed := rfl
  packets := rfl
  placed := fun _ _ h => absurd h (by simp [network, Chain.initial])

instance (w : Network Side) : Decidable (w.NoCollision keccak) :=
  inferInstanceAs (Decidable (∀ i j, CollisionFree keccak ((w i).hashed ++ (w j).hashed)))

theorem network_called {l : List (NetworkAction Side)} (h : ∀ a ∈ l, a.Called) :
    Machine.Follows (Network.step keccak topology) (fun _ a => a.Called) network l :=
  Machine.follows_of_forall (fun a ha _ => h a ha) _

theorem brought_noCollision : (network.run keccak topology brought).NoCollision keccak := by
  decide +kernel

end Sample

/-! ## Once, with a quorum -/

/-- What stands behind an execution: a quorum of different adapters that brought it. -/
structure Execution.ByQuorum (n : Relay) (x : Execution) : Prop where
  quorum_pos : 0 < x.quorum
  quorum_le : x.quorum ≤ x.fromAdapters.length
  nodup : x.fromAdapters.Nodup
  brought : ∀ a ∈ x.fromAdapters, ∃ e ∈ n.deliveries, e.adapter = a ∧ e.glacisData = x.glacisData ∧
    e.payload = x.payload ∧ e.fromChainId = x.fromChainId

theorem Tally.byQuorum (h : Tally keccak256 chainId n) (hfree : CollisionFree keccak256 n.hashed)
    {x : Execution} (hx : x ∈ n.executions) : x.ByQuorum n := by
  have hb := h.backed x hx
  refine ⟨hb.quorum_pos, hb.quorum_le, hb.adapters.sublist.nodup (h.lists_nodup _), ?_⟩
  intro a ha
  have hlist := hb.adapters.subset ha
  rw [h.lists] at hlist
  obtain ⟨e, he, rfl⟩ := List.mem_map.mp hlist
  obtain ⟨hmem, hid⟩ := Chain.mem_deliveriesOf.mp he
  -- an id determines the message
  obtain ⟨_, hfrom, hdata, hpay⟩ := Delivery.Valid.inj hfree (h.valid e hmem) (hb.valid e.adapter)
    (h.inputs e hmem) (hb.inputs e.adapter) hid
  exact ⟨e, hmem, rfl, hdata, hpay, hfrom⟩

/-- **At most once, and only by a quorum.**  Whatever clients ask, whoever calls, in whatever
    order. -/
theorem executed_once {l : List (NetworkAction ι)} (hnew : ∀ i, (w i).New (T.chainId i))
    (hl : Machine.Follows (Network.step keccak256 T) (fun _ a => a.Called) w l)
    (hfree : (w.run keccak256 T l).NoCollision keccak256) (i : ι) :
    ((w.run keccak256 T l i).executions.map Execution.messageId).Nodup ∧
      ∀ x ∈ (w.run keccak256 T l i).executions, x.ByQuorum (w.run keccak256 T l i) := by
  have hsound := (network_of_run (I := fun _ => True) (fun _ _ ha => ha)
    (fun _ _ _ _ _ _ _ _ _ _ => trivial) hl (fun j => (hnew j).sound) trivial hfree).1 i
  exact ⟨hsound.tally.executions_nodup, fun x hx => hsound.tally.byQuorum (hfree.chain i) hx⟩

theorem executed_once_brought :
    ((Sample.network.run Sample.keccak Sample.topology Sample.brought .opt).executions.map
        Execution.messageId).Nodup ∧
      ∀ x ∈ (Sample.network.run Sample.keccak Sample.topology Sample.brought .opt).executions,
        x.ByQuorum (Sample.network.run Sample.keccak Sample.topology Sample.brought .opt) :=
  executed_once Sample.network_new (Sample.network_called (by decide)) Sample.brought_noCollision .opt

/-! ## Guarded clients -/

/-- The client of a received message. -/
def GlacisData.client (d : GlacisData) : Address := toAddress d.originalTo

/-- The head of a routed message. -/
def Message.data (m : Message) : GlacisData := ⟨m.messageId, m.nonce, toBytes32 m.sender, m.to_⟩

/-- Clients that want more adapters than can be faulty among those they admit. -/
structure Guard (ι : Type) where
  guarded : ι → Address → Bool
  faulty : ι → Address → List Address

/-- Bytes that the router of the named chain gave to an adapter. -/
def Network.Genuine (T : Topology ι) (w : Network ι) (fromChainId : Uint256)
    (glacisPayload : Bytes) : Prop :=
  ∃ j, T.chainId j = fromChainId ∧ ∃ pk ∈ (w j).packets, pk.payload = glacisPayload

/-- A guarded client asks for a quorum above the number of its faulty adapters. -/
def Guard.Demands (G : Guard ι) (i : ι) (n : Relay) (env : Env) : Prop :=
  ∀ a, G.guarded i a = true → ∀ data payload received quorum,
    (n.clientAt env a).getQuorum data payload received = .ok quorum →
      (G.faulty i a).length < quorum

/-- A sender whose delivery a guarded client admits is a faulty adapter, or honest. -/
def Guard.Admits (G : Guard ι) (T : Topology ι) (w : Network ι) (i : ι) (env : Env)
    (msgSender : Address) (fromChainId : Uint256) (glacisPayload : Bytes) : Prop :=
  ∀ data payload, decodeGlacisPayload glacisPayload = some (data, payload) →
    G.guarded i data.client = true →
    (w i).router._routeAllowed ((w i).clientAt env data.client) msgSender fromChainId data payload
      = .ok true →
    msgSender ∈ G.faulty i data.client ∨ w.Genuine T fromChainId glacisPayload

/-- The actions of a run with guarded clients: anyone may call anything, deliveries included, as
    long as the guarded clients keep their guard up. -/
def Guarded (G : Guard ι) (T : Topology ι) (w : Network ι) : NetworkAction ι → Prop
  | .call i env msgSender _ call => msgSender ≠ 0 ∧ G.Demands i (w i) env ∧
    ∀ fromChainId glacisPayload, call = .receiveMessage fromChainId glacisPayload →
      G.Admits T w i env msgSender fromChainId glacisPayload
  | .tick _ _ => True

theorem Guarded.called {G : Guard ι} {a : NetworkAction ι} (h : Guarded G T w a) : a.Called := by
  cases a with
  | call i env msgSender value call => exact h.1
  | tick i seconds => trivial

/-- A delivery that a chain's router vouches for: it routed a message with this head. -/
def Network.Routed (T : Topology ι) (w : Network ι) (fromChainId : Uint256) (d : GlacisData) : Prop :=
  ∃ j, T.chainId j = fromChainId ∧ ∃ m ∈ (w j).routed, d = m.data

/-- The invariant of guarded clients: their deliveries are genuine or faulty, their executions
    wanted more adapters than can be faulty. -/
structure Vouched (G : Guard ι) (T : Topology ι) (w : Network ι) : Prop where
  deliveries : ∀ i, ∀ e ∈ (w i).deliveries, G.guarded i e.glacisData.client = true →
    e.adapter ∈ G.faulty i e.glacisData.client ∨ w.Routed T e.fromChainId e.glacisData
  executions : ∀ i, ∀ x ∈ (w i).executions, G.guarded i x.glacisData.client = true →
    (G.faulty i x.glacisData.client).length < x.quorum

/-- What a router gave to an adapter and a chain decodes is the head of a routed message. -/
theorem Network.Genuine.routed {fromChainId : Uint256} {glacisPayload : Bytes}
    (h : w.Genuine T fromChainId glacisPayload)
    (hsound : ∀ j, (w j).Sound keccak256 (T.chainId j)) {data : GlacisData} {payload : Bytes}
    (hdec : decodeGlacisPayload glacisPayload = some (data, payload)) :
    w.Routed T fromChainId data := by
  obtain ⟨j, hj, pk, hpk, rfl⟩ := h
  obtain ⟨m, hm, hpay⟩ := (hsound j).outbox.packets pk hpk
  rw [hpay, Message.encode] at hdec
  exact ⟨j, hj, m, hm, decode_encode_head hdec⟩

theorem Network.Routed.mono {w' : Network ι} (hsub : ∀ j, (w j).routed ⊆ (w' j).routed)
    {fromChainId : Uint256} {d : GlacisData} (h : w.Routed T fromChainId d) :
    w'.Routed T fromChainId d := by
  obtain ⟨j, hj, m, hm, hd⟩ := h
  exact ⟨j, hj, m, hsub j hm, hd⟩

/-- A step that adds neither a delivery nor an execution keeps the guard. -/
theorem Vouched.frame {G : Guard ι} (h : Vouched G T w)
    (hrouted : (w i).routed ⊆ n'.routed) (hdel : n'.deliveries = (w i).deliveries)
    (hexec : n'.executions = (w i).executions) : Vouched G T (Function.update w i n') := by
  have hsub := Network.update_subset (w := w) (fun n => n.routed) hrouted
  constructor
  · refine Network.forall_update (I := fun j n => ∀ e ∈ n.deliveries,
      G.guarded j e.glacisData.client = true → e.adapter ∈ G.faulty j e.glacisData.client ∨
        Network.Routed T (Function.update w i n') e.fromChainId e.glacisData) ?_ ?_
    · exact fun j e he hg => (h.deliveries j e he hg).imp_right (·.mono hsub)
    · rw [hdel]
      exact fun e he hg => (h.deliveries i e he hg).imp_right (·.mono hsub)
  · refine Network.forall_update (I := fun j n => ∀ x ∈ n.executions,
      G.guarded j x.glacisData.client = true →
        (G.faulty j x.glacisData.client).length < x.quorum) h.executions ?_
    rw [hexec]
    exact h.executions i

/-- An execution more, with the quorum its client asked for. -/
theorem Vouched.execution {G : Guard ι} {env : Env} (hdem : G.Demands i n env)
    (h : ∀ x ∈ n.executions, G.guarded i x.glacisData.client = true →
      (G.faulty i x.glacisData.client).length < x.quorum) {R : GlacisRouter.Received}
    {quorum : Nat} (hquorum : n.quorumOf env R = .ok quorum) {fromChainId : Uint256} :
    ∀ x ∈ n.executions ++ [⟨R.glacisData, R.payload, fromChainId, quorum, R.fromAdapters⟩],
      G.guarded i x.glacisData.client = true →
        (G.faulty i x.glacisData.client).length < x.quorum := by
  intro x hx hg
  rcases List.mem_append.mp hx with hx | hx
  · exact h x hx hg
  · rw [List.mem_singleton.mp hx] at hg ⊢
    exact hdem _ hg _ _ _ _ hquorum

/-- **One action keeps the guard.** -/
theorem Vouched.step {G : Guard ι} (h : Vouched G T w) {a : NetworkAction ι}
    (hs : RelayStep keccak256 (T.site i) i (w i) a n') (ha : Guarded G T w a)
    (hsound : ∀ j, (w j).Sound keccak256 (T.chainId j)) : Vouched G T (Function.update w i n') := by
  have hrouted := hs.routed_subset
  cases hs with
  | tick _ => exact h.frame hrouted rfl rfl
  | @call env msgSender value call _ hexec =>
    obtain ⟨_, hdem, hadm⟩ := ha
    have hsub := Network.update_subset (w := w) (fun n => n.routed) hrouted
    have hold : ∀ e ∈ (w i).deliveries, G.guarded i e.glacisData.client = true →
        e.adapter ∈ G.faulty i e.glacisData.client ∨
          Network.Routed T (Function.update w i n') e.fromChainId e.glacisData :=
      fun e he hg => (h.deliveries i e he hg).imp_right (·.mono hsub)
    have hdels : ∀ l, n'.deliveries = l → (∀ e ∈ l, G.guarded i e.glacisData.client = true →
        e.adapter ∈ G.faulty i e.glacisData.client ∨
          Network.Routed T (Function.update w i n') e.fromChainId e.glacisData) →
        ∀ j, ∀ e ∈ (Function.update w i n' j).deliveries,
          G.guarded j e.glacisData.client = true → e.adapter ∈ G.faulty j e.glacisData.client ∨
            Network.Routed T (Function.update w i n') e.fromChainId e.glacisData := by
      intro l hl hall
      refine Network.forall_update (I := fun j n => ∀ e ∈ n.deliveries,
        G.guarded j e.glacisData.client = true → e.adapter ∈ G.faulty j e.glacisData.client ∨
          Network.Routed T (Function.update w i n') e.fromChainId e.glacisData) ?_ ?_
      · exact fun j e he hg => (h.deliveries j e he hg).imp_right (·.mono hsub)
      · rw [hl]; exact hall
    have hexecs : ∀ l, n'.executions = l → (∀ x ∈ l, G.guarded i x.glacisData.client = true →
        (G.faulty i x.glacisData.client).length < x.quorum) →
        ∀ j, ∀ x ∈ (Function.update w i n' j).executions, G.guarded j x.glacisData.client = true →
          (G.faulty j x.glacisData.client).length < x.quorum := by
      intro l hl hall
      refine Network.forall_update (I := fun j n => ∀ x ∈ n.executions,
        G.guarded j x.glacisData.client = true →
          (G.faulty j x.glacisData.client).length < x.quorum) h.executions ?_
      rw [hl]; exact hall
    cases Relay.exec_receives hexec with
    | quiet same heq => exact h.frame hrouted same.deliveries_eq heq
    | @delivery fromChainId glacisPayload R _ quorum hR hquorum _ hdel _ heq =>
      obtain ⟨hdec, hallowed, _⟩ := GlacisRouter.receiveMessage_spec hR
      refine ⟨hdels _ hdel ?_, hexecs _ heq ?_⟩
      · intro e he hg
        rcases List.mem_append.mp he with he | he
        · exact hold e he hg
        · rw [List.mem_singleton.mp he] at hg ⊢
          rcases hadm _ _ rfl _ _ hdec hg hallowed with hfaulty | hgenuine
          · exact Or.inl hfaulty
          · exact Or.inr ((hgenuine.routed hsound hdec).mono hsub)
      · cases hex : R.executed with
        | false => rw [if_neg (by decide), List.append_nil]; exact h.executions i
        | true => exact Vouched.execution hdem (h.executions i) hquorum
    | retry hR hquorum _ hdel _ heq =>
      exact ⟨hdels _ hdel hold, hexecs _ heq (Vouched.execution hdem (h.executions i) hquorum)⟩

/-! ## The channel -/

/-- The message an execution stands for, on the chain it happens on. -/
def Execution.message (x : Execution) (toChainId : Uint256) : Message :=
  ⟨x.glacisData.messageId, toChainId, x.glacisData.originalTo, x.payload,
    toAddress x.glacisData.originalFrom, x.glacisData.nonce⟩

/-- **An executed message was routed**, with every part of it. -/
theorem Vouched.routed {G : Guard ι} (h : Vouched G T w)
    (hsound : ∀ j, (w j).Sound keccak256 (T.chainId j)) (hfree : w.NoCollision keccak256)
    {x : Execution} (hx : x ∈ (w i).executions) (hg : G.guarded i x.glacisData.client = true) :
    ∃ j, T.chainId j = x.fromChainId ∧ x.message (T.chainId i) ∈ (w j).routed := by
  have hquorum := (hsound i).tally.byQuorum (hfree.chain i) hx
  -- one of the voters is no faulty adapter
  have hlt := h.executions i x hx hg
  obtain ⟨a, ha, hgood⟩ := hquorum.nodup.exists_notMem_of_length_lt
    (Nat.lt_of_lt_of_le hlt hquorum.quorum_le)
  obtain ⟨e, he, rfl, hdata, hpay, hfrom⟩ := hquorum.brought a ha
  rw [← hdata] at hg hgood
  rcases h.deliveries i e he hg with hbad | ⟨j, hj, m, hm, hhead⟩
  · exact absurd hbad hgood
  · refine ⟨j, hj.trans hfrom, ?_⟩
    -- what it brought has the id of the routed message, so it is that message
    have he' : e.Valid keccak256 (T.chainId i) := (hsound i).tally.valid e he
    have hm' : m.Valid keccak256 (T.chainId j) := (hsound j).outbox.valid m hm
    unfold Delivery.Valid at he'
    unfold Message.Valid at hm'
    have hid : e.glacisData.messageId = m.messageId := by rw [hhead]; rfl
    rw [he', hm'] at hid
    obtain ⟨hto, _, _, hpayload, _, _⟩ := messageId_inj (hfree i j)
      (List.Subset.trans ((hsound i).tally.inputs e he) (List.subset_append_left _ _))
      (List.Subset.trans ((hsound j).outbox.inputs m hm) (List.subset_append_right _ _)) hid
    have hmsg : x.message (T.chainId i) = m := by
      rw [Execution.message, ← hdata, ← hpay, hhead, hto, hpayload, Message.data]
      simp
    rw [hmsg]; exact hm

/-- The messages routed on one chain to another, by id. -/
def Network.sent (T : Topology ι) (w : Network ι) (j i : ι) : List (Bytes32 × Message) :=
  ((w j).routed.filter fun m => decide (m.toChainId = T.chainId i)).map fun m => (m.messageId, m)

/-- The messages from one chain that another executed at its guarded clients, by id. -/
def Network.received (G : Guard ι) (T : Topology ι) (w : Network ι) (j i : ι) :
    List (Bytes32 × Message) :=
  ((w i).executions.filter fun x =>
    decide (x.fromChainId = T.chainId j) && G.guarded i x.glacisData.client).map
      fun x => (x.messageId, x.message (T.chainId i))

/-- Routed messages have different ids. -/
theorem Outbox.ids_nodup {c : Chain} (h : Outbox keccak256 chainId c)
    (hfree : CollisionFree keccak256 c.hashed) : (c.routed.map Message.messageId).Nodup := by
  have hnodup : c.routed.Nodup := List.Nodup.of_map _ h.nonce_nodup
  refine List.Nodup.map_on ?_ hnodup
  intro m hm m' hm' hid
  exact (Message.Valid.inj hfree (h.valid m hm) (h.valid m' hm') (h.inputs m hm) (h.inputs m' hm')
    hid).2

/-- What is routed between two chains with the books in order, and what is executed of it at guarded
    clients, is an exactly-once channel. -/
theorem Vouched.channel {G : Guard ι} (h : Vouched G T w)
    (hsound : ∀ j, (w j).Sound keccak256 (T.chainId j)) (hfree : w.NoCollision keccak256) (j i : ι) :
    ∃ channel : OnceChannel Bytes32 Message,
      channel.sent = w.sent T j i ∧ channel.received = w.received G T j i := by
  refine ⟨⟨w.sent T j i, w.received G T j i, ?_, ?_, ?_⟩, rfl, rfl⟩
  · rw [Network.sent, List.map_map]
    exact ((hsound j).outbox.ids_nodup (hfree.chain j)).sublist (List.filter_sublist.map _)
  · rw [Network.received, List.map_map]
    exact (hsound i).tally.executions_nodup.sublist (List.filter_sublist.map _)
  · intro e he
    obtain ⟨x, hx, rfl⟩ := List.mem_map.mp he
    obtain ⟨hmem, hcond⟩ := List.mem_filter.mp hx
    rw [Bool.and_eq_true, decide_eq_true_eq] at hcond
    obtain ⟨k, hk, hrouted⟩ := h.routed hsound hfree hmem hcond.2
    -- the chain the message names is `j`
    obtain rfl := T.chainId_inj (hk.trans hcond.1)
    exact List.mem_map.mpr ⟨_, List.mem_filter.mpr ⟨hrouted, decide_eq_true rfl⟩, rfl⟩

/-- New chains have nothing to vouch for. -/
theorem Vouched.initial {G : Guard ι} (hnew : ∀ i, (w i).New (T.chainId i)) : Vouched G T w := by
  constructor
  · intro k e he
    rw [(hnew k).fresh.deliveries] at he
    exact absurd he List.not_mem_nil
  · intro k x hx
    rw [(hnew k).fresh.executions] at hx
    exact absurd hx List.not_mem_nil

/-- The books and the guard after a run with guarded clients. -/
theorem vouched_of_run {G : Guard ι} {l : List (NetworkAction ι)}
    (hnew : ∀ i, (w i).New (T.chainId i))
    (hl : Machine.Follows (Network.step keccak256 T) (Guarded G T) w l)
    (hfree : (w.run keccak256 T l).NoCollision keccak256) :
    (∀ j, (w.run keccak256 T l j).Sound keccak256 (T.chainId j)) ∧
      Vouched G T (w.run keccak256 T l) :=
  network_of_run (I := Vouched G T) (fun _ _ ha => ha.called)
    (fun _ _ _ _ hs ha _ hB _ hI => hI.step hs ha hB) hl (fun j => (hnew j).sound)
    (Vouched.initial hnew) hfree

/-- **Redundant messages are delivered exactly once.**  Between any two chains, whatever is
    executed at a guarded client was routed, once, and is executed at most once; fewer faulty
    adapters than the client's quorum change nothing.  A message from nowhere is not executed. -/
theorem redundant_channel {G : Guard ι} {l : List (NetworkAction ι)}
    (hnew : ∀ i, (w i).New (T.chainId i))
    (hl : Machine.Follows (Network.step keccak256 T) (Guarded G T) w l)
    (hfree : (w.run keccak256 T l).NoCollision keccak256) :
    (∀ j i, ∃ channel : OnceChannel Bytes32 Message,
      channel.sent = (w.run keccak256 T l).sent T j i ∧
      channel.received = (w.run keccak256 T l).received G T j i) ∧
    ∀ i, ∀ x ∈ (w.run keccak256 T l i).executions, G.guarded i x.glacisData.client = true →
      ∃ j, T.chainId j = x.fromChainId ∧
        x.message (T.chainId i) ∈ (w.run keccak256 T l j).routed := by
  obtain ⟨hsound, hvouched⟩ := vouched_of_run hnew hl hfree
  exact ⟨hvouched.channel hsound hfree, fun i x hx => hvouched.routed hsound hfree hx⟩

namespace Sample

/-- The receiver does not trust the adapter of id 1, and asks for two. -/
def guard : Guard Side := ⟨fun s a => decide (s = .opt ∧ a = receiver), fun _ _ => [adapter 1]⟩

theorem guard_demands (i : Side) (n : Relay) {env : Env} (hnone : n.mediators receiver = none)
    (henv : (env.client receiver).getQuorum = fun _ _ _ => .ok 2) : guard.Demands i n env := by
  intro a ha data payload received quorum hquorum
  obtain ⟨_, rfl⟩ := of_decide_eq_true ha
  simp only [Chain.clientAt, hnone, henv] at hquorum
  obtain rfl := Except.ok.inj hquorum
  exact Nat.lt_succ_self 1

theorem brought_guarded : Machine.Follows (Network.step keccak topology) (Guarded guard topology)
    network brought := by
  refine ⟨⟨by decide, guard_demands _ _ rfl rfl, fun _ _ h => nomatch h⟩,
    ⟨by decide, guard_demands _ _ ?_ rfl, ?_⟩, ⟨by decide, guard_demands _ _ ?_ rfl, ?_⟩, trivial⟩
  · exact Option.isNone_iff_eq_none.mp (by decide +kernel)
  · rintro _ _ h
    obtain ⟨rfl, rfl⟩ := Call.receiveMessage.inj h
    exact fun _ _ _ _ _ => Or.inr ⟨.arb, rfl, by decide +kernel⟩
  · exact Option.isNone_iff_eq_none.mp (by decide +kernel)
  · rintro _ _ h
    obtain ⟨rfl, rfl⟩ := Call.receiveMessage.inj h
    exact fun _ _ _ _ _ => Or.inr ⟨.arb, rfl, by decide +kernel⟩

end Sample

theorem redundant_channel_brought :
    (((Sample.network.run Sample.keccak Sample.topology Sample.brought).received Sample.guard
      Sample.topology .arb .opt).length = 1) ∧
    ∃ channel : OnceChannel Bytes32 Message,
      channel.sent = (Sample.network.run Sample.keccak Sample.topology Sample.brought).sent
        Sample.topology .arb .opt ∧
      channel.received = (Sample.network.run Sample.keccak Sample.topology Sample.brought).received
        Sample.guard Sample.topology .arb .opt :=
  ⟨by decide +kernel, (redundant_channel Sample.network_new Sample.brought_guarded
    Sample.brought_noCollision).1 .arb .opt⟩

end CrossRWA
