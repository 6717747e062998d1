/-
  The throughput of a mediator's allowance — a refilling limit is a token bucket.

  1. `BridgeParameters.bucket` reads a record as a bucket of capacity `M` refilling at `M / 86400`
     per second, in exact rationals; `withdraw_of_useLimits`: every use of the limit is a
     withdrawal.  The code's three refills — linear at the rounded-down rate, capped, and the jump
     to the maximum after a day — all stay within the bucket's.
  2. `LimitSide` is the minting or the burning half of a bridge's allowance, with the calls that
     use it.  `LimitSide.run`: a run of calls at non-decreasing timestamps, by anyone, is a run of
     the bucket.
  3. `throughput_cap` is the bucket's window bound, for both halves, with the bounds on the current
     limit that hold at every point.  `Booked`: what is counted is what the supply moves by.
-/
import CrossRWA.Wiring
import CrossRWA.Lib.TokenBucket
import CrossRWA.Lib.Machine
import Mathlib.Data.Rat.Cast.Order
import Mathlib.Data.Nat.Cast.Order.Field

namespace CrossRWA

/-! ## A record is a bucket -/

namespace BridgeParameters

variable {M : Nat} {p p' : BridgeParameters}

/-- A day in exact seconds. -/
def dailyRate (M : Nat) : ℚ := M / 86400

theorem dailyRate_nonneg (M : Nat) : 0 ≤ dailyRate M :=
  div_nonneg (Nat.cast_nonneg M) (by norm_num)

def bucket (p : BridgeParameters) (hp : p.maxLimit = M) : TokenBucket.Bucket (M : ℚ) where
  level := p.currentLimit
  last := p.timestamp
  level_nonneg := Nat.cast_nonneg _
  level_le := by rw [← hp]; exact Nat.cast_le.mpr p.current_le

/-- The rounded-down rate refills no faster than the exact one. -/
theorem floor_rate_le (M n : Nat) : ((n * (M / DURATION) : Nat) : ℚ) ≤ dailyRate M * n := by
  have hfloor : ((M / DURATION : Nat) : ℚ) ≤ (M : ℚ) / (DURATION : Nat) := Nat.cast_div_le
  have hday : ((DURATION : Nat) : ℚ) = 86400 := by norm_num [DURATION]
  rw [hday] at hfloor
  rw [Nat.cast_mul, mul_comm (dailyRate M)]
  exact mul_le_mul_of_nonneg_left hfloor (Nat.cast_nonneg n)

/-- **Using a limit withdraws from its bucket.** -/
theorem withdraw_of_useLimits {now change : Nat} (hp : p.maxLimit = M) (hnow : p.timestamp ≤ now)
    (h : p._useLimits now change = .ok p') (hp' : p'.maxLimit = M) :
    TokenBucket.Withdraw (dailyRate M) (p.bucket hp) (p'.bucket hp') now change := by
  obtain ⟨c, hc, hle, _, hts, hcur⟩ := _useLimits_spec h
  obtain ⟨hcap, hrefill⟩ := _getCurrentLimit_spec p.current_le hc
  have hsum : ((change : Nat) : ℚ) + (p'.currentLimit : Nat) = (c : Nat) := by
    rw [hcur, ← Nat.cast_add]
    congr 1
    omega
  have helapsed : ((now : Nat) : ℚ) - (p.timestamp : Nat) = ((now - p.timestamp : Nat) : ℚ) := by
    rw [Nat.cast_sub hnow]
  have hgain : 0 ≤ dailyRate M * ((now - p.timestamp : Nat) : ℚ) :=
    mul_nonneg (dailyRate_nonneg M) (Nat.cast_nonneg _)
  refine ⟨Nat.cast_le.mpr hnow, ?_, Nat.cast_nonneg _, ?_, ?_⟩
  · show ((p'.timestamp : Nat) : ℚ) = (now : Nat)
    rw [hts]
  · show ((change : Nat) : ℚ) + (p'.currentLimit : Nat) ≤ M
    rw [hsum, ← hp]
    exact Nat.cast_le.mpr hcap
  · show ((change : Nat) : ℚ) + (p'.currentLimit : Nat)
      ≤ (p.currentLimit : Nat) + dailyRate M * ((now : Nat) - (p.timestamp : Nat))
    rw [hsum, helapsed]
    rcases hrefill with ⟨rfl, hfull | hday⟩ | ⟨_, hlin⟩
    · -- a full record is not refilled
      rw [← hfull]
      linarith
    · -- after a day the jump to the maximum is covered by a day's refill
      have hday' : ((DURATION : Nat) : ℚ) ≤ ((now - p.timestamp : Nat) : ℚ) :=
        Nat.cast_le.mpr (by omega)
      have hM : dailyRate M * ((DURATION : Nat) : ℚ) = M := by
        rw [dailyRate, DURATION]
        norm_num
      have hmul := mul_le_mul_of_nonneg_left hday' (dailyRate_nonneg M)
      have hcur0 : (0 : ℚ) ≤ (p.currentLimit : Nat) := Nat.cast_nonneg _
      rw [hp]
      linarith
    · have hrate := floor_rate_le M (now - p.timestamp)
      rw [p.rate_eq, hp] at hlin
      have hcast : ((c : Nat) : ℚ) ≤ ((p.currentLimit + (now - p.timestamp) * (M / DURATION) : Nat) : ℚ) :=
        Nat.cast_le.mpr hlin
      rw [Nat.cast_add] at hcast
      linarith

end BridgeParameters

/-! ## Runs of calls -/

/-- A call of the token, with the block's timestamp and its caller. -/
structure TimedCall where
  now : Nat
  msgSender : Address
  call : XERC20.Call

namespace XERC20

/-- One timed call. -/
def timedStep (t : XERC20) (c : TimedCall) : Except Revert XERC20 := t.exec c.now c.msgSender c.call

/-- Timestamps that never go back, from `now` on. -/
def Chronological : Nat → List TimedCall → Prop
  | _, [] => True
  | now, c :: l => now ≤ c.now ∧ Chronological c.now l

/-- The amount a call mints. -/
def Call.minted : Call → Option Nat
  | .mint _ amount => some amount
  | _ => none

/-- The amount a call burns. -/
def Call.burnt : Call → Option Nat
  | .burn _ amount => some amount
  | _ => none

/-- The times and amounts of the successful calls of `bridge` that `amountOf` counts. -/
def amounts (amountOf : Call → Option Nat) (bridge : Address) : XERC20 → List TimedCall → List (ℚ × ℚ)
  | _, [] => []
  | t, c :: l =>
    match t.timedStep c, amountOf c.call with
    | .ok t', some amount =>
      if c.msgSender = bridge then
        ((c.now : ℚ), (amount : ℚ)) :: amounts amountOf bridge t' l
      else amounts amountOf bridge t' l
    | .ok t', none => amounts amountOf bridge t' l
    | .error _, _ => amounts amountOf bridge t l

/-- One half of a bridge's allowance: where its record is, and the calls that use it. -/
structure LimitSide where
  params : Bridge → BridgeParameters
  amountOf : Call → Option Nat
  /-- A counted call of the bridge uses the record, ... -/
  used : ∀ {t t' : XERC20} {now : Nat} {bridge : Address} {call : Call} {amount : Nat},
    t.exec now bridge call = .ok t' → bridge ≠ t.lockbox → amountOf call = some amount →
    ∃ p, (params (t.bridges bridge))._useLimits now amount = .ok p ∧
      params (t'.bridges bridge) = p
  /-- ... and no other unrestricted call of its changes the record. -/
  kept : ∀ {t t' : XERC20} {now : Nat} {bridge : Address} {call : Call},
    t.exec now bridge call = .ok t' → bridge ≠ t.lockbox → call.restricted = false →
    amountOf call = none → params (t'.bridges bridge) = params (t.bridges bridge)

/-- The minting half. -/
def minting : LimitSide where
  params := Bridge.minterParams
  amountOf := Call.minted
  used := by
    intro t t' now bridge call amount h hbox hamount
    cases call with
    | mint user m =>
      obtain rfl := Option.some.inj hamount
      obtain ⟨p, hp, hb⟩ := mint_limits h hbox
      exact ⟨p, hp, by rw [hb, Function.update_self]⟩
    | _ => cases hamount
  kept := by
    intro t t' now bridge call h hbox hres hamount
    cases call with
    | mint user m => cases hamount
    | burn user m =>
      obtain ⟨p, _, hb⟩ := burn_limits h hbox
      rw [hb, Function.update_self]
    | setLimits _ _ _ => cases hres
    | setLockbox _ => cases hres
    | transferOwnership _ => cases hres
    | renounceOwnership => cases hres
    | _ =>
      obtain ⟨e, _, rfl⟩ := onERC20_spec h
      rfl

/-- The burning half. -/
def burning : LimitSide where
  params := Bridge.burnerParams
  amountOf := Call.burnt
  used := by
    intro t t' now bridge call amount h hbox hamount
    cases call with
    | burn user m =>
      obtain rfl := Option.some.inj hamount
      obtain ⟨p, hp, hb⟩ := burn_limits h hbox
      exact ⟨p, hp, by rw [hb, Function.update_self]⟩
    | _ => cases hamount
  kept := by
    intro t t' now bridge call h hbox hres hamount
    cases call with
    | burn user m => cases hamount
    | mint user m =>
      obtain ⟨p, _, hb⟩ := mint_limits h hbox
      rw [hb, Function.update_self]
    | setLimits _ _ _ => cases hres
    | setLockbox _ => cases hres
    | transferOwnership _ => cases hres
    | renounceOwnership => cases hres
    | _ =>
      obtain ⟨e, _, rfl⟩ := onERC20_spec h
      rfl

variable {M : Nat} {bridge : Address} {t : XERC20}

/-- What a run starts from: the bridge has limits, and its record was last used by `now`. -/
structure LimitSide.Ready (side : LimitSide) (M : Nat) (bridge : Address) (now : Nat) (t : XERC20) :
    Prop where
  max_eq : (side.params (t.bridges bridge)).maxLimit = M
  last_le : (side.params (t.bridges bridge)).timestamp ≤ now
  not_lockbox : bridge ≠ t.lockbox

/-- **One call**: the record takes a withdrawal, or it is left alone. -/
theorem LimitSide.Ready.step {side : LimitSide} {now : Nat} (h : side.Ready M bridge now t)
    {c : TimedCall} {t' : XERC20} (hok : t.timedStep c = .ok t') (hnow : now ≤ c.now)
    (hres : c.call.restricted = false) :
    side.Ready M bridge c.now t' ∧
      (side.params (t'.bridges bridge) = side.params (t.bridges bridge) ∧
          (c.msgSender ≠ bridge ∨ side.amountOf c.call = none) ∨
        ∃ amount, c.msgSender = bridge ∧ side.amountOf c.call = some amount ∧
          (side.params (t.bridges bridge))._useLimits c.now amount =
            .ok (side.params (t'.bridges bridge))) := by
  obtain ⟨⟨_, _, hbox⟩, _, hothers⟩ := exec_frame hok hres
  have hlock : bridge ≠ t'.lockbox := by rw [hbox]; exact h.not_lockbox
  have hlast := h.last_le
  have hsame : side.params (t'.bridges bridge) = side.params (t.bridges bridge) →
      side.Ready M bridge c.now t' := by
    intro heq
    exact ⟨by rw [heq]; exact h.max_eq, by rw [heq]; omega, hlock⟩
  by_cases hsender : c.msgSender = bridge
  · have hok' : t.exec c.now bridge c.call = .ok t' := by rw [← hsender]; exact hok
    cases hamount : side.amountOf c.call with
    | none =>
      have heq := side.kept hok' h.not_lockbox hres hamount
      exact ⟨hsame heq, Or.inl ⟨heq, Or.inr rfl⟩⟩
    | some amount =>
      obtain ⟨p, hp, hnew⟩ := side.used hok' h.not_lockbox hamount
      obtain ⟨_, _, _, hmax, hts, _⟩ := BridgeParameters._useLimits_spec hp
      subst hnew
      exact ⟨⟨hmax.trans h.max_eq, by omega, hlock⟩, Or.inr ⟨amount, hsender, rfl, hp⟩⟩
  · have heq : side.params (t'.bridges bridge) = side.params (t.bridges bridge) := by
      rw [hothers bridge (Ne.symm hsender)]
    exact ⟨hsame heq, Or.inl ⟨heq, Or.inl hsender⟩⟩

/-- **A run of calls is a run of the bucket.** -/
theorem LimitSide.Ready.run {side : LimitSide} {now : Nat} {l : List TimedCall}
    (h : side.Ready M bridge now t) (hl : Chronological now l)
    (hres : ∀ c ∈ l, c.call.restricted = false) :
    (∃ last, side.Ready M bridge last (Machine.run timedStep t l)) ∧
      ∃ b', TokenBucket.Run (BridgeParameters.dailyRate M)
        ((side.params (t.bridges bridge)).bucket h.max_eq) (amounts side.amountOf bridge t l) b' := by
  induction l generalizing t now with
  | nil => exact ⟨⟨now, h⟩, _, .nil _⟩
  | cons c l ih =>
    have hcres := hres c List.mem_cons_self
    have hrest : ∀ x ∈ l, x.call.restricted = false := fun x hx => hres x (List.mem_cons_of_mem c hx)
    show (∃ last, side.Ready M bridge last (Machine.run timedStep (Machine.apply timedStep t c) l)) ∧ _
    unfold amounts
    cases hok : t.timedStep c with
    | error e =>
      -- a reverting call changes nothing and is not counted
      have happly : Machine.apply timedStep t c = t := by rw [Machine.apply, hok]
      rw [happly]
      exact ih ⟨h.max_eq, Nat.le_trans h.last_le hl.1, h.not_lockbox⟩ hl.2 hrest
    | ok t' =>
      rw [Machine.apply_of_ok hok]
      obtain ⟨hready, ⟨heq, hskip⟩ | ⟨amount, hsender, hamount, hp⟩⟩ := h.step hok hl.1 hcres
      · obtain ⟨hlast, b', hrun⟩ := ih hready hl.2 hrest
        refine ⟨hlast, b', ?_⟩
        have hbucket : (side.params (t.bridges bridge)).bucket h.max_eq
            = (side.params (t'.bridges bridge)).bucket hready.max_eq := by
          simp only [heq]
        rw [hbucket]
        rcases hskip with hne | hnone
        · cases hamount : side.amountOf c.call with
          | none => exact hrun
          | some amount => simp only [if_neg hne]; exact hrun
        · rw [hnone]; exact hrun
      · obtain ⟨hlast, b', hrun⟩ := ih hready hl.2 hrest
        refine ⟨hlast, b', ?_⟩
        simp only [hamount, if_pos hsender]
        have hts := Nat.le_trans h.last_le hl.1
        exact .cons (BridgeParameters.withdraw_of_useLimits h.max_eq hts hp hready.max_eq) hrun

/-- `setLimits` makes both halves ready. -/
theorem ready_of_setLimits {t t' : XERC20} {now : Nat} {owner : Address}
    (hset : t.setLimits now owner bridge M M = .ok t') (hbox : bridge ≠ t.lockbox) :
    minting.Ready M bridge now t' ∧ burning.Ready M bridge now t' := by
  obtain ⟨p, q, hp, hq, rfl⟩ := setLimits_spec hset
  obtain ⟨hpmax, hpts⟩ := BridgeParameters._changeLimit_spec hp
  obtain ⟨hqmax, hqts⟩ := BridgeParameters._changeLimit_spec hq
  have hbridge : Function.update t.bridges bridge ⟨p, q⟩ bridge = ⟨p, q⟩ := Function.update_self _ _ _
  constructor
  · refine ⟨?_, ?_, hbox⟩ <;> dsimp only [minting] <;> rw [hbridge]
    · exact hpmax
    · exact Nat.le_of_eq hpts
  · refine ⟨?_, ?_, hbox⟩ <;> dsimp only [burning] <;> rw [hbridge]
    · exact hqmax
    · exact Nat.le_of_eq hqts

/-- The cap `M` on a bridge, over the calls of `l` from the token `t`: in every window of `T` seconds
    it mints at most `M + M * T / 86400` and burns at most as much, and so does every part of
    its mints, the unbacked ones among them.  At the end both current limits, stored or refilled,
    are at most the maximum, which is `M`. -/
structure Capped (M : Nat) (bridge : Address) (t : XERC20) (l : List TimedCall) : Prop where
  minted : ∀ u T : ℚ, 0 ≤ T →
    TokenBucket.spent u (u + T) (amounts Call.minted bridge t l) ≤ M + M * T / 86400
  burnt : ∀ u T : ℚ, 0 ≤ T →
    TokenBucket.spent u (u + T) (amounts Call.burnt bridge t l) ≤ M + M * T / 86400
  unbacked : ∀ u T : ℚ, 0 ≤ T → ∀ part, part.Sublist (amounts Call.minted bridge t l) →
    TokenBucket.spent u (u + T) part ≤ M + M * T / 86400
  limits : ∀ params ∈ [Bridge.minterParams, Bridge.burnerParams],
    (params ((Machine.run timedStep t l).bridges bridge)).maxLimit = M ∧
    (params ((Machine.run timedStep t l).bridges bridge)).currentLimit ≤ M ∧
    ∀ later c, (params ((Machine.run timedStep t l).bridges bridge)).currentLimitAt later = .ok c →
      c ≤ M

/-- A token of the constructor, after any calls of anyone. -/
def Made (t : XERC20) : Prop :=
  ∃ owner t₀ before, BasicXERC20Sample.constructor owner = .ok t₀ ∧
    t = Machine.run timedStep t₀ before

/-- Every call of the run that goes through moves the supply by what it is counted for. -/
def Booked (t : XERC20) (l : List TimedCall) : Prop :=
  ∀ l₁ c l₂, l = l₁ ++ c :: l₂ → ∀ t', (Machine.run timedStep t l₁).timedStep c = .ok t' →
    c.call.Moves (Machine.run timedStep t l₁) t'

/-- Calls keep a token solvent. -/
theorem solvent_of_run (hs : t.Solvent) (l : List TimedCall) :
    (Machine.run timedStep t l).Solvent := by
  have hfollows : Machine.Follows timedStep (fun _ _ => True) t l :=
    Machine.follows_of_forall (fun _ _ _ => trivial) t
  exact (hfollows.with_invariant (I := fun t => t.Solvent)
    (fun _ _ _ hok _ hI => (exec_moves hok hI).1) hs).2

theorem Made.solvent (h : t.Made) : t.Solvent := by
  obtain ⟨_, t₀, before, hmade, rfl⟩ := h
  exact solvent_of_run (BasicXERC20Sample.constructor_spec hmade).1 before

theorem booked_of_solvent (hs : t.Solvent) (l : List TimedCall) : t.Booked l := by
  intro l₁ c l₂ _ t' hok
  exact (exec_moves hok (solvent_of_run hs l₁)).2

/-- **Throughput cap.**  After one `setLimits(bridge, M, M)`, whatever anyone calls at
    non-decreasing times, the bridge is capped by `M`; and what the cap counts is what the supply
    of the token moves by. -/
theorem throughput_cap {t t' : XERC20} {now : Nat} {owner bridge : Address} {M : Nat}
    {l : List TimedCall} (hset : t.setLimits now owner bridge M M = .ok t')
    (hbox : bridge ≠ t.lockbox) (hl : Chronological now l)
    (hres : ∀ c ∈ l, c.call.restricted = false) :
    Capped M bridge t' l ∧ (t.Made → t'.Booked l) := by
  refine ⟨?_, fun hmade => ?_⟩
  rotate_left
  · -- `setLimits` moves no balance
    obtain ⟨p, q, _, _, rfl⟩ := setLimits_spec hset
    have hs : ({ t with bridges := Function.update t.bridges bridge ⟨p, q⟩ } : XERC20).Solvent :=
      hmade.solvent
    exact booked_of_solvent hs l
  obtain ⟨hmint, hburn⟩ := ready_of_setLimits hset hbox
  obtain ⟨⟨_, hmint'⟩, _, hmints⟩ := hmint.run hl hres
  obtain ⟨⟨_, hburn'⟩, _, hburns⟩ := hburn.run hl hres
  have hM := BridgeParameters.dailyRate_nonneg M
  have hrate : ∀ T : ℚ, (M : ℚ) + BridgeParameters.dailyRate M * T = M + M * T / 86400 := by
    intro T; rw [BridgeParameters.dailyRate]; ring
  have hbounds : ∀ p : BridgeParameters, p.maxLimit = M → p.maxLimit = M ∧ p.currentLimit ≤ M ∧
      ∀ later c, p.currentLimitAt later = .ok c → c ≤ M :=
    fun p hp => ⟨hp, hp ▸ p.current_le, fun _ _ hc => hp ▸ BridgeParameters.currentLimitAt_le hc⟩
  refine ⟨?_, ?_, ?_, ?_⟩
  · intro u T hT
    rw [← hrate T]
    exact hmints.window_le hM u hT
  · intro u T hT
    rw [← hrate T]
    exact hburns.window_le hM u hT
  · intro u T hT part hpart
    rw [← hrate T]
    exact hmints.window_le_of_sublist hM hpart u hT
  · intro params hparams
    rcases List.mem_cons.mp hparams with rfl | hparams
    · exact hbounds _ hmint'.max_eq
    · obtain rfl := List.mem_singleton.mp hparams
      exact hbounds _ hburn'.max_eq

/-- A mediator mints, tries to mint past its limit, burns what its user allows, and mints again half a
    day later, more than was left to it but not more than the refill gave. -/
def sampleCalls : List TimedCall :=
  [ ⟨1722500000, Sample.recorded.mediator .opt .wh, .mint Sample.deployer (60 * ether)⟩,
    ⟨1722500000, Sample.recorded.mediator .opt .wh, .mint Sample.deployer (60 * ether)⟩,
    ⟨1722500030, Sample.deployer, .approve (Sample.recorded.mediator .opt .wh) (5 * ether)⟩,
    ⟨1722500060, Sample.recorded.mediator .opt .wh, .burn Sample.deployer ether⟩,
    ⟨1722543200, Sample.recorded.mediator .opt .wh, .mint Sample.deployer (89 * ether)⟩ ]

/-- The scripts' token with the mediator's limits. -/
def sampleToken : Except Revert XERC20 := do
  let t ← BasicXERC20Sample.constructor Sample.deployer
  t.setLimits 1722500000 Sample.deployer (Sample.recorded.mediator .opt .wh) LIMIT LIMIT

/-- The cap of the scripts' limits over these calls: two mints and a burn count. -/
theorem throughput_cap_sample : ∃ t', sampleToken = .ok t' ∧
    amounts Call.minted (Sample.recorded.mediator .opt .wh) t' sampleCalls =
      [(1722500000, 60 * 10 ^ 18), (1722543200, 89 * 10 ^ 18)] ∧
    amounts Call.burnt (Sample.recorded.mediator .opt .wh) t' sampleCalls =
      [(1722500060, 10 ^ 18)] ∧
    Capped LIMIT (Sample.recorded.mediator .opt .wh) t' sampleCalls ∧ t'.Booked sampleCalls := by
  have hcounted : ∀ t', sampleToken = .ok t' →
      amounts Call.minted (Sample.recorded.mediator .opt .wh) t' sampleCalls =
        [(1722500000, 60 * 10 ^ 18), (1722543200, 89 * 10 ^ 18)] ∧
      amounts Call.burnt (Sample.recorded.mediator .opt .wh) t' sampleCalls =
        [(1722500060, 10 ^ 18)] := by
    have hrun : (match sampleToken with
        | .ok t' => decide (amounts Call.minted (Sample.recorded.mediator .opt .wh) t' sampleCalls =
              [(1722500000, 60 * 10 ^ 18), (1722543200, 89 * 10 ^ 18)] ∧
            amounts Call.burnt (Sample.recorded.mediator .opt .wh) t' sampleCalls =
              [(1722500060, 10 ^ 18)])
        | .error _ => false) = true := by
      decide +kernel
    intro t' ht'
    rw [ht'] at hrun
    exact of_decide_eq_true hrun
  obtain ⟨t, ht⟩ : ∃ t, BasicXERC20Sample.constructor Sample.deployer = .ok t := ⟨_, rfl⟩
  obtain ⟨_, _, howner, hlockbox, hbridges⟩ := BasicXERC20Sample.constructor_spec ht
  obtain ⟨t', ht'⟩ : ∃ t', t.setLimits 1722500000 Sample.deployer
      (Sample.recorded.mediator .opt .wh) LIMIT LIMIT = .ok t' := by
    rw [← howner]
    exact setLimits_ok _ (by rw [hbridges]; rfl) (by rw [hbridges]; rfl) (by decide) (by decide)
  have hsample : sampleToken = .ok t' := bind_eq_ok.mpr ⟨t, ht, ht'⟩
  obtain ⟨hcap, hbooked⟩ := throughput_cap (l := sampleCalls) ht' (by rw [hlockbox]; decide)
    ⟨by decide, by decide, by decide, by decide, by decide, trivial⟩ (by decide)
  exact ⟨t', hsample, (hcounted t' hsample).1, (hcounted t' hsample).2, hcap,
    hbooked ⟨Sample.deployer, t, [], ht, rfl⟩⟩

end XERC20

end CrossRWA
