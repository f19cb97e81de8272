import ArioSolana.GarStamps
import ArioSolana.GarSwitch

/-!
# The redelegation fee

The fee of a redelegation depends on how many redelegations of the delegator come just before it,
each within seven days of the next. The record of the delegator is all that the program keeps of
them, and it is read before the same call updates it.
-/

namespace ArioSolana
namespace Gar

open Checked Solana

/-! ### The law -/

/-- How many of the calls at the times `earlier`, latest first, lead up to a call at `t`, each less
than seven days before the next. -/
def linked (t : ℤ) : List ℤ → ℕ
  | [] => 0
  | t' :: earlier => if t - t' < RedelegationRecord.feeResetInterval then linked t' earlier + 1
      else 0

/-- Ten percent for each linked call, at most sixty. -/
def linkedRate (n : ℕ) : ℕ := min (n * (rateScale / 10)) (6 * (rateScale / 10))

/-- The time at which an event is a redelegation by `u`. -/
def Event.redelegationTime (u : Pubkey) (e : Event) : Option ℤ :=
  match e.action with
  | .call (.redelegateStake delegator ..) =>
    if delegator = u then some e.clock.unixTimestamp else none
  | _ => none

/-- The times of the redelegations by `u` in a history, latest first. -/
def redelegationTimes (u : Pubkey) (tr : Trace) : List ℤ :=
  tr.filterMap fun x => x.label.redelegationTime u

/-- What the record says after redelegations at the given times. -/
def RecordFollows (record : Option RedelegationRecord) : List ℤ → Prop
  | [] => record = none
  | t :: earlier => ∃ r, record = some r ∧ r.redelegationCount = linked t earlier + 1 ∧
      r.feeResetAt = t + RedelegationRecord.feeResetInterval

section

variable {env : Env} {s s' s₀ : State} {u src tgt p q : Pubkey} {acc : TokenAccount} {t : ℤ}
  {remaining : List AccountMeta} {amount rate count n : ℕ} {tr : Trace} {e : Event}
  {times : List ℤ} {r : RedelegationRecord} {clock : Clock}

/-! ### The record -/

lemma RecordFollows.read (h : RecordFollows (s.redelegations u) times) :
    (if (loadOrInitRedelegation s u).feeResetAt ≤ t then 0
      else (loadOrInitRedelegation s u).redelegationCount) = linked t times := by
  cases times with
  | nil =>
    rw [RecordFollows] at h
    rw [loadOrInitRedelegation, h, Option.getD_none]
    simp [linked]
  | cons t' earlier =>
    obtain ⟨r, hr, hcount, hreset⟩ := h
    rw [loadOrInitRedelegation, hr, Option.getD_some, hcount, hreset, linked]
    split
    · rw [if_neg (by omega)]
    · rw [if_pos (by omega)]

lemma getFeeRate_eq_ok : r.getFeeRate t = .ok rate ↔
    10 * (if r.feeResetAt ≤ t then 0 else r.redelegationCount) < 2 ^ 32 ∧
      rate = linkedRate (if r.feeResetAt ≤ t then 0 else r.redelegationCount) := by
  simp only [RedelegationRecord.getFeeRate, bind_eq_ok, okOr_eq_ok, checkedMul_eq_some, pure_eq_ok]
  generalize (if r.feeResetAt ≤ t then 0 else r.redelegationCount) = n
  have hrate : min (10 * n) 60 * rateScale / 100 = linkedRate n := by
    unfold linkedRate rateScale
    omega
  constructor
  · rintro ⟨_, ⟨hlt, rfl⟩, rfl⟩
    exact ⟨hlt, hrate⟩
  · rintro ⟨hlt, rfl⟩
    exact ⟨_, ⟨hlt, rfl⟩, hrate⟩

lemma nextCount_eq (h : r.nextCount t = .ok count) :
    count = (if r.feeResetAt ≤ t then 0 else r.redelegationCount) + 1 := by
  unfold RedelegationRecord.nextCount at h
  split at h
  · rename_i hreset
    rw [if_pos hreset]
    exact (Except.ok.inj h).symm
  · rename_i hreset
    rw [if_neg hreset]
    simp only [okOr_eq_ok, checkedAdd_eq_some] at h
    exact h.2

lemma linkedRate_le (n : ℕ) : linkedRate n ≤ rateScale := by
  unfold linkedRate rateScale
  omega

/-! ### One redelegation -/

lemma redelegateStake_charged
    (h : redelegateStake env t u src tgt acc p q remaining amount s = .ok s') :
    ∃ g g' d d' rate scaled count tokens, let fee := truncate 64 (scaled / rateScale)
      s.gateways src = some g ∧ s.gateways tgt = some g' ∧ s.delegations (src, u) = some d ∧
      (s.delegations (tgt, u)).getD Delegation.zeroed = d' ∧ src ≠ tgt ∧
      amount ≤ (settleDelegateRewards g d).delegation.amount ∧
      (loadOrInitRedelegation s u).getFeeRate t = .ok rate ∧
      checkedMul 128 amount rate = some scaled ∧ 0 < amount - fee ∧
      (loadOrInitRedelegation s u).nextCount t = .ok count ∧
      s.tokens.Moved tokens s.settings.stakeTokenAccount s.settings.protocolTokenAccount
        env.settingsPda fee ∧ s'.tokens = tokens ∧
      (s'.gateways src).map (·.totalDelegatedStake)
        = some ((settleDelegateRewards g d).gateway.totalDelegatedStake - amount) ∧
      (s'.gateways tgt).map (·.totalDelegatedStake)
        = some ((settleDelegateRewards g' d').gateway.totalDelegatedStake + (amount - fee)) ∧
      s'.redelegations = Function.update s.redelegations u
        (some ⟨u, count, t, t + RedelegationRecord.feeResetInterval⟩) := by
  simp only [redelegateStake, bind_eq_ok, loadGateway_eq_ok, loadDelegation_eq_ok,
    checkStakeTokenAccount_eq_ok, checkProtocolTokenAccount_eq_ok, require_eq_ok, add64_eq_ok,
    addTime_eq_ok, okOr_eq_ok, splTransferNonzero_eq_ok, pure_eq_ok, exists_const] at h
  obtain ⟨g, ⟨hg, rfl⟩, g', ⟨hg', rfl⟩, d, hd, -, -, -, ⟨rfl, -⟩, ⟨rfl, -⟩, -, hne, -, -, -, -,
    hle, -, rate, hrate, scaled, hscaled, hnet, -, _, ⟨-, rfl⟩, _, ⟨-, rfl⟩, _, ⟨tokens, ht, rfl⟩,
    count, hcount, _, ⟨-, rfl⟩, rfl⟩ := h
  refine ⟨g, g', d, _, rate, scaled, count, tokens, hg, hg', hd, rfl, hne, hle, hrate, hscaled,
    hnet, hcount, ht, rfl, ?_, ?_, rfl⟩
  · simp [hne]
    rfl
  · simp
    rfl

/-! ### Runs -/

lemma redelegations_of_other (h : GarStep env s e s') (hno : e.redelegationTime u = none) :
    s'.redelegations u = s.redelegations u := by
  rcases garStep_cases h with ⟨i, hi, -, h⟩ | ⟨t, rfl⟩
  · by_cases hr : i.IsRedelegation
    · cases i <;> try exact hr.elim
      case redelegateStake delegator source target account pool treasury remaining amount =>
      have hne : u ≠ delegator := by
        rintro rfl
        simp [Event.redelegationTime, hi] at hno
      obtain ⟨_, _, _, _, _, _, _, _, -, -, -, -, -, -, -, -, -, -, -, -, -, -, hwrote⟩ :=
        redelegateStake_charged h
      rw [hwrote, Function.update_of_ne hne]
    · rw [(handler_regular h).redelegations hr]
  · rfl

lemma call_of_redelegationTime (h : e.redelegationTime u = some t) :
    ∃ src tgt acc p q remaining amount,
      e.action = .call (.redelegateStake u src tgt acc p q remaining amount) ∧
        t = e.clock.unixTimestamp := by
  unfold Event.redelegationTime at h
  split at h
  · rename_i haction
    split at h
    · rename_i hu
      subst hu
      exact ⟨_, _, _, _, _, _, _, haction, (Option.some.inj h).symm⟩
    · cases h
  · cases h

lemma recordFollows_step (h : GarStep env s e s')
    (hrec : RecordFollows (s.redelegations u) times) :
    RecordFollows (s'.redelegations u) ((e.redelegationTime u).toList ++ times) := by
  cases htime : e.redelegationTime u with
  | none =>
    rw [redelegations_of_other h htime]
    exact hrec
  | some t =>
    obtain ⟨src, tgt, acc, p, q, remaining, amount, haction, rfl⟩ := call_of_redelegationTime htime
    simp only [GarStep, Event.exec, haction, Instruction.exec, bind_eq_ok,
      Instruction.handler] at h
    obtain ⟨-, -, h⟩ := h
    obtain ⟨_, _, _, _, _, _, _, _, -, -, -, -, -, -, -, -, -, hcount, -, -, -, -, hwrote⟩ :=
      redelegateStake_charged h
    rw [hwrote, Function.update_self]
    refine ⟨_, rfl, ?_, rfl⟩
    rw [nextCount_eq hcount, hrec.read]
    rfl

lemma Fresh.redelegations (h : Fresh env s) : s.redelegations = fun _ => none := by
  obtain ⟨payer, mint, params, tokens, hinit⟩ := h.initialized
  simp only [initializeGar, bind_eq_ok, pure_eq_ok] at hinit
  obtain ⟨-, -, rfl⟩ := hinit
  rfl

/-- **The record follows the redelegations** of every run. -/
theorem run_recordFollows (hfresh : Fresh env s₀) (run : Run (GarStep env) s₀ tr s) :
    RecordFollows (s.redelegations u) (redelegationTimes u tr) := by
  induction run with
  | nil =>
    rw [hfresh.redelegations]
    rfl
  | cons run last ih =>
    have hnext := recordFollows_step last ih
    rw [redelegationTimes, List.filterMap_cons]
    split
    · rename_i hnone
      rw [hnone] at hnext
      exact hnext
    · rename_i t hsome
      rw [hsome] at hnext
      exact hnext

lemma run_accounts (run : Run (GarStep env) s₀ tr s) :
    s.settings.stakeTokenAccount = s₀.settings.stakeTokenAccount ∧
      s.settings.protocolTokenAccount = s₀.settings.protocolTokenAccount := by
  induction run with
  | nil => exact ⟨rfl, rfl⟩
  | cons run last ih =>
    rcases garStep_cases last with ⟨i, -, -, h⟩ | ⟨t, rfl⟩
    · have hkept := handler_regular h
      exact ⟨hkept.pool.trans ih.1, hkept.treasury.trans ih.2⟩
    · exact ih

lemma Fresh.pool_ne_treasury (h : Fresh env s) :
    s.settings.protocolTokenAccount ≠ s.settings.stakeTokenAccount := by
  intro heq
  have howner := h.treasury
  rw [heq, h.pool] at howner
  simp only [Option.some.injEq, Prod.mk.injEq, true_and] at howner
  exact h.addresses howner

end

/-- **The redelegation fee.** In every run each successful redelegation charges ten percent for each
redelegation of the delegator that it is linked to, at most sixty percent; nothing overflows, the
fee goes to the treasury, and the rest arrives. The counters of the two gateways change by that and
by the rewards that the call settles; the counter of the source stops at zero, but in a reconciled
run it holds the amount. -/
theorem redelegation_fee (env : Env) (s₀ s s' : State) (tr : Trace) (clock : Clock)
    (u src tgt p q : Pubkey) (acc : TokenAccount) (remaining : List AccountMeta) (amount : ℕ)
    (hamount : amount < 2 ^ 64) (hfresh : Fresh env s₀) (run : Run (GarStep env) s₀ tr s)
    (h : (Instruction.redelegateStake u src tgt acc p q remaining amount).exec env clock s
      = .ok s') :
    let n := linked clock.unixTimestamp (redelegationTimes u tr)
    let fee := amount * linkedRate n / rateScale
    10 * n < 2 ^ 32 ∧ amount * linkedRate n < 2 ^ 128 ∧ fee < 2 ^ 64 ∧
    fee + (amount - fee) = amount ∧ 0 < amount - fee ∧
    s'.tokens.balance s.settings.protocolTokenAccount
      = s.tokens.balance s.settings.protocolTokenAccount + fee ∧
    ∃ g g' d d', s.gateways src = some g ∧ s.gateways tgt = some g' ∧
      s.delegations (src, u) = some d ∧ (s.delegations (tgt, u)).getD Delegation.zeroed = d' ∧
      (s'.gateways src).map (·.totalDelegatedStake)
        = some ((settleDelegateRewards g d).gateway.totalDelegatedStake - amount) ∧
      (s'.gateways tgt).map (·.totalDelegatedStake)
        = some ((settleDelegateRewards g' d').gateway.totalDelegatedStake + (amount - fee)) ∧
      (Reconciled tr → amount ≤ (settleDelegateRewards g d).gateway.totalDelegatedStake ∧
        (settleDelegateRewards g d).gateway.totalDelegatedStake
          = g.totalDelegatedStake + (settleDelegateRewards g d).settled ∧
        (settleDelegateRewards g' d').gateway.totalDelegatedStake
          = g'.totalDelegatedStake + (settleDelegateRewards g' d').settled) := by
  intro n fee
  simp only [Instruction.exec, bind_eq_ok, Instruction.handler] at h
  obtain ⟨-, -, h⟩ := h
  obtain ⟨g, g', d, d', rate, scaled, count, tokens, hg, hg', hd, hd', hne, hle, hrate, hscaled,
    hnet,
    -, htokens, hs', hsource, htarget, -⟩ := redelegateStake_charged h
  have hfollows : RecordFollows (s.redelegations u) (redelegationTimes u tr) :=
    run_recordFollows hfresh run
  obtain ⟨hcount, hrate⟩ := getFeeRate_eq_ok.mp hrate
  rw [hfollows.read] at hcount hrate
  subst hrate
  obtain ⟨hfits, rfl⟩ := checkedMul_eq_some.mp hscaled
  have hfee_le : amount * linkedRate n / rateScale ≤ amount := by
    refine Nat.div_le_of_le_mul ?_
    rw [Nat.mul_comm]
    exact Nat.mul_le_mul_right _ (linkedRate_le n)
  have hfee : truncate 64 (amount * linkedRate n / rateScale) = fee :=
    truncate_of_lt (hfee_le.trans_lt hamount)
  rw [hfee] at hnet htokens htarget
  obtain ⟨hpool, htreasury⟩ := run_accounts run
  have haccounts : s.settings.protocolTokenAccount ≠ s.settings.stakeTokenAccount := by
    rw [hpool, htreasury]
    exact hfresh.pool_ne_treasury
  have hbalance := htokens.balance_eq s.settings.protocolTokenAccount
  rw [if_pos rfl, if_neg haccounts] at hbalance
  refine ⟨hcount, hfits, hfee_le.trans_lt hamount, Nat.add_sub_of_le hfee_le, hnet, ?_, g, g',
    d, d',
    hg, hg', hd, hd', hsource, htarget, fun hrec => ?_⟩
  · rw [hs']
    omega
  · obtain ⟨hL, -⟩ := run_ledger hfresh run hrec
    have hdd : (s.delegations (src, u)).getD Delegation.zeroed = d := by rw [hd, Option.getD_some]
    obtain ⟨-, hr, hrd⟩ := settleDelegateRewards_spec hL.solvent hL.tokens_lt hg hdd
    obtain ⟨-, hr', -⟩ := settleDelegateRewards_spec hL.solvent hL.tokens_lt hg' hd'
    rw [hrd] at hle
    refine ⟨?_, by rw [hr], by rw [hr']⟩
    rw [hr]
    exact hL.settled_amount_le hg hdd hle

lemma redelegationTimes_eq (u : Pubkey) (tr : Trace) :
    redelegationTimes u tr = (tr.map (·.label)).filterMap (·.redelegationTime u) := by
  rw [redelegationTimes, List.filterMap_map]
  rfl

namespace SmallNetwork

/-- Delegate 23 redelegates from gateway 21 to gateway 22. -/
def redelegation (amount : ℕ) : Instruction :=
  .redelegateStake ⟨23⟩ ⟨21⟩ ⟨22⟩ ⟨⟨10⟩, ⟨23⟩, 0⟩ ⟨11⟩ ⟨12⟩ [] amount

def redelegate (t : ℤ) (amount : ℕ) : Event := call t (redelegation amount)

def redelegated : Script :=
  ⟨[join 21, join 22, delegate 23 21 40000000, redelegate 1003 20000000], by decide +kernel⟩

/-- The counter of gateway 21 is lowered below its delegation. -/
def uncountedBefore : Script :=
  ⟨[join 21, join 22, delegate 23 21 30000000, reconcile 21 30000000], by decide +kernel⟩

/-- Gateway 21 earns rewards for its delegate. -/
def rewarded : Script :=
  ⟨opening ++ [tally, join 22, call 1002 (.prescribeEpoch 0 [⟨.gateway ⟨21⟩, true⟩] ⟨⟨0⟩, []⟩),
    call 1003 (.saveObservations ⟨41⟩ 0 (BitVec.allOnes 3000) 1 0), call 90000 distribution],
    by decide +kernel⟩

/-- The counter of gateway 21. -/
def counter (s : State) : Option ℕ := (s.gateways ⟨21⟩).map (·.totalDelegatedStake)

end SmallNetwork

open SmallNetwork in
theorem redelegation_fee_small : ∃ s s', s = after redelegated.events ∧
    (redelegation 20000000).exec chain ⟨0, 1004⟩ s = .ok s' ∧
    s'.tokens.balance s.settings.protocolTokenAccount
      = s.tokens.balance s.settings.protocolTokenAccount + 2000000 := by
  obtain ⟨tr, run, hl⟩ := run_after redelegated.events redelegated.works
  set s := after redelegated.events with hs
  have hworks : (redelegation 20000000).exec chain ⟨0, 1004⟩ s
      = .ok (outcome ((redelegation 20000000).exec chain ⟨0, 1004⟩ s) s) :=
    eq_ok_outcome (by rw [hs]; unfold after; decide +kernel)
  have htimes : linked 1004 (redelegationTimes ⟨23⟩ tr) = 1 := by
    rw [redelegationTimes_eq, hl]
    decide +kernel
  have hfee := (redelegation_fee chain start s _ tr ⟨0, 1004⟩ ⟨23⟩ ⟨21⟩ ⟨22⟩ ⟨11⟩ ⟨12⟩
    ⟨⟨10⟩, ⟨23⟩, 0⟩ [] 20000000 (by norm_num) fresh run hworks).2.2.2.2.2.1
  rw [htimes] at hfee
  exact ⟨s, _, rfl, hworks, hfee⟩

open SmallNetwork in
/-- The counter of the source need not fall by the amount: it stops at zero after a reconciliation
that was shown no delegations, and it also rises by the rewards that the call settles. -/
theorem redelegation_counter_differs :
    (∃ s s', s = after uncountedBefore.events ∧
      (redelegation 30000000).exec chain ⟨0, 1004⟩ s = .ok s' ∧
      counter s = some 0 ∧ counter s' = some 0) ∧
    ∃ s s', s = after rewarded.events ∧
      (redelegation 20000000).exec chain ⟨0, 90001⟩ s = .ok s' ∧
      counter s = some 20000000 ∧ counter s' = some 500000000 := by
  refine ⟨⟨_, outcome ((redelegation 30000000).exec chain ⟨0, 1004⟩
    (after uncountedBefore.events)) start, rfl, eq_ok_outcome ?_, ?_, ?_⟩,
    ⟨_, outcome ((redelegation 20000000).exec chain ⟨0, 90001⟩ (after rewarded.events)) start, rfl,
      eq_ok_outcome ?_, ?_, ?_⟩⟩
  all_goals unfold after; decide +kernel

end Gar
end ArioSolana
