import ArioSolana.GarAccounting

/-!
# Whose stake it is

An instruction changes nobody's claim but that of the person it is about, and that claim by the
tokens that went through the stake pool. A prune slashes, and a distribution gives.
-/

namespace ArioSolana
namespace Gar

open Checked Solana Book Finset

attribute [local irreducible] book settleDelegateRewards Book.pending

variable {env : Env} {s s' s₀ : State} {k u : Pubkey} {tr : Trace} {e : Event} {clock : Clock}
  {i : Instruction}

def Instruction.IsPrune : Instruction → Prop
  | .pruneGateway .. => True
  | _ => False

def Instruction.IsDistribution : Instruction → Prop
  | .distributeEpoch .. => True
  | _ => False

/-! ### Who may move tokens -/

/-- Only the signer whose stake it is about moves tokens; a prune does so without a signer. -/
lemma handler_tokens (hi : ¬ i.IsDistribution) (hp : ¬ i.IsPrune) (hsign : i.signer ≠ some i.about)
    (h : i.handler env clock s = .ok s') : s'.tokens = s.tokens := by
  refine (handler_idle (fun hm => ?_) h).1
  cases i <;> first | exact hm.elim | exact hi trivial | exact hp trivial | exact hsign rfl

/-! ### The claims -/

lemma poolBalance_of_kept (hk : Kept s s') (ht : s'.tokens = s.tokens) :
    s'.poolBalance = s.poolBalance := by
  rw [State.poolBalance, State.poolBalance, ht, hk.stakeTokenAccount]

/-- An instruction changes the claim of the person it is about by the tokens that came into the
pool, and no other claim. -/
lemma Effect.claim (hL : Ledger env s) (h : Effect s s' k) (u : Pubkey) :
    (s'.claim u : ℤ) = s.claim u + if u = k then (s'.poolBalance : ℤ) - s.poolBalance else 0 := by
  obtain ⟨ms, habout, hadm, hbook⟩ := h.posted
  have hclaim := claim_play_about hadm habout u
  rw [← hbook, claim_eq hL, claim_eq (h.ledger hL), ← balance_eq, ← balance_eq] at hclaim
  exact hclaim

lemma pruneGateway_pool {clock : ℤ} {operator p q : Pubkey} {excess : Option Address}
    {remaining : List AccountMeta} (hF : Footing env s)
    (h : pruneGateway env clock operator p q excess remaining s = .ok s') :
    (s'.poolBalance : ℤ) = s.poolBalance
      - (min s.settings.minOperatorStake ((s.gateways operator).elim 0 (·.operatorStake)) : ℕ) := by
  obtain ⟨g, settings, slash, C, W, L, t, hg, -, -, -, -, hslash, -, ht, -, -, -, rfl⟩ :=
    pruneGateway_ok h
  have hbal := ht.balance_eq s.settings.stakeTokenAccount
  rw [if_neg hF.treasury_ne_pool.symm, if_pos rfl, add_zero] at hbal
  simp only [State.poolBalance]
  rw [hbal, hslash, hg]
  rfl

/-- **Nobody's stake is reduced by others.** In every state that can be reached, and for every
instruction except the reconciliation by the authority: a prune takes the minimum stake from the
operator it prunes and nothing from anyone else; a distribution lowers no claim; any other
instruction changes no claim but the signer's; and an instruction that `u` signs changes the
claim of `u` by the tokens that came into the stake pool, less those that left it. -/
theorem claims_protected (hfresh : Fresh env s₀) (run : Run (GarStep env) s₀ tr s)
    (hrec : tr.Avoids Instruction.IsReconcile) (hi : ¬ i.IsReconcile)
    (h : i.exec env clock s = .ok s') (u : Pubkey) :
    (i.IsPrune → s.claim u = s'.claim u + if u = i.about then
      min s.settings.minOperatorStake ((s.gateways u).elim 0 (·.operatorStake)) else 0) ∧
    (i.IsDistribution → s.claim u ≤ s'.claim u) ∧
    (¬ i.IsPrune → ¬ i.IsDistribution → i.signer ≠ some u → s'.claim u = s.claim u) ∧
    (i.signer = some u → (s'.claim u : ℤ) = s.claim u + s'.poolBalance - s.poolBalance) := by
  obtain ⟨hL, hR⟩ := run_ledger hfresh run hrec.reconciled
  simp only [Instruction.exec, bind_eq_ok, require_eq_ok, exists_const] at h
  obtain ⟨hsign, h⟩ := h
  by_cases hd : i.IsDistribution
  · cases i <;> try exact hd.elim
    case distributeEpoch index treasury pool remaining =>
    simp only [Instruction.IsPrune, Instruction.signer, false_imp_iff, true_and, hd, not_true,
      not_false_iff, true_imp_iff, reduceCtorEq, and_true]
    have hgain := distributeEpoch_gain hL hR h
    obtain ⟨ms, hms, hadm, hbook⟩ := hgain.posted
    have : Book.claim id precision (book s) u
        ≤ Book.claim id precision (play precision ms (book s)) u :=
      claim_le_play_of_gain precision_pos hL.solvent hadm hms u
    rw [← hbook, claim_eq hL, claim_eq (hgain.ledger hL)] at this
    exact_mod_cast this
  have hchange : (s'.claim u : ℤ) = s.claim u
      + (if u = i.about then (s'.poolBalance : ℤ) - s.poolBalance else 0) ∧ Kept s s' := by
    by_cases hs : i.IsSpecial
    · cases i <;> try exact hs.elim
      case distributeEpoch => exact absurd trivial hd
      case adminReconcileDelegatedStake => exact absurd trivial hi
      case adminResyncSupplyCounters authority es ns ed nd =>
        rw [adminResyncSupplyCounters_ok h]
        refine ⟨?_, .of_fixed rfl rfl⟩
        have hsame : ∀ x : GatewaySettings, { s with settings := x }.claim u = s.claim u :=
          fun _ => rfl
        have hpool : { s with settings := { s.settings with
            totalStaked := ns, totalDelegated := nd } }.poolBalance = s.poolBalance := rfl
        rw [hsame, hpool, sub_self, ite_self, add_zero]
    · have heff := handler_effect hL hsign hs h
      exact ⟨heff.claim hL u, heff.kept⟩
  obtain ⟨hclaim, hkept⟩ := hchange
  have hidle : ¬ i.IsPrune → i.signer ≠ some i.about → s'.poolBalance = s.poolBalance :=
    fun hp hne => poolBalance_of_kept hkept (handler_tokens hd hp hne h)
  refine ⟨fun hp => ?_, fun hd' => absurd hd' hd, fun hp _ hu => ?_, fun hu => ?_⟩
  · by_cases hab : u = i.about
    · rw [if_pos hab] at hclaim ⊢
      cases i <;> try exact hp.elim
      case pruneGateway operator pool treasury excess remaining =>
      have hpool := pruneGateway_pool hL.footing h
      obtain rfl : u = operator := hab
      zify at hpool ⊢
      linarith
    · rw [if_neg hab, add_zero] at hclaim ⊢
      exact_mod_cast hclaim.symm
  · by_cases hab : u = i.about
    · rw [hidle hp (by rw [← hab]; exact hu), sub_self, ite_self, add_zero] at hclaim
      exact_mod_cast hclaim
    · rw [if_neg hab, add_zero] at hclaim
      exact_mod_cast hclaim
  · have hp : ¬ i.IsPrune := by
      intro hp
      cases i <;> first | exact hp.elim | cases hu
    by_cases hab : u = i.about
    · rw [if_pos hab] at hclaim
      linarith
    · rw [if_neg hab, add_zero] at hclaim
      rw [hclaim, hidle hp (by rw [hu]; simpa using hab)]
      ring

open SmallNetwork in
theorem claims_protected_small : ∃ s s', s = after earned.events ∧
    0 < s.pendingReward ⟨21⟩ ⟨23⟩ ∧
    (Instruction.compoundDelegationRewards ⟨23⟩ ⟨21⟩).exec chain ⟨0, 90001⟩ s = .ok s' ∧
    s'.claim ⟨23⟩ = s.claim ⟨23⟩ := by
  obtain ⟨tr, run, hl⟩ := run_after earned.events earned.works
  have hpending : 0 < (after earned.events).pendingReward ⟨21⟩ ⟨23⟩ := by
    unfold after
    decide +kernel
  have h := eq_ok_outcome (x := (Instruction.compoundDelegationRewards ⟨23⟩ ⟨21⟩).exec chain
    ⟨0, 90001⟩ (after earned.events)) (s := start) (by unfold after; decide +kernel)
  exact ⟨_, _, rfl, hpending, h, (claims_protected fresh run (avoids_of_labels hl earned_plain) id
    h ⟨23⟩).2.2.1 id id (by simp [Instruction.signer])⟩

/-! ### The floor of the operator stake -/

/-- `amount` was put into new withdrawals of the operator: up to the minimum stake into a
protected one, and the rest into a second one. No other withdrawal changed. -/
def ExitSplit (s s' : State) (operator : Pubkey) (amount : ℕ) : Prop :=
  ∃ id prot, s.withdrawals (operator, id) = none ∧ s'.withdrawals (operator, id) = some prot ∧
    prot.owner = operator ∧ prot.amount = min amount s.settings.minOperatorStake ∧
    (0 < prot.amount → prot.isProtected = true) ∧
    (amount ≤ s.settings.minOperatorStake ∧
      (∀ x, x ≠ (operator, id) → s'.withdrawals x = s.withdrawals x) ∨
     s.settings.minOperatorStake < amount ∧ ∃ id' excess, id'.val = id.val + 1 ∧
      s.withdrawals (operator, id') = none ∧ s'.withdrawals (operator, id') = some excess ∧
      excess.owner = operator ∧ excess.amount = amount - s.settings.minOperatorStake ∧
      excess.isProtected = false ∧
      ∀ x, x ≠ (operator, id) → x ≠ (operator, id') → s'.withdrawals x = s.withdrawals x)

lemma ExitVaults.split {clock : ℤ} {stake : ℕ} {flag : Bool}
    {C : Pubkey → Option WithdrawalCounter} {W : Pubkey × WithdrawalId → Option Withdrawal}
    (h : ExitVaults clock k stake flag s C W) (hW : s'.withdrawals = W) :
    ExitSplit s s' k stake := by
  obtain ⟨hnone, excessId, nextId, hid, -, ⟨hle, -, rfl⟩ | ⟨hlt, -, hnone', rfl⟩⟩ := h
  · refine ⟨(loadCounter s k).nextId, _, hnone, by rw [hW, Function.update_self], rfl, ?_, ?_,
      .inl ⟨hle, fun x hx => by rw [hW, Function.update_of_ne hx]⟩⟩
    · simp [exitVault, hle]
    · intro hpos; simpa [exitVault] using hpos
  · have hne : ((k, (loadCounter s k).nextId) : Pubkey × WithdrawalId) ≠ (k, excessId) := by
      intro heq
      have := congrArg (fun x : Pubkey × WithdrawalId => x.2.val) heq
      simp only [hid] at this
      omega
    refine ⟨(loadCounter s k).nextId, _, hnone, by rw [hW, Function.update_of_ne hne,
      Function.update_self], rfl, ?_, ?_, .inr ⟨hlt, excessId, _, hid, hnone', by
      rw [hW, Function.update_self], rfl, rfl, rfl, fun x hx hx' => by
      rw [hW, Function.update_of_ne hx', Function.update_of_ne hx]⟩⟩
    · simp [exitVault, hlt.le]
    · intro hpos; simpa [exitVault] using hpos

/-- **Operator stake.** In every state that can be reached a joined gateway has at least the
minimum stake and a leaving one has none. Leaving turns the whole stake of the operator into the
two exit vaults; a prune does so with what is left after the slash, which goes from the pool to
the treasury; and only a gateway that counts no stake is removed. Nothing is delegated to it then,
unless the authority made its counter forget a delegation. -/
theorem operator_stake_floor (hfresh : Fresh env s₀) (run : Run (GarStep env) s₀ tr s) :
    (∀ k g, s.gateways k = some g →
      (g.status = .joined → s.settings.minOperatorStake ≤ g.operatorStake) ∧
      (g.status = .leaving → g.operatorStake = 0)) ∧
    (∀ clock operator excess remaining s',
      (Instruction.leaveNetwork operator excess remaining).exec env clock s = .ok s' →
      ∃ g g', s.gateways operator = some g ∧ s'.gateways operator = some g' ∧
        g'.operatorStake = 0 ∧ s'.poolBalance = s.poolBalance ∧
        ExitSplit s s' operator g.operatorStake) ∧
    (∀ clock operator pool treasury excess remaining s',
      (Instruction.pruneGateway operator pool treasury excess remaining).exec env clock s = .ok s' →
      ∃ g g' slash, s.gateways operator = some g ∧ s'.gateways operator = some g' ∧
        g'.operatorStake = 0 ∧ slash = min s.settings.minOperatorStake g.operatorStake ∧
        s.poolBalance = s'.poolBalance + slash ∧
        s'.tokens.balance s.settings.protocolTokenAccount
          = s.tokens.balance s.settings.protocolTokenAccount + slash ∧
        ExitSplit s s' operator (g.operatorStake - slash)) ∧
    (∀ clock operator remaining s',
      (Instruction.finalizeGone operator remaining).exec env clock s = .ok s' →
      ∃ g, s.gateways operator = some g ∧ g.operatorStake = 0 ∧ g.totalDelegatedStake = 0 ∧
        (Reconciled tr → s.delegatedTo operator = 0)) := by
  obtain ⟨hF, hR⟩ := run_footing hfresh run
  refine ⟨fun k g hg => ?_, fun clock operator excess remaining s' h => ?_,
    fun clock operator pool treasury excess remaining s' h => ?_,
    fun clock operator remaining s' h => ?_⟩
  · have hok := hF.gateways k g hg
    exact ⟨hok.floor, fun hst => hok.departed (by rw [hst]; decide)⟩
  · simp only [Instruction.exec, bind_eq_ok, Instruction.handler] at h
    obtain ⟨-, -, h⟩ := h
    obtain ⟨g, settings, C, W, L, hg, -, -, -, hexit, -, -, -, rfl⟩ := leaveNetwork_ok h
    exact ⟨g, g.departed clock.unixTimestamp settings.epochDuration, hg, Function.update_self ..,
      rfl, rfl, hexit.split rfl⟩
  · simp only [Instruction.exec, bind_eq_ok, Instruction.handler] at h
    obtain ⟨-, -, h⟩ := h
    have hpool := pruneGateway_pool hF h
    obtain ⟨g, settings, slash, C, W, L, t, hg, -, -, -, -, hslash, hexit, ht, -, -, -, rfl⟩ :=
      pruneGateway_ok h
    have hbal := ht.balance_eq s.settings.protocolTokenAccount
    rw [if_pos rfl, if_neg hF.treasury_ne_pool, sub_zero] at hbal
    refine ⟨g, g.departed clock.unixTimestamp settings.epochDuration, slash, hg,
      Function.update_self .., rfl, hslash, ?_, ?_, hexit.split rfl⟩
    · rw [hg] at hpool
      simp only [Option.elim_some, ← hslash] at hpool
      zify
      linarith
    · simp only
      exact_mod_cast hbal
  · simp only [Instruction.exec, bind_eq_ok, Instruction.handler] at h
    obtain ⟨-, -, h⟩ := h
    obtain ⟨g, settings, s₁, hg, -, -, hst, h0, -, -, -, -, -, -⟩ := finalizeGone_ok h
    refine ⟨g, hg, (hF.gateways _ _ hg).departed (by rw [hst]; decide), h0, fun hrec => ?_⟩
    have hback := (run_ledger hfresh run hrec).1.solvent.backed operator
    rw [sum_principal_eq, (book_gateway hg).2.1, h0] at hback
    exact Nat.le_zero.mp (by exact_mod_cast hback)

namespace SmallNetwork

def finalization : Instruction := .finalizeGone ⟨21⟩ [⟨.epoch 0, false⟩]

/-- The delegate of gateway 21 compounds its reward, the authority makes the gateway forget the
delegation, and the gateway leaves. -/
def abandoned : Script :=
  ⟨opening ++ tally :: observing ++ [call 90000 distribution,
    call 90001 (.compoundDelegationRewards ⟨23⟩ ⟨21⟩),
    call 90002 (.adminReconcileDelegatedStake ⟨4⟩ ⟨21⟩ [] 520000000 520000000),
    call 90003 (.leaveNetwork ⟨21⟩ (some (.withdrawal ⟨21⟩ 1)) [⟨.observerLookup ⟨41⟩, true⟩])],
    by decide +kernel⟩

end SmallNetwork

-- 90 days and seven epochs after its leave the counter is still zero
open SmallNetwork in
/-- A gateway can be removed while stake is delegated to it. -/
theorem removed_with_delegation : ∃ (tr : Trace) (s s' : State), Run (GarStep chain) start tr s ∧
    finalization.exec chain ⟨0, 9000000⟩ s = .ok s' ∧ 0 < s.delegatedTo ⟨21⟩ := by
  obtain ⟨tr, run, -⟩ := run_after abandoned.events abandoned.works
  have last : finalization.exec chain ⟨0, 9000000⟩ (after abandoned.events)
      = .ok (outcome (finalization.exec chain ⟨0, 9000000⟩ (after abandoned.events)) start) :=
    eq_ok_outcome (by unfold after; decide +kernel)
  have hamount : ((after abandoned.events).delegations (⟨21⟩, ⟨23⟩)).elim 0 (·.amount)
      = 520000000 := by
    unfold after
    decide +kernel
  refine ⟨tr, _, _, run, last, ?_⟩
  have hle := single_le_sum (f := fun u => ((after abandoned.events).delegations (⟨21⟩, u)).elim 0
    (·.amount)) (s := univ) (fun _ _ => Nat.zero_le _) (mem_univ ⟨23⟩)
  simp only [hamount] at hle
  exact (by norm_num : (0 : ℕ) < 520000000).trans_le hle

open SmallNetwork in
theorem operator_stake_floor_small : ∃ s, s = after abandoned.events ∧
    (∀ k g, s.gateways k = some g →
      (g.status = .joined → s.settings.minOperatorStake ≤ g.operatorStake) ∧
      (g.status = .leaving → g.operatorStake = 0)) ∧
    ∀ s', finalization.exec chain ⟨0, 9000000⟩ s = .ok s' →
      ∃ g, s.gateways ⟨21⟩ = some g ∧ g.operatorStake = 0 ∧ g.totalDelegatedStake = 0 := by
  obtain ⟨tr, run, -⟩ := run_after abandoned.events abandoned.works
  obtain ⟨hfloor, -, -, hgone⟩ := operator_stake_floor fresh run
  refine ⟨_, rfl, hfloor, fun s' h => ?_⟩
  obtain ⟨g, hg, hown, hcount, -⟩ := hgone _ _ _ _ h
  exact ⟨g, hg, hown, hcount⟩

/-! ### What new principal earns -/

lemma pendingReward_of_debt {g : Gateway} {d : Delegation} (hg : s.gateways k = some g)
    (hd : s.delegations (k, u) = some d) (h : d.rewardDebt = g.cumulativeRewardPerToken) :
    s.pendingReward k u = 0 := by
  simp only [State.pendingReward, hg, hd, settled_of_debt h]

/-- **New principal earns from now on.** As long as no reconciliation makes a counter forget a
delegation, a delegation with stake has a mark at or below its gateway's accumulator in every state
that can be reached. Right after stake was added to a delegation, a settlement would credit it
nothing, whatever the counters say. -/
theorem principal_earns_later (hfresh : Fresh env s₀) (run : Run (GarStep env) s₀ tr s) :
    (Reconciled tr → ∀ k u d, s.delegations (k, u) = some d → 0 < d.amount →
      ∃ g, s.gateways k = some g ∧ d.rewardDebt ≤ g.cumulativeRewardPerToken) ∧
    (∀ clock delegator gateway account pool remaining amount s',
      (Instruction.delegateStake delegator gateway account pool remaining amount).exec env clock s
        = .ok s' → s'.pendingReward gateway delegator = 0) ∧
    (∀ clock delegator source target account pool treasury remaining amount s',
      (Instruction.redelegateStake delegator source target account pool treasury remaining
        amount).exec env clock s = .ok s' → s'.pendingReward target delegator = 0) ∧
    (∀ clock owner gateway id withDelegation w s', s.withdrawals (owner, id) = some w →
      w.isDelegate = true →
      (Instruction.cancelWithdrawal owner gateway id withDelegation).exec env clock s = .ok s' →
      s'.pendingReward gateway owner = 0) := by
  refine ⟨fun hrec k u d hd hpos =>
    ?_, fun clock delegator gateway account pool remaining amount s' h =>
    ?_, fun clock delegator source target account pool treasury remaining amount s' h => ?_,
    fun clock owner gateway id withDelegation w s' hw hisd h => ?_⟩
  · obtain ⟨hL, -⟩ := run_ledger hfresh run hrec
    have hprin := principal_eq s k u
    rw [hd, Option.elim_some] at hprin
    cases hg : s.gateways k with
    | none =>
      have := hL.solvent.principal_le_shares k u
      rw [(book_no_gateway hg).2.1, hprin] at this
      exact absurd this (by zify at hpos; linarith)
    | some g =>
      have hmark := hL.solvent.marked k u (by rw [hprin]; exact_mod_cast hpos)
      rw [(book_delegation (d := d) (by rw [hd]; rfl)).2, (book_gateway hg).2.2] at hmark
      exact ⟨g, rfl, by exact_mod_cast hmark⟩
  · simp only [Instruction.exec, bind_eq_ok, Instruction.handler] at h
    obtain ⟨-, -, h⟩ := h
    obtain ⟨g, d, t, -, -, -, -, -, -, rfl⟩ := delegateStake_ok h
    exact pendingReward_of_debt (Function.update_self ..) (Function.update_self ..)
      (settle_fields _ _).1.symm
  · simp only [Instruction.exec, bind_eq_ok, Instruction.handler] at h
    obtain ⟨-, -, h⟩ := h
    obtain ⟨g, d, g', d', fee, t, record, -, -, -, -, -, -, -, -, -, rfl⟩ := redelegateStake_ok h
    refine pendingReward_of_debt (Function.update_self ..) (Function.update_self ..) ?_
    rw [(settle_fields _ _).1]
  · simp only [Instruction.exec, bind_eq_ok, Instruction.handler] at h
    obtain ⟨-, -, h⟩ := h
    obtain ⟨w', g, hw', -, -, -, ⟨-, d, -, rfl⟩ | ⟨hop, -⟩⟩ := cancelWithdrawal_ok h
    · refine pendingReward_of_debt (Function.update_self ..) (Function.update_self ..) ?_
      rw [(settle_fields _ _).1, (settle_fields _ _).2.2.1]
    · rw [hw] at hw'
      cases hw'
      rw [hop] at hisd
      cases hisd

open SmallNetwork in
theorem principal_earns_later_small : ∃ s, s = after [join 21, delegate 23 21 20000000] ∧
    (∀ k u d, s.delegations (k, u) = some d → 0 < d.amount →
      ∃ g, s.gateways k = some g ∧ d.rewardDebt ≤ g.cumulativeRewardPerToken) ∧
    ∀ s', (delegate 24 21 20000000).exec chain s = .ok s' → s'.pendingReward ⟨21⟩ ⟨24⟩ = 0 := by
  obtain ⟨tr, run, hl⟩ := run_after [join 21, delegate 23 21 20000000] delegated.works
  obtain ⟨hmarks, hadded, -⟩ := principal_earns_later fresh run
  refine ⟨_, rfl, hmarks (Trace.Avoids.reconciled (avoids_of_labels hl ?_)), fun s' h =>
    hadded _ _ _ _ _ _ _ _ h⟩
  simp [join, delegate, Instruction.IsReconcile]

namespace SmallNetwork

/-- Gateway 21 is removed and joins again. -/
def returned : Script :=
  ⟨abandoned.events ++ [call 9000000 finalization, ⟨⟨0, 9000001⟩, (join 21).action⟩],
    by decide +kernel⟩

end SmallNetwork

-- the new accumulator starts at zero, and the forgotten delegation still has its mark
open SmallNetwork in
/-- A mark can be above the accumulator of its gateway. -/
theorem mark_above_accumulator : ∃ (tr : Trace) (s : State) (g : Gateway) (d : Delegation),
    Run (GarStep chain) start tr s ∧ s.gateways ⟨21⟩ = some g ∧
      s.delegations (⟨21⟩, ⟨23⟩) = some d ∧ 0 < d.amount ∧
      g.cumulativeRewardPerToken < d.rewardDebt := by
  obtain ⟨tr, run, -⟩ := run_after returned.events returned.works
  have hg : ((after returned.events).gateways ⟨21⟩).map (·.cumulativeRewardPerToken) = some 0 := by
    unfold after
    decide +kernel
  have hd : ((after returned.events).delegations (⟨21⟩, ⟨23⟩)).map
    (fun d => (d.amount, d.rewardDebt))
      = some (520000000, 25000000000000000000) := by
    unfold after
    decide +kernel
  obtain ⟨g, hg, hcum⟩ := Option.map_eq_some_iff.mp hg
  obtain ⟨d, hd, heq⟩ := Option.map_eq_some_iff.mp hd
  obtain ⟨hamount, hdebt⟩ := Prod.mk.inj heq
  exact ⟨tr, _, g, d, run, hg, hd, by omega, by omega⟩

/-! ### The registry -/

/-- **The registry is a bijection.** In every state that can be reached the slots in use name the
live gateways, each of them once; the others are zero; and each gateway points back at its slot,
which is marked with its status. -/
theorem registry_bijection (hfresh : Fresh env s₀) (run : Run (GarStep env) s₀ tr s) :
    s.registry.count = (univ.filter fun k => (s.gateways k).isSome).card ∧
    (∀ i < s.registry.count, ∀ j < s.registry.count,
      (s.registry.gateways i).address = (s.registry.gateways j).address → i = j) ∧
    (∀ i < s.registry.count, (s.registry.gateways i).address ≠ Pubkey.default) ∧
    (∀ i, s.registry.count ≤ i → s.registry.gateways i = .zeroed) ∧
    ∀ k g, s.gateways k = some g → g.operator = k ∧ g.registryIndex < s.registry.count ∧
      (s.registry.gateways g.registryIndex).address = g.operator ∧
      (g.status = .joined ∧
          (s.registry.gateways g.registryIndex).status = GatewaySlot.statusJoined ∨
        g.status = .leaving ∧
          (s.registry.gateways g.registryIndex).status = GatewaySlot.statusLeaving) := by
  obtain ⟨-, hR⟩ := run_footing hfresh run
  refine ⟨?_, fun i hi j hj heq => hR.injective hi hj heq, fun i hi => hR.address_ne_default hi,
    hR.zeroed, fun k g hg => ?_⟩
  · have himage : (univ.filter fun k => (s.gateways k).isSome)
        = (range s.registry.count).image fun i => (s.registry.gateways i).address := by
      ext k
      simp only [mem_filter, mem_univ, true_and, mem_image, mem_range, Option.isSome_iff_exists]
      constructor
      · rintro ⟨g, hg⟩
        exact ⟨_, hR.index k g hg⟩
      · rintro ⟨i, hi, rfl⟩
        obtain ⟨g, hg, -⟩ := hR.filled i hi
        exact ⟨g, hg⟩
    rw [himage, card_image_of_injOn, card_range]
    intro i hi j hj heq
    simp only [coe_range, Set.mem_Iio] at hi hj
    exact hR.injective hi hj heq
  · obtain ⟨hlt, haddr⟩ := hR.index k g hg
    obtain ⟨hgone, hmark⟩ := hR.status k g hg
    have hop := hR.operator k g hg
    refine ⟨hop, hlt, by rw [haddr, hop], ?_⟩
    rw [hmark]
    rcases hst : g.status with _ | _ | _
    · exact .inl ⟨rfl, rfl⟩
    · exact .inr ⟨rfl, rfl⟩
    · exact absurd hst hgone

open SmallNetwork in
theorem registry_bijection_small : ∃ s, s = after [join 21, join 22] ∧
    s.registry.count = (univ.filter fun k => (s.gateways k).isSome).card := by
  obtain ⟨tr, run, -⟩ := run_after [join 21, join 22] twoJoined.works
  exact ⟨_, rfl, (registry_bijection fresh run).1⟩

end Gar
end ArioSolana
