import ArioSolana.GarLedger

/-!
# What the stake instructions do

One lemma for each instruction on stake: when it succeeds, these checks held and this is the
state it leaves. Everything later in the development is derived from these lemmas, not from
the bodies of the instructions.
-/

namespace ArioSolana
namespace Gar

open Checked Solana

variable {env : Env} {s s' : State} {clock : ℤ} {k a p q : Pubkey} {amount : ℕ}
  {id : WithdrawalId} {remaining : List AccountMeta}

/-! ### Operator stake -/

lemma increaseOperatorStake_ok (h : increaseOperatorStake k a p amount s = .ok s') :
    ∃ g t, s.gateways k = some g ∧ g.status = .joined ∧ 0 < amount ∧
      s.tokens.terms a = some (s.settings.mint, k) ∧
      s.tokens.transfer a s.settings.stakeTokenAccount k amount = .ok t ∧
      s' = { s with
        gateways := Function.update s.gateways k
          (some { g with operatorStake := g.operatorStake + amount })
        tokens := t
        settings := { s.settings with totalStaked := s.settings.totalStaked + amount } } := by
  simp only [increaseOperatorStake, bind_eq_ok, loadOwnGateway_eq_ok, checkUserTokenAccount_eq_ok,
    checkStakeTokenAccount_eq_ok, require_eq_ok, splTransfer_eq_ok, add64_eq_ok, pure_eq_ok,
    exists_const] at h
  obtain ⟨g, ⟨hg, -⟩, ha, ⟨rfl, -⟩, hpos, hst, _, ⟨t, ht, rfl⟩, _, ⟨-, rfl⟩, _, ⟨-, rfl⟩, rfl⟩ := h
  exact ⟨g, t, hg, hst, hpos, ha, ht, rfl⟩

lemma increaseOperatorStake_fits (h : increaseOperatorStake k a p amount s = .ok s') :
    ∀ g ∈ s.gateways k, g.operatorStake + amount < 2 ^ 64 := by
  simp only [increaseOperatorStake, bind_eq_ok, loadOwnGateway_eq_ok, add64_eq_ok] at h
  obtain ⟨g, ⟨hg, -⟩, _, -, _, -, _, -, _, -, _, -, _, ⟨hfits, -⟩, -⟩ := h
  rintro x hx
  obtain rfl := Option.some.inj (hg.symm.trans hx)
  exact hfits

lemma decreaseOperatorStake_ok (h : decreaseOperatorStake clock k amount s = .ok s') :
    ∃ g nextId, let id := (loadCounter s k).nextId
      s.gateways k = some g ∧ 0 < amount ∧ amount ≤ g.operatorStake ∧
      (g.status = .joined → s.settings.minOperatorStake ≤ g.operatorStake - amount) ∧
      s.withdrawals (k, id) = none ∧ nextId.val = id.val + 1 ∧
      s' = { s with
        gateways := Function.update s.gateways k
          (some { g with operatorStake := g.operatorStake - amount })
        withdrawalCounters := Function.update s.withdrawalCounters k
          (some { loadCounter s k with nextId })
        withdrawals := Function.update s.withdrawals (k, id) (some {
          owner := k
          withdrawalId := id
          gateway := k
          amount
          createdAt := clock
          availableAt := clock + s.settings.withdrawalPeriod
          isDelegate := false
          isExitVault := false
          isProtected := false })
        settings := { s.settings with
          totalStaked := saturatingSub s.settings.totalStaked amount
          totalWithdrawn := s.settings.totalWithdrawn + amount } } := by
  simp only [decreaseOperatorStake, bind_eq_ok, loadOwnGateway_eq_ok, requireAbsent_eq_ok,
    require_eq_ok, okOr_eq_ok, checkedSub_eq_some, addTime_eq_ok, WithdrawalId.next_eq_ok,
    add64_eq_ok, pure_eq_ok, exists_const] at h
  obtain ⟨g, ⟨hg, rfl⟩, hnone, hpos, _, ⟨hle, rfl⟩, hmin, hleave, _, ⟨-, rfl⟩, nextId, hnext, _,
    ⟨-, rfl⟩, rfl⟩ := h
  refine ⟨g, nextId, hg, hpos, hle, fun hj => ?_, hnone, hnext, rfl⟩
  rcases hmin with hmin | h0
  · exact hmin
  · rw [hleave h0] at hj
    cases hj

/-! ### Delegating -/

lemma settle_of_empty {g : Gateway} {d : Delegation} (h : d.amount = 0) :
    settleDelegateRewards g d
      = ⟨g, { d with rewardDebt := g.cumulativeRewardPerToken }, 0⟩ := by
  simp [settleDelegateRewards, h]

lemma settled_of_debt {g : Gateway} {d : Delegation}
    (h : d.rewardDebt = g.cumulativeRewardPerToken) : (settleDelegateRewards g d).settled = 0 := by
  simp [settleDelegateRewards, h]

lemma settle_fields (g : Gateway) (d : Delegation) :
    (settleDelegateRewards g d).gateway.cumulativeRewardPerToken = g.cumulativeRewardPerToken ∧
    (settleDelegateRewards g d).gateway.operator = g.operator ∧
    (settleDelegateRewards g d).delegation.rewardDebt = g.cumulativeRewardPerToken ∧
    (settleDelegateRewards g d).delegation.startTimestamp = d.startTimestamp :=
  ⟨rfl, rfl, rfl, rfl⟩

lemma settled_gateway (g : Gateway) (d : Delegation) : ∃ n,
    (settleDelegateRewards g d).gateway = { g with totalDelegatedStake := n } :=
  ⟨_, rfl⟩

lemma delegateStake_ok {u : Pubkey} (h : delegateStake clock u k a p remaining amount s = .ok s') :
    ∃ g d t, let r := settleDelegateRewards g d
      s.gateways k = some g ∧ (s.delegations (k, u)).getD Delegation.zeroed = d ∧
      g.status = .joined ∧ 0 < amount ∧
      s.tokens.terms a = some (s.settings.mint, u) ∧
      s.tokens.transfer a s.settings.stakeTokenAccount u amount = .ok t ∧
      s' = { s with
        gateways := Function.update s.gateways k (some { r.gateway with
          totalDelegatedStake := r.gateway.totalDelegatedStake + amount })
        delegations := Function.update s.delegations (k, u) (some {
          gateway := k
          delegator := u
          amount := r.delegation.amount + amount
          startTimestamp := if d.amount = 0 then clock else d.startTimestamp
          rewardDebt := g.cumulativeRewardPerToken })
        tokens := t
        settings := { s.settings with
          totalDelegated := s.settings.totalDelegated + amount + r.settled } } := by
  simp only [delegateStake, bind_eq_ok, loadGateway_eq_ok, checkUserTokenAccount_eq_ok,
    checkStakeTokenAccount_eq_ok, require_eq_ok, splTransfer_eq_ok, add64_eq_ok, pure_eq_ok,
    exists_const] at h
  obtain ⟨g, ⟨hg, rfl⟩, ha, ⟨rfl, -⟩, hpos, -, -, hst, -, -, _, ⟨t, ht, rfl⟩, _, ⟨-, rfl⟩, _,
    ⟨-, rfl⟩, _, ⟨-, rfl⟩, _, ⟨-, rfl⟩, rfl⟩ := h
  refine ⟨g, loadOrInitDelegation s g.operator u, t, hg, rfl, hst, hpos, ha, ht, ?_⟩
  by_cases h0 : (loadOrInitDelegation s g.operator u).amount = 0
  · simp [settle_of_empty h0, h0, State.setGateway, State.setDelegation]
  · rw [if_pos (Nat.pos_of_ne_zero h0)]
    simp [h0, State.setGateway, State.setDelegation, settle_fields]

/-! ### Vaulting a delegation -/

lemma vaultDelegation_ok {u : Pubkey} {r : Settlement}
    (h : vaultDelegation clock u k r amount s = .ok s') :
    ∃ nextId, let id := (loadCounter s u).nextId
      s.withdrawals (u, id) = none ∧ nextId.val = id.val + 1 ∧
      s' = { s with
        gateways := Function.update s.gateways k (some { r.gateway with
          totalDelegatedStake := r.gateway.totalDelegatedStake - amount })
        delegations := Function.update s.delegations (k, u) (some { r.delegation with
          amount := r.delegation.amount - amount })
        withdrawalCounters := Function.update s.withdrawalCounters u
          (some { loadCounter s u with nextId })
        withdrawals := Function.update s.withdrawals (u, id) (some {
          owner := u
          withdrawalId := id
          gateway := r.gateway.operator
          amount
          createdAt := clock
          availableAt := clock + s.settings.withdrawalPeriod
          isDelegate := true
          isExitVault := false
          isProtected := false })
        settings := { s.settings with
          totalDelegated :=
            saturatingSub (saturatingAdd 64 s.settings.totalDelegated r.settled) amount
          totalWithdrawn := s.settings.totalWithdrawn + amount } } := by
  simp only [vaultDelegation, bind_eq_ok, requireAbsent_eq_ok, addTime_eq_ok, add64_eq_ok,
    WithdrawalId.next_eq_ok, pure_eq_ok, exists_const] at h
  obtain ⟨hnone, _, ⟨-, rfl⟩, nextId, hnext, _, ⟨-, rfl⟩, rfl⟩ := h
  exact ⟨nextId, hnone, hnext, rfl⟩

/-- The three instructions that move delegated stake to a withdrawal settle the delegation
first and vault some of what it then holds. -/
def Vaults (clock : ℤ) (u k : Pubkey) (s s' : State) : Prop :=
  ∃ g d amount, s.gateways k = some g ∧ s.delegations (k, u) = some d ∧ 0 < amount ∧
    amount ≤ (settleDelegateRewards g d).delegation.amount ∧
    vaultDelegation clock u k (settleDelegateRewards g d) amount s = .ok s'

lemma decreaseDelegateStake_ok {u : Pubkey}
    (h : decreaseDelegateStake clock u k amount s = .ok s') : Vaults clock u k s s' := by
  simp only [decreaseDelegateStake, bind_eq_ok, loadGateway_eq_ok, loadDelegation_eq_ok,
    require_eq_ok, exists_const] at h
  obtain ⟨g, ⟨hg, -⟩, d, hd, -, hpos, hle, -, h⟩ := h
  exact ⟨g, d, amount, hg, hd, hpos, hle, h⟩

lemma claimDelegateFromLeavingGateway_ok {u : Pubkey}
    (h : claimDelegateFromLeavingGateway clock u k s = .ok s') : Vaults clock u k s s' := by
  simp only [claimDelegateFromLeavingGateway, bind_eq_ok, loadGateway_eq_ok, loadDelegation_eq_ok,
    require_eq_ok, exists_const] at h
  obtain ⟨g, ⟨hg, -⟩, -, d, hd, -, -, hpos, h⟩ := h
  exact ⟨g, d, _, hg, hd, hpos, le_rfl, h⟩

lemma claimDelegateFromDisabledGateway_ok {u : Pubkey}
    (h : claimDelegateFromDisabledGateway clock u k s = .ok s') : Vaults clock u k s s' := by
  simp only [claimDelegateFromDisabledGateway, bind_eq_ok, loadGateway_eq_ok, loadDelegation_eq_ok,
    require_eq_ok, exists_const] at h
  obtain ⟨g, ⟨hg, -⟩, -, d, hd, -, -, hpos, h⟩ := h
  exact ⟨g, d, _, hg, hd, hpos, le_rfl, h⟩

/-! ### Closing, redelegating, compounding -/

lemma closeEmptyDelegation_ok {u : Pubkey} (h : closeEmptyDelegation u k s = .ok s') :
    ∃ g d, s.gateways k = some g ∧ s.delegations (k, u) = some d ∧ d.amount = 0 ∧
      s' = { s with
        gateways := Function.update s.gateways k (some g)
        delegations := Function.update s.delegations (k, u) none } := by
  simp only [closeEmptyDelegation, bind_eq_ok, loadGateway_eq_ok, loadDelegation_eq_ok,
    require_eq_ok, pure_eq_ok, exists_const] at h
  obtain ⟨g, ⟨hg, -⟩, d, hd, -, h0, -, rfl⟩ := h
  exact ⟨g, d, hg, hd, h0, by rw [settle_of_empty h0]; rfl⟩

lemma compoundDelegationRewards_ok {u : Pubkey} (h : compoundDelegationRewards u k s = .ok s') :
    ∃ g d, let r := settleDelegateRewards g d
      s.gateways k = some g ∧ s.delegations (k, u) = some d ∧
      s' = { s with
        gateways := Function.update s.gateways k (some r.gateway)
        delegations := Function.update s.delegations (k, u) (some r.delegation)
        settings := { s.settings with
          totalDelegated := s.settings.totalDelegated + r.settled } } := by
  simp only [compoundDelegationRewards, bind_eq_ok, loadGateway_eq_ok, loadDelegation_eq_ok,
    require_eq_ok, addNonzero_eq_ok, pure_eq_ok, exists_const] at h
  obtain ⟨g, ⟨hg, -⟩, d, hd, -, _, ⟨-, rfl⟩, rfl⟩ := h
  exact ⟨g, d, hg, hd, rfl⟩

lemma redelegateStake_ok {u src tgt : Pubkey} {acc : TokenAccount}
    (h : redelegateStake env clock u src tgt acc p q remaining amount s = .ok s') :
    ∃ g d g' d' fee t record, let r := settleDelegateRewards g d
      let r' := settleDelegateRewards g' d'
      src ≠ tgt ∧ s.gateways src = some g ∧ s.delegations (src, u) = some d ∧
      s.gateways tgt = some g' ∧ (s.delegations (tgt, u)).getD Delegation.zeroed = d' ∧
      g'.status = .joined ∧ amount ≤ r.delegation.amount ∧ fee ≤ amount ∧
      s.tokens.Moved t s.settings.stakeTokenAccount s.settings.protocolTokenAccount
        env.settingsPda fee ∧
      s' = { s with
        gateways := Function.update (Function.update s.gateways src (some { r.gateway with
            totalDelegatedStake := r.gateway.totalDelegatedStake - amount }))
          tgt (some { r'.gateway with
            totalDelegatedStake := r'.gateway.totalDelegatedStake + (amount - fee) })
        delegations := Function.update (Function.update s.delegations (src, u)
            (some { r.delegation with amount := r.delegation.amount - amount }))
          (tgt, u) (some {
            gateway := tgt
            delegator := u
            amount := r'.delegation.amount + (amount - fee)
            startTimestamp := if d'.startTimestamp = 0 then clock else d'.startTimestamp
            rewardDebt := g'.cumulativeRewardPerToken })
        redelegations := Function.update s.redelegations u (some record)
        tokens := t
        settings := { s.settings with
          totalDelegated :=
            if 0 < saturatingAdd 64 r.settled r'.settled ∨ 0 < fee then
              saturatingSub (saturatingAdd 64 s.settings.totalDelegated
                (saturatingAdd 64 r.settled r'.settled)) fee
            else s.settings.totalDelegated } } := by
  simp only [redelegateStake, bind_eq_ok, loadGateway_eq_ok, loadDelegation_eq_ok,
    checkStakeTokenAccount_eq_ok, checkProtocolTokenAccount_eq_ok, require_eq_ok, add64_eq_ok,
    addTime_eq_ok, okOr_eq_ok, splTransferNonzero_eq_ok, pure_eq_ok, exists_const] at h
  obtain ⟨g, ⟨hg, rfl⟩, g', ⟨hg', rfl⟩, d, hd, -, -, -, ⟨rfl, -⟩, ⟨rfl, -⟩, hpos, hne, hst, -, -, -,
    hle, -, feeRate, -, scaled, -, hnet, -, _, ⟨-, rfl⟩, _, ⟨-, rfl⟩, _, ⟨t, ht, rfl⟩, count, -, _,
    ⟨-, rfl⟩, rfl⟩ := h
  have hfee : truncate 64 (scaled / rateScale) ≤ amount := by
    unfold saturatingSub at hnet
    omega
  exact ⟨g, d, g', loadOrInitDelegation s g'.operator u, _, t,
    ⟨u, count, clock, clock + RedelegationRecord.feeResetInterval⟩, hne, hg, hd, hg', rfl, hst, hle,
    hfee, ht, by simp only [settle_fields, ite_self]; rfl⟩

/-! ### Withdrawals -/

lemma claimWithdrawal_ok {u : Pubkey} (h : claimWithdrawal env clock u id p a s = .ok s') :
    ∃ w t, s.withdrawals (u, id) = some w ∧ w.availableAt ≤ clock ∧
      s.tokens.terms a = some (s.settings.mint, u) ∧
      s.tokens.transfer s.settings.stakeTokenAccount a env.settingsPda w.amount = .ok t ∧
      s' = { s with
        withdrawals := Function.update s.withdrawals (u, id) none
        tokens := t
        settings := { s.settings with
          totalWithdrawn := saturatingSub s.settings.totalWithdrawn w.amount } } := by
  simp only [claimWithdrawal, bind_eq_ok, loadWithdrawal_eq_ok, checkStakeTokenAccount_eq_ok,
    checkUserTokenAccount_eq_ok, require_eq_ok, splTransfer_eq_ok, pure_eq_ok, exists_const] at h
  obtain ⟨w, ⟨hw, -, -⟩, ⟨rfl, -⟩, ha, hready, _, ⟨t, ht, rfl⟩, rfl⟩ := h
  exact ⟨w, t, hw, hready, ha, ht, rfl⟩

lemma penaltyRate_bounds {x : GatewaySettings} {createdAt : ℤ} {rate : ℕ}
    (hx : x.minExpeditedWithdrawalPenalty ≤ x.maxExpeditedWithdrawalPenalty)
    (h : penaltyRate x createdAt clock = .ok rate) :
    x.minExpeditedWithdrawalPenalty ≤ rate ∧ rate ≤ x.maxExpeditedWithdrawalPenalty := by
  simp only [penaltyRate] at h
  split at h
  · obtain rfl := pure_eq_ok.mp h
    exact ⟨le_rfl, hx⟩
  · simp only [bind_eq_ok, pure_eq_ok] at h
    obtain ⟨scaled, -, decay, -, rfl⟩ := h
    exact ⟨le_min (le_max_right _ _) hx, min_le_right _ _⟩

/-- The fee of an instant withdrawal. -/
def instantFee (amount rate : ℕ) : ℕ := truncate 64 (amount * rate / rateScale)

lemma instantFee_le {rate : ℕ} (h : rate ≤ rateScale) : instantFee amount rate ≤ amount := by
  have hle : amount * rate / rateScale ≤ amount :=
    Nat.div_le_of_le_mul (by rw [Nat.mul_comm]; exact Nat.mul_le_mul_right _ h)
  exact truncate_le.trans hle

lemma instantWithdrawal_ok {u : Pubkey} (h : instantWithdrawal env clock u id p a q s = .ok s') :
    ∃ w rate t t', s.withdrawals (u, id) = some w ∧ w.isProtected = false ∧
      s.settings.minExpeditedWithdrawalAmount ≤ w.amount ∧
      penaltyRate s.settings w.createdAt clock = .ok rate ∧
      s.tokens.terms a = some (s.settings.mint, u) ∧
      s.tokens.transfer s.settings.stakeTokenAccount a env.settingsPda
        (w.amount - instantFee w.amount rate) = .ok t ∧
      t.transfer s.settings.stakeTokenAccount s.settings.protocolTokenAccount env.settingsPda
        (instantFee w.amount rate) = .ok t' ∧
      s' = { s with
        withdrawals := Function.update s.withdrawals (u, id) none
        tokens := t'
        settings := { s.settings with
          totalWithdrawn := saturatingSub s.settings.totalWithdrawn w.amount } } := by
  simp only [instantWithdrawal, bind_eq_ok, loadWithdrawal_eq_ok, checkStakeTokenAccount_eq_ok,
    checkUserTokenAccount_eq_ok, checkProtocolTokenAccount_eq_ok, require_eq_ok, okOr_eq_ok,
    checkedMul_eq_some, splTransfer_eq_ok, pure_eq_ok, exists_const] at h
  obtain ⟨w, ⟨hw, -, -⟩, ⟨rfl, -⟩, ha, ⟨rfl, -⟩, hprot, hmin, rate, hrate, _, ⟨-, rfl⟩, _,
    ⟨t, ht, rfl⟩, _, ⟨t', ht', rfl⟩, rfl⟩ := h
  exact ⟨w, rate, t, t', hw, by simpa using hprot, hmin, hrate, ha, ht, ht', rfl⟩

lemma closeDrainedWithdrawal_ok {u : Pubkey} (h : closeDrainedWithdrawal u id s = .ok s') :
    ∃ w, s.withdrawals (u, id) = some w ∧ w.amount = 0 ∧
      s' = { s with withdrawals := Function.update s.withdrawals (u, id) none } := by
  simp only [closeDrainedWithdrawal, bind_eq_ok, loadWithdrawal_eq_ok, require_eq_ok, pure_eq_ok,
    exists_const] at h
  obtain ⟨w, ⟨hw, -, -⟩, h0, rfl⟩ := h
  exact ⟨w, hw, h0, rfl⟩

/-- A cancelled withdrawal returns to the delegation or to the operator stake. -/
lemma cancelWithdrawal_ok {u : Pubkey} {withDelegation : Bool}
    (h : cancelWithdrawal u k id withDelegation s = .ok s') :
    ∃ w g, s.withdrawals (u, id) = some w ∧ s.gateways k = some g ∧ w.gateway = k ∧
      g.status = .joined ∧
      ((w.isDelegate = true ∧ ∃ d, let r := settleDelegateRewards g d
        s.delegations (k, u) = some d ∧
        s' = { s with
          gateways := Function.update s.gateways k (some { r.gateway with
            totalDelegatedStake := r.gateway.totalDelegatedStake + w.amount })
          delegations := Function.update s.delegations (k, u) (some { r.delegation with
            amount := r.delegation.amount + w.amount })
          withdrawals := Function.update s.withdrawals (u, id) none
          settings := { s.settings with
            totalDelegated := s.settings.totalDelegated + w.amount + r.settled
            totalWithdrawn := saturatingSub s.settings.totalWithdrawn w.amount } }) ∨
      (w.isDelegate = false ∧
        s' = { s with
          gateways := Function.update s.gateways k (some { g with
            operatorStake := g.operatorStake + w.amount })
          withdrawals := Function.update s.withdrawals (u, id) none
          settings := { s.settings with
            totalStaked := s.settings.totalStaked + w.amount
            totalWithdrawn := saturatingSub s.settings.totalWithdrawn w.amount } })) := by
  simp only [cancelWithdrawal, bind_eq_ok, loadGateway_eq_ok, loadWithdrawal_eq_ok, require_eq_ok,
    exists_const] at h
  obtain ⟨g, ⟨hg, rfl⟩, w, ⟨hw, -, -⟩, hgw, delegation, hdel, hst, h⟩ := h
  refine ⟨w, g, hw, hg, hgw, hst, ?_⟩
  split at h
  · rename_i hisd
    simp only [bind_eq_ok, okOr_eq_ok, require_eq_ok, add64_eq_ok, pure_eq_ok, exists_const] at h
    obtain ⟨d, rfl, -, _, ⟨-, rfl⟩, _, ⟨-, rfl⟩, _, ⟨-, rfl⟩, _, ⟨-, rfl⟩, rfl⟩ := h
    refine .inl ⟨hisd, d, ?_, rfl⟩
    unfold loadOptionalDelegation at hdel
    split at hdel
    · simp only [bind_eq_ok, loadDelegation_eq_ok, pure_eq_ok] at hdel
      obtain ⟨_, hd, hsome⟩ := hdel
      cases hsome
      exact hd
    · simp at hdel
  · rename_i hisd
    simp only [bind_eq_ok, add64_eq_ok, pure_eq_ok] at h
    obtain ⟨_, ⟨-, rfl⟩, _, ⟨-, rfl⟩, rfl⟩ := h
    exact .inr ⟨by simpa using hisd, rfl⟩

lemma cancelWithdrawal_fits {u : Pubkey} {withDelegation : Bool}
    (h : cancelWithdrawal u k id withDelegation s = .ok s') :
    ∀ w ∈ s.withdrawals (u, id), ∀ g ∈ s.gateways k, w.isDelegate = false →
      g.operatorStake + w.amount < 2 ^ 64 := by
  simp only [cancelWithdrawal, bind_eq_ok, loadGateway_eq_ok, loadWithdrawal_eq_ok, require_eq_ok,
    exists_const] at h
  obtain ⟨g, ⟨hg, rfl⟩, w, ⟨hw, -, -⟩, -, _, -, -, h⟩ := h
  rintro w' hw' g' hg' hisd
  obtain rfl := Option.some.inj (hw.symm.trans hw')
  obtain rfl := Option.some.inj (hg.symm.trans hg')
  rw [if_neg (by simp [hisd])] at h
  simp only [bind_eq_ok, add64_eq_ok] at h
  obtain ⟨_, ⟨hfits, -⟩, -⟩ := h
  exact hfits

/-! ### Payments from one source -/

@[simp] lemma checkPaymentAccounts_eq_ok {x : Unit} : checkPaymentAccounts s p q = .ok x ↔
    p = s.settings.stakeTokenAccount ∧ q = s.settings.protocolTokenAccount ∧
      (s.tokens.accounts p).isSome ∧ (s.tokens.accounts q).isSome := by
  simp only [checkPaymentAccounts, bind_eq_ok, okOr_eq_ok, require_eq_ok, exists_const,
    Option.isSome_iff_exists]
  constructor
  · rintro ⟨x, hx, h1, y, hy, h2⟩; exact ⟨h1, h2, ⟨x, hx⟩, y, hy⟩
  · rintro ⟨h1, h2, ⟨x, hx⟩, y, hy⟩; exact ⟨x, hx, h1, y, hy, h2⟩

lemma deductDelegationForPayment_ok {u : Pubkey}
    (h : deductDelegationForPayment env u k p q amount s = .ok s') :
    ∃ g d t, let r := settleDelegateRewards g d
      s.gateways k = some g ∧ s.delegations (k, u) = some d ∧
      g.status = .joined ∧ amount ≤ r.delegation.amount ∧
      s.tokens.transfer s.settings.stakeTokenAccount s.settings.protocolTokenAccount
        env.settingsPda amount = .ok t ∧
      s' = { s with
        gateways := Function.update s.gateways k (some { r.gateway with
          totalDelegatedStake := r.gateway.totalDelegatedStake - amount })
        delegations := Function.update s.delegations (k, u) (some { r.delegation with
          amount := r.delegation.amount - amount })
        tokens := t
        settings := { s.settings with
          totalDelegated :=
            saturatingSub (saturatingAdd 64 s.settings.totalDelegated r.settled) amount } } := by
  simp only [deductDelegationForPayment, bind_eq_ok, loadGateway_eq_ok, loadDelegation_eq_ok,
    checkPaymentAccounts_eq_ok, require_eq_ok, okOr_eq_ok, checkedSub_eq_some, splTransfer_eq_ok,
    pure_eq_ok, exists_const] at h
  obtain ⟨g, ⟨hg, -⟩, d, hd, -, ⟨rfl, rfl, -, -⟩, -, hst, hle, _, ⟨-, rfl⟩, -, _, ⟨-, rfl⟩, _,
    ⟨t, ht, rfl⟩, rfl⟩ := h
  exact ⟨g, d, t, hg, hd, hst, hle, ht, rfl⟩

lemma deductOperatorStakeForPayment_ok
    (h : deductOperatorStakeForPayment env k p q amount s = .ok s') :
    ∃ g t, s.gateways k = some g ∧ g.status = .joined ∧ amount ≤ g.operatorStake ∧
      s.settings.minOperatorStake ≤ g.operatorStake - amount ∧
      s.tokens.transfer s.settings.stakeTokenAccount s.settings.protocolTokenAccount
        env.settingsPda amount = .ok t ∧
      s' = { s with
        gateways := Function.update s.gateways k
          (some { g with operatorStake := g.operatorStake - amount })
        tokens := t
        settings := { s.settings with
          totalStaked := saturatingSub s.settings.totalStaked amount } } := by
  simp only [deductOperatorStakeForPayment, bind_eq_ok, loadOwnGateway_eq_ok,
    checkPaymentAccounts_eq_ok, require_eq_ok, okOr_eq_ok, checkedSub_eq_some, splTransfer_eq_ok,
    pure_eq_ok, exists_const] at h
  obtain ⟨g, ⟨hg, -⟩, ⟨rfl, rfl, -, -⟩, -, hst, hle, _, ⟨-, rfl⟩, hmin, _, ⟨t, ht, rfl⟩,
    rfl⟩ := h
  exact ⟨g, t, hg, hst, hle, hmin, ht, rfl⟩

lemma deductWithdrawalForPayment_ok {u : Pubkey}
    (h : deductWithdrawalForPayment env u id p q amount s = .ok s') :
    ∃ w t, s.withdrawals (u, id) = some w ∧ w.isProtected = false ∧ amount ≤ w.amount ∧
      s.tokens.transfer s.settings.stakeTokenAccount s.settings.protocolTokenAccount
        env.settingsPda amount = .ok t ∧
      s' = { s with
        withdrawals := Function.update s.withdrawals (u, id)
          (some { w with amount := w.amount - amount })
        tokens := t
        settings := { s.settings with
          totalWithdrawn := saturatingSub s.settings.totalWithdrawn amount } } := by
  simp only [deductWithdrawalForPayment, bind_eq_ok, loadWithdrawal_eq_ok,
    checkPaymentAccounts_eq_ok, require_eq_ok, okOr_eq_ok, checkedSub_eq_some, splTransfer_eq_ok,
    pure_eq_ok, exists_const] at h
  obtain ⟨w, ⟨hw, -, -⟩, ⟨rfl, rfl, -, -⟩, -, hprot, hle, _, ⟨-, rfl⟩, _, ⟨t, ht, rfl⟩, rfl⟩ := h
  exact ⟨w, t, hw, by simpa using hprot, hle, ht, rfl⟩

/-! ### Counters and allowlists -/

lemma adminReconcileDelegatedStake_ok {authority : Pubkey} {expectedCounter removed : ℕ}
    (h : adminReconcileDelegatedStake authority k remaining expectedCounter removed s = .ok s') :
    ∃ g sum, s.gateways k = some g ∧ sum + removed = g.totalDelegatedStake ∧
      removed ≤ s.settings.totalDelegated ∧
      s' = { s with
        gateways := Function.update s.gateways k (some { g with totalDelegatedStake := sum })
        settings := { s.settings with
          totalDelegated := s.settings.totalDelegated - removed } } := by
  simp only [adminReconcileDelegatedStake, bind_eq_ok, loadGateway_eq_ok, require_eq_ok, okOr_eq_ok,
    checkedSub_eq_some, pure_eq_ok, exists_const] at h
  obtain ⟨-, g, ⟨hg, -⟩, hcount, sum, -, -, _, ⟨hle, rfl⟩, hrem, _, ⟨hle', rfl⟩, rfl⟩ := h
  exact ⟨g, sum, hg, by omega, hle', rfl⟩

lemma adminResyncSupplyCounters_ok {authority : Pubkey} {es ns ed nd : ℕ}
    (h : adminResyncSupplyCounters authority es ns ed nd s = .ok s') :
    s' = { s with settings := { s.settings with totalStaked := ns, totalDelegated := nd } } := by
  simp only [adminResyncSupplyCounters, bind_eq_ok, require_eq_ok, pure_eq_ok, exists_const] at h
  exact h.2.2.symm

lemma allowDelegate_ok {u : Pubkey} (h : allowDelegate clock k u s = .ok s') :
    ∃ e, s' = { s with allowlist := Function.update s.allowlist (k, u) (some e) } := by
  simp only [allowDelegate, bind_eq_ok, pure_eq_ok] at h
  obtain ⟨g, -, -, -, rfl⟩ := h
  exact ⟨_, rfl⟩

lemma disallowDelegate_ok {u : Pubkey} (h : disallowDelegate k u s = .ok s') :
    s' = { s with allowlist := Function.update s.allowlist (k, u) none } := by
  simp only [disallowDelegate, bind_eq_ok, pure_eq_ok] at h
  obtain ⟨-, -, -, -, rfl⟩ := h
  rfl

lemma setAllowlistEnabled_ok {enabled : Bool} (h : setAllowlistEnabled k enabled s = .ok s') :
    ∃ g, s.gateways k = some g ∧ s' = { s with
      gateways := Function.update s.gateways k (some { g with
        settings := { g.settings with allowlistEnabled := enabled } }) } := by
  simp only [setAllowlistEnabled, bind_eq_ok, loadOwnGateway_eq_ok, pure_eq_ok] at h
  obtain ⟨g, ⟨hg, -⟩, rfl⟩ := h
  exact ⟨g, hg, rfl⟩

end Gar
end ArioSolana
