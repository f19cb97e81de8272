import ArioSolana.GarBatches

/-!
# What one step does to the ledger

The instructions that are left touch no stake: the administration of the settings and of the
epochs, and the descriptions of the gateways. With them every instruction is one of three. It
posts moves about one person (`Effect`), it is a distribution (`Gain`), or it is one of the two
instructions by which the authority corrects counters.
-/

namespace ArioSolana
namespace Gar

open Checked Solana Book Finset
open Borsh (leBytes)

attribute [local irreducible] book settleDelegateRewards Book.pending

variable {env : Env} {s s' : State} {clock : ℤ} {k u : Pubkey} {remaining : List AccountMeta}

/-! ### Instructions about epochs -/

/-- Nothing but the accounts of the epochs changed. -/
def EpochOnly (s s' : State) : Prop :=
  ∃ settings epochs receipts observations, s' = { s with
    epochSettings := settings
    epochs := epochs
    epochRentReceipts := receipts
    observations := observations }

/-- The instructions that write to the accounts of the epochs only. -/
def Instruction.IsEpochOnly : Instruction → Prop
  | .initializeEpochs .. | .setEpochsEnabled .. | .adminSetEpochDuration .. => True
  | .adminSetTenureWeight .. | .adminSetRewardRatios .. | .adminSetCurrentEpochIndex .. => True
  | .closeEpochSettings .. | .transferEpochSettingsAuthority .. | .createEpoch .. => True
  | .prescribeEpoch .. | .saveObservations .. | .closeObservation .. | .closeEpoch .. => True
  | .adminCloseStaleEpoch .. | .adminCloseOrphanedEpochRentReceipt .. => True
  | _ => False

lemma setEpochsEnabled_epochOnly {enabled : Bool}
    (h : setEpochsEnabled clock k enabled s = .ok s') : EpochOnly s s' := by
  simp only [setEpochsEnabled, bind_eq_ok] at h
  obtain ⟨settings, -, h⟩ := h
  split at h
  · obtain rfl := pure_eq_ok.mp h
    exact ⟨_, _, _, _, rfl⟩
  · simp only [bind_eq_ok, pure_eq_ok] at h
    obtain ⟨_, -, rfl⟩ := h
    exact ⟨_, _, _, _, rfl⟩

lemma createEpoch_ok {clock : Clock} {payer p : Pubkey}
    (h : createEpoch env clock payer p remaining s = .ok s') :
    ∃ settings start finish flag R u, s.epochSettings = some settings ∧
      s.epochs settings.currentEpochIndex = none ∧ p = s.settings.protocolTokenAccount ∧
      settings.enabled ∧ start ≤ clock.unixTimestamp ∧ finish = start + settings.epochDuration ∧
      requireLatestEpochFinished settings.currentEpochIndex remaining s = .ok u ∧
      s' = { s with
        epochs := Function.update s.epochs settings.currentEpochIndex (some { Epoch.zeroed with
          epochIndex := settings.currentEpochIndex
          startTimestamp := start
          endTimestamp := finish
          totalEligibleRewards := truncate 64 ((checkedDiv ((checkedMul 128 (s.tokens.balance p)
            (computeRewardRate settings.currentEpochIndex settings.maxRewardRate
              settings.minRewardRate settings.rewardDecayStartEpoch
              settings.rewardDecayLastEpoch)).getD 0) rateScale).getD 0)
          rewardRate := computeRewardRate settings.currentEpochIndex settings.maxRewardRate
            settings.minRewardRate settings.rewardDecayStartEpoch settings.rewardDecayLastEpoch
          activeGatewayCount := s.registry.count
          hashchain := env.hash (leBytes 8 clock.slot ++ leBytes 8 settings.currentEpochIndex
            ++ leBytes 8 (clock.unixTimestamp % 2 ^ 64).toNat)
          hasRentReceipt := flag })
        epochRentReceipts := R
        epochSettings := some { settings with
          currentEpochIndex := settings.currentEpochIndex + 1 } } := by
  simp only [createEpoch, bind_eq_ok, loadEpochSettings, okOr_eq_ok, requireAbsent_eq_ok,
    checkProtocolTokenAccount_eq_ok, require_eq_ok, addTime_eq_ok, exists_const] at h
  obtain ⟨settings, hset, hnone, ⟨rfl, -⟩, hen, -, span, -, start, ⟨-, hstart⟩, hle, u, hfin,
    finish, ⟨-, hend⟩, h⟩ := h
  split at h
  · simp only [bind_eq_ok, add64_eq_ok, pure_eq_ok] at h
    obtain ⟨s₁, rfl, _, ⟨-, rfl⟩, rfl⟩ := h
    exact ⟨settings, start, finish, _, _, u, hset, hnone, rfl, hen, hle, hend, hfin, rfl⟩
  · simp only [bind_eq_ok, add64_eq_ok, require_eq_ok, pure_eq_ok, exists_const] at h
    obtain ⟨-, -, s₁, rfl, _, ⟨-, rfl⟩, rfl⟩ := h
    exact ⟨settings, start, finish, _, _, u, hset, hnone, rfl, hen, hle, hend, hfin, rfl⟩

lemma closeEpoch_epochOnly {index : ℕ} (h : closeEpoch index remaining s = .ok s') :
    EpochOnly s s' := by
  simp only [closeEpoch, bind_eq_ok] at h
  obtain ⟨_, -, _, -, _, -, _, -, _, -, h⟩ := h
  split at h
  · simp only [bind_eq_ok, pure_eq_ok] at h
    obtain ⟨_, -, _, -, _, -, _, -, _, -, _, -, rfl⟩ := h
    exact ⟨_, _, _, _, rfl⟩
  · obtain rfl := pure_eq_ok.mp h
    exact ⟨_, _, _, _, rfl⟩

lemma handler_epochOnly {clock : Clock} {i : Instruction} (hi : i.IsEpochOnly)
    (h : i.handler env clock s = .ok s') : EpochOnly s s' := by
  cases i <;> try exact hi.elim
  all_goals simp only [Instruction.handler] at h
  case initializeEpochs payer params =>
    simp only [initializeEpochs, bind_eq_ok, pure_eq_ok] at h
    obtain ⟨_, -, _, -, _, -, _, -, rfl⟩ := h
    exact ⟨_, _, _, _, rfl⟩
  case setEpochsEnabled authority enabled => exact setEpochsEnabled_epochOnly h
  case adminSetEpochDuration authority duration =>
    simp only [adminSetEpochDuration, bind_eq_ok, pure_eq_ok] at h
    obtain ⟨_, -, _, -, _, -, _, -, rfl⟩ := h
    exact ⟨_, _, _, _, rfl⟩
  case adminSetTenureWeight authority duration weight =>
    simp only [adminSetTenureWeight, bind_eq_ok, pure_eq_ok] at h
    obtain ⟨_, -, _, -, _, -, rfl⟩ := h
    exact ⟨_, _, _, _, rfl⟩
  case adminSetRewardRatios authority gatewayRatio observerRatio =>
    simp only [adminSetRewardRatios, bind_eq_ok, pure_eq_ok] at h
    obtain ⟨_, -, _, -, _, -, _, -, _, -, _, -, _, -, rfl⟩ := h
    exact ⟨_, _, _, _, rfl⟩
  case adminSetCurrentEpochIndex authority index =>
    simp only [adminSetCurrentEpochIndex, bind_eq_ok, pure_eq_ok] at h
    obtain ⟨_, -, _, -, _, -, _, -, _, -, _, -, _, -, rfl⟩ := h
    exact ⟨_, _, _, _, rfl⟩
  case closeEpochSettings authority =>
    simp only [closeEpochSettings, bind_eq_ok, pure_eq_ok] at h
    obtain ⟨_, -, rfl⟩ := h
    exact ⟨_, _, _, _, rfl⟩
  case transferEpochSettingsAuthority authority newAuthority =>
    simp only [transferEpochSettingsAuthority, bind_eq_ok, pure_eq_ok] at h
    obtain ⟨_, -, _, -, rfl⟩ := h
    exact ⟨_, _, _, _, rfl⟩
  case createEpoch payer account remaining =>
    obtain ⟨_, _, _, _, _, _, -, -, -, -, -, -, -, rfl⟩ := createEpoch_ok h
    exact ⟨_, _, _, _, rfl⟩
  case prescribeEpoch index remaining names =>
    simp only [prescribeEpoch, bind_eq_ok, pure_eq_ok] at h
    obtain ⟨_, -, _, -, _, -, _, -, _, -, _, -, _, -, _, -, _, -, rfl⟩ := h
    exact ⟨_, _, _, _, rfl⟩
  case saveObservations observer index results count txId =>
    simp only [saveObservations, bind_eq_ok, pure_eq_ok] at h
    obtain ⟨_, -, _, -, _, -, _, -, _, -, _, -, _, -, _, -, rfl⟩ := h
    exact ⟨_, _, _, _, rfl⟩
  case closeObservation index observer =>
    simp only [closeObservation, bind_eq_ok, pure_eq_ok] at h
    obtain ⟨_, -, _, -, _, -, _, -, _, -, rfl⟩ := h
    exact ⟨_, _, _, _, rfl⟩
  case closeEpoch index remaining => exact closeEpoch_epochOnly h
  case adminCloseStaleEpoch authority index =>
    simp only [adminCloseStaleEpoch, bind_eq_ok, pure_eq_ok] at h
    obtain ⟨_, -, _, -, _, -, _, -, rfl⟩ := h
    exact ⟨_, _, _, _, rfl⟩
  case adminCloseOrphanedEpochRentReceipt authority index =>
    simp only [adminCloseOrphanedEpochRentReceipt, bind_eq_ok, pure_eq_ok] at h
    obtain ⟨_, -, _, -, _, -, rfl⟩ := h
    exact ⟨_, _, _, _, rfl⟩

lemma EpochOnly.footprint (hF : Footing env s) (h : EpochOnly s s') : Footprint s s' := by
  obtain ⟨_, _, _, _, rfl⟩ := h
  exact ⟨hF.gateways, hF.withdrawals, .of_fixed rfl rfl⟩

lemma EpochOnly.effect (hL : Ledger env s) (h : EpochOnly s s') : Effect s s' u := by
  obtain ⟨_, _, _, _, rfl⟩ := h
  exact idle_effect hL rfl rfl rfl ⟨rfl, rfl, rfl⟩ rfl (fun k g hg => (hL.gateways k g hg).share)
    fun _ => rfl

lemma EpochOnly.sameSeats (h : EpochOnly s s') : SameSeats s s' := by
  obtain ⟨_, _, _, _, rfl⟩ := h
  exact .of_registry rfl rfl

/-! ### Descriptions of gateways -/

section

variable {g g' : Gateway} {L : Pubkey → Option ObserverLookup}

/-- A gateway is described anew: its stake, its status and its accumulator stay. -/
lemma described_footprint (hF : Footing env s) (hg : s.gateways k = some g) (hs' : s' = { s with
      gateways := Function.update s.gateways k (some g')
      observerLookups := L })
    (h1 : g'.operatorStake = g.operatorStake)
    (h3 : g'.cumulativeRewardPerToken = g.cumulativeRewardPerToken) (h4 : g'.status = g.status)
    (h5 : g.settings.ShareOk → g'.settings.ShareOk) : Footprint s s' := by
  have hok := hF.gateways _ _ hg
  rw [hs']
  refine ⟨sound_update hF.gateways ⟨⟨fun hj => ?_, fun hne => ?_, ?_, h5 hok.share⟩, ?_⟩,
    hF.withdrawals, .of_fixed rfl rfl⟩
  · rw [h1]; exact hok.floor (h4 ▸ hj)
  · rw [h1]; exact hok.departed (h4 ▸ hne)
  · rw [h3]; exact hok.word
  · rw [h1]; exact hok.stakeWord

lemma described_effect (hL : Ledger env s) (hg : s.gateways k = some g) (hs' : s' = { s with
      gateways := Function.update s.gateways k (some g')
      observerLookups := L })
    (h1 : g'.operatorStake = g.operatorStake) (h2 : g'.totalDelegatedStake = g.totalDelegatedStake)
    (h3 : g'.cumulativeRewardPerToken = g.cumulativeRewardPerToken) (h4 : g'.status = g.status)
    (h5 : g.settings.ShareOk → g'.settings.ShareOk) : Effect s s' u := by
  subst hs'
  refine idle_effect hL rfl rfl rfl ⟨rfl, rfl, rfl⟩ rfl ?_ ?_
  · intro i x hx
    by_cases hi : i = k
    · subst hi
      obtain rfl : g' = x := by simpa using hx
      exact h5 (hL.gateways _ _ hg).share
    · exact (hL.gateways i x (by simpa [hi] using hx)).share
  · intro i
    by_cases hi : i = k
    · subst hi; simp [hg, h1, h2, h3, h4]
    · simp [hi]

end

lemma describe_ok {g g' : Gateway} {params : UpdateGatewayMetadataParams}
    (h : g.describe params = .ok g') : ∃ label fqdn port protocol properties note,
      g' = { g with
        label := label
        fqdn := fqdn
        port := port
        protocol := protocol
        properties := properties
        note := note } := by
  simp only [Gateway.describe, bind_eq_ok, pure_eq_ok] at h
  obtain ⟨_, -, _, -, _, -, _, -, rfl⟩ := h
  exact ⟨_, _, _, _, _, _, rfl⟩

lemma switchDelegation_ok {g g' : Gateway} {period : ℤ} {allow : Bool}
    (h : g.switchDelegation clock period allow = .ok g') : ∃ allowed disabledAt,
      g' = { g with settings := { g.settings with
        allowDelegatedStaking := allowed
        delegationDisabledAt := disabledAt } } := by
  unfold Gateway.switchDelegation at h
  simp only at h
  split at h
  · obtain rfl := pure_eq_ok.mp h
    exact ⟨_, _, rfl⟩
  · split at h
    · simp only [bind_eq_ok] at h
      obtain ⟨_, -, h⟩ := h
      split at h
      · obtain rfl := pure_eq_ok.mp h
        exact ⟨_, _, rfl⟩
      · simp only [bind_eq_ok, pure_eq_ok] at h
        obtain ⟨_, -, _, -, rfl⟩ := h
        exact ⟨_, _, rfl⟩
    · obtain rfl := pure_eq_ok.mp h
      exact ⟨_, _, rfl⟩

lemma updateGatewaySettings_ok {params : UpdateGatewayParams}
    (h : updateGatewaySettings clock k params s = .ok s') :
    ∃ g g', s.gateways k = some g ∧ g.operator = k ∧ g.status = .joined ∧ s' = { s with
      gateways := Function.update s.gateways k (some g') } ∧ g'.shell = g.shell ∧
      g'.operatorStake = g.operatorStake ∧ g'.totalDelegatedStake = g.totalDelegatedStake ∧
      g'.cumulativeRewardPerToken = g.cumulativeRewardPerToken ∧
      g'.settings.delegateRewardShareRatio = g.settings.delegateRewardShareRatio ∧
      (g.settings.ShareOk → g'.settings.ShareOk) := by
  simp only [updateGatewaySettings, bind_eq_ok, loadOwnGateway_eq_ok, require_eq_ok, pure_eq_ok,
    exists_const] at h
  obtain ⟨g, ⟨hg, hop⟩, hst, g₁, h₁, g₂, h₂, _, hshare, _, -, rfl⟩ := h
  obtain ⟨_, _, _, _, _, _, rfl⟩ := describe_ok h₁
  have hkeep : ∃ allowed disabledAt, g₂ = { g with
      label := g₂.label
      fqdn := g₂.fqdn
      port := g₂.port
      protocol := g₂.protocol
      properties := g₂.properties
      note := g₂.note
      settings := { g.settings with
        allowDelegatedStaking := allowed
        delegationDisabledAt := disabledAt } } := by
    cases hp : params.allowDelegatedStaking with
    | none =>
      simp only [hp, Option.elim_none, pure_eq_ok] at h₂
      subst h₂
      exact ⟨_, _, rfl⟩
    | some allow =>
      simp only [hp, Option.elim_some] at h₂
      obtain ⟨_, _, rfl⟩ := switchDelegation_ok h₂
      exact ⟨_, _, rfl⟩
  obtain ⟨allowed, disabledAt, hkeep⟩ := hkeep
  have hset : g₂.settings.delegateRewardShareRatio = g.settings.delegateRewardShareRatio ∧
      g₂.settings.pendingDelegateRewardShareRatio
        = g.settings.pendingDelegateRewardShareRatio := by
    rw [hkeep]
    exact ⟨rfl, rfl⟩
  refine ⟨g, _, hg, hop, hst, rfl, ?_, ?_, ?_, ?_, hset.1, fun hok => ⟨?_, ?_⟩⟩
  · rw [hkeep]; rfl
  · rw [hkeep]
  · rw [hkeep]
  · rw [hkeep]
  · rw [hset.1]; exact hok.ratio
  · intro r hr
    simp only [hset.2] at hr
    cases hp : params.delegateRewardShareRatio with
    | none =>
      simp only [hp, Option.map_none, Option.none_or] at hr
      exact hok.staged r hr
    | some r' =>
      simp only [hp, Option.map_some, Option.some_or, Option.some.injEq] at hr
      simp only [hp, checkGiven, Option.elim_some, checkRewardShare, require_eq_ok] at hshare
      rw [← hr]
      exact hshare

lemma updateGatewayMetadata_ok {signer : Pubkey} {params : UpdateGatewayMetadataParams}
    (h : updateGatewayMetadata signer k params s = .ok s') :
    ∃ g g', s.gateways k = some g ∧ g.operator = k ∧ g.status = .joined ∧ s' = { s with
      gateways := Function.update s.gateways k (some g') } ∧ g'.shell = g.shell ∧
      g'.operatorStake = g.operatorStake ∧ g'.totalDelegatedStake = g.totalDelegatedStake ∧
      g'.cumulativeRewardPerToken = g.cumulativeRewardPerToken ∧ g'.settings = g.settings := by
  simp only [updateGatewayMetadata, bind_eq_ok, loadOwnGateway_eq_ok, require_eq_ok, pure_eq_ok,
    exists_const] at h
  obtain ⟨g, ⟨hg, hop⟩, hst, -, g₁, h₁, rfl⟩ := h
  obtain ⟨_, _, _, _, _, _, rfl⟩ := describe_ok h₁
  exact ⟨g, _, hg, hop, hst, rfl, rfl, rfl, rfl, rfl, rfl⟩

lemma updateOperationsAddress_ok {newOperations : Pubkey}
    (h : updateOperationsAddress k newOperations s = .ok s') :
    ∃ g, s.gateways k = some g ∧ g.operator = k ∧ g.status = .joined ∧ s' = { s with
      gateways := Function.update s.gateways k (some { g with
        operationsAddress := newOperations }) } := by
  simp only [updateOperationsAddress, bind_eq_ok, loadOwnGateway_eq_ok, require_eq_ok, pure_eq_ok,
    exists_const] at h
  obtain ⟨g, ⟨hg, hop⟩, hst, -, -, -, rfl⟩ := h
  exact ⟨g, hg, hop, hst, rfl⟩

lemma updateObserverAddress_ok {newObserver : Pubkey}
    (h : updateObserverAddress k newObserver s = .ok s') :
    ∃ g, s.gateways k = some g ∧ g.operator = k ∧ g.status = .joined ∧
      (∃ x, s.observerLookups g.observerAddress = some x) ∧
      s.observerLookups newObserver = none ∧ newObserver ≠ g.observerAddress ∧ s' = { s with
        gateways := Function.update s.gateways k (some { g with observerAddress := newObserver })
        observerLookups := Function.update
          (Function.update s.observerLookups newObserver (some ⟨k⟩)) g.observerAddress none } := by
  simp only [updateObserverAddress, bind_eq_ok, loadOwnGateway_eq_ok, okOr_eq_ok,
    requireAbsent_eq_ok, require_eq_ok, pure_eq_ok, exists_const] at h
  obtain ⟨g, ⟨hg, hop⟩, x, hx, hnone, hst, hne, rfl⟩ := h
  exact ⟨g, hg, hop, hst, ⟨x, hx⟩, hnone, hne, rfl⟩

/-! ### One instruction -/

/-- Whose stake an instruction is about. -/
def Instruction.about : Instruction → Pubkey
  | .joinNetwork operator .. => operator
  | .leaveNetwork operator .. => operator
  | .pruneGateway operator .. => operator
  | .finalizeGone operator .. => operator
  | .increaseOperatorStake operator .. => operator
  | .decreaseOperatorStake operator .. => operator
  | .delegateStake delegator .. => delegator
  | .decreaseDelegateStake delegator .. => delegator
  | .claimDelegateFromLeavingGateway delegator _ => delegator
  | .claimDelegateFromDisabledGateway delegator _ => delegator
  | .closeEmptyDelegation delegator _ => delegator
  | .redelegateStake delegator .. => delegator
  | .compoundDelegationRewards delegator _ => delegator
  | .claimWithdrawal owner .. => owner
  | .instantWithdrawal owner .. => owner
  | .cancelWithdrawal owner .. => owner
  | .closeDrainedWithdrawal owner _ => owner
  | .deductDelegationForPayment delegator .. => delegator
  | .deductOperatorStakeForPayment operator .. => operator
  | .deductWithdrawalForPayment owner .. => owner
  | .payFromFundingPlan payer .. => payer
  | _ => Pubkey.default

/-! ### Tokens -/

/-- The instructions that may move tokens. -/
def Instruction.MovesTokens : Instruction → Prop
  | .joinNetwork .. | .pruneGateway .. | .increaseOperatorStake .. | .delegateStake .. => True
  | .redelegateStake .. | .claimWithdrawal .. | .instantWithdrawal .. => True
  | .deductDelegationForPayment .. | .deductOperatorStakeForPayment .. => True
  | .deductWithdrawalForPayment .. | .payFromFundingPlan .. | .distributeEpoch .. => True
  | _ => False

/-- No other instruction moves any, or writes to the fixed settings. -/
theorem handler_idle {clock : Clock} {i : Instruction} (hm : ¬ i.MovesTokens)
    (h : i.handler env clock s = .ok s') :
    s'.tokens = s.tokens ∧ s'.settings.fixed = s.settings.fixed := by
  by_cases he : i.IsEpochOnly
  · obtain ⟨_, _, _, _, rfl⟩ := handler_epochOnly he h
    exact ⟨rfl, rfl⟩
  cases i <;> try exact absurd trivial he
  all_goals try exact absurd trivial hm
  all_goals simp only [Instruction.handler] at h
  case adminSetWithdrawalPeriod authority period =>
    simp only [adminSetWithdrawalPeriod, bind_eq_ok, pure_eq_ok] at h
    obtain ⟨_, -, _, -, rfl⟩ := h
    exact ⟨rfl, rfl⟩
  case transferAuthority authority newAuthority =>
    simp only [transferAuthority, bind_eq_ok, pure_eq_ok] at h
    obtain ⟨_, -, _, -, rfl⟩ := h
    exact ⟨rfl, rfl⟩
  case finalizeMigration authority =>
    simp only [finalizeMigration, bind_eq_ok, pure_eq_ok] at h
    obtain ⟨_, -, _, -, rfl⟩ := h
    exact ⟨rfl, rfl⟩
  case leaveNetwork operator excess remaining =>
    obtain ⟨g, settings, C, W, L, -, -, -, -, -, -, -, -, rfl⟩ := leaveNetwork_ok h
    exact ⟨rfl, rfl⟩
  case updateGatewaySettings operator params =>
    obtain ⟨g, g', -, -, -, rfl, -⟩ := updateGatewaySettings_ok h
    exact ⟨rfl, rfl⟩
  case updateGatewayMetadata signer operator params =>
    obtain ⟨g, g', -, -, -, rfl, -⟩ := updateGatewayMetadata_ok h
    exact ⟨rfl, rfl⟩
  case updateOperationsAddress operator newOperations =>
    obtain ⟨g, -, -, -, rfl⟩ := updateOperationsAddress_ok h
    exact ⟨rfl, rfl⟩
  case updateObserverAddress operator newObserver =>
    obtain ⟨g, -, -, -, -, -, -, rfl⟩ := updateObserverAddress_ok h
    exact ⟨rfl, rfl⟩
  case finalizeGone operator remaining =>
    obtain ⟨g, settings, s₁, -, -, -, -, -, -, -, -, -, hmove, rfl⟩ := finalizeGone_ok h
    rcases moveLastSlot_ok hmove with ⟨-, rfl⟩ | ⟨x, -, -, rfl⟩
    · exact ⟨rfl, rfl⟩
    · exact ⟨rfl, rfl⟩
  case decreaseOperatorStake operator amount =>
    obtain ⟨g, nextId, -, -, -, -, -, -, rfl⟩ := decreaseOperatorStake_ok h
    exact ⟨rfl, rfl⟩
  case decreaseDelegateStake delegator gateway amount =>
    obtain ⟨g, d, amount, -, -, -, -, h⟩ := decreaseDelegateStake_ok h
    obtain ⟨nextId, -, -, rfl⟩ := vaultDelegation_ok h
    exact ⟨rfl, rfl⟩
  case claimDelegateFromLeavingGateway delegator gateway =>
    obtain ⟨g, d, amount, -, -, -, -, h⟩ := claimDelegateFromLeavingGateway_ok h
    obtain ⟨nextId, -, -, rfl⟩ := vaultDelegation_ok h
    exact ⟨rfl, rfl⟩
  case claimDelegateFromDisabledGateway delegator gateway =>
    obtain ⟨g, d, amount, -, -, -, -, h⟩ := claimDelegateFromDisabledGateway_ok h
    obtain ⟨nextId, -, -, rfl⟩ := vaultDelegation_ok h
    exact ⟨rfl, rfl⟩
  case closeEmptyDelegation delegator gateway =>
    obtain ⟨g, d, -, -, -, rfl⟩ := closeEmptyDelegation_ok h
    exact ⟨rfl, rfl⟩
  case compoundDelegationRewards delegator gateway =>
    obtain ⟨g, d, -, -, rfl⟩ := compoundDelegationRewards_ok h
    exact ⟨rfl, rfl⟩
  case allowDelegate operator delegate =>
    obtain ⟨_, rfl⟩ := allowDelegate_ok h
    exact ⟨rfl, rfl⟩
  case disallowDelegate operator delegate =>
    rw [disallowDelegate_ok h]
    exact ⟨rfl, rfl⟩
  case setAllowlistEnabled operator enabled =>
    obtain ⟨g, -, rfl⟩ := setAllowlistEnabled_ok h
    exact ⟨rfl, rfl⟩
  case cancelWithdrawal owner gateway id withDelegation =>
    obtain ⟨w, g, -, -, -, -, ⟨-, d, -, rfl⟩ | ⟨-, rfl⟩⟩ := cancelWithdrawal_ok h
    · exact ⟨rfl, rfl⟩
    · exact ⟨rfl, rfl⟩
  case closeDrainedWithdrawal owner id =>
    obtain ⟨w, -, -, rfl⟩ := closeDrainedWithdrawal_ok h
    exact ⟨rfl, rfl⟩
  case adminReconcileDelegatedStake authority gateway remaining counter removed =>
    obtain ⟨g, sum, -, -, -, rfl⟩ := adminReconcileDelegatedStake_ok h
    exact ⟨rfl, rfl⟩
  case adminResyncSupplyCounters authority es ns ed nd =>
    rw [adminResyncSupplyCounters_ok h]
    exact ⟨rfl, rfl⟩
  case tallyWeights index remaining =>
    obtain ⟨settings, epoch, s₁, epoch', -, -, -, -, -, hbatch, rfl⟩ := tallyWeights_ok h
    obtain ⟨G, r, rfl⟩ := (tallyBatch_tallied hbatch).rest
    exact ⟨rfl, rfl⟩

/-- Instructions that are not about one person. -/
def Instruction.IsSpecial : Instruction → Prop
  | .distributeEpoch .. | .adminReconcileDelegatedStake .. | .adminResyncSupplyCounters .. => True
  | _ => False

/-- The instructions that may change which gateways there are, or their observers. -/
def Instruction.IsLifecycle : Instruction → Prop
  | .joinNetwork .. | .leaveNetwork .. | .pruneGateway .. | .finalizeGone .. => True
  | .updateObserverAddress .. => True
  | _ => False

/-- **What stays standing.** It does not depend on what the gateways count for their delegates. -/
theorem handler_footprint {clock : Clock} {i : Instruction} (hF : Footing env s)
    (hR : Registered s) (h : i.handler env clock s = .ok s') : Footprint s s' := by
  by_cases he : i.IsEpochOnly
  · exact (handler_epochOnly he h).footprint hF
  cases i <;> try exact absurd trivial he
  all_goals simp only [Instruction.handler] at h
  case adminSetWithdrawalPeriod authority period =>
    simp only [adminSetWithdrawalPeriod, bind_eq_ok, pure_eq_ok] at h
    obtain ⟨_, -, _, -, rfl⟩ := h
    exact ⟨hF.gateways, hF.withdrawals, .of_fixed rfl rfl⟩
  case transferAuthority authority newAuthority =>
    simp only [transferAuthority, bind_eq_ok, pure_eq_ok] at h
    obtain ⟨_, -, _, -, rfl⟩ := h
    exact ⟨hF.gateways, hF.withdrawals, .of_fixed rfl rfl⟩
  case finalizeMigration authority =>
    simp only [finalizeMigration, bind_eq_ok, pure_eq_ok] at h
    obtain ⟨_, -, _, -, rfl⟩ := h
    exact ⟨hF.gateways, hF.withdrawals, .of_fixed rfl rfl⟩
  case joinNetwork operator account pool params => exact joinNetwork_footprint hF h
  case leaveNetwork operator excess remaining => exact leaveNetwork_footprint hF h
  case updateGatewaySettings operator params =>
    obtain ⟨g, g', hg, -, -, hs', hshell, h1, -, h3, -, h5⟩ := updateGatewaySettings_ok h
    exact described_footprint hF hg hs' h1 h3 (congrArg Shell.status hshell) h5
  case updateGatewayMetadata signer operator params =>
    obtain ⟨g, g', hg, -, -, hs', hshell, h1, -, h3, h5⟩ := updateGatewayMetadata_ok h
    exact described_footprint hF hg hs' h1 h3 (congrArg Shell.status hshell) fun h => h5 ▸ h
  case updateOperationsAddress operator newOperations =>
    obtain ⟨g, hg, -, -, hs'⟩ := updateOperationsAddress_ok h
    exact described_footprint hF hg hs' rfl rfl rfl id
  case updateObserverAddress operator newObserver =>
    obtain ⟨g, hg, -, -, -, -, -, hs'⟩ := updateObserverAddress_ok h
    exact described_footprint hF hg hs' rfl rfl rfl id
  case pruneGateway operator pool treasury excess remaining => exact pruneGateway_footprint hF h
  case finalizeGone operator remaining => exact finalizeGone_footprint hF h
  case increaseOperatorStake operator account pool amount =>
    exact (increaseOperatorStake_footprint hF h).1
  case decreaseOperatorStake operator amount => exact (decreaseOperatorStake_footprint hF h).1
  case delegateStake delegator gateway account pool remaining amount =>
    exact (delegateStake_footprint hF h).1
  case decreaseDelegateStake delegator gateway amount =>
    exact ((decreaseDelegateStake_ok h).footprint hF).1
  case claimDelegateFromLeavingGateway delegator gateway =>
    exact ((claimDelegateFromLeavingGateway_ok h).footprint hF).1
  case claimDelegateFromDisabledGateway delegator gateway =>
    exact ((claimDelegateFromDisabledGateway_ok h).footprint hF).1
  case closeEmptyDelegation delegator gateway => exact (closeEmptyDelegation_footprint hF h).1
  case redelegateStake delegator source target account pool treasury remaining amount =>
    exact (redelegateStake_footprint hF h).1
  case compoundDelegationRewards delegator gateway =>
    exact (compoundDelegationRewards_footprint hF h).1
  case allowDelegate operator delegate =>
    obtain ⟨_, rfl⟩ := allowDelegate_ok h
    exact ⟨hF.gateways, hF.withdrawals, .of_fixed rfl rfl⟩
  case disallowDelegate operator delegate =>
    rw [disallowDelegate_ok h]
    exact ⟨hF.gateways, hF.withdrawals, .of_fixed rfl rfl⟩
  case setAllowlistEnabled operator enabled =>
    obtain ⟨g, hg, hs'⟩ := setAllowlistEnabled_ok h
    exact described_footprint hF hg hs' rfl rfl rfl fun h => ⟨h.ratio, h.staged⟩
  case claimWithdrawal owner id pool account => exact (claimWithdrawal_footprint hF h).1
  case instantWithdrawal owner id pool account treasury =>
    exact (instantWithdrawal_footprint hF h).1
  case cancelWithdrawal owner gateway id withDelegation => exact (cancelWithdrawal_footprint hF h).1
  case closeDrainedWithdrawal owner id => exact (closeDrainedWithdrawal_footprint hF h).1
  case deductDelegationForPayment delegator gateway pool treasury amount =>
    exact (deductDelegationForPayment_footprint hF h).1
  case deductOperatorStakeForPayment operator pool treasury amount =>
    exact (deductOperatorStakeForPayment_footprint hF h).1
  case deductWithdrawalForPayment owner id pool treasury amount =>
    exact (deductWithdrawalForPayment_footprint hF h).1
  case payFromFundingPlan payer pool treasury account remaining sources total count =>
    exact (payFromFundingPlan_footprint hF h).1
  case tallyWeights index remaining => exact (tallyWeights_footprint hF h).1
  case distributeEpoch index treasury pool remaining => exact (distributeEpoch_footprint hF hR h).1
  case adminReconcileDelegatedStake authority gateway remaining counter removed =>
    obtain ⟨g, sum, hg, -, -, rfl⟩ := adminReconcileDelegatedStake_ok h
    exact ⟨sound_update hF.gateways (hF.gateways _ _ hg).counts, hF.withdrawals, .of_fixed rfl rfl⟩
  case adminResyncSupplyCounters authority es ns ed nd =>
    rw [adminResyncSupplyCounters_ok h]
    exact ⟨hF.gateways, hF.withdrawals, .of_fixed rfl rfl⟩

/-- **One instruction.** It posts moves about one person only. -/
theorem handler_effect {clock : Clock} {i : Instruction} (hL : Ledger env s)
    (hsign : ∀ k ∈ i.signer, env.CanSign k) (hi : ¬ i.IsSpecial)
    (h : i.handler env clock s = .ok s') : Effect s s' i.about := by
  by_cases he : i.IsEpochOnly
  · exact (handler_epochOnly he h).effect hL
  have hshare : ∀ k g, s.gateways k = some g → g.settings.ShareOk :=
    fun k g hg => (hL.gateways k g hg).share
  cases i <;> try exact absurd trivial he
  all_goals try exact absurd trivial hi
  all_goals simp only [Instruction.handler] at h
  all_goals simp only [Instruction.signer, Option.mem_def, Option.some.injEq, forall_eq'] at hsign
  case adminSetWithdrawalPeriod authority period =>
    simp only [adminSetWithdrawalPeriod, bind_eq_ok, pure_eq_ok] at h
    obtain ⟨_, -, _, -, rfl⟩ := h
    exact idle_effect hL rfl rfl rfl ⟨rfl, rfl, rfl⟩ rfl hshare fun _ => rfl
  case transferAuthority authority newAuthority =>
    simp only [transferAuthority, bind_eq_ok, pure_eq_ok] at h
    obtain ⟨_, -, _, -, rfl⟩ := h
    exact idle_effect hL rfl rfl rfl ⟨rfl, rfl, rfl⟩ rfl hshare fun _ => rfl
  case finalizeMigration authority =>
    simp only [finalizeMigration, bind_eq_ok, pure_eq_ok] at h
    obtain ⟨_, -, _, -, rfl⟩ := h
    exact idle_effect hL rfl rfl rfl ⟨rfl, rfl, rfl⟩ rfl hshare fun _ => rfl
  case joinNetwork operator account pool params => exact joinNetwork_effect hL hsign h
  case leaveNetwork operator excess remaining => exact leaveNetwork_effect hL h
  case updateGatewaySettings operator params =>
    obtain ⟨g, g', hg, -, -, hs', hshell, h1, h2, h3, -, h5⟩ := updateGatewaySettings_ok h
    exact described_effect hL hg hs' h1 h2 h3 (congrArg Shell.status hshell) h5
  case updateGatewayMetadata signer operator params =>
    obtain ⟨g, g', hg, -, -, hs', hshell, h1, h2, h3, h5⟩ := updateGatewayMetadata_ok h
    exact described_effect hL hg hs' h1 h2 h3 (congrArg Shell.status hshell) fun h => h5 ▸ h
  case updateOperationsAddress operator newOperations =>
    obtain ⟨g, hg, -, -, hs'⟩ := updateOperationsAddress_ok h
    exact described_effect hL hg hs' rfl rfl rfl rfl id
  case updateObserverAddress operator newObserver =>
    obtain ⟨g, hg, -, -, -, -, -, hs'⟩ := updateObserverAddress_ok h
    exact described_effect hL hg hs' rfl rfl rfl rfl id
  case pruneGateway operator pool treasury excess remaining => exact pruneGateway_effect hL h
  case finalizeGone operator remaining => exact finalizeGone_effect hL h
  case increaseOperatorStake operator account pool amount =>
    exact increaseOperatorStake_effect hL hsign h
  case decreaseOperatorStake operator amount => exact decreaseOperatorStake_effect hL h
  case delegateStake delegator gateway account pool remaining amount =>
    exact delegateStake_effect hL hsign h
  case decreaseDelegateStake delegator gateway amount =>
    exact (decreaseDelegateStake_ok h).effect hL
  case claimDelegateFromLeavingGateway delegator gateway =>
    exact (claimDelegateFromLeavingGateway_ok h).effect hL
  case claimDelegateFromDisabledGateway delegator gateway =>
    exact (claimDelegateFromDisabledGateway_ok h).effect hL
  case closeEmptyDelegation delegator gateway => exact closeEmptyDelegation_effect hL h
  case redelegateStake delegator source target account pool treasury remaining amount =>
    exact redelegateStake_effect hL h
  case compoundDelegationRewards delegator gateway =>
    exact compoundDelegationRewards_effect hL h
  case allowDelegate operator delegate =>
    obtain ⟨_, rfl⟩ := allowDelegate_ok h
    exact idle_effect hL rfl rfl rfl ⟨rfl, rfl, rfl⟩ rfl hshare fun _ => rfl
  case disallowDelegate operator delegate =>
    rw [disallowDelegate_ok h]
    exact idle_effect hL rfl rfl rfl ⟨rfl, rfl, rfl⟩ rfl hshare fun _ => rfl
  case setAllowlistEnabled operator enabled =>
    obtain ⟨g, hg, hs'⟩ := setAllowlistEnabled_ok h
    exact described_effect hL hg hs' rfl rfl rfl rfl fun h => ⟨h.ratio, h.staged⟩
  case claimWithdrawal owner id pool account => exact claimWithdrawal_effect hL hsign h
  case instantWithdrawal owner id pool account treasury =>
    exact instantWithdrawal_effect hL hsign h
  case cancelWithdrawal owner gateway id withDelegation => exact cancelWithdrawal_effect hL h
  case closeDrainedWithdrawal owner id => exact closeDrainedWithdrawal_effect hL h
  case deductDelegationForPayment delegator gateway pool treasury amount =>
    exact deductDelegationForPayment_effect hL h
  case deductOperatorStakeForPayment operator pool treasury amount =>
    exact deductOperatorStakeForPayment_effect hL h
  case deductWithdrawalForPayment owner id pool treasury amount =>
    exact deductWithdrawalForPayment_effect hL h
  case payFromFundingPlan payer pool treasury account remaining sources total count =>
    exact payFromFundingPlan_effect hL hsign h
  case tallyWeights index remaining => exact tallyWeights_effect hL h

/-- The instructions that write to the registry's weights or to statistics. -/
def Instruction.IsBatch : Instruction → Prop
  | .tallyWeights .. | .distributeEpoch .. => True
  | _ => False

/-- Every other instruction leaves the registry, the epochs and the observers alone. -/
theorem handler_quiet {clock : Clock} {i : Instruction} (hF : Footing env s)
    (he : ¬ i.IsEpochOnly) (hb : ¬ i.IsBatch)
    (hl : ¬ i.IsLifecycle) (h : i.handler env clock s = .ok s') : Quiet s s' := by
  cases i <;> try exact absurd trivial he
  all_goals try exact absurd trivial hb
  all_goals try exact absurd trivial hl
  all_goals simp only [Instruction.handler] at h
  case adminSetWithdrawalPeriod authority period =>
    simp only [adminSetWithdrawalPeriod, bind_eq_ok, pure_eq_ok] at h
    obtain ⟨_, -, _, -, rfl⟩ := h
    exact ⟨rfl, rfl, rfl, rfl, rfl, rfl, rfl⟩
  case transferAuthority authority newAuthority =>
    simp only [transferAuthority, bind_eq_ok, pure_eq_ok] at h
    obtain ⟨_, -, _, -, rfl⟩ := h
    exact ⟨rfl, rfl, rfl, rfl, rfl, rfl, rfl⟩
  case finalizeMigration authority =>
    simp only [finalizeMigration, bind_eq_ok, pure_eq_ok] at h
    obtain ⟨_, -, _, -, rfl⟩ := h
    exact ⟨rfl, rfl, rfl, rfl, rfl, rfl, rfl⟩
  case updateGatewaySettings operator params =>
    obtain ⟨g, g', hg, -, -, rfl, hshell, -⟩ := updateGatewaySettings_ok h
    exact ⟨rfl, rfl, rfl, rfl, rfl, rfl, shells_update hg rfl hshell⟩
  case updateGatewayMetadata signer operator params =>
    obtain ⟨g, g', hg, -, -, rfl, hshell, -⟩ := updateGatewayMetadata_ok h
    exact ⟨rfl, rfl, rfl, rfl, rfl, rfl, shells_update hg rfl hshell⟩
  case updateOperationsAddress operator newOperations =>
    obtain ⟨g, hg, -, -, rfl⟩ := updateOperationsAddress_ok h
    exact ⟨rfl, rfl, rfl, rfl, rfl, rfl, shells_update hg rfl rfl⟩
  case increaseOperatorStake operator account pool amount =>
    exact (increaseOperatorStake_footprint hF h).2
  case decreaseOperatorStake operator amount => exact (decreaseOperatorStake_footprint hF h).2
  case delegateStake delegator gateway account pool remaining amount =>
    exact (delegateStake_footprint hF h).2
  case decreaseDelegateStake delegator gateway amount =>
    exact ((decreaseDelegateStake_ok h).footprint hF).2
  case claimDelegateFromLeavingGateway delegator gateway =>
    exact ((claimDelegateFromLeavingGateway_ok h).footprint hF).2
  case claimDelegateFromDisabledGateway delegator gateway =>
    exact ((claimDelegateFromDisabledGateway_ok h).footprint hF).2
  case closeEmptyDelegation delegator gateway => exact (closeEmptyDelegation_footprint hF h).2
  case redelegateStake delegator source target account pool treasury remaining amount =>
    exact (redelegateStake_footprint hF h).2
  case compoundDelegationRewards delegator gateway =>
    exact (compoundDelegationRewards_footprint hF h).2
  case allowDelegate operator delegate =>
    obtain ⟨_, rfl⟩ := allowDelegate_ok h
    exact ⟨rfl, rfl, rfl, rfl, rfl, rfl, rfl⟩
  case disallowDelegate operator delegate =>
    rw [disallowDelegate_ok h]
    exact ⟨rfl, rfl, rfl, rfl, rfl, rfl, rfl⟩
  case setAllowlistEnabled operator enabled =>
    obtain ⟨g, hg, rfl⟩ := setAllowlistEnabled_ok h
    exact ⟨rfl, rfl, rfl, rfl, rfl, rfl, shells_update hg rfl rfl⟩
  case claimWithdrawal owner id pool account => exact (claimWithdrawal_footprint hF h).2
  case instantWithdrawal owner id pool account treasury =>
    exact (instantWithdrawal_footprint hF h).2
  case cancelWithdrawal owner gateway id withDelegation => exact (cancelWithdrawal_footprint hF h).2
  case closeDrainedWithdrawal owner id => exact (closeDrainedWithdrawal_footprint hF h).2
  case deductDelegationForPayment delegator gateway pool treasury amount =>
    exact (deductDelegationForPayment_footprint hF h).2
  case deductOperatorStakeForPayment operator pool treasury amount =>
    exact (deductOperatorStakeForPayment_footprint hF h).2
  case deductWithdrawalForPayment owner id pool treasury amount =>
    exact (deductWithdrawalForPayment_footprint hF h).2
  case payFromFundingPlan payer pool treasury account remaining sources total count =>
    exact (payFromFundingPlan_footprint hF h).2
  case adminReconcileDelegatedStake authority gateway remaining counter removed =>
    obtain ⟨g, sum, hg, -, -, rfl⟩ := adminReconcileDelegatedStake_ok h
    exact ⟨rfl, rfl, rfl, rfl, rfl, rfl, shells_update hg rfl rfl⟩
  case adminResyncSupplyCounters authority es ns ed nd =>
    rw [adminResyncSupplyCounters_ok h]
    exact ⟨rfl, rfl, rfl, rfl, rfl, rfl, rfl⟩

/-- Only the lifecycle of the gateways changes the seats. -/
theorem handler_sameSeats {clock : Clock} {i : Instruction} (hF : Footing env s)
    (hR : Registered s) (hl : ¬ i.IsLifecycle)
    (h : i.handler env clock s = .ok s') : SameSeats s s' := by
  by_cases he : i.IsEpochOnly
  · exact (handler_epochOnly he h).sameSeats
  · by_cases hb : i.IsBatch
    · cases i <;> try exact hb.elim
      case tallyWeights index remaining => exact (tallyWeights_footprint hF h).2
      case distributeEpoch index treasury pool remaining =>
        exact (distributeEpoch_footprint hF hR h).2
    · exact (handler_quiet hF he hb hl h).sameSeats

/-- **One instruction and the registry.** -/
theorem handler_registered {clock : Clock} {i : Instruction} (hF : Footing env s)
    (hR : Registered s) (hsign : ∀ k ∈ i.signer, env.CanSign k)
    (h : i.handler env clock s = .ok s') : Registered s' := by
  by_cases hl : i.IsLifecycle
  · cases i <;> try exact hl.elim
    all_goals simp only [Instruction.handler] at h
    all_goals simp only [Instruction.signer, Option.mem_def, Option.some.injEq, forall_eq'] at hsign
    case joinNetwork operator account pool params =>
      obtain ⟨g, t, hnone, -, -, -, -, hcount, hop, -, -, hst, -, -, -, hidx, -, -, -, rfl⟩ :=
        joinNetwork_ok h
      exact hR.join hnone hsign.1 hcount hop hst hidx rfl rfl rfl rfl
    case leaveNetwork operator excess remaining =>
      obtain ⟨g, settings, C, W, L, hg, -, -, -, -, -, -, -, rfl⟩ := leaveNetwork_ok h
      exact hR.depart hg rfl rfl rfl rfl rfl rfl rfl
    case pruneGateway operator pool treasury excess remaining =>
      obtain ⟨g, settings, slash, C, W, L, t, hg, -, -, -, -, -, -, -, -, -, -, rfl⟩ :=
        pruneGateway_ok h
      exact hR.depart hg rfl rfl rfl rfl rfl rfl rfl
    case finalizeGone operator remaining =>
      obtain ⟨g, settings, s₁, hg, -, -, -, -, -, -, -, -, hmove, rfl⟩ := finalizeGone_ok h
      exact hR.finalize hg hmove rfl rfl
    case updateObserverAddress operator newObserver =>
      obtain ⟨g, hg, -, -, -, -, -, rfl⟩ := updateObserverAddress_ok h
      exact hR.of_places rfl (fun _ => rfl) (fun _ => rfl) (fun _ h => h) (places_update hg rfl rfl)
  · exact hR.of_sameSeats (handler_sameSeats hF hR hl h)

end Gar
end ArioSolana
