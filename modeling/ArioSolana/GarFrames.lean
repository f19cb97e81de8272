import ArioSolana.GarVaults

/-!
# Who leaves the epochs alone

The instructions about stake and gateways do not write to the settings of the epochs, to their rent
receipts or to the observations, and only two of them write to an epoch. This needs no invariant.
-/

namespace ArioSolana
namespace Gar

open Checked Solana

variable {env : Env} {s s' : State} {i : Instruction} {clock : Clock}

/-- The accounts around the epochs stay. -/
structure EpochFrame (s s' : State) : Prop where
  epochSettings : s'.epochSettings = s.epochSettings
  receipts : s'.epochRentReceipts = s.epochRentReceipts
  observations : s'.observations = s.observations

lemma distributeEpoch_written {index : ℕ} {p q : Pubkey} {remaining : List AccountMeta} {t : ℤ}
    (h : distributeEpoch env t index p q remaining s = .ok s') :
    EpochFrame s s' ∧ ∃ epoch done flag, s.epochs index = some epoch ∧
      epoch.prescriptionsDone ≠ 0 ∧ epoch.endTimestamp ≤ t ∧ epoch.rewardsDistributed = 0 ∧
      s'.epochs = Function.update s.epochs index (some { epoch with
        distributionIndex := done
        rewardsDistributed := flag }) := by
  obtain ⟨settings, epoch, -, he, rfl, rfl, hdone, hend, hopen, ⟨-, -, rfl⟩ |
    ⟨batch, payout, t, -, hb, hpay, -, -, hs'⟩⟩ := distributeEpoch_ok h
  · exact ⟨⟨rfl, rfl, rfl⟩, epoch, _, _, he, hdone, hend, hopen, rfl⟩
  · obtain ⟨idxs, xs, hpend, -, hscan, -⟩ := scanBatch_ok hb
    rw [List.nil_append] at hpend
    have hxs : ∀ x ∈ batch.pending, s.gateways x.gateway.operator = some x.gateway := by
      intro x hx
      obtain ⟨j, -, info, hslot⟩ := exists_of_forall₂ hscan (hpend ▸ hx)
      exact (scanSlot_ok hslot).1
    obtain ⟨-, G, hrest⟩ := payBatch_leaving hxs (.refl s) ⟨_, rfl⟩ hpay
    rw [hrest] at hs'
    rw [hs']
    exact ⟨⟨rfl, rfl, rfl⟩, epoch, _, _, he, hdone, hend, hopen, rfl⟩

/-- **Outside the epochs.** -/
theorem handler_epochFrame (he : ¬ i.IsEpochOnly) (h : i.handler env clock s = .ok s') :
    EpochFrame s s' ∧ (¬ i.IsBatch → s'.epochs = s.epochs) := by
  cases i <;> try exact absurd trivial he
  all_goals simp only [Instruction.handler] at h
  case adminSetWithdrawalPeriod authority period =>
    simp only [adminSetWithdrawalPeriod, bind_eq_ok, pure_eq_ok] at h
    obtain ⟨_, -, _, -, rfl⟩ := h
    exact ⟨⟨rfl, rfl, rfl⟩, fun _ => rfl⟩
  case transferAuthority authority newAuthority =>
    simp only [transferAuthority, bind_eq_ok, pure_eq_ok] at h
    obtain ⟨_, -, _, -, rfl⟩ := h
    exact ⟨⟨rfl, rfl, rfl⟩, fun _ => rfl⟩
  case finalizeMigration authority =>
    simp only [finalizeMigration, bind_eq_ok, pure_eq_ok] at h
    obtain ⟨_, -, _, -, rfl⟩ := h
    exact ⟨⟨rfl, rfl, rfl⟩, fun _ => rfl⟩
  case joinNetwork operator account pool params =>
    obtain ⟨g, t, -, -, -, -, -, -, -, -, -, -, -, -, -, -, -, -, -, rfl⟩ := joinNetwork_ok h
    exact ⟨⟨rfl, rfl, rfl⟩, fun _ => rfl⟩
  case leaveNetwork operator excess remaining =>
    obtain ⟨g, settings, C, W, L, -, -, -, -, -, -, -, -, rfl⟩ := leaveNetwork_ok h
    exact ⟨⟨rfl, rfl, rfl⟩, fun _ => rfl⟩
  case updateGatewaySettings operator params =>
    obtain ⟨g, g', -, -, -, rfl, -⟩ := updateGatewaySettings_ok h
    exact ⟨⟨rfl, rfl, rfl⟩, fun _ => rfl⟩
  case updateGatewayMetadata signer operator params =>
    obtain ⟨g, g', -, -, -, rfl, -⟩ := updateGatewayMetadata_ok h
    exact ⟨⟨rfl, rfl, rfl⟩, fun _ => rfl⟩
  case updateOperationsAddress operator newOperations =>
    obtain ⟨g, -, -, -, rfl⟩ := updateOperationsAddress_ok h
    exact ⟨⟨rfl, rfl, rfl⟩, fun _ => rfl⟩
  case updateObserverAddress operator newObserver =>
    obtain ⟨g, -, -, -, -, -, -, rfl⟩ := updateObserverAddress_ok h
    exact ⟨⟨rfl, rfl, rfl⟩, fun _ => rfl⟩
  case pruneGateway operator pool treasury excess remaining =>
    obtain ⟨g, settings, slash, C, W, L, t, -, -, -, -, -, -, -, -, -, -, -, rfl⟩ :=
      pruneGateway_ok h
    exact ⟨⟨rfl, rfl, rfl⟩, fun _ => rfl⟩
  case finalizeGone operator remaining =>
    obtain ⟨g, settings, s₁, -, -, -, -, -, -, -, -, -, hmove, rfl⟩ := finalizeGone_ok h
    rcases moveLastSlot_ok hmove with ⟨-, rfl⟩ | ⟨x, -, -, rfl⟩
    · exact ⟨⟨rfl, rfl, rfl⟩, fun _ => rfl⟩
    · exact ⟨⟨rfl, rfl, rfl⟩, fun _ => rfl⟩
  case increaseOperatorStake operator account pool amount =>
    obtain ⟨g, t, -, -, -, -, -, rfl⟩ := increaseOperatorStake_ok h
    exact ⟨⟨rfl, rfl, rfl⟩, fun _ => rfl⟩
  case decreaseOperatorStake operator amount =>
    obtain ⟨g, nextId, -, -, -, -, -, -, rfl⟩ := decreaseOperatorStake_ok h
    exact ⟨⟨rfl, rfl, rfl⟩, fun _ => rfl⟩
  case delegateStake delegator gateway account pool remaining amount =>
    obtain ⟨g, d, t, -, -, -, -, -, -, rfl⟩ := delegateStake_ok h
    exact ⟨⟨rfl, rfl, rfl⟩, fun _ => rfl⟩
  case decreaseDelegateStake delegator gateway amount =>
    obtain ⟨g, d, amount, -, -, -, -, h⟩ := decreaseDelegateStake_ok h
    obtain ⟨nextId, -, -, rfl⟩ := vaultDelegation_ok h
    exact ⟨⟨rfl, rfl, rfl⟩, fun _ => rfl⟩
  case claimDelegateFromLeavingGateway delegator gateway =>
    obtain ⟨g, d, amount, -, -, -, -, h⟩ := claimDelegateFromLeavingGateway_ok h
    obtain ⟨nextId, -, -, rfl⟩ := vaultDelegation_ok h
    exact ⟨⟨rfl, rfl, rfl⟩, fun _ => rfl⟩
  case claimDelegateFromDisabledGateway delegator gateway =>
    obtain ⟨g, d, amount, -, -, -, -, h⟩ := claimDelegateFromDisabledGateway_ok h
    obtain ⟨nextId, -, -, rfl⟩ := vaultDelegation_ok h
    exact ⟨⟨rfl, rfl, rfl⟩, fun _ => rfl⟩
  case closeEmptyDelegation delegator gateway =>
    obtain ⟨g, d, -, -, -, rfl⟩ := closeEmptyDelegation_ok h
    exact ⟨⟨rfl, rfl, rfl⟩, fun _ => rfl⟩
  case redelegateStake delegator source target account pool treasury remaining amount =>
    obtain ⟨g, d, g', d', fee, t, record, -, -, -, -, -, -, -, -, -, rfl⟩ := redelegateStake_ok h
    exact ⟨⟨rfl, rfl, rfl⟩, fun _ => rfl⟩
  case compoundDelegationRewards delegator gateway =>
    obtain ⟨g, d, -, -, rfl⟩ := compoundDelegationRewards_ok h
    exact ⟨⟨rfl, rfl, rfl⟩, fun _ => rfl⟩
  case allowDelegate operator delegate =>
    obtain ⟨_, rfl⟩ := allowDelegate_ok h
    exact ⟨⟨rfl, rfl, rfl⟩, fun _ => rfl⟩
  case disallowDelegate operator delegate =>
    rw [disallowDelegate_ok h]
    exact ⟨⟨rfl, rfl, rfl⟩, fun _ => rfl⟩
  case setAllowlistEnabled operator enabled =>
    obtain ⟨g, -, rfl⟩ := setAllowlistEnabled_ok h
    exact ⟨⟨rfl, rfl, rfl⟩, fun _ => rfl⟩
  case claimWithdrawal owner id pool account =>
    obtain ⟨w, _, -, -, -, -, rfl⟩ := claimWithdrawal_ok h
    exact ⟨⟨rfl, rfl, rfl⟩, fun _ => rfl⟩
  case instantWithdrawal owner id pool account treasury =>
    obtain ⟨w, _, _, _, -, -, -, -, -, -, -, rfl⟩ := instantWithdrawal_ok h
    exact ⟨⟨rfl, rfl, rfl⟩, fun _ => rfl⟩
  case cancelWithdrawal owner gateway id withDelegation =>
    obtain ⟨w, g, -, -, -, -, ⟨-, d, -, rfl⟩ | ⟨-, rfl⟩⟩ := cancelWithdrawal_ok h
    · exact ⟨⟨rfl, rfl, rfl⟩, fun _ => rfl⟩
    · exact ⟨⟨rfl, rfl, rfl⟩, fun _ => rfl⟩
  case closeDrainedWithdrawal owner id =>
    obtain ⟨w, -, -, rfl⟩ := closeDrainedWithdrawal_ok h
    exact ⟨⟨rfl, rfl, rfl⟩, fun _ => rfl⟩
  case deductDelegationForPayment delegator gateway pool treasury amount =>
    obtain ⟨g, d, t, -, -, -, -, -, rfl⟩ := deductDelegationForPayment_ok h
    exact ⟨⟨rfl, rfl, rfl⟩, fun _ => rfl⟩
  case deductOperatorStakeForPayment operator pool treasury amount =>
    obtain ⟨g, t, -, -, -, -, -, rfl⟩ := deductOperatorStakeForPayment_ok h
    exact ⟨⟨rfl, rfl, rfl⟩, fun _ => rfl⟩
  case deductWithdrawalForPayment owner id pool treasury amount =>
    obtain ⟨w, t, -, -, -, -, rfl⟩ := deductWithdrawalForPayment_ok h
    exact ⟨⟨rfl, rfl, rfl⟩, fun _ => rfl⟩
  case payFromFundingPlan payer pool treasury account remaining sources total count =>
    obtain ⟨residues, x⟩ := payFromFundingPlan_accounts h
    obtain ⟨G, D, W, C, tokens, _, _, _, rfl⟩ := x.rest
    exact ⟨⟨rfl, rfl, rfl⟩, fun _ => rfl⟩
  case adminReconcileDelegatedStake authority gateway remaining counter removed =>
    obtain ⟨g, sum, -, -, -, rfl⟩ := adminReconcileDelegatedStake_ok h
    exact ⟨⟨rfl, rfl, rfl⟩, fun _ => rfl⟩
  case adminResyncSupplyCounters authority es ns ed nd =>
    rw [adminResyncSupplyCounters_ok h]
    exact ⟨⟨rfl, rfl, rfl⟩, fun _ => rfl⟩
  case tallyWeights index remaining =>
    obtain ⟨settings, epoch, s₁, epoch', -, -, -, -, -, hbatch, rfl⟩ := tallyWeights_ok h
    obtain ⟨G, r, rfl⟩ := (tallyBatch_tallied hbatch).rest
    exact ⟨⟨rfl, rfl, rfl⟩, fun hb => absurd trivial hb⟩
  case distributeEpoch index treasury pool remaining =>
    exact ⟨(distributeEpoch_written h).1, fun hb => absurd trivial hb⟩

end Gar
end ArioSolana
