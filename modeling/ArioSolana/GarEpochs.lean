import ArioSolana.GarObservers

/-!
# The accounts of the epochs

What each instruction does to the epochs. Eight of them write to an epoch; the rest leave all of
them alone. The account of an epoch always says its own index.
-/

namespace ArioSolana
namespace Gar

open Checked Solana

variable {env : Env} {s s' s₀ : State} {k : Pubkey} {tr : Trace} {e : Event} {clock : Clock}
  {i : Instruction} {index : ℕ} {remaining : List AccountMeta}

/-! ### Specifications -/

lemma prescribeEpoch_ok {names : RawAccount}
    (h : prescribeEpoch env index remaining names s = .ok s') :
    ∃ settings epoch sums selected observers, ∃ drawn : Option (List Hash),
      s.epochSettings = some settings ∧ s.epochs index = some epoch ∧ epoch.weightsTallied ≠ 0 ∧
      epoch.prescriptionsDone = 0 ∧
      prefixSums s.registry epoch.activeGatewayCount = .ok sums ∧
      selected = rouletteSelectIndices env epoch.hashchain sums
        (min settings.prescribedObserverCount epoch.activeGatewayCount) ∧
      selected.length ≤ 50 ∧ resolveObservers s remaining selected = .ok observers ∧
      selectNames env settings epoch.hashchain selected.length remaining names
        s.settings.arnsProgramId = .ok drawn ∧
      s' = s.setEpoch index (some { epoch with
        prescribedObserverGateways := overwrite epoch.prescribedObserverGateways
          (selected.map fun slot => (s.registry.gateways slot).address)
        prescribedObservers := overwrite epoch.prescribedObservers observers
        observerCount := selected.length
        prescribedNames := overwrite epoch.prescribedNames (drawn.getD [])
        nameCount := drawn.elim epoch.nameCount List.length
        perGatewayReward :=
          if 0 < s.registry.weighted epoch.activeGatewayCount then
            rewardShare epoch.totalEligibleRewards settings.gatewayRewardRatio
              / s.registry.weighted epoch.activeGatewayCount
          else epoch.perGatewayReward
        perObserverReward :=
          if 0 < s.registry.weighted epoch.activeGatewayCount ∧ 0 < selected.length then
            rewardShare epoch.totalEligibleRewards settings.observerRewardRatio / selected.length
          else epoch.perObserverReward
        prescriptionsDone := 1 }) := by
  simp only [prescribeEpoch, bind_eq_ok, loadEpochSettings, loadEpoch, okOr_eq_ok, require_eq_ok,
    pure_eq_ok, exists_const] at h
  obtain ⟨settings, hset, epoch, he, h1, h2, -, sums, hsums, hsel, observers, hobs, drawn, hdrawn,
    rfl⟩ := h
  exact ⟨settings, epoch, sums, _, observers, drawn, hset, he, h1, h2, hsums, rfl, hsel, hobs,
    hdrawn, rfl⟩

lemma saveObservations_ok {clock : ℤ} {observer : Pubkey} {results : BitVec 3000} {count : ℕ}
    {txId : Hash} (h : saveObservations clock observer index results count txId s = .ok s') :
    ∃ epoch idx x, s.epochs index = some epoch ∧ s.observations (index, observer) = none ∧
      epoch.prescriptionsDone ≠ 0 ∧ epoch.startTimestamp ≤ clock ∧ clock < epoch.endTimestamp ∧
      count = epoch.activeGatewayCount ∧ epoch.observerCount ≤ 50 ∧
      position epoch.prescribedObservers epoch.observerCount observer = some idx ∧
      x.epochIndex = epoch.epochIndex ∧ x.observer = observer ∧ x.gatewayResults = results ∧
      s' = { s with
        observations := Function.update s.observations (index, observer) (some x)
        epochs := Function.update s.epochs index (some { epoch.setObserved idx with
          failureCounts := fun i =>
            if i < epoch.activeGatewayCount ∧ i / 8 < 375 ∧ results.getLsbD i = false then
              saturatingAdd 16 (epoch.failureCounts i) 1
            else epoch.failureCounts i
          observationsSubmitted := saturatingAdd 8 epoch.observationsSubmitted 1 }) } := by
  simp only [saveObservations, bind_eq_ok, loadEpoch, okOr_eq_ok, requireAbsent_eq_ok,
    require_eq_ok, pure_eq_ok, exists_const] at h
  obtain ⟨epoch, he, hnone, h1, h2, h3, h4, h5, idx, hidx, rfl⟩ := h
  have hset : ∀ j, epoch.setObserved j = { epoch with
      hasObserved := (epoch.setObserved j).hasObserved } := by
    intro j
    unfold Epoch.setObserved
    split <;> rfl
  refine ⟨epoch, idx, ⟨epoch.epochIndex, observer, results, count, txId, clock⟩, he, hnone, h1, h2,
    h3, h4, h5, hidx, rfl, rfl, rfl, ?_⟩
  rw [hset idx, h4]
  simp only [State.setEpoch, State.setObservation, min_self]

lemma closeObservation_ok {observer : Pubkey} (h : closeObservation index observer s = .ok s') :
    ∃ epoch x, s.epochs index = some epoch ∧ s.observations (index, observer) = some x ∧
      epoch.rewardsDistributed ≠ 0 ∧ s' = { s with
        epochs := Function.update s.epochs index (some { epoch with
          observationsClosed := saturatingAdd 8 epoch.observationsClosed 1 })
        observations := Function.update s.observations (index, observer) none } := by
  simp only [closeObservation, bind_eq_ok, loadEpoch, okOr_eq_ok, require_eq_ok, pure_eq_ok,
    exists_const] at h
  obtain ⟨epoch, he, x, hx, -, -, h1, rfl⟩ := h
  exact ⟨epoch, x, he, hx, h1, rfl⟩

lemma closeEpoch_ok (h : closeEpoch index remaining s = .ok s') :
    ∃ settings epoch R, s.epochSettings = some settings ∧ s.epochs index = some epoch ∧
      epoch.rewardsDistributed ≠ 0 ∧
      saturatingAdd 64 epoch.epochIndex 7 ≤ settings.currentEpochIndex ∧
      epoch.observationsClosed = epoch.observationsSubmitted ∧ s' = { s with
        epochs := Function.update s.epochs index none
        epochRentReceipts := R } := by
  simp only [closeEpoch, bind_eq_ok, loadEpochSettings, loadEpoch, okOr_eq_ok, require_eq_ok,
    exists_const] at h
  obtain ⟨settings, hset, epoch, he, h1, h2, h3, h⟩ := h
  split at h
  · simp only [bind_eq_ok, pure_eq_ok] at h
    obtain ⟨_, -, _, -, _, -, _, -, _, -, _, -, rfl⟩ := h
    exact ⟨settings, epoch, _, hset, he, h1, h2, h3, rfl⟩
  · obtain rfl := pure_eq_ok.mp h
    exact ⟨settings, epoch, _, hset, he, h1, h2, h3, rfl⟩

lemma adminCloseStaleEpoch_ok {clock : ℤ} {authority : Pubkey}
    (h : adminCloseStaleEpoch clock authority index s = .ok s') :
    ∃ epoch, s.epochs index = some epoch ∧ epoch.endTimestamp ≤ clock ∧
      epoch.rewardsDistributed = 0 ∧
      s' = { s with epochs := Function.update s.epochs index none } := by
  simp only [adminCloseStaleEpoch, bind_eq_ok, loadEpoch, okOr_eq_ok, require_eq_ok, pure_eq_ok,
    exists_const] at h
  obtain ⟨_, -, epoch, he, h1, h2, rfl⟩ := h
  exact ⟨epoch, he, h1, h2, rfl⟩

/-! ### Who writes to an epoch -/

/-- The instructions that write to the account of an epoch. -/
def Instruction.WritesEpoch : Instruction → Prop
  | .createEpoch .. | .tallyWeights .. | .prescribeEpoch .. | .saveObservations .. => True
  | .distributeEpoch .. | .closeObservation .. | .closeEpoch .. | .adminCloseStaleEpoch .. => True
  | _ => False

/-- The close of a rent receipt whose epoch is gone. -/
def Instruction.IsOrphanClose : Instruction → Prop
  | .adminCloseOrphanedEpochRentReceipt .. => True
  | _ => False

lemma settings_frame (he : i.IsEpochOnly) (hw : ¬ i.WritesEpoch)
    (h : i.handler env clock s = .ok s') :
    s'.epochs = s.epochs ∧ s'.observations = s.observations ∧
      (¬ i.IsOrphanClose → s'.epochRentReceipts = s.epochRentReceipts) := by
  cases i <;> try exact he.elim
  all_goals try exact absurd trivial hw
  all_goals simp only [Instruction.handler] at h
  case initializeEpochs payer params =>
    simp only [initializeEpochs, bind_eq_ok, pure_eq_ok] at h
    obtain ⟨_, -, _, -, _, -, _, -, rfl⟩ := h
    exact ⟨rfl, rfl, fun _ => rfl⟩
  case setEpochsEnabled authority enabled =>
    simp only [setEpochsEnabled, bind_eq_ok] at h
    obtain ⟨settings, -, h⟩ := h
    split at h
    · obtain rfl := pure_eq_ok.mp h
      exact ⟨rfl, rfl, fun _ => rfl⟩
    · simp only [bind_eq_ok, pure_eq_ok] at h
      obtain ⟨_, -, rfl⟩ := h
      exact ⟨rfl, rfl, fun _ => rfl⟩
  case adminSetEpochDuration authority duration =>
    simp only [adminSetEpochDuration, bind_eq_ok, pure_eq_ok] at h
    obtain ⟨_, -, _, -, _, -, _, -, rfl⟩ := h
    exact ⟨rfl, rfl, fun _ => rfl⟩
  case adminSetTenureWeight authority duration weight =>
    simp only [adminSetTenureWeight, bind_eq_ok, pure_eq_ok] at h
    obtain ⟨_, -, _, -, _, -, rfl⟩ := h
    exact ⟨rfl, rfl, fun _ => rfl⟩
  case adminSetRewardRatios authority gatewayRatio observerRatio =>
    simp only [adminSetRewardRatios, bind_eq_ok, pure_eq_ok] at h
    obtain ⟨_, -, _, -, _, -, _, -, _, -, _, -, _, -, rfl⟩ := h
    exact ⟨rfl, rfl, fun _ => rfl⟩
  case adminSetCurrentEpochIndex authority index =>
    simp only [adminSetCurrentEpochIndex, bind_eq_ok, pure_eq_ok] at h
    obtain ⟨_, -, _, -, _, -, _, -, _, -, _, -, _, -, rfl⟩ := h
    exact ⟨rfl, rfl, fun _ => rfl⟩
  case closeEpochSettings authority =>
    simp only [closeEpochSettings, bind_eq_ok, pure_eq_ok] at h
    obtain ⟨_, -, rfl⟩ := h
    exact ⟨rfl, rfl, fun _ => rfl⟩
  case transferEpochSettingsAuthority authority newAuthority =>
    simp only [transferEpochSettingsAuthority, bind_eq_ok, pure_eq_ok] at h
    obtain ⟨_, -, _, -, rfl⟩ := h
    exact ⟨rfl, rfl, fun _ => rfl⟩
  case adminCloseOrphanedEpochRentReceipt authority index =>
    simp only [adminCloseOrphanedEpochRentReceipt, bind_eq_ok, pure_eq_ok] at h
    obtain ⟨_, -, _, -, _, -, rfl⟩ := h
    exact ⟨rfl, rfl, fun hno => absurd trivial hno⟩

lemma handler_epochs (hF : Footing env s)
    (hw : ¬ i.WritesEpoch) (h : i.handler env clock s = .ok s') : s'.epochs = s.epochs := by
  by_cases he : i.IsEpochOnly
  · exact (settings_frame he hw h).1
  · have hb : ¬ i.IsBatch := by
      intro hb
      cases i <;> first | exact hb.elim | exact hw trivial
    by_cases hl : i.IsLifecycle
    · cases i <;> try exact hl.elim
      all_goals simp only [Instruction.handler] at h
      case joinNetwork operator account pool params =>
        obtain ⟨g, t, -, -, -, -, -, -, -, -, -, -, -, -, -, -, -, -, -, rfl⟩ := joinNetwork_ok h
        rfl
      case leaveNetwork operator excess remaining =>
        obtain ⟨g, settings, C, W, L, -, -, -, -, -, -, -, -, rfl⟩ := leaveNetwork_ok h
        rfl
      case pruneGateway operator pool treasury excess remaining =>
        obtain ⟨g, settings, slash, C, W, L, t, -, -, -, -, -, -, -, -, -, -, -, rfl⟩ :=
          pruneGateway_ok h
        rfl
      case finalizeGone operator remaining =>
        obtain ⟨g, settings, s₁, -, -, -, -, -, -, -, -, -, hmove, rfl⟩ := finalizeGone_ok h
        rcases moveLastSlot_ok hmove with ⟨-, rfl⟩ | ⟨x, -, -, rfl⟩ <;> rfl
      case updateObserverAddress operator newObserver =>
        obtain ⟨g, -, -, -, -, -, -, rfl⟩ := updateObserverAddress_ok h
        rfl
    · exact (handler_quiet hF he hb hl h).epochs

lemma distributeEpoch_epochs {clock : ℤ} {p q : Pubkey} (hF : Footing env s) (hR : Registered s)
    (h : distributeEpoch env clock index p q remaining s = .ok s') :
    ∃ epoch done flag, s.epochs index = some epoch ∧ epoch.rewardsDistributed = 0 ∧
      s'.epochs = Function.update s.epochs index (some { epoch with
        distributionIndex := done
        rewardsDistributed := flag }) := by
  obtain ⟨settings, epoch, -, he, rfl, rfl, -, -, h0, ⟨-, -, rfl⟩ |
    ⟨batch, payout, t, -, hb, hpay, -, -, hs'⟩⟩ := distributeEpoch_ok h
  · exact ⟨epoch, _, _, he, h0, rfl⟩
  · obtain ⟨G, hrest⟩ := (handed_of_batch hF hR hb hpay).1.rest
    rw [hs', hrest]
    exact ⟨epoch, _, _, he, h0, rfl⟩

/-! ### The index of an epoch -/

/-- The account of an epoch says its own index. -/
def Keyed (s : State) : Prop := ∀ n epoch, s.epochs n = some epoch → epoch.epochIndex = n

lemma Keyed.update {n : ℕ} {epoch : Epoch} (h : Keyed s) (hn : epoch.epochIndex = n)
    (hE : s'.epochs = Function.update s.epochs n (some epoch)) : Keyed s' := by
  intro m x hx
  by_cases hm : m = n
  · subst hm
    obtain rfl : epoch = x := by simpa [hE] using hx
    exact hn
  · exact h m x (by simpa [hE, hm] using hx)

lemma Keyed.remove {n : ℕ} (h : Keyed s) (hE : s'.epochs = Function.update s.epochs n none) :
    Keyed s' := by
  intro m x hx
  by_cases hm : m = n
  · subst hm; simp [hE] at hx
  · exact h m x (by simpa [hE, hm] using hx)

lemma tallyBatch_epoch {settings : EpochSettings} {infos : List AccountMeta} {epoch epoch' : Epoch}
    (h : tallyBatch settings infos (s, epoch) = .ok (s', epoch')) :
    ∃ n w, epoch.tallyIndex ≤ n ∧ epoch' = { epoch with
      tallyIndex := n
      totalCompositeWeight := w } := by
  induction infos generalizing s epoch with
  | nil =>
    obtain ⟨-, rfl⟩ := Prod.mk.inj (pure_eq_ok.mp h)
    exact ⟨_, _, le_rfl, rfl⟩
  | cons info infos ih =>
    unfold tallyBatch at h
    split at h
    · simp only [bind_eq_ok, Prod.exists] at h
      obtain ⟨s₁, e₁, h₁, h⟩ := h
      obtain ⟨n, w, hle, rfl⟩ := ih h
      obtain ⟨-, ⟨-, -, rfl⟩ | ⟨g, weights, weight, -, -, -, -, -, -, -, rfl⟩⟩ := tallySlot_ok h₁
      · exact ⟨n, w, (Nat.le_succ _).trans hle, rfl⟩
      · exact ⟨n, w, (Nat.le_succ _).trans hle, rfl⟩
    · obtain ⟨-, rfl⟩ := Prod.mk.inj (pure_eq_ok.mp h)
      exact ⟨_, _, le_rfl, rfl⟩

lemma tallyWeights_epochs (h : tallyWeights index remaining s = .ok s') :
    ∃ settings epoch n w, s.epochSettings = some settings ∧ s.epochs index = some epoch ∧
      epoch.weightsTallied = 0 ∧ epoch.epochIndex + 1 = settings.currentEpochIndex ∧
      epoch.tallyIndex ≤ n ∧ s'.epochs = Function.update s.epochs index (some { epoch with
        tallyIndex := n
        totalCompositeWeight := w
        weightsTallied := if epoch.activeGatewayCount ≤ n then 1 else 0 }) := by
  obtain ⟨settings, epoch, s₁, epoch', hset, he, h0, hpos, hidx, hb, rfl⟩ := tallyWeights_ok h
  obtain ⟨G, r, rfl⟩ := (tallyBatch_tallied hb).rest
  obtain ⟨n, w, hle, rfl⟩ := tallyBatch_epoch hb
  refine ⟨settings, epoch, n, w, hset, he, h0, by omega, hle, ?_⟩
  simp only [State.setEpoch, h0]

/-- **One instruction and the indices of the epochs.** -/
theorem handler_keyed (hF : Footing env s) (hR : Registered s)
    (h : i.handler env clock s = .ok s') (hK : Keyed s) : Keyed s' := by
  by_cases hw : i.WritesEpoch
  · cases i <;> try exact hw.elim
    all_goals simp only [Instruction.handler] at h
    case createEpoch payer account remaining =>
      obtain ⟨_, _, _, _, _, _, -, -, -, -, -, -, -, rfl⟩ := createEpoch_ok h
      refine hK.update ?_ rfl
      rfl
    case tallyWeights index remaining =>
      obtain ⟨settings, epoch, n, w, -, he, -, -, -, hE⟩ := tallyWeights_epochs h
      have hkey := hK _ _ he
      refine hK.update ?_ hE
      exact hkey
    case prescribeEpoch index remaining names =>
      obtain ⟨_, epoch, _, _, _, _, -, he, -, -, -, -, -, -, -, rfl⟩ := prescribeEpoch_ok h
      have hkey := hK _ _ he
      refine hK.update ?_ rfl
      exact hkey
    case saveObservations observer index results count txId =>
      obtain ⟨epoch, idx, x, he, -, -, -, -, -, -, -, -, -, -, rfl⟩ := saveObservations_ok h
      refine hK.update ?_ rfl
      rw [← hK _ _ he]
      simp only [Epoch.setObserved]
      split <;> rfl
    case distributeEpoch index treasury pool remaining =>
      obtain ⟨epoch, done, flag, he, -, hE⟩ := distributeEpoch_epochs hF hR h
      have hkey := hK _ _ he
      refine hK.update ?_ hE
      exact hkey
    case closeObservation index observer =>
      obtain ⟨epoch, x, he, -, -, rfl⟩ := closeObservation_ok h
      have hkey := hK _ _ he
      refine hK.update ?_ rfl
      exact hkey
    case closeEpoch index remaining =>
      obtain ⟨_, epoch, _, -, -, -, -, -, rfl⟩ := closeEpoch_ok h
      exact hK.remove rfl
    case adminCloseStaleEpoch authority index =>
      obtain ⟨epoch, -, -, -, rfl⟩ := adminCloseStaleEpoch_ok h
      exact hK.remove rfl
  · intro n epoch he
    rw [handler_epochs hF hw h] at he
    exact hK n epoch he

lemma Fresh.epochs (h : Fresh env s) : s.epochs = fun _ => none := by
  obtain ⟨payer, mint, params, tokens, hinit⟩ := h.initialized
  simp only [initializeGar, bind_eq_ok, pure_eq_ok] at hinit
  obtain ⟨-, -, rfl⟩ := hinit
  rfl

lemma run_keyed (hfresh : Fresh env s₀) (run : Run (GarStep env) s₀ tr s) :
    Keyed s := by
  induction run with
  | nil =>
    intro n epoch he
    rw [hfresh.epochs] at he
    cases he
  | cons run last ih =>
    obtain ⟨hF, hR⟩ := run_footing hfresh run
    rcases garStep_cases last with ⟨i, -, -, h⟩ | ⟨t, rfl⟩
    · exact handler_keyed hF hR h ih
    · exact ih

end Gar
end ArioSolana
