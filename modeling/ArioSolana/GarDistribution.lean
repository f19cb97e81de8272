import ArioSolana.GarGateway

/-!
# Distribution

`distributeEpoch` pays an ended epoch in batches, in registry order. A first pass over the batch
validates each account against its slot and computes the full reward of each gateway; the second
pass scales the rewards to what the treasury holds, credits the operators, raises the
accumulators of the delegates, and records the epoch in the gateways' statistics.
-/

namespace ArioSolana
namespace Gar

open Checked Solana

/-! ### The first pass -/

/-- What the first pass finds out about a gateway. -/
structure PendingDistribution where
  gateway : Gateway
  /-- the reward before it is scaled -/
  fullReward : ℕ
  isLeaving : Bool
  isPrescribed : Bool
  isObserved : Bool
  failed : Bool
  hadDelegationAtTally : Bool
  eligible : Bool

/-- The six cases of a reward: passed or failed, prescribed or not, observed or not. -/
def fullReward (perGateway perObserver penaltyRate : ℕ)
    (isLeaving isEligible failed isPrescribed isObserved : Bool) : ℕ :=
  if isLeaving || !isEligible then 0
  else if !failed then
    if isPrescribed then
      if isObserved then saturatingAdd 64 perGateway perObserver
      else
        let docked := saturatingMul 128 perGateway (saturatingSub rateScale penaltyRate) / rateScale
        truncate 64 docked
    else perGateway
  else if isPrescribed && isObserved then perObserver
  else 0

/-- Validate the account for slot `i` and compute its reward. -/
def scanSlot (s : State) (epoch : Epoch) (penaltyRate i : ℕ) (info : AccountMeta) :
    Except GarError PendingDistribution := do
  let slot := s.registry.gateways i
  require info.isWritable .invalidGatewayAccount
  let gateway ← loadSlotGateway s s.registry i info
  let isLeaving := gateway.status = .leaving
  let weightsStale := gateway.weights.weightsEpoch ≠ epoch.epochIndex
  let outsideEarningSet := epoch.startTimestamp < gateway.startTimestamp
  require (isLeaving ∨ ¬ weightsStale ∨ outsideEarningSet) .epochWeightsClobbered
  let failed := 0 < epoch.observationsSubmitted ∧
    epoch.observationsSubmitted / 2 < epoch.failureCounts i
  require (epoch.observerCount ≤ 50) .panicked
  let prescribedIdx :=
    position epoch.prescribedObserverGateways epoch.observerCount gateway.operator
  let isPrescribed := prescribedIdx.isSome
  let isObserved := prescribedIdx.elim false epoch.isObserved
  let isEligible := 0 < slot.compositeWeight ∧ ¬ weightsStale
  return {
    gateway
    fullReward := fullReward epoch.perGatewayReward epoch.perObserverReward penaltyRate
      isLeaving isEligible failed isPrescribed isObserved
    isLeaving
    isPrescribed
    isObserved
    failed
    hadDelegationAtTally := slot.delegatedAtTally ≠ 0
    eligible := isEligible }

/-- The first pass so far: the cursor, the sum of the full rewards, and the gateways found. -/
structure Batch where
  distIdx : ℕ
  totalReward : ℕ := 0
  pending : List PendingDistribution := []

/-- The first pass. A cleared slot uses up an account. -/
def scanBatch (s : State) (epoch : Epoch) (penaltyRate : ℕ) :
    List AccountMeta → Batch → Except GarError Batch
  | [], batch => return batch
  | info :: rest, batch =>
    if epoch.activeGatewayCount ≤ batch.distIdx then return batch
    else do
      require (batch.distIdx < GatewayRegistry.maxGateways) .panicked
      if (s.registry.gateways batch.distIdx).address = Pubkey.default then
        scanBatch s epoch penaltyRate rest { batch with distIdx := batch.distIdx + 1 }
      else
        let pending ← scanSlot s epoch penaltyRate batch.distIdx info
        let totalReward ← addNonzero batch.totalReward pending.fullReward
        scanBatch s epoch penaltyRate rest {
          distIdx := batch.distIdx + 1
          totalReward
          pending := batch.pending ++ [pending] }

/-! ### The second pass -/

/-- Split a scaled reward into the operator's share and the delegates' pool. The pool depends on
the stake at the tally, not on the stake now. -/
def splitScaledReward (scaledReward delegateRewardShareRatio : ℕ) (hadDelegationAtTally : Bool) :
    ℕ × ℕ :=
  let delegatePool :=
    if 0 < delegateRewardShareRatio ∧ hadDelegationAtTally then
      truncate 64 (scaledReward * delegateRewardShareRatio / 10000)
    else 0
  (saturatingSub scaledReward delegatePool, delegatePool)

/-- A gateway after it was paid, with what went to the operator, to the accumulator, and what
has to stay in the treasury. -/
structure Payment where
  gateway : Gateway
  operatorReward : ℕ
  delegateReward : ℕ
  orphaned : ℕ

/-- Pay a scaled reward to a gateway. -/
def payGateway (gateway : Gateway) (scaledReward : ℕ) (hadDelegationAtTally : Bool) :
    Except GarError Payment := do
  let (operatorReward, delegatePool) := splitScaledReward scaledReward
    gateway.settings.delegateRewardShareRatio hadDelegationAtTally
  let credited := 0 < operatorReward ∧ gateway.status = .joined
  let gateway := { gateway with
    operatorStake :=
      if credited then saturatingAdd 64 gateway.operatorStake operatorReward
      else gateway.operatorStake }
  let operatorReward := if credited then operatorReward else 0
  if 0 < delegatePool ∧ 0 < gateway.totalDelegatedStake then
    let product ← okOr (checkedMul 128 delegatePool rewardPrecision) .arithmeticOverflow
    let increment ← okOr (checkedDiv product gateway.totalDelegatedStake) .arithmeticOverflow
    return {
      gateway := { gateway with
        cumulativeRewardPerToken := saturatingAdd 128 gateway.cumulativeRewardPerToken increment }
      operatorReward
      delegateReward := delegatePool
      orphaned := 0 }
  else
    return { gateway, operatorReward, delegateReward := 0, orphaned := delegatePool }

/-- Statistics after an epoch in the active set. -/
def GatewayStats.record (stats : GatewayStats) (failed isPrescribed isObserved : Bool) :
    GatewayStats :=
  { totalEpochs := saturatingAdd 32 stats.totalEpochs 1
    passedEpochs :=
      if failed then stats.passedEpochs else saturatingAdd 32 stats.passedEpochs 1
    failedEpochs :=
      if failed then saturatingAdd 32 stats.failedEpochs 1 else stats.failedEpochs
    passedConsecutive := if failed then 0 else saturatingAdd 8 stats.passedConsecutive 1
    failedConsecutive := if failed then saturatingAdd 8 stats.failedConsecutive 1 else 0
    prescribedEpochs :=
      if isPrescribed then saturatingAdd 32 stats.prescribedEpochs 1 else stats.prescribedEpochs
    observedEpochs :=
      if isPrescribed && isObserved then saturatingAdd 32 stats.observedEpochs 1
      else stats.observedEpochs }

/-- One epoch more, counter by counter. It counts in the total, it goes on with one streak and ends
the other, and a full counter stays. -/
structure GatewayStats.Ticked (stats stats' : GatewayStats)
    (hasFailed isPrescribed isObserved : Prop) :
    Prop where
  total : stats'.totalEpochs = min (stats.totalEpochs + 1) (2 ^ 32 - 1)
  failed : hasFailed → stats'.failedEpochs = min (stats.failedEpochs + 1) (2 ^ 32 - 1) ∧
    stats'.failedConsecutive = min (stats.failedConsecutive + 1) (2 ^ 8 - 1) ∧
    stats'.passedEpochs = stats.passedEpochs ∧ stats'.passedConsecutive = 0
  passed : ¬ hasFailed → stats'.passedEpochs = min (stats.passedEpochs + 1) (2 ^ 32 - 1) ∧
    stats'.passedConsecutive = min (stats.passedConsecutive + 1) (2 ^ 8 - 1) ∧
    stats'.failedEpochs = stats.failedEpochs ∧ stats'.failedConsecutive = 0
  prescribed : isPrescribed → stats'.prescribedEpochs = min (stats.prescribedEpochs + 1)
    (2 ^ 32 - 1)
  unprescribed : ¬ isPrescribed → stats'.prescribedEpochs = stats.prescribedEpochs
  observed : isPrescribed ∧ isObserved →
    stats'.observedEpochs = min (stats.observedEpochs + 1) (2 ^ 32 - 1)
  unobserved : ¬ (isPrescribed ∧ isObserved) → stats'.observedEpochs = stats.observedEpochs

lemma GatewayStats.record_ticked (stats : GatewayStats) {failed prescribed observed : Bool}
    {hasFailed isPrescribed isObserved : Prop} (hfailed : failed = true ↔ hasFailed)
    (hprescribed : prescribed = true ↔ isPrescribed) (hobserved : observed = true ↔ isObserved) :
    stats.Ticked (stats.record failed prescribed observed) hasFailed isPrescribed isObserved := by
  rw [← hfailed, ← hprescribed, ← hobserved]
  refine ⟨rfl, fun h => ?_, fun h => ?_, fun h => ?_, fun h => ?_, fun h => ?_, fun h => ?_⟩
  case refine_6 => exact if_neg (by rwa [Bool.and_eq_true])
  all_goals simp [record, saturatingAdd, h]

/-- The second pass so far. The program sums the operator rewards and the orphaned pools; what
the accumulators received is summed here for the record only. -/
structure Payout where
  state : State
  operatorRewards : ℕ := 0
  delegateRewards : ℕ := 0
  orphaned : ℕ := 0

/-- A gateway's part of the transfer. -/
def scaleReward (fullReward transferAmount totalReward : ℕ) : ℕ :=
  if 0 < totalReward ∧ 0 < fullReward then
    truncate 64 (saturatingMul 128 fullReward transferAmount / totalReward)
  else 0

/-- Scale, pay and record one gateway. -/
def payPending (totalReward transferAmount : ℕ) (p : PendingDistribution) (payout : Payout) :
    Except GarError Payout := do
  let payment ← payGateway p.gateway (scaleReward p.fullReward transferAmount totalReward)
    p.hadDelegationAtTally
  let gateway := payment.gateway
  let gateway :=
    if !p.isLeaving && p.eligible then
      { gateway with stats := gateway.stats.record p.failed p.isPrescribed p.isObserved }
    else gateway
  return {
    state := payout.state.setGateway gateway.operator (some gateway)
    operatorRewards := saturatingAdd 64 payout.operatorRewards payment.operatorReward
    delegateRewards := payout.delegateRewards + payment.delegateReward
    orphaned := saturatingAdd 64 payout.orphaned payment.orphaned }

/-- The second pass. -/
def payBatch (totalReward transferAmount : ℕ) :
    List PendingDistribution → Payout → Except GarError Payout
  | [], payout => return payout
  | p :: rest, payout => do
    let payout ← payPending totalReward transferAmount p payout
    payBatch totalReward transferAmount rest payout

/-! ### The instruction -/

/-- The core program's release of treasury tokens to the stake pool, left out when there is
nothing to release. -/
def releaseTreasuryToRecipient (env : Env) (protocolTokenAccount stakeTokenAccount : Pubkey)
    (amount : ℕ) (s : State) : Except GarError State :=
  if 0 < amount then do
    require (protocolTokenAccount = env.coreTreasury) .constraintAddress
    require (stakeTokenAccount = s.settings.stakeTokenAccount) .constraintAddress
    splTransfer s protocolTokenAccount stakeTokenAccount env.arioConfig amount
  else return s

/-- Distribute the rewards of an epoch to the next batch of gateways. Anyone may call it. An
epoch without observations pays nothing and is complete at once. -/
def distributeEpoch (env : Env) (clock : ℤ) (index : ℕ) (protocolTokenAccount
    stakeTokenAccount : Pubkey) (remaining : List AccountMeta) (s : State) :
    Except GarError State := do
  let epochSettings ← loadEpochSettings s
  let epoch ← loadEpoch s index
  checkProtocolTokenAccount s protocolTokenAccount
  checkStakeTokenAccount s stakeTokenAccount
  require (epoch.prescriptionsDone ≠ 0) .prescriptionsNotDone
  require (epoch.endTimestamp ≤ clock) .epochInProgress
  require (epoch.rewardsDistributed = 0) .rewardsAlreadyDistributed
  if epoch.observationsSubmitted = 0 ∧ epoch.distributionIndex = 0 then
    return s.setEpoch index (some { epoch with
      distributionIndex := epoch.activeGatewayCount
      rewardsDistributed := 1 })
  else do
    let batch ← scanBatch s epoch epochSettings.missedObservationPenaltyRate remaining
      { distIdx := epoch.distributionIndex }
    let available := s.tokens.balance protocolTokenAccount
    let transferAmount := min batch.totalReward available
    let payout ← payBatch batch.totalReward transferAmount batch.pending { state := s }
    -- an orphaned delegate pool stays in the treasury
    let released := saturatingSub transferAmount payout.orphaned
    let s ← releaseTreasuryToRecipient env protocolTokenAccount stakeTokenAccount released
      payout.state
    let s := s.setEpoch index (some { epoch with
      distributionIndex := batch.distIdx
      rewardsDistributed :=
        if epoch.activeGatewayCount ≤ batch.distIdx then 1 else epoch.rewardsDistributed })
    let totalStaked ← addNonzero s.settings.totalStaked payout.operatorRewards
    return { s with settings := { s.settings with totalStaked } }

end Gar
end ArioSolana
