import ArioSolana.Borsh
import ArioSolana.GarState

/-!
# Epochs

The instructions of `epoch.rs`. An epoch is created once the epoch before it is finished; its
gateways are tallied in batches, which caches a weight in each registry slot; then observers
are drawn by a weighted roulette and the rewards per gateway and per observer are fixed. Once
distributed and retained long enough, the epoch is closed.
-/

namespace ArioSolana
namespace Gar

open Checked Solana
open Borsh (leBytes)

/-- The epoch settings account. -/
def loadEpochSettings (s : State) : Except GarError EpochSettings :=
  okOr s.epochSettings .accountNotInitialized

/-- The epoch account of an index. -/
def loadEpoch (s : State) (index : ℕ) : Except GarError Epoch :=
  okOr (s.epochs index) .accountNotInitialized

/-- The epoch settings, for their authority. -/
def loadOwnEpochSettings (s : State) (authority : Pubkey) : Except GarError EpochSettings := do
  let settings ← loadEpochSettings s
  require (settings.authority = authority) .unauthorized
  return settings

/-- The `w`-bit word as a signed number. -/
def toSigned (w a : ℕ) : ℤ :=
  if a % 2 ^ w < 2 ^ (w - 1) then (a % 2 ^ w : ℕ) else (a % 2 ^ w : ℕ) - 2 ^ w

/-! ### Settings -/

structure InitializeEpochParams where
  authority : Pubkey
  epochDuration : ℤ
  observerCount : ℕ
  nameCount : ℕ
  tenureWeightDuration : ℤ
  maxTenureWeight : ℕ

def initializeEpochs (env : Env) (clock : ℤ) (payer : Pubkey) (params : InitializeEpochParams)
    (s : State) : Except GarError State := do
  requireAbsent s.epochSettings
  require (env.upgradeAuthority = some payer) .unauthorized
  require (0 < params.tenureWeightDuration) .invalidParameter
  require (0 < params.maxTenureWeight) .invalidParameter
  return { s with epochSettings := some {
    authority := params.authority
    epochDuration := params.epochDuration
    prescribedObserverCount := params.observerCount
    prescribedNameCount := params.nameCount
    enabled := false
    currentEpochIndex := 0
    genesisTimestamp := clock
    tenureWeightDuration := params.tenureWeightDuration
    maxTenureWeight := params.maxTenureWeight
    gatewayRewardRatio := gatewayOperatorRewardRate
    observerRewardRatio := observerRewardRate
    missedObservationPenaltyRate := missedObservationPenalty
    maxRewardRate := maxRewardRate
    minRewardRate := minRewardRate
    rewardDecayStartEpoch := rewardDecayStartEpoch
    rewardDecayLastEpoch := rewardDecayLastEpoch
    maxConsecutiveFailures := 30
    disableAt := 0 } }

/-- Enabling is instant, disabling is scheduled. -/
def setEpochsEnabled (clock : ℤ) (authority : Pubkey) (enabled : Bool) (s : State) :
    Except GarError State := do
  let settings ← loadOwnEpochSettings s authority
  if enabled then
    return { s with epochSettings := some { settings with enabled := true, disableAt := 0 } }
  else
    let disableAt ← addTime clock EpochSettings.epochDisableDelay
    return { s with epochSettings := some { settings with disableAt } }

def adminSetEpochDuration (clock : ℤ) (authority : Pubkey) (newDuration : ℤ) (s : State) :
    Except GarError State := do
  let settings ← loadOwnEpochSettings s authority
  require (60 ≤ newDuration) .invalidParameter
  let span ← okOr (checkedMulSigned 64 (toSigned 64 settings.currentEpochIndex) newDuration)
    .arithmeticOverflow
  let newGenesis ← okOr (checkedSubSigned 64 clock span) .arithmeticOverflow
  return { s with epochSettings := some { settings with
    epochDuration := newDuration
    genesisTimestamp := newGenesis } }

def adminSetTenureWeight (authority : Pubkey) (tenureWeightDuration : ℤ) (maxTenureWeight : ℕ)
    (s : State) : Except GarError State := do
  let settings ← loadOwnEpochSettings s authority
  require (0 < tenureWeightDuration) .invalidParameter
  require (0 < maxTenureWeight) .invalidParameter
  return { s with epochSettings := some { settings with tenureWeightDuration, maxTenureWeight } }

def adminSetRewardRatios (authority : Pubkey) (gatewayRewardRatio observerRewardRatio : ℕ)
    (s : State) : Except GarError State := do
  let settings ← loadOwnEpochSettings s authority
  require (gatewayRewardRatio ≤ rateScale) .invalidParameter
  require (observerRewardRatio ≤ rateScale) .invalidParameter
  require (minRewardRatio ≤ gatewayRewardRatio ∧ gatewayRewardRatio ≤ maxRewardRatio)
    .invalidParameter
  require (minRewardRatio ≤ observerRewardRatio ∧ observerRewardRatio ≤ maxRewardRatio)
    .invalidParameter
  let sum ← add64 gatewayRewardRatio observerRewardRatio
  require (sum = rateScale) .invalidParameter
  return { s with epochSettings := some { settings with
    gatewayRewardRatio
    observerRewardRatio } }

/-- One-shot: continue the epoch numbering of the network's previous home. -/
def adminSetCurrentEpochIndex (clock : ℤ) (authority : Pubkey) (newIndex : ℕ) (s : State) :
    Except GarError State := do
  let settings ← loadOwnEpochSettings s authority
  require (0 < newIndex) .invalidParameter
  require (newIndex ≤ 100000) .invalidParameter
  require (¬ settings.enabled) .epochsAlreadyEnabled
  require (settings.currentEpochIndex = 0) .epochCounterAlreadyAdvanced
  let span ← okOr (checkedMulSigned 64 (toSigned 64 newIndex) settings.epochDuration)
    .arithmeticOverflow
  let newGenesis ← okOr (checkedSubSigned 64 clock span) .arithmeticOverflow
  return { s with epochSettings := some { settings with
    currentEpochIndex := newIndex
    genesisTimestamp := newGenesis } }

def closeEpochSettings (authority : Pubkey) (s : State) : Except GarError State := do
  let _ ← loadOwnEpochSettings s authority
  return { s with epochSettings := none }

def transferEpochSettingsAuthority (authority newAuthority : Pubkey) (s : State) :
    Except GarError State := do
  let settings ← loadOwnEpochSettings s authority
  require (newAuthority ≠ Pubkey.default) .invalidParameter
  return { s with epochSettings := some { settings with authority := newAuthority } }

/-! ### Creation -/

/-- The latest epoch is distributed, or was written off, or never existed. The caller passes
its account. -/
def requireLatestEpochFinished (currentEpochIndex : ℕ) (remaining : List AccountMeta)
    (s : State) : Except GarError Unit :=
  match currentEpochIndex with
  | 0 => return
  | latestIndex + 1 => do
    let _ ← okOr (remaining.find? (·.address = .epoch latestIndex)) .missingLatestEpochAccount
    match s.epochs latestIndex with
    | none => return
    | some latest => require (latest.rewardsDistributed = 1) .latestEpochUnfinished

/-- The reward rate of an epoch: it decays linearly from the maximum to the minimum. -/
def computeRewardRate (epochIndex maxRate minRate decayStart decayLast : ℕ) : ℕ :=
  if epochIndex < decayStart then maxRate
  else if decayLast < epochIndex then minRate
  else
    let totalDecayPeriod := decayLast - decayStart
    let epochsDecayed := epochIndex - decayStart
    let rateRange := saturatingSub maxRate minRate
    let product := (checkedMul 128 rateRange epochsDecayed).getD 0
    let decay := truncate 64 ((checkedDiv product totalDecayPeriod).getD 0)
    saturatingSub maxRate decay

/-- What a fresh epoch account holds. -/
def Epoch.zeroed : Epoch where
  epochIndex := 0
  startTimestamp := 0
  endTimestamp := 0
  totalEligibleRewards := 0
  perGatewayReward := 0
  perObserverReward := 0
  rewardRate := 0
  totalCompositeWeight := 0
  hashchain := 0
  activeGatewayCount := 0
  distributionIndex := 0
  tallyIndex := 0
  observerCount := 0
  nameCount := 0
  observationsSubmitted := 0
  rewardsDistributed := 0
  weightsTallied := 0
  prescriptionsDone := 0
  observationsClosed := 0
  failureCounts := fun _ => 0
  prescribedObservers := fun _ => Pubkey.default
  prescribedObserverGateways := fun _ => Pubkey.default
  prescribedNames := fun _ => 0
  hasObserved := 0
  hasRentReceipt := 0

/-- Create the next epoch. Anyone may call it. -/
def createEpoch (env : Env) (clock : Clock) (payer protocolTokenAccount : Pubkey)
    (remaining : List AccountMeta) (s : State) : Except GarError State := do
  let settings ← loadEpochSettings s
  requireAbsent (s.epochs settings.currentEpochIndex)
  checkProtocolTokenAccount s protocolTokenAccount
  require settings.enabled .epochsNotEnabled
  require (¬ (0 < settings.disableAt ∧ settings.disableAt ≤ clock.unixTimestamp))
    .epochsNotEnabled
  let index := settings.currentEpochIndex
  let span ← okOr (checkedMulSigned 64 (toSigned 64 index) settings.epochDuration)
    .arithmeticOverflow
  let epochStart ← addTime settings.genesisTimestamp span
  require (epochStart ≤ clock.unixTimestamp) .epochNotStarted
  requireLatestEpochFinished index remaining s
  let rewardRate := computeRewardRate index settings.maxRewardRate settings.minRewardRate
    settings.rewardDecayStartEpoch settings.rewardDecayLastEpoch
  let hashInput := leBytes 8 clock.slot ++ leBytes 8 index
    ++ leBytes 8 (clock.unixTimestamp % 2 ^ 64).toNat
  let protocolBalance := s.tokens.balance protocolTokenAccount
  let totalEligible := truncate 64
    ((checkedDiv ((checkedMul 128 protocolBalance rewardRate).getD 0) rateScale).getD 0)
  let receipt := remaining.find? (·.address = .epochRentReceipt index)
  let epochEnd ← addTime epochStart settings.epochDuration
  let s := s.setEpoch index (some { Epoch.zeroed with
    epochIndex := index
    startTimestamp := epochStart
    endTimestamp := epochEnd
    totalEligibleRewards := totalEligible
    rewardRate
    activeGatewayCount := s.registry.count
    hashchain := env.hash hashInput
    hasRentReceipt := if receipt.isSome then 1 else 0 })
  let s ← match receipt with
    | none => pure s
    | some info => do
      require ((s.epochRentReceipts index).isNone) .invalidEpochRentReceipt
      require info.isWritable .readonlyDataModified
      pure (s.setReceipt index (some ⟨payer⟩))
  let currentEpochIndex ← add64 index 1
  return { s with epochSettings := some { settings with currentEpochIndex } }

/-! ### Tally -/

/-- The gateway's weights. -/
def GatewayWeights.compute (totalStake minOperatorStake : ℕ)
    (startTimestamp currentTimestamp tenureWeightDuration : ℤ) (maxTenureWeight : ℕ)
    (stats : GatewayStats) (rateScale : ℕ) : Except GarError GatewayWeights := do
  let scale := rateScale
  let stakeWeight :=
    if 0 < minOperatorStake then truncate 64 (totalStake * scale / minOperatorStake)
    else truncate 64 scale
  let timeRunning ←
    if startTimestamp ≤ currentTimestamp then
      okOr (checkedSubSigned 64 currentTimestamp startTimestamp) .panicked
    else pure 0
  let tenureWeight :=
    if 0 < tenureWeightDuration ∧ 0 < timeRunning then
      let tw := timeRunning.toNat * scale / tenureWeightDuration.toNat
      let maxTw := maxTenureWeight * scale
      truncate 64 (min tw maxTw)
    else if timeRunning = 0 ∧ 0 < tenureWeightDuration then
      truncate 64 (scale / tenureWeightDuration.toNat)
    else 0
  let gatewayPerformanceRatio :=
    truncate 64 ((1 + stats.passedEpochs) * scale / (1 + stats.totalEpochs))
  let observerPerformanceRatio :=
    truncate 64 ((1 + stats.observedEpochs) * scale / (1 + stats.prescribedEpochs))
  let product := (checkedMul 128 stakeWeight tenureWeight).getD 0
  let product := (checkedMul 128 product gatewayPerformanceRatio).getD 0
  let product := (checkedMul 128 product observerPerformanceRatio).getD 0
  let scaleCubed := saturatingMul 128 (saturatingMul 128 scale scale) scale
  let w := (checkedDiv product scaleCubed).getD 0
  let compositeWeight := (tryFrom 64 w).getD (2 ^ 64 - 1)
  return {
    stakeWeight
    tenureWeight
    gatewayPerformanceRatio
    observerPerformanceRatio
    compositeWeight }

/-- Total stake, operator plus delegated. -/
def Gateway.totalStake (gateway : Gateway) : ℕ :=
  saturatingAdd 64 gateway.operatorStake gateway.totalDelegatedStake

/-- The registry with slot `i` replaced. -/
def GatewayRegistry.setSlot (registry : GatewayRegistry) (i : ℕ) (slot : GatewaySlot) :
    GatewayRegistry :=
  { registry with gateways := Function.update registry.gateways i slot }

/-- The gateway at an extra account, which has to be the one in slot `i`. -/
def loadSlotGateway (s : State) (registry : GatewayRegistry) (i : ℕ) (info : AccountMeta) :
    Except GarError Gateway :=
  match info.address with
  | .gateway operator => do
    let gateway ← okOr (s.gateways operator) .invalidGatewayAccount
    require (gateway.operator = operator) .invalidGatewayAccount
    require ((registry.gateways i).address = gateway.operator) .invalidGatewayAccount
    return gateway
  | _ => throw .invalidGatewayAccount

/-- The gateway's account after its weights were computed for an epoch. A staged reward share
takes effect now. -/
def Gateway.stampWeights (gateway : Gateway) (weights : GatewayWeights) (epochIndex : ℕ) :
    Gateway :=
  { gateway with
    weights := { weights with weightsEpoch := epochIndex }
    settings := { gateway.settings with
      delegateRewardShareRatio := gateway.settings.pendingDelegateRewardShareRatio.getD
        gateway.settings.delegateRewardShareRatio
      pendingDelegateRewardShareRatio := none } }

/-- Tally the gateway in slot `i`. -/
def tallySlot (settings : EpochSettings) (epoch : Epoch) (i : ℕ) (info : AccountMeta)
    (s : State) : Except GarError (State × Epoch) := do
  require (i < GatewayRegistry.maxGateways) .panicked
  let slot := s.registry.gateways i
  let cleared := s.registry.setSlot i { slot with compositeWeight := 0, delegatedAtTally := 0 }
  let advanced := { epoch with tallyIndex := i + 1 }
  if slot.address = Pubkey.default then
    return ({ s with registry := cleared }, advanced)
  else
    let gateway ← loadSlotGateway s s.registry i info
    if gateway.status ≠ .joined then
      return ({ s with registry := cleared }, advanced)
    else
      let weights ← GatewayWeights.compute gateway.totalStake s.settings.minOperatorStake
        gateway.startTimestamp epoch.startTimestamp settings.tenureWeightDuration
        settings.maxTenureWeight gateway.stats rateScale
      -- gateways that joined after the epoch started are not in it
      let effectiveComposite :=
        if epoch.startTimestamp < gateway.startTimestamp then 0 else weights.compositeWeight
      let registry := s.registry.setSlot i { slot with
        compositeWeight := effectiveComposite
        delegatedAtTally := if 0 < gateway.totalDelegatedStake then 1 else 0 }
      let stamped := gateway.stampWeights weights epoch.epochIndex
      require (info.isWritable ∨ stamped = gateway) .readonlyDataModified
      let s := s.setGateway gateway.operator (some stamped)
      return ({ s with registry }, { advanced with
        totalCompositeWeight := saturatingAdd 128 epoch.totalCompositeWeight effectiveComposite })

/-- Tally a batch of gateways, in registry order. -/
def tallyBatch (settings : EpochSettings) :
    List AccountMeta → State × Epoch → Except GarError (State × Epoch)
  | [], acc => return acc
  | info :: rest, (s, epoch) =>
    if epoch.tallyIndex < epoch.activeGatewayCount then do
      let acc ← tallySlot settings epoch epoch.tallyIndex info s
      tallyBatch settings rest acc
    else return (s, epoch)

/-- Tally weights for gateways in batches. Anyone may call it, for the live epoch only. -/
def tallyWeights (index : ℕ) (remaining : List AccountMeta) (s : State) :
    Except GarError State := do
  let settings ← loadEpochSettings s
  let epoch ← loadEpoch s index
  require (epoch.weightsTallied = 0) .weightsAlreadyTallied
  let liveEpochIndex ← okOr (checkedSub settings.currentEpochIndex 1) .invalidParameter
  require (epoch.epochIndex = liveEpochIndex) .epochNoLongerLive
  let (s, epoch) ← tallyBatch settings remaining (s, epoch)
  return s.setEpoch index (some { epoch with
    weightsTallied :=
      if epoch.activeGatewayCount ≤ epoch.tallyIndex then 1 else epoch.weightsTallied })

/-! ### Closing -/

/-- Close a distributed epoch whose retention is over and whose observations are closed. An
epoch with a rent receipt is closed together with the receipt, and the rent of both goes to the
recorded creator. -/
def closeEpoch (index : ℕ) (remaining : List AccountMeta) (s : State) : Except GarError State := do
  let settings ← loadEpochSettings s
  let epoch ← loadEpoch s index
  require (epoch.rewardsDistributed ≠ 0) .epochNotCloseable
  require (saturatingAdd 64 epoch.epochIndex 7 ≤ settings.currentEpochIndex) .epochNotCloseable
  require (epoch.observationsClosed = epoch.observationsSubmitted) .epochObservationsNotClosed
  if epoch.hasRentReceipt ≠ 0 then
    let receiptInfo ← okOr remaining[0]? .missingEpochRentReceipt
    let creatorInfo ← okOr remaining[1]? .missingEpochRentReceipt
    require (receiptInfo.isWritable ∧ creatorInfo.isWritable) .missingEpochRentReceipt
    require (receiptInfo.address = .epochRentReceipt epoch.epochIndex) .invalidEpochRentReceipt
    let receipt ← okOr (s.epochRentReceipts epoch.epochIndex) .invalidEpochRentReceipt
    require (creatorInfo.address = .other receipt.creator) .wrongEpochCreator
    return (s.setEpoch index none).setReceipt epoch.epochIndex none
  else
    return s.setEpoch index none

/-- Write off an epoch that has ended and was not distributed. -/
def adminCloseStaleEpoch (clock : ℤ) (authority : Pubkey) (index : ℕ) (s : State) :
    Except GarError State := do
  let _ ← loadOwnEpochSettings s authority
  let epoch ← loadEpoch s index
  require (epoch.endTimestamp ≤ clock) .epochInProgress
  require (epoch.rewardsDistributed = 0) .rewardsAlreadyDistributed
  return s.setEpoch index none

/-- Close the rent receipt of an epoch that is gone. -/
def adminCloseOrphanedEpochRentReceipt (authority : Pubkey) (index : ℕ) (s : State) :
    Except GarError State := do
  let _ ← loadOwnEpochSettings s authority
  require ((s.epochs index).isNone) .epochStillExists
  let _ ← okOr (s.epochRentReceipts index) .accountNotInitialized
  return s.setReceipt index none

end Gar
end ArioSolana
