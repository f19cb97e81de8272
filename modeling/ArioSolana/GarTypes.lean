import ArioSolana.AnchorAccounts
import ArioSolana.Solana

/-!
# The accounts of the gateway registry program

The records below are the program's account types, field by field, without the discriminators,
bumps and padding that no instruction logic reads. Amounts and counters are natural numbers;
the instructions test the word sizes where the program does. Timestamps are integers. Strings
are their bytes.

A delegation, a withdrawal, a lookup and so on live at addresses derived from their seeds, so
the address of an account is a constructor applied to the seeds. Addresses that are not derived
from a seed of this program are `Address.other`.
-/

namespace ArioSolana
namespace Gar

open Solana
open Anchor (SchemaVersion)

/-! ### Errors -/

/-- The program's error codes that the modelled instructions can return, and after them the
failures of the framework, the runtime and the token program. -/
inductive GarError where
  | gatewayNotJoined
  | gatewayLeaving
  | registryFull
  | invalidFqdn
  | invalidLabel
  | invalidRewardShare
  | insufficientStake
  | stakeBelowMinimum
  | mustLeaveFirst
  | invalidAmount
  | delegationNotAllowed
  | delegationBelowMinimum
  | delegateNotAllowed
  | delegationNotFound
  | redelegateSameGateway
  | cannotDelegateToSelf
  | withdrawalNotReady
  | invalidWithdrawalAmount
  | notOperator
  | notDelegator
  | invalidOwner
  | unauthorized
  | arithmeticOverflow
  | arithmeticUnderflow
  | invalidParameter
  | epochsNotEnabled
  | epochsAlreadyEnabled
  | epochCounterAlreadyAdvanced
  | epochNotStarted
  | epochEnded
  | epochInProgress
  | notPrescribedObserver
  | alreadyObserved
  | rewardsAlreadyDistributed
  | distributionIncomplete
  | invalidObservation
  | gatewayNotEligible
  | epochAlreadyExists
  | noObserversAvailable
  | invalidEpochIndex
  | weightsAlreadyTallied
  | weightsNotTallied
  | invalidGatewayAccount
  | prescriptionsNotDone
  | prescriptionsAlreadyDone
  | invalidNameRegistry
  | epochNotCloseable
  | invalidAccountData
  | invalidPda
  | insufficientDelegationForPayment
  | insufficientOperatorStakeForPayment
  | insufficientWithdrawalForPayment
  | withdrawalNotDrained
  | emptyFundingPlan
  | tooManyFundingSources
  | fundingPlanAmountMismatch
  | zeroFundingSourceAmount
  | missingGatewayForFundingSource
  | missingPayerTokenAccountForFundingSource
  | missingFundingSourceAccount
  | extraneousFundingSourceAccount
  | onlyOneOperatorStakeSource
  | tooManyDelegationSources
  | duplicateGatewayInSources
  | mismatchedResidueVaultCount
  | missingResidueVault
  | gatewayNotLeaving
  | leaveWindowNotExpired
  | delegationsOutstanding
  | epochObservationsNotClosed
  | protectedVault
  | missingExcessWithdrawal
  | invalidExcessWithdrawalPda
  | alreadyLatestVersion
  | unknownSchemaVersion
  | delegatesStillActive
  | delegationCooldownActive
  | delegationNotDisabled
  | wrongObserverAccount
  | missingEpochRentReceipt
  | invalidEpochRentReceipt
  | wrongEpochCreator
  | epochStillExists
  | epochWeightsClobbered
  | epochNoLongerLive
  | notGatewayAuthority
  | gatewayNotMigrated
  | latestEpochUnfinished
  | missingLatestEpochAccount
  | staleDelegatedStakeCounter
  | delegationReconcileMismatch
  | duplicateDelegationAccount
  | invalidDelegationAccount
  | staleSupplyCounters
  /-- the account does not exist, or is not of the expected type -/
  | accountNotInitialized
  /-- an account to be created exists already -/
  | accountAlreadyInUse
  | constraintRaw
  | constraintSeeds
  | constraintHasOne
  | constraintAddress
  | missingRequiredSignature
  | readonlyDataModified
  /-- the program aborted: an overflow, a division by zero or an index out of range -/
  | panicked
  | spl (e : SplError)
deriving DecidableEq

/-! ### Constants -/

/-- Precision of the reward-per-share accumulator. -/
def rewardPrecision : ℕ := 1000000000000000000

def maxFundingSources : ℕ := 5
def maxDelegationSources : ℕ := 3

def rateScale : ℕ := 1000000
def withdrawalLockPeriod : ℤ := 30 * 86400
def gatewayLeavePeriod : ℤ := 90 * 86400
def maxExpeditedWithdrawalPenalty : ℕ := 500000
def minExpeditedWithdrawalPenalty : ℕ := 100000
def minExpeditedWithdrawalAmount : ℕ := 1000000
def maxDelegateRewardShare : ℕ := 9500
def gatewayOperatorRewardRate : ℕ := 900000
def observerRewardRate : ℕ := 100000
def maxRewardRate : ℕ := 1000
def minRewardRate : ℕ := 500
def rewardDecayStartEpoch : ℕ := 365
def rewardDecayLastEpoch : ℕ := 547
def missedObservationPenalty : ℕ := 250000
def minRewardRatio : ℕ := 100000
def maxRewardRatio : ℕ := 900000

/-! ### Versions -/

def gatewayVersion : SchemaVersion := ⟨1, 2, 0⟩

/-- The first version in which `operationsAddress` was written by the program. -/
def operationsAddressSince : SchemaVersion := ⟨1, 2, 0⟩

/-! ### Settings and registry -/

/-- Global gateway settings. -/
structure GatewaySettings where
  authority : Pubkey
  mint : Pubkey
  minOperatorStake : ℕ
  minDelegateStake : ℕ
  withdrawalPeriod : ℤ
  maxExpeditedWithdrawalPenalty : ℕ
  minExpeditedWithdrawalPenalty : ℕ
  minExpeditedWithdrawalAmount : ℕ
  migrationActive : Bool
  migrationAuthority : Pubkey
  stakeTokenAccount : Pubkey
  protocolTokenAccount : Pubkey
  arnsProgramId : Pubkey
  /-- aggregate supply counters, updated at every staking mutation -/
  totalStaked : ℕ
  totalDelegated : ℕ
  totalWithdrawn : ℕ

/-- An entry of the gateway registry. -/
structure GatewaySlot where
  address : Pubkey
  compositeWeight : ℕ
  startTimestamp : ℤ
  status : ℕ
  /-- 1 when the gateway carried delegated stake as its weight was tallied -/
  delegatedAtTally : ℕ
deriving DecidableEq

namespace GatewaySlot

def statusJoined : ℕ := 0
def statusLeaving : ℕ := 1
def statusGone : ℕ := 2

/-- What an unused slot holds. -/
def zeroed : GatewaySlot := ⟨Pubkey.default, 0, 0, statusJoined, 0⟩

end GatewaySlot

/-- The gateway registry: `count` slots in use, of `maxGateways`. -/
structure GatewayRegistry where
  count : ℕ
  gateways : ℕ → GatewaySlot

def GatewayRegistry.maxGateways : ℕ := 3000

/-! ### Gateways -/

inductive Protocol where
  | http
  | https
deriving DecidableEq

inductive GatewayStatus where
  | joined
  | leaving
  | gone
deriving DecidableEq

structure GatewayStats where
  passedEpochs : ℕ := 0
  failedEpochs : ℕ := 0
  totalEpochs : ℕ := 0
  prescribedEpochs : ℕ := 0
  observedEpochs : ℕ := 0
  failedConsecutive : ℕ := 0
  passedConsecutive : ℕ := 0
deriving DecidableEq

/-- Gateway-specific settings. -/
structure GatewaySettings2 where
  allowDelegatedStaking : Bool
  delegateRewardShareRatio : ℕ
  minDelegationAmount : ℕ
  allowlistEnabled : Bool
  /-- a ratio change staged until the next tally -/
  pendingDelegateRewardShareRatio : Option ℕ
  /-- when the operator disabled delegated staking -/
  delegationDisabledAt : Option ℤ
deriving DecidableEq

/-- Gateway weights, scaled by `rateScale`. -/
structure GatewayWeights where
  stakeWeight : ℕ := 0
  tenureWeight : ℕ := 0
  gatewayPerformanceRatio : ℕ := 0
  observerPerformanceRatio : ℕ := 0
  compositeWeight : ℕ := 0
  normalizedCompositeWeight : ℕ := 0
  /-- the epoch the weights were computed in -/
  weightsEpoch : ℕ := 0
deriving DecidableEq

structure Gateway where
  operator : Pubkey
  label : List UInt8
  fqdn : List UInt8
  port : ℕ
  protocol : Protocol
  properties : List UInt8
  note : List UInt8
  operatorStake : ℕ
  totalDelegatedStake : ℕ
  status : GatewayStatus
  startTimestamp : ℤ
  leaveTimestamp : Option ℤ
  leaveEpochDuration : ℤ
  stats : GatewayStats
  weights : GatewayWeights
  settings : GatewaySettings2
  /-- the gateway's position in the registry -/
  registryIndex : ℕ
  observerAddress : Pubkey
  cumulativeRewardPerToken : ℕ
  version : SchemaVersion
  operationsAddress : Pubkey
deriving DecidableEq

/-! ### Delegations and withdrawals -/

structure Delegation where
  gateway : Pubkey
  delegator : Pubkey
  /-- the principal at the last settlement -/
  amount : ℕ
  startTimestamp : ℤ
  /-- the gateway's accumulator at the last settlement -/
  rewardDebt : ℕ
deriving DecidableEq

/-- The name of a withdrawal among those of its owner: a `u64`. -/
abbrev WithdrawalId := Fin (2 ^ 64)

/-- The next withdrawal id of an owner. -/
structure WithdrawalCounter where
  owner : Pubkey
  nextId : WithdrawalId

structure Withdrawal where
  owner : Pubkey
  withdrawalId : WithdrawalId
  gateway : Pubkey
  amount : ℕ
  createdAt : ℤ
  availableAt : ℤ
  isDelegate : Bool
  /-- created by leaving or by being pruned -/
  isExitVault : Bool
  /-- the operator's minimum stake of an exit -/
  isProtected : Bool
deriving DecidableEq

structure AllowlistEntry where
  gateway : Pubkey
  delegate : Pubkey
  addedAt : ℤ

/-- The gateway that uses an observer address. -/
structure ObserverLookup where
  gateway : Pubkey

structure RedelegationRecord where
  delegator : Pubkey
  redelegationCount : ℕ
  lastRedelegationAt : ℤ
  feeResetAt : ℤ

/-- Seven days. -/
def RedelegationRecord.feeResetInterval : ℤ := 7 * 86400

/-! ### Epochs -/

/-- Global epoch settings. -/
structure EpochSettings where
  authority : Pubkey
  epochDuration : ℤ
  prescribedObserverCount : ℕ
  prescribedNameCount : ℕ
  enabled : Bool
  currentEpochIndex : ℕ
  genesisTimestamp : ℤ
  tenureWeightDuration : ℤ
  maxTenureWeight : ℕ
  gatewayRewardRatio : ℕ
  observerRewardRatio : ℕ
  missedObservationPenaltyRate : ℕ
  maxRewardRate : ℕ
  minRewardRate : ℕ
  rewardDecayStartEpoch : ℕ
  rewardDecayLastEpoch : ℕ
  maxConsecutiveFailures : ℕ
  /-- when epochs become disabled, 0 when no disabling is pending -/
  disableAt : ℤ

/-- Seven days. -/
def EpochSettings.epochDisableDelay : ℤ := 7 * 24 * 60 * 60

/-- A hash of 32 bytes, as the number its bytes spell, least significant byte first. -/
abbrev Hash := Fin (2 ^ 256)

/-- The state of one epoch, with its prescriptions and failure tallies. -/
structure Epoch where
  epochIndex : ℕ
  startTimestamp : ℤ
  endTimestamp : ℤ
  totalEligibleRewards : ℕ
  perGatewayReward : ℕ
  perObserverReward : ℕ
  rewardRate : ℕ
  totalCompositeWeight : ℕ
  hashchain : Hash
  activeGatewayCount : ℕ
  distributionIndex : ℕ
  tallyIndex : ℕ
  observerCount : ℕ
  nameCount : ℕ
  observationsSubmitted : ℕ
  rewardsDistributed : ℕ
  weightsTallied : ℕ
  prescriptionsDone : ℕ
  observationsClosed : ℕ
  /-- failed reports per registry slot, 3000 of them -/
  failureCounts : ℕ → ℕ
  /-- 50 of them -/
  prescribedObservers : ℕ → Pubkey
  prescribedObserverGateways : ℕ → Pubkey
  /-- 2 of them -/
  prescribedNames : ℕ → Hash
  /-- bit `i` is set when prescribed observer `i` has submitted -/
  hasObserved : BitVec 56
  hasRentReceipt : ℕ

/-- Which account funded an epoch's rent. -/
structure EpochRentReceipt where
  creator : Pubkey

structure Observation where
  epochIndex : ℕ
  observer : Pubkey
  /-- bit `i` is set when the gateway in slot `i` passed -/
  gatewayResults : BitVec 3000
  gatewayCount : ℕ
  reportTxId : Hash
  submittedAt : ℤ

/-! ### Addresses -/

/-- The address of an account: the seeds it is derived from, or a key of another kind. -/
inductive Address where
  | settings
  | registry
  | epochSettings
  | gateway (operator : Pubkey)
  | delegation (gateway delegator : Pubkey)
  | withdrawalCounter (owner : Pubkey)
  | withdrawal (owner : Pubkey) (id : WithdrawalId)
  | allowlist (gateway delegate : Pubkey)
  | observerLookup (observer : Pubkey)
  | redelegation (delegator : Pubkey)
  | epoch (index : ℕ)
  | epochRentReceipt (index : ℕ)
  | observation (index : ℕ) (observer : Pubkey)
  | other (key : Pubkey)
deriving DecidableEq

/-- An account the caller passed beyond the named ones. -/
structure AccountMeta where
  address : Address
  isWritable : Bool
deriving DecidableEq

end Gar
end ArioSolana
