import ArioSolana.GarState

/-!
# Delegated stake

The instructions of `delegate.rs`. A delegation records the principal at its last settlement;
every instruction that touches a delegation settles it first, so that rewards distributed since
then become principal. The settled amount raises the gateway's counter and the supply counter
of the settings together.
-/

namespace ArioSolana
namespace Gar

open Checked Solana

/-! ### Settlement -/

/-- `amount * delta / rewardPrecision`, computed in 128 bits. When the product does not fit,
quotient and remainder of `delta` are multiplied apart. -/
def pendingRewards (amount delta : ℕ) : ℕ :=
  ((checkedMul 128 amount delta).map (· / rewardPrecision)).getD
    (let quot := delta / rewardPrecision
     let rem := delta % rewardPrecision
     let fromQuot := saturatingMul 128 amount quot
     let fromRem := saturatingMul 128 amount rem / rewardPrecision
     saturatingAdd 128 fromQuot fromRem)

/-- A gateway and a delegation after settlement, and the amount that was settled. -/
structure Settlement where
  gateway : Gateway
  delegation : Delegation
  settled : ℕ

/-- Settle pending delegate rewards using the reward-per-share accumulator. -/
def settleDelegateRewards (gateway : Gateway) (delegation : Delegation) : Settlement :=
  let settled :=
    if 0 < delegation.amount ∧ delegation.rewardDebt < gateway.cumulativeRewardPerToken then
      let delta := gateway.cumulativeRewardPerToken - delegation.rewardDebt
      (tryFrom 64 (pendingRewards delegation.amount delta)).getD (2 ^ 64 - 1)
    else 0
  -- a zero settlement leaves the saturating sums where they are
  { gateway := { gateway with
      totalDelegatedStake :=
        if 0 < settled then saturatingAdd 64 gateway.totalDelegatedStake settled
        else gateway.totalDelegatedStake }
    delegation := { delegation with
      amount :=
        if 0 < settled then saturatingAdd 64 delegation.amount settled else delegation.amount
      rewardDebt := gateway.cumulativeRewardPerToken }
    settled }

/-- What a delegation account holds right after it is created. -/
def Delegation.zeroed : Delegation := ⟨Pubkey.default, Pubkey.default, 0, 0, 0⟩

/-- The delegation account, created when it is first needed. -/
def loadOrInitDelegation (s : State) (gateway delegator : Pubkey) : Delegation :=
  (s.delegations (gateway, delegator)).getD Delegation.zeroed

/-- The delegate is on the gateway's allowlist: the first extra account is its entry. -/
def HasAllowlistEntry (s : State) (remaining : List AccountMeta) (gateway delegator : Pubkey) :
    Prop :=
  remaining.head?.map (·.address) = some (.allowlist gateway delegator) ∧
    (s.allowlist (gateway, delegator)).isSome

instance (s : State) (remaining : List AccountMeta) (gateway delegator : Pubkey) :
    Decidable (HasAllowlistEntry s remaining gateway delegator) :=
  inferInstanceAs (Decidable (_ ∧ _))

/-! ### Delegating -/

/-- Delegate stake to a gateway. -/
def delegateStake (clock : ℤ) (delegator gatewayKey delegatorTokenAccount
    stakeTokenAccount : Pubkey) (remaining : List AccountMeta) (amount : ℕ) (s : State) :
    Except GarError State := do
  let gateway ← loadGateway s gatewayKey
  let delegation := loadOrInitDelegation s gatewayKey delegator
  checkUserTokenAccount s delegator delegatorTokenAccount
  checkStakeTokenAccount s stakeTokenAccount
  require (0 < amount) .invalidAmount
  require (gateway.settings.allowDelegatedStaking) .delegationNotAllowed
  -- existing delegators are exempt from the gateway's minimum
  require (delegation.amount = 0 → gateway.settings.minDelegationAmount ≤ amount)
    .delegationBelowMinimum
  require (gateway.status = .joined) .gatewayNotJoined
  require (delegator ≠ gateway.operator) .cannotDelegateToSelf
  require (gateway.settings.allowlistEnabled ∧ delegation.amount = 0 →
    HasAllowlistEntry s remaining gateway.operator delegator) .delegateNotAllowed
  let settlement :=
    if 0 < delegation.amount then settleDelegateRewards gateway delegation
    else ⟨gateway, delegation, 0⟩
  let isNew := delegation.amount = 0
  let gateway := settlement.gateway
  let delegation := settlement.delegation
  let s ← splTransfer s delegatorTokenAccount stakeTokenAccount delegator amount
  let newAmount ← add64 delegation.amount amount
  let newTotal ← add64 gateway.totalDelegatedStake amount
  let deposited ← add64 s.settings.totalDelegated amount
  let totalDelegated ← add64 deposited settlement.settled
  let s := s.setGateway gatewayKey (some { gateway with totalDelegatedStake := newTotal })
  let s := s.setDelegation gatewayKey delegator (some {
    gateway := gateway.operator
    delegator
    amount := newAmount
    startTimestamp := if isNew then clock else delegation.startTimestamp
    rewardDebt := if isNew then gateway.cumulativeRewardPerToken else delegation.rewardDebt })
  return { s with settings := { s.settings with totalDelegated } }

/-! ### Withdrawing delegated stake -/

/-- Move `amount` of a settled delegation into a new withdrawal of the delegator. -/
def vaultDelegation (clock : ℤ) (delegator gatewayKey : Pubkey) (settlement : Settlement)
    (amount : ℕ) (s : State) : Except GarError State := do
  let counter := loadCounter s delegator
  requireAbsent (s.withdrawals (delegator, counter.nextId))
  let gateway := settlement.gateway
  let delegation := settlement.delegation
  let availableAt ← addTime clock s.settings.withdrawalPeriod
  let nextId ← counter.nextId.next
  let totalWithdrawn ← add64 s.settings.totalWithdrawn amount
  let totalDelegated :=
    saturatingSub (saturatingAdd 64 s.settings.totalDelegated settlement.settled) amount
  let s := s.setGateway gatewayKey (some { gateway with
    totalDelegatedStake := saturatingSub gateway.totalDelegatedStake amount })
  let s := s.setDelegation gatewayKey delegator (some { delegation with
    amount := delegation.amount - amount })
  let s := s.setCounter delegator { counter with nextId }
  let s := s.setWithdrawal delegator counter.nextId (some {
    owner := delegator
    withdrawalId := counter.nextId
    gateway := gateway.operator
    amount
    createdAt := clock
    availableAt
    isDelegate := true
    isExitVault := false
    isProtected := false })
  return { s with settings := { s.settings with totalDelegated, totalWithdrawn } }

/-- Decrease delegated stake, which creates a withdrawal. -/
def decreaseDelegateStake (clock : ℤ) (delegator gatewayKey : Pubkey) (amount : ℕ) (s : State) :
    Except GarError State := do
  let gateway ← loadGateway s gatewayKey
  let delegation ← loadDelegation s gatewayKey delegator
  require (delegation.delegator = delegator) .notDelegator
  require (0 < amount) .invalidAmount
  let settlement := settleDelegateRewards gateway delegation
  require (amount ≤ settlement.delegation.amount) .insufficientStake
  let remaining := settlement.delegation.amount - amount
  require (remaining = 0 ∨ gateway.settings.minDelegationAmount ≤ remaining)
    .delegationBelowMinimum
  vaultDelegation clock delegator gatewayKey settlement amount s

/-- Claim a delegate's stake from a leaving gateway. Anyone may call it: the stake goes to a
withdrawal of the delegate. -/
def claimDelegateFromLeavingGateway (clock : ℤ) (delegator gatewayKey : Pubkey) (s : State) :
    Except GarError State := do
  let gateway ← loadGateway s gatewayKey
  require (gateway.status = .leaving) .gatewayNotJoined
  let delegation ← loadDelegation s gatewayKey delegator
  require (delegation.delegator = delegator) .notDelegator
  require (0 < delegation.amount) .invalidAmount
  let settlement := settleDelegateRewards gateway delegation
  let amount := settlement.delegation.amount
  require (0 < amount) .invalidAmount
  vaultDelegation clock delegator gatewayKey settlement amount s

/-- Claim a delegate's stake from a gateway that has disabled delegation. -/
def claimDelegateFromDisabledGateway (clock : ℤ) (delegator gatewayKey : Pubkey) (s : State) :
    Except GarError State := do
  let gateway ← loadGateway s gatewayKey
  require (¬ gateway.settings.allowDelegatedStaking) .delegationNotDisabled
  let delegation ← loadDelegation s gatewayKey delegator
  require (delegation.delegator = delegator) .notDelegator
  require (0 < delegation.amount) .invalidAmount
  let settlement := settleDelegateRewards gateway delegation
  let amount := settlement.delegation.amount
  require (0 < amount) .invalidAmount
  vaultDelegation clock delegator gatewayKey settlement amount s

/-- Close a delegation account with zero balance. Anyone may call it. -/
def closeEmptyDelegation (delegator gatewayKey : Pubkey) (s : State) :
    Except GarError State := do
  let gateway ← loadGateway s gatewayKey
  let delegation ← loadDelegation s gatewayKey delegator
  require (delegation.gateway = gatewayKey ∧ delegation.delegator = delegator) .constraintSeeds
  require (delegation.amount = 0) .invalidAmount
  let settlement := settleDelegateRewards gateway delegation
  require (settlement.settled = 0) .invalidParameter
  let s := s.setGateway gatewayKey (some settlement.gateway)
  return s.setDelegation gatewayKey delegator none

/-! ### Redelegation and compounding -/

/-- 10% for each redelegation since the last reset, at most 60%; the first is free. -/
def RedelegationRecord.getFeeRate (record : RedelegationRecord) (currentTimestamp : ℤ) :
    Except GarError ℕ := do
  let count := if record.feeResetAt ≤ currentTimestamp then 0 else record.redelegationCount
  let percent ← okOr (checkedMul 32 10 count) .panicked
  return min percent 60 * rateScale / 100

/-- The redelegation count after another redelegation. -/
def RedelegationRecord.nextCount (record : RedelegationRecord) (currentTimestamp : ℤ) :
    Except GarError ℕ :=
  if record.feeResetAt ≤ currentTimestamp then .ok 1
  else okOr (checkedAdd 32 record.redelegationCount 1) .arithmeticOverflow

/-- The redelegation record, created when it is first needed. -/
def loadOrInitRedelegation (s : State) (delegator : Pubkey) : RedelegationRecord :=
  (s.redelegations delegator).getD ⟨Pubkey.default, 0, 0, 0⟩

/-- Redelegate stake from one gateway to another. The fee goes to the treasury. The delegator's
token account is only looked at: `delegatorTokenAccount` is what its data reads as. -/
def redelegateStake (env : Env) (clock : ℤ) (delegator sourceKey targetKey : Pubkey)
    (delegatorTokenAccount : TokenAccount) (stakeTokenAccount protocolTokenAccount : Pubkey)
    (remaining : List AccountMeta) (amount : ℕ) (s : State) : Except GarError State := do
  let sourceGateway ← loadGateway s sourceKey
  let targetGateway ← loadGateway s targetKey
  let sourceDelegation ← loadDelegation s sourceKey delegator
  require (sourceDelegation.delegator = delegator) .notDelegator
  let targetDelegation := loadOrInitDelegation s targetKey delegator
  let record := loadOrInitRedelegation s delegator
  require (delegatorTokenAccount.owner = delegator) .invalidParameter
  require (delegatorTokenAccount.mint = s.settings.mint) .invalidParameter
  checkStakeTokenAccount s stakeTokenAccount
  checkProtocolTokenAccount s protocolTokenAccount
  require (0 < amount) .invalidAmount
  require (sourceGateway.operator ≠ targetGateway.operator) .redelegateSameGateway
  require (targetGateway.status = .joined) .gatewayNotJoined
  require (targetGateway.settings.allowDelegatedStaking) .delegationNotAllowed
  require (delegator ≠ targetGateway.operator) .cannotDelegateToSelf
  require (targetGateway.settings.allowlistEnabled ∧ targetDelegation.amount = 0 →
    HasAllowlistEntry s remaining targetGateway.operator delegator) .delegateNotAllowed
  let source := settleDelegateRewards sourceGateway sourceDelegation
  let target := settleDelegateRewards targetGateway targetDelegation
  let settled := saturatingAdd 64 source.settled target.settled
  require (amount ≤ source.delegation.amount) .insufficientStake
  let sourceRemaining := source.delegation.amount - amount
  require (sourceRemaining = 0 ∨
    source.gateway.settings.minDelegationAmount ≤ sourceRemaining) .delegationBelowMinimum
  let feeRate ← record.getFeeRate clock
  let scaled ← okOr (checkedMul 128 amount feeRate) .arithmeticOverflow
  let fee := truncate 64 (scaled / rateScale)
  let netAmount := saturatingSub amount fee
  require (0 < netAmount) .invalidAmount
  require (target.delegation.amount = 0 →
    target.gateway.settings.minDelegationAmount ≤ netAmount) .delegationBelowMinimum
  let newTargetAmount ← add64 target.delegation.amount netAmount
  let newTargetTotal ← add64 target.gateway.totalDelegatedStake netAmount
  let s ← splTransferNonzero s stakeTokenAccount protocolTokenAccount env.settingsPda fee
  let redelegationCount ← record.nextCount clock
  let feeResetAt ← addTime clock RedelegationRecord.feeResetInterval
  let totalDelegated :=
    if 0 < settled ∨ 0 < fee then
      saturatingSub (saturatingAdd 64 s.settings.totalDelegated settled) fee
    else s.settings.totalDelegated
  let s := s.setGateway sourceKey (some { source.gateway with
    totalDelegatedStake := saturatingSub source.gateway.totalDelegatedStake amount })
  let s := s.setGateway targetKey (some { target.gateway with
    totalDelegatedStake := newTargetTotal })
  let s := s.setDelegation sourceKey delegator (some { source.delegation with
    amount := sourceRemaining })
  let isNew := target.delegation.startTimestamp = 0
  let s := s.setDelegation targetKey delegator (some {
    gateway := targetGateway.operator
    delegator
    amount := newTargetAmount
    startTimestamp := if isNew then clock else target.delegation.startTimestamp
    rewardDebt :=
      if isNew then targetGateway.cumulativeRewardPerToken else target.delegation.rewardDebt })
  let s := s.setRedelegation delegator {
    delegator
    redelegationCount
    lastRedelegationAt := clock
    feeResetAt }
  return { s with settings := { s.settings with totalDelegated } }

/-- Turn a delegate's pending rewards into principal. Needs no signature. -/
def compoundDelegationRewards (delegator gatewayKey : Pubkey) (s : State) :
    Except GarError State := do
  let gateway ← loadGateway s gatewayKey
  let delegation ← loadDelegation s gatewayKey delegator
  require (delegation.delegator = delegator) .notDelegator
  let settlement := settleDelegateRewards gateway delegation
  let totalDelegated ← addNonzero s.settings.totalDelegated settlement.settled
  let s := s.setGateway gatewayKey (some settlement.gateway)
  let s := s.setDelegation gatewayKey delegator (some settlement.delegation)
  return { s with settings := { s.settings with totalDelegated } }

/-! ### Administration of the counters -/

/-- Sum the principals of the accounts shown, each a delegation to `gateway` at its own address
and none of them twice. -/
def sumDelegations (s : State) (gateway : Pubkey) : List AccountMeta → List Address → ℕ →
    Except GarError ℕ
  | [], _, sum => return sum
  | info :: rest, seen, sum => do
    require (info.address ∉ seen) .duplicateDelegationAccount
    match info.address with
    | .delegation g d => do
      let delegation ← okOr (s.delegations (g, d)) .invalidDelegationAccount
      require (delegation.gateway = gateway) .invalidDelegationAccount
      require (g = gateway ∧ d = delegation.delegator) .invalidDelegationAccount
      let sum ← add64 sum delegation.amount
      sumDelegations s gateway rest (info.address :: seen) sum
    | _ => throw .invalidDelegationAccount

/-- Lower a gateway's delegated-stake counter to the sum of the delegations shown. -/
def adminReconcileDelegatedStake (authority gatewayKey : Pubkey) (remaining : List AccountMeta)
    (expectedCounter expectedRemoved : ℕ) (s : State) : Except GarError State := do
  require (s.settings.authority = authority) .unauthorized
  let gateway ← loadGateway s gatewayKey
  require (gateway.totalDelegatedStake = expectedCounter) .staleDelegatedStakeCounter
  let sum ← sumDelegations s gateway.operator remaining [] 0
  require (0 < expectedRemoved) .delegationReconcileMismatch
  let computedRemoved ← okOr (checkedSub expectedCounter sum) .delegationReconcileMismatch
  require (computedRemoved = expectedRemoved) .delegationReconcileMismatch
  let totalDelegated ←
    okOr (checkedSub s.settings.totalDelegated expectedRemoved) .arithmeticUnderflow
  let s := s.setGateway gatewayKey (some { gateway with totalDelegatedStake := sum })
  return { s with settings := { s.settings with totalDelegated } }

/-- Set two supply counters to audited values. -/
def adminResyncSupplyCounters (authority : Pubkey) (expectedStaked newStaked expectedDelegated
    newDelegated : ℕ) (s : State) : Except GarError State := do
  require (s.settings.authority = authority) .unauthorized
  require (s.settings.totalStaked = expectedStaked ∧
    s.settings.totalDelegated = expectedDelegated) .staleSupplyCounters
  return { s with settings := { s.settings with
    totalStaked := newStaked
    totalDelegated := newDelegated } }

end Gar
end ArioSolana
