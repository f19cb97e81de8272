import ArioSolana.GarDelegate

/-!
# Operator stake and withdrawals

The instructions of `operator_stake.rs` and `withdrawal.rs`. Stake leaves a gateway through a
withdrawal: a vault with a lock, that is claimed when the lock has passed, cashed early at a
penalty, or cancelled back into the gateway.
-/

namespace ArioSolana
namespace Gar

open Checked Solana

/-! ### Operator stake -/

/-- Increase operator stake. -/
def increaseOperatorStake (operator operatorTokenAccount stakeTokenAccount : Pubkey)
    (amount : ℕ) (s : State) : Except GarError State := do
  let gateway ← loadOwnGateway s operator
  checkUserTokenAccount s operator operatorTokenAccount
  checkStakeTokenAccount s stakeTokenAccount
  require (0 < amount) .invalidAmount
  require (gateway.status = .joined) .gatewayLeaving
  let s ← splTransfer s operatorTokenAccount stakeTokenAccount operator amount
  let operatorStake ← add64 gateway.operatorStake amount
  let totalStaked ← add64 s.settings.totalStaked amount
  let s := s.setGateway operator (some { gateway with operatorStake })
  return { s with settings := { s.settings with totalStaked } }

/-- Decrease operator stake, which creates a withdrawal. -/
def decreaseOperatorStake (clock : ℤ) (operator : Pubkey) (amount : ℕ) (s : State) :
    Except GarError State := do
  let gateway ← loadOwnGateway s operator
  let counter := loadCounter s operator
  requireAbsent (s.withdrawals (operator, counter.nextId))
  require (0 < amount) .invalidAmount
  let remaining ← okOr (checkedSub gateway.operatorStake amount) .insufficientStake
  require (s.settings.minOperatorStake ≤ remaining ∨ remaining = 0) .stakeBelowMinimum
  require (remaining = 0 → gateway.status = .leaving) .mustLeaveFirst
  let availableAt ← addTime clock s.settings.withdrawalPeriod
  let nextId ← counter.nextId.next
  let totalWithdrawn ← add64 s.settings.totalWithdrawn amount
  let s := s.setGateway operator (some { gateway with operatorStake := remaining })
  let s := s.setCounter operator { counter with nextId }
  let s := s.setWithdrawal operator counter.nextId (some {
    owner := operator
    withdrawalId := counter.nextId
    gateway := gateway.operator
    amount
    createdAt := clock
    availableAt
    isDelegate := false
    isExitVault := false
    isProtected := false })
  return { s with settings := { s.settings with
    totalStaked := saturatingSub s.settings.totalStaked amount
    totalWithdrawn } }

/-! ### Withdrawals -/

/-- Claim a matured withdrawal. -/
def claimWithdrawal (env : Env) (clock : ℤ) (owner : Pubkey) (id : WithdrawalId)
    (stakeTokenAccount ownerTokenAccount : Pubkey) (s : State) : Except GarError State := do
  let withdrawal ← loadWithdrawal s owner id
  checkStakeTokenAccount s stakeTokenAccount
  checkUserTokenAccount s owner ownerTokenAccount
  require (withdrawal.availableAt ≤ clock) .withdrawalNotReady
  let amount := withdrawal.amount
  let s ← splTransfer s stakeTokenAccount ownerTokenAccount env.settingsPda amount
  let s := s.setWithdrawal owner id none
  return { s with settings := { s.settings with
    totalWithdrawn := saturatingSub s.settings.totalWithdrawn amount } }

/-- The expedited-withdrawal penalty: it decays linearly from the maximum to the minimum over
the withdrawal period. -/
def penaltyRate (settings : GatewaySettings) (createdAt clock : ℤ) : Except GarError ℕ := do
  let maxPenalty := settings.maxExpeditedWithdrawalPenalty
  let minPenalty := settings.minExpeditedWithdrawalPenalty
  let totalPeriod := settings.withdrawalPeriod
  let elapsed := max (saturatingAddSigned 64 clock (-createdAt)) 0
  if totalPeriod = 0 ∨ totalPeriod ≤ elapsed then
    return minPenalty
  else
    let scaled ← okOr (checkedMul 128 (saturatingSub maxPenalty minPenalty) elapsed.toNat)
      .arithmeticOverflow
    let decay ← okOr (checkedDiv scaled totalPeriod.toNat) .arithmeticOverflow
    let rateAfterDecay := saturatingSub maxPenalty (truncate 64 decay)
    return min (max rateAfterDecay minPenalty) maxPenalty

/-- Expedited withdrawal: the penalty goes to the treasury and the rest to the owner. -/
def instantWithdrawal (env : Env) (clock : ℤ) (owner : Pubkey) (id : WithdrawalId)
    (stakeTokenAccount ownerTokenAccount protocolTokenAccount : Pubkey) (s : State) :
    Except GarError State := do
  let withdrawal ← loadWithdrawal s owner id
  checkStakeTokenAccount s stakeTokenAccount
  checkUserTokenAccount s owner ownerTokenAccount
  checkProtocolTokenAccount s protocolTokenAccount
  require (¬ withdrawal.isProtected) .protectedVault
  let amount := withdrawal.amount
  require (s.settings.minExpeditedWithdrawalAmount ≤ amount) .invalidWithdrawalAmount
  let rate ← penaltyRate s.settings withdrawal.createdAt clock
  let scaled ← okOr (checkedMul 128 amount rate) .arithmeticOverflow
  let fee := truncate 64 (scaled / rateScale)
  let payout := saturatingSub amount fee
  let s ← splTransfer s stakeTokenAccount ownerTokenAccount env.settingsPda payout
  let s ← splTransfer s stakeTokenAccount protocolTokenAccount env.settingsPda fee
  let s := s.setWithdrawal owner id none
  return { s with settings := { s.settings with
    totalWithdrawn := saturatingSub s.settings.totalWithdrawn amount } }

/-- Close a fully drained withdrawal. Anyone may call it. -/
def closeDrainedWithdrawal (owner : Pubkey) (id : WithdrawalId) (s : State) :
    Except GarError State := do
  let withdrawal ← loadWithdrawal s owner id
  require (withdrawal.amount = 0) .withdrawalNotDrained
  return s.setWithdrawal owner id none

/-- An optional delegation account, which is checked whenever it is passed. -/
def loadOptionalDelegation (s : State) (gateway delegator : Pubkey) (passed : Bool) :
    Except GarError (Option Delegation) :=
  if passed then do
    let delegation ← loadDelegation s gateway delegator
    return some delegation
  else return none

/-- Cancel a withdrawal: the stake returns to the delegation or to the operator stake. -/
def cancelWithdrawal (owner gatewayKey : Pubkey) (id : WithdrawalId) (withDelegation : Bool)
    (s : State) : Except GarError State := do
  let gateway ← loadGateway s gatewayKey
  let withdrawal ← loadWithdrawal s owner id
  require (withdrawal.gateway = gateway.operator) .invalidParameter
  let delegation ← loadOptionalDelegation s gatewayKey owner withDelegation
  require (gateway.status = .joined) .gatewayLeaving
  let amount := withdrawal.amount
  let totalWithdrawn := saturatingSub s.settings.totalWithdrawn amount
  if withdrawal.isDelegate then
    let delegation ← okOr delegation .delegationNotFound
    require (gateway.settings.allowDelegatedStaking) .delegationNotAllowed
    let settlement := settleDelegateRewards gateway delegation
    let newAmount ← add64 settlement.delegation.amount amount
    let newTotal ← add64 settlement.gateway.totalDelegatedStake amount
    let returned ← add64 s.settings.totalDelegated amount
    let totalDelegated ← add64 returned settlement.settled
    let s := s.setGateway gatewayKey (some { settlement.gateway with
      totalDelegatedStake := newTotal })
    let s := s.setDelegation gatewayKey owner (some { settlement.delegation with
      amount := newAmount
      rewardDebt := gateway.cumulativeRewardPerToken })
    let s := s.setWithdrawal owner id none
    return { s with settings := { s.settings with totalDelegated, totalWithdrawn } }
  else
    let operatorStake ← add64 gateway.operatorStake amount
    let totalStaked ← add64 s.settings.totalStaked amount
    let s := s.setGateway gatewayKey (some { gateway with operatorStake })
    let s := s.setWithdrawal owner id none
    return { s with settings := { s.settings with totalStaked, totalWithdrawn } }

/-! ### Allowlist -/

/-- Add a delegate to the gateway's allowlist. -/
def allowDelegate (clock : ℤ) (operator delegate : Pubkey) (s : State) :
    Except GarError State := do
  let gateway ← loadOwnGateway s operator
  requireAbsent (s.allowlist (operator, delegate))
  return s.setAllowlist operator delegate (some ⟨gateway.operator, delegate, clock⟩)

/-- Remove a delegate from the gateway's allowlist. -/
def disallowDelegate (operator delegate : Pubkey) (s : State) : Except GarError State := do
  let _ ← loadOwnGateway s operator
  let _ ← okOr (s.allowlist (operator, delegate)) .accountNotInitialized
  return s.setAllowlist operator delegate none

/-- Enable or disable the allowlist of a gateway. -/
def setAllowlistEnabled (operator : Pubkey) (enabled : Bool) (s : State) :
    Except GarError State := do
  let gateway ← loadOwnGateway s operator
  return s.setGateway operator (some { gateway with
    settings := { gateway.settings with allowlistEnabled := enabled } })

end Gar
end ArioSolana
