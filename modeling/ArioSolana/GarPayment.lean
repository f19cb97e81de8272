import ArioSolana.GarWithdrawal

/-!
# Payments from stake

The instructions of `payment.rs`. Stake, delegated stake and vaults can pay the treasury
directly. `payFromFundingPlan` draws on several sources in one call: it walks the sources with
the extra accounts in step, settles and drains each, makes at most two token transfers, and
puts a delegation's residue below the gateway's minimum into a new withdrawal.
-/

namespace ArioSolana
namespace Gar

open Checked Solana

/-! ### Payments from one source -/

/-- The pool and the treasury of a payment: the pinned accounts, whatever their mint. -/
def checkPaymentAccounts (s : State) (stakeTokenAccount protocolTokenAccount : Pubkey) :
    Except GarError Unit := do
  let _ ← okOr (s.tokens.accounts stakeTokenAccount) .accountNotInitialized
  require (stakeTokenAccount = s.settings.stakeTokenAccount) .invalidParameter
  let _ ← okOr (s.tokens.accounts protocolTokenAccount) .accountNotInitialized
  require (protocolTokenAccount = s.settings.protocolTokenAccount) .invalidParameter

/-- Pay the treasury from a delegation. -/
def deductDelegationForPayment (env : Env) (delegator gatewayKey stakeTokenAccount
    protocolTokenAccount : Pubkey) (amount : ℕ) (s : State) : Except GarError State := do
  let gateway ← loadGateway s gatewayKey
  let delegation ← loadDelegation s gatewayKey delegator
  require (delegation.delegator = delegator) .notDelegator
  checkPaymentAccounts s stakeTokenAccount protocolTokenAccount
  require (0 < amount) .invalidAmount
  require (gateway.status = .joined) .gatewayNotJoined
  let settlement := settleDelegateRewards gateway delegation
  require (amount ≤ settlement.delegation.amount) .insufficientDelegationForPayment
  let remaining ← okOr (checkedSub settlement.delegation.amount amount) .arithmeticUnderflow
  require (remaining = 0 ∨ gateway.settings.minDelegationAmount ≤ remaining)
    .delegationBelowMinimum
  let newTotal ←
    okOr (checkedSub settlement.gateway.totalDelegatedStake amount) .arithmeticUnderflow
  let s ← splTransfer s stakeTokenAccount protocolTokenAccount env.settingsPda amount
  let totalDelegated :=
    saturatingSub (saturatingAdd 64 s.settings.totalDelegated settlement.settled) amount
  let s := s.setGateway gatewayKey (some { settlement.gateway with
    totalDelegatedStake := newTotal })
  let s := s.setDelegation gatewayKey delegator (some { settlement.delegation with
    amount := remaining })
  return { s with settings := { s.settings with totalDelegated } }

/-- Pay the treasury from operator stake, never below the minimum. -/
def deductOperatorStakeForPayment (env : Env) (operator stakeTokenAccount
    protocolTokenAccount : Pubkey) (amount : ℕ) (s : State) : Except GarError State := do
  let gateway ← loadOwnGateway s operator
  checkPaymentAccounts s stakeTokenAccount protocolTokenAccount
  require (0 < amount) .invalidAmount
  require (gateway.status = .joined) .gatewayNotJoined
  require (amount ≤ gateway.operatorStake) .insufficientOperatorStakeForPayment
  let remaining ← okOr (checkedSub gateway.operatorStake amount) .arithmeticUnderflow
  require (s.settings.minOperatorStake ≤ remaining) .stakeBelowMinimum
  let s ← splTransfer s stakeTokenAccount protocolTokenAccount env.settingsPda amount
  let s := s.setGateway operator (some { gateway with operatorStake := remaining })
  return { s with settings := { s.settings with
    totalStaked := saturatingSub s.settings.totalStaked amount } }

/-- Pay the treasury from a withdrawal that is not protected, locked or not. -/
def deductWithdrawalForPayment (env : Env) (owner : Pubkey) (id : WithdrawalId)
    (stakeTokenAccount protocolTokenAccount : Pubkey) (amount : ℕ) (s : State) :
    Except GarError State := do
  let withdrawal ← loadWithdrawal s owner id
  checkPaymentAccounts s stakeTokenAccount protocolTokenAccount
  require (0 < amount) .invalidAmount
  require (¬ withdrawal.isProtected) .protectedVault
  require (amount ≤ withdrawal.amount) .insufficientWithdrawalForPayment
  let remaining ← okOr (checkedSub withdrawal.amount amount) .arithmeticUnderflow
  let s ← splTransfer s stakeTokenAccount protocolTokenAccount env.settingsPda amount
  let s := s.setWithdrawal owner id (some { withdrawal with amount := remaining })
  return { s with settings := { s.settings with
    totalWithdrawn := saturatingSub s.settings.totalWithdrawn amount } }

/-! ### Funding plans -/

inductive FundingSourceKind where
  | balance
  | delegation
  | operatorStake
  | withdrawal
deriving DecidableEq

/-- One entry in the funding plan. -/
structure FundingSourceSpec where
  kind : FundingSourceKind
  amount : ℕ
deriving DecidableEq

/-- What the walk over the sources carries: the accounts as written so far, the extra accounts
not yet consumed, and the running sums. -/
structure FundingPlan where
  state : State
  remaining : List AccountMeta
  balanceDrain : ℕ := 0
  stakePoolDrain : ℕ := 0
  counterDelegatedSub : ℕ := 0
  counterDelegatedAdd : ℕ := 0
  counterDelegatedResidueSub : ℕ := 0
  counterStakedSub : ℕ := 0
  counterWithdrawnSub : ℕ := 0
  /-- gateway and residue of each delegation that fell below the minimum -/
  residueTargets : List (Pubkey × ℕ) := []
  gatewaysSeen : List Pubkey := []

/-- The gateway at an extra account that the plan writes to. -/
def FundingPlan.loadGateway (plan : FundingPlan) (info : AccountMeta) :
    Except GarError Gateway := do
  require info.isWritable .readonlyDataModified
  match info.address with
  | .gateway operator => do
    let gateway ← okOr (plan.state.gateways operator) .accountNotInitialized
    require (gateway.operator = operator) .invalidGatewayAccount
    require (gateway.operator ∉ plan.gatewaysSeen) .duplicateGatewayInSources
    require (gateway.status = .joined) .gatewayNotJoined
    return gateway
  | _ => throw .accountNotInitialized

/-- The next extra account. -/
def FundingPlan.next (plan : FundingPlan) : Except GarError (AccountMeta × FundingPlan) :=
  match plan.remaining with
  | [] => .error .missingFundingSourceAccount
  | info :: rest => .ok (info, { plan with remaining := rest })

/-- Draw on a balance: the payer's token account pays after the walk. -/
def FundingPlan.drawBalance (plan : FundingPlan) (hasPayerTokenAccount : Bool) (amount : ℕ) :
    Except GarError FundingPlan := do
  require hasPayerTokenAccount .missingPayerTokenAccountForFundingSource
  let balanceDrain ← add64 plan.balanceDrain amount
  return { plan with balanceDrain }

/-- Draw on a delegation of the payer. A residue below the gateway's minimum leaves the
delegation too. -/
def FundingPlan.drawDelegation (plan : FundingPlan) (payer : Pubkey) (amount : ℕ) :
    Except GarError FundingPlan := do
  let (gatewayInfo, plan) ← plan.next
  let (delegationInfo, plan) ← plan.next
  let gateway ← plan.loadGateway gatewayInfo
  require (delegationInfo.address = .delegation gateway.operator payer) .invalidParameter
  require delegationInfo.isWritable .readonlyDataModified
  let delegation ← loadDelegation plan.state gateway.operator payer
  require (delegation.delegator = payer) .notDelegator
  let settlement := settleDelegateRewards gateway delegation
  require (amount ≤ settlement.delegation.amount) .insufficientDelegationForPayment
  let post ← okOr (checkedSub settlement.delegation.amount amount) .arithmeticUnderflow
  -- what stays in the delegation, and what goes to a new withdrawal
  let keeps := post = 0 ∨ gateway.settings.minDelegationAmount ≤ post
  let residue := if keeps then 0 else post
  let combined ← add64 amount residue
  let newTotal ←
    okOr (checkedSub settlement.gateway.totalDelegatedStake combined) .arithmeticUnderflow
  let stakePoolDrain ← add64 plan.stakePoolDrain amount
  let s := plan.state.setDelegation gateway.operator payer (some { settlement.delegation with
    amount := if keeps then post else 0 })
  let s := s.setGateway gateway.operator (some { settlement.gateway with
    totalDelegatedStake := newTotal })
  return { plan with
    state := s
    stakePoolDrain
    counterDelegatedSub := saturatingAdd 64 plan.counterDelegatedSub amount
    counterDelegatedAdd := saturatingAdd 64 plan.counterDelegatedAdd settlement.settled
    counterDelegatedResidueSub :=
      if keeps then plan.counterDelegatedResidueSub
      else saturatingAdd 64 plan.counterDelegatedResidueSub post
    residueTargets :=
      if keeps then plan.residueTargets else plan.residueTargets ++ [(gateway.operator, post)]
    gatewaysSeen := gateway.operator :: plan.gatewaysSeen }

/-- Draw on the payer's operator stake, never below the minimum. -/
def FundingPlan.drawOperatorStake (plan : FundingPlan) (payer : Pubkey) (amount : ℕ) :
    Except GarError FundingPlan := do
  let (gatewayInfo, plan) ← plan.next
  let gateway ← plan.loadGateway gatewayInfo
  require (gateway.operator = payer) .notOperator
  require (amount ≤ gateway.operatorStake) .insufficientOperatorStakeForPayment
  let post ← okOr (checkedSub gateway.operatorStake amount) .arithmeticUnderflow
  require (plan.state.settings.minOperatorStake ≤ post) .stakeBelowMinimum
  let stakePoolDrain ← add64 plan.stakePoolDrain amount
  let s := plan.state.setGateway gateway.operator (some { gateway with operatorStake := post })
  return { plan with
    state := s
    stakePoolDrain
    counterStakedSub := saturatingAdd 64 plan.counterStakedSub amount
    gatewaysSeen := gateway.operator :: plan.gatewaysSeen }

/-- Draw on a withdrawal of the payer. -/
def FundingPlan.drawWithdrawal (plan : FundingPlan) (payer : Pubkey) (amount : ℕ) :
    Except GarError FundingPlan := do
  let (info, plan) ← plan.next
  match info.address with
  | .withdrawal owner id => do
    let withdrawal ← okOr (plan.state.withdrawals (owner, id)) .accountNotInitialized
    require (withdrawal.owner = payer) .invalidOwner
    require (owner = withdrawal.owner ∧ id = withdrawal.withdrawalId) .invalidParameter
    require (amount ≤ withdrawal.amount) .insufficientWithdrawalForPayment
    let post ← okOr (checkedSub withdrawal.amount amount) .arithmeticUnderflow
    require info.isWritable .readonlyDataModified
    let stakePoolDrain ← add64 plan.stakePoolDrain amount
    let s := plan.state.setWithdrawal owner id (some { withdrawal with amount := post })
    return { plan with
      state := s
      stakePoolDrain
      counterWithdrawnSub := saturatingAdd 64 plan.counterWithdrawnSub amount }
  | _ => throw .invalidParameter

/-- Draw on one source. -/
def FundingPlan.draw (payer : Pubkey) (hasPayerTokenAccount : Bool) (plan : FundingPlan)
    (source : FundingSourceSpec) : Except GarError FundingPlan :=
  match source.kind with
  | .balance => plan.drawBalance hasPayerTokenAccount source.amount
  | .delegation => plan.drawDelegation payer source.amount
  | .operatorStake => plan.drawOperatorStake payer source.amount
  | .withdrawal => plan.drawWithdrawal payer source.amount

/-- Draw on the sources in order. -/
def FundingPlan.drawAll (payer : Pubkey) (hasPayerTokenAccount : Bool) :
    List FundingSourceSpec → FundingPlan → Except GarError FundingPlan
  | [], plan => return plan
  | source :: sources, plan => do
    let plan ← plan.draw payer hasPayerTokenAccount source
    FundingPlan.drawAll payer hasPayerTokenAccount sources plan

/-- Put each residue into a new withdrawal at the next extra account, which has to be the
address for the payer's next withdrawal id. -/
def createResidueVaults (clock : ℤ) (payer : Pubkey) :
    List (Pubkey × ℕ) → State × List AccountMeta → Except GarError (State × List AccountMeta)
  | [], acc => return acc
  | _ :: _, (_, []) => throw .missingResidueVault
  | (gateway, residue) :: targets, (s, info :: rest) => do
    let counter := loadCounter s payer
    let nextId ← counter.nextId.next
    require (info.address = .withdrawal payer counter.nextId) .invalidParameter
    require ((s.withdrawals (payer, counter.nextId)).isNone) .invalidParameter
    require info.isWritable .readonlyDataModified
    let availableAt ← addTime clock s.settings.withdrawalPeriod
    let s := s.setCounter payer { counter with nextId }
    let s := s.setWithdrawal payer counter.nextId (some {
      owner := payer
      withdrawalId := counter.nextId
      gateway
      amount := residue
      createdAt := clock
      availableAt
      isDelegate := true
      isExitVault := false
      isProtected := false })
    createResidueVaults clock payer targets (s, rest)

/-- The payer's token account pays for the balance sources. -/
def payBalance (payer : Pubkey) (payerTokenAccount : Option Pubkey) (protocolTokenAccount : Pubkey)
    (amount : ℕ) (s : State) : Except GarError State :=
  if 0 < amount then do
    let payerAta ← okOr payerTokenAccount .panicked
    splTransfer s payerAta protocolTokenAccount payer amount
  else return s

/-- The sum of the source amounts, each of which has to be positive. -/
def sumSources : List FundingSourceSpec → ℕ → Except GarError ℕ
  | [], total => return total
  | source :: sources, total => do
    require (0 < source.amount) .zeroFundingSourceAmount
    let total ← add64 total source.amount
    sumSources sources total

/-- Pay the treasury from several sources. -/
def payFromFundingPlan (env : Env) (clock : ℤ) (payer stakeTokenAccount
    protocolTokenAccount : Pubkey) (payerTokenAccount : Option Pubkey)
    (remaining : List AccountMeta) (sources : List FundingSourceSpec)
    (expectedTotal residueVaultCount : ℕ) (s : State) : Except GarError State := do
  checkPaymentAccounts s stakeTokenAccount protocolTokenAccount
  require (payerTokenAccount.all fun k => (s.tokens.accounts k).isSome) .accountNotInitialized
  require (sources ≠ []) .emptyFundingPlan
  require (sources.length ≤ maxFundingSources) .tooManyFundingSources
  require (sources.countP (·.kind = .delegation) ≤ maxDelegationSources)
    .tooManyDelegationSources
  require (sources.countP (·.kind = .operatorStake) ≤ 1) .onlyOneOperatorStakeSource
  let computedTotal ← sumSources sources 0
  require (computedTotal = expectedTotal) .fundingPlanAmountMismatch
  let plan ← FundingPlan.drawAll payer payerTokenAccount.isSome sources
    { state := s, remaining }
  require (plan.residueTargets.length = residueVaultCount) .mismatchedResidueVaultCount
  let s ← splTransferNonzero plan.state stakeTokenAccount protocolTokenAccount env.settingsPda
    plan.stakePoolDrain
  let s ← payBalance payer payerTokenAccount protocolTokenAccount plan.balanceDrain s
  -- the counter account is created whether or not a residue needs it
  let s := s.setCounter payer (loadCounter s payer)
  let (s, rest) ← createResidueVaults clock payer plan.residueTargets (s, plan.remaining)
  require (rest = []) .extraneousFundingSourceAccount
  let counterWithdrawnAdd :=
    plan.residueTargets.foldl (fun sum target => saturatingAdd 64 sum target.2) 0
  let totalDelegated :=
    saturatingSub (saturatingSub (saturatingAdd 64 s.settings.totalDelegated
      plan.counterDelegatedAdd) plan.counterDelegatedSub) plan.counterDelegatedResidueSub
  let totalWithdrawn ←
    add64 (saturatingSub s.settings.totalWithdrawn plan.counterWithdrawnSub) counterWithdrawnAdd
  return { s with settings := { s.settings with
    totalDelegated
    totalStaked := saturatingSub s.settings.totalStaked plan.counterStakedSub
    totalWithdrawn } }

end Gar
end ArioSolana
