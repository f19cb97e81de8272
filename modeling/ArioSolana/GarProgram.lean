import ArioSolana.Runs
import ArioSolana.GarPayment
import ArioSolana.GarDistribution

/-!
# The program

`Instruction` lists the instructions with the accounts and arguments their caller chooses, and
`exec` runs one of them. The instructions of the migration window (imports, the counter backfill
and `admin_repair_settings`) and the schema migrations are not among them: the former stop working
when the migration is finalized, the latter fail on accounts of the current layout.

A step of the system is an instruction, or something that happens on the chain without the
program: a token transfer that the program's own address does not sign, or a new token account.
-/

namespace ArioSolana
namespace Gar

open Checked Solana

/-! ### Administration of the settings -/

structure InitializeParams where
  authority : Pubkey
  migrationAuthority : Pubkey
  stakeTokenAccount : Pubkey
  protocolTokenAccount : Pubkey
  arnsProgramId : Pubkey

/-- Initialize the program and create its empty registry, on a chain with the given tokens. -/
def initializeGar (env : Env) (payer mint : Pubkey) (params : InitializeParams) (tokens : Tokens) :
    Except GarError State := do
  require (env.upgradeAuthority = some payer) .unauthorized
  return {
    settings := {
      authority := params.authority
      mint
      minOperatorStake := 20000000000
      minDelegateStake := 10000000
      withdrawalPeriod := withdrawalLockPeriod
      maxExpeditedWithdrawalPenalty
      minExpeditedWithdrawalPenalty
      minExpeditedWithdrawalAmount
      migrationActive := true
      migrationAuthority := params.migrationAuthority
      stakeTokenAccount := params.stakeTokenAccount
      protocolTokenAccount := params.protocolTokenAccount
      arnsProgramId := params.arnsProgramId
      totalStaked := 0
      totalDelegated := 0
      totalWithdrawn := 0 }
    registry := ⟨0, fun _ => GatewaySlot.zeroed⟩
    epochSettings := none
    gateways := fun _ => none
    delegations := fun _ => none
    withdrawalCounters := fun _ => none
    withdrawals := fun _ => none
    allowlist := fun _ => none
    observerLookups := fun _ => none
    redelegations := fun _ => none
    epochs := fun _ => none
    epochRentReceipts := fun _ => none
    observations := fun _ => none
    tokens }

/-- Set the lock of new withdrawals. -/
def adminSetWithdrawalPeriod (authority : Pubkey) (newPeriodSeconds : ℤ) (s : State) :
    Except GarError State := do
  require (s.settings.authority = authority) .unauthorized
  require (60 ≤ newPeriodSeconds) .invalidParameter
  return { s with settings := { s.settings with withdrawalPeriod := newPeriodSeconds } }

def transferAuthority (authority newAuthority : Pubkey) (s : State) : Except GarError State := do
  require (s.settings.authority = authority) .unauthorized
  require (newAuthority ≠ Pubkey.default) .invalidParameter
  return { s with settings := { s.settings with authority := newAuthority } }

/-- Disable the migration instructions for good. -/
def finalizeMigration (authority : Pubkey) (s : State) : Except GarError State := do
  require s.settings.migrationActive .constraintRaw
  require (s.settings.authority = authority) .unauthorized
  return { s with settings := { s.settings with migrationActive := false } }

/-! ### Instructions -/

/-- An instruction with the accounts and arguments of its caller. -/
inductive Instruction where
  | adminSetWithdrawalPeriod (authority : Pubkey) (newPeriodSeconds : ℤ)
  | transferAuthority (authority newAuthority : Pubkey)
  | finalizeMigration (authority : Pubkey)
  | joinNetwork (operator operatorTokenAccount stakeTokenAccount : Pubkey)
      (params : JoinNetworkParams)
  | leaveNetwork (operator : Pubkey) (excessWithdrawal : Option Address)
      (remaining : List AccountMeta)
  | updateGatewaySettings (operator : Pubkey) (params : UpdateGatewayParams)
  | updateGatewayMetadata (signer operator : Pubkey) (params : UpdateGatewayMetadataParams)
  | updateOperationsAddress (operator newOperationsAddress : Pubkey)
  | updateObserverAddress (operator newObserver : Pubkey)
  | pruneGateway (operator stakeTokenAccount protocolTokenAccount : Pubkey)
      (excessWithdrawal : Option Address) (remaining : List AccountMeta)
  | finalizeGone (operator : Pubkey) (remaining : List AccountMeta)
  | increaseOperatorStake (operator operatorTokenAccount stakeTokenAccount : Pubkey) (amount : ℕ)
  | decreaseOperatorStake (operator : Pubkey) (amount : ℕ)
  | delegateStake (delegator gateway delegatorTokenAccount stakeTokenAccount : Pubkey)
      (remaining : List AccountMeta) (amount : ℕ)
  | decreaseDelegateStake (delegator gateway : Pubkey) (amount : ℕ)
  | claimDelegateFromLeavingGateway (delegator gateway : Pubkey)
  | claimDelegateFromDisabledGateway (delegator gateway : Pubkey)
  | closeEmptyDelegation (delegator gateway : Pubkey)
  | redelegateStake (delegator source target : Pubkey) (delegatorTokenAccount : TokenAccount)
      (stakeTokenAccount protocolTokenAccount : Pubkey) (remaining : List AccountMeta)
      (amount : ℕ)
  | compoundDelegationRewards (delegator gateway : Pubkey)
  | allowDelegate (operator delegate : Pubkey)
  | disallowDelegate (operator delegate : Pubkey)
  | setAllowlistEnabled (operator : Pubkey) (enabled : Bool)
  | claimWithdrawal (owner : Pubkey) (id : WithdrawalId)
      (stakeTokenAccount ownerTokenAccount : Pubkey)
  | instantWithdrawal (owner : Pubkey) (id : WithdrawalId)
      (stakeTokenAccount ownerTokenAccount protocolTokenAccount : Pubkey)
  | cancelWithdrawal (owner gateway : Pubkey) (id : WithdrawalId) (withDelegation : Bool)
  | closeDrainedWithdrawal (owner : Pubkey) (id : WithdrawalId)
  | deductDelegationForPayment (delegator gateway stakeTokenAccount protocolTokenAccount : Pubkey)
      (amount : ℕ)
  | deductOperatorStakeForPayment (operator stakeTokenAccount protocolTokenAccount : Pubkey)
      (amount : ℕ)
  | deductWithdrawalForPayment (owner : Pubkey) (id : WithdrawalId)
      (stakeTokenAccount protocolTokenAccount : Pubkey) (amount : ℕ)
  | payFromFundingPlan (payer stakeTokenAccount protocolTokenAccount : Pubkey)
      (payerTokenAccount : Option Pubkey) (remaining : List AccountMeta)
      (sources : List FundingSourceSpec) (expectedTotal residueVaultCount : ℕ)
  | adminReconcileDelegatedStake (authority gateway : Pubkey) (remaining : List AccountMeta)
      (expectedCounter expectedRemoved : ℕ)
  | adminResyncSupplyCounters (authority : Pubkey)
      (expectedStaked newStaked expectedDelegated newDelegated : ℕ)
  | initializeEpochs (payer : Pubkey) (params : InitializeEpochParams)
  | setEpochsEnabled (authority : Pubkey) (enabled : Bool)
  | adminSetEpochDuration (authority : Pubkey) (newDuration : ℤ)
  | adminSetTenureWeight (authority : Pubkey) (tenureWeightDuration : ℤ) (maxTenureWeight : ℕ)
  | adminSetRewardRatios (authority : Pubkey) (gatewayRewardRatio observerRewardRatio : ℕ)
  | adminSetCurrentEpochIndex (authority : Pubkey) (newIndex : ℕ)
  | closeEpochSettings (authority : Pubkey)
  | transferEpochSettingsAuthority (authority newAuthority : Pubkey)
  | createEpoch (payer protocolTokenAccount : Pubkey) (remaining : List AccountMeta)
  | tallyWeights (index : ℕ) (remaining : List AccountMeta)
  | prescribeEpoch (index : ℕ) (remaining : List AccountMeta) (nameRegistry : RawAccount)
  | saveObservations (observer : Pubkey) (index : ℕ) (gatewayResults : BitVec 3000)
      (gatewayCount : ℕ) (reportTxId : Hash)
  | closeObservation (index : ℕ) (observer : Pubkey)
  | distributeEpoch (index : ℕ) (protocolTokenAccount stakeTokenAccount : Pubkey)
      (remaining : List AccountMeta)
  | closeEpoch (index : ℕ) (remaining : List AccountMeta)
  | adminCloseStaleEpoch (authority : Pubkey) (index : ℕ)
  | adminCloseOrphanedEpochRentReceipt (authority : Pubkey) (index : ℕ)

/-- The key whose signature the instruction acts on. The others are signed by whoever pays the
transaction fee. -/
def Instruction.signer : Instruction → Option Pubkey
  | .adminSetWithdrawalPeriod authority _ => some authority
  | .transferAuthority authority _ => some authority
  | .finalizeMigration authority => some authority
  | .joinNetwork operator _ _ _ => some operator
  | .leaveNetwork operator _ _ => some operator
  | .updateGatewaySettings operator _ => some operator
  | .updateGatewayMetadata signer _ _ => some signer
  | .updateOperationsAddress operator _ => some operator
  | .updateObserverAddress operator _ => some operator
  | .increaseOperatorStake operator _ _ _ => some operator
  | .decreaseOperatorStake operator _ => some operator
  | .delegateStake delegator _ _ _ _ _ => some delegator
  | .decreaseDelegateStake delegator _ _ => some delegator
  | .redelegateStake delegator _ _ _ _ _ _ _ => some delegator
  | .allowDelegate operator _ => some operator
  | .disallowDelegate operator _ => some operator
  | .setAllowlistEnabled operator _ => some operator
  | .claimWithdrawal owner _ _ _ => some owner
  | .instantWithdrawal owner _ _ _ _ => some owner
  | .cancelWithdrawal owner _ _ _ => some owner
  | .deductDelegationForPayment delegator _ _ _ _ => some delegator
  | .deductOperatorStakeForPayment operator _ _ _ => some operator
  | .deductWithdrawalForPayment owner _ _ _ _ => some owner
  | .payFromFundingPlan payer _ _ _ _ _ _ _ => some payer
  | .adminReconcileDelegatedStake authority _ _ _ _ => some authority
  | .adminResyncSupplyCounters authority _ _ _ _ => some authority
  | .initializeEpochs payer _ => some payer
  | .setEpochsEnabled authority _ => some authority
  | .adminSetEpochDuration authority _ => some authority
  | .adminSetTenureWeight authority _ _ => some authority
  | .adminSetRewardRatios authority _ _ => some authority
  | .adminSetCurrentEpochIndex authority _ => some authority
  | .closeEpochSettings authority => some authority
  | .transferEpochSettingsAuthority authority _ => some authority
  | .createEpoch payer _ _ => some payer
  | .saveObservations observer _ _ _ _ => some observer
  | .adminCloseStaleEpoch authority _ => some authority
  | .adminCloseOrphanedEpochRentReceipt authority _ => some authority
  | _ => none

/-- The handler of an instruction. -/
def Instruction.handler (env : Env) (clock : Clock) (i : Instruction) (s : State) :
    Except GarError State :=
  let now := clock.unixTimestamp
  match i with
  | .adminSetWithdrawalPeriod authority newPeriodSeconds =>
    Gar.adminSetWithdrawalPeriod authority newPeriodSeconds s
  | .transferAuthority authority newAuthority => Gar.transferAuthority authority newAuthority s
  | .finalizeMigration authority => Gar.finalizeMigration authority s
  | .joinNetwork operator operatorTokenAccount stakeTokenAccount params =>
    Gar.joinNetwork now operator operatorTokenAccount stakeTokenAccount params s
  | .leaveNetwork operator excessWithdrawal remaining =>
    Gar.leaveNetwork now operator excessWithdrawal remaining s
  | .updateGatewaySettings operator params => Gar.updateGatewaySettings now operator params s
  | .updateGatewayMetadata signer operator params =>
    Gar.updateGatewayMetadata signer operator params s
  | .updateOperationsAddress operator newOperationsAddress =>
    Gar.updateOperationsAddress operator newOperationsAddress s
  | .updateObserverAddress operator newObserver =>
    Gar.updateObserverAddress operator newObserver s
  | .pruneGateway operator stakeTokenAccount protocolTokenAccount excessWithdrawal remaining =>
    Gar.pruneGateway env now operator stakeTokenAccount protocolTokenAccount excessWithdrawal
      remaining s
  | .finalizeGone operator remaining => Gar.finalizeGone now operator remaining s
  | .increaseOperatorStake operator operatorTokenAccount stakeTokenAccount amount =>
    Gar.increaseOperatorStake operator operatorTokenAccount stakeTokenAccount amount s
  | .decreaseOperatorStake operator amount => Gar.decreaseOperatorStake now operator amount s
  | .delegateStake delegator gateway delegatorTokenAccount stakeTokenAccount remaining amount =>
    Gar.delegateStake now delegator gateway delegatorTokenAccount stakeTokenAccount remaining
      amount s
  | .decreaseDelegateStake delegator gateway amount =>
    Gar.decreaseDelegateStake now delegator gateway amount s
  | .claimDelegateFromLeavingGateway delegator gateway =>
    Gar.claimDelegateFromLeavingGateway now delegator gateway s
  | .claimDelegateFromDisabledGateway delegator gateway =>
    Gar.claimDelegateFromDisabledGateway now delegator gateway s
  | .closeEmptyDelegation delegator gateway => Gar.closeEmptyDelegation delegator gateway s
  | .redelegateStake delegator source target delegatorTokenAccount stakeTokenAccount
      protocolTokenAccount remaining amount =>
    Gar.redelegateStake env now delegator source target delegatorTokenAccount stakeTokenAccount
      protocolTokenAccount remaining amount s
  | .compoundDelegationRewards delegator gateway =>
    Gar.compoundDelegationRewards delegator gateway s
  | .allowDelegate operator delegate => Gar.allowDelegate now operator delegate s
  | .disallowDelegate operator delegate => Gar.disallowDelegate operator delegate s
  | .setAllowlistEnabled operator enabled => Gar.setAllowlistEnabled operator enabled s
  | .claimWithdrawal owner id stakeTokenAccount ownerTokenAccount =>
    Gar.claimWithdrawal env now owner id stakeTokenAccount ownerTokenAccount s
  | .instantWithdrawal owner id stakeTokenAccount ownerTokenAccount protocolTokenAccount =>
    Gar.instantWithdrawal env now owner id stakeTokenAccount ownerTokenAccount
      protocolTokenAccount s
  | .cancelWithdrawal owner gateway id withDelegation =>
    Gar.cancelWithdrawal owner gateway id withDelegation s
  | .closeDrainedWithdrawal owner id => Gar.closeDrainedWithdrawal owner id s
  | .deductDelegationForPayment delegator gateway stakeTokenAccount protocolTokenAccount amount =>
    Gar.deductDelegationForPayment env delegator gateway stakeTokenAccount protocolTokenAccount
      amount s
  | .deductOperatorStakeForPayment operator stakeTokenAccount protocolTokenAccount amount =>
    Gar.deductOperatorStakeForPayment env operator stakeTokenAccount protocolTokenAccount amount s
  | .deductWithdrawalForPayment owner id stakeTokenAccount protocolTokenAccount amount =>
    Gar.deductWithdrawalForPayment env owner id stakeTokenAccount protocolTokenAccount amount s
  | .payFromFundingPlan payer stakeTokenAccount protocolTokenAccount payerTokenAccount remaining
      sources expectedTotal residueVaultCount =>
    Gar.payFromFundingPlan env now payer stakeTokenAccount protocolTokenAccount payerTokenAccount
      remaining sources expectedTotal residueVaultCount s
  | .adminReconcileDelegatedStake authority gateway remaining expectedCounter expectedRemoved =>
    Gar.adminReconcileDelegatedStake authority gateway remaining expectedCounter expectedRemoved s
  | .adminResyncSupplyCounters authority expectedStaked newStaked expectedDelegated
      newDelegated =>
    Gar.adminResyncSupplyCounters authority expectedStaked newStaked expectedDelegated
      newDelegated s
  | .initializeEpochs payer params => Gar.initializeEpochs env now payer params s
  | .setEpochsEnabled authority enabled => Gar.setEpochsEnabled now authority enabled s
  | .adminSetEpochDuration authority newDuration =>
    Gar.adminSetEpochDuration now authority newDuration s
  | .adminSetTenureWeight authority tenureWeightDuration maxTenureWeight =>
    Gar.adminSetTenureWeight authority tenureWeightDuration maxTenureWeight s
  | .adminSetRewardRatios authority gatewayRewardRatio observerRewardRatio =>
    Gar.adminSetRewardRatios authority gatewayRewardRatio observerRewardRatio s
  | .adminSetCurrentEpochIndex authority newIndex =>
    Gar.adminSetCurrentEpochIndex now authority newIndex s
  | .closeEpochSettings authority => Gar.closeEpochSettings authority s
  | .transferEpochSettingsAuthority authority newAuthority =>
    Gar.transferEpochSettingsAuthority authority newAuthority s
  | .createEpoch payer protocolTokenAccount remaining =>
    Gar.createEpoch env clock payer protocolTokenAccount remaining s
  | .tallyWeights index remaining => Gar.tallyWeights index remaining s
  | .prescribeEpoch index remaining nameRegistry =>
    Gar.prescribeEpoch env index remaining nameRegistry s
  | .saveObservations observer index gatewayResults gatewayCount reportTxId =>
    Gar.saveObservations now observer index gatewayResults gatewayCount reportTxId s
  | .closeObservation index observer => Gar.closeObservation index observer s
  | .distributeEpoch index protocolTokenAccount stakeTokenAccount remaining =>
    Gar.distributeEpoch env now index protocolTokenAccount stakeTokenAccount remaining s
  | .closeEpoch index remaining => Gar.closeEpoch index remaining s
  | .adminCloseStaleEpoch authority index => Gar.adminCloseStaleEpoch now authority index s
  | .adminCloseOrphanedEpochRentReceipt authority index =>
    Gar.adminCloseOrphanedEpochRentReceipt authority index s

/-- Execute an instruction. -/
def Instruction.exec (env : Env) (clock : Clock) (i : Instruction) (s : State) :
    Except GarError State := do
  require (∀ k ∈ i.signer, env.CanSign k) .missingRequiredSignature
  i.handler env clock s

/-! ### Steps -/

/-- What can happen on the chain. -/
inductive Action where
  | call (i : Instruction)
  /-- a token transfer that the program's address does not sign -/
  | walletTransfer (source destination authority : Pubkey) (amount : ℕ)
  | openTokenAccount (key mint owner : Pubkey)

/-- An action, and the clock when it happens. -/
structure Event where
  clock : Clock
  action : Action

/-- Perform an action. -/
def Event.exec (env : Env) (s : State) (e : Event) : Except GarError State :=
  match e.action with
  | .call i => i.exec env e.clock s
  | .walletTransfer source destination authority amount => do
    require (authority ≠ env.settingsPda) .missingRequiredSignature
    splTransfer s source destination authority amount
  | .openTokenAccount key mint owner => do
    requireAbsent (s.tokens.accounts key)
    return { s with tokens := { s.tokens with
      accounts := Function.update s.tokens.accounts key (some ⟨mint, owner, 0⟩) } }

/-- One step of the system. -/
def GarStep (env : Env) (s : State) (e : Event) (s' : State) : Prop := e.exec env s = .ok s'

/-- A history of the system. -/
abbrev Trace := List (Step State Event)

/-- A state right after initialization. The pool belongs to the program's address and the
treasury to the core program's, and all tokens of the mint fit in a word. -/
structure Fresh (env : Env) (s : State) : Prop where
  initialized : ∃ payer mint params tokens, initializeGar env payer mint params tokens = .ok s
  addresses : env.settingsPda ≠ env.arioConfig
  pool : s.tokens.terms s.settings.stakeTokenAccount = some (s.settings.mint, env.settingsPda)
  treasury :
    s.tokens.terms s.settings.protocolTokenAccount = some (s.settings.mint, env.arioConfig)
  supply : s.tokens.supply s.settings.mint < 2 ^ 64

/-- The clock never runs backwards. -/
def Timely (tr : Trace) : Prop :=
  tr.Pairwise fun later earlier =>
    earlier.label.clock.unixTimestamp ≤ later.label.clock.unixTimestamp

end Gar
end ArioSolana
