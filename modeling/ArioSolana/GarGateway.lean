import ArioSolana.GarPrescribe

/-!
# The life of a gateway

The instructions of `gateway.rs`. A gateway joins with a stake and takes the next registry slot.
When it leaves, or is pruned after too many failed epochs, its stake moves to two vaults and its
slot stays in place with weight zero, so that the positions of an open epoch remain valid. Once
the leave period is over, its delegations are gone and the latest epoch is finished, the slot
is freed: the last slot moves into it.
-/

namespace ArioSolana
namespace Gar

open Checked Solana
open Anchor (SchemaVersion)

/-! ### Joining -/

/-- An Arweave transaction id: empty, or 43 characters of base64url. -/
def isValidArweaveId (id : List UInt8) : Bool :=
  id.isEmpty || (id.length == 43 && id.all fun b =>
    (48 ≤ b && b ≤ 57) || (65 ≤ b && b ≤ 90) || (97 ≤ b && b ≤ 122) || b == 45 || b == 95)

/-- The checks of the fields that describe a gateway. -/
def checkLabel (label : List UInt8) : Except GarError Unit :=
  require (label ≠ [] ∧ label.length ≤ 64) .invalidLabel

def checkFqdn (fqdn : List UInt8) : Except GarError Unit :=
  require (fqdn ≠ [] ∧ fqdn.length ≤ 128) .invalidFqdn

def checkNote (note : List UInt8) : Except GarError Unit :=
  require (note.length ≤ 256) .invalidParameter

def checkProperties (properties : List UInt8) : Except GarError Unit :=
  require (isValidArweaveId properties) .invalidParameter

/-- A share ratio is given in percent and kept in hundredths of a percent. -/
def checkRewardShare (ratio : ℕ) : Except GarError Unit :=
  require (ratio * 100 ≤ maxDelegateRewardShare) .invalidRewardShare

structure JoinNetworkParams where
  operatorStake : ℕ
  label : List UInt8
  fqdn : List UInt8
  port : ℕ
  protocol : Protocol
  properties : Option (List UInt8)
  note : Option (List UInt8)
  allowDelegatedStaking : Bool
  delegateRewardShareRatio : ℕ
  minDelegateStake : Option ℕ
  observerAddress : Pubkey

/-- Join the network. -/
def joinNetwork (clock : ℤ) (operator operatorTokenAccount stakeTokenAccount : Pubkey)
    (params : JoinNetworkParams) (s : State) : Except GarError State := do
  requireAbsent (s.gateways operator)
  checkUserTokenAccount s operator operatorTokenAccount
  checkStakeTokenAccount s stakeTokenAccount
  requireAbsent (s.observerLookups params.observerAddress)
  require (s.settings.minOperatorStake ≤ params.operatorStake) .insufficientStake
  checkLabel params.label
  checkFqdn params.fqdn
  checkRewardShare params.delegateRewardShareRatio
  let s ← splTransfer s operatorTokenAccount stakeTokenAccount operator params.operatorStake
  let properties := params.properties.getD []
  checkProperties properties
  let note := params.note.getD []
  checkNote note
  let minDelegation := params.minDelegateStake.getD s.settings.minDelegateStake
  require (s.settings.minDelegateStake ≤ minDelegation) .delegationBelowMinimum
  require (s.registry.count < GatewayRegistry.maxGateways) .registryFull
  let index := s.registry.count
  let totalStaked ← add64 s.settings.totalStaked params.operatorStake
  let s := s.setGateway operator (some {
    operator
    label := params.label
    fqdn := params.fqdn
    port := params.port
    protocol := params.protocol
    properties
    note
    operatorStake := params.operatorStake
    totalDelegatedStake := 0
    status := .joined
    startTimestamp := clock
    leaveTimestamp := none
    leaveEpochDuration := 0
    stats := {}
    weights := {}
    settings := {
      allowDelegatedStaking := params.allowDelegatedStaking
      delegateRewardShareRatio := params.delegateRewardShareRatio * 100
      minDelegationAmount := minDelegation
      allowlistEnabled := false
      pendingDelegateRewardShareRatio := none
      delegationDisabledAt := none }
    registryIndex := index
    observerAddress := params.observerAddress
    cumulativeRewardPerToken := 0
    version := gatewayVersion
    operationsAddress := operator })
  let s := s.setObserverLookup params.observerAddress (some ⟨operator⟩)
  return { s with
    registry := {
      count := index + 1
      gateways := Function.update s.registry.gateways index
        ⟨operator, 0, clock, GatewaySlot.statusJoined, 0⟩ }
    settings := { s.settings with totalStaked } }

/-! ### Leaving and pruning -/

/-- Put `stake` of an operator into two new vaults: a protected one with up to the minimum
stake, locked for the leave period, and one with the rest, locked like any withdrawal. Without
stake the first is a placeholder that can be claimed at once. -/
def createExitVaults (clock : ℤ) (operator : Pubkey) (stake : ℕ)
    (excessWithdrawal : Option Address) (placeholderIsExitVault : Bool) (s : State) :
    Except GarError State := do
  let protectedAvailableAt ← addTime clock gatewayLeavePeriod
  let excessAvailableAt ← addTime clock s.settings.withdrawalPeriod
  let minStake := s.settings.minOperatorStake
  let protectedAmount := min stake minStake
  let excessAmount := saturatingSub stake minStake
  let counter := loadCounter s operator
  let exitId := counter.nextId
  requireAbsent (s.withdrawals (operator, exitId))
  let excessId ← exitId.next
  let s := s.setWithdrawal operator exitId (some {
    owner := operator
    withdrawalId := exitId
    gateway := operator
    amount := protectedAmount
    createdAt := clock
    availableAt := if 0 < protectedAmount then protectedAvailableAt else clock
    isDelegate := false
    isExitVault := placeholderIsExitVault || 0 < protectedAmount
    isProtected := 0 < protectedAmount })
  if 0 < excessAmount then do
    let excess ← okOr excessWithdrawal .missingExcessWithdrawal
    require (excess = .withdrawal operator excessId) .invalidExcessWithdrawalPda
    require ((s.withdrawals (operator, excessId)).isNone) .invalidParameter
    let nextId ← excessId.next
    let s := s.setWithdrawal operator excessId (some {
      owner := operator
      withdrawalId := excessId
      gateway := operator
      amount := excessAmount
      createdAt := clock
      availableAt := excessAvailableAt
      isDelegate := false
      isExitVault := true
      isProtected := false })
    return s.setCounter operator { counter with nextId }
  else return s.setCounter operator { counter with nextId := excessId }

/-- Mark a gateway and its registry slot as leaving, with no stake left. -/
def markLeaving (clock : ℤ) (operator : Pubkey) (gateway : Gateway) (epochDuration : ℤ)
    (s : State) : Except GarError State := do
  let index := gateway.registryIndex
  require (index < GatewayRegistry.maxGateways) .invalidParameter
  require (index < s.registry.count) .invalidParameter
  let slot := s.registry.gateways index
  require (slot.address = gateway.operator) .invalidParameter
  let s := s.setGateway operator (some { gateway with
    operatorStake := 0
    status := .leaving
    leaveTimestamp := some clock
    leaveEpochDuration := epochDuration })
  return { s with registry := s.registry.setSlot index { slot with
    compositeWeight := 0
    status := GatewaySlot.statusLeaving } }

/-- Close the observer lookup of a departing gateway, when the caller passed it last. -/
def closeLastObserverLookup (observer : Pubkey) (remaining : List AccountMeta) (s : State) :
    Except GarError State :=
  match remaining.getLast? with
  | none => return s
  | some info =>
    if info.address = .observerLookup observer ∧ info.isWritable then do
      -- only an account of this program can be drained
      require ((s.observerLookups observer).isSome) .accountNotInitialized
      return s.setObserverLookup observer none
    else return s

/-- Leave the network. -/
def leaveNetwork (clock : ℤ) (operator : Pubkey) (excessWithdrawal : Option Address)
    (remaining : List AccountMeta) (s : State) : Except GarError State := do
  let gateway ← loadOwnGateway s operator
  let epochSettings ← loadEpochSettings s
  require (gateway.status = .joined) .gatewayNotJoined
  let gatewayStake := gateway.operatorStake
  let s ← createExitVaults clock operator gatewayStake excessWithdrawal true s
  let s ← markLeaving clock operator gateway epochSettings.epochDuration s
  let s ← closeLastObserverLookup gateway.observerAddress remaining s
  let totalWithdrawn ← add64 s.settings.totalWithdrawn gatewayStake
  return { s with settings := { s.settings with
    totalStaked := saturatingSub s.settings.totalStaked gatewayStake
    totalWithdrawn } }

/-- Prune a gateway that failed too many epochs in a row: the minimum stake goes to the
treasury and the rest to exit vaults. Anyone may call it. -/
def pruneGateway (env : Env) (clock : ℤ) (operator stakeTokenAccount
    protocolTokenAccount : Pubkey) (excessWithdrawal : Option Address)
    (remaining : List AccountMeta) (s : State) : Except GarError State := do
  let epochSettings ← loadEpochSettings s
  let gateway ← loadGateway s operator
  checkStakeTokenAccount s stakeTokenAccount
  checkProtocolTokenAccount s protocolTokenAccount
  require (gateway.status = .joined) .gatewayNotJoined
  require (epochSettings.maxConsecutiveFailures ≤ gateway.stats.failedConsecutive)
    .gatewayNotEligible
  let slashAmount := min s.settings.minOperatorStake gateway.operatorStake
  let postSlash := saturatingSub gateway.operatorStake slashAmount
  let s ← createExitVaults clock operator postSlash excessWithdrawal false s
  let s ← splTransferNonzero s stakeTokenAccount protocolTokenAccount env.settingsPda slashAmount
  let s ← markLeaving clock operator gateway epochSettings.epochDuration s
  let s ← closeLastObserverLookup gateway.observerAddress remaining s
  let pruneStake := saturatingAdd 64 slashAmount postSlash
  let totalWithdrawn ← add64 s.settings.totalWithdrawn postSlash
  return { s with settings := { s.settings with
    totalStaked := saturatingSub s.settings.totalStaked pruneStake
    totalWithdrawn } }

/-! ### Finalization -/

/-- When a departed gateway may be removed. -/
def finalizeGoneExpiry (gateway : Gateway) (currentEpochDuration : ℤ) : Except GarError ℤ := do
  let leaveTs ← okOr gateway.leaveTimestamp .gatewayNotLeaving
  let effectiveDuration := max (max gateway.leaveEpochDuration currentEpochDuration) 0
  let epochWindow := saturatingMulSigned 64 effectiveDuration 7
  let total := saturatingAddSigned 64 gatewayLeavePeriod epochWindow
  return saturatingAddSigned 64 leaveTs total

/-- Move the last slot into slot `index`, and tell its gateway. -/
def moveLastSlot (index : ℕ) (remaining : List AccountMeta) (s : State) :
    Except GarError State :=
  let lastIndex := s.registry.count - 1
  if index ≠ lastIndex then do
    let swapped := s.registry.gateways lastIndex
    let info ← okOr (remaining.find? (·.address = .gateway swapped.address)) .invalidParameter
    require info.isWritable .invalidParameter
    let gateway ← okOr (s.gateways swapped.address) .invalidParameter
    let s := s.setGateway swapped.address (some { gateway with registryIndex := index })
    return { s with registry := s.registry.setSlot index swapped }
  else return s

/-- Clear the last slot. -/
def GatewayRegistry.dropLast (registry : GatewayRegistry) : GatewayRegistry where
  count := saturatingSub registry.count 1
  gateways := Function.update registry.gateways (registry.count - 1) GatewaySlot.zeroed

/-- Remove a departed gateway. Anyone may call it. -/
def finalizeGone (clock : ℤ) (operator : Pubkey) (remaining : List AccountMeta) (s : State) :
    Except GarError State := do
  let gateway ← loadGateway s operator
  let epochSettings ← loadEpochSettings s
  require (gateway.status = .leaving) .gatewayNotLeaving
  let expiry ← finalizeGoneExpiry gateway epochSettings.epochDuration
  require (expiry ≤ clock) .leaveWindowNotExpired
  require (gateway.totalDelegatedStake = 0) .delegationsOutstanding
  requireLatestEpochFinished epochSettings.currentEpochIndex remaining s
  require (0 < s.registry.count) .invalidParameter
  let index := gateway.registryIndex
  require (index < GatewayRegistry.maxGateways) .invalidParameter
  require (index < s.registry.count) .invalidParameter
  require ((s.registry.gateways index).address = gateway.operator) .invalidParameter
  let s ← moveLastSlot index remaining s
  let s := { s with registry := s.registry.dropLast }
  return s.setGateway operator none

/-! ### Settings of a gateway -/

/-- The fields that describe a gateway; `none` keeps what is there. -/
structure UpdateGatewayMetadataParams where
  label : Option (List UInt8)
  fqdn : Option (List UInt8)
  port : Option ℕ
  protocol : Option Protocol
  properties : Option (List UInt8)
  note : Option (List UInt8)

structure UpdateGatewayParams extends UpdateGatewayMetadataParams where
  allowDelegatedStaking : Option Bool
  delegateRewardShareRatio : Option ℕ
  minDelegateStake : Option ℕ

/-- Run a check on a value that was given. -/
def checkGiven {α : Type} (check : α → Except GarError Unit) (value : Option α) :
    Except GarError Unit :=
  value.elim (.ok ()) check

/-- Update the fields that describe a gateway. -/
def Gateway.describe (gateway : Gateway) (params : UpdateGatewayMetadataParams) :
    Except GarError Gateway := do
  checkGiven checkLabel params.label
  checkGiven checkFqdn params.fqdn
  checkGiven checkProperties params.properties
  checkGiven checkNote params.note
  return { gateway with
    label := params.label.getD gateway.label
    fqdn := params.fqdn.getD gateway.fqdn
    port := params.port.getD gateway.port
    protocol := params.protocol.getD gateway.protocol
    properties := params.properties.getD gateway.properties
    note := params.note.getD gateway.note }

/-- Switch delegated staking. Switching it off starts a cooldown; switching it on again needs
the cooldown to be over and all delegates gone. -/
def Gateway.switchDelegation (gateway : Gateway) (clock withdrawalPeriod : ℤ)
    (allowDelegatedStaking : Bool) : Except GarError Gateway := do
  let wasEnabled := gateway.settings.allowDelegatedStaking
  if !allowDelegatedStaking && wasEnabled then
    return { gateway with settings := { gateway.settings with
      allowDelegatedStaking
      delegationDisabledAt := some clock } }
  else if allowDelegatedStaking && !wasEnabled then
    require (gateway.totalDelegatedStake = 0) .delegatesStillActive
    match gateway.settings.delegationDisabledAt with
    | none => pure ()
    | some disabledAt => do
      let cooled ← addTime disabledAt withdrawalPeriod
      require (cooled ≤ clock) .delegationCooldownActive
    return { gateway with settings := { gateway.settings with
      allowDelegatedStaking
      delegationDisabledAt := none } }
  else
    return { gateway with settings := { gateway.settings with allowDelegatedStaking } }

/-- Update the settings of a gateway. A new reward share is staged until the next tally. -/
def updateGatewaySettings (clock : ℤ) (operator : Pubkey) (params : UpdateGatewayParams)
    (s : State) : Except GarError State := do
  let gateway ← loadOwnGateway s operator
  require (gateway.status = .joined) .gatewayLeaving
  let gateway ← gateway.describe params.toUpdateGatewayMetadataParams
  let gateway ← params.allowDelegatedStaking.elim (pure gateway)
    (gateway.switchDelegation clock s.settings.withdrawalPeriod)
  checkGiven checkRewardShare params.delegateRewardShareRatio
  checkGiven (fun minStake => require (s.settings.minDelegateStake ≤ minStake)
    .delegationBelowMinimum) params.minDelegateStake
  return s.setGateway operator (some { gateway with settings := { gateway.settings with
    pendingDelegateRewardShareRatio := (params.delegateRewardShareRatio.map (· * 100)).or
      gateway.settings.pendingDelegateRewardShareRatio
    minDelegationAmount := params.minDelegateStake.getD gateway.settings.minDelegationAmount } })

/-- `operationsAddress` was written by the program. -/
def operationsAddressIsSet (version : SchemaVersion) : Prop :=
  ¬ version.lt operationsAddressSince

instance (version : SchemaVersion) : Decidable (operationsAddressIsSet version) :=
  inferInstanceAs (Decidable (¬ _))

/-- `signer` may do the gateway's routine work: it is the operator, or the operations address
of a gateway that has one. -/
def Gateway.Authorises (gateway : Gateway) (signer : Pubkey) : Prop :=
  signer = gateway.operator ∨ operationsAddressIsSet gateway.version ∧
    gateway.operationsAddress ≠ Pubkey.default ∧ signer = gateway.operationsAddress

instance (gateway : Gateway) (signer : Pubkey) : Decidable (gateway.Authorises signer) :=
  inferInstanceAs (Decidable (_ ∨ _))

/-- Update the fields that describe a gateway, as its operator or its operations address. -/
def updateGatewayMetadata (signer operator : Pubkey) (params : UpdateGatewayMetadataParams)
    (s : State) : Except GarError State := do
  let gateway ← loadOwnGateway s operator
  require (gateway.status = .joined) .gatewayLeaving
  require (gateway.Authorises signer) .notGatewayAuthority
  let gateway ← gateway.describe params
  return s.setGateway operator (some gateway)

/-- Change the operations address of a gateway. -/
def updateOperationsAddress (operator newOperationsAddress : Pubkey) (s : State) :
    Except GarError State := do
  let gateway ← loadOwnGateway s operator
  require (gateway.status = .joined) .gatewayLeaving
  require (operationsAddressIsSet gateway.version) .gatewayNotMigrated
  require (newOperationsAddress ≠ Pubkey.default) .invalidParameter
  require (newOperationsAddress ≠ gateway.operationsAddress) .invalidParameter
  return s.setGateway operator (some { gateway with operationsAddress := newOperationsAddress })

/-- Change the observer address of a gateway, with its lookup. -/
def updateObserverAddress (operator newObserver : Pubkey) (s : State) :
    Except GarError State := do
  let gateway ← loadOwnGateway s operator
  let _ ← okOr (s.observerLookups gateway.observerAddress) .accountNotInitialized
  requireAbsent (s.observerLookups newObserver)
  require (gateway.status = .joined) .gatewayLeaving
  require (newObserver ≠ gateway.observerAddress) .invalidParameter
  let s := s.setGateway operator (some { gateway with observerAddress := newObserver })
  let s := s.setObserverLookup newObserver (some ⟨operator⟩)
  return s.setObserverLookup gateway.observerAddress none

end Gar
end ArioSolana
