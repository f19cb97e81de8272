import ArioSolana.GarEpoch

/-!
# Prescription and observation

`prescribeEpoch` draws the observers of an epoch by a weighted roulette over the cached weights,
looks up their observer addresses, draws the names they have to check, and fixes the reward of
a gateway and of an observer. While the epoch is open each prescribed observer reports once:
`saveObservations` adds the report to the failure counts of the epoch.
-/

namespace ArioSolana
namespace Gar

open Checked Solana
open Borsh (leBytes)

/-! ### The roulette -/

/-- The inclusive prefix sums of the weights of the first `n` slots. -/
def prefixSums (registry : GatewayRegistry) : ℕ → Except GarError (List ℕ)
  | 0 => return []
  | n + 1 => do
    let sums ← prefixSums registry n
    let running ← add64 (sums.getLastD 0) (registry.gateways n).compositeWeight
    return sums ++ [running]

/-- At most `rounds` draws of the roulette; each draw consumes a round, also when its slot was
chosen before. -/
def rouletteDraws (env : Env) (sums : List ℕ) (totalWeight cap : ℕ) :
    ℕ → Hash → List ℕ → List ℕ
  | 0, _, selected => selected
  | rounds + 1, hash, selected =>
    if cap ≤ selected.length then selected
    else
      let randomValue := hash.val % 2 ^ 128 % totalWeight
      let idx := sums.findIdx (randomValue < ·)
      let selected := if idx ∈ selected then selected else selected ++ [idx]
      rouletteDraws env sums totalWeight cap rounds (env.hash (leBytes 32 hash.val)) selected

/-- Weighted-roulette observer selection over the prefix sums: the selected slots in order. -/
def rouletteSelectIndices (env : Env) (hashchain : Hash) (sums : List ℕ) (maxObservers : ℕ) :
    List ℕ :=
  let totalWeight := sums.getLastD 0
  let cap := min maxObservers sums.length
  if totalWeight = 0 ∨ cap = 0 then []
  else rouletteDraws env sums totalWeight cap (cap * 10) (env.hash (leBytes 32 hashchain.val)) []

/-- The observer addresses of the selected slots. The gateway of each has to be among the
accounts the caller passed. -/
def resolveObservers (s : State) (remaining : List AccountMeta) :
    List ℕ → Except GarError (List Pubkey)
  | [] => return []
  | slot :: slots => do
    let observerGateway := (s.registry.gateways slot).address
    let _ ← okOr (remaining.find? (·.address = .gateway observerGateway)) .invalidGatewayAccount
    let gateway ← okOr (s.gateways observerGateway) .invalidGatewayAccount
    require (gateway.operator = observerGateway) .invalidGatewayAccount
    let observers ← resolveObservers s remaining slots
    return gateway.observerAddress :: observers

/-! ### Names -/

/-- An account of another program: its owner and its data. -/
structure RawAccount where
  owner : Pubkey
  data : List UInt8

/-- The number spelled by bytes, least significant first. -/
def leNat (bytes : List UInt8) : ℕ := bytes.foldr (fun b n => b.toNat + 256 * n) 0

/-- Read the name count of a name registry. -/
def readNameRegistryHeader (data : List UInt8) : Option ℕ :=
  if data.length < 48 then none else some (leNat ((data.drop 40).take 4))

/-- Read the name hash of entry `index` of a name registry. -/
def readNameEntry (data : List UInt8) (index : ℕ) : Option Hash :=
  let offset := 48 + index * 40
  if data.length < offset + 32 then none
  else
    let hash := Fin.ofNat (2 ^ 256) (leNat ((data.drop offset).take 32))
    if hash = 0 then none else some hash

/-- At most `rounds` draws of a name. A draw takes the first entry, from a random one on, that
is not taken yet. -/
def nameDraws (env : Env) (data : List UInt8) (activeNames prescribedCount : ℕ) :
    ℕ → Hash → List Hash → List Hash
  | 0, _, names => names
  | rounds + 1, nameHash, names =>
    if prescribedCount ≤ names.length then names
    else
      let randomIdx := nameHash.val % 2 ^ 64 % activeNames
      let found := (List.range activeNames).findSome? fun probe =>
        (readNameEntry data ((randomIdx + probe) % activeNames)).filter (· ∉ names)
      nameDraws env data activeNames prescribedCount rounds
        (env.hash (leBytes 32 nameHash.val)) (names ++ found.toList)

/-- The names of an epoch, drawn from the name registry when the caller passed it as its last
extra account. `none` leaves the epoch's names as they are. -/
def selectNames (env : Env) (settings : EpochSettings) (hashchain : Hash) (selectedCount : ℕ)
    (remaining : List AccountMeta) (nameRegistry : RawAccount) (arnsProgramId : Pubkey) :
    Except GarError (Option (List Hash)) :=
  match remaining.getLast? with
  | none => return none
  | some info =>
    if remaining.length ≤ selectedCount then return none
    else do
      require (nameRegistry.owner = arnsProgramId) .invalidNameRegistry
      require (info.address = .other (env.nameRegistryPda arnsProgramId)) .invalidNameRegistry
      match readNameRegistryHeader nameRegistry.data with
      | none => return none
      | some activeNames =>
        let prescribedCount := min settings.prescribedNameCount (min activeNames 2)
        if 0 < activeNames ∧ 0 < prescribedCount then
          return some (nameDraws env nameRegistry.data activeNames prescribedCount
            (prescribedCount * 3) (env.hash (leBytes 32 hashchain.val)) [])
        else return none

/-! ### Prescription -/

/-- An array with a list written at its start. -/
def overwrite {α : Type} (old : ℕ → α) (new : List α) : ℕ → α := fun i => new[i]?.getD (old i)

/-- The slots with a cached weight among the first `n`. -/
def GatewayRegistry.weighted (registry : GatewayRegistry) (n : ℕ) : ℕ :=
  (List.range n).countP fun i => 0 < (registry.gateways i).compositeWeight

/-- A share of the rewards. -/
def rewardShare (total ratio : ℕ) : ℕ :=
  truncate 64 ((checkedDiv ((checkedMul 128 total ratio).getD 0) rateScale).getD 0)

/-- Prescribe observers and names for an epoch, and fix the rewards. Anyone may call it. -/
def prescribeEpoch (env : Env) (index : ℕ) (remaining : List AccountMeta)
    (nameRegistry : RawAccount) (s : State) : Except GarError State := do
  let settings ← loadEpochSettings s
  let epoch ← loadEpoch s index
  require (epoch.weightsTallied ≠ 0) .weightsNotTallied
  require (epoch.prescriptionsDone = 0) .prescriptionsAlreadyDone
  let activeCount := epoch.activeGatewayCount
  require (activeCount ≤ GatewayRegistry.maxGateways) .panicked
  let sums ← prefixSums s.registry activeCount
  let maxObservers := min settings.prescribedObserverCount activeCount
  let selected := rouletteSelectIndices env epoch.hashchain sums maxObservers
  -- the epoch has room for 50 observers
  require (selected.length ≤ 50) .panicked
  let observers ← resolveObservers s remaining selected
  let names ← selectNames env settings epoch.hashchain selected.length remaining nameRegistry
    s.settings.arnsProgramId
  let joinedCount := s.registry.weighted activeCount
  let total := epoch.totalEligibleRewards
  return s.setEpoch index (some { epoch with
    prescribedObserverGateways := overwrite epoch.prescribedObserverGateways
      (selected.map fun slot => (s.registry.gateways slot).address)
    prescribedObservers := overwrite epoch.prescribedObservers observers
    observerCount := selected.length
    prescribedNames := overwrite epoch.prescribedNames (names.getD [])
    nameCount := names.elim epoch.nameCount List.length
    perGatewayReward :=
      if 0 < joinedCount then rewardShare total settings.gatewayRewardRatio / joinedCount
      else epoch.perGatewayReward
    perObserverReward :=
      if 0 < joinedCount ∧ 0 < selected.length then
        rewardShare total settings.observerRewardRatio / selected.length
      else epoch.perObserverReward
    prescriptionsDone := 1 })

/-! ### Observation -/

/-- Mark the prescribed observer at `idx` as having submitted. -/
def Epoch.setObserved (epoch : Epoch) (idx : ℕ) : Epoch :=
  if idx < 50 then { epoch with hasObserved := epoch.hasObserved ||| BitVec.twoPow 56 idx }
  else epoch

/-- Whether the prescribed observer at `idx` has submitted. -/
def Epoch.isObserved (epoch : Epoch) (idx : ℕ) : Bool :=
  if idx < 50 then epoch.hasObserved.getLsbD idx else false

/-- The first position of a key among the first `n` of an array. -/
def position (array : ℕ → Pubkey) (n : ℕ) (key : Pubkey) : Option ℕ :=
  (List.range n).find? fun i => array i = key

/-- Submit an observation report. -/
def saveObservations (clock : ℤ) (observer : Pubkey) (index : ℕ) (gatewayResults : BitVec 3000)
    (gatewayCount : ℕ) (reportTxId : Hash) (s : State) : Except GarError State := do
  let epoch ← loadEpoch s index
  requireAbsent (s.observations (index, observer))
  require (epoch.prescriptionsDone ≠ 0) .prescriptionsNotDone
  require (epoch.startTimestamp ≤ clock) .epochNotStarted
  require (clock < epoch.endTimestamp) .epochEnded
  require (gatewayCount = epoch.activeGatewayCount) .invalidObservation
  require (epoch.observerCount ≤ 50) .panicked
  let observerIdx ← okOr (position epoch.prescribedObservers epoch.observerCount observer)
    .notPrescribedObserver
  let epoch := epoch.setObserved observerIdx
  let s := s.setObservation index observer (some {
    epochIndex := epoch.epochIndex
    observer
    gatewayResults
    gatewayCount
    reportTxId
    submittedAt := clock })
  return s.setEpoch index (some { epoch with
    failureCounts := fun i =>
      if i < min epoch.activeGatewayCount gatewayCount ∧ i / 8 < 375 ∧
          gatewayResults.getLsbD i = false then
        saturatingAdd 16 (epoch.failureCounts i) 1
      else epoch.failureCounts i
    observationsSubmitted := saturatingAdd 8 epoch.observationsSubmitted 1 })

/-- Close an observation of a distributed epoch. Anyone may call it. -/
def closeObservation (index : ℕ) (observer : Pubkey) (s : State) : Except GarError State := do
  let epoch ← loadEpoch s index
  let observation ← okOr (s.observations (index, observer)) .accountNotInitialized
  require (observation.observer = observer) .constraintSeeds
  require (observation.epochIndex = index) .invalidEpochIndex
  require (epoch.rewardsDistributed ≠ 0) .epochNotCloseable
  let s := s.setEpoch index (some { epoch with
    observationsClosed := saturatingAdd 8 epoch.observationsClosed 1 })
  return s.setObservation index observer none

end Gar
end ArioSolana
