import ArioSolana.AntAcl
import ArioSolana.Runs

/-!
# The program of name assets

The owner of an asset and the controllers manage its configuration and its records, and the owner
of a record, if it has one, its content. The asset program moves assets without asking this
program, so each call first compares the owner with the last known one and drops the controllers if
they differ. A record remembers the owner under whom it was last touched, and its own owner is
dropped at the next touch under another.
-/

namespace ArioSolana
namespace Ant

open Checked Solana

/-! ### Permission -/

/-- The configuration and the controllers after reconciliation, and whether the caller may manage
the asset. -/
structure Access where
  config : AntConfig
  controllers : AntControllers
  isOwnerOrController : Bool

/-- Drop the controllers if the asset has another owner than the last known one, then look at the
caller. -/
def reconcileAndCheckPermission (config : AntConfig) (controllers : AntControllers)
    (currentNftOwner caller : Pubkey) : Access :=
  if config.lastKnownOwner ≠ currentNftOwner then
    ⟨{ config with lastKnownOwner := currentNftOwner }, { controllers with controllers := [] },
      caller = currentNftOwner⟩
  else
    ⟨config, controllers, caller = currentNftOwner || caller ∈ controllers.controllers⟩

/-- The accounts that every managing call loads. -/
def loadAccess (asset caller : Pubkey) (s : State) : Except AntError Access := do
  let nftOwner ← readAssetOwner s asset
  let config ← okOr (s.configs asset) .accountNotInitialized
  let controllers ← okOr (s.controllers asset) .accountNotInitialized
  return reconcileAndCheckPermission config controllers nftOwner caller

def State.setAccess (s : State) (asset : Pubkey) (access : Access) : State :=
  (s.setConfig asset (some access.config)).setControllers asset (some access.controllers)

/-! ### Initialization -/

structure InitializeAntParams where
  name : Text
  ticker : Option Text
  target : Text
  targetProtocol : Option ℕ
  logo : Text
  description : Text
  keywords : List Text

def defaultLogo : Text := ascii "AnYvLJTWcG9lr2Ll5MwYWZR2o5uTE39WbpYB0zCxwKM"

def validateTicker (ticker : Option Text) : Except AntError Unit :=
  match ticker with
  | some t => require (t ≠ [] ∧ t.length ≤ maxTickerLength) .tickerTooLong
  | none => .ok ()

def initializeAnt (env : Env) (asset owner : Pubkey) (params : InitializeAntParams) (s : State) :
    Except AntError State := do
  require ((s.configs asset).isNone) .accountAlreadyInUse
  require ((s.controllers asset).isNone) .accountAlreadyInUse
  let root := hashUndername env (ascii "@")
  require ((s.records asset root).isNone) .accountAlreadyInUse
  let nftOwner ← readAssetOwner s asset
  require (owner = nftOwner) .notNftHolder
  require (params.name ≠ []) .nameEmpty
  require (params.name.length ≤ maxNameLength) .nameTooLong
  validateTicker params.ticker
  let targetProtocol := params.targetProtocol.getD protocolArweave
  require (validateTarget params.target targetProtocol) .invalidTarget
  require (params.logo ≠ [] → isValidArweaveId params.logo) .invalidLogo
  require (params.description ≠ [] → params.description.length ≤ maxDescriptionLength)
    .descriptionTooLong
  require (params.keywords ≠ [] → validateKeywords params.keywords) .invalidKeyword
  let s := s.setConfig asset (some {
    mint := asset
    name := params.name
    ticker := params.ticker.getD (ascii "ANT")
    logo := if params.logo = [] then defaultLogo else params.logo
    description := params.description
    keywords := params.keywords
    lastKnownOwner := owner
    bump := env.bump asset (ascii "ant_config")
    version := currentVersion })
  let s := s.setControllers asset (some { mint := asset, controllers := [owner] })
  return s.setRecord asset root (some {
    mint := asset
    undername := ascii "@"
    target := params.target
    targetProtocol
    ttlSeconds := defaultTtlSeconds
    priority := some 0
    owner := none
    lastReconciledOwner := owner
    bump := env.bump asset (ascii "@")
    version := currentVersion })

/-! ### Records -/

structure SetRecordParams where
  undername : Text
  target : Text
  targetProtocol : ℕ
  ttlSeconds : ℕ
  priority : Option ℕ
  /-- a word of 32 bits -/
  priorityFits : ∀ p ∈ priority, p < 2 ^ 32
  recordOwner : Option Pubkey

/-- A record's account before its first write. -/
def emptyRecord : AntRecord where
  mint := .default
  undername := []
  target := []
  targetProtocol := 0
  ttlSeconds := 0
  priority := none
  owner := none
  lastReconciledOwner := .default
  bump := 0
  version := ⟨0, 0, 0⟩

/-- Drop the owner of a record that was last touched under another owner of the asset. -/
def clearStale (config : AntConfig) (record : AntRecord) : AntRecord :=
  if record.lastReconciledOwner ≠ config.lastKnownOwner then
    { record with owner := none, lastReconciledOwner := config.lastKnownOwner }
  else record

/-- The record of a call that writes one: a new one, which the manager may create, or an existing
one, on which the caller has rights. -/
def openRecord (env : Env) (access : Access) (asset caller : Pubkey) (undername : Text)
    (record : AntRecord) : Except AntError AntRecord :=
  if record.undername = [] then do
    require access.isOwnerOrController .onlyOwnerOrControllerCanCreate
    return { record with
      mint := asset
      undername
      lastReconciledOwner := access.config.lastKnownOwner
      bump := env.bump asset undername
      version := currentVersion }
  else do
    let record := clearStale access.config record
    require (access.isOwnerOrController ∨ record.owner = some caller) .unauthorizedRecordAccess
    return record

/-- The priority that a record gets. -/
def recordPriority (undername : Text) (priority old : Option ℕ) (isOwnerOrController : Bool) :
    Except AntError (Option ℕ) :=
  if undername = ascii "@" then do
    require (isValidPriorityForUndername (ascii "@") priority) .cannotChangePriorityOfRoot
    return some 0
  else if priority.isSome then do
    require isOwnerOrController .priorityRequiresOwnerOrController
    return priority
  else return old

def setRecord (env : Env) (asset caller : Pubkey) (params : SetRecordParams) (s : State) :
    Except AntError State := do
  let undername := env.toLowercase params.undername
  require (isValidUndername undername) .invalidUndername
  require (validateTarget params.target params.targetProtocol) .invalidTarget
  require (isValidTtl params.ttlSeconds) .invalidTtl
  let access ← loadAccess asset caller s
  let hash := hashUndername env params.undername
  let record ← openRecord env access asset caller undername
    ((s.records asset hash).getD emptyRecord)
  let priority ← recordPriority undername params.priority record.priority access.isOwnerOrController
  return (s.setAccess asset access).setRecord asset hash (some { record with
    priority
    owner := if access.isOwnerOrController then params.recordOwner else record.owner
    target := params.target
    targetProtocol := params.targetProtocol
    ttlSeconds := params.ttlSeconds })

/-- A record at the address of its own undername. -/
def loadRecord (env : Env) (asset : Pubkey) (hash : Bytes32) (s : State) :
    Except AntError AntRecord := do
  let record ← okOr (s.records asset hash) .accountNotInitialized
  require (hash = hashUndername env record.undername) .constraintSeeds
  return record

/-- Close a record, and its metadata if the caller names them. -/
def removeRecord (env : Env) (asset caller : Pubkey) (hash : Bytes32) (withMetadata : Bool)
    (s : State) : Except AntError State := do
  let record ← loadRecord env asset hash s
  require (withMetadata → (s.metadata asset hash).isSome) .accountNotInitialized
  require (record.undername ≠ ascii "@") .cannotRemoveRootRecord
  let access ← loadAccess asset caller s
  require access.isOwnerOrController .unauthorized
  let s := (s.setAccess asset access).setRecord asset hash none
  return if withMetadata then s.setMetadata asset hash none else s

/-- Hand a record to another owner. -/
def transferRecord (env : Env) (asset caller : Pubkey) (hash : Bytes32) (newOwner : Pubkey)
    (s : State) : Except AntError State := do
  let record ← loadRecord env asset hash s
  let access ← loadAccess asset caller s
  let record := clearStale access.config record
  require (access.isOwnerOrController ∨ record.owner.isSome) .recordHasNoOwner
  require (access.isOwnerOrController ∨ record.owner = some caller) .unauthorizedRecordAccess
  require (record.owner ≠ some newOwner) .recordTransferToSelf
  return (s.setAccess asset access).setRecord asset hash
    (some { record with owner := some newOwner })

/-! ### Controllers -/

def addController (asset caller controller : Pubkey) (index : ℕ) (s : State) :
    Except AntError State := do
  let access ← loadAccess asset caller s
  require access.isOwnerOrController .unauthorized
  require (controller ∉ access.controllers.controllers) .controllerAlreadyExists
  require (access.controllers.controllers.length < maxControllers) .maxControllersReached
  let s := s.setAccess asset { access with controllers := { access.controllers with
    controllers := access.controllers.controllers ++ [controller] } }
  addEntry controller index ⟨asset, .controller⟩ s

def removeController (asset caller controller : Pubkey) (index : ℕ) (s : State) :
    Except AntError State := do
  let access ← loadAccess asset caller s
  require access.isOwnerOrController .unauthorized
  require (controller ∈ access.controllers.controllers) .controllerNotFound
  let s := s.setAccess asset { access with controllers := { access.controllers with
    controllers := access.controllers.controllers.erase controller } }
  removeEntry controller index ⟨asset, .controller⟩ s

/-! ### Metadata of an asset -/

/-- Change the configuration, for those who manage the asset. -/
def manageMetadata (asset caller : Pubkey) (change : AntConfig → AntConfig) (s : State) :
    Except AntError State := do
  let access ← loadAccess asset caller s
  require access.isOwnerOrController .unauthorized
  return s.setAccess asset { access with config := change access.config }

def setName (asset caller : Pubkey) (name : Text) (s : State) : Except AntError State := do
  require (name ≠ []) .nameEmpty
  require (name.length ≤ maxNameLength) .nameTooLong
  manageMetadata asset caller (fun config => { config with name }) s

def setTicker (asset caller : Pubkey) (ticker : Text) (s : State) : Except AntError State := do
  require (ticker ≠ []) .tickerEmpty
  require (ticker.length ≤ maxTickerLength) .tickerTooLong
  manageMetadata asset caller (fun config => { config with ticker }) s

def setDescription (asset caller : Pubkey) (description : Text) (s : State) :
    Except AntError State := do
  require (description.length ≤ maxDescriptionLength) .descriptionTooLong
  manageMetadata asset caller (fun config => { config with description }) s

def setKeywords (asset caller : Pubkey) (keywords : List Text) (s : State) :
    Except AntError State := do
  require (validateKeywords keywords) .invalidKeyword
  manageMetadata asset caller (fun config => { config with keywords }) s

def setLogo (asset caller : Pubkey) (logo : Text) (s : State) : Except AntError State := do
  require (isValidArweaveId logo) .invalidLogo
  manageMetadata asset caller (fun config => { config with logo }) s

/-! ### Ownership -/

/-- Hand the asset to another owner, with both users' lists. -/
def transfer (asset caller newOwner : Pubkey) (newIndex oldIndex : ℕ) (s : State) :
    Except AntError State := do
  let config ← okOr (s.configs asset) .accountNotInitialized
  let controllers ← okOr (s.controllers asset) .accountNotInitialized
  let oldOwner ← readAssetOwner s asset
  require (caller = oldOwner) .notNftHolder
  require (newOwner ≠ oldOwner) .transferToSelf
  let s := { s with assets := Function.update s.assets asset (some newOwner) }
  let s := s.setConfig asset (some { config with lastKnownOwner := newOwner })
  let s := s.setControllers asset (some { controllers with controllers := [] })
  let s ← addEntry newOwner newIndex ⟨asset, .owner⟩ s
  removeEntry caller oldIndex ⟨asset, .owner⟩ s

/-- Bring the configuration in line with the owner of the asset. -/
def reconcile (asset : Pubkey) (s : State) : Except AntError State := do
  let config ← okOr (s.configs asset) .accountNotInitialized
  let controllers ← okOr (s.controllers asset) .accountNotInitialized
  let nftOwner ← readAssetOwner s asset
  return if config.lastKnownOwner ≠ nftOwner then
    (s.setConfig asset (some { config with lastKnownOwner := nftOwner })).setControllers asset
      (some { controllers with controllers := [] })
  else s

/-! ### Metadata of a record -/

structure SetRecordMetadataParams where
  undername : Text
  displayName : Option Text
  recordLogo : Option Text
  recordDescription : Option Text
  recordKeywords : Option (List Text)

def setRecordMetadata (env : Env) (asset caller : Pubkey) (params : SetRecordMetadataParams)
    (s : State) : Except AntError State := do
  let undername := env.toLowercase params.undername
  let hash := hashUndername env params.undername
  let record ← okOr (s.records asset hash) .accountNotInitialized
  require (isValidUndername undername) .invalidUndername
  require (∀ dn ∈ params.displayName, dn.length ≤ maxNameLength) .nameTooLong
  require (∀ logo ∈ params.recordLogo, isValidArweaveId logo) .invalidLogo
  require (∀ desc ∈ params.recordDescription, desc.length ≤ maxDescriptionLength)
    .descriptionTooLong
  require (∀ kws ∈ params.recordKeywords, validateKeywords kws) .invalidKeyword
  let access ← loadAccess asset caller s
  require (record.undername ≠ []) .recordNotFound
  require (access.isOwnerOrController ∨
    record.lastReconciledOwner = access.config.lastKnownOwner ∧ record.owner = some caller)
    .unauthorizedRecordAccess
  return (s.setAccess asset access).setMetadata asset hash (some {
    mint := asset
    undernameHash := hashUndername env undername
    displayName := params.displayName
    recordLogo := params.recordLogo
    recordDescription := params.recordDescription
    recordKeywords := params.recordKeywords })

def removeRecordMetadata (env : Env) (asset caller : Pubkey) (undername : Text) (s : State) :
    Except AntError State := do
  let hash := hashUndername env undername
  require ((s.metadata asset hash).isSome) .accountNotInitialized
  require (isValidUndername (env.toLowercase undername)) .invalidUndername
  let access ← loadAccess asset caller s
  require access.isOwnerOrController .unauthorized
  return (s.setAccess asset access).setMetadata asset hash none

/-- Anybody may close the metadata of a record that is gone. -/
def closeOrphanedRecordMetadata (env : Env) (asset : Pubkey) (undername : Text) (s : State) :
    Except AntError State := do
  let _ ← readAssetOwner s asset
  let undername := env.toLowercase undername
  let hash := hashUndername env undername
  require ((s.metadata asset hash).isSome) .accountNotInitialized
  require (isValidUndername undername) .invalidUndername
  require ((s.records asset hash).isNone) .recordStillExists
  return s.setMetadata asset hash none

/-! ### Closing accounts -/

/-- The caller is the owner of the asset. -/
def requireHolder (asset caller : Pubkey) (s : State) : Except AntError Unit := do
  let nftOwner ← readAssetOwner s asset
  require (caller = nftOwner) .notNftHolder

def closeAntRecord (env : Env) (asset caller : Pubkey) (undername : Text) (s : State) :
    Except AntError State := do
  let hash := hashUndername env (env.toLowercase undername)
  require ((s.records asset hash).isSome) .accountNotInitialized
  requireHolder asset caller s
  return s.setRecord asset hash none

def closeAntRecordMetadataForOwner (env : Env) (asset caller : Pubkey) (undername : Text)
    (s : State) : Except AntError State := do
  let hash := hashUndername env (env.toLowercase undername)
  require ((s.metadata asset hash).isSome) .accountNotInitialized
  requireHolder asset caller s
  return s.setMetadata asset hash none

def closeAntControllers (asset caller : Pubkey) (s : State) : Except AntError State := do
  require ((s.controllers asset).isSome) .accountNotInitialized
  requireHolder asset caller s
  return s.setControllers asset none

def closeAntConfig (asset caller : Pubkey) (s : State) : Except AntError State := do
  require ((s.configs asset).isSome) .accountNotInitialized
  requireHolder asset caller s
  return s.setConfig asset none

/-! ### Steps -/

/-- A call on an asset, without its accounts' keys that follow from the asset. -/
inductive AssetCall where
  | initializeAnt (params : InitializeAntParams)
  | setRecord (params : SetRecordParams)
  | removeRecord (hash : Bytes32) (withMetadata : Bool)
  | transferRecord (hash : Bytes32) (newOwner : Pubkey)
  | addController (controller : Pubkey) (index : ℕ)
  | removeController (controller : Pubkey) (index : ℕ)
  | setName (name : Text)
  | setTicker (ticker : Text)
  | setDescription (description : Text)
  | setKeywords (keywords : List Text)
  | setLogo (logo : Text)
  | transfer (newOwner : Pubkey) (newIndex oldIndex : ℕ)
  | reconcile
  | setRecordMetadata (params : SetRecordMetadataParams)
  | removeRecordMetadata (undername : Text)
  | closeOrphanedRecordMetadata (undername : Text)
  | closeAntRecord (undername : Text)
  | closeAntRecordMetadataForOwner (undername : Text)
  | closeAntControllers
  | closeAntConfig

/-- The handler of a call. -/
def AssetCall.handler (env : Env) (asset caller : Pubkey) (call : AssetCall) (s : State) :
    Except AntError State :=
  match call with
  | .initializeAnt params => Ant.initializeAnt env asset caller params s
  | .setRecord params => Ant.setRecord env asset caller params s
  | .removeRecord hash withMetadata => Ant.removeRecord env asset caller hash withMetadata s
  | .transferRecord hash newOwner => Ant.transferRecord env asset caller hash newOwner s
  | .addController controller index => Ant.addController asset caller controller index s
  | .removeController controller index => Ant.removeController asset caller controller index s
  | .setName name => Ant.setName asset caller name s
  | .setTicker ticker => Ant.setTicker asset caller ticker s
  | .setDescription description => Ant.setDescription asset caller description s
  | .setKeywords keywords => Ant.setKeywords asset caller keywords s
  | .setLogo logo => Ant.setLogo asset caller logo s
  | .transfer newOwner newIndex oldIndex =>
    Ant.transfer asset caller newOwner newIndex oldIndex s
  | .reconcile => Ant.reconcile asset s
  | .setRecordMetadata params => Ant.setRecordMetadata env asset caller params s
  | .removeRecordMetadata undername => Ant.removeRecordMetadata env asset caller undername s
  | .closeOrphanedRecordMetadata undername => Ant.closeOrphanedRecordMetadata env asset undername s
  | .closeAntRecord undername => Ant.closeAntRecord env asset caller undername s
  | .closeAntRecordMetadataForOwner undername =>
    Ant.closeAntRecordMetadataForOwner env asset caller undername s
  | .closeAntControllers => Ant.closeAntControllers asset caller s
  | .closeAntConfig => Ant.closeAntConfig asset caller s

/-- A call on a user's list. -/
inductive AclCall where
  | registerAclConfig
  | closeAclConfig
  | addAclPage
  | closeAclPage (index : ℕ)
  | recordAclOwner (asset : Pubkey) (index : ℕ)
  | recordAclController (asset : Pubkey) (index : ℕ)
  | removeAclOwner (asset : Pubkey) (index : ℕ)
  | removeAclController (asset : Pubkey) (index : ℕ)

/-- The handler of a call. -/
def AclCall.handler (user : Pubkey) (call : AclCall) (s : State) : Except AntError State :=
  match call with
  | .registerAclConfig => Ant.registerAclConfig user s
  | .closeAclConfig => Ant.closeAclConfig user s
  | .addAclPage => Ant.addAclPage user s
  | .closeAclPage index => Ant.closeAclPage user index s
  | .recordAclOwner asset index => Ant.recordAclOwner asset user index s
  | .recordAclController asset index => Ant.recordAclController asset user index s
  | .removeAclOwner asset index => Ant.removeAclOwner asset user index s
  | .removeAclController asset index => Ant.removeAclController asset user index s

/-- What can happen: a call by a signer on an asset, a call by anybody on a user's list, or the
asset program moving or burning an asset. -/
inductive Event where
  | assetCall (asset caller : Pubkey) (call : AssetCall)
  | aclCall (user : Pubkey) (call : AclCall)
  | mplTransfer (asset newOwner : Pubkey)
  | mplBurn (asset : Pubkey)

def Event.exec (env : Env) (s : State) : Event → Except AntError State
  | .assetCall asset caller call => call.handler env asset caller s
  | .aclCall user call => call.handler user s
  | .mplTransfer asset newOwner => do
    let _ ← readAssetOwner s asset
    return { s with assets := Function.update s.assets asset (some newOwner) }
  | .mplBurn asset => do
    let _ ← readAssetOwner s asset
    return { s with assets := Function.update s.assets asset none }

/-- One step of the system. -/
def AntStep (env : Env) (s : State) (e : Event) (s' : State) : Prop := e.exec env s = .ok s'

/-- A history of the system. -/
abbrev Trace := List (Step State Event)

/-- Assets that this program does not know yet, and no lists. -/
structure Fresh (s : State) : Prop where
  configs : s.configs = fun _ => none
  controllers : s.controllers = fun _ => none
  records : s.records = fun _ _ => none
  metadata : s.metadata = fun _ _ => none
  aclConfigs : s.aclConfigs = fun _ => none
  aclPages : s.aclPages = fun _ _ => none

end Ant
end ArioSolana
