import ArioSolana.AnchorAccounts
import ArioSolana.Bytes

/-!
# Names and their accounts

An ANT is an asset that controls a name. The program keeps for it a configuration, a list of
controllers, and a record for each undername, optionally with metadata; and for each user a paged
list of the assets that they own or control. `State` holds these accounts by the keys that their
addresses are derived from, and the owner that the asset program knows for each asset.
-/

namespace ArioSolana
namespace Ant

open Checked Solana Borsh
open Anchor (SchemaVersion)

/-- A string of the program, as its bytes. -/
abbrev Text := List UInt8

inductive AntError where
  | invalidAsset
  | notNftHolder
  | unauthorized
  | nameEmpty
  | nameTooLong
  | tickerEmpty
  | tickerTooLong
  | descriptionTooLong
  | invalidKeyword
  | invalidLogo
  | invalidTarget
  | invalidTtl
  | invalidUndername
  | onlyOwnerOrControllerCanCreate
  | unauthorizedRecordAccess
  | cannotChangePriorityOfRoot
  | priorityRequiresOwnerOrController
  | cannotRemoveRootRecord
  | recordHasNoOwner
  | recordTransferToSelf
  | recordNotFound
  | recordStillExists
  | controllerAlreadyExists
  | controllerNotFound
  | maxControllersReached
  | transferToSelf
  | aclEntryAlreadyExists
  | aclEntryNotFound
  | aclPageFull
  | aclConfigNotEmpty
  | aclPageNotEmpty
  | aclPageNotLast
  | aclPageUserMismatch
  | aclPageOutOfBounds
  | aclConfigUserMismatch
  | notCurrentOwner
  | notCurrentController
  | stillCurrentOwner
  | stillCurrentController
  | accountAlreadyInUse
  | accountNotInitialized
  | constraintSeeds
  /-- the asset program refuses -/
  | assetProgram
  /-- an addition that must not leave the word does -/
  | overflow
deriving DecidableEq

/-! ### Constants -/

def maxUndernameLength : ℕ := 61

def minTtlSeconds : ℕ := 60

def maxTtlSeconds : ℕ := 86400

def defaultTtlSeconds : ℕ := 900

def maxNameLength : ℕ := 61

def maxDescriptionLength : ℕ := 128

def maxKeywords : ℕ := 3

def maxKeywordLength : ℕ := 32

def maxControllers : ℕ := 4

def maxAclPageEntries : ℕ := 256

def maxTickerLength : ℕ := 16

def arweaveTxIdLength : ℕ := 43

def cidv0Length : ℕ := 46

def maxTargetLength : ℕ := 128

def protocolArweave : ℕ := 0

def protocolIpfs : ℕ := 1

/-! ### Accounts -/

/-- The version that accounts are created with. -/
def currentVersion : SchemaVersion := ⟨1, 0, 0⟩

structure AntConfig where
  mint : Pubkey
  name : Text
  ticker : Text
  logo : Text
  description : Text
  keywords : List Text
  lastKnownOwner : Pubkey
  bump : ℕ
  version : SchemaVersion
deriving DecidableEq

structure AntControllers where
  mint : Pubkey
  controllers : List Pubkey
deriving DecidableEq

structure AntRecord where
  mint : Pubkey
  undername : Text
  target : Text
  targetProtocol : ℕ
  ttlSeconds : ℕ
  priority : Option ℕ
  /-- whom control of the record is delegated to -/
  owner : Option Pubkey
  /-- the owner of the asset when the record was last touched -/
  lastReconciledOwner : Pubkey
  bump : ℕ
  version : SchemaVersion
deriving DecidableEq

structure AntRecordMetadata where
  mint : Pubkey
  undernameHash : Bytes32
  displayName : Option Text
  recordLogo : Option Text
  recordDescription : Option Text
  recordKeywords : Option (List Text)
deriving DecidableEq

/-- What a user is to an asset. -/
inductive AclRole where
  | owner
  | controller
deriving DecidableEq

structure AclEntry where
  asset : Pubkey
  role : AclRole
deriving DecidableEq

/-- The head of a user's list. -/
structure AclConfig where
  user : Pubkey
  pageCount : ℕ
  totalEntries : ℕ
deriving DecidableEq

structure AclPage where
  user : Pubkey
  pageIdx : ℕ
  entries : List AclEntry
  /-- the length of the account -/
  dataLen : ℕ
deriving DecidableEq

/-- The accounts of the program, and the owners of the assets. -/
structure State where
  /-- `none` for what is no asset of the asset program -/
  assets : Pubkey → Option Pubkey
  configs : Pubkey → Option AntConfig
  controllers : Pubkey → Option AntControllers
  /-- by the asset and the hash of the undername -/
  records : Pubkey → Bytes32 → Option AntRecord
  metadata : Pubkey → Bytes32 → Option AntRecordMetadata
  aclConfigs : Pubkey → Option AclConfig
  aclPages : Pubkey → ℕ → Option AclPage

/-- What the program takes from its surroundings. -/
structure Env where
  sha256 : Text → Bytes32
  /-- the lower case of a text, as the language's library has it -/
  toLowercase : Text → Text
  /-- the bump of an account of an asset -/
  bump : Pubkey → Text → ℕ

def State.setConfig (s : State) (asset : Pubkey) (config : Option AntConfig) : State :=
  { s with configs := Function.update s.configs asset config }

def State.setControllers (s : State) (asset : Pubkey) (list : Option AntControllers) : State :=
  { s with controllers := Function.update s.controllers asset list }

def State.setRecord (s : State) (asset : Pubkey) (hash : Bytes32) (record : Option AntRecord) :
    State :=
  { s with
    records := Function.update s.records asset (Function.update (s.records asset) hash record) }

def State.setMetadata (s : State) (asset : Pubkey) (hash : Bytes32)
    (metadata : Option AntRecordMetadata) : State :=
  { s with
    metadata := Function.update s.metadata asset (Function.update (s.metadata asset) hash
      metadata) }

def State.setAclConfig (s : State) (user : Pubkey) (config : Option AclConfig) : State :=
  { s with aclConfigs := Function.update s.aclConfigs user config }

def State.setAclPage (s : State) (user : Pubkey) (index : ℕ) (page : Option AclPage) : State :=
  { s with
    aclPages := Function.update s.aclPages user (Function.update (s.aclPages user) index page) }

def hashUndername (env : Env) (undername : Text) : Bytes32 := env.sha256 (env.toLowercase undername)

/-! ### Encodings -/

def AntConfig.encode (c : AntConfig) : List UInt8 :=
  pubkeyBytes c.mint ++ (encodeString c.name ++ (encodeString c.ticker ++ (encodeString c.logo ++
    (encodeString c.description ++ (encodeVec encodeString c.keywords ++
      (pubkeyBytes c.lastKnownOwner ++ (leBytes 1 c.bump ++ c.version.encode)))))))

def AntRecord.encode (r : AntRecord) : List UInt8 :=
  pubkeyBytes r.mint ++ (encodeString r.undername ++ (encodeString r.target ++
    (leBytes 1 r.targetProtocol ++
      (leBytes 4 r.ttlSeconds ++ (encodeOption (leBytes 4) r.priority ++
      (encodeOption pubkeyBytes r.owner ++ (pubkeyBytes r.lastReconciledOwner ++
        (leBytes 1 r.bump ++ r.version.encode))))))))

/-- The strings are within the limits of the program. -/
structure AntConfig.WithinLimits (c : AntConfig) : Prop where
  name : c.name.length ≤ maxNameLength
  ticker : c.ticker.length ≤ maxTickerLength
  logo : c.logo.length ≤ arweaveTxIdLength
  description : c.description.length ≤ maxDescriptionLength
  keywords : c.keywords.length ≤ maxKeywords
  keyword : ∀ kw ∈ c.keywords, kw.length ≤ maxKeywordLength

structure AntRecord.WithinLimits (r : AntRecord) : Prop where
  undername : r.undername.length ≤ maxUndernameLength
  target : r.target.length ≤ maxTargetLength
  targetProtocol : r.targetProtocol < 2 ^ 8
  ttlSeconds : r.ttlSeconds < 2 ^ 32
  priority : ∀ p ∈ r.priority, p < 2 ^ 32

/-! ### Validation -/

def isAsciiAlphanumeric (b : UInt8) : Bool :=
  (48 ≤ b && b ≤ 57) || (65 ≤ b && b ≤ 90) || (97 ≤ b && b ≤ 122)

/-- `-` or `_`. -/
def isDashOrUnderscore (b : UInt8) : Bool := b == 45 || b == 95

def isValidUndername (name : Text) : Bool :=
  if name = [] ∨ maxUndernameLength < name.length then false
  else if name = ascii "@" then true
  else isAsciiAlphanumeric (name.getD 0 0) &&
    name.all fun b => isAsciiAlphanumeric b || isDashOrUnderscore b

def isValidArweaveId (id : Text) : Bool :=
  id.length = arweaveTxIdLength && id.all fun b => isAsciiAlphanumeric b || isDashOrUnderscore b

def isValidIpfsCid (cid : Text) : Bool :=
  if cid.length < 10 ∨ maxTargetLength < cid.length then false
  else if cid.length = cidv0Length ∧ cid.take 2 = ascii "Qm" then
    (cid.drop 2).all isAsciiAlphanumeric
  else (ascii "bBzfuk").contains (cid.getD 0 0) && (cid.drop 1).all isAsciiAlphanumeric

def validateTarget (target : Text) (protocol : ℕ) : Bool :=
  if target = [] ∨ maxTargetLength < target.length then false
  else if protocol = protocolArweave then isValidArweaveId target
  else if protocol = protocolIpfs then isValidIpfsCid target
  else false

/-- Letters, digits, and `-`, `_`, `#`, `@`. -/
def isValidKeyword (kw : Text) : Bool :=
  kw ≠ [] && kw.length ≤ maxKeywordLength &&
    kw.all fun b => isAsciiAlphanumeric b || isDashOrUnderscore b || b == 35 || b == 64

def validateKeywords (keywords : List Text) : Bool :=
  keywords.length ≤ maxKeywords && keywords.all isValidKeyword && keywords.Nodup

def isValidTtl (ttl : ℕ) : Bool := minTtlSeconds ≤ ttl && ttl ≤ maxTtlSeconds

/-- The root record has priority 0. -/
def isValidPriorityForUndername (undername : Text) (priority : Option ℕ) : Bool :=
  if undername = ascii "@" then priority = none || priority = some 0 else true

end Ant
end ArioSolana
