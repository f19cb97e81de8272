import ArioSolana.CoreReaders
import ArioSolana.GarPayment

/-!
# Primary names

The instructions of `primary_name.rs`. An address asks for a name and pays; whoever the name's asset
makes the owner of that name's record approves, and two accounts are written: the name of the
address, and the address of the name. The accounts of the name and asset programs are passed as
bytes, and the fee is paid with tokens or by a funding plan of the gateway program. -/

namespace ArioSolana
namespace Core

open Checked Solana Borsh

/-! ### Accounts -/

inductive PrimaryNameError where
  | nameEmpty
  | nameTooLong
  | invalidNameFormat
  | invalidParameter
  | invalidTreasury
  | invalidOwner
  | undernameRecordOwnerRequired
  | notAntHolder
  | mustRemoveExistingPrimaryName
  | primaryNameAlreadySet
  | primaryNameRequestExpired
  | primaryNameRequestNotExpired
  | arithmeticOverflow
  | accountAlreadyInUse
  | accountNotInitialized
  | constraintSeeds
  | constraintRaw
  /-- a reader of another program's account fails -/
  | read (e : Fault ArioError)
  /-- the token program refuses -/
  | token (e : SplError)
  /-- the gateway program refuses the funding plan -/
  | gar (e : Gar.GarError)

/-- The fields of the config that the primary names read. -/
structure NameConfig where
  mint : Pubkey
  arnsProgram : Pubkey
  treasury : Pubkey
  primaryNameRequestExpiry : ℤ
deriving DecidableEq

/-- Primary name request (pending approval). -/
structure PrimaryNameRequest where
  initiator : Pubkey
  name : List UInt8
  createdAt : ℤ
  expiresAt : ℤ
  bump : ℕ
  version : ℕ × ℕ × ℕ
deriving DecidableEq

def PrimaryNameRequest.isExpired (r : PrimaryNameRequest) (currentTimestamp : ℤ) : Bool :=
  r.expiresAt ≤ currentTimestamp

/-- Active primary name assignment. -/
structure PrimaryName where
  owner : Pubkey
  name : List UInt8
  setAt : ℤ
  bump : ℕ
  version : ℕ × ℕ × ℕ
deriving DecidableEq

/-- Reverse lookup, from the name to its owner. -/
structure PrimaryNameReverse where
  name : List UInt8
  owner : Pubkey
  bump : ℕ
  version : ℕ × ℕ × ℕ
deriving DecidableEq

structure PrimaryNameEnv extends ReadEnv where
  /-- the bumps of the addresses, by what they are derived from -/
  requestBump : Pubkey → ℕ
  primaryNameBump : Pubkey → ℕ
  reverseBump : Bytes32 → ℕ
  gar : Gar.Env

structure PrimaryNameState where
  config : NameConfig
  /-- by the initiator -/
  requests : Pubkey → Option PrimaryNameRequest
  /-- by the owner -/
  primaryNames : Pubkey → Option PrimaryName
  /-- by the hash of the name -/
  reverses : Bytes32 → Option PrimaryNameReverse
  /-- the gateway program with the tokens of the chain -/
  gar : Gar.State

namespace PrimaryNameState

def setRequest (s : PrimaryNameState) (initiator : Pubkey) (request : Option PrimaryNameRequest) :
    PrimaryNameState :=
  { s with requests := Function.update s.requests initiator request }

def setPrimaryName (s : PrimaryNameState) (owner : Pubkey) (primaryName : Option PrimaryName) :
    PrimaryNameState :=
  { s with primaryNames := Function.update s.primaryNames owner primaryName }

def setReverse (s : PrimaryNameState) (hash : Bytes32) (reverse : Option PrimaryNameReverse) :
    PrimaryNameState :=
  { s with reverses := Function.update s.reverses hash reverse }

end PrimaryNameState

/-! ### Names -/

def maxUndernameLength : ℕ := 61

def maxBaseNameLength : ℕ := 51

def PrimaryNameRequest.maxNameLength : ℕ := 63

/-- The version of all three kinds of accounts. -/
def primaryNameVersion : ℕ × ℕ × ℕ := (1, 0, 0)

/-- The bytes of a name before its first underscore, if it has one, and behind it. -/
def splitName (name : List UInt8) : Option (List UInt8) × List UInt8 :=
  if 95 ∈ name then (some (name.takeWhile (· ≠ 95)), (name.dropWhile (· ≠ 95)).tail)
  else (none, name)

/-- The name in the name program. -/
def baseName (name : List UInt8) : List UInt8 := (splitName name).2

/-- The name of the record in the asset, `@` for a base name. -/
def recordName (name : List UInt8) : List UInt8 := (splitName name).1.getD (ascii "@")

/-- Letters, digits and hyphens, with a letter or digit at both ends. -/
def isValidNameSegment (segment : List UInt8) : Bool :=
  if segment = [] then false
  else if segment.length = 1 then segment.all Ant.isAsciiAlphanumeric
  else if !segment.head?.all Ant.isAsciiAlphanumeric ||
      !segment.getLast?.all Ant.isAsciiAlphanumeric then false
  else segment.all fun b => Ant.isAsciiAlphanumeric b || b == 45

/-- The format of a primary name: a base name, or an undername and a base name. -/
def validatePrimaryNameFormat (name : List UInt8) : Except PrimaryNameError Unit := do
  require (name ≠ []) .nameEmpty
  require (name.length ≤ PrimaryNameRequest.maxNameLength) .nameTooLong
  require (baseName name ≠ [] ∧ (baseName name).length ≤ maxBaseNameLength) .invalidNameFormat
  require (isValidNameSegment (baseName name)) .invalidNameFormat
  -- the length of an address of the storage network
  require ((baseName name).length ≠ 43) .invalidNameFormat
  match (splitName name).1 with
  | some undername => do
    require (undername ≠ [] ∧ undername.length ≤ maxUndernameLength) .invalidNameFormat
    require (isValidNameSegment undername) .invalidNameFormat
  | none => return ()

/-! ### Accounts of the name program -/

def arnsRecordPda (env : ReadEnv) (name : List UInt8) (arnsProgramId : Pubkey) : Pubkey :=
  env.findProgramAddress [ascii "arns_record", (env.sha256 name).toList] arnsProgramId

/-- The account is the record of a base name, and the name is active. -/
def validateArnsRecordExists (env : ReadEnv) (info : AccountInfo) (arnsProgramId : Pubkey)
    (name : List UInt8) (currentTimestamp : ℤ) : Read Unit := do
  require (info.owner = arnsProgramId) (.error .invalidAccountState)
  require (info.key = arnsRecordPda env name arnsProgramId) (.error .invalidAccountState)
  require (info.data ≠ []) (.error .arnsRecordNotFound)
  require (8 ≤ info.data.length) (.error .invalidAccountState)
  checkDiscriminator env "ArnsRecord" info.data
  verifyArnsRecordActive info.data currentTimestamp

/-- The fee for a request, before the demand factor. -/
def primaryNameBaseFee (record : AccountInfo) : Read ℕ := do
  let purchaseType ← readArnsPurchaseType record.data
  if purchaseType = 0 then return 200000
  else if purchaseType = 1 then return 1000000
  else throw (.error .invalidAccountState)

/-- The fee for a request. -/
def primaryNameFee (env : ReadEnv) (record demand : AccountInfo) (arnsProgramId : Pubkey) :
    Read ℕ := do
  let demandFactor ← readDemandFactor env demand arnsProgramId
  let baseFee ← primaryNameBaseFee record
  let scaled ← okOr (checkedMul 128 baseFee demandFactor) (.error .arithmeticOverflow)
  let fee ← okOr (checkedDiv scaled 1000000) (.error .arithmeticOverflow)
  okOr (tryFrom 64 fee) (.error .arithmeticOverflow)

/-! ### Payment -/

/-- An account passed beyond the named ones, as this program and as the gateway program see it. -/
structure PassedAccount where
  info : AccountInfo
  asGar : Gar.AccountMeta

/-- Where the fee comes from, with the accounts of that way to pay. -/
inductive NameFunding where
  | balance (tokenAccount : Pubkey)
  | fundingPlan (stakeTokenAccount : Pubkey) (payerTokenAccount : Option Pubkey)
      (sources : List Gar.FundingSourceSpec) (validationAccountCount residueVaultCount : ℕ)

structure NamePayment where
  initiator : Pubkey
  protocolTokenAccount : Pubkey
  funding : NameFunding
  remaining : List PassedAccount

def reading {α : Type} (x : Read α) : Except PrimaryNameError α := x.mapError .read

/-- The payer's own token account, where it pays from one. -/
def NamePayment.checkPayer (p : NamePayment) (s : PrimaryNameState) :
    Except PrimaryNameError Unit :=
  match p.funding with
  | .balance account => do
    let token ← okOr (s.gar.tokens.accounts account) .accountNotInitialized
    require (token.owner = p.initiator) .constraintRaw
    require (token.mint = s.config.mint) .constraintRaw
  | .fundingPlan .. => return ()

/-- The checks of the accounts for a payment. -/
def NamePayment.checkAccounts (p : NamePayment) (s : PrimaryNameState) :
    Except PrimaryNameError Unit := do
  p.checkPayer s
  let treasury ← okOr (s.gar.tokens.accounts p.protocolTokenAccount) .accountNotInitialized
  require (p.protocolTokenAccount = s.config.treasury) .invalidTreasury
  require (treasury.mint = s.config.mint) .constraintRaw

/-- The accounts for the checks and the accounts for the payment. A plan needs at least `count` for
the checks. -/
def NamePayment.split (p : NamePayment) (count : ℕ) :
    Except PrimaryNameError (List AccountInfo × List Gar.AccountMeta) :=
  match p.funding with
  | .balance _ => return (p.remaining.map (·.info), [])
  | .fundingPlan _ _ _ validationAccountCount _ => do
    require (validationAccountCount ≤ p.remaining.length) .invalidParameter
    let validationAccounts := p.remaining.take validationAccountCount
    require (count ≤ validationAccounts.length) .invalidParameter
    return (validationAccounts.map (·.info),
      (p.remaining.drop validationAccountCount).map (·.asGar))

/-- Move the fee to the treasury. -/
def NamePayment.pay (env : PrimaryNameEnv) (clock : ℤ) (p : NamePayment)
    (fundingAccounts : List Gar.AccountMeta) (fee : ℕ) (gar : Gar.State) :
    Except PrimaryNameError Gar.State :=
  match p.funding with
  | .balance account =>
    if 0 < fee then do
      let tokens ← (gar.tokens.transfer account p.protocolTokenAccount p.initiator fee).mapError
        .token
      return { gar with tokens }
    else return gar
  | .fundingPlan stakeTokenAccount payerTokenAccount sources _ residueVaultCount =>
    -- also a plan for no fee is validated, unless it is empty
    if 0 < fee ∨ sources ≠ [] then
      (Gar.payFromFundingPlan env.gar clock p.initiator stakeTokenAccount p.protocolTokenAccount
        payerTokenAccount fundingAccounts sources fee residueVaultCount gar).mapError .gar
    else return gar

/-! ### Requests -/

/-- Request a primary name. -/
def requestPrimaryName (env : PrimaryNameEnv) (clock : ℤ) (p : NamePayment) (name : List UInt8)
    (s : PrimaryNameState) : Except PrimaryNameError PrimaryNameState := do
  require (s.requests p.initiator = none) .accountAlreadyInUse
  p.checkAccounts s
  validatePrimaryNameFormat name
  let nameLower := env.toLowercase name
  let (accounts, fundingAccounts) ← p.split 2
  let record ← okOr accounts[0]? .invalidParameter
  reading (validateArnsRecordExists env.toReadEnv record s.config.arnsProgram (baseName nameLower)
    clock)
  let demand ← okOr accounts[1]? .invalidParameter
  let fee ← reading (primaryNameFee env.toReadEnv record demand s.config.arnsProgram)
  let gar ← p.pay env clock fundingAccounts fee s.gar
  let expiresAt ← okOr (checkedAddSigned 64 clock s.config.primaryNameRequestExpiry)
    .arithmeticOverflow
  return { s with gar }.setRequest p.initiator (some
    { initiator := p.initiator, name := nameLower, createdAt := clock, expiresAt
      bump := env.requestBump p.initiator, version := primaryNameVersion })

/-- Close an expired request. Anyone may do this. -/
def closeExpiredRequest (env : PrimaryNameEnv) (clock : ℤ) (initiator : Pubkey)
    (s : PrimaryNameState) : Except PrimaryNameError PrimaryNameState := do
  let request ← okOr (s.requests initiator) .accountNotInitialized
  require (request.initiator = initiator ∧ request.bump = env.requestBump initiator)
    .constraintSeeds
  require (request.isExpired clock) .primaryNameRequestNotExpired
  return s.setRequest initiator none

/-! ### Names in force -/

/-- Write the name of an address and the address of a name. Accounts that are not there yet are
created with the default key for an owner. -/
def writePrimaryName (env : PrimaryNameEnv) (clock : ℤ) (owner : Pubkey) (name : List UInt8)
    (hash : Bytes32) (s : PrimaryNameState) : Except PrimaryNameError PrimaryNameState := do
  let primaryName := (s.primaryNames owner).getD ⟨.default, [], 0, 0, (0, 0, 0)⟩
  require (¬ (primaryName.owner ≠ .default ∧ primaryName.name ≠ name))
    .mustRemoveExistingPrimaryName
  let reverse := (s.reverses hash).getD ⟨[], .default, 0, (0, 0, 0)⟩
  require (¬ (reverse.owner ≠ .default ∧ reverse.owner ≠ owner)) .primaryNameAlreadySet
  return (s.setPrimaryName owner (some
      { owner, name, setAt := clock, bump := env.primaryNameBump owner
        version := primaryNameVersion })).setReverse hash (some
      { name, owner, bump := env.reverseBump hash, version := primaryNameVersion })

/-- Request and set a primary name in one step, as the owner of the name's record. -/
def requestAndSetPrimaryName (env : PrimaryNameEnv) (clock : ℤ) (p : NamePayment)
    (name : List UInt8) (reverseLookupHash : Bytes32) (antProgramId : Pubkey)
    (s : PrimaryNameState) : Except PrimaryNameError PrimaryNameState := do
  p.checkAccounts s
  validatePrimaryNameFormat name
  let nameLower := env.toLowercase name
  require (reverseLookupHash = env.sha256 nameLower) .invalidParameter
  let (accounts, fundingAccounts) ← p.split 4
  let record ← okOr accounts[0]? .invalidParameter
  reading (validateArnsRecordExists env.toReadEnv record s.config.arnsProgram (baseName nameLower)
    clock)
  let ant ← reading (readArnsAnt env.toReadEnv record.data)
  let antConfig ← okOr accounts[3]? .undernameRecordOwnerRequired
  let antRecord ← okOr accounts[2]? .undernameRecordOwnerRequired
  let recordOwner ← reading (readAntRecordOwner env.toReadEnv antRecord antConfig ant
    (recordName nameLower) antProgramId)
  require (recordOwner = p.initiator) .notAntHolder
  let demand ← okOr accounts[1]? .invalidParameter
  let fee ← reading (primaryNameFee env.toReadEnv record demand s.config.arnsProgram)
  let gar ← p.pay env clock fundingAccounts fee s.gar
  writePrimaryName env clock p.initiator nameLower reverseLookupHash { s with gar }

/-- The checks of the record that `validateArnsRecordExists` has no part in: the account is the
record of a base name, the name is active, and the caller owns the record `undername` of its asset.
-/
def checkNameOwner (env : ReadEnv) (clock : ℤ) (arnsProgramId : Pubkey)
    (remaining : List AccountInfo)
    (base undername : List UInt8) (caller antProgramId : Pubkey) :
    Except PrimaryNameError Unit := do
  let record ← okOr remaining[0]? .invalidParameter
  require (record.owner = arnsProgramId) (.read (.error .invalidAccountState))
  require (record.key = arnsRecordPda env base arnsProgramId) (.read (.error .invalidAccountState))
  reading (verifyArnsRecordActive record.data clock)
  let ant ← reading (readArnsAnt env record.data)
  let antConfig ← okOr remaining[2]? .undernameRecordOwnerRequired
  let antRecord ← okOr remaining[1]? .undernameRecordOwnerRequired
  let recordOwner ← reading (readAntRecordOwner env antRecord antConfig ant undername antProgramId)
  require (recordOwner = caller) .notAntHolder

/-- Approve a request, as the owner of the name's record. -/
def approvePrimaryName (env : PrimaryNameEnv) (clock : ℤ) (nameOwner initiator : Pubkey)
    (reverseLookupHash : Bytes32) (antProgramId : Pubkey) (remaining : List AccountInfo)
    (s : PrimaryNameState) : Except PrimaryNameError PrimaryNameState := do
  let request ← okOr (s.requests initiator) .accountNotInitialized
  require (request.initiator = initiator ∧ request.bump = env.requestBump initiator)
    .constraintSeeds
  require (reverseLookupHash = env.sha256 request.name) .invalidParameter
  require (¬ request.isExpired clock) .primaryNameRequestExpired
  let nameLower := env.toLowercase request.name
  checkNameOwner env.toReadEnv clock s.config.arnsProgram remaining (baseName nameLower)
    (recordName nameLower) nameOwner antProgramId
  let s ← writePrimaryName env clock request.initiator request.name reverseLookupHash s
  return s.setRequest initiator none

/-- The accounts of a name, at their addresses. A name of another owner than its address is refused
with `wrongOwner`. -/
def loadPrimaryName (env : PrimaryNameEnv) (owner : Pubkey) (hash : Bytes32)
    (wrongOwner : PrimaryNameError) (s : PrimaryNameState) :
    Except PrimaryNameError PrimaryName := do
  let primaryName ← okOr (s.primaryNames owner) .accountNotInitialized
  require (primaryName.bump = env.primaryNameBump owner) .constraintSeeds
  require (primaryName.owner = owner) wrongOwner
  let reverse ← okOr (s.reverses hash) .accountNotInitialized
  require (reverse.bump = env.reverseBump hash) .constraintSeeds
  return primaryName

/-- Remove one's own primary name. -/
def removePrimaryName (env : PrimaryNameEnv) (owner : Pubkey) (reverseLookupHash : Bytes32)
    (s : PrimaryNameState) : Except PrimaryNameError PrimaryNameState := do
  let primaryName ← loadPrimaryName env owner reverseLookupHash .invalidOwner s
  require (reverseLookupHash = env.sha256 (env.toLowercase primaryName.name)) .invalidParameter
  return (s.setPrimaryName owner none).setReverse reverseLookupHash none

/-- Remove somebody's primary name, as the owner of the base name. -/
def removePrimaryNameForBaseName (env : PrimaryNameEnv) (clock : ℤ) (nameOwner owner : Pubkey)
    (reverseLookupHash : Bytes32) (antProgramId : Pubkey) (remaining : List AccountInfo)
    (s : PrimaryNameState) : Except PrimaryNameError PrimaryNameState := do
  let primaryName ← loadPrimaryName env owner reverseLookupHash .constraintSeeds s
  let nameLower := env.toLowercase primaryName.name
  require (reverseLookupHash = env.sha256 nameLower) .invalidParameter
  checkNameOwner env.toReadEnv clock s.config.arnsProgram remaining (baseName nameLower) (ascii "@")
    nameOwner antProgramId
  return (s.setPrimaryName owner none).setReverse reverseLookupHash none

/-! ### The program -/

inductive PrimaryNameCall where
  | request (p : NamePayment) (name : List UInt8)
  | requestAndSet (p : NamePayment) (name : List UInt8) (reverseLookupHash : Bytes32)
      (antProgramId : Pubkey)
  | approve (nameOwner initiator : Pubkey) (reverseLookupHash : Bytes32) (antProgramId : Pubkey)
      (remaining : List AccountInfo)
  | closeExpired (payer initiator : Pubkey)
  | remove (owner : Pubkey) (reverseLookupHash : Bytes32)
  | removeForBaseName (nameOwner owner : Pubkey) (reverseLookupHash : Bytes32)
      (antProgramId : Pubkey) (remaining : List AccountInfo)

def PrimaryNameCall.signer : PrimaryNameCall → Pubkey
  | .request p _ => p.initiator
  | .requestAndSet p _ _ _ => p.initiator
  | .approve nameOwner _ _ _ _ => nameOwner
  | .closeExpired payer _ => payer
  | .remove owner _ => owner
  | .removeForBaseName nameOwner _ _ _ _ => nameOwner

def PrimaryNameCall.exec (env : PrimaryNameEnv) (clock : ℤ) (s : PrimaryNameState) :
    PrimaryNameCall → Except PrimaryNameError PrimaryNameState
  | .request p name => requestPrimaryName env clock p name s
  | .requestAndSet p name reverseLookupHash antProgramId =>
    requestAndSetPrimaryName env clock p name reverseLookupHash antProgramId s
  | .approve nameOwner initiator reverseLookupHash antProgramId remaining =>
    approvePrimaryName env clock nameOwner initiator reverseLookupHash antProgramId remaining s
  | .closeExpired _ initiator => closeExpiredRequest env clock initiator s
  | .remove owner reverseLookupHash => removePrimaryName env owner reverseLookupHash s
  | .removeForBaseName nameOwner owner reverseLookupHash antProgramId remaining =>
    removePrimaryNameForBaseName env clock nameOwner owner reverseLookupHash antProgramId
      remaining s

/-- What happens: a call at a time, or anything that other instructions do to the config, the
gateways and the tokens. -/
inductive PrimaryNameEvent where
  | call (clock : ℤ) (c : PrimaryNameCall)
  | others (config : NameConfig) (gar : Gar.State)

/-- Nobody signs as the default key. -/
def PrimaryNameEvent.Signed : PrimaryNameEvent → Prop
  | .call _ c => c.signer ≠ .default
  | .others _ _ => True

def PrimaryNameEvent.exec (env : PrimaryNameEnv) (s : PrimaryNameState) :
    PrimaryNameEvent → Except PrimaryNameError PrimaryNameState
  | .call clock c => c.exec env clock s
  | .others config gar => .ok { s with config, gar }

def PrimaryNameStep (env : PrimaryNameEnv) (s : PrimaryNameState) (e : PrimaryNameEvent)
    (s' : PrimaryNameState) : Prop := e.Signed ∧ e.exec env s = .ok s'

/-- Before the first request. -/
structure FreshPrimaryNames (s : PrimaryNameState) : Prop where
  requests : ∀ initiator, s.requests initiator = none
  primaryNames : ∀ owner, s.primaryNames owner = none
  reverses : ∀ hash, s.reverses hash = none

end Core
end ArioSolana
