import ArioSolana.ArnsRegistry
import ArioSolana.CoreReaders

/-!
# Names, auctions and reservations

The accounts of the name program by the hash of the name, beside the state of the gateway program
that stakes are paid from. A name is bought with tokens, from a delegation, from operator stake,
from a withdrawal or by a plan of several sources: the ways differ in the accounts they take and in
the step that moves the price, and in nothing else that a purchase does. -/

namespace ArioSolana
namespace Arns

open Checked Solana

/-! ### Constants -/

def oneYearSeconds : ℤ := 365 * 86400

def arweaveAddressLength : ℕ := 43

def defaultUndernameCount : ℕ := 10

def maxUndernameLimit : ℕ := 10000

/-- 180 days. -/
def gatewayDiscountMinTenure : ℤ := 15552000

/-- The version of a record, of a returned name and of a reservation. -/
def accountVersion : ℕ × ℕ × ℕ := (1, 0, 0)

/-! ### Accounts -/

deriving instance DecidableEq for ArnsRecord

/-- Returned name (released or expired, available via Dutch auction). -/
structure ReturnedName where
  name : List UInt8
  nameHash : Bytes32
  /-- who initiated the return: the holder who released it, or the config for an expiry -/
  initiator : Pubkey
  returnedAt : ℤ
  bump : ℕ
  version : ℕ × ℕ × ℕ
deriving DecidableEq

structure ReservedName where
  name : List UInt8
  reservedFor : Option Pubkey
  expiresAt : Option ℤ
  reservedBy : Pubkey
  createdAt : ℤ
  bump : ℕ
  version : ℕ × ℕ × ℕ
deriving DecidableEq

/-- The kinds of accounts with an address for each name. -/
inductive NameAccount where
  | record
  | returned
  | reserved
deriving DecidableEq

structure NameEnv where
  sha256 : List UInt8 → Bytes32
  /-- the lower case of a text, as the language's library has it -/
  toLowercase : List UInt8 → List UInt8
  /-- the config's own address -/
  configKey : Pubkey
  /-- the bump of the address of a name's account -/
  bump : NameAccount → Bytes32 → ℕ
  gar : Gar.Env

structure NameState where
  config : ArnsConfig
  demand : DemandFactor
  registry : NameRegistry
  /-- the accounts by the hash that their address is derived from -/
  records : Bytes32 → Option ArnsRecord
  returnedNames : Bytes32 → Option ReturnedName
  reservedNames : Bytes32 → Option ReservedName
  /-- the data of the accounts that the asset program owns -/
  assets : Pubkey → Option (List UInt8)
  /-- the gateway program with the tokens of the chain -/
  gar : Gar.State

namespace NameState

def setRecord (s : NameState) (hash : Bytes32) (record : Option ArnsRecord) : NameState :=
  { s with records := Function.update s.records hash record }

def setReturned (s : NameState) (hash : Bytes32) (returned : Option ReturnedName) : NameState :=
  { s with returnedNames := Function.update s.returnedNames hash returned }

def setReserved (s : NameState) (hash : Bytes32) (reserved : Option ReservedName) : NameState :=
  { s with reservedNames := Function.update s.reservedNames hash reserved }

end NameState

/-! ### Names -/

def isAsciiUppercase (b : UInt8) : Bool := 65 ≤ b && b ≤ 90

def isAsciiAlphanumeric (b : UInt8) : Bool :=
  (48 ≤ b && b ≤ 57) || (65 ≤ b && b ≤ 90) || (97 ≤ b && b ≤ 122)

/-- The rules for names: lower case letters and digits, with hyphens inside. -/
def isValidArnsName (name : List UInt8) : Bool :=
  if name.length < 1 ∨ maxNameLength < name.length then false
  else if name.length = arweaveAddressLength then false
  else if name.any isAsciiUppercase then false
  else if name.length = 1 then name.all isAsciiAlphanumeric
  else (name.head?.all isAsciiAlphanumeric && name.getLast?.all isAsciiAlphanumeric) &&
    name.tail.dropLast.all fun b => isAsciiAlphanumeric b || b == 45

def hashName (env : NameEnv) (name : List UInt8) : Bytes32 := env.sha256 (env.toLowercase name)

/-- The holder in the data of an asset. -/
def readMplCoreOwner (data : List UInt8) : Except NameError Pubkey := do
  require (33 ≤ data.length) .invalidAntAsset
  require (data.getD 0 0 = 1) .invalidAntAsset
  return Core.pubkeyOfBytes ((data.drop 1).take 32)

/-! ### Loading -/

/-- A record, whose address follows from the hash in it. -/
def loadRecord (env : NameEnv) (s : NameState) (hash : Bytes32) : Except NameError ArnsRecord := do
  let record ← okOr (s.records hash) .accountNotInitialized
  require (record.nameHash = hash ∧ record.bump = env.bump .record hash) .constraintSeeds
  return record

/-- A returned name. Its address follows from the name that is asked for. -/
def loadReturned (env : NameEnv) (s : NameState) (hash : Bytes32) :
    Except NameError ReturnedName := do
  let returned ← okOr (s.returnedNames hash) .accountNotInitialized
  require (returned.bump = env.bump .returned hash) .constraintSeeds
  return returned

/-- A reservation, whose address follows from the name in it. -/
def loadReserved (env : NameEnv) (s : NameState) (hash : Bytes32) :
    Except NameError ReservedName := do
  let reserved ← okOr (s.reservedNames hash) .accountNotInitialized
  require (hashName env reserved.name = hash ∧ reserved.bump = env.bump .reserved hash)
    .constraintSeeds
  return reserved

/-- A call of another part of the program or of another program, with its errors renamed. -/
def within {ε α : Type} (f : ε → NameError) (x : Except ε α) : Except NameError α := x.mapError f

def NameError.ofPricing : ArnsError → NameError
  | .invalidNameFormat => .invalidNameFormat
  | .arithmeticOverflow => .arithmeticOverflow
  | .invalidParameter => .invalidParameter
  | .panicked => .panicked

/-! ### The discount -/

/-- The gateway at an account that was passed for the discount. -/
def loadDiscountGateway (gar : Gar.State) : Gar.Address → Except NameError Gar.Gateway
  | .gateway operator => do
    let gateway ← okOr (gar.gateways operator) .invalidGatewayProgram
    require (gateway.operator = operator) .notGatewayOperator
    return gateway
  | .other _ => throw .invalidGatewayProgram
  -- an account of the gateway program that is no gateway
  | _ => throw .invalidParameter

/-- The price for somebody who brings a gateway. A gateway that does not qualify fails the call. -/
def tryApplyGatewayDiscount (clock : ℤ) (gar : Gar.State) (tokenCost : ℕ)
    (remaining : List Gar.AccountMeta) (signer : Pubkey) : Except NameError ℕ :=
  match remaining with
  | [] => return tokenCost
  | info :: _ => do
    let gateway ← loadDiscountGateway gar info.address
    require (gateway.Authorises signer) .notGatewayOperator
    require (gateway.status = .joined) .gatewayNotActive
    require (gatewayDiscountMinTenure ≤ saturatingSubSigned 64 clock gateway.startTimestamp)
      .gatewayNotActive
    let numerator ← okOr (checkedMul 64 (1 + gateway.stats.passedEpochs) 1000000)
      .arithmeticOverflow
    let ratio ← okOr (checkedDiv numerator (1 + gateway.stats.totalEpochs)) .arithmeticOverflow
    require (900000 ≤ ratio) .gatewayNotActive
    within .ofPricing (applyGatewayOperatorDiscount tokenCost)

/-! ### Payment -/

/-- Where the price comes from, with the accounts of that way to pay. -/
inductive Funding where
  | balance (tokenAccount : Pubkey)
  | delegation (gateway stakeTokenAccount : Pubkey)
  | operatorStake (stakeTokenAccount : Pubkey)
  | withdrawal (id : Gar.WithdrawalId) (stakeTokenAccount : Pubkey)
  | fundingPlan (stakeTokenAccount : Pubkey) (payerTokenAccount : Option Pubkey)
      (sources : List Gar.FundingSourceSpec) (discountAccountCount residueVaultCount : ℕ)

/-- Who pays, from where, into which account, and the accounts passed beyond the named ones. -/
structure Payment where
  payer : Pubkey
  funding : Funding
  protocolTokenAccount : Pubkey
  remaining : List Gar.AccountMeta

/-- A token account of an owner and the mint. -/
def checkTokenAccount (s : NameState) (account owner : Pubkey) : Except NameError Unit := do
  let token ← okOr (s.gar.tokens.accounts account) .accountNotInitialized
  require (token.owner = owner) .constraintRaw
  require (token.mint = s.config.mint) .constraintRaw

/-- The checks of the accounts for a payment. -/
def Payment.checkAccounts (p : Payment) (s : NameState) : Except NameError Unit := do
  match p.funding with
  | .balance tokenAccount => checkTokenAccount s tokenAccount p.payer
  | _ => pure ()
  let treasury ← okOr (s.gar.tokens.accounts p.protocolTokenAccount) .accountNotInitialized
  require (p.protocolTokenAccount = s.config.treasury) .invalidTreasury
  match p.funding with
  | .balance _ => require (treasury.mint = s.config.mint) .constraintRaw
  | _ => return ()

/-- The checks of the accounts for a payment for a name that is held: the treasury is of the mint,
however it is paid. -/
def Payment.checkManageAccounts (p : Payment) (s : NameState) : Except NameError Unit := do
  p.checkAccounts s
  let treasury ← okOr (s.gar.tokens.accounts p.protocolTokenAccount) .accountNotInitialized
  require (treasury.mint = s.config.mint) .constraintRaw

/-- A plan takes at most one account for the discount. -/
def Payment.checkDiscountCount (p : Payment) : Except NameError Unit :=
  match p.funding with
  | .fundingPlan _ _ _ discountAccountCount _ =>
    require (discountAccountCount ≤ 1) .invalidParameter
  | _ => return ()

/-- The accounts for the discount, and those that are passed on. -/
def Payment.split (p : Payment) : Except NameError (List Gar.AccountMeta × List Gar.AccountMeta) :=
  match p.funding with
  | .fundingPlan _ _ _ discountAccountCount _ => do
    require (discountAccountCount ≤ p.remaining.length) .invalidParameter
    return p.remaining.splitAt discountAccountCount
  | _ => return (p.remaining, [])

/-- The price after the discount, and the accounts that are left for the payment. -/
def Payment.discount (p : Payment) (clock : ℤ) (gar : Gar.State) (tokenCost : ℕ) :
    Except NameError (ℕ × List Gar.AccountMeta) := do
  let (discountAccounts, fundingAccounts) ← p.split
  let tokenCost ← tryApplyGatewayDiscount clock gar tokenCost discountAccounts p.payer
  return (tokenCost, fundingAccounts)

/-- Move the price to the treasury. -/
def Payment.pay (env : NameEnv) (clock : ℤ) (p : Payment) (fundingAccounts : List Gar.AccountMeta)
    (amount : ℕ) (gar : Gar.State) : Except NameError Gar.State :=
  match p.funding with
  | .balance tokenAccount => do
    let tokens ← within .spl
      (gar.tokens.transfer tokenAccount p.protocolTokenAccount p.payer amount)
    return { gar with tokens }
  | .delegation gateway stakeTokenAccount =>
    within .gar (Gar.deductDelegationForPayment env.gar p.payer gateway stakeTokenAccount
      p.protocolTokenAccount amount gar)
  | .operatorStake stakeTokenAccount =>
    within .gar (Gar.deductOperatorStakeForPayment env.gar p.payer stakeTokenAccount
      p.protocolTokenAccount amount gar)
  | .withdrawal id stakeTokenAccount =>
    within .gar (Gar.deductWithdrawalForPayment env.gar p.payer id stakeTokenAccount
      p.protocolTokenAccount amount gar)
  | .fundingPlan stakeTokenAccount payerTokenAccount sources _ residueVaultCount =>
    within .gar (Gar.payFromFundingPlan env.gar clock p.payer stakeTokenAccount
      p.protocolTokenAccount payerTokenAccount fundingAccounts sources amount residueVaultCount gar)

section

variable {ε α : Type} {f : ε → NameError} {x : Except ε α} {a : α} {env : NameEnv} {s : NameState}
  {hash : Bytes32} {record : ArnsRecord} {returned : ReturnedName} {reserved : ReservedName}

@[simp] lemma within_eq_ok : within f x = .ok a ↔ x = .ok a := by
  cases x with
  | ok b => simp [within, Except.mapError]
  | error e => simp [within, Except.mapError]

lemma loadRecord_eq_ok : loadRecord env s hash = .ok record ↔
    s.records hash = some record ∧ record.nameHash = hash ∧ record.bump = env.bump .record
        hash := by
  simp only [loadRecord, bind_eq_ok, okOr_eq_ok, require_eq_ok, exists_const, pure_eq_ok]
  constructor
  · rintro ⟨_, hget, ⟨hhash, hbump⟩, rfl⟩
    exact ⟨hget, hhash, hbump⟩
  · rintro ⟨hget, hhash, hbump⟩
    exact ⟨record, hget, ⟨hhash, hbump⟩, rfl⟩

lemma loadReturned_ok (h : loadReturned env s hash = .ok returned) :
    s.returnedNames hash = some returned := by
  simp only [loadReturned, bind_eq_ok, okOr_eq_ok, require_eq_ok, exists_const, pure_eq_ok] at h
  obtain ⟨_, hget, -, rfl⟩ := h
  exact hget

lemma loadReserved_ok (h : loadReserved env s hash = .ok reserved) :
    s.reservedNames hash = some reserved := by
  simp only [loadReserved, bind_eq_ok, okOr_eq_ok, require_eq_ok, exists_const, pure_eq_ok] at h
  obtain ⟨_, hget, -, rfl⟩ := h
  exact hget

end

end Arns
end ArioSolana
