import ArioSolana.EscrowVerify
import ArioSolana.Runs

/-!
# The escrow program

Tokens come into an escrow through a deposit, plain or locked for a time, and leave it through a
claim of the recipient or through a cancellation by the depositor. Every exit closes the escrow
and its token account. An address can then be used again.

A vault claim before the end of the lock hands the tokens to the core program, which locks them
for the claimant in a vault of its own.
-/

namespace ArioSolana
namespace Escrow

open Checked Solana

/-! ### Shared parts -/

/-- The rest of the transaction that a call is part of: the clock, the instructions in their order,
and the place of the call among them. -/
structure Transaction where
  clock : Clock
  instructions : List SiblingInstruction
  current : ℕ

/-- Which seeds belong to an asset type. -/
def seedOf (assetType : ℕ) : EscrowSeed := if assetType = assetTypeVault then .vault else .token

/-- A recipient's key has the length that its protocol asks for. -/
def validatedProtocolAndLen (protocol : ℕ) (pubkey : List UInt8) : Except EscrowError Unit :=
  if protocol = protocolArweave ∧ pubkey.length = arweavePubkeyLen ∨
      protocol = protocolEthereum ∧ pubkey.length = ethereumPubkeyLen then .ok ()
  else if 1 < protocol then .error .invalidRecipientProtocol
  else .error .invalidRecipientPubkeyLength

/-- The escrow of a call: its address comes from its own depositor and asset, and the depositor
that the call names is its depositor. -/
def checkEscrow (env : Env) (seed : EscrowSeed) (address depositor : Pubkey)
    (hasOneError : EscrowError) (s : State) : Except EscrowError EscrowToken := do
  let escrow ← loadEscrow s address
  require (address = env.escrowPda seed escrow.depositor escrow.assetId) .constraintSeeds
  require (escrow.depositor = depositor) hasOneError
  return escrow

/-- Transfer `amount` out of an escrow's token account, close that account, and close the escrow. -/
def transferThenClose (address escrowTokenAccount destination : Pubkey) (amount : ℕ) (s : State) :
    Except EscrowError State := do
  let s ← splTransfer s escrowTokenAccount destination address amount
  let s ← splCloseAccount s escrowTokenAccount address
  return s.setEscrow address none

/-! ### Deposits -/

structure DepositAccounts where
  escrow : Pubkey
  depositorTokenAccount : Pubkey
  escrowTokenAccount : Pubkey
  arioMint : Pubkey
  depositor : Pubkey

/-- The accounts of a deposit: the escrow does not exist, and both token accounts have the mint of
the deposit and the right owners. -/
def checkDepositAccounts (env : Env) (seed : EscrowSeed) (accounts : DepositAccounts)
    (assetId : Bytes32) (s : State) : Except EscrowError Unit := do
  require (accounts.escrow = env.escrowPda seed accounts.depositor assetId) .constraintSeeds
  require ((s.escrows accounts.escrow).isNone) .accountAlreadyInUse
  checkTokenAccount s accounts.depositorTokenAccount accounts.depositor accounts.arioMint
    .constraintRaw .constraintRaw
  checkTokenAccount s accounts.escrowTokenAccount accounts.escrow accounts.arioMint
    .constraintRaw .constraintRaw

/-- Tokens for a recipient. -/
def depositTokens (env : Env) (tx : Transaction) (accounts : DepositAccounts) (assetId : Bytes32)
    (amount recipientProtocol : ℕ) (recipientPubkey : List UInt8) (s : State) :
    Except EscrowError State := do
  checkDepositAccounts env .token accounts assetId s
  require (0 < amount) .amountZero
  validatedProtocolAndLen recipientProtocol recipientPubkey
  let s ← splTransfer s accounts.depositorTokenAccount accounts.escrowTokenAccount
    accounts.depositor amount
  return s.setEscrow accounts.escrow (some {
    depositor := accounts.depositor
    assetType := assetTypeToken
    amount
    arioMint := accounts.arioMint
    assetId
    recipientProtocol
    recipientPubkey
    nonce := deriveInitialNonce env tx.clock.slot assetId accounts.depositor
    depositSlot := tx.clock.slot
    vaultEndTimestamp := 0
    vaultRevocable := false })

/-- Tokens for a recipient, locked for a time. -/
def depositVault (env : Env) (tx : Transaction) (accounts : DepositAccounts) (assetId : Bytes32)
    (amount : ℕ) (lockDurationSeconds : ℤ) (revocable : Bool) (recipientProtocol : ℕ)
    (recipientPubkey : List UInt8) (s : State) : Except EscrowError State := do
  checkDepositAccounts env .vault accounts assetId s
  require (0 < amount) .amountZero
  require (minVaultAmount ≤ amount) .vaultAmountBelowMinimum
  require (minVaultLockDuration ≤ lockDurationSeconds) .vaultDurationTooShort
  require (revocable = false) .revocableVaultUnsupported
  validatedProtocolAndLen recipientProtocol recipientPubkey
  let s ← splTransfer s accounts.depositorTokenAccount accounts.escrowTokenAccount
    accounts.depositor amount
  let vaultEndTimestamp ← okOr
    (checkedAddSigned 64 tx.clock.unixTimestamp lockDurationSeconds) .arithmeticOverflow
  return s.setEscrow accounts.escrow (some {
    depositor := accounts.depositor
    assetType := assetTypeVault
    amount
    arioMint := accounts.arioMint
    assetId
    recipientProtocol
    recipientPubkey
    nonce := deriveInitialNonce env tx.clock.slot assetId accounts.depositor
    depositSlot := tx.clock.slot
    vaultEndTimestamp
    vaultRevocable := revocable })

/-! ### Recipients -/

/-- Name another recipient. The nonce changes, so that signatures of the old one lose their force.
-/
def updateRecipient (seed : EscrowSeed) (env : Env) (tx : Transaction)
    (address depositor : Pubkey) (newProtocol : ℕ) (newPubkey : List UInt8) (s : State) :
    Except EscrowError State := do
  let escrow ← checkEscrow env seed address depositor .notDepositor s
  validatedProtocolAndLen newProtocol newPubkey
  return s.setEscrow address (some { escrow with
    recipientProtocol := newProtocol
    recipientPubkey := newPubkey
    nonce := deriveRotatedNonce env tx.clock.slot escrow.assetId escrow.depositor escrow.nonce })

def updateTokenRecipient := updateRecipient .token

def updateVaultRecipient := updateRecipient .vault

/-! ### Cancellations -/

structure CancelAccounts where
  escrow : Pubkey
  escrowTokenAccount : Pubkey
  depositorTokenAccount : Pubkey
  depositor : Pubkey

/-- Return the tokens to the depositor. -/
def cancelDeposit (seed : EscrowSeed) (env : Env) (accounts : CancelAccounts) (s : State) :
    Except EscrowError State := do
  let escrow ← checkEscrow env seed accounts.escrow accounts.depositor .notDepositor s
  checkTokenAccount s accounts.escrowTokenAccount accounts.escrow escrow.arioMint
    .constraintRaw .mintMismatch
  checkTokenAccount s accounts.depositorTokenAccount accounts.depositor escrow.arioMint
    .constraintRaw .mintMismatch
  transferThenClose accounts.escrow accounts.escrowTokenAccount accounts.depositorTokenAccount
    escrow.amount s

def cancelTokenDeposit := cancelDeposit .token

def cancelVaultDeposit := cancelDeposit .vault

/-! ### Claims -/

structure ClaimAccounts where
  escrow : Pubkey
  escrowTokenAccount : Pubkey
  claimantTokenAccount : Pubkey
  claimant : Pubkey
  depositor : Pubkey
  payer : Pubkey

/-- The checks that every claim makes before it moves tokens; `verify` is the signature scheme of
the recipient's protocol. -/
def checkClaim (env : Env) (seed : EscrowSeed) (assetType protocol : ℕ) (label : String)
    (verify : EscrowToken → List UInt8 → Except EscrowError Unit) (accounts : ClaimAccounts)
    (messageNonce : Bytes32) (s : State) : Except EscrowError EscrowToken := do
  let escrow ← checkEscrow env seed accounts.escrow accounts.depositor .constraintHasOne s
  checkTokenAccount s accounts.escrowTokenAccount accounts.escrow escrow.arioMint
    .constraintRaw .mintMismatch
  checkTokenAccount s accounts.claimantTokenAccount accounts.claimant escrow.arioMint
    .tokenAccountOwnerMismatch .mintMismatch
  require (escrow.assetType = assetType) .assetTypeMismatch
  require (escrow.recipientProtocol = protocol) .protocolMismatch
  require (messageNonce = escrow.nonce) .nonceMismatch
  verify escrow (buildEscrowClaimMessage env label escrow accounts.claimant)
  return escrow

/-- The signature of an Ethereum recipient. -/
def ethereumSignature (env : Env) (signature : Vector UInt8 65) (escrow : EscrowToken)
    (message : List UInt8) : Except EscrowError Unit := do
  require (escrow.recipientPubkey.length = ethereumPubkeyLen) .signatureVerificationFailed
  verifyPersonalSign env message signature.toList escrow.recipientPubkey

/-- The attestor's signature for an Arweave recipient. -/
def arweaveAttestation (env : Env) (tx : Transaction) (_ : EscrowToken) (message : List UInt8) :
    Except EscrowError Unit :=
  verifyAttestedSignature env tx.instructions tx.current message

def claimTokensEthereum (env : Env) (accounts : ClaimAccounts) (messageNonce : Bytes32)
    (signature : Vector UInt8 65) (s : State) : Except EscrowError State := do
  let escrow ← checkClaim env .token assetTypeToken protocolEthereum "token"
    (ethereumSignature env signature) accounts messageNonce s
  transferThenClose accounts.escrow accounts.escrowTokenAccount accounts.claimantTokenAccount
    escrow.amount s

def claimTokensArweaveAttested (env : Env) (tx : Transaction) (accounts : ClaimAccounts)
    (messageNonce : Bytes32) (s : State) : Except EscrowError State := do
  let escrow ← checkClaim env .token assetTypeToken protocolArweave "token"
    (arweaveAttestation env tx) accounts messageNonce s
  transferThenClose accounts.escrow accounts.escrowTokenAccount accounts.claimantTokenAccount
    escrow.amount s

/-! ### Vault claims -/

/-- The accounts that a claim before the end of the lock needs, each of them optional. The
configuration and the core program have fixed addresses. -/
structure RelockAccounts where
  payerTokenAccount : Option Pubkey
  arioCoreConfig : Bool
  recipientVaultCounter : Option Pubkey
  vault : Option Pubkey
  vaultTokenAccount : Option Pubkey
  arioCoreProgram : Bool

def viaCore {α : Type} (x : Except Core.ArioError α) : Except EscrowError α := x.mapError .core

lemma viaCore_eq_ok {α : Type} {x : Except Core.ArioError α} {y : α} :
    viaCore x = .ok y ↔ x = .ok y := by
  cases x <;> simp [viaCore, Except.mapError]

/-- A token account as the core program checks it. -/
def checkCoreTokenAccount (s : State) (account owner mint : Pubkey) (ownerError : Core.ArioError) :
    Except Core.ArioError Unit := do
  let a ← okOr (s.tokens.accounts account) .accountNotInitialized
  require (a.owner = owner) ownerError
  require (a.mint = mint) .constraintRaw

/-- The core program's `create_vault`, or `vaulted_transfer` for a claimant who is not the payer:
the amount goes into the account of the claimant's next vault, and the vault is written. -/
def relock (cenv : CoreEnv) (now : ℤ) (accounts : ClaimAccounts)
    (payerTokenAccount recipientVaultCounter vault vaultTokenAccount : Pubkey) (amount : ℕ)
    (remaining : ℤ) (s : State) : Except EscrowError State := do
  let config ← viaCore (okOr s.core.config .accountNotInitialized)
  let id := s.core.nextId accounts.claimant
  require (recipientVaultCounter = cenv.counterPda accounts.claimant ∧
    vault = cenv.vaultPda accounts.claimant id) (.core .constraintSeeds)
  require ((s.core.vaults (accounts.claimant, id)).isNone) (.core .accountAlreadyInUse)
  viaCore (checkCoreTokenAccount s payerTokenAccount accounts.payer config.mint .constraintRaw)
  viaCore (checkCoreTokenAccount s vaultTokenAccount vault config.mint .invalidAccountState)
  viaCore (Core.checkLock config amount remaining)
  let s ← splTransfer s payerTokenAccount vaultTokenAccount accounts.payer amount
  let endTimestamp ← viaCore (okOr (checkedAddSigned 64 now remaining) .arithmeticOverflow)
  let nextId ← viaCore id.next
  let config ← viaCore (config.lock amount)
  return { s with core := {
    config := some config
    counters := Function.update s.core.counters accounts.claimant
      (some { owner := accounts.claimant, nextId })
    vaults := Function.update s.core.vaults (accounts.claimant, id) (some {
      owner := accounts.claimant
      vaultId := id
      amount
      startTimestamp := now
      endTimestamp
      controller := none
      revocable := false }) } }

/-- Pass exactly `amount` through the payer's token account into a vault of the core program, and
hand the rest of the escrow's token account to the claimant. -/
def relockAndSweep (cenv : CoreEnv) (now : ℤ) (accounts : ClaimAccounts) (extra : RelockAccounts)
    (amount liveBalance : ℕ) (remaining : ℤ) (s : State) : Except EscrowError State := do
  let payerTokenAccount ← okOr extra.payerTokenAccount .relockAccountsMissing
  let recipientVaultCounter ← okOr extra.recipientVaultCounter .relockAccountsMissing
  let vault ← okOr extra.vault .relockAccountsMissing
  let vaultTokenAccount ← okOr extra.vaultTokenAccount .relockAccountsMissing
  require extra.arioCoreProgram .relockAccountsMissing
  let s ← splTransfer s accounts.escrowTokenAccount payerTokenAccount accounts.escrow amount
  let s ← relock cenv now accounts payerTokenAccount recipientVaultCounter vault vaultTokenAccount
    amount remaining s
  if amount < liveBalance then
    splTransfer s accounts.escrowTokenAccount accounts.claimantTokenAccount accounts.escrow
      (liveBalance - amount)
  else
    return s

/-- Lock the tokens for the rest of the time, if there is enough of it, or hand out all that the
escrow's token account holds. -/
def moveVaultTokens (cenv : CoreEnv) (now : ℤ) (accounts : ClaimAccounts) (extra : RelockAccounts)
    (amount liveBalance : ℕ) (remaining : ℤ) (s : State) : Except EscrowError State :=
  if 0 < remaining then do
    let config ← okOr (if extra.arioCoreConfig then s.core.config else none) .relockAccountsMissing
    if config.minVaultDuration ≤ remaining then
      relockAndSweep cenv now accounts extra amount liveBalance remaining s
    else
      splTransfer s accounts.escrowTokenAccount accounts.claimantTokenAccount accounts.escrow
        liveBalance
  else
    splTransfer s accounts.escrowTokenAccount accounts.claimantTokenAccount accounts.escrow
      liveBalance

/-- Settle a vault claim whose signature is good. -/
def settleVaultClaim (cenv : CoreEnv) (now : ℤ) (accounts : ClaimAccounts) (extra : RelockAccounts)
    (escrow : EscrowToken) (s : State) : Except EscrowError State := do
  let remaining := saturatingSubSigned 64 escrow.vaultEndTimestamp now
  let liveBalance := s.tokens.balance accounts.escrowTokenAccount
  require (escrow.amount ≤ liveBalance) .invalidEscrowTokenAccountState
  let s ← moveVaultTokens cenv now accounts extra escrow.amount liveBalance remaining s
  let s ← splCloseAccount s accounts.escrowTokenAccount accounts.escrow
  return s.setEscrow accounts.escrow none

/-- The accounts for a new vault that are given: the payer's token account is of the escrow's mint,
and the configuration exists. -/
def checkRelockAccounts (accounts : ClaimAccounts) (extra : RelockAccounts)
    (escrow : EscrowToken) (s : State) : Except EscrowError Unit := do
  require (extra.arioCoreConfig → s.core.config.isSome) .accountNotInitialized
  match extra.payerTokenAccount with
  | some account =>
    checkTokenAccount s account accounts.payer escrow.arioMint .tokenAccountOwnerMismatch
      .mintMismatch
  | none => return ()

def claimVaultEthereum (env : Env) (tx : Transaction) (accounts : ClaimAccounts)
    (extra : RelockAccounts) (messageNonce : Bytes32) (signature : Vector UInt8 65) (s : State) :
    Except EscrowError State := do
  let escrow ← checkClaim env .vault assetTypeVault protocolEthereum "vault"
    (ethereumSignature env signature) accounts messageNonce s
  checkRelockAccounts accounts extra escrow s
  settleVaultClaim env.core tx.clock.unixTimestamp accounts extra escrow s

def claimVaultArweaveAttested (env : Env) (tx : Transaction) (accounts : ClaimAccounts)
    (extra : RelockAccounts) (messageNonce : Bytes32) (s : State) : Except EscrowError State := do
  let escrow ← checkClaim env .vault assetTypeVault protocolArweave "vault"
    (arweaveAttestation env tx) accounts messageNonce s
  checkRelockAccounts accounts extra escrow s
  settleVaultClaim env.core tx.clock.unixTimestamp accounts extra escrow s

/-! ### Steps -/

/-- An instruction with the accounts and arguments of its caller. -/
inductive Instruction where
  | depositTokens (accounts : DepositAccounts) (assetId : Bytes32) (amount recipientProtocol : ℕ)
      (recipientPubkey : List UInt8)
  | depositVault (accounts : DepositAccounts) (assetId : Bytes32) (amount : ℕ)
      (lockDurationSeconds : ℤ) (revocable : Bool) (recipientProtocol : ℕ)
      (recipientPubkey : List UInt8)
  | updateTokenRecipient (escrow depositor : Pubkey) (newProtocol : ℕ) (newPubkey : List UInt8)
  | updateVaultRecipient (escrow depositor : Pubkey) (newProtocol : ℕ) (newPubkey : List UInt8)
  | cancelTokenDeposit (accounts : CancelAccounts)
  | cancelVaultDeposit (accounts : CancelAccounts)
  | claimTokensEthereum (accounts : ClaimAccounts) (messageNonce : Bytes32)
      (signature : Vector UInt8 65)
  | claimTokensArweaveAttested (accounts : ClaimAccounts) (messageNonce : Bytes32)
  | claimVaultEthereum (accounts : ClaimAccounts) (extra : RelockAccounts)
      (messageNonce : Bytes32) (signature : Vector UInt8 65)
  | claimVaultArweaveAttested (accounts : ClaimAccounts) (extra : RelockAccounts)
      (messageNonce : Bytes32)

/-- Whose signature a call needs. -/
def Instruction.signer : Instruction → Pubkey
  | .depositTokens accounts _ _ _ _ => accounts.depositor
  | .depositVault accounts _ _ _ _ _ _ => accounts.depositor
  | .updateTokenRecipient _ depositor _ _ => depositor
  | .updateVaultRecipient _ depositor _ _ => depositor
  | .cancelTokenDeposit accounts => accounts.depositor
  | .cancelVaultDeposit accounts => accounts.depositor
  | .claimTokensEthereum accounts _ _ => accounts.payer
  | .claimTokensArweaveAttested accounts _ => accounts.payer
  | .claimVaultEthereum accounts _ _ _ => accounts.payer
  | .claimVaultArweaveAttested accounts _ _ => accounts.payer

/-- The handler of an instruction. -/
def Instruction.handler (env : Env) (tx : Transaction) (i : Instruction) (s : State) :
    Except EscrowError State :=
  match i with
  | .depositTokens accounts assetId amount recipientProtocol recipientPubkey =>
    Escrow.depositTokens env tx accounts assetId amount recipientProtocol recipientPubkey s
  | .depositVault accounts assetId amount lockDurationSeconds revocable recipientProtocol
      recipientPubkey =>
    Escrow.depositVault env tx accounts assetId amount lockDurationSeconds revocable
      recipientProtocol recipientPubkey s
  | .updateTokenRecipient escrow depositor newProtocol newPubkey =>
    Escrow.updateTokenRecipient env tx escrow depositor newProtocol newPubkey s
  | .updateVaultRecipient escrow depositor newProtocol newPubkey =>
    Escrow.updateVaultRecipient env tx escrow depositor newProtocol newPubkey s
  | .cancelTokenDeposit accounts => Escrow.cancelTokenDeposit env accounts s
  | .cancelVaultDeposit accounts => Escrow.cancelVaultDeposit env accounts s
  | .claimTokensEthereum accounts messageNonce signature =>
    Escrow.claimTokensEthereum env accounts messageNonce signature s
  | .claimTokensArweaveAttested accounts messageNonce =>
    Escrow.claimTokensArweaveAttested env tx accounts messageNonce s
  | .claimVaultEthereum accounts extra messageNonce signature =>
    Escrow.claimVaultEthereum env tx accounts extra messageNonce signature s
  | .claimVaultArweaveAttested accounts extra messageNonce =>
    Escrow.claimVaultArweaveAttested env tx accounts extra messageNonce s

/-- Execute an instruction. -/
def Instruction.exec (env : Env) (tx : Transaction) (i : Instruction) (s : State) :
    Except EscrowError State := do
  require (env.CanSign i.signer) .missingRequiredSignature
  i.handler env tx s

/-- What can happen on the chain. -/
inductive Action where
  | call (i : Instruction)
  /-- a token transfer that no escrow signs -/
  | walletTransfer (source destination authority : Pubkey) (amount : ℕ)
  /-- a token account that no escrow owns is closed -/
  | walletClose (account authority : Pubkey)
  | openTokenAccount (key mint owner : Pubkey)
  /-- the core program changes accounts of its own -/
  | coreChange (books : CoreBooks)

/-- An action, and the transaction it is part of. -/
structure Event where
  tx : Transaction
  action : Action

/-- Perform an action. -/
def Event.exec (env : Env) (s : State) (e : Event) : Except EscrowError State :=
  match e.action with
  | .call i => i.exec env e.tx s
  | .walletTransfer source destination authority amount => do
    require (env.CanSign authority) .missingRequiredSignature
    splTransfer s source destination authority amount
  | .walletClose account authority => do
    require (env.CanSign authority) .missingRequiredSignature
    splCloseAccount s account authority
  | .openTokenAccount key mint owner => do
    require ((s.tokens.accounts key).isNone) .accountAlreadyInUse
    return { s with tokens := { s.tokens with
      accounts := Function.update s.tokens.accounts key (some ⟨mint, owner, 0⟩) } }
  | .coreChange books => .ok { s with core := books }

/-- One step of the system. -/
def EscrowStep (env : Env) (s : State) (e : Event) (s' : State) : Prop := e.exec env s = .ok s'

/-- A history of the system. -/
abbrev Trace := List (Step State Event)

/-- A state without escrows, in which the tokens of every mint fit in a word. -/
structure Fresh (s : State) : Prop where
  escrows : s.escrows = fun _ => none
  supply : ∀ mint, s.tokens.supply mint < 2 ^ 64

end Escrow
end ArioSolana
