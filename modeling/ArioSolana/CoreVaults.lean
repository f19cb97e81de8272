import ArioSolana.CoreReaders
import ArioSolana.SplLedger
import ArioSolana.Runs

/-!
# Vaults

A vault locks tokens until a time, or until its controller takes them back before that. The tokens
lie in an account of the vault's own address, which the caller names: the program asks that the
account belong to that address and hold the right mint, at the deposit and at every later call. The
configuration counts what is locked and what circulates.
-/

namespace ArioSolana
namespace Core

open Checked Solana

abbrev VaultId := Fin (2 ^ 64)

/-- The id after `id`. -/
def VaultId.next (id : VaultId) : Except ArioError VaultId :=
  if h : id.val + 1 < 2 ^ 64 then .ok ⟨id.val + 1, h⟩ else .error .arithmeticOverflow

/-! ### Accounts -/

structure ArioConfig where
  authority : Pubkey
  mint : Pubkey
  totalSupply : ℕ
  protocolBalance : ℕ
  circulatingSupply : ℕ
  /-- what is locked in vaults -/
  lockedSupply : ℕ
  minVaultDuration : ℤ
  maxVaultDuration : ℤ
  primaryNameRequestExpiry : ℤ
deriving DecidableEq

structure VaultCounter where
  owner : Pubkey
  nextId : VaultId
deriving DecidableEq

structure Vault where
  owner : Pubkey
  vaultId : VaultId
  amount : ℕ
  startTimestamp : ℤ
  endTimestamp : ℤ
  controller : Option Pubkey
  revocable : Bool
deriving DecidableEq

def Vault.isUnlocked (v : Vault) (currentTimestamp : ℤ) : Bool := v.endTimestamp ≤ currentTimestamp

/-- 14 days. -/
def defaultMinVaultDuration : ℤ := 14 * 86400

/-- 200 years. -/
def defaultMaxVaultDuration : ℤ := 200 * 365 * 86400

/-- 7 days. -/
def defaultPrimaryNameRequestExpiry : ℤ := 7 * 86400

def minVaultSize : ℕ := 100000000

/-- The accounts of the program that vaults use, and the token accounts of the chain. -/
structure VaultState where
  config : Option ArioConfig
  counters : Pubkey → Option VaultCounter
  vaults : Pubkey × VaultId → Option Vault
  tokens : Ledger

/-- The addresses of vaults. -/
structure VaultEnv where
  vaultPda : Pubkey → VaultId → Pubkey
  /-- whether a key is the address of a vault -/
  isVaultPda : Pubkey → Bool
  isVaultPda_iff : ∀ k, isVaultPda k = true ↔ ∃ owner id, k = vaultPda owner id

/-- Keys that can sign a call from outside: a vault's address signs only inside this program. -/
def VaultEnv.CanSign (env : VaultEnv) (k : Pubkey) : Prop := env.isVaultPda k = false

instance (env : VaultEnv) (k : Pubkey) : Decidable (env.CanSign k) :=
  inferInstanceAs (Decidable (_ = _))

/-! ### Helpers -/

/-- A call of the token program inside a call of this one. -/
def viaToken (x : Except SplError Ledger) : Except ArioError Ledger := x.mapError .token

def loadConfig (s : VaultState) :
    Except ArioError ArioConfig := okOr s.config .accountNotInitialized

/-- The vault at the address of its own owner and id. -/
def loadVault (s : VaultState) (owner : Pubkey) (id : VaultId) : Except ArioError Vault := do
  let vault ← okOr (s.vaults (owner, id)) .accountNotInitialized
  require (vault.owner = owner ∧ vault.vaultId = id) .constraintSeeds
  return vault

/-- A token account belongs to an owner and holds the mint. -/
def checkTokenAccount (s : VaultState) (k owner mint : Pubkey) (e : ArioError) :
    Except ArioError SplAccount := do
  let a ← okOr (s.tokens k) .accountNotInitialized
  require (a.owner = owner) e
  require (a.mint = mint) .constraintRaw
  return a

def loadCounter (s : VaultState) (owner : Pubkey) : VaultCounter :=
  (s.counters owner).getD ⟨owner, 0⟩

/-- Tokens go from circulation into a vault. -/
def ArioConfig.lock (config : ArioConfig) (amount : ℕ) : Except ArioError ArioConfig := do
  let lockedSupply ← okOr (checkedAdd 64 config.lockedSupply amount) .arithmeticOverflow
  let circulatingSupply ← okOr (checkedSub config.circulatingSupply amount) .arithmeticUnderflow
  return { config with lockedSupply, circulatingSupply }

/-- Tokens go from a vault into circulation. -/
def ArioConfig.unlock (config : ArioConfig) (amount : ℕ) : Except ArioError ArioConfig := do
  let lockedSupply ← okOr (checkedSub config.lockedSupply amount) .arithmeticUnderflow
  let circulatingSupply ← okOr (checkedAdd 64 config.circulatingSupply amount) .arithmeticOverflow
  return { config with lockedSupply, circulatingSupply }

def checkLock (config : ArioConfig) (amount : ℕ) (lockDurationSeconds : ℤ) :
    Except ArioError Unit := do
  require (config.minVaultDuration ≤ lockDurationSeconds) .lockDurationTooShort
  require (lockDurationSeconds ≤ config.maxVaultDuration) .lockDurationTooLong
  require (0 < amount) .invalidAmount
  require (minVaultSize ≤ amount) .vaultBelowMinimum

/-- The accounts of a call that creates a vault for `recipient`. -/
def checkVaultAccounts (env : VaultEnv) (config : ArioConfig) (sender recipient : Pubkey)
    (senderTokenAccount vaultTokenAccount : Pubkey) (s : VaultState) : Except ArioError Unit := do
  let id := (loadCounter s recipient).nextId
  require ((s.vaults (recipient, id)).isNone) .accountAlreadyInUse
  let _ ← checkTokenAccount s senderTokenAccount sender config.mint .constraintRaw
  let _ ← checkTokenAccount s vaultTokenAccount (env.vaultPda recipient id) config.mint
    .invalidAccountState
  return ()

/-- Pay into the vault's account and write the vault. -/
def fundVault (config : ArioConfig) (now : ℤ) (sender recipient : Pubkey)
    (senderTokenAccount vaultTokenAccount : Pubkey) (amount : ℕ) (lockDurationSeconds : ℤ)
    (controller : Option Pubkey) (revocable : Bool) (s : VaultState) :
    Except ArioError VaultState := do
  let tokens ← viaToken (s.tokens.transfer senderTokenAccount vaultTokenAccount sender amount)
  let counter := loadCounter s recipient
  let endTimestamp ← okOr (checkedAddSigned 64 now lockDurationSeconds) .arithmeticOverflow
  let nextId ← counter.nextId.next
  let config ← config.lock amount
  return {
    config := some config
    counters := Function.update s.counters recipient (some { owner := recipient, nextId })
    vaults := Function.update s.vaults (recipient, counter.nextId) (some {
      owner := recipient
      vaultId := counter.nextId
      amount
      startTimestamp := now
      endTimestamp
      controller
      revocable })
    tokens }

/-! ### Instructions -/

structure InitializeParams where
  authority : Pubkey
  totalSupply : ℕ
  /-- a word of 64 bits -/
  totalSupplyFits : totalSupply < 2 ^ 64

def initializeCore (mint : Pubkey) (params : InitializeParams) (s : VaultState) :
    Except ArioError VaultState := do
  require (s.config.isNone) .accountAlreadyInUse
  return { s with config := some {
    authority := params.authority
    mint
    totalSupply := params.totalSupply
    protocolBalance := 0
    circulatingSupply := params.totalSupply
    lockedSupply := 0
    minVaultDuration := defaultMinVaultDuration
    maxVaultDuration := defaultMaxVaultDuration
    primaryNameRequestExpiry := defaultPrimaryNameRequestExpiry } }

structure UpdateConfigParams where
  minVaultDuration : Option ℤ
  maxVaultDuration : Option ℤ
  primaryNameRequestExpiry : Option ℤ
  newAuthority : Option Pubkey

def updateConfig (signer : Pubkey) (params : UpdateConfigParams) (s : VaultState) :
    Except ArioError VaultState := do
  let config ← loadConfig s
  require (config.authority = signer) .unauthorized
  require (params.newAuthority ≠ some .default) .invalidParameter
  let config := { config with
    minVaultDuration := params.minVaultDuration.getD config.minVaultDuration
    maxVaultDuration := params.maxVaultDuration.getD config.maxVaultDuration
    primaryNameRequestExpiry :=
      params.primaryNameRequestExpiry.getD config.primaryNameRequestExpiry
    authority := params.newAuthority.getD config.authority }
  require (config.minVaultDuration ≤ config.maxVaultDuration) .invalidParameter
  require (0 ≤ config.minVaultDuration) .invalidParameter
  require (0 < config.primaryNameRequestExpiry) .invalidParameter
  require (0 < config.maxVaultDuration) .invalidParameter
  return { s with config := some config }

def createVault (env : VaultEnv) (now : ℤ) (owner ownerTokenAccount vaultTokenAccount : Pubkey)
    (amount : ℕ) (lockDurationSeconds : ℤ) (s : VaultState) : Except ArioError VaultState := do
  let config ← loadConfig s
  checkVaultAccounts env config owner owner ownerTokenAccount vaultTokenAccount s
  checkLock config amount lockDurationSeconds
  fundVault config now owner owner ownerTokenAccount vaultTokenAccount amount lockDurationSeconds
    none false s

def vaultedTransfer (env : VaultEnv) (now : ℤ)
    (sender recipient senderTokenAccount vaultTokenAccount : Pubkey) (amount : ℕ)
    (lockDurationSeconds : ℤ) (revocable : Bool) (s : VaultState) :
    Except ArioError VaultState := do
  let config ← loadConfig s
  checkVaultAccounts env config sender recipient senderTokenAccount vaultTokenAccount s
  checkLock config amount lockDurationSeconds
  require (sender ≠ recipient) .selfTransfer
  fundVault config now sender recipient senderTokenAccount vaultTokenAccount amount
    lockDurationSeconds (if revocable then some sender else none) revocable s

/-- The escrow program locks a claimed vault again: the tokens pass through the payer's account. -/
def relockVault (env : VaultEnv) (now : ℤ)
    (escrow escrowTokenAccount payer payerTokenAccount claimant vaultTokenAccount : Pubkey)
    (amount : ℕ) (remaining : ℤ) (s : VaultState) : Except ArioError VaultState := do
  let tokens ← viaToken (s.tokens.transfer escrowTokenAccount payerTokenAccount escrow amount)
  let s := { s with tokens }
  if payer = claimant then
    createVault env now payer payerTokenAccount vaultTokenAccount amount remaining s
  else
    vaultedTransfer env now payer claimant payerTokenAccount vaultTokenAccount amount remaining
      false s

def increaseVault (env : VaultEnv) (now : ℤ) (owner : Pubkey) (id : VaultId)
    (ownerTokenAccount vaultTokenAccount : Pubkey) (amount : ℕ) (s : VaultState) :
    Except ArioError VaultState := do
  let config ← loadConfig s
  let vault ← loadVault s owner id
  let _ ← checkTokenAccount s ownerTokenAccount owner config.mint .constraintRaw
  let _ ← checkTokenAccount s vaultTokenAccount (env.vaultPda owner id) config.mint
    .invalidAccountState
  require (0 < amount) .invalidAmount
  require (now ≤ vault.endTimestamp) .vaultExpired
  let tokens ← viaToken (s.tokens.transfer ownerTokenAccount vaultTokenAccount owner amount)
  let newAmount ← okOr (checkedAdd 64 vault.amount amount) .arithmeticOverflow
  let config ← config.lock amount
  return { s with
    config := some config
    vaults := Function.update s.vaults (owner, id) (some { vault with amount := newAmount })
    tokens }

def extendVault (now : ℤ) (owner : Pubkey) (id : VaultId) (additionalSeconds : ℤ)
    (s : VaultState) : Except ArioError VaultState := do
  let config ← loadConfig s
  let vault ← loadVault s owner id
  require (0 < additionalSeconds) .invalidParameter
  require (now ≤ vault.endTimestamp) .vaultExpired
  let newEnd ← okOr (checkedAddSigned 64 vault.endTimestamp additionalSeconds) .arithmeticOverflow
  let remaining ← okOr (checkedSubSigned 64 newEnd now) .arithmeticUnderflow
  require (remaining ≤ config.maxVaultDuration) .lockDurationTooLong
  return { s with
    vaults := Function.update s.vaults (owner, id) (some { vault with endTimestamp := newEnd }) }

/-- Sweep the supplied account of a vault, close it, and close the vault. -/
def payOut (env : VaultEnv) (config : ArioConfig) (vault : Vault) (swept : SplAccount)
    (vaultTokenAccount destination : Pubkey) (s : VaultState) : Except ArioError VaultState := do
  let pda := env.vaultPda vault.owner vault.vaultId
  let tokens ← viaToken (s.tokens.transfer vaultTokenAccount destination pda swept.amount)
  let tokens ← viaToken (tokens.closeAccount vaultTokenAccount pda)
  let config ← config.unlock vault.amount
  return { s with
    config := some config
    vaults := Function.update s.vaults (vault.owner, vault.vaultId) none
    tokens }

def releaseTimeCheck (vault : Vault) (now : ℤ) : Except ArioError Unit :=
  require (vault.isUnlocked now) .vaultLocked

def revokeTimeCheck (vault : Vault) (now : ℤ) : Except ArioError Unit :=
  require (vault.isUnlocked now = false) .vaultExpired

def revokeVault (env : VaultEnv) (now : ℤ) (controller owner : Pubkey) (id : VaultId)
    (vaultTokenAccount controllerTokenAccount : Pubkey) (s : VaultState) :
    Except ArioError VaultState := do
  let config ← loadConfig s
  let vault ← loadVault s owner id
  require (vault.revocable) .vaultNotRevocable
  require (vault.controller = some controller) .notVaultController
  let swept ← checkTokenAccount s vaultTokenAccount (env.vaultPda owner id) config.mint
    .invalidAccountState
  let _ ← checkTokenAccount s controllerTokenAccount controller config.mint .invalidOwner
  revokeTimeCheck vault now
  payOut env config vault swept vaultTokenAccount controllerTokenAccount s

def releaseVault (env : VaultEnv) (now : ℤ) (owner : Pubkey) (id : VaultId)
    (vaultTokenAccount ownerTokenAccount : Pubkey) (s : VaultState) :
    Except ArioError VaultState := do
  let config ← loadConfig s
  let vault ← loadVault s owner id
  let swept ← checkTokenAccount s vaultTokenAccount (env.vaultPda owner id) config.mint
    .invalidAccountState
  let _ ← checkTokenAccount s ownerTokenAccount owner config.mint .constraintRaw
  releaseTimeCheck vault now
  payOut env config vault swept vaultTokenAccount ownerTokenAccount s

/-! ### Steps -/

inductive VaultCall where
  | initializeCore (mint : Pubkey) (params : InitializeParams)
  | updateConfig (params : UpdateConfigParams)
  | createVault (ownerTokenAccount vaultTokenAccount : Pubkey) (amount : ℕ)
      (lockDurationSeconds : ℤ)
  | vaultedTransfer (recipient senderTokenAccount vaultTokenAccount : Pubkey) (amount : ℕ)
      (lockDurationSeconds : ℤ) (revocable : Bool)
  | relockVault (escrow escrowTokenAccount payerTokenAccount claimant vaultTokenAccount : Pubkey)
      (amount : ℕ) (remaining : ℤ)
  | increaseVault (id : VaultId) (ownerTokenAccount vaultTokenAccount : Pubkey) (amount : ℕ)
  | extendVault (id : VaultId) (additionalSeconds : ℤ)
  | revokeVault (owner : Pubkey) (id : VaultId) (vaultTokenAccount controllerTokenAccount : Pubkey)
  | releaseVault (id : VaultId) (vaultTokenAccount ownerTokenAccount : Pubkey)
  | spl (call : SplCall)

def VaultCall.handler (env : VaultEnv) (now : ℤ) (signer : Pubkey) (call : VaultCall)
    (s : VaultState) : Except ArioError VaultState :=
  match call with
  | .initializeCore mint params => Core.initializeCore mint params s
  | .updateConfig params => Core.updateConfig signer params s
  | .createVault source target amount seconds =>
    Core.createVault env now signer source target amount seconds s
  | .vaultedTransfer recipient source target amount seconds revocable =>
    Core.vaultedTransfer env now signer recipient source target amount seconds revocable s
  | .relockVault escrow escrowAccount source claimant target amount remaining =>
    Core.relockVault env now escrow escrowAccount signer source claimant target amount remaining s
  | .increaseVault id source target amount =>
    Core.increaseVault env now signer id source target amount s
  | .extendVault id additionalSeconds => Core.extendVault now signer id additionalSeconds s
  | .revokeVault owner id source target => Core.revokeVault env now signer owner id source target s
  | .releaseVault id source target => Core.releaseVault env now signer id source target s
  | .spl call => do
    let tokens ← viaToken (call.exec signer s.tokens)
    return { s with tokens }

/-- A call at a time by a signer; an escrow's address signs only inside the escrow program. -/
structure VaultEvent where
  now : ℤ
  signer : Pubkey
  call : VaultCall

/-- Whoever signs, signs from outside this program. -/
def VaultEvent.SignedOutside (env : VaultEnv) (e : VaultEvent) : Prop :=
  env.CanSign e.signer ∧ match e.call with
    | .relockVault escrow .. => env.CanSign escrow
    | _ => True

instance (env : VaultEnv) (e : VaultEvent) : Decidable (e.SignedOutside env) := by
  unfold VaultEvent.SignedOutside
  cases e.call <;> infer_instance

def VaultEvent.exec (env : VaultEnv) (s : VaultState) (e : VaultEvent) :
    Except ArioError VaultState := do
  require (e.SignedOutside env) .unauthorized
  e.call.handler env e.now e.signer s

def VaultStep (env : VaultEnv) (s : VaultState) (e : VaultEvent) (s' : VaultState) : Prop :=
  e.exec env s = .ok s'

abbrev VaultTrace := List (Step VaultState VaultEvent)

/-- No accounts of the program yet. The vaults' addresses have signed nothing, and a mint has at
most as many tokens as a word counts. -/
structure FreshVaults (env : VaultEnv) (s : VaultState) : Prop where
  config : s.config = none
  counters : s.counters = fun _ => none
  vaults : s.vaults = fun _ => none
  undelegated : Ledger.Undelegated (fun k => env.isVaultPda k = true) s.tokens
  supply : ∀ mint, s.tokens.supply mint < 2 ^ 64

end Core
end ArioSolana
