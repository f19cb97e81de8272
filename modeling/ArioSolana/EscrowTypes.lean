import ArioSolana.CoreVaults

/-!
# Escrows

The data of the escrow program: an escrow holds tokens for a recipient of another chain, who is
known by an Arweave modulus or an Ethereum address, until that recipient names the wallet that
the tokens go to. `Env` is what the program takes from its surroundings: the addresses of the
escrows, the hash functions and the recovery of a signer.
-/

namespace ArioSolana
namespace Escrow

open Checked Solana

inductive EscrowError where
  | invalidRecipientProtocol
  | invalidRecipientPubkeyLength
  | notDepositor
  | nonceMismatch
  | protocolMismatch
  | signatureVerificationFailed
  | ethereumAddressMismatch
  | ecdsaHighS
  | invalidRecoveryId
  | amountZero
  | vaultDurationTooShort
  | vaultAmountBelowMinimum
  | assetTypeMismatch
  | mintMismatch
  | tokenAccountOwnerMismatch
  | arithmeticOverflow
  | missingAttestationInstruction
  | malformedAttestationInstruction
  | attestationSignerMismatch
  | attestationMessageMismatch
  | revocableVaultUnsupported
  | relockAccountsMissing
  | invalidEscrowTokenAccountState
  | notAntOwner
  | invalidAsset
  | antMintMismatch
  | purgeGraceNotElapsed
  | unauthorized
  /-- the asset program refuses -/
  | assetProgram
  /-- an account that a context creates exists -/
  | accountAlreadyInUse
  | accountNotInitialized
  | constraintSeeds
  | constraintHasOne
  | constraintRaw
  | missingRequiredSignature
  /-- the core program refuses -/
  | core (e : Core.ArioError)
  | spl (e : SplError)
deriving DecidableEq

/-! ### Constants -/

def protocolArweave : ℕ := 0

def protocolEthereum : ℕ := 1

def arweavePubkeyLen : ℕ := 512

def ethereumPubkeyLen : ℕ := 20

def assetTypeToken : ℕ := 1

def assetTypeVault : ℕ := 2

/-- 14 days. -/
def minVaultLockDuration : ℤ := 14 * 86400

/-- 100 ARIO. -/
def minVaultAmount : ℕ := 100000000

/-- The seeds of an escrow's address. -/
inductive EscrowSeed where
  | token
  | vault
deriving DecidableEq

/-! ### Accounts -/

structure EscrowToken where
  depositor : Pubkey
  /-- `assetTypeToken` or `assetTypeVault` -/
  assetType : ℕ
  amount : ℕ
  arioMint : Pubkey
  assetId : Bytes32
  recipientProtocol : ℕ
  /-- the active part of the recipient's key, without the padding -/
  recipientPubkey : List UInt8
  nonce : Bytes32
  depositSlot : ℕ
  vaultEndTimestamp : ℤ
  vaultRevocable : Bool
deriving DecidableEq

/-- The runtime's clock. -/
structure Clock where
  slot : ℕ
  unixTimestamp : ℤ

/-- An instruction of the same transaction, as introspection shows it. -/
structure SiblingInstruction where
  programId : Pubkey
  data : List UInt8

/-- The addresses of the core program. -/
structure CoreEnv extends Core.VaultEnv where
  counterPda : Pubkey → Pubkey

/-- What the program takes from its surroundings. -/
structure Env where
  core : CoreEnv
  /-- the address derived from a seed, a depositor and an asset id -/
  escrowPda : EscrowSeed → Pubkey → Bytes32 → Pubkey
  /-- whether a key is the address of an escrow -/
  isEscrowPda : Pubkey → Bool
  isEscrowPda_iff : ∀ k, isEscrowPda k = true ↔ ∃ seed depositor id, k = escrowPda seed depositor id
  /-- the network that a build is for -/
  network : List UInt8
  attestorPubkey : Pubkey
  ed25519ProgramId : Pubkey
  sha256 : List UInt8 → Bytes32
  keccak256 : List UInt8 → Bytes32
  /-- the public key that signed a digest, from the recovery id and the signature -/
  secp256k1Recover : Bytes32 → UInt8 → List UInt8 → Option (List UInt8)
  /-- a key as text -/
  base58 : Pubkey → List UInt8

/-- Keys that can sign a call from outside: an escrow's address signs only inside this program. -/
def Env.CanSign (env : Env) (k : Pubkey) : Prop := env.isEscrowPda k = false

instance (env : Env) (k : Pubkey) : Decidable (env.CanSign k) := inferInstanceAs (Decidable (_ = _))

lemma Env.CanSign.ne {env : Env} {k : Pubkey} (h : env.CanSign k) (seed : EscrowSeed)
    (depositor : Pubkey) (id : Bytes32) : k ≠ env.escrowPda seed depositor id := by
  rintro rfl
  have := (env.isEscrowPda_iff _).mpr ⟨seed, depositor, id, rfl⟩
  simp [CanSign, this] at h

/-- The accounts that the core program keeps for vaults. -/
structure CoreBooks where
  config : Option Core.ArioConfig
  counters : Pubkey → Option Core.VaultCounter
  vaults : Pubkey × Core.VaultId → Option Core.Vault

/-- The id of the next vault of an owner. -/
def CoreBooks.nextId (books : CoreBooks) (owner : Pubkey) : Core.VaultId :=
  ((books.counters owner).getD ⟨owner, 0⟩).nextId

/-- The escrows by their addresses, the token accounts of the chain, and the accounts of the core
program. -/
structure State where
  escrows : Pubkey → Option EscrowToken
  tokens : Tokens
  core : CoreBooks

def State.setEscrow (s : State) (address : Pubkey) (escrow : Option EscrowToken) : State :=
  { s with escrows := Function.update s.escrows address escrow }

/-! ### Account checks -/

/-- The escrow at an address. -/
def loadEscrow (s : State) (address : Pubkey) : Except EscrowError EscrowToken :=
  okOr (s.escrows address) .accountNotInitialized

/-- A token account of the given owner and mint. -/
def checkTokenAccount (s : State) (account owner mint : Pubkey)
    (ownerError mintError : EscrowError) : Except EscrowError Unit := do
  let a ← okOr (s.tokens.accounts account) .accountNotInitialized
  require (a.owner = owner) ownerError
  require (a.mint = mint) mintError

/-- A transfer of the token program. -/
def splTransfer (s : State) (source destination authority : Pubkey) (amount : ℕ) :
    Except EscrowError State :=
  match s.tokens.transfer source destination authority amount with
  | .ok tokens => .ok { s with tokens }
  | .error e => .error (.spl e)

/-- Close a token account of the token program. -/
def splCloseAccount (s : State) (account authority : Pubkey) : Except EscrowError State :=
  match s.tokens.closeAccount account authority with
  | .ok tokens => .ok { s with tokens }
  | .error e => .error (.spl e)

section

variable {s s' : State} {source destination authority k owner mint : Pubkey} {amount : ℕ}
  {e e' : EscrowError} {escrow : EscrowToken}

@[simp] lemma loadEscrow_eq_ok : loadEscrow s k = .ok escrow ↔ s.escrows k = some escrow := by
  simp [loadEscrow, okOr_eq_ok]

@[simp] lemma checkTokenAccount_eq_ok {u : Unit} :
    checkTokenAccount s k owner mint e e' = .ok u ↔ s.tokens.terms k = some (mint, owner) := by
  simp only [checkTokenAccount, bind_eq_ok, okOr_eq_ok, require_eq_ok, exists_const, Tokens.terms,
    Option.map_eq_some_iff, Prod.mk.injEq]
  exact exists_congr fun a => and_congr_right fun _ => and_comm

@[simp] lemma splTransfer_eq_ok : splTransfer s source destination authority amount = .ok s' ↔
    ∃ t, s.tokens.transfer source destination authority amount = .ok t ∧
      s' = { s with tokens := t } := by
  unfold splTransfer
  cases s.tokens.transfer source destination authority amount with
  | ok t => simp only [Except.ok.injEq, exists_eq_left']; exact eq_comm
  | error e => simp

@[simp] lemma splCloseAccount_eq_ok : splCloseAccount s k authority = .ok s' ↔
    ∃ t, s.tokens.closeAccount k authority = .ok t ∧ s' = { s with tokens := t } := by
  unfold splCloseAccount
  cases s.tokens.closeAccount k authority with
  | ok t => simp only [Except.ok.injEq, exists_eq_left']; exact eq_comm
  | error e => simp

end

end Escrow
end ArioSolana
