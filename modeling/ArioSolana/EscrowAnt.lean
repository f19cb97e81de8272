import ArioSolana.EscrowProgram

/-!
# Escrows of names

An ANT, the asset that controls a name, can be put into an escrow as well. It is an asset of
Metaplex Core with an owner and an update authority, and while it is in escrow the escrow's address
is both. There is one escrow address for each asset. Besides a claim and a cancellation there is a
purge: after about five years the protocol's authority may burn what nobody came for.

The asset program is not part of this repository: `AssetProgram` is whatever answers its calls, and
`AssetProgram.Documented` what it promises of plain assets, on which nobody but the owner and the
update authority has a say. The deposit does not ask for a plain asset.
-/

namespace ArioSolana
namespace Escrow

open Checked Solana

/-! ### Accounts -/

/-- About 5 years. -/
def unclaimedPurgeGraceSlots : ℕ := 394200000

/-- An asset of the asset program. -/
structure Asset where
  owner : Pubkey
  updateAuthority : Pubkey
  /-- what else the account holds: its name, and plugins with their authorities -/
  rest : List UInt8
deriving DecidableEq

/-- The assets by their keys. -/
abbrev Assets := Pubkey → Option Asset

/-- A call of the asset program. -/
inductive AssetCall where
  | transfer (asset newOwner : Pubkey)
  | setUpdateAuthority (asset newAuthority : Pubkey)
  | burn (asset : Pubkey)
  /-- any other call -/
  | other (data : List UInt8)

/-- The asset program. -/
structure AssetProgram where
  /-- what a call that these keys sign makes of the assets, if it succeeds -/
  exec : AssetCall → List Pubkey → Assets → Option Assets
  /-- the rest of an asset without plugins and outside collections -/
  Plain : List UInt8 → Prop

/-- A plain asset of this owner and update authority. -/
def AssetProgram.Holds (p : AssetProgram) (assets : Assets) (asset owner updateAuthority : Pubkey) :
    Prop :=
  ∃ rest, p.Plain rest ∧ assets asset = some ⟨owner, updateAuthority, rest⟩

/-- What the asset program promises of plain assets. -/
structure AssetProgram.Documented (p : AssetProgram) : Prop where
  /-- nobody but the owner and the update authority changes the asset -/
  guarded : ∀ {call signers assets assets' k a}, p.exec call signers assets = some assets' →
    assets k = some a → p.Plain a.rest → a.owner ∉ signers → a.updateAuthority ∉ signers →
    assets' k = some a
  transfer : ∀ {signers assets k o u} (newOwner : Pubkey), p.Holds assets k o u → o ∈ signers →
    ∃ assets', p.exec (.transfer k newOwner) signers assets = some assets'
  transferred : ∀ {signers assets assets' k o u newOwner}, p.Holds assets k o u →
    p.exec (.transfer k newOwner) signers assets = some assets' → p.Holds assets' k newOwner u
  setUpdateAuthority : ∀ {signers assets k o u} (newAuthority : Pubkey), p.Holds assets k o u →
    u ∈ signers → ∃ assets', p.exec (.setUpdateAuthority k newAuthority) signers assets = some
      assets'
  updateAuthoritySet : ∀ {signers assets assets' k o u newAuthority}, p.Holds assets k o u →
    p.exec (.setUpdateAuthority k newAuthority) signers assets = some assets' →
    p.Holds assets' k o newAuthority
  burn : ∀ {signers assets k o u}, p.Holds assets k o u → o ∈ signers →
    ∃ assets', p.exec (.burn k) signers assets = some assets'
  burnt : ∀ {signers assets assets' k o u}, p.Holds assets k o u →
    p.exec (.burn k) signers assets = some assets' → assets' k = none

structure EscrowAnt where
  depositor : Pubkey
  antMint : Pubkey
  recipientProtocol : ℕ
  /-- the active part of the recipient's key, without the padding -/
  recipientPubkey : List UInt8
  nonce : Bytes32
  depositSlot : ℕ
deriving DecidableEq

/-- The surroundings, with the addresses of the escrows of assets. -/
structure AntEnv extends Env where
  assetProgram : AssetProgram
  antPda : Pubkey → Pubkey
  isAntPda : Pubkey → Bool
  isAntPda_iff : ∀ k, isAntPda k = true ↔ ∃ antMint, k = antPda antMint

/-- Keys that can sign a call from outside. -/
def AntEnv.CanSign (env : AntEnv) (k : Pubkey) : Prop :=
  env.isAntPda k = false ∧ env.toEnv.CanSign k

instance (env : AntEnv) (k : Pubkey) : Decidable (env.CanSign k) :=
  inferInstanceAs (Decidable (_ ∧ _))

/-- The escrows by their addresses, the assets, and the authority in the core program's
configuration. -/
structure AntState where
  ants : Pubkey → Option EscrowAnt
  assets : Assets
  configAuthority : Pubkey

def AntState.setAnt (s : AntState) (address : Pubkey) (escrow : Option EscrowAnt) : AntState :=
  { s with ants := Function.update s.ants address escrow }

/-! ### Calls of the asset program -/

/-- A call of the asset program that these keys sign. -/
def callAssets (env : AntEnv) (call : AssetCall) (signers : List Pubkey) (s : AntState) :
    Except EscrowError AntState := do
  let assets ← okOr (env.assetProgram.exec call signers s.assets) .assetProgram
  return { s with assets }

/-- Hand an asset to another owner; the authority and the payer sign. -/
def transferAsset (env : AntEnv) (asset payer authority newOwner : Pubkey) :
    AntState → Except EscrowError AntState :=
  callAssets env (.transfer asset newOwner) [authority, payer]

/-- Name another update authority. -/
def setUpdateAuthority (env : AntEnv) (asset payer authority newAuthority : Pubkey) :
    AntState → Except EscrowError AntState :=
  callAssets env (.setUpdateAuthority asset newAuthority) [authority, payer]

def burnAsset (env : AntEnv) (asset payer authority : Pubkey) :
    AntState → Except EscrowError AntState :=
  callAssets env (.burn asset) [authority, payer]

/-! ### The canonical message -/

/-- The message whose signature releases the escrow of an asset. -/
def buildAntEscrowClaimMessage (env : Env) (escrow : EscrowAnt) (claimant : Pubkey) : List UInt8 :=
  ascii "ar.io ant-escrow claim" ++ ascii "\nnetwork: " ++ env.network
    ++ ascii "\nrecipient: " ++ deriveRecipientId env escrow.recipientPubkey
    ++ ascii "\nant: " ++ env.base58 escrow.antMint
    ++ ascii "\nclaimant: " ++ env.base58 claimant
    ++ ascii "\nnonce: " ++ encodeHexLowercase escrow.nonce.toList

/-- A key as the asset id that nonces are derived from. -/
def keyBytes (k : Pubkey) : Bytes32 :=
  Vector.ofFn fun i => UInt8.ofNat (k.bytes.val / 256 ^ i.val % 256)

/-! ### Instructions -/

structure AntAccounts where
  escrow : Pubkey
  antAsset : Pubkey
  depositor : Pubkey

/-- The escrow of a call that names an asset: it lies at that asset's address. -/
def checkAntEscrow (env : AntEnv) (address : Pubkey) (s : AntState) :
    Except EscrowError EscrowAnt := do
  let escrow ← okOr (s.ants address) .accountNotInitialized
  require (address = env.antPda escrow.antMint) .constraintSeeds
  return escrow

/-- Hand the asset with its update authority to `newOwner`, and close the escrow. -/
def releaseAnt (env : AntEnv) (address payer antMint newOwner : Pubkey) (s : AntState) :
    Except EscrowError AntState := do
  let s ← transferAsset env antMint payer address newOwner s
  let s ← setUpdateAuthority env antMint payer address newOwner s
  return s.setAnt address none

/-- An asset for a recipient. -/
def depositAnt (env : AntEnv) (tx : Transaction) (accounts : AntAccounts) (recipientProtocol : ℕ)
    (recipientPubkey : List UInt8) (s : AntState) : Except EscrowError AntState := do
  require (accounts.escrow = env.antPda accounts.antAsset) .constraintSeeds
  require ((s.ants accounts.escrow).isNone) .accountAlreadyInUse
  validatedProtocolAndLen recipientProtocol recipientPubkey
  let asset ← okOr (s.assets accounts.antAsset) .invalidAsset
  require (asset.owner = accounts.depositor) .notAntOwner
  let s ← transferAsset env accounts.antAsset accounts.depositor accounts.depositor
    accounts.escrow s
  let s ← setUpdateAuthority env accounts.antAsset accounts.depositor accounts.depositor
    accounts.escrow s
  return s.setAnt accounts.escrow (some {
    depositor := accounts.depositor
    antMint := accounts.antAsset
    recipientProtocol
    recipientPubkey
    nonce := deriveInitialNonce env.toEnv tx.clock.slot (keyBytes accounts.antAsset)
      accounts.depositor
    depositSlot := tx.clock.slot })

/-- Name another recipient, with another nonce. -/
def updateAntRecipient (env : AntEnv) (tx : Transaction) (address depositor : Pubkey)
    (newProtocol : ℕ) (newPubkey : List UInt8) (s : AntState) : Except EscrowError AntState := do
  let escrow ← checkAntEscrow env address s
  require (escrow.depositor = depositor) .notDepositor
  validatedProtocolAndLen newProtocol newPubkey
  return s.setAnt address (some { escrow with
    recipientProtocol := newProtocol
    recipientPubkey := newPubkey
    nonce := deriveRotatedNonce env.toEnv tx.clock.slot (keyBytes escrow.antMint) escrow.depositor
      escrow.nonce })

/-- Return the asset to the depositor. -/
def cancelAntDeposit (env : AntEnv) (accounts : AntAccounts) (s : AntState) :
    Except EscrowError AntState := do
  let escrow ← checkAntEscrow env accounts.escrow s
  require (escrow.depositor = accounts.depositor) .notDepositor
  require (accounts.antAsset = escrow.antMint) .antMintMismatch
  require ((s.assets accounts.antAsset).isSome) .invalidAsset
  releaseAnt env accounts.escrow accounts.depositor escrow.antMint accounts.depositor s

structure AntClaimAccounts extends AntAccounts where
  claimant : Pubkey
  payer : Pubkey

/-- A claim; `verify` is the signature scheme of the recipient's protocol. -/
def claimAnt (env : AntEnv) (protocol : ℕ)
    (verify : EscrowAnt → List UInt8 → Except EscrowError Unit) (accounts : AntClaimAccounts)
    (messageNonce : Bytes32) (s : AntState) : Except EscrowError AntState := do
  let escrow ← checkAntEscrow env accounts.escrow s
  require (escrow.depositor = accounts.depositor) .constraintHasOne
  require (accounts.antAsset = escrow.antMint) .antMintMismatch
  require ((s.assets accounts.antAsset).isSome) .invalidAsset
  require (escrow.recipientProtocol = protocol) .protocolMismatch
  require (messageNonce = escrow.nonce) .nonceMismatch
  verify escrow (buildAntEscrowClaimMessage env.toEnv escrow accounts.claimant)
  releaseAnt env accounts.escrow accounts.payer escrow.antMint accounts.claimant s

def claimAntEthereum (env : AntEnv) (accounts : AntClaimAccounts) (messageNonce : Bytes32)
    (signature : Vector UInt8 65) (s : AntState) : Except EscrowError AntState :=
  claimAnt env protocolEthereum (fun escrow message => do
    require (escrow.recipientPubkey.length = ethereumPubkeyLen) .signatureVerificationFailed
    verifyPersonalSign env.toEnv message signature.toList escrow.recipientPubkey)
    accounts messageNonce s

def claimAntArweaveAttested (env : AntEnv) (tx : Transaction) (accounts : AntClaimAccounts)
    (messageNonce : Bytes32) (s : AntState) : Except EscrowError AntState :=
  claimAnt env protocolArweave
    (fun _ message => verifyAttestedSignature env.toEnv tx.instructions tx.current message)
    accounts messageNonce s

/-- Burn an abandoned asset. -/
def adminPurgeUnclaimedAnt (env : AntEnv) (tx : Transaction) (address antAsset authority : Pubkey)
    (s : AntState) : Except EscrowError AntState := do
  let escrow ← checkAntEscrow env address s
  require (antAsset = escrow.antMint) .antMintMismatch
  require (authority = s.configAuthority) .unauthorized
  require ((s.assets antAsset).isSome) .invalidAsset
  require (unclaimedPurgeGraceSlots ≤ saturatingSub tx.clock.slot escrow.depositSlot)
    .purgeGraceNotElapsed
  let s ← burnAsset env escrow.antMint authority address s
  return s.setAnt address none

/-! ### Steps -/

/-- An instruction with the accounts and arguments of its caller. -/
inductive AntInstruction where
  | depositAnt (accounts : AntAccounts) (recipientProtocol : ℕ) (recipientPubkey : List UInt8)
  | updateRecipient (escrow depositor : Pubkey) (newProtocol : ℕ) (newPubkey : List UInt8)
  | cancelDeposit (accounts : AntAccounts)
  | claimAntEthereum (accounts : AntClaimAccounts) (messageNonce : Bytes32)
      (signature : Vector UInt8 65)
  | claimAntArweaveAttested (accounts : AntClaimAccounts) (messageNonce : Bytes32)
  | adminPurgeUnclaimedAnt (escrow antAsset authority : Pubkey)

/-- Whose signature a call needs. -/
def AntInstruction.signer : AntInstruction → Pubkey
  | .depositAnt accounts _ _ => accounts.depositor
  | .updateRecipient _ depositor _ _ => depositor
  | .cancelDeposit accounts => accounts.depositor
  | .claimAntEthereum accounts _ _ => accounts.payer
  | .claimAntArweaveAttested accounts _ => accounts.payer
  | .adminPurgeUnclaimedAnt _ _ authority => authority

/-- The handler of an instruction. -/
def AntInstruction.handler (env : AntEnv) (tx : Transaction) (i : AntInstruction) (s : AntState) :
    Except EscrowError AntState :=
  match i with
  | .depositAnt accounts recipientProtocol recipientPubkey =>
    Escrow.depositAnt env tx accounts recipientProtocol recipientPubkey s
  | .updateRecipient escrow depositor newProtocol newPubkey =>
    Escrow.updateAntRecipient env tx escrow depositor newProtocol newPubkey s
  | .cancelDeposit accounts => Escrow.cancelAntDeposit env accounts s
  | .claimAntEthereum accounts messageNonce signature =>
    Escrow.claimAntEthereum env accounts messageNonce signature s
  | .claimAntArweaveAttested accounts messageNonce =>
    Escrow.claimAntArweaveAttested env tx accounts messageNonce s
  | .adminPurgeUnclaimedAnt escrow antAsset authority =>
    Escrow.adminPurgeUnclaimedAnt env tx escrow antAsset authority s

/-- Execute an instruction. -/
def AntInstruction.exec (env : AntEnv) (tx : Transaction) (i : AntInstruction) (s : AntState) :
    Except EscrowError AntState := do
  require (env.CanSign i.signer) .missingRequiredSignature
  i.handler env tx s

/-- What can happen to assets and their escrows. -/
inductive AntAction where
  | call (i : AntInstruction)
  /-- a call of the asset program that no escrow signs -/
  | callAssets (call : AssetCall) (signers : List Pubkey)
  /-- the core program's configuration changes -/
  | setConfigAuthority (authority : Pubkey)

/-- Perform an action. -/
def AntAction.exec (env : AntEnv) (tx : Transaction) (s : AntState) (a : AntAction) :
    Except EscrowError AntState :=
  match a with
  | .call i => i.exec env tx s
  | .callAssets assetCall signers => do
    require (signers.all fun k => env.CanSign k) .missingRequiredSignature
    Escrow.callAssets env assetCall signers s
  | .setConfigAuthority authority => .ok { s with configAuthority := authority }

/-! ### The whole program -/

/-- Escrows of tokens and escrows of assets. -/
structure World where
  tokenSide : State
  antSide : AntState

inductive WorldEvent where
  | token (e : Event)
  | ant (tx : Transaction) (a : AntAction)

def WorldEvent.slot : WorldEvent → ℕ
  | .token e => e.tx.clock.slot
  | .ant tx _ => tx.clock.slot

def WorldEvent.exec (env : AntEnv) (w : World) : WorldEvent → Except EscrowError World
  | .token e => do
    let tokenSide ← e.exec env.toEnv w.tokenSide
    return { w with tokenSide }
  | .ant tx a => do
    let antSide ← a.exec env tx w.antSide
    return { w with antSide }

/-- One step of the whole program. -/
def WorldStep (env : AntEnv) (w : World) (e : WorldEvent) (w' : World) : Prop :=
  e.exec env w = .ok w'

/-- A history of the whole program. -/
abbrev WorldTrace := List (Step World WorldEvent)

end Escrow
end ArioSolana
