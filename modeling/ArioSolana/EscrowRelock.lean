import ArioSolana.EscrowNonces
import ArioSolana.CoreVaultRules

/-!
# Settling a vault claim

A vault claim runs in two programs. Before the end of the lock the escrow program passes the tokens
through the payer's account into a new vault of the core program; afterwards, and when the rest of
the lock is too short for the core program, it hands them out. `JointState` has the accounts of both
programs and the token accounts with their authorities. -/

namespace ArioSolana
namespace Escrow
namespace Joint

open Checked Solana
open ArioSolana.Core (VaultState VaultId Vault ArioConfig loadCounter Opened)

/-! ### The two programs -/

/-- The two programs, which have no address in common. -/
structure Programs where
  escrow : Env
  apart : ∀ seed depositor assetId, escrow.core.CanSign (escrow.escrowPda seed depositor assetId)

/-- The core program. -/
abbrev Programs.core (p : Programs) : CoreEnv := p.escrow.core

structure JointState where
  escrows : Pubkey → Option EscrowToken
  core : VaultState
  /-- the rent of the accounts that are closed, and who gets it; what the payer pays for new
  accounts is left out -/
  lamports : Pubkey → ℕ

def viaSpl {α : Type} (x : Except SplError α) : Except EscrowError α := x.mapError .spl

/-- The rent of a closed account goes to `destination`. -/
def sweepLamports (lamports : Pubkey → ℕ) (source destination : Pubkey) : Pubkey → ℕ :=
  Function.update (Function.update lamports source 0) destination
    (lamports destination + lamports source)

/-- Tokens of the escrow go to the claimant. -/
def payClaimant (accounts : ClaimAccounts) (amount : ℕ) (core : VaultState) :
    Except EscrowError VaultState := do
  let tokens ← viaSpl (core.tokens.transfer accounts.escrowTokenAccount
    accounts.claimantTokenAccount accounts.escrow amount)
  return { core with tokens }

/-- The escrowed amount goes through the payer's account into a new vault, and what else the account
holds to the claimant. -/
def relockAndSweep (cenv : CoreEnv) (now : ℤ) (accounts : ClaimAccounts) (extra : RelockAccounts)
    (amount liveBalance : ℕ) (remaining : ℤ) (core : VaultState) : Except EscrowError
      VaultState := do
  let payerTokenAccount ← okOr extra.payerTokenAccount .relockAccountsMissing
  let recipientVaultCounter ← okOr extra.recipientVaultCounter .relockAccountsMissing
  let vault ← okOr extra.vault .relockAccountsMissing
  let vaultTokenAccount ← okOr extra.vaultTokenAccount .relockAccountsMissing
  require extra.arioCoreProgram .relockAccountsMissing
  -- the core program derives these two addresses itself
  require (recipientVaultCounter = cenv.counterPda accounts.claimant ∧
    vault = cenv.vaultPda accounts.claimant (loadCounter core accounts.claimant).nextId)
      (.core .constraintSeeds)
  let core ← viaCore (Core.relockVault cenv.toVaultEnv now accounts.escrow
    accounts.escrowTokenAccount accounts.payer payerTokenAccount accounts.claimant vaultTokenAccount
    amount remaining core)
  if amount < liveBalance then payClaimant accounts (liveBalance - amount) core else return core

/-- Lock the tokens for the rest of the time, if there is enough of it, or hand them out. -/
def moveVaultTokens (cenv : CoreEnv) (now : ℤ) (accounts : ClaimAccounts) (extra : RelockAccounts)
    (amount liveBalance : ℕ) (remaining : ℤ) (core : VaultState) : Except EscrowError VaultState :=
  if 0 < remaining then do
    let config ← okOr (if extra.arioCoreConfig then core.config else none) .relockAccountsMissing
    if config.minVaultDuration ≤ remaining then
      relockAndSweep cenv now accounts extra amount liveBalance remaining core
    else payClaimant accounts liveBalance core
  else payClaimant accounts liveBalance core

def settleVaultClaim (cenv : CoreEnv) (now : ℤ) (accounts : ClaimAccounts) (extra : RelockAccounts)
    (escrow : EscrowToken) (s : JointState) : Except EscrowError JointState := do
  let remaining := saturatingSubSigned 64 escrow.vaultEndTimestamp now
  let liveBalance := s.core.tokens.balance accounts.escrowTokenAccount
  require (escrow.amount ≤ liveBalance) .invalidEscrowTokenAccountState
  let core ← moveVaultTokens cenv now accounts extra escrow.amount liveBalance remaining s.core
  -- the token program refuses to send the rent of an account to that account
  require (accounts.depositor ≠ accounts.escrowTokenAccount) (.spl .invalidAccountData)
  let tokens ← viaSpl (core.tokens.closeAccount accounts.escrowTokenAccount accounts.escrow)
  return {
    escrows := Function.update s.escrows accounts.escrow none
    core := { core with tokens }
    lamports := sweepLamports (sweepLamports s.lamports accounts.escrowTokenAccount
      accounts.depositor) accounts.escrow accounts.depositor }

/-- A token account of the given owner and mint. -/
def checkTokenAccount (s : JointState) (account owner mint : Pubkey)
    (ownerError mintError : EscrowError) : Except EscrowError Unit := do
  let a ← okOr (s.core.tokens account) .accountNotInitialized
  require (a.owner = owner) ownerError
  require (a.mint = mint) mintError

/-- The payer's token account, if there is one, is of the escrow's mint. -/
def checkPayerTokenAccount (accounts : ClaimAccounts) (extra : RelockAccounts)
    (escrow : EscrowToken) (s : JointState) : Except EscrowError Unit :=
  match extra.payerTokenAccount with
  | some account => checkTokenAccount s account accounts.payer escrow.arioMint
      .tokenAccountOwnerMismatch .mintMismatch
  | none => .ok ()

/-- What both claims have in common; `verify` is the signature scheme of the recipient's protocol.
-/
def claimVault (protocol : ℕ) (verify : EscrowToken → List UInt8 → Except EscrowError Unit)
    (env : Env) (cenv : CoreEnv) (now : ℤ) (accounts : ClaimAccounts) (extra : RelockAccounts)
    (messageNonce : Bytes32) (s : JointState) : Except EscrowError JointState := do
  require (env.CanSign accounts.payer ∧ cenv.CanSign accounts.payer) .missingRequiredSignature
  let escrow ← okOr (s.escrows accounts.escrow) .accountNotInitialized
  require (accounts.escrow = env.escrowPda .vault escrow.depositor escrow.assetId) .constraintSeeds
  require (escrow.depositor = accounts.depositor) .constraintHasOne
  checkTokenAccount s accounts.escrowTokenAccount accounts.escrow escrow.arioMint
    .constraintRaw .mintMismatch
  checkTokenAccount s accounts.claimantTokenAccount accounts.claimant escrow.arioMint
    .tokenAccountOwnerMismatch .mintMismatch
  checkPayerTokenAccount accounts extra escrow s
  require (extra.arioCoreConfig → s.core.config.isSome) .accountNotInitialized
  require (escrow.assetType = assetTypeVault) .assetTypeMismatch
  require (escrow.recipientProtocol = protocol) .protocolMismatch
  require (messageNonce = escrow.nonce) .nonceMismatch
  verify escrow (buildEscrowClaimMessage env "vault" escrow accounts.claimant)
  settleVaultClaim cenv now accounts extra escrow s

def claimVaultEthereum (p : Programs) (tx : Transaction) (accounts : ClaimAccounts)
    (extra : RelockAccounts) (messageNonce : Bytes32) (signature : Vector UInt8 65) :
    JointState → Except EscrowError JointState :=
  claimVault protocolEthereum (ethereumSignature p.escrow signature) p.escrow p.core
    tx.clock.unixTimestamp accounts extra messageNonce

def claimVaultArweaveAttested (p : Programs) (tx : Transaction) (accounts : ClaimAccounts)
    (extra : RelockAccounts) (messageNonce : Bytes32) : JointState → Except EscrowError
      JointState :=
  claimVault protocolArweave (arweaveAttestation p.escrow tx) p.escrow p.core
    tx.clock.unixTimestamp accounts extra messageNonce

/-- One of the two claims. -/
inductive VaultClaim where
  | claimVaultEthereum (messageNonce : Bytes32) (signature : Vector UInt8 65)
  | claimVaultArweaveAttested (messageNonce : Bytes32)

def VaultClaim.exec (p : Programs) (tx : Transaction) (accounts : ClaimAccounts)
    (extra : RelockAccounts) : VaultClaim → JointState → Except EscrowError JointState
  | .claimVaultEthereum messageNonce signature =>
    Joint.claimVaultEthereum p tx accounts extra messageNonce signature
  | .claimVaultArweaveAttested messageNonce =>
    Joint.claimVaultArweaveAttested p tx accounts extra messageNonce

def VaultClaim.protocol : VaultClaim → ℕ
  | .claimVaultEthereum .. => protocolEthereum
  | .claimVaultArweaveAttested .. => protocolArweave

def VaultClaim.messageNonce : VaultClaim → Bytes32
  | .claimVaultEthereum messageNonce _ => messageNonce
  | .claimVaultArweaveAttested messageNonce => messageNonce

/-- The signature scheme of a claim. -/
def VaultClaim.verify (env : Env) (tx : Transaction) : VaultClaim → EscrowToken → List UInt8 →
    Except EscrowError Unit
  | .claimVaultEthereum _ signature => ethereumSignature env signature
  | .claimVaultArweaveAttested _ => arweaveAttestation env tx

/-! ### What a claim does -/

def JointState.balance (s : JointState) (k : Pubkey) : ℕ := s.core.tokens.balance k

/-- What `deposit_vault` promises of an escrow. -/
structure DepositedVault (escrow : EscrowToken) : Prop where
  amount : minVaultAmount ≤ escrow.amount
  ends : fitsSigned 64 escrow.vaultEndTimestamp

/-- The vault that keeps the lock. -/
def lockedVault (accounts : ClaimAccounts) (escrow : EscrowToken) (now : ℤ) (id : VaultId) :
    Vault where
  owner := accounts.claimant
  vaultId := id
  amount := escrow.amount
  startTimestamp := now
  endTimestamp := escrow.vaultEndTimestamp
  controller := none
  revocable := false

/-- The tokens are locked in one new vault of the claimant, until the end of the escrow's lock. The
vault's token account gains the escrowed amount and the claimant's the rest, and no other balance
changes but that of the escrow. -/
def Relocked (core : CoreEnv) (now : ℤ) (accounts : ClaimAccounts) (escrow : EscrowToken)
    (s s' : JointState) : Prop :=
  ∃ id k a, s.core.vaults (accounts.claimant, id) = none ∧
    s'.core.vaults = Function.update s.core.vaults (accounts.claimant, id)
      (some (lockedVault accounts escrow now id)) ∧
    s.core.tokens k = some a ∧ a.owner = core.vaultPda accounts.claimant id ∧
    a.mint = escrow.arioMint ∧ k ≠ accounts.escrowTokenAccount ∧
    ∀ j, s'.balance j +
        (if j = accounts.escrowTokenAccount then s.balance accounts.escrowTokenAccount else 0)
      = s.balance j + (if j = k then escrow.amount else 0)
        + if j = accounts.claimantTokenAccount then
            s.balance accounts.escrowTokenAccount - escrow.amount else 0

/-- The claimant gets all that the escrow's token account holds. No other balance changes, and the
core program's accounts stay as they are. -/
structure PaidOut (accounts : ClaimAccounts) (s s' : JointState) : Prop where
  vaults : s'.core.vaults = s.core.vaults
  counters : s'.core.counters = s.core.counters
  config : s'.core.config = s.core.config
  balances : ∀ j, s'.balance j +
      (if j = accounts.escrowTokenAccount then s.balance accounts.escrowTokenAccount else 0)
    = s.balance j + if j = accounts.claimantTokenAccount then
        s.balance accounts.escrowTokenAccount else 0

/-- The escrow and its token account are closed, with the rent to the depositor. -/
structure Closed (accounts : ClaimAccounts) (s s' : JointState) : Prop where
  escrow : s'.escrows = Function.update s.escrows accounts.escrow none
  tokenAccount : s'.core.tokens accounts.escrowTokenAccount = none
  rent : s'.lamports = sweepLamports (sweepLamports s.lamports accounts.escrowTokenAccount
    accounts.depositor) accounts.escrow accounts.depositor

/-- The rest of the lock decides between a new vault and a payout. -/
def Settled (core : CoreEnv) (now : ℤ) (accounts : ClaimAccounts) (escrow : EscrowToken)
    (s s' : JointState) : Prop :=
  (∃ config, s.core.config = some config ∧ 0 < escrow.vaultEndTimestamp - now ∧
      config.minVaultDuration ≤ escrow.vaultEndTimestamp - now ∧
      Relocked core now accounts escrow s s') ∨
    ((escrow.vaultEndTimestamp - now ≤ 0 ∨ ∃ config, s.core.config = some config ∧
        escrow.vaultEndTimestamp - now < config.minVaultDuration) ∧ PaidOut accounts s s')

/-- The signature and the token accounts of a claim are in order; `e` and `c` are the accounts of
the escrow and of the claimant. -/
structure InOrder (p : Programs) (tx : Transaction) (accounts : ClaimAccounts)
    (extra : RelockAccounts) (call : VaultClaim) (escrow : EscrowToken) (s : JointState)
    (e c : SplAccount) : Prop where
  signed : p.escrow.CanSign accounts.payer ∧ p.core.CanSign accounts.payer
  address : accounts.escrow = p.escrow.escrowPda .vault escrow.depositor escrow.assetId
  depositor : escrow.depositor = accounts.depositor
  assetType : escrow.assetType = assetTypeVault
  protocol : escrow.recipientProtocol = call.protocol
  nonce : call.messageNonce = escrow.nonce
  verified : call.verify p.escrow tx escrow
    (buildEscrowClaimMessage p.escrow "vault" escrow accounts.claimant) = .ok ()
  source : s.core.tokens accounts.escrowTokenAccount = some e
  sourceTerms : e.owner = accounts.escrow ∧ e.mint = escrow.arioMint ∧
    e.delegate ≠ some accounts.escrow ∧ e.closer = accounts.escrow
  funded : escrow.amount ≤ e.amount
  destination : s.core.tokens accounts.claimantTokenAccount = some c
  destinationTerms : c.owner = accounts.claimant ∧ c.mint = escrow.arioMint
  other : accounts.claimantTokenAccount ≠ accounts.escrowTokenAccount
  rent : accounts.depositor ≠ accounts.escrowTokenAccount
  payerTokenAccount : ∀ k, extra.payerTokenAccount = some k → ∃ a, s.core.tokens k = some a ∧
    a.owner = accounts.payer ∧ a.mint = escrow.arioMint
  config : extra.arioCoreConfig → s.core.config.isSome
  supply : s.core.tokens.supply escrow.arioMint < 2 ^ 64

/-- The accounts for a new vault are in order. -/
structure VaultInOrder (core : CoreEnv) (accounts : ClaimAccounts) (extra : RelockAccounts)
    (escrow : EscrowToken) (s : JointState) (config : ArioConfig) (payer vault : Pubkey) :
    Prop where
  given : extra = {
    payerTokenAccount := some payer
    arioCoreConfig := true
    recipientVaultCounter := some (core.counterPda accounts.claimant)
    vault := some (core.vaultPda accounts.claimant
      (loadCounter s.core accounts.claimant).nextId)
    vaultTokenAccount := some vault
    arioCoreProgram := true }
  head : s.core.config = some config
  mint : config.mint = escrow.arioMint
  payer : ∃ a, s.core.tokens payer = some a ∧ a.owner = accounts.payer ∧
    a.mint = escrow.arioMint ∧ a.delegate ≠ some accounts.payer
  vault : ∃ a, s.core.tokens vault = some a ∧ a.owner = core.vaultPda accounts.claimant
    (loadCounter s.core accounts.claimant).nextId ∧ a.mint = escrow.arioMint
  free : s.core.vaults (accounts.claimant, (loadCounter s.core accounts.claimant).nextId) = none

/-- The core program's books have room for the lock. -/
structure Room (config : ArioConfig) (amount : ℕ) (id : VaultId) : Prop where
  circulating : amount ≤ config.circulatingSupply
  locked : config.lockedSupply + amount < 2 ^ 64
  id : id.val + 1 < 2 ^ 64

/-- Before the end of the lock the configuration is given, and if the rest is long enough for the
core program, it can take it. -/
def LockInOrder (core : CoreEnv) (now : ℤ) (accounts : ClaimAccounts) (extra : RelockAccounts)
    (escrow : EscrowToken) (s : JointState) : Prop :=
  0 < escrow.vaultEndTimestamp - now → ∃ config, extra.arioCoreConfig = true ∧
    s.core.config = some config ∧
    (config.minVaultDuration ≤ escrow.vaultEndTimestamp - now → ∃ payer vault,
      VaultInOrder core accounts extra escrow s config payer vault ∧
      escrow.vaultEndTimestamp - now ≤ config.maxVaultDuration ∧
      Room config escrow.amount (loadCounter s.core accounts.claimant).nextId)

section

variable {p : Programs} {env : Env} {cenv : CoreEnv} {tx : Transaction} {now remaining : ℤ}
  {accounts : ClaimAccounts} {extra : RelockAccounts} {call : VaultClaim} {escrow : EscrowToken}
  {s s' : JointState} {core core' : VaultState} {amount live : ℕ} {t t' t'' : Ledger}
  {source destination authority k mint : Pubkey} {config : ArioConfig} {e c : SplAccount}

lemma VaultClaim.exec_eq : call.exec p tx accounts extra s = claimVault call.protocol
    (call.verify p.escrow tx) p.escrow p.core tx.clock.unixTimestamp accounts extra
    call.messageNonce s := by
  cases call <;> rfl

/-! ### Deposits -/

/-- Every vault escrow keeps the promise of its deposit. -/
def VaultsDeposited (s : State) : Prop :=
  ∀ a escrow, s.escrows a = some escrow → escrow.assetType = assetTypeVault → DepositedVault escrow

lemma VaultsDeposited.update {s s' : State} {a : Pubkey} {o : Option EscrowToken}
    (hs : VaultsDeposited s) (hupd : s'.escrows = Function.update s.escrows a o)
    (ho : ∀ x, o = some x → x.assetType = assetTypeVault → DepositedVault x) :
    VaultsDeposited s' := by
  intro a' escrow hget htype
  rw [hupd] at hget
  by_cases ha : a' = a
  · rw [ha, Function.update_self] at hget
    exact ho escrow hget htype
  · rw [Function.update_of_ne ha] at hget
    exact hs a' escrow hget htype

lemma VaultsDeposited.close {s s' : State} {deed : Pubkey × Deed} (hs : VaultsDeposited s)
    (h : WroteAt env s s' deed) (hdeed : (∃ label claimant, deed.2 = .claim label claimant) ∨
      deed.2 = .cancel) : VaultsDeposited s' := by
  obtain ⟨o, hupd, hwrote⟩ := h
  refine hs.update hupd fun x hx _ => ?_
  subst hx
  generalize s.escrows deed.1 = before at hwrote
  rcases hdeed with ⟨label, claimant, hdeed⟩ | hdeed
  · rw [hdeed] at hwrote
    cases hwrote
  · rw [hdeed] at hwrote
    cases hwrote

lemma updateRecipient_deposited {s s' : State} {seed : EscrowSeed} {a depositor : Pubkey}
    {newProtocol : ℕ} {newPubkey : List UInt8} (hs : VaultsDeposited s)
    (h : updateRecipient seed env tx a depositor newProtocol newPubkey s = .ok s') :
    VaultsDeposited s' := by
  simp only [updateRecipient, bind_eq_ok, checkEscrow_ok, pure_eq_ok] at h
  obtain ⟨escrow, ⟨hlive, -, -⟩, _, -, rfl⟩ := h
  refine hs.update (State.setEscrow_escrows _ _ _) fun x hx htype => ?_
  obtain rfl := Option.some.inj hx
  obtain ⟨hamount, hends⟩ := hs a escrow hlive htype
  exact ⟨hamount, hends⟩

lemma handler_deposited {s s' : State} {i : Instruction} (hs : VaultsDeposited s)
    (h : i.handler env tx s = .ok s') : VaultsDeposited s' := by
  have hwrote := handler_wrote h
  cases i with
  | depositTokens accounts =>
    simp only [Instruction.handler, Escrow.depositTokens, bind_eq_ok, require_eq_ok, exists_const,
      pure_eq_ok] at h
    obtain ⟨_, -, -, _, -, s₁, hmove, rfl⟩ := h
    refine hs.update (by rw [State.setEscrow_escrows, splTransfer_escrows hmove]) ?_
    intro x hx htype
    obtain rfl := Option.some.inj hx
    cases htype
  | depositVault accounts =>
    simp only [Instruction.handler, Escrow.depositVault, bind_eq_ok, require_eq_ok, exists_const,
      okOr_eq_ok, checkedAddSigned_eq_some, pure_eq_ok] at h
    obtain ⟨_, -, -, hamount, -, -, _, -, s₁, hmove, _, ⟨hends, rfl⟩, rfl⟩ := h
    refine hs.update (by rw [State.setEscrow_escrows, splTransfer_escrows hmove]) ?_
    rintro x hx -
    obtain rfl := Option.some.inj hx
    exact ⟨hamount, hends⟩
  | updateTokenRecipient => exact updateRecipient_deposited hs h
  | updateVaultRecipient => exact updateRecipient_deposited hs h
  | cancelTokenDeposit => exact hs.close hwrote (.inr rfl)
  | cancelVaultDeposit => exact hs.close hwrote (.inr rfl)
  | claimTokensEthereum => exact hs.close hwrote (.inl ⟨_, _, rfl⟩)
  | claimTokensArweaveAttested => exact hs.close hwrote (.inl ⟨_, _, rfl⟩)
  | claimVaultEthereum => exact hs.close hwrote (.inl ⟨_, _, rfl⟩)
  | claimVaultArweaveAttested => exact hs.close hwrote (.inl ⟨_, _, rfl⟩)

/-- **What a deposit promises** holds of every vault escrow in every state that is reached. -/
theorem run_vaultsDeposited {s₀ s : State} {tr : Trace} (hfresh : Fresh s₀)
    (run : Run (EscrowStep env) s₀ tr s) : VaultsDeposited s := by
  induction run with
  | nil =>
    intro a escrow hget
    rw [hfresh.escrows] at hget
    cases hget
  | @cons _ _ e s' _ last ih =>
    obtain ⟨tx, action⟩ := e
    by_cases hcall : ∃ i, action = .call i
    · obtain ⟨i, rfl⟩ := hcall
      simp only [EscrowStep, Event.exec, Instruction.exec, bind_eq_ok, require_eq_ok,
        exists_const] at last
      exact handler_deposited ih last.2
    · have hkept := exec_escrows_of_no_call last fun i hi => hcall ⟨i, hi⟩
      intro a escrow hget
      rw [hkept] at hget
      exact ih a escrow hget

/-! ### The token program -/

lemma viaSpl_eq_ok {x : Except SplError Ledger} : viaSpl x = .ok t ↔ x = .ok t := by
  cases x <;> simp [viaSpl, Except.mapError]

lemma checkTokenAccount_eq_ok {owner mint : Pubkey} {e e' : EscrowError} {u : Unit} :
    checkTokenAccount s k owner mint e e' = .ok u ↔
      ∃ a, s.core.tokens k = some a ∧ a.owner = owner ∧ a.mint = mint := by
  simp only [checkTokenAccount, bind_eq_ok, okOr_eq_ok, require_eq_ok, exists_const]

/-- A transfer takes the amount from one account to the other, which may be the same. -/
lemma transfer_balance (h : t.transfer source destination authority amount = .ok t') (k : Pubkey) :
    t'.balance k + (if k = source then amount else 0)
      = t.balance k + if k = destination then amount else 0 := by
  obtain ⟨src, dst, h⟩ := Ledger.transfer_ok h
  by_cases hne : source = destination
  · rw [h.self hne, hne]
  · obtain ⟨d, n, -, hdebit⟩ := h.debited hne
    have hle := h.le
    by_cases hs : k = source
    · subst hs
      rw [if_pos rfl, if_neg hne, Ledger.balance, Ledger.balance, hdebit, h.source_eq]
      simp only [Option.elim_some]
      omega
    · by_cases hd : k = destination
      · subst hd
        rw [if_neg hs, if_pos rfl, Ledger.balance, Ledger.balance, h.credited hne, h.destination_eq]
        rfl
      · rw [if_neg hs, if_neg hd, Ledger.balance, Ledger.balance, h.others k hs hd]

lemma transfer_owner {a : SplAccount} (h : t.transfer source destination authority amount = .ok t')
    (ha : t' k = some a) : ∃ b, t k = some b ∧ b.owner = a.owner ∧ b.mint = a.mint := by
  obtain ⟨src, dst, h⟩ := Ledger.transfer_ok h
  by_cases hne : source = destination
  · rw [h.self hne] at ha
    exact ⟨a, ha, rfl, rfl⟩
  · obtain ⟨d, n, -, hdebit⟩ := h.debited hne
    by_cases hd : k = destination
    · subst hd
      obtain rfl := Option.some.inj ((h.credited hne).symm.trans ha)
      exact ⟨dst, h.destination_eq, rfl, rfl⟩
    · by_cases hs : k = source
      · subst hs
        obtain rfl := Option.some.inj (hdebit.symm.trans ha)
        exact ⟨src, h.source_eq, rfl, rfl⟩
      · exact ⟨a, (h.others k hs hd).symm.trans ha, rfl, rfl⟩

lemma close_balance (h : t.closeAccount source authority = .ok t') :
    t.balance source = 0 ∧ t' source = none ∧ ∀ k, t'.balance k = t.balance k := by
  obtain ⟨a, ha, hzero, -, rfl⟩ := Ledger.closeAccount_eq_ok.mp h
  have hempty : t.balance source = 0 := by rw [Ledger.balance, ha, Option.elim_some, hzero]
  refine ⟨hempty, Function.update_self _ _ _, fun k => ?_⟩
  by_cases hk : k = source
  · subst hk
    rw [hempty, Ledger.balance, Function.update_self]
    rfl
  · rw [Ledger.balance, Function.update_of_ne hk, Ledger.balance]

/-! ### Paying out -/

lemma payClaimant_ok (h : payClaimant accounts amount core = .ok core') :
    core'.vaults = core.vaults ∧ core'.counters = core.counters ∧ core'.config = core.config ∧
    ∀ k, core'.tokens.balance k + (if k = accounts.escrowTokenAccount then amount else 0)
      = core.tokens.balance k + if k = accounts.claimantTokenAccount then amount else 0 := by
  obtain ⟨tokens, htokens, h⟩ := bind_eq_ok.mp h
  obtain rfl := pure_eq_ok.mp h
  exact ⟨rfl, rfl, rfl, fun k => transfer_balance (viaSpl_eq_ok.mp htokens) k⟩

/-! ### Locking again -/

/-- The vault that the core program creates, and the balances before the rest is swept. -/
lemma relock_ok {payerTokenAccount vaultTokenAccount : Pubkey}
    (hescrow : cenv.CanSign accounts.escrow)
    (hmint : ∃ a, core.tokens accounts.escrowTokenAccount = some a ∧ a.owner = accounts.escrow ∧
      a.mint = escrow.arioMint)
    (h : Core.relockVault cenv.toVaultEnv now accounts.escrow accounts.escrowTokenAccount
      accounts.payer payerTokenAccount accounts.claimant vaultTokenAccount amount remaining core
      = .ok core') :
    ∃ a, core.tokens vaultTokenAccount = some a ∧
      a.owner = cenv.vaultPda accounts.claimant (loadCounter core accounts.claimant).nextId ∧
      a.mint = escrow.arioMint ∧
      core.vaults (accounts.claimant, (loadCounter core accounts.claimant).nextId) = none ∧
      core'.vaults = Function.update core.vaults
        (accounts.claimant, (loadCounter core accounts.claimant).nextId) (some
          { owner := accounts.claimant
            vaultId := (loadCounter core accounts.claimant).nextId
            amount
            startTimestamp := now
            endTimestamp := now + remaining
            controller := none
            revocable := false }) ∧
      vaultTokenAccount ≠ accounts.escrowTokenAccount ∧
      ∀ k, core'.tokens.balance k + (if k = accounts.escrowTokenAccount then amount else 0)
        = core.tokens.balance k + if k = vaultTokenAccount then amount else 0 := by
  obtain ⟨tokens, config, account, hout, hopened⟩ := Core.relockVault_opened h
  obtain ⟨b, hb, hbowner, hbmint⟩ := transfer_owner hout hopened.paidIn.supplied
  have howner : b.owner = cenv.vaultPda accounts.claimant
      (loadCounter core accounts.claimant).nextId := hbowner.trans hopened.paidIn.owned
  obtain ⟨e, he, heowner, hemint⟩ := hmint
  have hvta : vaultTokenAccount ≠ accounts.escrowTokenAccount := by
    rintro rfl
    obtain rfl := Option.some.inj (he.symm.trans hb)
    have hpda : cenv.toVaultEnv.Pda (cenv.vaultPda accounts.claimant
        (loadCounter core accounts.claimant).nextId) := Core.pda_vaultPda _ _
    rw [← howner, heowner] at hpda
    exact Core.canSign_iff.mp hescrow hpda
  -- both legs are of the mint of the escrow
  have hmintEq : b.mint = escrow.arioMint := by
    obtain ⟨src, dst, hleg⟩ := Ledger.transfer_ok hout
    obtain ⟨src', dst', hleg'⟩ := Ledger.transfer_ok hopened.paidIn.paid
    obtain rfl := Option.some.inj (hleg.source_eq.symm.trans he)
    obtain ⟨p, hp, -, hpmint⟩ := transfer_owner hout hleg'.source_eq
    obtain rfl := Option.some.inj (hleg.destination_eq.symm.trans hp)
    obtain ⟨v, hv, -, hvmint⟩ := transfer_owner hout hleg'.destination_eq
    obtain rfl := Option.some.inj (hb.symm.trans hv)
    rw [hvmint, ← hleg'.mint_eq, ← hpmint, ← hleg.mint_eq, hemint]
  refine ⟨b, hb, howner, hmintEq, hopened.fresh, hopened.vaults, hvta, fun k => ?_⟩
  have hfirst := transfer_balance hout k
  have hsecond := transfer_balance hopened.paidIn.paid k
  simp only at hsecond
  omega

lemma relockAndSweep_ok (hescrow : cenv.CanSign accounts.escrow)
    (hown : ∃ a, core.tokens accounts.escrowTokenAccount = some a ∧ a.owner = accounts.escrow ∧
      a.mint = escrow.arioMint) (hle : amount ≤ live)
    (h : relockAndSweep cenv now accounts extra amount live remaining core = .ok core') :
    ∃ k a, core.vaults (accounts.claimant, (loadCounter core accounts.claimant).nextId) = none ∧
      core'.vaults = Function.update core.vaults
        (accounts.claimant, (loadCounter core accounts.claimant).nextId) (some
          { owner := accounts.claimant
            vaultId := (loadCounter core accounts.claimant).nextId
            amount
            startTimestamp := now
            endTimestamp := now + remaining
            controller := none
            revocable := false }) ∧
      core.tokens k = some a ∧ a.owner = cenv.vaultPda accounts.claimant
        (loadCounter core accounts.claimant).nextId ∧ a.mint = escrow.arioMint ∧
      k ≠ accounts.escrowTokenAccount ∧
      ∀ j, core'.tokens.balance j + (if j = accounts.escrowTokenAccount then live else 0)
        = core.tokens.balance j + (if j = k then amount else 0)
          + if j = accounts.claimantTokenAccount then live - amount else 0 := by
  simp only [relockAndSweep, bind_eq_ok, okOr_eq_ok, require_eq_ok, viaCore_eq_ok] at h
  obtain ⟨source, -, counter, -, vault, -, target, -, -, -, -, -, core₁, hrelock, h⟩ := h
  obtain ⟨a, ha, howner, hmint, hfree, hvaults, hne, hbalance⟩ := relock_ok hescrow hown hrelock
  refine ⟨target, a, hfree, ?_, ha, howner, hmint, hne, fun j => ?_⟩
  · split at h
    · rw [(payClaimant_ok h).1, hvaults]
    · rw [← pure_eq_ok.mp h, hvaults]
  · have hj := hbalance j
    split at h
    · have hswept := (payClaimant_ok h).2.2.2 j
      split_ifs at hj hswept ⊢ <;> omega
    · obtain rfl := pure_eq_ok.mp h
      split_ifs at hj ⊢ <;> omega

/-! ### Settling -/

lemma remaining_eq (hend : fitsSigned 64 escrow.vaultEndTimestamp) (hnow : 0 ≤ now)
    (hpos : 0 < saturatingSubSigned 64 escrow.vaultEndTimestamp now) :
    saturatingSubSigned 64 escrow.vaultEndTimestamp now = escrow.vaultEndTimestamp - now := by
  have hlt := hend.2
  unfold saturatingSubSigned at hpos ⊢
  norm_num at hlt hpos ⊢
  omega

lemma remaining_pos : 0 < saturatingSubSigned 64 escrow.vaultEndTimestamp now ↔
    0 < escrow.vaultEndTimestamp - now := by
  unfold saturatingSubSigned
  norm_num

/-- **A claim that succeeds** keeps the lock or pays out, and closes the escrow. -/
theorem settleVaultClaim_ok (hescrow : cenv.CanSign accounts.escrow)
    (hown : ∃ a, s.core.tokens accounts.escrowTokenAccount = some a ∧
      a.owner = accounts.escrow ∧ a.mint = escrow.arioMint)
    (hend : fitsSigned 64 escrow.vaultEndTimestamp) (hnow : 0 ≤ now)
    (h : settleVaultClaim cenv now accounts extra escrow s = .ok s') :
    Closed accounts s s' ∧ Settled cenv now accounts escrow s s' := by
  simp only [settleVaultClaim, bind_eq_ok, require_eq_ok, exists_const, viaSpl_eq_ok,
    pure_eq_ok] at h
  obtain ⟨hle, core, hmoved, -, tokens, hclose, rfl⟩ := h
  obtain ⟨-, hgone, hkept⟩ := close_balance hclose
  refine ⟨⟨rfl, hgone, rfl⟩, ?_⟩
  -- what is left to show is about the tokens that were moved
  have paidOut (hpaid : payClaimant accounts (s.core.tokens.balance accounts.escrowTokenAccount)
      s.core = .ok core) : PaidOut accounts s
        { escrows := Function.update s.escrows accounts.escrow none
          core := { core with tokens }
          lamports := sweepLamports (sweepLamports s.lamports accounts.escrowTokenAccount
            accounts.depositor) accounts.escrow accounts.depositor } := by
    obtain ⟨hvaults, hcounters, hconfig, hbalance⟩ := payClaimant_ok hpaid
    refine ⟨hvaults, hcounters, hconfig, fun j => ?_⟩
    simp only [JointState.balance, hkept]
    exact hbalance j
  unfold moveVaultTokens at hmoved
  split at hmoved
  · rename_i hpos
    have hrem := remaining_eq hend hnow hpos
    rw [hrem] at hpos hmoved
    obtain ⟨config, hconfig, hmoved⟩ := bind_eq_ok.mp hmoved
    have hhead : s.core.config = some config := by
      have hsome := okOr_eq_ok.mp hconfig
      split at hsome
      · exact hsome
      · cases hsome
    split at hmoved
    · rename_i hmin
      obtain ⟨k, a, hfree, hvaults, ha, howner, hmint, hne, hbalance⟩ :=
        relockAndSweep_ok hescrow hown hle hmoved
      refine .inl ⟨config, hhead, hpos, hmin, _, k, a, hfree, ?_, ha, howner, hmint, hne,
        fun j => ?_⟩
      · have hends : now + (escrow.vaultEndTimestamp - now) = escrow.vaultEndTimestamp := by omega
        rw [hvaults, hends]
        rfl
      · simp only [JointState.balance, hkept]
        exact hbalance j
    · rename_i hshort
      exact .inr ⟨.inr ⟨config, hhead, not_le.mp hshort⟩, paidOut hmoved⟩
  · rename_i hpos
    rw [remaining_pos] at hpos
    exact .inr ⟨.inl (not_lt.mp hpos), paidOut hmoved⟩

lemma claimVault_ok {protocol : ℕ} {verify : EscrowToken → List UInt8 → Except EscrowError Unit}
    {messageNonce : Bytes32} (live : s.escrows accounts.escrow = some escrow)
    (h : claimVault protocol verify env cenv now accounts extra messageNonce s = .ok s') :
    accounts.escrow = env.escrowPda .vault escrow.depositor escrow.assetId ∧
    (∃ a, s.core.tokens accounts.escrowTokenAccount = some a ∧ a.owner = accounts.escrow ∧
      a.mint = escrow.arioMint) ∧
    settleVaultClaim cenv now accounts extra escrow s = .ok s' := by
  simp only [claimVault, bind_eq_ok, okOr_eq_ok, require_eq_ok, checkTokenAccount_eq_ok,
    exists_const] at h
  obtain ⟨-, x, hx, haddress, -, hown, -, -, -, -, -, -, -, _, -, hsettle⟩ := h
  obtain rfl := Option.some.inj (live.symm.trans hx)
  exact ⟨haddress, hown, hsettle⟩

lemma VaultClaim.exec_ok (live : s.escrows accounts.escrow = some escrow)
    (hend : fitsSigned 64 escrow.vaultEndTimestamp) (hnow : 0 ≤ tx.clock.unixTimestamp)
    (h : call.exec p tx accounts extra s = .ok s') :
    Closed accounts s s' ∧ Settled p.core tx.clock.unixTimestamp accounts escrow s s' := by
  rw [VaultClaim.exec_eq] at h
  obtain ⟨haddress, hown, hsettle⟩ := claimVault_ok live h
  refine settleVaultClaim_ok ?_ hown hend hnow hsettle
  rw [haddress]
  exact p.apart _ _ _

/-! ### The escrow program's model

Without the authorities of the token accounts and the rent, a claim that succeeds here is one of
the escrow program's calls. -/

/-- The accounts of the escrow program's model, after a log of transfers. -/
def coreView (escrows : Pubkey → Option EscrowToken) (core : VaultState)
    (log : List SplTransfer) : State where
  escrows := escrows
  tokens := core.tokens.view log
  core := ⟨core.config, core.counters, core.vaults⟩

def JointState.view (s : JointState) : List SplTransfer → State := coreView s.escrows s.core

def VaultClaim.instruction (accounts : ClaimAccounts) (extra : RelockAccounts) :
    VaultClaim → Instruction
  | .claimVaultEthereum messageNonce signature =>
    .claimVaultEthereum accounts extra messageNonce signature
  | .claimVaultArweaveAttested messageNonce =>
    .claimVaultArweaveAttested accounts extra messageNonce

/-- The escrow's token account, if it is there, is the escrow's. -/
def Owned (accounts : ClaimAccounts) (t : Ledger) : Prop :=
  ∀ a, t accounts.escrowTokenAccount = some a → a.owner = accounts.escrow

lemma Owned.transfer (h : Owned accounts t)
    (ht : t.transfer source destination authority amount = .ok t') : Owned accounts t' := by
  intro a ha
  obtain ⟨b, hb, howner, -⟩ := transfer_owner ht ha
  exact howner.symm.trans (h b hb)

lemma payClaimant_view {escrows : Pubkey → Option EscrowToken} (hown : Owned accounts core.tokens)
    (h : payClaimant accounts amount core = .ok core') (log : List SplTransfer) :
    Owned accounts core'.tokens ∧ ∃ log', splTransfer (coreView escrows core log)
      accounts.escrowTokenAccount accounts.claimantTokenAccount accounts.escrow amount
      = .ok (coreView escrows core' log') := by
  simp only [payClaimant, bind_eq_ok, viaSpl_eq_ok, pure_eq_ok] at h
  obtain ⟨tokens, ht, rfl⟩ := h
  exact ⟨hown.transfer ht, _, splTransfer_eq_ok.mpr ⟨_, Ledger.transfer_view ht hown log, rfl⟩⟩

lemma checkCoreTokenAccount_view {a : SplAccount} {owner : Pubkey} {error : Core.ArioError}
    (h : Core.checkTokenAccount core k owner mint error = .ok a)
    (escrows : Pubkey → Option EscrowToken) (log : List SplTransfer) :
    a.owner = owner ∧ core.tokens k = some a ∧
      checkCoreTokenAccount (coreView escrows core log) k owner mint error = .ok () := by
  obtain ⟨ha, howner, hmint⟩ := Core.checkTokenAccount_eq_ok.mp h
  refine ⟨howner, ha, ?_⟩
  have hview : (coreView escrows core log).tokens.accounts k
      = some ⟨a.mint, a.owner, a.amount⟩ := by
    simp only [coreView, Ledger.view, ha, Option.map_some]
  rw [checkCoreTokenAccount, hview, okOr_some, ok_bind, require_of howner, ok_bind,
    require_of hmint]

/-- The core program's part of a new lock. -/
lemma fundVault_view {escrows : Pubkey → Option EscrowToken} {log : List SplTransfer}
    {pta vta counter vault : Pubkey} {u u' : Unit} (hconfig : core.config = some config)
    (haccounts : Core.checkVaultAccounts cenv.toVaultEnv config accounts.payer accounts.claimant pta
      vta core = .ok u)
    (hlock : Core.checkLock config amount remaining = .ok u')
    (hfund : Core.fundVault config now accounts.payer accounts.claimant pta vta amount remaining
      none false core = .ok core')
    (hcounter : counter = cenv.counterPda accounts.claimant)
    (hvault : vault = cenv.vaultPda accounts.claimant (loadCounter core accounts.claimant).nextId) :
    ∃ log', relock cenv now accounts pta counter vault vta amount remaining
      (coreView escrows core log) = .ok (coreView escrows core' log') := by
  simp only [Core.checkVaultAccounts, bind_eq_ok, require_eq_ok, pure_eq_ok, exists_const]
    at haccounts
  obtain ⟨hfree, a, hpayer, b, htarget, -⟩ := haccounts
  obtain ⟨howner, ha, hpayer⟩ := checkCoreTokenAccount_view hpayer escrows log
  obtain ⟨-, -, htarget⟩ := checkCoreTokenAccount_view htarget escrows log
  simp only [Core.fundVault, bind_eq_ok, Core.viaToken_eq_ok, okOr_eq_ok, pure_eq_ok] at hfund
  obtain ⟨tokens, htokens, ending, hending, nextId, hnext, config', hlocked, rfl⟩ := hfund
  have hmoved := Ledger.transfer_view htokens (fun x hx => by
    obtain rfl := Option.some.inj (ha.symm.trans hx)
    exact howner) log
  refine ⟨⟨pta, vta, amount⟩ :: log, ?_⟩
  simp only [relock, bind_eq_ok, viaCore_eq_ok, okOr_eq_ok, require_eq_ok, exists_const,
    splTransfer_eq_ok, pure_eq_ok]
  subst hcounter hvault
  exact ⟨config, hconfig, ⟨rfl, rfl⟩, hfree, (), hpayer, (), htarget, _, hlock, _,
    ⟨_, hmoved, rfl⟩, ending, hending, nextId, hnext, config', hlocked, rfl⟩

lemma relockVault_view {escrows : Pubkey → Option EscrowToken} {pta vta counter vault : Pubkey}
    (hown : Owned accounts core.tokens)
    (h : Core.relockVault cenv.toVaultEnv now accounts.escrow accounts.escrowTokenAccount
      accounts.payer pta accounts.claimant vta amount remaining core = .ok core')
    (hcounter : counter = cenv.counterPda accounts.claimant)
    (hvault : vault = cenv.vaultPda accounts.claimant (loadCounter core accounts.claimant).nextId)
    (log : List SplTransfer) :
    Owned accounts core'.tokens ∧ ∃ s₁ log', splTransfer (coreView escrows core log)
        accounts.escrowTokenAccount pta accounts.escrow amount = .ok s₁ ∧
      relock cenv now accounts pta counter vault vta amount remaining s₁
        = .ok (coreView escrows core' log') := by
  obtain ⟨tokens, _, _, hout, hopened⟩ := Core.relockVault_opened h
  refine ⟨(hown.transfer hout).transfer hopened.paidIn.paid, ?_⟩
  simp only [Core.relockVault, bind_eq_ok, Core.viaToken_eq_ok] at h
  obtain ⟨tokens, htokens, h⟩ := h
  have hpaid : splTransfer (coreView escrows core log) accounts.escrowTokenAccount pta
      accounts.escrow amount = .ok (coreView escrows { core with tokens } _) :=
    splTransfer_eq_ok.mpr ⟨_, Ledger.transfer_view htokens hown log, rfl⟩
  split at h
  · rename_i heq
    simp only [Core.createVault, Core.loadConfig, bind_eq_ok, okOr_eq_ok] at h
    obtain ⟨config, hconfig, u, haccounts, u', hlock, hfund⟩ := h
    have haccounts' : Core.checkVaultAccounts cenv.toVaultEnv config accounts.payer
        accounts.claimant pta vta { core with tokens } = .ok u := by
      rw [← heq]
      exact haccounts
    have hfund' : Core.fundVault config now accounts.payer accounts.claimant pta vta amount
        remaining none false { core with tokens } = .ok core' := by
      rw [← heq]
      exact hfund
    have hhead : ({ core with tokens } : VaultState).config = some config := hconfig
    obtain ⟨log', hrelock⟩ := fundVault_view hhead haccounts' hlock hfund' hcounter hvault
    exact ⟨_, log', hpaid, hrelock⟩
  · simp only [Core.vaultedTransfer, Core.loadConfig, bind_eq_ok, okOr_eq_ok, require_eq_ok,
      exists_const] at h
    obtain ⟨config, hconfig, u, haccounts, u', hlock, -, hfund⟩ := h
    have hhead : ({ core with tokens } : VaultState).config = some config := hconfig
    obtain ⟨log', hrelock⟩ := fundVault_view hhead haccounts hlock hfund hcounter hvault
    exact ⟨_, log', hpaid, hrelock⟩

lemma relockAndSweep_view {escrows : Pubkey → Option EscrowToken} (hown : Owned accounts core.tokens)
    (h : relockAndSweep cenv now accounts extra amount live remaining core = .ok core')
    (log : List SplTransfer) :
    Owned accounts core'.tokens ∧ ∃ log', Escrow.relockAndSweep cenv now accounts extra amount live
      remaining (coreView escrows core log) = .ok (coreView escrows core' log') := by
  simp only [relockAndSweep, bind_eq_ok, okOr_eq_ok, require_eq_ok, viaCore_eq_ok,
    exists_const] at h
  obtain ⟨pta, hpta, counter, hcounter, vault, hvault, vta, hvta, hprogram, ⟨hseed, hseed'⟩, core₁,
    hrelock, h⟩ := h
  obtain ⟨hown₁, s₁, log₁, hpaid, hlocked⟩ := relockVault_view hown hrelock hseed hseed' log
  simp only [Escrow.relockAndSweep, bind_eq_ok, okOr_eq_ok, require_eq_ok, exists_const]
  split at h
  · rename_i hlt
    obtain ⟨hown', log', hswept⟩ := payClaimant_view hown₁ h log₁
    exact ⟨hown', log', pta, hpta, counter, hcounter, vault, hvault, vta, hvta, hprogram, s₁, hpaid,
      _, hlocked, by rw [if_pos hlt]; exact hswept⟩
  · rename_i hall
    obtain rfl := pure_eq_ok.mp h
    exact ⟨hown₁, log₁, pta, hpta, counter, hcounter, vault, hvault, vta, hvta, hprogram, s₁, hpaid,
      _, hlocked, by rw [if_neg hall]; rfl⟩

lemma moveVaultTokens_view {escrows : Pubkey → Option EscrowToken}
    (hown : Owned accounts core.tokens)
    (h : moveVaultTokens cenv now accounts extra amount live remaining core = .ok core')
    (log : List SplTransfer) :
    Owned accounts core'.tokens ∧ ∃ log', Escrow.moveVaultTokens cenv now accounts extra amount live
      remaining (coreView escrows core log) = .ok (coreView escrows core' log') := by
  unfold moveVaultTokens at h
  unfold Escrow.moveVaultTokens
  split at h
  · rename_i hpos
    rw [if_pos hpos]
    obtain ⟨config, hconfig, h⟩ := bind_eq_ok.mp h
    simp only [bind_eq_ok]
    split at h
    · rename_i hlong
      obtain ⟨hown', log', hlocked⟩ := relockAndSweep_view hown h log
      exact ⟨hown', log', config, hconfig, by rw [if_pos hlong]; exact hlocked⟩
    · rename_i hshort
      obtain ⟨hown', log', hpaid⟩ := payClaimant_view hown h log
      exact ⟨hown', log', config, hconfig, by rw [if_neg hshort]; exact hpaid⟩
  · rename_i hover
    rw [if_neg hover]
    exact payClaimant_view hown h log

lemma settleVaultClaim_view (hown : Owned accounts s.core.tokens)
    (h : settleVaultClaim cenv now accounts extra escrow s = .ok s') (log : List SplTransfer) :
    ∃ log', Escrow.settleVaultClaim cenv now accounts extra escrow (s.view log)
      = .ok (s'.view log') := by
  simp only [settleVaultClaim, bind_eq_ok, require_eq_ok, exists_const, viaSpl_eq_ok,
    pure_eq_ok] at h
  obtain ⟨hle, core, hmoved, -, tokens, hclose, rfl⟩ := h
  obtain ⟨hown', log', hmoved'⟩ := moveVaultTokens_view hown hmoved log
  have hbalance : (s.view log).tokens.balance accounts.escrowTokenAccount
      = s.core.tokens.balance accounts.escrowTokenAccount := by
    simp only [JointState.view, coreView, Tokens.balance, Ledger.view, Ledger.balance]
    cases s.core.tokens accounts.escrowTokenAccount <;> rfl
  refine ⟨log', ?_⟩
  simp only [Escrow.settleVaultClaim, bind_eq_ok, require_eq_ok, exists_const, hbalance,
    splCloseAccount_eq_ok, pure_eq_ok]
  exact ⟨hle, _, hmoved', _, ⟨_, Ledger.closeAccount_view hclose hown' log', rfl⟩, rfl⟩

/-- **The two models of a vault claim agree.** A claim that succeeds with both programs' accounts
succeeds in the escrow program's model, and leaves the same there. -/
theorem VaultClaim.refines (h : call.exec p tx accounts extra s = .ok s')
    (log : List SplTransfer) : ∃ log', (call.instruction accounts extra).exec p.escrow tx
      (s.view log) = .ok (s'.view log') := by
  rw [VaultClaim.exec_eq] at h
  simp only [claimVault, bind_eq_ok, okOr_eq_ok, require_eq_ok, checkTokenAccount_eq_ok,
    exists_const] at h
  obtain ⟨⟨hsigned, -⟩, x, hx, haddress, hdepositor, ⟨e, he, hown, hmint⟩, ⟨c, hc, hclaimant,
    hcmint⟩, _, hpayer, hconfig, htype, hprotocol, hnonce, _, hverified, hsettle⟩ := h
  obtain ⟨log', hsettled⟩ := settleVaultClaim_view (fun a ha => by
    obtain rfl := Option.some.inj (he.symm.trans ha)
    exact hown) hsettle log
  have hterms {k : Pubkey} {a : SplAccount} (ha : s.core.tokens k = some a) :
      (s.view log).tokens.terms k = some (a.mint, a.owner) := by
    simp only [JointState.view, coreView, Tokens.terms, Ledger.view, ha, Option.map_some]
  have hescrowTerms := hterms he
  have hclaimantTerms := hterms hc
  rw [hown, hmint] at hescrowTerms
  rw [hclaimant, hcmint] at hclaimantTerms
  have hextra : checkRelockAccounts accounts extra x (s.view log) = .ok () := by
    have hhead : extra.arioCoreConfig = true → (s.view log).core.config.isSome = true := hconfig
    rw [checkRelockAccounts, require_of hhead, ok_bind]
    unfold checkPayerTokenAccount at hpayer
    cases hp : extra.payerTokenAccount with
    | none => rfl
    | some k =>
      rw [hp] at hpayer
      obtain ⟨a, ha, howner, hamint⟩ := checkTokenAccount_eq_ok.mp hpayer
      refine Escrow.checkTokenAccount_eq_ok.mpr ?_
      rw [hterms ha, howner, hamint]
  have hcheck : checkClaim p.escrow .vault assetTypeVault call.protocol "vault"
      (call.verify p.escrow tx) accounts call.messageNonce (s.view log) = .ok x := by
    simp only [checkClaim, bind_eq_ok, checkEscrow_ok, Escrow.checkTokenAccount_eq_ok,
      require_eq_ok, exists_const, pure_eq_ok]
    exact ⟨x, ⟨hx, haddress, hdepositor⟩, hescrowTerms, hclaimantTerms, htype, hprotocol, hnonce,
      _, hverified, rfl⟩
  refine ⟨log', ?_⟩
  cases call <;>
  · simp only [VaultClaim.instruction, Instruction.exec, Instruction.handler,
      Escrow.claimVaultEthereum, Escrow.claimVaultArweaveAttested, bind_eq_ok]
    exact ⟨(), require_of hsigned, x, hcheck, (), hextra, hsettled⟩

/-! ### Claims in order succeed -/

/-- The accounts stay, with other amounts. -/
def OnlyAmounts (t t' : Ledger) : Prop :=
  ∀ k a, t k = some a → ∃ n, t' k = some { a with amount := n }

lemma OnlyAmounts.trans (h : OnlyAmounts t t') (h' : OnlyAmounts t' t'') : OnlyAmounts t t'' := by
  intro k a ha
  obtain ⟨n, hn⟩ := h k a ha
  obtain ⟨m, hm⟩ := h' k _ hn
  exact ⟨m, hm⟩

lemma transfer_by_owner {src dst : SplAccount} (hsupply : t.supply mint < 2 ^ 64)
    (hsrc : t source = some src) (hdst : t destination = some dst)
    (howner : src.owner = authority) (hmint : src.mint = mint) (hmint' : dst.mint = mint)
    (hle : amount ≤ src.amount) (hdelegate : src.delegate ≠ some authority) :
    ∃ t', t.transfer source destination authority amount = .ok t' ∧ OnlyAmounts t t' ∧
      t'.supply mint = t.supply mint := by
  have hspend : src.spend authority amount = .ok src := by
    rw [SplAccount.spend, if_neg hdelegate, require_of howner.symm]
    rfl
  have hok : ∃ t', t.transfer source destination authority amount = .ok t' ∧ OnlyAmounts t t' := by
    simp only [Ledger.transfer, hsrc, hdst, okOr_some, ok_bind, require_of hle,
      require_of (hmint.trans hmint'.symm), hspend]
    split
    · exact ⟨t, rfl, fun k a ha => ⟨a.amount, ha⟩⟩
    · rename_i hne
      have hboth := Ledger.amount_add_le_supply hne hsrc hdst hmint hmint'
      have hfit : dst.amount + amount < 2 ^ 64 := by omega
      rw [Ledger.move, require_of hfit, ok_bind]
      refine ⟨_, rfl, fun k a ha => ?_⟩
      by_cases hd : k = destination
      · subst hd
        obtain rfl := Option.some.inj (hdst.symm.trans ha)
        exact ⟨_, Function.update_self _ _ _⟩
      · rw [Function.update_of_ne hd]
        by_cases hs : k = source
        · subst hs
          obtain rfl := Option.some.inj (hsrc.symm.trans ha)
          exact ⟨_, Function.update_self _ _ _⟩
        · rw [Function.update_of_ne hs]
          exact ⟨a.amount, ha⟩
  obtain ⟨t', h, honly⟩ := hok
  obtain ⟨_, _, hmoved⟩ := Ledger.transfer_ok h
  exact ⟨t', h, honly, hmoved.supply_eq⟩

lemma fundVault_succeeds (cenv : Core.VaultEnv) (core : VaultState) (now remaining : ℤ)
    (signer recipient : Pubkey) {target : Pubkey} {a v : SplAccount} (hmint : config.mint = mint)
    (hsupply : core.tokens.supply mint < 2 ^ 64)
    (ha : core.tokens source = some a) (haowner : a.owner = signer) (hamint : a.mint = mint)
    (hadelegate : a.delegate ≠ some signer) (hle : amount ≤ a.amount)
    (hv : core.tokens target = some v)
    (hvowner : v.owner = cenv.vaultPda recipient (loadCounter core recipient).nextId)
    (hvmint : v.mint = mint)
    (hfree : core.vaults (recipient, (loadCounter core recipient).nextId) = none)
    (hroom : Room config amount (loadCounter core recipient).nextId)
    (hfits : fitsSigned 64 (now + remaining)) :
    Core.checkVaultAccounts cenv config signer recipient source target core = .ok () ∧
    ∃ core', Core.fundVault config now signer recipient source target amount remaining none false
      core = .ok core' ∧ OnlyAmounts core.tokens core'.tokens ∧
      core'.tokens.supply mint = core.tokens.supply mint := by
  obtain ⟨t', htransfer, honly, hkept⟩ :=
    transfer_by_owner hsupply ha hv haowner hamint hvmint hle hadelegate
  constructor
  · simp only [Core.checkVaultAccounts, bind_eq_ok, require_eq_ok, Core.checkTokenAccount_eq_ok,
      Option.isNone_iff_eq_none, pure_eq_ok]
    exact ⟨(), hfree, a, ⟨ha, haowner, hamint.trans hmint.symm⟩, v,
      ⟨hv, hvowner, hvmint.trans hmint.symm⟩, trivial⟩
  · simp only [Core.fundVault, bind_eq_ok, Core.viaToken_eq_ok, okOr_eq_ok,
      checkedAddSigned_eq_some, Core.vaultId_next_eq_ok, Core.lock_eq_ok, pure_eq_ok]
    exact ⟨_, ⟨t', htransfer, _, ⟨hfits, rfl⟩, ⟨_, hroom.id⟩, rfl, _,
      ⟨hroom.locked, hroom.circulating, rfl⟩, rfl⟩, honly, hkept⟩

lemma relockVault_succeeds {pta vta : Pubkey} (hin : InOrder p tx accounts extra call escrow s e c)
    (hvault : VaultInOrder p.core accounts extra escrow s config pta vta)
    (hroom : Room config escrow.amount (loadCounter s.core accounts.claimant).nextId)
    (hdeposited : DepositedVault escrow) (hfits : fitsSigned 64 (now + remaining))
    (hmin : config.minVaultDuration ≤ remaining) (hmax : remaining ≤ config.maxVaultDuration) :
    ∃ core', Core.relockVault p.core.toVaultEnv now accounts.escrow accounts.escrowTokenAccount
      accounts.payer pta accounts.claimant vta escrow.amount remaining s.core = .ok core' ∧
      OnlyAmounts s.core.tokens core'.tokens ∧
      core'.tokens.supply escrow.arioMint = s.core.tokens.supply escrow.arioMint := by
  obtain ⟨hsowner, hsmint, hsdelegate, -⟩ := hin.sourceTerms
  obtain ⟨a, ha, haowner, hamint, hadelegate⟩ := hvault.payer
  obtain ⟨v, hv, hvowner, hvmint⟩ := hvault.vault
  obtain ⟨t, htransfer, honly, hsupply⟩ := transfer_by_owner hin.supply hin.source ha hsowner hsmint
    hamint hin.funded hsdelegate
  obtain ⟨n, hn⟩ := honly _ a ha
  obtain ⟨m, hm⟩ := honly _ v hv
  -- the payer's account holds what it is to pass on
  have hpassed : escrow.amount ≤ n := by
    have hbalance := transfer_balance htransfer pta
    rw [Ledger.balance, Ledger.balance, hn, ha] at hbalance
    simp only [Option.elim_some] at hbalance
    have hfunded := hin.funded
    by_cases heq : pta = accounts.escrowTokenAccount
    · rw [heq, hin.source] at ha
      obtain rfl := Option.some.inj ha
      split_ifs at hbalance
      omega
    · split_ifs at hbalance
      omega
  have hlock : Core.checkLock config escrow.amount remaining = .ok () := by
    have hamount : 100000000 ≤ escrow.amount := hdeposited.amount
    have hpos : 0 < escrow.amount := by omega
    simp only [Core.checkLock, bind_eq_ok, require_eq_ok]
    exact ⟨(), hmin, (), hmax, (), hpos, hamount⟩
  obtain ⟨hchecked, core', hfund, honly', hsupply'⟩ := fundVault_succeeds p.core.toVaultEnv
    { s.core with tokens := t } now remaining accounts.payer accounts.claimant hvault.mint
    (hsupply.trans_lt hin.supply) hn haowner hamint hadelegate hpassed hm hvowner hvmint
    hvault.free hroom hfits
  refine ⟨core', ?_, honly.trans honly', hsupply'.trans hsupply⟩
  simp only [Core.relockVault, bind_eq_ok, Core.viaToken_eq_ok]
  refine ⟨t, htransfer, ?_⟩
  split
  · rename_i heq
    simp only [Core.createVault, Core.loadConfig, bind_eq_ok, okOr_eq_ok]
    rw [heq] at hchecked hfund ⊢
    exact ⟨config, hvault.head, (), hchecked, (), hlock, hfund⟩
  · rename_i hne
    simp only [Core.vaultedTransfer, Core.loadConfig, bind_eq_ok, okOr_eq_ok, require_eq_ok]
    exact ⟨config, hvault.head, (), hchecked, (), hlock, (), hne, hfund⟩

lemma payClaimant_succeeds (hin : InOrder p tx accounts extra call escrow s e c)
    (honly : OnlyAmounts s.core.tokens core.tokens)
    (hsupply : core.tokens.supply escrow.arioMint = s.core.tokens.supply escrow.arioMint)
    (hle : amount ≤ core.tokens.balance accounts.escrowTokenAccount) :
    ∃ core', payClaimant accounts amount core = .ok core' ∧
      OnlyAmounts s.core.tokens core'.tokens ∧
      core'.tokens.balance accounts.escrowTokenAccount + amount
        = core.tokens.balance accounts.escrowTokenAccount := by
  obtain ⟨hsowner, hsmint, hsdelegate, -⟩ := hin.sourceTerms
  obtain ⟨n, hn⟩ := honly _ e hin.source
  obtain ⟨m, hm⟩ := honly _ c hin.destination
  have hamount : amount ≤ n := by
    rw [Ledger.balance, hn] at hle
    exact hle
  obtain ⟨t, htransfer, honly', -⟩ := transfer_by_owner (hsupply.trans_lt hin.supply) hn hm hsowner
    hsmint
    hin.destinationTerms.2 hamount hsdelegate
  have hbalance := transfer_balance htransfer accounts.escrowTokenAccount
  rw [if_pos rfl, if_neg (Ne.symm hin.other)] at hbalance
  refine ⟨{ core with tokens := t }, ?_, honly.trans honly', hbalance⟩
  rw [payClaimant, viaSpl_eq_ok.mpr htransfer]
  rfl

lemma moveVaultTokens_succeeds (hin : InOrder p tx accounts extra call escrow s e c)
    (hlock : LockInOrder p.core now accounts extra escrow s) (hdeposited : DepositedVault escrow)
    (hnow : 0 ≤ now) :
    ∃ core', moveVaultTokens p.core now accounts extra escrow.amount
        (s.core.tokens.balance accounts.escrowTokenAccount)
        (saturatingSubSigned 64 escrow.vaultEndTimestamp now) s.core = .ok core' ∧
      OnlyAmounts s.core.tokens core'.tokens ∧
      core'.tokens.balance accounts.escrowTokenAccount = 0 := by
  have hrefl : OnlyAmounts s.core.tokens s.core.tokens := fun k a ha => ⟨a.amount, ha⟩
  have hbal : s.core.tokens.balance accounts.escrowTokenAccount = e.amount := by
    rw [Ledger.balance, hin.source]
    rfl
  obtain ⟨paid, hpaid, hpaidOnly, hpaidBalance⟩ := payClaimant_succeeds hin hrefl rfl le_rfl
  have hpaidZero : paid.tokens.balance accounts.escrowTokenAccount = 0 := by omega
  unfold moveVaultTokens
  split
  · rename_i hpos
    have hrem := remaining_eq hdeposited.ends hnow hpos
    rw [hrem] at hpos ⊢
    obtain ⟨config, hgiven, hconfig, hlong⟩ := hlock hpos
    rw [if_pos hgiven, hconfig, okOr_some, ok_bind]
    split
    · rename_i hmin
      obtain ⟨pta, vta, hvault, hmax, hroom⟩ := hlong hmin
      have hfits : fitsSigned 64 (now + (escrow.vaultEndTimestamp - now)) := by
        rw [add_sub_cancel]
        exact hdeposited.ends
      obtain ⟨core, hrelock, honly, hsupply⟩ := relockVault_succeeds hin hvault hroom hdeposited
        hfits hmin hmax
      have hescrow : p.core.CanSign accounts.escrow := by
        rw [hin.address]
        exact p.apart _ _ _
      obtain ⟨a, -, -, -, -, -, hne, hbalance⟩ := relock_ok hescrow
        ⟨e, hin.source, hin.sourceTerms.1, hin.sourceTerms.2.1⟩ hrelock
      have hleft := hbalance accounts.escrowTokenAccount
      rw [if_pos rfl, if_neg hne.symm, hbal] at hleft
      have hentry : relockAndSweep p.core now accounts extra escrow.amount
          (s.core.tokens.balance accounts.escrowTokenAccount) (escrow.vaultEndTimestamp - now)
          s.core = if escrow.amount < s.core.tokens.balance accounts.escrowTokenAccount then
            payClaimant accounts (s.core.tokens.balance accounts.escrowTokenAccount
              - escrow.amount) core else .ok core := by
        rw [relockAndSweep, hvault.given]
        simp only [okOr_some, ok_bind, require_of trivial,
          viaCore_eq_ok.mpr hrelock]
        rfl
      rw [hentry, hbal]
      split
      · have hleft : e.amount - escrow.amount
            ≤ core.tokens.balance accounts.escrowTokenAccount := by omega
        obtain ⟨swept, hswept, hsweptOnly, hsweptBalance⟩ :=
          payClaimant_succeeds hin honly hsupply hleft
        exact ⟨swept, hswept, hsweptOnly, by omega⟩
      · have hfunded := hin.funded
        exact ⟨core, rfl, honly, by omega⟩
    · exact ⟨paid, hpaid, hpaidOnly, hpaidZero⟩
  · exact ⟨paid, hpaid, hpaidOnly, hpaidZero⟩

lemma settleVaultClaim_succeeds (hin : InOrder p tx accounts extra call escrow s e c)
    (hlock : LockInOrder p.core now accounts extra escrow s) (hdeposited : DepositedVault escrow)
    (hnow : 0 ≤ now) :
    ∃ s', settleVaultClaim p.core now accounts extra escrow s = .ok s' := by
  obtain ⟨core, hmoved, honly, hzero⟩ := moveVaultTokens_succeeds hin hlock hdeposited hnow
  obtain ⟨n, hn⟩ := honly _ e hin.source
  have hempty : n = 0 := by
    rw [Ledger.balance, hn] at hzero
    exact hzero
  have hle : escrow.amount ≤ s.core.tokens.balance accounts.escrowTokenAccount := by
    rw [Ledger.balance, hin.source]
    exact hin.funded
  have hclose := Ledger.closeAccount_eq_ok.mpr
    ⟨_, hn, hempty, hin.sourceTerms.2.2.2.symm, rfl⟩
  simp only [settleVaultClaim, bind_eq_ok, require_eq_ok, exists_const, viaSpl_eq_ok, pure_eq_ok]
  exact ⟨_, hle, core, hmoved, hin.rent, _, hclose, rfl⟩

lemma checkPayerTokenAccount_of (hin : InOrder p tx accounts extra call escrow s e c) :
    checkPayerTokenAccount accounts extra escrow s = .ok () := by
  unfold checkPayerTokenAccount
  split
  · rename_i k hk
    exact checkTokenAccount_eq_ok.mpr (hin.payerTokenAccount k hk)
  · rfl

lemma VaultClaim.exec_succeeds (live : s.escrows accounts.escrow = some escrow)
    (hin : InOrder p tx accounts extra call escrow s e c)
    (hlock : LockInOrder p.core tx.clock.unixTimestamp accounts extra escrow s)
    (hdeposited : DepositedVault escrow) (hnow : 0 ≤ tx.clock.unixTimestamp) :
    ∃ s', call.exec p tx accounts extra s = .ok s' := by
  obtain ⟨s', hsettle⟩ := settleVaultClaim_succeeds hin hlock hdeposited hnow
  have hsource : checkTokenAccount s accounts.escrowTokenAccount accounts.escrow escrow.arioMint
      .constraintRaw .mintMismatch = .ok () :=
    checkTokenAccount_eq_ok.mpr ⟨e, hin.source, hin.sourceTerms.1, hin.sourceTerms.2.1⟩
  have hdestination : checkTokenAccount s accounts.claimantTokenAccount accounts.claimant
      escrow.arioMint .tokenAccountOwnerMismatch .mintMismatch = .ok () :=
    checkTokenAccount_eq_ok.mpr ⟨c, hin.destination, hin.destinationTerms⟩
  refine ⟨s', ?_⟩
  rw [VaultClaim.exec_eq]
  simp only [claimVault, live, okOr_some, ok_bind, require_of hin.signed, require_of hin.address,
    require_of hin.depositor, hsource, hdestination, checkPayerTokenAccount_of hin,
    require_of hin.config, require_of hin.assetType, require_of hin.protocol,
    require_of hin.nonce, hin.verified]
  exact hsettle

end

/-! ### A small chain -/

namespace SmallJoint

def programs : Programs where
  escrow := SmallWorld.world.toEnv
  apart := by
    rintro (_ | _) depositor assetId <;> rfl

/-- Five tokens for wallet 22 and the holder of the key 1, locked until `2000000`. -/
def held : EscrowToken where
  depositor := ⟨21⟩
  assetType := assetTypeVault
  amount := 500000000
  arioMint := ⟨10⟩
  assetId := Vector.replicate 32 0
  recipientProtocol := protocolEthereum
  recipientPubkey := List.replicate 20 1
  nonce := Vector.replicate 32 28
  depositSlot := 7
  vaultEndTimestamp := 2000000
  vaultRevocable := false

/-- The address of the first vault of wallet 22. -/
def pda : Pubkey := programs.core.vaultPda ⟨22⟩ 0

def own : SplAccount := ⟨⟨10⟩, ⟨2⟩, 500000003, none, 0, none⟩

def account (owner : Pubkey) : SplAccount := ⟨⟨10⟩, owner, 0, none, 0, none⟩

/-- The escrow's account holds three units more than the escrow. -/
def tokens : Ledger :=
  Function.update (Function.update (Function.update (Function.update (fun _ => none)
    ⟨42⟩ (some own)) ⟨32⟩ (some (account ⟨22⟩))) ⟨33⟩ (some (account ⟨23⟩))) ⟨52⟩
    (some (account pda))

def config : ArioConfig where
  authority := ⟨24⟩
  mint := ⟨10⟩
  totalSupply := 1000000000
  protocolBalance := 0
  circulatingSupply := 1000000000
  lockedSupply := 0
  minVaultDuration := Core.defaultMinVaultDuration
  maxVaultDuration := Core.defaultMaxVaultDuration
  primaryNameRequestExpiry := Core.defaultPrimaryNameRequestExpiry

def state (config : ArioConfig) : JointState where
  escrows := Function.update (fun _ => none) ⟨2⟩ (some held)
  core := ⟨some config, fun _ => none, fun _ => none, tokens⟩
  lamports := fun _ => 0

/-- Wallet 23 pays for the claim of wallet 22. -/
def accounts : ClaimAccounts := ⟨⟨2⟩, ⟨42⟩, ⟨32⟩, ⟨22⟩, ⟨21⟩, ⟨23⟩⟩

def extra : RelockAccounts := ⟨some ⟨33⟩, true, some ⟨22⟩, some pda, some ⟨52⟩, true⟩

def claim : VaultClaim :=
  .claimVaultEthereum (Vector.replicate 32 28) ((Vector.replicate 65 0).setIfInBounds 0 254)

def inTime (now : ℤ) : Transaction := ⟨⟨9, now⟩, [], 0⟩

lemma deposited : DepositedVault held := ⟨by decide, by decide⟩

lemma supply_lt (m : Pubkey) : tokens.supply m < 2 ^ 64 := by
  have hempty : Ledger.total (fun _ => none) (Ledger.worth m) = 0 := by
    simp [Ledger.total, Ledger.worth]
  rw [Ledger.supply, tokens, Ledger.total_update, Ledger.total_update, Ledger.total_update,
    Ledger.total_update, hempty]
  change 0 + (Ledger.worth m (some own) - 0) + (Ledger.worth m (some (account ⟨22⟩)) - 0)
    + (Ledger.worth m (some (account ⟨23⟩)) - 0) + (Ledger.worth m (some (account pda)) - 0) <
      2 ^ 64
  simp only [Ledger.worth, Option.elim_some, own, account]
  split <;> norm_num

lemma verified (tx : Transaction) : claim.verify programs.escrow tx held
    (buildEscrowClaimMessage programs.escrow "vault" held accounts.claimant) = .ok () := by
  rw [claim, VaultClaim.verify]
  decide +kernel

lemma inOrder (config : ArioConfig) (now : ℤ) : InOrder programs (inTime now) accounts extra claim
    held (state config) own (account ⟨22⟩) where
  signed := by decide
  address := rfl
  depositor := rfl
  assetType := rfl
  protocol := rfl
  nonce := rfl
  verified := verified _
  source := rfl
  sourceTerms := by decide
  funded := by decide
  destination := rfl
  destinationTerms := by decide
  other := by decide
  rent := by decide
  payerTokenAccount := by
    intro k hk
    obtain rfl := Option.some.inj hk
    exact ⟨account ⟨23⟩, rfl, rfl, rfl⟩
  config := fun _ => rfl
  supply := supply_lt _

lemma vaultInOrder (config : ArioConfig) (hmint : config.mint = ⟨10⟩) :
    VaultInOrder programs.core accounts extra held (state config) config ⟨33⟩ ⟨52⟩ where
  given := rfl
  head := rfl
  mint := hmint
  payer := ⟨account ⟨23⟩, rfl, rfl, rfl, by decide⟩
  vault := ⟨account pda, rfl, rfl, rfl⟩
  free := rfl

end SmallJoint

/-- **A vault claim keeps the lock or pays out, and conserves the tokens.** Whatever the accounts of
a call that succeeds: the escrow and its token account are closed, with the rent to the depositor,
and if time is left and it is long enough for the core program, the escrowed amount is in one new
vault of the claimant until the end of the escrow's lock, else the claimant has all that there was.
A call with the right accounts succeeds, if the core program has room for a lock it needs. -/
theorem vault_claim_settles (p : Programs) (tx : Transaction) (accounts : ClaimAccounts)
    (extra : RelockAccounts) (call : VaultClaim) (escrow : EscrowToken) (s : JointState)
    (live : s.escrows accounts.escrow = some escrow) (hdeposited : DepositedVault escrow)
    (hnow : 0 ≤ tx.clock.unixTimestamp) :
    (∀ s', call.exec p tx accounts extra s = .ok s' →
      Closed accounts s s' ∧ Settled p.core tx.clock.unixTimestamp accounts escrow s s') ∧
    (∀ e c, InOrder p tx accounts extra call escrow s e c →
      LockInOrder p.core tx.clock.unixTimestamp accounts extra escrow s →
      ∃ s', call.exec p tx accounts extra s = .ok s') :=
  ⟨fun _ h => VaultClaim.exec_ok live hdeposited.ends hnow h,
    fun _ _ hin hlock => VaultClaim.exec_succeeds live hin hlock hdeposited hnow⟩

open SmallJoint in
theorem vault_claim_settles_small : ∃ s', claim.exec programs (inTime 1000) accounts extra
    (state config) = .ok s' ∧ s'.core.tokens ⟨42⟩ = none ∧
    Relocked programs.core 1000 accounts held (state config) s' := by
  obtain ⟨hsettled, hsucceeds⟩ := vault_claim_settles programs (inTime 1000) accounts extra claim
    held (state config) rfl deposited (by decide)
  have hlock : LockInOrder programs.core 1000 accounts extra held (state config) := fun _ =>
    ⟨config, rfl, rfl, fun _ => ⟨⟨33⟩, ⟨52⟩, vaultInOrder config rfl, by decide,
      by decide, by decide, by decide⟩⟩
  obtain ⟨s', hs'⟩ := hsucceeds own (account ⟨22⟩) (inOrder config 1000) hlock
  obtain ⟨hclosed, ⟨_, -, -, -, hrelocked⟩ | ⟨hlate | ⟨c, hc, hshort⟩, -⟩⟩ := hsettled s' hs'
  · exact ⟨s', hs', hclosed.tokenAccount, hrelocked⟩
  · exact absurd hlate (by decide)
  · obtain rfl := Option.some.inj hc
    exact absurd hshort (by decide)

open SmallJoint in
/-- Two corners: where the core program allows locks of no length, the end of the lock is a payout
all the same; and the core program locks no more than it counts as circulating. -/
theorem vault_claim_corners :
    (¬ ∀ (p : Programs) (tx : Transaction) (accounts : ClaimAccounts) (extra : RelockAccounts)
      (call : VaultClaim) (escrow : EscrowToken) (s s' : JointState) (config : ArioConfig),
      s.escrows accounts.escrow = some escrow → DepositedVault escrow →
      0 ≤ tx.clock.unixTimestamp → s.core.config = some config →
      config.mint = escrow.arioMint → call.exec p tx accounts extra s = .ok s' →
      (config.minVaultDuration ≤ escrow.vaultEndTimestamp - tx.clock.unixTimestamp ∧
          Relocked p.core tx.clock.unixTimestamp accounts escrow s s') ∨
        (escrow.vaultEndTimestamp - tx.clock.unixTimestamp < config.minVaultDuration ∧
          PaidOut accounts s s')) ∧
    ¬ ∀ (p : Programs) (tx : Transaction) (accounts : ClaimAccounts) (extra : RelockAccounts)
      (call : VaultClaim) (escrow : EscrowToken) (s : JointState) (config : ArioConfig)
      (payer vault : Pubkey) (e c : SplAccount),
      s.escrows accounts.escrow = some escrow → DepositedVault escrow →
      0 ≤ tx.clock.unixTimestamp → InOrder p tx accounts extra call escrow s e c →
      VaultInOrder p.core accounts extra escrow s config payer vault →
      escrow.vaultEndTimestamp - tx.clock.unixTimestamp ≤ config.maxVaultDuration →
      ∃ s', call.exec p tx accounts extra s = .ok s' := by
  constructor
  · intro h
    have hok : (claim.exec programs (inTime 2000000) accounts extra
        (state { config with minVaultDuration := 0 })).isOk = true := by decide +kernel
    obtain ⟨s', hs'⟩ : ∃ s', claim.exec programs (inTime 2000000) accounts extra
        (state { config with minVaultDuration := 0 }) = .ok s' := by
      revert hok
      generalize claim.exec programs (inTime 2000000) accounts extra
        (state { config with minVaultDuration := 0 }) = x
      cases x with
      | ok s' => exact fun _ => ⟨s', rfl⟩
      | error e => exact fun h => by cases h
    have hnow : (0 : ℤ) ≤ (inTime 2000000).clock.unixTimestamp := by decide
    obtain ⟨-, ⟨_, -, hpos, -⟩ | ⟨-, hpaid⟩⟩ := VaultClaim.exec_ok rfl deposited.ends hnow hs'
    · exact absurd hpos (by decide)
    · rcases h programs (inTime 2000000) accounts extra claim held _ s' _ rfl deposited hnow rfl rfl
        hs' with ⟨-, id, k, a, hfree, hvaults, -⟩ | ⟨hshort, -⟩
      · rw [hpaid.vaults] at hvaults
        have hnew := congrFun hvaults (accounts.claimant, id)
        rw [hfree, Function.update_self] at hnew
        cases hnew
      · exact absurd hshort (by decide)
  · intro h
    obtain ⟨s', hs'⟩ := h programs (inTime 1000) accounts extra claim held
      (state { config with circulatingSupply := 0 }) { config with circulatingSupply := 0 }
        ⟨33⟩ ⟨52⟩
      own (account ⟨22⟩) rfl deposited (by decide) (inOrder _ _) (vaultInOrder _ rfl) (by decide)
    have hfails : (claim.exec programs (inTime 1000) accounts extra
        (state { config with circulatingSupply := 0 })).isOk = false := by decide +kernel
    rw [hs'] at hfails
    cases hfails

end Joint
end Escrow
end ArioSolana
