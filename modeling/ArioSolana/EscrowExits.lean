import ArioSolana.EscrowProgram
import ArioSolana.CoreVaultRules

/-!
# Leaving an escrow

An escrow's token account is an ordinary account, and anybody can transfer into it. A token claim
and both cancellations move exactly the escrowed amount and then close the account, and an account
that still holds something cannot be closed. So these exits work exactly when nothing but the
escrowed amount is in the account. A vault claim sweeps the account first.
-/

namespace ArioSolana
namespace Escrow

open Checked Solana

variable {env : Env} {tx : Transaction} {s s' s₀ : State} {tr : Trace} {i : Instruction}
  {a k d depositor : Pubkey} {seed : EscrowSeed} {escrow : EscrowToken} {amount : ℕ}
  {e : EscrowError}

/-! ### What the shared parts do -/

@[simp] lemma State.setEscrow_tokens (s : State) (a : Pubkey) (o : Option EscrowToken) :
    (s.setEscrow a o).tokens = s.tokens := rfl

@[simp] lemma State.setEscrow_escrows (s : State) (a : Pubkey) (o : Option EscrowToken) :
    (s.setEscrow a o).escrows = Function.update s.escrows a o := rfl

lemma checkEscrow_ok : checkEscrow env seed a depositor e s = .ok escrow ↔
    s.escrows a = some escrow ∧ a = env.escrowPda seed escrow.depositor escrow.assetId ∧
      escrow.depositor = depositor := by
  simp only [checkEscrow, bind_eq_ok, loadEscrow_eq_ok, require_eq_ok, exists_const, pure_eq_ok]
  constructor
  · rintro ⟨x, hx, hseed, hdep, rfl⟩
    exact ⟨hx, hseed, hdep⟩
  · rintro ⟨hx, hseed, hdep⟩
    exact ⟨escrow, hx, hseed, hdep, rfl⟩

lemma transferThenClose_ok : transferThenClose a k d amount s = .ok s' ↔
    ∃ t t', s.tokens.transfer k d a amount = .ok t ∧ t.closeAccount k a = .ok t' ∧
      s' = { s with tokens := t' }.setEscrow a none := by
  simp only [transferThenClose, bind_eq_ok, splTransfer_eq_ok, splCloseAccount_eq_ok, pure_eq_ok]
  constructor
  · rintro ⟨_, ⟨t, ht, rfl⟩, _, ⟨t', ht', rfl⟩, rfl⟩
    exact ⟨t, t', ht, ht', rfl⟩
  · rintro ⟨t, t', ht, ht', rfl⟩
    exact ⟨_, ⟨t, ht, rfl⟩, _, ⟨t', ht', rfl⟩, rfl⟩

/-! ### Invariants of a run -/

/-- An escrow lies at the address of its own depositor and asset. -/
def Located (env : Env) (a : Pubkey) (escrow : EscrowToken) : Prop :=
  a = env.escrowPda (seedOf escrow.assetType) escrow.depositor escrow.assetId

/-- What is true of every state that is reached. -/
structure Sound (env : Env) (s : State) : Prop where
  located : ∀ a escrow, s.escrows a = some escrow → Located env a escrow
  supply : ∀ mint, s.tokens.supply mint < 2 ^ 64

/-- What a call does: it writes one escrow, and it keeps the supply of every mint. -/
structure Effect (env : Env) (s s' : State) : Prop where
  escrows : ∃ a o, s'.escrows = Function.update s.escrows a o ∧ ∀ x ∈ o, Located env a x
  supply : ∀ mint, s'.tokens.supply mint = s.tokens.supply mint

lemma Sound.of_effect (hs : Sound env s) (h : Effect env s s') : Sound env s' where
  located := by
    obtain ⟨a, o, hupd, hloc⟩ := h.escrows
    intro a' escrow hget
    rw [hupd] at hget
    by_cases ha : a' = a
    · subst ha
      rw [Function.update_self] at hget
      exact hloc escrow hget
    · rw [Function.update_of_ne ha] at hget
      exact hs.located a' escrow hget
  supply mint := by
    rw [h.supply]
    exact hs.supply mint

lemma transferThenClose_supply (h : transferThenClose a k d amount s = .ok s') (mint : Pubkey) :
    s'.tokens.supply mint = s.tokens.supply mint := by
  obtain ⟨t, t', ht, ht', rfl⟩ := transferThenClose_ok.mp h
  calc t'.supply mint = t.supply mint := Tokens.supply_of_closed ht'
    _ = s.tokens.supply mint := Tokens.supply_of_transferred (Tokens.transfer_ok ht)

lemma transferThenClose_effect (h : transferThenClose a k d amount s = .ok s') :
    Effect env s s' where
  escrows := by
    obtain ⟨t, t', -, -, rfl⟩ := transferThenClose_ok.mp h
    exact ⟨a, none, rfl, by simp⟩
  supply := transferThenClose_supply h

lemma splTransfer_supply {source authority : Pubkey}
    (h : splTransfer s source d authority amount = .ok s') (mint : Pubkey) :
    s'.tokens.supply mint = s.tokens.supply mint := by
  obtain ⟨t, ht, rfl⟩ := splTransfer_eq_ok.mp h
  exact Tokens.supply_of_transferred (Tokens.transfer_ok ht)

lemma splCloseAccount_supply {authority : Pubkey} (h : splCloseAccount s k authority = .ok s')
    (mint : Pubkey) : s'.tokens.supply mint = s.tokens.supply mint := by
  obtain ⟨t, ht, rfl⟩ := splCloseAccount_eq_ok.mp h
  exact Tokens.supply_of_closed ht

lemma splTransfer_escrows {source authority : Pubkey}
    (h : splTransfer s source d authority amount = .ok s') : s'.escrows = s.escrows := by
  obtain ⟨t, -, rfl⟩ := splTransfer_eq_ok.mp h
  rfl

/-- The amount is locked for `c` until `ending`: `v` is an account of the next vault of `c`, which
is written. -/
structure Locks (cenv : CoreEnv) (s s' : State) (c mint v : Pubkey) (amount : ℕ) (now ending : ℤ) :
    Prop where
  account : s.tokens.terms v = some (mint, cenv.vaultPda c (s.core.nextId c))
  free : s.core.vaults (c, s.core.nextId c) = none
  vault : s'.core.vaults = Function.update s.core.vaults (c, s.core.nextId c)
    (some ⟨c, s.core.nextId c, amount, now, ending, none, false⟩)

/-- Token movements that leave the escrows and the supplies as they are. -/
def Moves (s s' : State) : Prop :=
  s'.escrows = s.escrows ∧ ∀ mint, s'.tokens.supply mint = s.tokens.supply mint

lemma Moves.trans {s'' : State} (h : Moves s s') (h' : Moves s' s'') : Moves s s'' :=
  ⟨h'.1.trans h.1, fun mint => (h'.2 mint).trans (h.2 mint)⟩

lemma splTransfer_moves {source authority : Pubkey}
    (h : splTransfer s source d authority amount = .ok s') : Moves s s' :=
  ⟨splTransfer_escrows h, splTransfer_supply h⟩

lemma splCloseAccount_moves {authority : Pubkey} (h : splCloseAccount s k authority = .ok s') :
    Moves s s' := by
  refine ⟨?_, splCloseAccount_supply h⟩
  obtain ⟨t, -, rfl⟩ := splCloseAccount_eq_ok.mp h
  rfl

lemma Moves.effect {o : Option EscrowToken} (h : Moves s s') (hloc : ∀ x ∈ o, Located env a x) :
    Effect env s (s'.setEscrow a o) where
  escrows := ⟨a, o, by rw [State.setEscrow_escrows, h.1], hloc⟩
  supply := h.2

/-! ### One call -/

lemma checkDepositAccounts_located {accounts : DepositAccounts} {assetId : Bytes32} {u : Unit}
    (h : checkDepositAccounts env seed accounts assetId s = .ok u) :
    accounts.escrow = env.escrowPda seed accounts.depositor assetId := by
  simp only [checkDepositAccounts, bind_eq_ok, require_eq_ok, exists_const] at h
  exact h.1

lemma depositTokens_effect {accounts : DepositAccounts} {assetId : Bytes32} {protocol : ℕ}
    {pubkey : List UInt8}
    (h : depositTokens env tx accounts assetId amount protocol pubkey s = .ok s') :
    Effect env s s' := by
  simp only [depositTokens, bind_eq_ok, require_eq_ok, exists_const, pure_eq_ok] at h
  obtain ⟨_, hacc, -, _, -, s₁, hmove, rfl⟩ := h
  refine (splTransfer_moves hmove).effect fun x hx => ?_
  obtain rfl := Option.some.inj hx
  exact checkDepositAccounts_located hacc

lemma depositVault_effect {accounts : DepositAccounts} {assetId : Bytes32} {lock : ℤ}
    {revocable : Bool} {protocol : ℕ} {pubkey : List UInt8}
    (h : depositVault env tx accounts assetId amount lock revocable protocol pubkey s = .ok s') :
    Effect env s s' := by
  simp only [depositVault, bind_eq_ok, require_eq_ok, exists_const, pure_eq_ok] at h
  obtain ⟨_, hacc, -, -, -, -, _, -, s₁, hmove, _, -, rfl⟩ := h
  refine (splTransfer_moves hmove).effect fun x hx => ?_
  obtain rfl := Option.some.inj hx
  exact checkDepositAccounts_located hacc

lemma updateRecipient_effect {newProtocol : ℕ} {newPubkey : List UInt8} (hs : Sound env s)
    (h : updateRecipient seed env tx a depositor newProtocol newPubkey s = .ok s') :
    Effect env s s' := by
  simp only [updateRecipient, bind_eq_ok, checkEscrow_ok, pure_eq_ok] at h
  obtain ⟨escrow, ⟨hlive, -, -⟩, _, -, rfl⟩ := h
  have hstay : Moves s s := ⟨rfl, fun _ => rfl⟩
  refine hstay.effect fun x hx => ?_
  obtain rfl := Option.some.inj hx
  exact hs.located a escrow hlive

lemma cancelDeposit_effect {accounts : CancelAccounts}
    (h : cancelDeposit seed env accounts s = .ok s') : Effect env s s' := by
  simp only [cancelDeposit, bind_eq_ok] at h
  obtain ⟨_, -, _, -, _, -, h⟩ := h
  exact transferThenClose_effect h

section

variable {cenv : CoreEnv} {now remaining : ℤ} {live : ℕ} {accounts : ClaimAccounts}
  {extra : RelockAccounts} {p counter vault v : Pubkey}

lemma checkCoreTokenAccount_eq_ok {owner mint : Pubkey} {e : Core.ArioError} {u : Unit} :
    checkCoreTokenAccount s k owner mint e = .ok u ↔ s.tokens.terms k = some (mint, owner) := by
  simp only [checkCoreTokenAccount, bind_eq_ok, okOr_eq_ok, require_eq_ok, exists_const,
    Tokens.terms, Option.map_eq_some_iff, Prod.mk.injEq]
  exact exists_congr fun a => and_congr_right fun _ => and_comm

lemma relock_ok (h : relock cenv now accounts p counter vault v amount remaining s = .ok s') :
    ∃ config t, s.core.config = some config ∧
      s.tokens.terms p = some (config.mint, accounts.payer) ∧
      s.tokens.transfer p v accounts.payer amount = .ok t ∧ s'.tokens = t ∧
      s'.escrows = s.escrows ∧
      Locks cenv s s' accounts.claimant config.mint v amount now (now + remaining) := by
  simp only [relock, bind_eq_ok, viaCore_eq_ok, okOr_eq_ok, require_eq_ok, exists_const,
    checkCoreTokenAccount_eq_ok, splTransfer_eq_ok, pure_eq_ok] at h
  obtain ⟨config, hconfig, ⟨-, rfl⟩, hfree, hp, hv, _, -, _, ⟨t, ht, rfl⟩, ending, hending, _, -,
    _, -,
    rfl⟩ := h
  have hends : ending = now + remaining := by
    rw [checkedAddSigned] at hending
    split at hending
    · exact (Option.some.inj hending).symm
    · cases hending
  subst hends
  exact ⟨config, t, hconfig, hp, ht, rfl, rfl, hv, Option.isNone_iff_eq_none.mp hfree, rfl⟩

lemma relock_moves (h : relock cenv now accounts p counter vault v amount remaining s = .ok s') :
    Moves s s' := by
  obtain ⟨_, t, -, -, ht, htokens, hescrows, -⟩ := relock_ok h
  refine ⟨hescrows, fun mint => ?_⟩
  rw [htokens]
  exact Tokens.supply_of_transferred (Tokens.transfer_ok ht)

lemma relockAndSweep_moves
    (h : relockAndSweep cenv now accounts extra amount live remaining s = .ok s') :
    Moves s s' := by
  simp only [relockAndSweep, bind_eq_ok, require_eq_ok, exists_const] at h
  obtain ⟨_, -, _, -, _, -, _, -, -, s₁, hout, s₂, hin, hsweep⟩ := h
  have hpassed := (splTransfer_moves hout).trans (relock_moves hin)
  split at hsweep
  · exact hpassed.trans (splTransfer_moves hsweep)
  · obtain rfl := pure_eq_ok.mp hsweep
    exact hpassed

/-- The tokens of a vault claim are locked again, with the rest of the account swept, or handed out.
-/
lemma moveVaultTokens_ok (h : moveVaultTokens cenv now accounts extra amount live remaining s
    = .ok s') :
    (∃ config, s.core.config = some config ∧ 0 < remaining ∧ config.minVaultDuration ≤ remaining ∧
        relockAndSweep cenv now accounts extra amount live remaining s = .ok s') ∨
      ((0 < remaining → ∃ config, s.core.config = some config ∧ remaining <
        config.minVaultDuration) ∧
        splTransfer s accounts.escrowTokenAccount accounts.claimantTokenAccount accounts.escrow
          live = .ok s') := by
  unfold moveVaultTokens at h
  split at h
  · rename_i hpos
    simp only [bind_eq_ok, okOr_eq_ok] at h
    obtain ⟨config, hconfig, h⟩ := h
    have hhead : s.core.config = some config := by
      split at hconfig
      · exact hconfig
      · cases hconfig
    split at h
    · rename_i hlong
      exact .inl ⟨config, hhead, hpos, hlong, h⟩
    · rename_i hshort
      exact .inr ⟨fun _ => ⟨config, hhead, not_le.mp hshort⟩, h⟩
  · rename_i hpos
    exact .inr ⟨fun h => absurd h hpos, h⟩

lemma moveVaultTokens_moves
    (h : moveVaultTokens cenv now accounts extra amount live remaining s = .ok s') :
    Moves s s' := by
  rcases moveVaultTokens_ok h with ⟨_, -, -, -, h⟩ | ⟨-, h⟩
  · exact relockAndSweep_moves h
  · exact splTransfer_moves h

lemma settleVaultClaim_effect (h : settleVaultClaim cenv now accounts extra escrow s = .ok s') :
    Effect env s s' := by
  simp only [settleVaultClaim, bind_eq_ok, require_eq_ok, exists_const, pure_eq_ok] at h
  obtain ⟨-, s₁, hmoves, s₂, hclose, rfl⟩ := h
  exact ((moveVaultTokens_moves hmoves).trans (splCloseAccount_moves hclose)).effect (by simp)

end

lemma handler_effect (hs : Sound env s) (h : i.handler env tx s = .ok s') : Effect env s s' := by
  cases i with
  | depositTokens => exact depositTokens_effect h
  | depositVault => exact depositVault_effect h
  | updateTokenRecipient => exact updateRecipient_effect hs h
  | updateVaultRecipient => exact updateRecipient_effect hs h
  | cancelTokenDeposit => exact cancelDeposit_effect h
  | cancelVaultDeposit => exact cancelDeposit_effect h
  | claimTokensEthereum =>
    simp only [Instruction.handler, Escrow.claimTokensEthereum, bind_eq_ok] at h
    obtain ⟨_, -, h⟩ := h
    exact transferThenClose_effect h
  | claimTokensArweaveAttested =>
    simp only [Instruction.handler, claimTokensArweaveAttested, bind_eq_ok] at h
    obtain ⟨_, -, h⟩ := h
    exact transferThenClose_effect h
  | claimVaultEthereum =>
    simp only [Instruction.handler, claimVaultEthereum, bind_eq_ok] at h
    obtain ⟨_, -, _, -, h⟩ := h
    exact settleVaultClaim_effect h
  | claimVaultArweaveAttested =>
    simp only [Instruction.handler, claimVaultArweaveAttested, bind_eq_ok] at h
    obtain ⟨_, -, _, -, h⟩ := h
    exact settleVaultClaim_effect h

/-! ### Whole runs -/

lemma step_sound {e : Event} (hs : Sound env s) (h : EscrowStep env s e s') : Sound env s' := by
  obtain ⟨tx, action⟩ := e
  have of_moves : Moves s s' → Sound env s' := fun hm =>
    ⟨by rw [hm.1]; exact hs.located, fun mint => by rw [hm.2]; exact hs.supply mint⟩
  cases action with
  | call i =>
    simp only [EscrowStep, Event.exec, Instruction.exec, bind_eq_ok, require_eq_ok,
      exists_const] at h
    exact hs.of_effect (handler_effect hs h.2)
  | walletTransfer source destination authority amount =>
    simp only [EscrowStep, Event.exec, bind_eq_ok, require_eq_ok, exists_const] at h
    exact of_moves (splTransfer_moves h.2)
  | walletClose account authority =>
    simp only [EscrowStep, Event.exec, bind_eq_ok, require_eq_ok, exists_const] at h
    exact of_moves (splCloseAccount_moves h.2)
  | openTokenAccount key mint owner =>
    simp only [EscrowStep, Event.exec, bind_eq_ok, require_eq_ok, exists_const, pure_eq_ok] at h
    obtain ⟨hnone, rfl⟩ := h
    refine of_moves ⟨rfl, fun _ => Tokens.supply_of_updated ?_ rfl⟩
    simp [Tokens.balance, Option.isNone_iff_eq_none.mp hnone]
  | coreChange books =>
    obtain rfl := Except.ok.inj h
    exact of_moves ⟨rfl, fun _ => rfl⟩

lemma Fresh.sound (h : Fresh s) : Sound env s where
  located a escrow hget := by simp [h.escrows] at hget
  supply := h.supply

theorem run_sound (hfresh : Fresh s₀) (run : Run (EscrowStep env) s₀ tr s) : Sound env s := by
  induction run with
  | nil => exact hfresh.sound
  | cons _ last ih => exact step_sound ih last

/-! ### Exits -/

/-- The call is an exit of the escrow at `a` out of its token account `k` into the account `d`,
and everything that its sender controls is in order: a cancellation is signed by the depositor, a
claim carries a good signature of the recipient, and `d` is the right party's token account. -/
inductive ValidExit (env : Env) (tx : Transaction) (s : State) (a : Pubkey)
    (escrow : EscrowToken) (k : Pubkey) : Instruction → Pubkey → Prop
  | cancelTokenDeposit (d : Pubkey) (token : escrow.assetType = assetTypeToken)
      (signed : env.CanSign escrow.depositor)
      (destination : s.tokens.terms d = some (escrow.arioMint, escrow.depositor)) :
      ValidExit env tx s a escrow k (.cancelTokenDeposit ⟨a, k, d, escrow.depositor⟩) d
  | cancelVaultDeposit (d : Pubkey) (vault : escrow.assetType = assetTypeVault)
      (signed : env.CanSign escrow.depositor)
      (destination : s.tokens.terms d = some (escrow.arioMint, escrow.depositor)) :
      ValidExit env tx s a escrow k (.cancelVaultDeposit ⟨a, k, d, escrow.depositor⟩) d
  | claimTokensEthereum (d claimant payer : Pubkey) (signature : Vector UInt8 65)
      (token : escrow.assetType = assetTypeToken)
      (protocol : escrow.recipientProtocol = protocolEthereum) (signed : env.CanSign payer)
      (verified : ethereumSignature env signature escrow
        (buildEscrowClaimMessage env "token" escrow claimant) = .ok ())
      (destination : s.tokens.terms d = some (escrow.arioMint, claimant)) (other : d ≠ k) :
      ValidExit env tx s a escrow k
        (.claimTokensEthereum ⟨a, k, d, claimant, escrow.depositor, payer⟩ escrow.nonce signature) d
  | claimTokensArweaveAttested (d claimant payer : Pubkey)
      (token : escrow.assetType = assetTypeToken)
      (protocol : escrow.recipientProtocol = protocolArweave) (signed : env.CanSign payer)
      (verified : arweaveAttestation env tx escrow
        (buildEscrowClaimMessage env "token" escrow claimant) = .ok ())
      (destination : s.tokens.terms d = some (escrow.arioMint, claimant)) (other : d ≠ k) :
      ValidExit env tx s a escrow k
        (.claimTokensArweaveAttested ⟨a, k, d, claimant, escrow.depositor, payer⟩ escrow.nonce) d

/-- The call succeeds and brings at least `amount` into the account `d`. -/
def Delivers (env : Env) (tx : Transaction) (s : State) (i : Instruction) (d : Pubkey)
    (amount : ℕ) : Prop :=
  ∃ s', i.exec env tx s = .ok s' ∧ s.tokens.balance d + amount ≤ s'.tokens.balance d

lemma transferThenClose_delivers {mint owner : Pubkey}
    (own : s.tokens.terms k = some (mint, a)) (destination : s.tokens.terms d = some (mint, owner))
    (hne : d ≠ k) (hsupply : s.tokens.supply mint < 2 ^ 64) :
    (∃ s', transferThenClose a k d amount s = .ok s' ∧
      s.tokens.balance d + amount ≤ s'.tokens.balance d) ↔ s.tokens.balance k = amount := by
  constructor
  · rintro ⟨s', h, -⟩
    obtain ⟨t, t', ht, ht', -⟩ := transferThenClose_ok.mp h
    have hmoved := (Tokens.transfer_ok ht).balance_eq k
    obtain ⟨src, hget, hzero, -⟩ := Tokens.closeAccount_ok.mp ht'
    have hempty : t.balance k = 0 := by simp [Tokens.balance, hget, hzero]
    rw [if_neg (Ne.symm hne), if_pos rfl, hempty] at hmoved
    omega
  · intro hbal
    obtain ⟨src, hsrc, hsrcTerms⟩ := Option.map_eq_some_iff.mp own
    obtain ⟨dst, hdst, hdstTerms⟩ := Option.map_eq_some_iff.mp destination
    obtain ⟨hsrcMint, rfl⟩ := Prod.mk.inj hsrcTerms
    obtain ⟨hdstMint, -⟩ := Prod.mk.inj hdstTerms
    have hsrcBal : src.amount = amount := by simpa [Tokens.balance, hsrc] using hbal
    have hdstBal : s.tokens.balance d = dst.amount := by simp [Tokens.balance, hdst]
    have hboth : (s.tokens.balance d : ℤ) + s.tokens.balance k ≤ s.tokens.supply mint :=
      Tokens.balance_add_le_supply hne (by rw [destination]; rfl) (by rw [own]; rfl)
    have hfit : dst.amount + amount < 2 ^ 64 := by
      zify
      rw [← hdstBal, ← hbal]
      exact hboth.trans_lt hsupply
    obtain ⟨t, ht⟩ := Tokens.transfer_succeeds hsrc hdst hsrcBal.ge
      (hsrcMint.trans hdstMint.symm) hfit
    have hmoved := Tokens.transfer_ok ht
    have hterms : t.terms k = some (mint, src.owner) := by rw [hmoved.terms_eq, own]
    obtain ⟨left, hleft, hleftTerms⟩ := Option.map_eq_some_iff.mp hterms
    have hempty : left.amount = 0 := by
      have := hmoved.balance_eq k
      rw [if_neg (Ne.symm hne), if_pos rfl, hbal] at this
      have hb : t.balance k = left.amount := by simp [Tokens.balance, hleft]
      omega
    have hclose := Tokens.closeAccount_ok.mpr
      ⟨left, hleft, hempty, (Prod.mk.inj hleftTerms).2.symm, rfl⟩
    refine ⟨_, transferThenClose_ok.mpr ⟨t, _, ht, hclose, rfl⟩, ?_⟩
    have hd := hmoved.balance_eq d
    rw [if_pos rfl, if_neg hne] at hd
    have hkept : ({ t with accounts := Function.update t.accounts k none } : Tokens).balance d
        = t.balance d := by
      simp [Tokens.balance, hne]
    rw [State.setEscrow_tokens, hkept]
    omega

lemma checkClaim_of_valid {protocol assetType : ℕ} {label : String} {claimant payer : Pubkey}
    {verify : EscrowToken → List UInt8 → Except EscrowError Unit}
    (live : s.escrows a = some escrow)
    (hseed : a = env.escrowPda seed escrow.depositor escrow.assetId)
    (own : s.tokens.terms k = some (escrow.arioMint, a))
    (destination : s.tokens.terms d = some (escrow.arioMint, claimant))
    (htype : escrow.assetType = assetType) (hprotocol : escrow.recipientProtocol = protocol)
    (verified : verify escrow (buildEscrowClaimMessage env label escrow claimant) = .ok ()) :
    checkClaim env seed assetType protocol label verify
      ⟨a, k, d, claimant, escrow.depositor, payer⟩ escrow.nonce s = .ok escrow := by
  simp only [checkClaim, bind_eq_ok, require_eq_ok, exists_const, pure_eq_ok,
    checkTokenAccount_eq_ok]
  exact ⟨escrow, checkEscrow_ok.mpr ⟨live, hseed, rfl⟩, own, destination, htype, hprotocol, rfl,
    (), verified, rfl⟩

lemma cancelDeposit_of_valid (live : s.escrows a = some escrow)
    (hseed : a = env.escrowPda seed escrow.depositor escrow.assetId)
    (own : s.tokens.terms k = some (escrow.arioMint, a))
    (destination : s.tokens.terms d = some (escrow.arioMint, escrow.depositor)) :
    cancelDeposit seed env ⟨a, k, d, escrow.depositor⟩ s
      = transferThenClose a k d escrow.amount s := by
  have hcheck : checkEscrow env seed a escrow.depositor .notDepositor s = .ok escrow :=
    checkEscrow_ok.mpr ⟨live, hseed, rfl⟩
  have hown : checkTokenAccount s k a escrow.arioMint .constraintRaw .mintMismatch = .ok () :=
    checkTokenAccount_eq_ok.mpr own
  have hdest : checkTokenAccount s d escrow.depositor escrow.arioMint .constraintRaw
      .mintMismatch = .ok () := checkTokenAccount_eq_ok.mpr destination
  simp only [cancelDeposit, hcheck, hown, hdest, ok_bind]

lemma exec_of_signed (h : env.CanSign i.signer) : i.exec env tx s = i.handler env tx s := by
  rw [Instruction.exec, require_of h, ok_bind]

lemma ValidExit.exec_eq (valid : ValidExit env tx s a escrow k i d)
    (live : s.escrows a = some escrow) (located : Located env a escrow)
    (own : s.tokens.terms k = some (escrow.arioMint, a)) :
    i.exec env tx s = transferThenClose a k d escrow.amount s := by
  have token : escrow.assetType = assetTypeToken →
      a = env.escrowPda .token escrow.depositor escrow.assetId := fun h => by
    rw [Located, h] at located
    exact located
  have vault : escrow.assetType = assetTypeVault →
      a = env.escrowPda .vault escrow.depositor escrow.assetId := fun h => by
    rw [Located, h] at located
    exact located
  cases valid with
  | cancelTokenDeposit d htype signed destination =>
    refine (exec_of_signed signed).trans ?_
    exact cancelDeposit_of_valid live (token htype) own destination
  | cancelVaultDeposit d htype signed destination =>
    refine (exec_of_signed signed).trans ?_
    exact cancelDeposit_of_valid live (vault htype) own destination
  | claimTokensEthereum d claimant payer signature htype protocol signed verified destination =>
    refine (exec_of_signed signed).trans ?_
    rw [Instruction.handler, Escrow.claimTokensEthereum,
      checkClaim_of_valid live (token htype) own destination htype protocol verified, ok_bind]
  | claimTokensArweaveAttested d claimant payer htype protocol signed verified destination =>
    refine (exec_of_signed signed).trans ?_
    rw [Instruction.handler, Escrow.claimTokensArweaveAttested,
      checkClaim_of_valid live (token htype) own destination htype protocol verified, ok_bind]

/-- The account that a valid exit pays into is a token account of the escrow's mint, and not the
one it empties. -/
lemma ValidExit.destination (valid : ValidExit env tx s a escrow k i d)
    (located : Located env a escrow) (own : s.tokens.terms k = some (escrow.arioMint, a)) :
    (∃ owner, s.tokens.terms d = some (escrow.arioMint, owner)) ∧ d ≠ k := by
  have hdepositor : env.CanSign escrow.depositor →
      s.tokens.terms d = some (escrow.arioMint, escrow.depositor) → d ≠ k := by
    rintro signed hterms rfl
    rw [own] at hterms
    have : a = escrow.depositor := (Prod.mk.inj (Option.some.inj hterms)).2
    exact signed.ne _ _ _ (this.symm.trans located)
  cases valid with
  | cancelTokenDeposit d htype signed destination =>
    exact ⟨⟨_, destination⟩, hdepositor signed destination⟩
  | cancelVaultDeposit d htype signed destination =>
    exact ⟨⟨_, destination⟩, hdepositor signed destination⟩
  | claimTokensEthereum d claimant payer signature htype protocol signed verified destination
      other => exact ⟨⟨_, destination⟩, other⟩
  | claimTokensArweaveAttested d claimant payer htype protocol signed verified destination other =>
    exact ⟨⟨_, destination⟩, other⟩

/-! ### A small chain -/

namespace SmallChain

/-- What SHA-256 makes of slot 7, the asset 0 and the depositor 21. -/
def digest : Bytes32 :=
  #v[251, 117, 67, 21, 197, 60, 216, 18, 234, 155, 138, 234, 110, 182, 151, 27,
    131, 27, 93, 160, 83, 133, 197, 165, 247, 57, 254, 162, 89, 227, 122, 180]

/-- One address for token escrows and one for vaults. -/
def pda : EscrowSeed → Pubkey
  | .token => ⟨1⟩
  | .vault => ⟨2⟩

def chain : Env where
  core := { Core.SmallVaults.env with counterPda := fun k => k }
  escrowPda := fun seed _ _ => pda seed
  isEscrowPda := fun k => k = pda .token ∨ k = pda .vault
  isEscrowPda_iff := fun k => by
    simp only [decide_eq_true_eq]
    constructor
    · rintro (h | h)
      · exact ⟨.token, k, digest, h⟩
      · exact ⟨.vault, k, digest, h⟩
    · rintro ⟨seed, -, -, h⟩
      cases seed with
      | token => exact .inl h
      | vault => exact .inr h
  network := ascii "localnet"
  attestorPubkey := ⟨3⟩
  ed25519ProgramId := ⟨4⟩
  sha256 := fun _ => digest
  keccak256 := fun _ => digest
  secp256k1Recover := fun _ _ _ => none
  base58 := fun _ => []

/-- The mint is 10, and the account of wallet `n` is `n + 10`. -/
def start : State where
  escrows := fun _ => none
  tokens := {
    accounts := Tokens.accountsOf [(⟨31⟩, ⟨⟨10⟩, ⟨21⟩, 1000⟩), (⟨32⟩, ⟨⟨10⟩, ⟨22⟩, 1000⟩)]
    transfers := [] }
  core := ⟨none, fun _ => none, fun _ => none⟩

theorem fresh : Fresh start where
  escrows := rfl
  supply := fun mint => by
    refine (Tokens.supply_accountsOf_le _ _).trans_lt ?_
    norm_num

def plainTx : Transaction := ⟨⟨7, 1000⟩, [], 0⟩

/-- Wallet 21 puts 5 tokens into an escrow with the token account 41. -/
def deposit : List Event :=
  [⟨plainTx, .openTokenAccount ⟨41⟩ ⟨10⟩ ⟨1⟩⟩,
    ⟨plainTx, .call (.depositTokens ⟨⟨1⟩, ⟨31⟩, ⟨41⟩, ⟨10⟩, ⟨21⟩⟩ (Vector.replicate 32 0) 5 1
      (List.replicate 20 0))⟩]

/-- Wallet 22 adds one token. -/
def donate : Event := ⟨plainTx, .walletTransfer ⟨32⟩ ⟨41⟩ ⟨22⟩ 1⟩

def held : EscrowToken where
  depositor := ⟨21⟩
  assetType := assetTypeToken
  amount := 5
  arioMint := ⟨10⟩
  assetId := Vector.replicate 32 0
  recipientProtocol := 1
  recipientPubkey := List.replicate 20 0
  nonce := digest
  depositSlot := 7
  vaultEndTimestamp := 0
  vaultRevocable := false

def cancel : Instruction := .cancelTokenDeposit ⟨⟨1⟩, ⟨41⟩, ⟨31⟩, ⟨21⟩⟩

/-- Whether the events succeed one after the other, and wallet 21's escrow is there in the end, with
its token account and the depositor's. -/
def Leads (es : List Event) : Prop :=
  (runAll (Event.exec chain) start es).isOk = true ∧
    (outcome (runAll (Event.exec chain) start es) start).escrows ⟨1⟩ = some held ∧
    (outcome (runAll (Event.exec chain) start es) start).tokens.terms ⟨41⟩ = some (⟨10⟩, ⟨1⟩) ∧
    (outcome (runAll (Event.exec chain) start es) start).tokens.terms ⟨31⟩ = some (⟨10⟩, ⟨21⟩)

instance (es : List Event) : Decidable (Leads es) := inferInstanceAs (Decidable (_ ∧ _))

/-- Events that lead to the escrow of wallet 21. -/
structure Script where
  events : List Event
  leads : Leads events

def deposited : Script := ⟨deposit, by decide +kernel⟩

def donated : Script := ⟨deposit ++ [donate], by decide +kernel⟩

/-- The state after a script. -/
@[irreducible] def Script.after (p : Script) : State :=
  outcome (runAll (Event.exec chain) start p.events) start

lemma Script.run (p : Script) : ∃ tr : Trace, Run (EscrowStep chain) start tr p.after ∧
    tr.map (·.label) = p.events.reverse := by
  rw [Script.after]
  exact run_outcome p.leads.1

lemma Script.live (p : Script) : p.after.escrows ⟨1⟩ = some held := by
  rw [Script.after]
  exact p.leads.2.1

lemma Script.own (p : Script) : p.after.tokens.terms ⟨41⟩ = some (held.arioMint, ⟨1⟩) := by
  rw [Script.after]
  exact p.leads.2.2.1

lemma Script.valid (p : Script) :
    ValidExit chain plainTx p.after ⟨1⟩ held ⟨41⟩ cancel ⟨31⟩ := by
  refine .cancelTokenDeposit ⟨31⟩ rfl (by decide) ?_
  rw [Script.after]
  exact p.leads.2.2.2

end SmallChain

/-- **When an escrow can be left.** In every state that can be reached, a cancellation by the
depositor and a token claim with a good signature deliver the escrowed amount exactly if the
escrow's token account holds that amount and nothing more. -/
theorem escrow_exit_exact (hfresh : Fresh s₀) (run : Run (EscrowStep env) s₀ tr s)
    (live : s.escrows a = some escrow) (own : s.tokens.terms k = some (escrow.arioMint, a))
    (valid : ValidExit env tx s a escrow k i d) :
    Delivers env tx s i d escrow.amount ↔ s.tokens.balance k = escrow.amount := by
  have hsound := run_sound hfresh run
  have located := hsound.located a escrow live
  obtain ⟨⟨owner, destination⟩, hne⟩ := valid.destination located own
  rw [Delivers, valid.exec_eq live located own]
  exact transferThenClose_delivers own destination hne (hsound.supply _)

open SmallChain in
theorem escrow_exit_exact_small : Delivers chain plainTx deposited.after cancel ⟨31⟩ 5 ∧
    ¬ Delivers chain plainTx donated.after cancel ⟨31⟩ 5 := by
  obtain ⟨tr, run, -⟩ := deposited.run
  obtain ⟨tr', run', -⟩ := donated.run
  have hfull : deposited.after.tokens.balance ⟨41⟩ = 5 := by
    unfold Script.after
    decide +kernel
  have hmore : donated.after.tokens.balance ⟨41⟩ = 6 := by
    unfold Script.after
    decide +kernel
  constructor
  · exact (escrow_exit_exact fresh run deposited.live deposited.own deposited.valid).mpr hfull
  · intro h
    have hexact := (escrow_exit_exact fresh run' donated.live donated.own donated.valid).mp h
    rw [hmore] at hexact
    cases hexact

open SmallChain in
/-- One token from a stranger, and the depositor cannot cancel. -/
theorem dust_blocks_exit : ¬ ∀ (env : Env) (tx : Transaction) (s₀ s : State) (tr : Trace)
    (a k d : Pubkey) (escrow : EscrowToken) (i : Instruction),
    Fresh s₀ → Run (EscrowStep env) s₀ tr s → s.escrows a = some escrow →
    s.tokens.terms k = some (escrow.arioMint, a) → ValidExit env tx s a escrow k i d →
    Delivers env tx s i d escrow.amount := by
  intro h
  obtain ⟨tr, run, -⟩ := donated.run
  obtain ⟨s', hok, -⟩ := h chain plainTx start donated.after tr ⟨1⟩ ⟨41⟩ ⟨31⟩ held cancel fresh run
    donated.live donated.own donated.valid
  have hfails : (cancel.exec chain plainTx donated.after).isOk = false := by
    unfold Script.after
    decide +kernel
  rw [hok] at hfails
  cases hfails

end Escrow
end ArioSolana
