import ArioSolana.EscrowHistory

/-!
# Custody

The token accounts of an escrow belong to its address, and so does the asset of an escrowed name.
The address signs only inside the program. So nothing leaves these accounts but in a call that
closes the escrow, and such a call follows an order of the recipient, of the depositor, or, for a
name that nobody came for, of the protocol's authority. -/

namespace ArioSolana
namespace Escrow

open Checked Solana

/-! ### Orders -/

/-- The recipient of an escrow signed the message: with its Ethereum key, or, if it is known by an
Arweave key, through the attestor. -/
inductive SignedFor (env : Env) (tx : Transaction) (x : EscrowToken) (m : List UInt8) : Prop
  | ethereum (signature : Vector UInt8 65) (protocol : x.recipientProtocol = protocolEthereum)
      (verified : ethereumSignature env signature x m = .ok ())
  | arweave (protocol : x.recipientProtocol = protocolArweave)
      (verified : arweaveAttestation env tx x m = .ok ())

/-- What is left of the lock. -/
def EscrowToken.remaining (x : EscrowToken) (tx : Transaction) : ℤ :=
  saturatingSubSigned 64 x.vaultEndTimestamp tx.clock.unixTimestamp

/-- The call closes the escrow `x` at `a`, and makes these transfers out of its token account `k`.
-/
inductive Released (env : Env) (tx : Transaction) (s s' : State) (a : Pubkey) (x : EscrowToken)
    (i : Instruction) (k : Pubkey) : List SplTransfer → Prop
  | cancelled {d} (deed : i.deed tx = (a, .cancel)) (signer : i.signer = x.depositor)
      (destination : s.tokens.terms d = some (x.arioMint, x.depositor)) :
      Released env tx s s' a x i k [⟨k, d, x.amount⟩]
  | claimed {d c} (deed : i.deed tx = (a, .claim "token" c)) (type : x.assetType = assetTypeToken)
      (signed : SignedFor env tx x (buildEscrowClaimMessage env "token" x c))
      (destination : s.tokens.terms d = some (x.arioMint, c)) :
      Released env tx s s' a x i k [⟨k, d, x.amount⟩]
  /-- the lock is over, or the rest of it is too short for the core program -/
  | paidOut {d c} (deed : i.deed tx = (a, .claim "vault" c)) (type : x.assetType = assetTypeVault)
      (signed : SignedFor env tx x (buildEscrowClaimMessage env "vault" x c))
      (destination : s.tokens.terms d = some (x.arioMint, c))
      (funded : x.amount ≤ s.tokens.balance k)
      (late : 0 < x.remaining tx → ∃ config, s.core.config = some config ∧
        x.remaining tx < config.minVaultDuration) :
      Released env tx s s' a x i k [⟨k, d, s.tokens.balance k⟩]
  /-- the amount goes through an account of the payer into a new vault of the claimant -/
  | relocked {d c p v sweep config} (deed : i.deed tx = (a, .claim "vault" c))
      (type : x.assetType = assetTypeVault)
      (signed : SignedFor env tx x (buildEscrowClaimMessage env "vault" x c))
      (destination : s.tokens.terms d = some (x.arioMint, c))
      (head : s.core.config = some config)
      (early : 0 < x.remaining tx ∧ config.minVaultDuration ≤ x.remaining tx)
      (locks : Locks env.core s s' c x.arioMint v x.amount tx.clock.unixTimestamp
        (tx.clock.unixTimestamp + x.remaining tx))
      (passes : s.tokens.terms p = some (x.arioMint, i.signer))
      (rest : sweep = if x.amount < s.tokens.balance k then
        [⟨k, d, s.tokens.balance k - x.amount⟩] else []) :
      Released env tx s s' a x i k (sweep ++ [⟨p, v, x.amount⟩, ⟨k, p, x.amount⟩])

/-- Whether a deed closes the escrow. -/
def Deed.Closes : Deed → Prop
  | .deposit _ | .rotation _ => False
  | .claim .. | .cancel | .purge => True

/-- Another recipient, and therefore another nonce. -/
def Renamed (x y : EscrowToken) : Prop :=
  ∃ protocol pubkey nonce, y = { x with
    recipientProtocol := protocol
    recipientPubkey := pubkey
    nonce := nonce }

/-- The account keeps its terms, and nothing leaves it. -/
structure Keeps (t t' : Tokens) (k : Pubkey) : Prop where
  terms : t'.terms k = t.terms k
  balance : t.balance k ≤ t'.balance k
  log : ∃ new, t'.transfers = new ++ t.transfers ∧ ∀ m ∈ new, m.source ≠ k

section

variable {env : Env} {tx : Transaction} {s s' s₀ : State} {t t' t'' : Tokens} {tr : Trace}
  {a b k source destination authority mint owner : Pubkey} {amount live : ℕ} {x : EscrowToken}
  {i : Instruction} {seed : EscrowSeed} {accounts : ClaimAccounts} {extra : RelockAccounts}

/-! ### Accounts that nothing leaves -/

lemma Keeps.refl : Keeps t t k := ⟨rfl, le_rfl, [], rfl, by simp⟩

lemma Keeps.trans (h : Keeps t t' k) (h' : Keeps t' t'' k) : Keeps t t'' k where
  terms := h'.terms.trans h.terms
  balance := h.balance.trans h'.balance
  log := by
    obtain ⟨new, hnew, hsource⟩ := h.log
    obtain ⟨new', hnew', hsource'⟩ := h'.log
    refine ⟨new' ++ new, by rw [hnew', hnew, List.append_assoc], fun m hm => ?_⟩
    rcases List.mem_append.mp hm with hm | hm
    · exact hsource' m hm
    · exact hsource m hm

lemma Keeps.of_transfer (own : t.terms k = some (mint, a)) (hne : authority ≠ a)
    (h : t.transfer source destination authority amount = .ok t') : Keeps t t' k := by
  have hmoved := Tokens.transfer_ok h
  have hk : source ≠ k := by
    rintro rfl
    obtain ⟨src, hsrc, hauth, -⟩ := hmoved.source_exists
    rw [Tokens.terms, hsrc] at own
    exact hne (hauth.trans (Prod.mk.inj (Option.some.inj own)).2)
  refine ⟨congrFun hmoved.terms_eq k, ?_, [⟨source, destination, amount⟩], hmoved.log_eq,
    by simpa using hk⟩
  have hbal := hmoved.balance_eq k
  rw [if_neg (Ne.symm hk)] at hbal
  split at hbal <;> omega

lemma Keeps.of_close (own : t.terms k = some (mint, a)) (hne : authority ≠ a)
    (h : t.closeAccount source authority = .ok t') : Keeps t t' k := by
  obtain ⟨src, hsrc, -, hauth, rfl⟩ := Tokens.closeAccount_ok.mp h
  have hk : k ≠ source := by
    rintro rfl
    rw [Tokens.terms, hsrc] at own
    exact hne (hauth.trans (Prod.mk.inj (Option.some.inj own)).2)
  exact ⟨by simp [Tokens.terms, hk], by simp [Tokens.balance, hk], [], rfl, by simp⟩

lemma splTransfer_keeps (own : s.tokens.terms k = some (mint, a)) (hne : authority ≠ a)
    (h : splTransfer s source destination authority amount = .ok s') :
    Keeps s.tokens s'.tokens k := by
  obtain ⟨t, ht, rfl⟩ := splTransfer_eq_ok.mp h
  exact Keeps.of_transfer own hne ht

lemma splCloseAccount_keeps (own : s.tokens.terms k = some (mint, a)) (hne : authority ≠ a)
    (h : splCloseAccount s source authority = .ok s') : Keeps s.tokens s'.tokens k := by
  obtain ⟨t, ht, rfl⟩ := splCloseAccount_eq_ok.mp h
  exact Keeps.of_close own hne ht

lemma transferThenClose_keeps (own : s.tokens.terms k = some (mint, a)) (hne : b ≠ a)
    (h : transferThenClose b source destination amount s = .ok s') :
    Keeps s.tokens s'.tokens k := by
  obtain ⟨t, t', ht, ht', rfl⟩ := transferThenClose_ok.mp h
  have hout := Keeps.of_transfer own hne ht
  exact hout.trans (Keeps.of_close (hout.terms.trans own) hne ht')

lemma relockAndSweep_keeps {cenv : CoreEnv} {now remaining : ℤ}
    (own : s.tokens.terms k = some (mint, a)) (hne : accounts.escrow ≠ a)
    (hpayer : accounts.payer ≠ a)
    (h : relockAndSweep cenv now accounts extra amount live remaining s = .ok s') :
    Keeps s.tokens s'.tokens k := by
  simp only [relockAndSweep, bind_eq_ok, require_eq_ok, exists_const] at h
  obtain ⟨_, -, _, -, _, -, _, -, -, s₁, hout, s₂, hin, hsweep⟩ := h
  obtain ⟨_, t, -, -, ht, htokens, -, -⟩ := relock_ok hin
  have h₁ := splTransfer_keeps own hne hout
  have h₂ : Keeps s.tokens s₂.tokens k := by
    rw [htokens]
    exact h₁.trans (Keeps.of_transfer (h₁.terms.trans own) hpayer ht)
  split at hsweep
  · exact h₂.trans (splTransfer_keeps (h₂.terms.trans own) hne hsweep)
  · obtain rfl := pure_eq_ok.mp hsweep
    exact h₂

lemma settleVaultClaim_keeps {cenv : CoreEnv} {now : ℤ} (own : s.tokens.terms k = some (mint, a))
    (hne : accounts.escrow ≠ a) (hpayer : accounts.payer ≠ a)
    (h : settleVaultClaim cenv now accounts extra x s = .ok s') : Keeps s.tokens s'.tokens k := by
  simp only [settleVaultClaim, bind_eq_ok, require_eq_ok, exists_const, pure_eq_ok] at h
  obtain ⟨-, s₁, hmoves, s₂, hclose, rfl⟩ := h
  have h₁ : Keeps s.tokens s₁.tokens k := by
    rcases moveVaultTokens_ok hmoves with ⟨_, -, -, -, hmoves⟩ | ⟨-, hmoves⟩
    · exact relockAndSweep_keeps own hne hpayer hmoves
    · exact splTransfer_keeps own hne hmoves
  have h₂ : Keeps s₁.tokens s₂.tokens k := splCloseAccount_keeps (h₁.terms.trans own) hne hclose
  exact h₁.trans h₂

lemma handler_keeps (signs : env.CanSign i.signer) (hpda : ¬ env.CanSign a)
    (own : s.tokens.terms k = some (mint, a)) (hother : (i.deed tx).2.Closes → (i.deed tx).1 ≠ a)
    (h : i.handler env tx s = .ok s') : Keeps s.tokens s'.tokens k := by
  have hsigner : i.signer ≠ a := by
    rintro rfl
    exact hpda signs
  cases i with
  | depositTokens accounts =>
    simp only [Instruction.handler, Escrow.depositTokens, bind_eq_ok, pure_eq_ok] at h
    obtain ⟨_, -, _, -, _, -, s₁, hmove, rfl⟩ := h
    have hkept : Keeps s.tokens s₁.tokens k := splTransfer_keeps own hsigner hmove
    exact hkept
  | depositVault accounts =>
    simp only [Instruction.handler, Escrow.depositVault, bind_eq_ok, pure_eq_ok] at h
    obtain ⟨_, -, _, -, _, -, _, -, _, -, _, -, s₁, hmove, _, -, rfl⟩ := h
    have hkept : Keeps s.tokens s₁.tokens k := splTransfer_keeps own hsigner hmove
    exact hkept
  | updateTokenRecipient =>
    simp only [Instruction.handler, Escrow.updateTokenRecipient, updateRecipient, bind_eq_ok,
      pure_eq_ok] at h
    obtain ⟨_, -, _, -, rfl⟩ := h
    exact Keeps.refl
  | updateVaultRecipient =>
    simp only [Instruction.handler, Escrow.updateVaultRecipient, updateRecipient, bind_eq_ok,
      pure_eq_ok] at h
    obtain ⟨_, -, _, -, rfl⟩ := h
    exact Keeps.refl
  | cancelTokenDeposit =>
    simp only [Instruction.handler, Escrow.cancelTokenDeposit, cancelDeposit, bind_eq_ok] at h
    obtain ⟨_, -, _, -, _, -, h⟩ := h
    exact transferThenClose_keeps own (hother trivial) h
  | cancelVaultDeposit =>
    simp only [Instruction.handler, Escrow.cancelVaultDeposit, cancelDeposit, bind_eq_ok] at h
    obtain ⟨_, -, _, -, _, -, h⟩ := h
    exact transferThenClose_keeps own (hother trivial) h
  | claimTokensEthereum =>
    simp only [Instruction.handler, Escrow.claimTokensEthereum, bind_eq_ok] at h
    obtain ⟨_, -, h⟩ := h
    exact transferThenClose_keeps own (hother trivial) h
  | claimTokensArweaveAttested =>
    simp only [Instruction.handler, Escrow.claimTokensArweaveAttested, bind_eq_ok] at h
    obtain ⟨_, -, h⟩ := h
    exact transferThenClose_keeps own (hother trivial) h
  | claimVaultEthereum =>
    simp only [Instruction.handler, Escrow.claimVaultEthereum, bind_eq_ok] at h
    obtain ⟨_, -, _, -, h⟩ := h
    exact settleVaultClaim_keeps own (hother trivial) hsigner h
  | claimVaultArweaveAttested =>
    simp only [Instruction.handler, Escrow.claimVaultArweaveAttested, bind_eq_ok] at h
    obtain ⟨_, -, _, -, h⟩ := h
    exact settleVaultClaim_keeps own (hother trivial) hsigner h

/-! ### Calls that close an escrow -/

/-- A closing call, with the transfers that it made. -/
structure Exit (env : Env) (tx : Transaction) (s s' : State) (a : Pubkey) (i : Instruction)
    (x : EscrowToken) (k : Pubkey) (new : List SplTransfer) : Prop where
  live : s.escrows a = some x
  own : s.tokens.terms k = some (x.arioMint, a)
  log : s'.tokens.transfers = new ++ s.tokens.transfers
  emptied : s'.tokens.accounts k = none
  released : Released env tx s s' a x i k new

lemma transferThenClose_log (h : transferThenClose a k destination amount s = .ok s') :
    s'.tokens.transfers = [⟨k, destination, amount⟩] ++ s.tokens.transfers ∧
      s'.tokens.accounts k = none := by
  obtain ⟨t, t', ht, ht', rfl⟩ := transferThenClose_ok.mp h
  have hmoved := Tokens.transfer_ok ht
  obtain ⟨_, -, -, -, rfl⟩ := Tokens.closeAccount_ok.mp ht'
  exact ⟨hmoved.log_eq, Function.update_self ..⟩

lemma cancelDeposit_exit {accounts : CancelAccounts}
    (hdeed : i.deed tx = (accounts.escrow, .cancel))
    (hsigner : i.signer = accounts.depositor) (h : cancelDeposit seed env accounts s = .ok s') :
    ∃ x k new, Exit env tx s s' accounts.escrow i x k new := by
  simp only [cancelDeposit, bind_eq_ok, checkEscrow_ok, checkTokenAccount_eq_ok] at h
  obtain ⟨x, ⟨hlive, -, hdepositor⟩, -, hown, -, hdestination, h⟩ := h
  obtain ⟨hlog, hclosed⟩ := transferThenClose_log h
  refine ⟨x, accounts.escrowTokenAccount, _, hlive, hown, hlog, hclosed, ?_⟩
  exact .cancelled hdeed (hsigner.trans hdepositor.symm) (by rw [hdepositor]; exact hdestination)

lemma checkClaim_ok {assetType protocol : ℕ} {label : String} {messageNonce : Bytes32}
    {verify : EscrowToken → List UInt8 → Except EscrowError Unit}
    (h : checkClaim env seed assetType protocol label verify accounts messageNonce s = .ok x) :
    s.escrows accounts.escrow = some x ∧
      s.tokens.terms accounts.escrowTokenAccount = some (x.arioMint, accounts.escrow) ∧
      s.tokens.terms accounts.claimantTokenAccount = some (x.arioMint, accounts.claimant) ∧
      x.assetType = assetType ∧ x.recipientProtocol = protocol ∧
      verify x (buildEscrowClaimMessage env label x accounts.claimant) = .ok () := by
  simp only [checkClaim, bind_eq_ok, checkEscrow_ok, checkTokenAccount_eq_ok, require_eq_ok,
    exists_const, pure_eq_ok] at h
  obtain ⟨x', ⟨hlive, -, -⟩, hown, hdestination, htype, hprotocol, -, _, hverified, rfl⟩ := h
  exact ⟨hlive, hown, hdestination, htype, hprotocol, hverified⟩

lemma checkClaim_signed {label : String} {assetType protocol : ℕ} {messageNonce : Bytes32}
    {verify : EscrowToken → List UInt8 → Except EscrowError Unit}
    (h : checkClaim env seed assetType protocol label verify accounts messageNonce s = .ok x)
    (scheme : protocol = protocolEthereum ∧
      (∃ signature, verify = ethereumSignature env signature) ∨
      protocol = protocolArweave ∧ verify = arweaveAttestation env tx) :
    SignedFor env tx x (buildEscrowClaimMessage env label x accounts.claimant) := by
  obtain ⟨-, -, -, -, hprotocol, hverified⟩ := checkClaim_ok h
  rcases scheme with ⟨rfl, signature, rfl⟩ | ⟨rfl, rfl⟩
  · exact .ethereum signature hprotocol hverified
  · exact .arweave hprotocol hverified

lemma claimTokens_exit {protocol : ℕ} {messageNonce : Bytes32}
    {verify : EscrowToken → List UInt8 → Except EscrowError Unit}
    (hdeed : i.deed tx = (accounts.escrow, .claim "token" accounts.claimant))
    (hcheck : checkClaim env seed assetTypeToken protocol "token" verify accounts messageNonce s
      = .ok x)
    (scheme : protocol = protocolEthereum ∧
      (∃ signature, verify = ethereumSignature env signature) ∨
      protocol = protocolArweave ∧ verify = arweaveAttestation env tx)
    (h : transferThenClose accounts.escrow accounts.escrowTokenAccount
      accounts.claimantTokenAccount x.amount s = .ok s') :
    ∃ x k new, Exit env tx s s' accounts.escrow i x k new := by
  obtain ⟨hlive, hown, hdestination, htype, -, -⟩ := checkClaim_ok hcheck
  obtain ⟨hlog, hclosed⟩ := transferThenClose_log h
  refine ⟨x, accounts.escrowTokenAccount, _, hlive, hown, hlog, hclosed, ?_⟩
  exact .claimed hdeed htype (checkClaim_signed hcheck scheme) hdestination

lemma settleVaultClaim_log {cenv : CoreEnv}
    (h : settleVaultClaim cenv tx.clock.unixTimestamp accounts extra x s = .ok s') :
    s'.tokens.accounts accounts.escrowTokenAccount = none ∧
      x.amount ≤ s.tokens.balance accounts.escrowTokenAccount ∧
      ∃ new, s'.tokens.transfers = new ++ s.tokens.transfers ∧
        ((0 < x.remaining tx → ∃ config, s.core.config = some config ∧
            x.remaining tx < config.minVaultDuration) ∧
          new = [⟨accounts.escrowTokenAccount, accounts.claimantTokenAccount,
            s.tokens.balance accounts.escrowTokenAccount⟩] ∨
        ∃ config p v, s.core.config = some config ∧ 0 < x.remaining tx ∧
          config.minVaultDuration ≤ x.remaining tx ∧ extra.payerTokenAccount = some p ∧
          s.tokens.terms p = some (config.mint, accounts.payer) ∧
          Locks cenv s s' accounts.claimant config.mint v x.amount tx.clock.unixTimestamp
            (tx.clock.unixTimestamp + x.remaining tx) ∧
          new = (if x.amount < s.tokens.balance accounts.escrowTokenAccount then
            [⟨accounts.escrowTokenAccount, accounts.claimantTokenAccount,
              s.tokens.balance accounts.escrowTokenAccount - x.amount⟩] else []) ++
            [⟨p, v, x.amount⟩, ⟨accounts.escrowTokenAccount, p, x.amount⟩]) := by
  simp only [settleVaultClaim, bind_eq_ok, require_eq_ok, exists_const, pure_eq_ok] at h
  obtain ⟨hfunded, s₁, hmoves, s₂, hclose, rfl⟩ := h
  obtain ⟨t, ht, rfl⟩ := splCloseAccount_eq_ok.mp hclose
  obtain ⟨_, -, -, -, rfl⟩ := Tokens.closeAccount_ok.mp ht
  refine ⟨Function.update_self .., hfunded, ?_⟩
  rcases moveVaultTokens_ok hmoves with ⟨config, hconfig, hpos, hlong, hmoves⟩ | ⟨hlate, hmoves⟩
  · simp only [relockAndSweep, bind_eq_ok, okOr_eq_ok, require_eq_ok, exists_const,
      splTransfer_eq_ok] at hmoves
    obtain ⟨p, hp, _, -, _, -, v, -, -, _, ⟨t₁, h₁, rfl⟩, s₂, hlock, hsweep⟩ := hmoves
    obtain ⟨config', t₂, hconfig', hterms, h₂, htokens, -, haccount, hfree, hvault⟩ :=
      relock_ok hlock
    obtain rfl := Option.some.inj (hconfig'.symm.trans hconfig)
    have hmoved₁ := Tokens.transfer_ok h₁
    have hlog₂ : s₂.tokens.transfers = ⟨p, v, x.amount⟩ :: t₁.transfers := by
      rw [htokens]
      exact (Tokens.transfer_ok h₂).log_eq
    rw [congrFun hmoved₁.terms_eq] at hterms haccount
    split at hsweep
    · rename_i hmore
      obtain ⟨t₃, h₃, rfl⟩ := splTransfer_eq_ok.mp hsweep
      have hlog₃ := (Tokens.transfer_ok h₃).log_eq
      refine ⟨[⟨accounts.escrowTokenAccount, accounts.claimantTokenAccount,
        s.tokens.balance accounts.escrowTokenAccount - x.amount⟩, ⟨p, v, x.amount⟩,
        ⟨accounts.escrowTokenAccount, p, x.amount⟩], ?_,
        .inr ⟨config', p, v, hconfig, hpos, hlong, hp, hterms, ⟨haccount, hfree, hvault⟩,
          by rw [if_pos hmore]; rfl⟩⟩
      exact hlog₃.trans (by rw [hlog₂, hmoved₁.log_eq]; rfl)
    · rename_i hmore
      obtain rfl := pure_eq_ok.mp hsweep
      refine ⟨[⟨p, v, x.amount⟩, ⟨accounts.escrowTokenAccount, p, x.amount⟩], ?_,
        .inr ⟨config', p, v, hconfig, hpos, hlong, hp, hterms, ⟨haccount, hfree, hvault⟩,
          by rw [if_neg hmore]; rfl⟩⟩
      exact hlog₂.trans (by rw [hmoved₁.log_eq]; rfl)
  · obtain ⟨t₁, h₁, rfl⟩ := splTransfer_eq_ok.mp hmoves
    have hlog := (Tokens.transfer_ok h₁).log_eq
    exact ⟨[⟨accounts.escrowTokenAccount, accounts.claimantTokenAccount,
      s.tokens.balance accounts.escrowTokenAccount⟩], hlog, .inl ⟨hlate, rfl⟩⟩

lemma claimVault_exit {protocol : ℕ} {messageNonce : Bytes32} {u : Unit}
    {verify : EscrowToken → List UInt8 → Except EscrowError Unit}
    (hdeed : i.deed tx = (accounts.escrow, .claim "vault" accounts.claimant))
    (hsigner : i.signer = accounts.payer)
    (hcheck : checkClaim env seed assetTypeVault protocol "vault" verify accounts messageNonce s
      = .ok x)
    (scheme : protocol = protocolEthereum ∧
      (∃ signature, verify = ethereumSignature env signature) ∨
      protocol = protocolArweave ∧ verify = arweaveAttestation env tx)
    (hpayer : checkRelockAccounts accounts extra x s = .ok u)
    (h : settleVaultClaim env.core tx.clock.unixTimestamp accounts extra x s = .ok s') :
    ∃ x k new, Exit env tx s s' accounts.escrow i x k new := by
  obtain ⟨hlive, hown, hdestination, htype, -, -⟩ := checkClaim_ok hcheck
  have hsigned := checkClaim_signed hcheck scheme
  obtain ⟨hclosed, hfunded, new, hlog, ⟨hlate, rfl⟩ |
    ⟨config, p, v, hconfig, hpos, hlong, hp, hterms, hlocks, rfl⟩⟩ := settleVaultClaim_log h
  · refine ⟨x, accounts.escrowTokenAccount, _, hlive, hown, hlog, hclosed, ?_⟩
    exact .paidOut hdeed htype hsigned hdestination hfunded hlate
  · refine ⟨x, accounts.escrowTokenAccount, _, hlive, hown, hlog, hclosed, ?_⟩
    simp only [checkRelockAccounts, hp, bind_eq_ok, require_eq_ok, exists_const,
      checkTokenAccount_eq_ok] at hpayer
    have hmint : config.mint = x.arioMint :=
      (Prod.mk.inj (Option.some.inj (hterms.symm.trans hpayer.2))).1
    exact .relocked hdeed htype hsigned hdestination hconfig ⟨hpos, hlong⟩ (hmint ▸ hlocks)
      (by rw [hsigner]; exact hpayer.2) rfl

lemma handler_exit (hcloses : (i.deed tx).2.Closes) (h : i.handler env tx s = .ok s') :
    ∃ x k new, Exit env tx s s' (i.deed tx).1 i x k new := by
  cases i with
  | depositTokens => exact hcloses.elim
  | depositVault => exact hcloses.elim
  | updateTokenRecipient => exact hcloses.elim
  | updateVaultRecipient => exact hcloses.elim
  | cancelTokenDeposit => exact cancelDeposit_exit rfl rfl h
  | cancelVaultDeposit => exact cancelDeposit_exit rfl rfl h
  | claimTokensEthereum accounts messageNonce signature =>
    simp only [Instruction.handler, Escrow.claimTokensEthereum, bind_eq_ok] at h
    obtain ⟨_, hcheck, h⟩ := h
    exact claimTokens_exit rfl hcheck (.inl ⟨rfl, signature, rfl⟩) h
  | claimTokensArweaveAttested =>
    simp only [Instruction.handler, Escrow.claimTokensArweaveAttested, bind_eq_ok] at h
    obtain ⟨_, hcheck, h⟩ := h
    exact claimTokens_exit rfl hcheck (.inr ⟨rfl, rfl⟩) h
  | claimVaultEthereum accounts extra messageNonce signature =>
    simp only [Instruction.handler, Escrow.claimVaultEthereum, bind_eq_ok] at h
    obtain ⟨_, hcheck, _, hpayer, h⟩ := h
    exact claimVault_exit rfl rfl hcheck (.inl ⟨rfl, signature, rfl⟩) hpayer h
  | claimVaultArweaveAttested =>
    simp only [Instruction.handler, Escrow.claimVaultArweaveAttested, bind_eq_ok] at h
    obtain ⟨_, hcheck, _, hpayer, h⟩ := h
    exact claimVault_exit rfl rfl hcheck (.inr ⟨rfl, rfl⟩) hpayer h

/-! ### One step of the tokens -/

/-- The escrows of the address `a` keep their accounts and their terms; only the depositor names
another recipient. -/
structure Undisturbed (s s' : State) (e : Event) (a : Pubkey) : Prop where
  accounts : ∀ k mint, s.tokens.terms k = some (mint, a) → Keeps s.tokens s'.tokens k
  escrow : ∀ x, s.escrows a = some x → ∃ y, s'.escrows a = some y ∧
    (y = x ∨ Renamed x y ∧ ∃ i, e.action = .call i ∧ i.signer = x.depositor)

/-- The step is a call that closes the escrow at `a`. -/
def Leaves (env : Env) (s s' : State) (e : Event) (a : Pubkey) : Prop :=
  ∃ i x k new, e.action = .call i ∧ env.CanSign i.signer ∧ s'.escrows a = none ∧
    Exit env e.tx s s' a i x k new

lemma updateRecipient_renames {newProtocol : ℕ} {newPubkey : List UInt8} {depositor : Pubkey}
    (h : updateRecipient seed env tx a depositor newProtocol newPubkey s = .ok s')
    (hlive : s.escrows a = some x) :
    ∃ y, s'.escrows a = some y ∧ Renamed x y ∧ depositor = x.depositor := by
  simp only [updateRecipient, bind_eq_ok, checkEscrow_ok, pure_eq_ok] at h
  obtain ⟨x', ⟨hlive', -, hdepositor⟩, _, -, rfl⟩ := h
  obtain rfl := Option.some.inj (hlive'.symm.trans hlive)
  exact ⟨_, Function.update_self .., ⟨_, _, _, rfl⟩, hdepositor.symm⟩

lemma handler_stays (hother : (i.deed tx).2.Closes → (i.deed tx).1 ≠ a)
    (h : i.handler env tx s = .ok s') (hlive : s.escrows a = some x) :
    ∃ y, s'.escrows a = some y ∧ (y = x ∨ Renamed x y ∧ i.signer = x.depositor) := by
  obtain ⟨o, hupd, hwrote⟩ := handler_wrote h
  by_cases ha : (i.deed tx).1 = a
  · cases i with
    | depositTokens | depositVault =>
      -- the address would be vacant
      rw [ha, hlive] at hwrote
      cases hwrote
    | updateTokenRecipient escrow =>
      obtain rfl : escrow = a := ha
      obtain ⟨y, hy, hrenamed, hsigner⟩ := updateRecipient_renames h hlive
      exact ⟨y, hy, .inr ⟨hrenamed, hsigner⟩⟩
    | updateVaultRecipient escrow =>
      obtain rfl : escrow = a := ha
      obtain ⟨y, hy, hrenamed, hsigner⟩ := updateRecipient_renames h hlive
      exact ⟨y, hy, .inr ⟨hrenamed, hsigner⟩⟩
    | _ => exact absurd ha (hother trivial)
  · refine ⟨x, ?_, .inl rfl⟩
    rw [hupd, Function.update_of_ne (Ne.symm ha), hlive]

lemma handler_closed (hcloses : (i.deed tx).2.Closes) (h : i.handler env tx s = .ok s') :
    s'.escrows (i.deed tx).1 = none := by
  obtain ⟨o, hupd, hwrote⟩ := handler_wrote h
  rw [hupd, Function.update_self]
  generalize s.escrows (i.deed tx).1 = before at hwrote
  generalize (i.deed tx).2 = deed at hcloses hwrote
  cases hwrote with
  | deposit => exact hcloses.elim
  | rotation => exact hcloses.elim
  | claim => rfl
  | cancel => rfl

/-- **One step at one address.** Whatever happens, an escrow's accounts are undisturbed, or the step
is a call that closes the escrow. -/
theorem token_step {e : Event} (hpda : ¬ env.CanSign a) (h : EscrowStep env s e s') :
    Undisturbed s s' e a ∨ Leaves env s s' e a := by
  obtain ⟨tx, action⟩ := e
  have of_wallet : s'.escrows = s.escrows →
      (∀ k mint, s.tokens.terms k = some (mint, a) → Keeps s.tokens s'.tokens k) →
      Undisturbed s s' ⟨tx, action⟩ a := fun hescrows hkeeps =>
    ⟨hkeeps, fun x hx => ⟨x, by rw [hescrows, hx], .inl rfl⟩⟩
  have hne : ∀ {authority}, env.CanSign authority → authority ≠ a := by
    rintro authority hauth rfl
    exact hpda hauth
  cases action with
  | call i =>
    simp only [EscrowStep, Event.exec, Instruction.exec, bind_eq_ok, require_eq_ok,
      exists_const] at h
    obtain ⟨hsigns, h⟩ := h
    by_cases hexit : (i.deed tx).2.Closes ∧ (i.deed tx).1 = a
    · obtain ⟨hcloses, rfl⟩ := hexit
      obtain ⟨x, k, new, hout⟩ := handler_exit hcloses h
      exact .inr ⟨i, x, k, new, rfl, hsigns, handler_closed hcloses h, hout⟩
    · have hother : (i.deed tx).2.Closes → (i.deed tx).1 ≠ a := fun hc ha => hexit ⟨hc, ha⟩
      refine .inl ⟨fun k mint own => handler_keeps hsigns hpda own hother h, fun x hx => ?_⟩
      obtain ⟨y, hy, hstays⟩ := handler_stays hother h hx
      exact ⟨y, hy, hstays.imp_right fun hrenamed => ⟨hrenamed.1, i, rfl, hrenamed.2⟩⟩
  | walletTransfer source destination authority amount =>
    simp only [EscrowStep, Event.exec, bind_eq_ok, require_eq_ok, exists_const] at h
    refine .inl (of_wallet (splTransfer_escrows h.2) fun k mint own => ?_)
    exact splTransfer_keeps own (hne h.1) h.2
  | walletClose account authority =>
    simp only [EscrowStep, Event.exec, bind_eq_ok, require_eq_ok, exists_const] at h
    refine .inl (of_wallet (splCloseAccount_moves h.2).1 fun k mint own => ?_)
    exact splCloseAccount_keeps own (hne h.1) h.2
  | openTokenAccount key mint owner =>
    simp only [EscrowStep, Event.exec, bind_eq_ok, require_eq_ok, exists_const, pure_eq_ok] at h
    obtain ⟨hnone, rfl⟩ := h
    refine .inl (of_wallet rfl fun k mint' own => ?_)
    have hk : k ≠ key := by
      rintro rfl
      simp [Tokens.terms, Option.isNone_iff_eq_none.mp hnone] at own
    exact ⟨by simp [Tokens.terms, hk], by simp [Tokens.balance, hk], [], rfl, by simp⟩
  | coreChange books =>
    obtain rfl := Except.ok.inj h
    exact .inl (of_wallet rfl fun k mint own => Keeps.refl)

/-! ### Whole runs of the tokens -/

/-- The escrow has a token account of its own that holds at least its amount. -/
def Funded (s : State) (a : Pubkey) (x : EscrowToken) : Prop :=
  ∃ k, s.tokens.terms k = some (x.arioMint, a) ∧ x.amount ≤ s.tokens.balance k

lemma Located.not_canSign (h : Located env a x) : ¬ env.CanSign a := fun hsigns =>
  hsigns.ne _ _ _ h

lemma deposit_fills {accounts : DepositAccounts} {assetId : Bytes32} {u : Unit} {s₁ : State}
    (hacc : checkDepositAccounts env seed accounts assetId s = .ok u)
    (hsigns : env.CanSign accounts.depositor)
    (hmove : splTransfer s accounts.depositorTokenAccount accounts.escrowTokenAccount
      accounts.depositor amount = .ok s₁) :
    s₁.tokens.terms accounts.escrowTokenAccount = some (accounts.arioMint, accounts.escrow) ∧
      amount ≤ s₁.tokens.balance accounts.escrowTokenAccount := by
  simp only [checkDepositAccounts, bind_eq_ok, require_eq_ok, exists_const,
    checkTokenAccount_eq_ok] at hacc
  obtain ⟨hseed, -, hsource, hown⟩ := hacc
  obtain ⟨t, ht, rfl⟩ := splTransfer_eq_ok.mp hmove
  have hmoved := Tokens.transfer_ok ht
  have hne : accounts.escrowTokenAccount ≠ accounts.depositorTokenAccount := by
    intro heq
    rw [heq, hsource] at hown
    have howner := (Prod.mk.inj (Option.some.inj hown)).2
    exact hsigns.ne _ _ _ (howner.trans hseed)
  refine ⟨by rw [congrFun hmoved.terms_eq]; exact hown, ?_⟩
  have hbal := hmoved.balance_eq accounts.escrowTokenAccount
  rw [if_pos rfl, if_neg hne] at hbal
  change amount ≤ t.balance accounts.escrowTokenAccount
  omega

lemma handler_deposit_funded (hsigns : env.CanSign i.signer) (h : i.handler env tx s = .ok s')
    (hvacant : s.escrows a = none) (hlive : s'.escrows a = some x) : Funded s' a x := by
  have hopened : (i.deed tx).1 = a ∧ s.escrows (i.deed tx).1 = none := by
    obtain ⟨o, hupd, -⟩ := handler_wrote h
    by_cases ha : (i.deed tx).1 = a
    · exact ⟨ha, by rw [ha, hvacant]⟩
    · rw [hupd, Function.update_of_ne (Ne.symm ha), hvacant] at hlive
      cases hlive
  obtain ⟨rfl, hnone⟩ := hopened
  obtain ⟨_, -, hwrote⟩ := handler_wrote h
  rw [hnone] at hwrote
  cases i with
  | depositTokens accounts =>
    simp only [Instruction.handler, Escrow.depositTokens, bind_eq_ok, pure_eq_ok] at h
    obtain ⟨_, hacc, _, -, _, -, s₁, hmove, rfl⟩ := h
    obtain ⟨hterms, hbal⟩ := deposit_fills hacc hsigns hmove
    rw [State.setEscrow_escrows, Instruction.deed, Function.update_self] at hlive
    obtain rfl := Option.some.inj hlive
    exact ⟨accounts.escrowTokenAccount, hterms, hbal⟩
  | depositVault accounts =>
    simp only [Instruction.handler, Escrow.depositVault, bind_eq_ok, pure_eq_ok] at h
    obtain ⟨_, hacc, _, -, _, -, _, -, _, -, _, -, s₁, hmove, _, -, rfl⟩ := h
    obtain ⟨hterms, hbal⟩ := deposit_fills hacc hsigns hmove
    rw [State.setEscrow_escrows, Instruction.deed, Function.update_self] at hlive
    obtain rfl := Option.some.inj hlive
    exact ⟨accounts.escrowTokenAccount, hterms, hbal⟩
  | _ => cases hwrote

lemma Funded.of_undisturbed {e : Event} (h : Undisturbed s s' e a) {y : EscrowToken}
    (hfunded : Funded s a x) (hy : y = x ∨ Renamed x y) : Funded s' a y := by
  obtain ⟨k, hterms, hbal⟩ := hfunded
  have hkeeps := h.accounts k _ hterms
  have hsame : y.arioMint = x.arioMint ∧ y.amount = x.amount := by
    rcases hy with rfl | ⟨_, _, _, rfl⟩
    · exact ⟨rfl, rfl⟩
    · exact ⟨rfl, rfl⟩
  exact ⟨k, by rw [hkeeps.terms, hterms, hsame.1], by
    rw [hsame.2]
    exact hbal.trans hkeeps.balance⟩

/-- Every escrow is funded. -/
def AllFunded (s : State) : Prop := ∀ a x, s.escrows a = some x → Funded s a x

lemma step_funded {e : Event} (hsound : Sound env s) (hs : AllFunded s)
    (h : EscrowStep env s e s') : AllFunded s' := by
  intro a y hy
  have hpda : ¬ env.CanSign a := ((step_sound hsound h).located a y hy).not_canSign
  rcases token_step hpda h with hquiet | ⟨i, x, k, new, -, -, hclosed, -⟩
  · cases hbefore : s.escrows a with
    | some x =>
      obtain ⟨y', hy', hstays⟩ := hquiet.escrow x hbefore
      obtain rfl := Option.some.inj (hy'.symm.trans hy)
      exact (hs a x hbefore).of_undisturbed hquiet (hstays.imp_right And.left)
    | none =>
      obtain ⟨tx, action⟩ := e
      by_cases hcall : ∃ i, action = .call i
      · obtain ⟨i, rfl⟩ := hcall
        simp only [EscrowStep, Event.exec, Instruction.exec, bind_eq_ok, require_eq_ok,
          exists_const] at h
        exact handler_deposit_funded h.1 h.2 hbefore hy
      · rw [exec_escrows_of_no_call h fun i hi => hcall ⟨i, hi⟩, hbefore] at hy
        cases hy
  · rw [hclosed] at hy
    cases hy

end

end Escrow
end ArioSolana
