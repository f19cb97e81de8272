import ArioSolana.CoreVaults

/-!
# What a call does to the vaults

A call creates a vault, adds to one, moves its end, or closes it, or it leaves the vaults alone. In
every case the vaults' token accounts lose tokens only when their own vault is closed.
-/

namespace ArioSolana
namespace Core

open Checked Solana

/-- The addresses of vaults. -/
def VaultEnv.Pda (env : VaultEnv) (k : Pubkey) : Prop := env.isVaultPda k = true

/-- What a call that creates a vault is given. -/
structure Opening where
  recipient : Pubkey
  source : Pubkey
  vaultTokenAccount : Pubkey
  amount : ℕ
  duration : ℤ
  controller : Option Pubkey
  revocable : Bool

def VaultCall.opening (signer : Pubkey) : VaultCall → Option Opening
  | .createVault source target amount seconds =>
    some ⟨signer, source, target, amount, seconds, none, false⟩
  | .vaultedTransfer recipient source target amount seconds revocable =>
    some ⟨recipient, source, target, amount, seconds, if revocable then some signer else none,
      revocable⟩
  | .relockVault _ _ source claimant target amount remaining =>
    some ⟨claimant, source, target, amount, remaining, none, false⟩
  | _ => none

/-- The key of the vault that an opening creates. -/
def Opening.key (p : Opening) (s : VaultState) : Pubkey × VaultId :=
  (p.recipient, (loadCounter s p.recipient).nextId)

/-- The vault that an opening creates. -/
def Opening.vault (p : Opening) (s : VaultState) (now : ℤ) : Vault where
  owner := p.recipient
  vaultId := (loadCounter s p.recipient).nextId
  amount := p.amount
  startTimestamp := now
  endTimestamp := now + p.duration
  controller := p.controller
  revocable := p.revocable

/-- Tokens are paid into an account of a vault and counted as locked. -/
structure PaidIn (env : VaultEnv) (signer source target : Pubkey) (key : Pubkey × VaultId)
    (amount : ℕ) (s s' : VaultState) (config : ArioConfig) (account : SplAccount) : Prop where
  head : s.config = some config
  supplied : s.tokens target = some account
  owned : account.owner = env.vaultPda key.1 key.2
  mint : account.mint = config.mint
  paid : s.tokens.transfer source target signer amount = .ok s'.tokens
  locked : ∃ config', config.lock amount = .ok config' ∧ s'.config = some config'

/-- A vault is created. -/
structure Opened (env : VaultEnv) (now : ℤ) (signer : Pubkey) (p : Opening) (s s' : VaultState)
    (config : ArioConfig) (account : SplAccount) : Prop where
  paidIn : PaidIn env signer p.source p.vaultTokenAccount (p.key s) p.amount s s' config account
  fresh : s.vaults (p.key s) = none
  positive : 0 < p.amount
  bounds : config.minVaultDuration ≤ p.duration ∧ p.duration ≤ config.maxVaultDuration
  counters : ∃ next : VaultId, next.val = (loadCounter s p.recipient).nextId.val + 1 ∧
    s'.counters = Function.update s.counters p.recipient (some ⟨p.recipient, next⟩)
  vaults : s'.vaults = Function.update s.vaults (p.key s) (some (p.vault s now))

/-- Tokens are added to a vault. -/
structure Increased (env : VaultEnv) (now : ℤ) (signer : Pubkey) (id : VaultId)
    (source target : Pubkey) (amount : ℕ) (s s' : VaultState) (config : ArioConfig)
    (account : SplAccount) (v : Vault) : Prop where
  paidIn : PaidIn env signer source target (signer, id) amount s s' config account
  found : s.vaults (signer, id) = some v
  early : now ≤ v.endTimestamp
  counters : s'.counters = s.counters
  vaults : s'.vaults =
    Function.update s.vaults (signer, id) (some { v with amount := v.amount + amount })

/-- The end of a vault is moved. -/
structure Extended (now : ℤ) (signer : Pubkey) (id : VaultId) (seconds : ℤ) (s s' : VaultState)
    (config : ArioConfig) (v : Vault) : Prop where
  head : s.config = some config
  found : s.vaults (signer, id) = some v
  positive : 0 < seconds
  bounded : v.endTimestamp + seconds ≤ now + config.maxVaultDuration
  config_eq : s'.config = s.config
  counters : s'.counters = s.counters
  tokens : s'.tokens = s.tokens
  vaults : s'.vaults = Function.update s.vaults (signer, id)
    (some { v with endTimestamp := v.endTimestamp + seconds })

/-- An account is swept into another and closed. -/
structure Swept (t t' : Ledger) (pda source target : Pubkey) (a b : SplAccount) : Prop where
  from_eq : t source = some a
  into_eq : t target = some b
  owned : a.owner = pda
  mint : a.mint = b.mint
  closer : a.closer = pda
  ne : source ≠ target
  closed : t' source = none
  credited : t' target = some { b with amount := b.amount + a.amount }
  others : ∀ k, k ≠ source → k ≠ target → t' k = t k

/-- A vault is paid out to `receiver` and closed. -/
structure Closed (env : VaultEnv) (key : Pubkey × VaultId) (receiver source target : Pubkey)
    (s s' : VaultState) (config : ArioConfig) (a b : SplAccount) (v : Vault) : Prop where
  head : s.config = some config
  found : s.vaults key = some v
  named : v.owner = key.1 ∧ v.vaultId = key.2
  swept : Swept s.tokens s'.tokens (env.vaultPda key.1 key.2) source target a b
  mint : a.mint = config.mint
  receiver_eq : b.owner = receiver
  unlocked : ∃ config', config.unlock v.amount = .ok config' ∧ s'.config = some config'
  counters : s'.counters = s.counters
  vaults : s'.vaults = Function.update s.vaults key none

/-- A vault is revoked or released. -/
def ClosedBy (now : ℤ) (signer : Pubkey) (key : Pubkey × VaultId) (v : Vault) : VaultCall → Prop
  | .revokeVault owner id _ _ => key = (owner, id) ∧ v.revocable = true ∧
      v.controller = some signer ∧ v.isUnlocked now = false
  | .releaseVault id _ _ => key = (signer, id) ∧ v.isUnlocked now = true
  | _ => False

/-- The configuration is created with everything in circulation, or keeps its mint and counts. -/
def SameCounts (s s' : VaultState) : Prop :=
  s'.config = s.config ∨
  (s.config = none ∧ ∃ c, s'.config = some c ∧ c.lockedSupply = 0 ∧
    c.circulatingSupply = c.totalSupply ∧ c.totalSupply < 2 ^ 64) ∨
  ∃ c c', s.config = some c ∧ s'.config = some c' ∧ c'.mint = c.mint ∧
    c'.lockedSupply = c.lockedSupply ∧ c'.circulatingSupply = c.circulatingSupply ∧
    c'.totalSupply = c.totalSupply

section

variable {env : VaultEnv} {s s' s₁ : VaultState} {now : ℤ} {signer k : Pubkey} {e : VaultEvent}
  {config config' : ArioConfig} {amount : ℕ} {v : Vault} {a b : SplAccount}

/-! ### Helpers -/

lemma viaToken_eq_ok {x : Except SplError Ledger} {t : Ledger} :
    viaToken x = .ok t ↔ x = .ok t := by
  cases x <;> simp [viaToken, Except.mapError]

lemma canSign_iff : env.CanSign k ↔ ¬env.Pda k := by
  simp [VaultEnv.CanSign, VaultEnv.Pda]

lemma pda_vaultPda (owner : Pubkey) (id : VaultId) : env.Pda (env.vaultPda owner id) :=
  (env.isVaultPda_iff _).mpr ⟨owner, id, rfl⟩

lemma vaultId_next_eq_ok {id id' : VaultId} : id.next = .ok id' ↔ id'.val = id.val + 1 := by
  unfold VaultId.next
  split
  · rw [Except.ok.injEq]
    exact ⟨fun h => by rw [← h], fun h => Fin.ext h.symm⟩
  · rename_i h
    constructor
    · intro heq
      cases heq
    · intro heq
      exact absurd (heq ▸ id'.isLt) h

lemma checkTokenAccount_eq_ok {owner mint : Pubkey} {err : ArioError} :
    checkTokenAccount s k owner mint err = .ok a ↔
      s.tokens k = some a ∧ a.owner = owner ∧ a.mint = mint := by
  simp only [checkTokenAccount, bind_eq_ok, okOr_eq_ok, require_eq_ok, pure_eq_ok]
  constructor
  · rintro ⟨a', ha, -, ho, -, hm, rfl⟩
    exact ⟨ha, ho, hm⟩
  · rintro ⟨ha, ho, hm⟩
    exact ⟨a, ha, (), ho, (), hm, rfl⟩

lemma loadVault_eq_ok {owner : Pubkey} {id : VaultId} : loadVault s owner id = .ok v ↔
    s.vaults (owner, id) = some v ∧ v.owner = owner ∧ v.vaultId = id := by
  simp only [loadVault, bind_eq_ok, okOr_eq_ok, require_eq_ok, pure_eq_ok]
  constructor
  · rintro ⟨v', hv, -, ⟨ho, hid⟩, rfl⟩
    exact ⟨hv, ho, hid⟩
  · rintro ⟨hv, ho, hid⟩
    exact ⟨v, hv, (), ⟨ho, hid⟩, rfl⟩

lemma lock_eq_ok : config.lock amount = .ok config' ↔ config.lockedSupply + amount < 2 ^ 64 ∧
    amount ≤ config.circulatingSupply ∧ config' = { config with
      lockedSupply := config.lockedSupply + amount
      circulatingSupply := config.circulatingSupply - amount } := by
  simp only [ArioConfig.lock, bind_eq_ok, okOr_eq_ok, checkedAdd_eq_some, checkedSub_eq_some,
    pure_eq_ok]
  constructor
  · rintro ⟨n, ⟨hlt, rfl⟩, m, ⟨hle, rfl⟩, rfl⟩
    exact ⟨hlt, hle, rfl⟩
  · rintro ⟨hlt, hle, rfl⟩
    exact ⟨_, ⟨hlt, rfl⟩, _, ⟨hle, rfl⟩, rfl⟩

lemma unlock_eq_ok : config.unlock amount = .ok config' ↔ amount ≤ config.lockedSupply ∧
    config.circulatingSupply + amount < 2 ^ 64 ∧ config' = { config with
      lockedSupply := config.lockedSupply - amount
      circulatingSupply := config.circulatingSupply + amount } := by
  simp only [ArioConfig.unlock, bind_eq_ok, okOr_eq_ok, checkedAdd_eq_some, checkedSub_eq_some,
    pure_eq_ok]
  constructor
  · rintro ⟨n, ⟨hle, rfl⟩, m, ⟨hlt, rfl⟩, rfl⟩
    exact ⟨hle, hlt, rfl⟩
  · rintro ⟨hle, hlt, rfl⟩
    exact ⟨_, ⟨hle, rfl⟩, _, ⟨hlt, rfl⟩, rfl⟩

/-! ### Creating a vault -/

lemma fundVault_opened {p : Opening}
    (hconfig : s.config = some config)
    (haccounts : checkVaultAccounts env config signer p.recipient p.source p.vaultTokenAccount s
      = .ok ())
    (hlock : checkLock config p.amount p.duration = .ok ())
    (h : fundVault config now signer p.recipient p.source p.vaultTokenAccount p.amount p.duration
      p.controller p.revocable s = .ok s') : ∃ account, Opened env now signer p s s' config
          account := by
  simp only [checkVaultAccounts, bind_eq_ok, require_eq_ok, checkTokenAccount_eq_ok,
    Option.isNone_iff_eq_none] at haccounts
  obtain ⟨-, hfresh, a, -, account, ⟨haccount, howner, hmint⟩, -⟩ := haccounts
  simp only [checkLock, bind_eq_ok, require_eq_ok] at hlock
  obtain ⟨-, hmin, -, hmax, -, hpos, -⟩ := hlock
  simp only [fundVault, bind_eq_ok, viaToken_eq_ok, okOr_eq_ok, checkedAddSigned_eq_some,
    vaultId_next_eq_ok, pure_eq_ok] at h
  obtain ⟨tokens, htokens, endTs, ⟨-, rfl⟩, next, hnext, config', hlocked, rfl⟩ := h
  exact ⟨account, ⟨hconfig, haccount, howner, hmint, htokens, config', hlocked, rfl⟩, hfresh, hpos,
    ⟨hmin, hmax⟩, ⟨next, hnext, rfl⟩, rfl⟩

lemma createVault_opened {source target : Pubkey} {seconds : ℤ}
    (h : createVault env now signer source target amount seconds s = .ok s') :
    ∃ config account,
      Opened env now signer ⟨signer, source, target, amount, seconds, none, false⟩ s s' config
        account := by
  simp only [createVault, loadConfig, bind_eq_ok, okOr_eq_ok] at h
  obtain ⟨config, hconfig, u, haccounts, u', hlock, h⟩ := h
  exact ⟨config, fundVault_opened
    (p := ⟨signer, source, target, amount, seconds, none, false⟩) hconfig haccounts hlock h⟩

lemma vaultedTransfer_opened {recipient source target : Pubkey} {seconds : ℤ} {revocable : Bool}
    (h : vaultedTransfer env now signer recipient source target amount seconds revocable s
      = .ok s') :
    ∃ config account, Opened env now signer ⟨recipient, source, target, amount, seconds,
      if revocable then some signer else none, revocable⟩ s s' config account := by
  simp only [vaultedTransfer, loadConfig, bind_eq_ok, okOr_eq_ok] at h
  obtain ⟨config, hconfig, u, haccounts, u', hlock, -, -, h⟩ := h
  exact ⟨config, fundVault_opened (p := ⟨recipient, source, target, amount, seconds,
    if revocable then some signer else none, revocable⟩) hconfig haccounts hlock h⟩

lemma relockVault_opened {escrow escrowAccount source claimant target : Pubkey} {remaining : ℤ}
    (h : relockVault env now escrow escrowAccount signer source claimant target amount remaining s
      = .ok s') : ∃ tokens config account,
    s.tokens.transfer escrowAccount source escrow amount = .ok tokens ∧
      Opened env now signer ⟨claimant, source, target, amount, remaining, none, false⟩
        { s with tokens } s' config account := by
  simp only [relockVault, bind_eq_ok, viaToken_eq_ok] at h
  obtain ⟨tokens, htokens, h⟩ := h
  split at h
  · rename_i heq
    subst heq
    obtain ⟨config, account, hopened⟩ := createVault_opened h
    exact ⟨tokens, config, account, htokens, hopened⟩
  · obtain ⟨config, account, hopened⟩ := vaultedTransfer_opened h
    exact ⟨tokens, config, account, htokens, hopened⟩

/-! ### Changing a vault -/

lemma increaseVault_increased {id : VaultId} {source target : Pubkey}
    (h : increaseVault env now signer id source target amount s = .ok s') :
    ∃ config account v, Increased env now signer id source target amount s s' config account v := by
  simp only [increaseVault, loadConfig, bind_eq_ok, okOr_eq_ok, loadVault_eq_ok,
    checkTokenAccount_eq_ok, require_eq_ok, viaToken_eq_ok, checkedAdd_eq_some, pure_eq_ok] at h
  obtain ⟨config, hconfig, v, ⟨hv, -⟩, -, -, account, ⟨haccount, howner, hmint⟩, -, -, -, hearly,
    tokens, htokens, n, ⟨-, rfl⟩, config', hlocked, rfl⟩ := h
  exact ⟨config, account, v, ⟨hconfig, haccount, howner, hmint, htokens, config', hlocked, rfl⟩, hv,
    hearly, rfl, rfl⟩

lemma extendVault_extended {id : VaultId} {seconds : ℤ}
    (h : extendVault now signer id seconds s = .ok s') :
    ∃ config v, Extended now signer id seconds s s' config v := by
  simp only [extendVault, loadConfig, bind_eq_ok, okOr_eq_ok, loadVault_eq_ok, require_eq_ok,
    checkedAddSigned_eq_some, checkedSubSigned_eq_some, pure_eq_ok] at h
  obtain ⟨config, hconfig, v, ⟨hv, -⟩, -, hpos, -, -, newEnd, ⟨-, rfl⟩, remaining, ⟨-, rfl⟩, -,
    hmax, rfl⟩ := h
  exact ⟨config, v, hconfig, hv, hpos, by omega, rfl, rfl, rfl, rfl⟩

/-! ### Closing a vault -/

lemma swept_of_calls {t t₁ t₂ : Ledger} {source target : Pubkey}
    (hsource : t source = some a) (htarget : t target = some b) (hne : source ≠ target)
    (hdelegate : a.delegate = none)
    (htransfer : t.transfer source target k a.amount = .ok t₁)
    (hclose : t₁.closeAccount source k = .ok t₂) : Swept t t₂ k source target a b := by
  obtain ⟨src, dst, hmoved⟩ := Ledger.transfer_ok htransfer
  obtain rfl := Option.some.inj (hsource.symm.trans hmoved.source_eq)
  obtain rfl := Option.some.inj (htarget.symm.trans hmoved.destination_eq)
  obtain ⟨a', ha', -, hcloser, rfl⟩ := Ledger.closeAccount_eq_ok.mp hclose
  obtain ⟨d, n, -, hdebit⟩ := hmoved.debited hne
  obtain rfl := Option.some.inj (hdebit.symm.trans ha')
  have howner : a.owner = k := by
    rcases hmoved.authorized with hd | howner
    · rw [hdelegate] at hd
      cases hd
    · exact howner.symm
  refine ⟨hsource, htarget, howner, hmoved.mint_eq, hcloser.symm, hne, ?_, ?_, ?_⟩
  · rw [Function.update_self]
  · rw [Function.update_of_ne hne.symm, hmoved.credited hne]
  · intro k' hs ht
    rw [Function.update_of_ne hs, hmoved.others k' hs ht]

lemma payOut_closed {receiver source target : Pubkey}
    (hundelegated : Ledger.Undelegated env.Pda s.tokens) (hconfig : s.config = some config)
    {owner : Pubkey} {id : VaultId} (hv : s.vaults (owner, id) = some v ∧ v.owner = owner ∧
      v.vaultId = id)
    (hreceiver : env.CanSign receiver)
    (ha : s.tokens source = some a ∧ a.owner = env.vaultPda owner id ∧ a.mint = config.mint)
    (hb : s.tokens target = some b ∧ b.owner = receiver ∧ b.mint = config.mint)
    (h : payOut env config v a source target s = .ok s') :
    Closed env (owner, id) receiver source target s s' config a b v := by
  obtain ⟨hfound, rfl, rfl⟩ := hv
  have hne : source ≠ target := by
    rintro rfl
    obtain rfl := Option.some.inj (ha.1.symm.trans hb.1)
    exact canSign_iff.mp hreceiver (hb.2.1 ▸ ha.2.1 ▸ pda_vaultPda _ _)
  have hdelegate := hundelegated source a ha.1 (ha.2.1 ▸ pda_vaultPda _ _)
  simp only [payOut, bind_eq_ok, viaToken_eq_ok, pure_eq_ok] at h
  obtain ⟨t₁, htransfer, t₂, hclose, config', hunlock, rfl⟩ := h
  exact ⟨hconfig, hfound, ⟨rfl, rfl⟩, swept_of_calls ha.1 hb.1 hne hdelegate htransfer hclose,
    ha.2.2, hb.2.1,
    ⟨config', hunlock, rfl⟩, rfl, rfl⟩

lemma revokeVault_closed {owner source target : Pubkey} {id : VaultId}
    (hundelegated : Ledger.Undelegated env.Pda s.tokens) (hsigner : env.CanSign signer)
    (h : revokeVault env now signer owner id source target s = .ok s') :
    ∃ config a b v, Closed env (owner, id) signer source target s s' config a b v ∧
      v.revocable = true ∧ v.controller = some signer ∧ v.isUnlocked now = false := by
  simp only [revokeVault, loadConfig, revokeTimeCheck, bind_eq_ok, okOr_eq_ok, loadVault_eq_ok,
    checkTokenAccount_eq_ok, require_eq_ok] at h
  obtain ⟨config, hconfig, v, hv, -, hrevocable, -, hcontroller, a, ha, b, hb, -, htime, h⟩ := h
  exact ⟨config, a, b, v, payOut_closed hundelegated hconfig hv hsigner ha hb h, hrevocable,
    hcontroller, htime⟩

lemma releaseVault_closed {source target : Pubkey} {id : VaultId}
    (hundelegated : Ledger.Undelegated env.Pda s.tokens) (hsigner : env.CanSign signer)
    (h : releaseVault env now signer id source target s = .ok s') :
    ∃ config a b v, Closed env (signer, id) signer source target s s' config a b v ∧
      v.isUnlocked now = true := by
  simp only [releaseVault, loadConfig, releaseTimeCheck, bind_eq_ok, okOr_eq_ok, loadVault_eq_ok,
    checkTokenAccount_eq_ok, require_eq_ok] at h
  obtain ⟨config, hconfig, v, hv, a, ha, b, hb, -, htime, h⟩ := h
  exact ⟨config, a, b, v, payOut_closed hundelegated hconfig hv hsigner ha hb h, htime⟩

/-! ### One step -/

/-- **What a call does to the vaults.** -/
inductive VaultChange (env : VaultEnv) (e : VaultEvent) (s s' : VaultState) : Prop
  /-- nothing; the vaults' token accounts are untouched -/
  | quiet (call : e.call.opening e.signer = none)
      (still : ∀ id source target amount, e.call ≠ .increaseVault id source target amount)
      (counts : SameCounts s s')
      (counters : s'.counters = s.counters) (vaults : s'.vaults = s.vaults)
      (tokens : s.tokens.Untouched env.Pda s'.tokens)
  | opened (p : Opening) (t : Ledger) (config : ArioConfig) (account : SplAccount)
      (call : e.call.opening e.signer = some p) (before : s.tokens.Untouched env.Pda t)
      (terms : s.tokens.SameTerms t)
      (change : Opened env e.now e.signer p { s with tokens := t } s' config account)
  | increased (id : VaultId) (source target : Pubkey) (amount : ℕ) (config : ArioConfig)
      (account : SplAccount) (v : Vault) (call : e.call = .increaseVault id source target amount)
      (change : Increased env e.now e.signer id source target amount s s' config account v)
  | extended (id : VaultId) (seconds : ℤ) (config : ArioConfig) (v : Vault)
      (call : e.call = .extendVault id seconds)
      (change : Extended e.now e.signer id seconds s s' config v)
  | closed (key : Pubkey × VaultId) (source target : Pubkey) (config : ArioConfig)
      (a b : SplAccount) (v : Vault) (call : ClosedBy e.now e.signer key v e.call)
      (change : Closed env key e.signer source target s s' config a b v)

lemma untouched_refl {t : Ledger} (h : Ledger.Undelegated env.Pda t) : t.Untouched env.Pda t :=
  ⟨h, fun _ a ha _ => .inl ⟨a, ha, rfl, rfl, le_rfl, fun _ => rfl⟩, fun _ => rfl⟩

lemma initializeCore_counts {mint : Pubkey} {params : InitializeParams}
    (h : initializeCore mint params s = .ok s') : SameCounts s s' ∧ s'.counters = s.counters ∧
      s'.vaults = s.vaults ∧ s'.tokens = s.tokens := by
  simp only [initializeCore, bind_eq_ok, require_eq_ok, pure_eq_ok,
    Option.isNone_iff_eq_none] at h
  obtain ⟨-, hnone, rfl⟩ := h
  exact ⟨.inr (.inl ⟨hnone, _, rfl, rfl, rfl, params.totalSupplyFits⟩), rfl, rfl, rfl⟩

lemma updateConfig_counts {params : UpdateConfigParams}
    (h : updateConfig signer params s = .ok s') : SameCounts s s' ∧ s'.counters = s.counters ∧
      s'.vaults = s.vaults ∧ s'.tokens = s.tokens := by
  simp only [updateConfig, loadConfig, bind_eq_ok, okOr_eq_ok, require_eq_ok, pure_eq_ok] at h
  obtain ⟨config, hconfig, -, -, -, -, -, -, -, -, -, -, -, -, rfl⟩ := h
  exact ⟨.inr (.inr ⟨config, _, hconfig, rfl, rfl, rfl, rfl, rfl⟩), rfl, rfl, rfl⟩

lemma signer_of_step (h : VaultStep env s e s') : env.CanSign e.signer := by
  simp only [VaultStep, VaultEvent.exec, bind_eq_ok, require_eq_ok] at h
  obtain ⟨-, ⟨hsigner, -⟩, -⟩ := h
  exact hsigner

/-- **Every step is one of the changes.** -/
theorem vaultStep_change (hundelegated : Ledger.Undelegated env.Pda s.tokens)
    (h : VaultStep env s e s') : VaultChange env e s s' := by
  obtain ⟨now, signer, call⟩ := e
  simp only [VaultStep, VaultEvent.exec, bind_eq_ok, require_eq_ok] at h
  obtain ⟨-, ⟨hsigner, hescrow⟩, h⟩ := h
  have hrefl := untouched_refl hundelegated
  cases call with
  | initializeCore mint params =>
    obtain ⟨hcounts, hcounters, hvaults, htokens⟩ := initializeCore_counts h
    exact .quiet rfl (by simp) hcounts hcounters hvaults (htokens ▸ hrefl)
  | updateConfig params =>
    obtain ⟨hcounts, hcounters, hvaults, htokens⟩ := updateConfig_counts h
    exact .quiet rfl (by simp) hcounts hcounters hvaults (htokens ▸ hrefl)
  | createVault source target amount seconds =>
    obtain ⟨config, account, hopened⟩ := createVault_opened h
    exact .opened _ s.tokens config account rfl hrefl (.refl _) hopened
  | vaultedTransfer recipient source target amount seconds revocable =>
    obtain ⟨config, account, hopened⟩ := vaultedTransfer_opened h
    exact .opened _ s.tokens config account rfl hrefl (.refl _) hopened
  | relockVault escrow escrowAccount source claimant target amount remaining =>
    obtain ⟨tokens, config, account, htokens, hopened⟩ := relockVault_opened h
    obtain ⟨src, dst, hmoved⟩ := Ledger.transfer_ok htokens
    have huntouched := Ledger.splCall_untouched (.transfer escrowAccount source amount)
      hundelegated (canSign_iff.mp hescrow) htokens
    exact .opened _ tokens config account rfl huntouched hmoved.sameTerms hopened
  | increaseVault id source target amount =>
    obtain ⟨config, account, v, hincreased⟩ := increaseVault_increased h
    exact .increased id source target amount config account v rfl hincreased
  | extendVault id seconds =>
    obtain ⟨config, v, hextended⟩ := extendVault_extended h
    exact .extended id seconds config v rfl hextended
  | revokeVault owner id source target =>
    obtain ⟨config, a, b, v, hclosed, hby⟩ := revokeVault_closed hundelegated hsigner h
    exact .closed (owner, id) source target config a b v ⟨rfl, hby⟩ hclosed
  | releaseVault id source target =>
    obtain ⟨config, a, b, v, hclosed, hby⟩ := releaseVault_closed hundelegated hsigner h
    exact .closed (signer, id) source target config a b v ⟨rfl, hby⟩ hclosed
  | spl call =>
    simp only [VaultCall.handler, bind_eq_ok, viaToken_eq_ok, pure_eq_ok] at h
    obtain ⟨tokens, htokens, rfl⟩ := h
    exact .quiet rfl (by simp) (.inl rfl) rfl rfl
      (Ledger.splCall_untouched call hundelegated (canSign_iff.mp hsigner) htokens)

end

end Core
end ArioSolana
