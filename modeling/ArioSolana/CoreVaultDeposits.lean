import ArioSolana.CoreVaultExits

/-!
# The accounts that vaults were paid into

An account that a vault was paid into stays with the vault's address and keeps what was paid, until
the vault is closed. A release sweeps it and then closes it, and only its close authority can do
that. Whoever pays the deposit chooses the account: one with a foreign close authority takes the
deposit, and the owner cannot release the vault from it.
-/

namespace ArioSolana
namespace Core

open Checked Solana

/-- What a call pays into the account `k` of the vault `key`. -/
def VaultCall.paysInto (call : VaultCall) (signer : Pubkey) (s : VaultState)
    (key : Pubkey × VaultId) (k : Pubkey) : ℕ :=
  match call.opening signer, call with
  | some p, _ => if p.key s = key ∧ p.vaultTokenAccount = k then p.amount else 0
  | none, .increaseVault id _ target amount => if (signer, id) = key ∧ target = k then amount else 0
  | none, _ => 0

/-- What the calls of a run paid into the account `k` of the vault `key`. -/
def deposits (tr : VaultTrace) (key : Pubkey × VaultId) (k : Pubkey) : ℕ :=
  (tr.map fun x => x.label.call.paysInto x.label.signer x.before key k).sum

/-- The vault's address, or the account's owner if that is the same, closes the account. -/
def ClosedByVault (env : VaultEnv) (s : VaultState) (key : Pubkey × VaultId) (k : Pubkey) : Prop :=
  ∃ a, s.tokens k = some a ∧ a.closer = env.vaultPda key.1 key.2

/-- A release at `now` succeeds and pays at least what the run paid into the account. -/
def Releases (env : VaultEnv) (tr : VaultTrace) (s : VaultState) (v : Vault) (now : ℤ)
    (source target : Pubkey) : Prop :=
  ∃ s', VaultStep env s ⟨now, v.owner, .releaseVault v.vaultId source target⟩ s' ∧
    s.tokens.balance target + deposits tr (v.owner, v.vaultId) source ≤ s'.tokens.balance target

/-- **Accounts that were paid into keep the deposits** while the vault is there. -/
structure DepositsKept (env : VaultEnv) (tr : VaultTrace) (s : VaultState) : Prop where
  known : ∀ key k, 0 < deposits tr key k → key ∈ vaultsCreated tr
  kept : ∀ key v k, s.vaults key = some v → 0 < deposits tr key k → ∃ a, s.tokens k = some a ∧
    a.owner = env.vaultPda key.1 key.2 ∧ (∀ c : ArioConfig, s.config = some c → a.mint = c.mint) ∧
    deposits tr key k ≤ a.amount

section

variable {env : VaultEnv} {s s' s₀ : VaultState} {tr : VaultTrace} {e : VaultEvent}
  {key : Pubkey × VaultId} {v v' : Vault} {config : ArioConfig} {source target k signer : Pubkey}
  {a b account : SplAccount} {amount : ℕ}

/-! ### One account -/

lemma paysInto_eq_zero {call : VaultCall} (hopening : call.opening signer = none)
    (hincrease : ∀ id source target amount, call ≠ .increaseVault id source target amount) :
    call.paysInto signer s key k = 0 := by
  unfold VaultCall.paysInto
  split
  · rename_i p heq
    rw [hopening] at heq
    cases heq
  · exact absurd rfl (hincrease _ _ _ _)
  · rfl

lemma PaidIn.credited (h : PaidIn env signer source target key amount s s' config account)
    (hundelegated : Ledger.Undelegated env.Pda s.tokens) (hsigner : env.CanSign signer) :
    s'.tokens target = some { account with amount := account.amount + amount } := by
  obtain ⟨src, dst, hmoved⟩ := Ledger.transfer_ok h.paid
  obtain rfl := Option.some.inj (h.supplied.symm.trans hmoved.destination_eq)
  refine hmoved.credited ?_
  rintro rfl
  obtain rfl := Option.some.inj (h.supplied.symm.trans hmoved.source_eq)
  have hpda : env.Pda account.owner := h.owned ▸ pda_vaultPda _ _
  rcases hmoved.authorized with hd | hs
  · rw [hundelegated source account h.supplied hpda] at hd
    cases hd
  · exact canSign_iff.mp hsigner (hs ▸ hpda)

lemma kept_of_untouched {t t' : Ledger} (h : t.Untouched env.Pda t') (ha : t k = some a)
    (howner : a.owner = env.vaultPda key.1 key.2) (hpos : 0 < a.amount) :
    ∃ a', t' k = some a' ∧ a'.owner = a.owner ∧ a'.mint = a.mint ∧ a.amount ≤ a'.amount ∧
      (a.closer = env.vaultPda key.1 key.2 → a'.closer = env.vaultPda key.1 key.2) := by
  rcases h.kept k a ha (howner ▸ pda_vaultPda _ _) with ⟨a', ha', hmint, how, hle, hauth⟩ |
    ⟨hzero, -⟩
  · refine ⟨a', ha', how, hmint, hle, fun hcloser => ?_⟩
    rw [SplAccount.closer, hauth (hcloser ▸ pda_vaultPda _ _), how]
    exact hcloser
  · omega

lemma VaultChange.accountKept (h : VaultChange env e s s') (hK : VaultsKept env tr s)
    (hdistinct : env.Distinct tr) (hsigner : env.CanSign e.signer) (hv : s.vaults key = some v)
    (hv' : s'.vaults key = some v') (ha : s.tokens k = some a)
    (howner : a.owner = env.vaultPda key.1 key.2) (hpos : 0 < a.amount) :
    ∃ a', s'.tokens k = some a' ∧ a'.owner = a.owner ∧ a'.mint = a.mint ∧
      a.amount + e.call.paysInto e.signer s key k ≤ a'.amount ∧
      (a.closer = env.vaultPda key.1 key.2 → a'.closer = env.vaultPda key.1 key.2) := by
  cases h with
  | quiet call still counts counters vaults tokens =>
    rw [paysInto_eq_zero call still, add_zero]
    exact kept_of_untouched tokens ha howner hpos
  | opened p t config account call before terms change =>
    have hkey : ¬(p.key s = key ∧ p.vaultTokenAccount = k) := by
      rintro ⟨rfl, -⟩
      have hfresh : s.vaults (p.key s) = none := change.fresh
      rw [hfresh] at hv
      cases hv
    have hzero : e.call.paysInto e.signer s key k = 0 := by
      simp only [VaultCall.paysInto, call, if_neg hkey]
    obtain ⟨a₁, ha₁, howner₁, hmint₁, hle₁, hcloser₁⟩ := kept_of_untouched before ha howner hpos
    obtain ⟨a₂, ha₂, howner₂, hmint₂, hle₂, hcloser₂⟩ := kept_of_untouched
      (change.paidIn.untouched before.undelegated hsigner) ha₁ (howner₁.trans howner) (by omega)
    exact ⟨a₂, ha₂, howner₂.trans howner₁, hmint₂.trans hmint₁, by omega,
      fun hcloser => hcloser₂ (hcloser₁ hcloser)⟩
  | increased id source target amount config account v₀ call change =>
    by_cases hthis : (e.signer, id) = key ∧ target = k
    · obtain ⟨rfl, rfl⟩ := hthis
      obtain rfl := Option.some.inj (change.paidIn.supplied.symm.trans ha)
      refine ⟨_, change.paidIn.credited hK.undelegated hsigner, rfl, rfl, ?_, fun hcloser =>
        hcloser⟩
      simp [call, VaultCall.paysInto, VaultCall.opening]
    · have hzero : e.call.paysInto e.signer s key k = 0 := by
        simp only [call, VaultCall.paysInto, VaultCall.opening, if_neg hthis]
      rw [hzero, add_zero]
      exact kept_of_untouched (change.paidIn.untouched hK.undelegated hsigner) ha howner hpos
  | extended id seconds config v₀ call change =>
    have hzero : e.call.paysInto e.signer s key k = 0 := by
      simp only [call, VaultCall.paysInto, VaultCall.opening]
    exact ⟨a, change.tokens ▸ ha, rfl, rfl, by omega, fun hcloser => hcloser⟩
  | closed key' source target config a₀ b₀ v₀ call change =>
    have hne : key ≠ key' := by
      rintro rfl
      rw [change.vaults, Function.update_self] at hv'
      cases hv'
    have hzero : e.call.paysInto e.signer s key k = 0 := by
      cases hc : e.call <;> simp [hc, ClosedBy] at call <;> rfl
    -- the swept account is another vault's, and the credited account nobody's
    have hsource : k ≠ source := by
      rintro rfl
      obtain rfl := Option.some.inj (change.swept.from_eq.symm.trans ha)
      exact hne (hdistinct key (hK.named key v hv).2.2.mem key'
        (hK.named key' v₀ change.found).2.2.mem
        (howner.symm.trans change.swept.owned))
    have htarget : k ≠ target := by
      rintro rfl
      obtain rfl := Option.some.inj (change.swept.into_eq.symm.trans ha)
      exact canSign_iff.mp hsigner (change.receiver_eq ▸ howner ▸ pda_vaultPda _ _)
    exact ⟨a, (change.swept.others k hsource htarget).trans ha, rfl, rfl, by omega,
      fun hcloser => hcloser⟩

lemma VaultChange.paid (h : VaultChange env e s s') (hundelegated : s.tokens.Undelegated env.Pda)
    (hsigner : env.CanSign e.signer) (hpaid : 0 < e.call.paysInto e.signer s key k) :
    (∃ a', s'.tokens k = some a' ∧ a'.owner = env.vaultPda key.1 key.2 ∧
      (∀ c : ArioConfig, s'.config = some c → a'.mint = c.mint) ∧
      e.call.paysInto e.signer s key k ≤ a'.amount) ∧
    (e.call.opening e.signer = none → ∃ v, s.vaults key = some v) := by
  -- the supplied account has the mint of the configuration
  have hmint : ∀ {s₁ config account source target amount}, s₁.tokens.Undelegated env.Pda →
      PaidIn env e.signer source target key amount s₁ s' config account →
      ∃ a', s'.tokens target = some a' ∧ a'.owner = env.vaultPda key.1 key.2 ∧
        (∀ c : ArioConfig, s'.config = some c → a'.mint = c.mint) ∧ amount ≤ a'.amount := by
    intro s₁ config account source target amount hundelegated₁ hpaidIn
    refine ⟨_, hpaidIn.credited hundelegated₁ hsigner, hpaidIn.owned, fun c hc => ?_,
      Nat.le_add_left _ _⟩
    obtain ⟨config', hlock, hconfig'⟩ := hpaidIn.locked
    obtain rfl := Option.some.inj (hconfig'.symm.trans hc)
    obtain ⟨-, -, rfl⟩ := lock_eq_ok.mp hlock
    exact hpaidIn.mint
  cases h with
  | quiet call still counts counters vaults tokens =>
    rw [paysInto_eq_zero call still] at hpaid
    exact absurd hpaid (lt_irrefl 0)
  | opened p t config account call before terms change =>
    by_cases hthis : p.key s = key ∧ p.vaultTokenAccount = k
    · have heq : e.call.paysInto e.signer s key k = p.amount := by
        simp only [VaultCall.paysInto, call, if_pos hthis]
      obtain ⟨rfl, rfl⟩ := hthis
      rw [heq]
      exact ⟨hmint before.undelegated change.paidIn,
        fun hnone => absurd (call.symm.trans hnone) (by simp)⟩
    · simp [VaultCall.paysInto, call, if_neg hthis] at hpaid
  | increased id source target amount config account v₀ call change =>
    by_cases hthis : (e.signer, id) = key ∧ target = k
    · have heq : e.call.paysInto e.signer s key k = amount := by
        simp only [call, VaultCall.paysInto, VaultCall.opening, if_pos hthis]
      obtain ⟨rfl, rfl⟩ := hthis
      rw [heq]
      exact ⟨hmint hundelegated change.paidIn, fun _ => ⟨v₀, change.found⟩⟩
    · simp [call, VaultCall.paysInto, VaultCall.opening, if_neg hthis] at hpaid
  | extended id seconds config v₀ call change =>
    simp [call, VaultCall.paysInto, VaultCall.opening] at hpaid
  | closed key' source target config a₀ b₀ v₀ call change =>
    cases hc : e.call <;> simp [hc, ClosedBy] at call <;>
      simp [hc, VaultCall.paysInto, VaultCall.opening] at hpaid

lemma VaultChange.opening_pos {p : Opening} (h : VaultChange env e s s')
    (hopening : e.call.opening e.signer = some p) : 0 < p.amount := by
  cases h with
  | quiet call still counts counters vaults tokens =>
    exact absurd (call.symm.trans hopening) (by simp)
  | opened p' t config account call before terms change =>
    obtain rfl := Option.some.inj (call.symm.trans hopening)
    exact change.positive
  | increased id source target amount config account v₀ call change =>
    exact absurd hopening (by simp [call, VaultCall.opening])
  | extended id seconds config v₀ call change =>
    exact absurd hopening (by simp [call, VaultCall.opening])
  | closed key' source target config a₀ b₀ v₀ call change =>
    cases hc : e.call <;> simp [hc, ClosedBy] at call <;> simp [hc, VaultCall.opening] at hopening

/-! ### Runs -/

lemma deposits_cons (x : Step VaultState VaultEvent) : deposits (x :: tr) key k
    = x.label.call.paysInto x.label.signer x.before key k + deposits tr key k := by
  rw [deposits, List.map_cons, List.sum_cons, deposits]

/-- A vault that was created earlier and is there now was there before the last step. -/
lemma VaultChange.alive_before (h : VaultChange env e s s') (hK : VaultsKept env tr s)
    (hcreated : key ∈ vaultsCreated tr) (hv' : s'.vaults key = some v') :
    ∃ v, s.vaults key = some v := by
  cases h with
  | quiet call still counts counters vaults tokens => exact ⟨v', vaults ▸ hv'⟩
  | opened p t config account call before terms change =>
    have hkey : key ≠ p.key { s with tokens := t } := by
      rintro rfl
      exact absurd (hK.used _ hcreated) (lt_irrefl _)
    rw [change.vaults, Function.update_of_ne hkey] at hv'
    exact ⟨v', hv'⟩
  | increased id source target amount config account v₀ call change =>
    by_cases hkey : key = (e.signer, id)
    · exact ⟨v₀, hkey ▸ change.found⟩
    · rw [change.vaults, Function.update_of_ne hkey] at hv'
      exact ⟨v', hv'⟩
  | extended id seconds config v₀ call change =>
    by_cases hkey : key = (e.signer, id)
    · exact ⟨v₀, hkey ▸ change.found⟩
    · rw [change.vaults, Function.update_of_ne hkey] at hv'
      exact ⟨v', hv'⟩
  | closed key' source target config a₀ b₀ v₀ call change =>
    by_cases hkey : key = key'
    · rw [hkey, change.vaults, Function.update_self] at hv'
      cases hv'
    · rw [change.vaults, Function.update_of_ne hkey] at hv'
      exact ⟨v', hv'⟩

lemma depositsKept_step (hD : DepositsKept env tr s) (hK : VaultsKept env tr s)
    (hdistinct : env.Distinct tr) (h : VaultStep env s e s') :
    DepositsKept env (⟨s, e, s'⟩ :: tr) s' := by
  have hsigner := signer_of_step h
  have hchange := vaultStep_change hK.undelegated h
  have hknown : ∀ key k, 0 < deposits (⟨s, e, s'⟩ :: tr) key k →
      key ∈ vaultsCreated (⟨s, e, s'⟩ :: tr) := by
    intro key k hpos
    have hmono : ∀ key ∈ vaultsCreated tr, key ∈ vaultsCreated (⟨s, e, s'⟩ :: tr) := by
      intro key hkey
      obtain ⟨x, hx, hc⟩ := List.mem_filterMap.mp hkey
      exact List.mem_filterMap.mpr ⟨x, List.mem_cons_of_mem _ hx, hc⟩
    by_cases hold : 0 < deposits tr key k
    · exact hmono key (hD.known key k hold)
    · rw [deposits_cons] at hpos
      have hpaid : 0 < e.call.paysInto e.signer s key k := by
        simp only at hpos
        omega
      cases hopening : e.call.opening e.signer with
      | none =>
        obtain ⟨v, hv⟩ := (hchange.paid hK.undelegated hsigner hpaid).2 hopening
        exact hmono key (hK.named key v hv).2.2.mem
      | some p =>
        rw [vaultsCreated_cons_some hopening]
        by_cases hthis : p.key s = key ∧ p.vaultTokenAccount = k
        · exact List.mem_cons.mpr (.inl hthis.1.symm)
        · simp [VaultCall.paysInto, hopening, if_neg hthis] at hpaid
  refine ⟨hknown, fun key v' k hv' hpos => ?_⟩
  by_cases hold : 0 < deposits tr key k
  · -- the account was paid into before
    obtain ⟨v, hv⟩ := hchange.alive_before hK (hD.known key k hold) hv'
    obtain ⟨a, ha, howner, hmint, hle⟩ := hD.kept key v k hv hold
    obtain ⟨a', ha', howner', hmint', hle', -⟩ :=
      hchange.accountKept hK hdistinct hsigner hv hv' ha howner (by omega)
    refine ⟨a', ha', howner'.trans howner, fun c hc => ?_, ?_⟩
    · cases hconfig : s.config with
      | none =>
        rw [hK.bare hconfig] at hv
        cases hv
      | some c₀ =>
        obtain ⟨c', hc', hmint₀, -⟩ := hchange.fixed hconfig
        obtain rfl := Option.some.inj (hc'.symm.trans hc)
        rw [hmint', hmint c₀ hconfig, hmint₀]
    · rw [deposits_cons]
      simp only
      omega
  · rw [deposits_cons] at hpos ⊢
    simp only at hpos ⊢
    have hpaid : 0 < e.call.paysInto e.signer s key k := by omega
    obtain ⟨⟨a', ha', howner, hmint, hle⟩, -⟩ := hchange.paid hK.undelegated hsigner hpaid
    exact ⟨a', ha', howner, hmint, by omega⟩

lemma depositsKept_run (hfresh : FreshVaults env s₀) (run : Run (VaultStep env) s₀ tr s)
    (hdistinct : env.Distinct tr) : DepositsKept env tr s := by
  induction run with
  | nil =>
    refine ⟨fun key k hpos => absurd hpos (by simp [deposits]), fun key v k hv => ?_⟩
    rw [hfresh.vaults] at hv
    cases hv
  | cons run last ih =>
    have htail := hdistinct.mono (List.subset_cons_self _ _)
    exact depositsKept_step (ih htail) (vaultsKept_run hfresh run htail) htail last

lemma deposits_pos {x : Step VaultState VaultEvent} {p : Opening} (hx : x ∈ tr)
    (hopening : x.label.call.opening x.label.signer = some p) (hpositive : 0 < p.amount) :
    0 < deposits tr (p.key x.before) p.vaultTokenAccount := by
  have hmem : p.amount ∈ tr.map fun y =>
      y.label.call.paysInto y.label.signer y.before (p.key x.before) p.vaultTokenAccount :=
    List.mem_map.mpr ⟨x, hx, by simp [VaultCall.paysInto, hopening]⟩
  exact hpositive.trans_le (List.single_le_sum (by simp) _ hmem)

/-- The vault's address stays the close authority of an account that was paid into. -/
lemma closedByVault_run (hfresh : FreshVaults env s₀) (run : Run (VaultStep env) s₀ tr s)
    (hdistinct : env.Distinct tr) {x : Step VaultState VaultEvent} {p : Opening} (hx : x ∈ tr)
    (hopening : x.label.call.opening x.label.signer = some p)
    (hcreation : ClosedByVault env x.before (p.key x.before) p.vaultTokenAccount)
    (hv : s.vaults (p.key x.before) = some v) :
    ClosedByVault env s (p.key x.before) p.vaultTokenAccount := by
  induction run generalizing v with
  | nil => cases hx
  | @cons tr s i s' run last ih =>
    have htail := hdistinct.mono (List.subset_cons_self _ _)
    have hK := vaultsKept_run hfresh run htail
    have hchange := vaultStep_change hK.undelegated last
    have hsigner := signer_of_step last
    rcases List.mem_cons.mp hx with rfl | hx
    · -- the step that creates the vault
      obtain ⟨a, ha, hcloser⟩ := hcreation
      cases hchange with
      | quiet call still counts counters vaults tokens =>
        exact absurd (call.symm.trans hopening) (by simp)
      | opened p' t config account call before terms change =>
        obtain rfl := Option.some.inj (call.symm.trans hopening)
        obtain ⟨a', ha', howner, hauth⟩ := terms _ a ha
        obtain rfl := Option.some.inj (change.paidIn.supplied.symm.trans ha')
        refine ⟨_, change.paidIn.credited before.undelegated hsigner, ?_⟩
        rw [SplAccount.closer, howner, hauth]
        exact hcloser
      | increased id source target amount config account v₀ call change =>
        exact absurd hopening (by simp [call, VaultCall.opening])
      | extended id seconds config v₀ call change =>
        exact absurd hopening (by simp [call, VaultCall.opening])
      | closed key' source target config a₀ b₀ v₀ call change =>
        cases hc : i.call <;> simp [hc, ClosedBy] at call <;>
          simp [hc, VaultCall.opening] at hopening
    · obtain ⟨tr', -, -, hcreate, -⟩ := vaultsKept_before hfresh run htail hx
      have hpositive : 0 < p.amount := hcreate.opening_pos hopening
      have hmem : p.key x.before ∈ vaultsCreated tr :=
        List.mem_filterMap.mpr ⟨x, hx, by rw [created, hopening, Option.map_some]⟩
      obtain ⟨v₀, hv₀⟩ := hchange.alive_before hK hmem hv
      obtain ⟨a, ha, hcloser⟩ := ih htail hx hv₀
      obtain ⟨a₁, ha₁, howner, -, hle⟩ := (depositsKept_run hfresh run htail).kept _ v₀
        p.vaultTokenAccount hv₀ (deposits_pos hx hopening hpositive)
      obtain rfl := Option.some.inj (ha₁.symm.trans ha)
      have hfull := deposits_pos hx hopening hpositive
      obtain ⟨a', ha', -, -, -, hclosed⟩ :=
        hchange.accountKept hK htail hsigner hv₀ hv ha howner (by omega)
      exact ⟨a', ha', hclosed hcloser⟩

/-! ### The release -/

/-- What a release needs of the configuration: the mint of the account that was paid into, and
counters that can give the amount back. -/
structure ArioConfig.Repays (config : ArioConfig) (v : Vault) (mint : Pubkey) : Prop where
  mint_eq : mint = config.mint
  locked : v.amount ≤ config.lockedSupply
  room : config.circulatingSupply + v.amount < 2 ^ 64

/-- A release succeeds if the vault's address can close the account and the configuration can give
the amount back. -/
lemma releaseVault_succeeds (hundelegated : s.tokens.Undelegated env.Pda)
    (hsupply : s.tokens.supply config.mint < 2 ^ 64) {now : ℤ} (hconfig : s.config = some config)
    (hv : s.vaults key = some v) (hnamed : v.owner = key.1 ∧ v.vaultId = key.2)
    (htime : v.endTimestamp ≤ now) (hsigner : env.CanSign key.1)
    (ha : s.tokens source = some a) (haowner : a.owner = env.vaultPda key.1 key.2)
    (hrepays : config.Repays v a.mint) (hcloser : a.closer = env.vaultPda key.1 key.2)
    (hb : s.tokens target = some b) (hbowner : b.owner = key.1) (hbmint : b.mint = config.mint) :
    ∃ s', VaultStep env s ⟨now, key.1, .releaseVault key.2 source target⟩ s' ∧
      s'.tokens target = some { b with amount := b.amount + a.amount } := by
  obtain ⟨howner, hid⟩ := hnamed
  obtain ⟨hamint, hlocked, hroom⟩ := hrepays
  have hne : source ≠ target := by
    rintro rfl
    obtain rfl := Option.some.inj (ha.symm.trans hb)
    exact canSign_iff.mp hsigner (hbowner ▸ haowner ▸ pda_vaultPda _ _)
  have hdelegate := hundelegated source a ha (haowner ▸ pda_vaultPda _ _)
  have hfits := Ledger.amount_add_le_supply hne ha hb hamint hbmint
  -- the transfer and the close of the account
  obtain ⟨t₁, ht₁⟩ := Ledger.transfer_succeeds ha hb (le_refl a.amount)
    (hamint.trans hbmint.symm) hdelegate (by omega)
  obtain ⟨src, dst, hmoved⟩ := Ledger.transfer_ok ht₁
  obtain rfl := Option.some.inj (ha.symm.trans hmoved.source_eq)
  obtain rfl := Option.some.inj (hb.symm.trans hmoved.destination_eq)
  obtain ⟨d, n, -, hdebit⟩ := hmoved.debited hne
  have ht₂ : t₁.closeAccount source a.owner = .ok (Function.update t₁ source none) := by
    exact Ledger.closeAccount_eq_ok.mpr
      ⟨_, hdebit, Nat.sub_self _, haowner.trans hcloser.symm, rfl⟩
  obtain ⟨config', hunlock⟩ : ∃ config', config.unlock v.amount = .ok config' :=
    ⟨_, unlock_eq_ok.mpr ⟨hlocked, hroom, rfl⟩⟩
  refine ⟨{ s with
    config := some config'
    vaults := Function.update s.vaults (v.owner, v.vaultId) none
    tokens := Function.update t₁ source none }, ?_, ?_⟩
  · have hloaded : loadVault s key.1 key.2 = .ok v := loadVault_eq_ok.mpr ⟨hv, howner, hid⟩
    have hsource : checkTokenAccount s source (env.vaultPda key.1 key.2) config.mint
        .invalidAccountState = .ok a := checkTokenAccount_eq_ok.mpr ⟨ha, haowner, hamint⟩
    have htarget : checkTokenAccount s target key.1 config.mint .constraintRaw = .ok b :=
      checkTokenAccount_eq_ok.mpr ⟨hb, hbowner, hbmint⟩
    have hunlocked : v.isUnlocked now = true := by simpa [Vault.isUnlocked] using htime
    rw [haowner] at ht₁ ht₂
    simp only [VaultStep, VaultEvent.exec, VaultCall.handler, releaseVault, loadConfig, hconfig,
      releaseTimeCheck, okOr_some, ok_bind, hloaded, hsource, htarget, require_of hunlocked]
    rw [require_of ⟨hsigner, trivial⟩]
    simp only [ok_bind, payOut, howner, hid, ht₁, ht₂, hunlock, viaToken, Except.mapError]
    rfl
  · simp only
    rw [Function.update_of_ne hne.symm, hmoved.credited hne]

lemma VaultsKept.repays (hK : VaultsKept env tr s) (hD : DepositsKept env tr s)
    (hv : s.vaults key = some v) (hpos : 0 < deposits tr key source)
    (hconfig : s.config = some config)
    (ha : s.tokens source = some a) : config.Repays v a.mint := by
  obtain ⟨a', ha', -, hmint, -⟩ := hD.kept key v source hv hpos
  obtain rfl := Option.some.inj (ha.symm.trans ha')
  obtain ⟨hlocked, hsum, hlt⟩ := hK.counts config hconfig
  have hle := amount_le_lockedIn hv
  exact ⟨hmint config hconfig, by omega, by omega⟩

/-- A release from an account that was paid into, whatever the configuration is by then: exactly if
the vault's address can close the account and the configuration can give the amount back. -/
lemma releases_iff (hK : VaultsKept env tr s) (hD : DepositsKept env tr s) {now : ℤ}
    (hv : s.vaults key = some v) (hpos : 0 < deposits tr key source)
    (htime : v.endTimestamp ≤ now) (hsigner : env.CanSign v.owner)
    (hb : s.tokens target = some b) (hbowner : b.owner = v.owner) (hbmint : b.mint = config.mint) :
    Releases env tr { s with config := some config } v now source target ↔
      ClosedByVault env s key source ∧ ∃ a, s.tokens source = some a ∧ config.Repays v a.mint := by
  obtain ⟨howner, hid, -⟩ := hK.named key v hv
  obtain ⟨a, ha, haowner, -, hle⟩ := hD.kept key v source hv hpos
  have hkey : (v.owner, v.vaultId) = key := by rw [howner, hid]
  rw [Releases, hkey]
  constructor
  · rintro ⟨s', hstep, -⟩
    obtain ⟨config', a', b', v', hclosed, -⟩ :=
      closed_of_closing (s := { s with config := some config }) hK.undelegated hstep rfl
    obtain rfl : config = config' := Option.some.inj hclosed.head
    obtain rfl : v = v' := by
      have hfound : s.vaults (v.owner, v.vaultId) = some v' := hclosed.found
      rw [hkey, hv] at hfound
      exact Option.some.inj hfound
    obtain ⟨_, hunlock, -⟩ := hclosed.unlocked
    obtain ⟨hlocked, hroom, -⟩ := unlock_eq_ok.mp hunlock
    exact ⟨⟨a', hclosed.swept.from_eq, hclosed.swept.closer.trans (by rw [← hkey])⟩, a',
      hclosed.swept.from_eq, hclosed.mint, hlocked, hroom⟩
  · rintro ⟨⟨a', ha', hcloser⟩, a'', ha'', hrepays⟩
    obtain rfl := Option.some.inj (ha.symm.trans ha')
    obtain rfl := Option.some.inj (ha.symm.trans ha'')
    rw [howner] at hsigner hbowner ⊢
    rw [hid]
    obtain ⟨s', hstep, htarget⟩ := releaseVault_succeeds (s := { s with config := some config })
      hK.undelegated (hK.supply _) rfl hv ⟨howner, hid⟩ htime hsigner ha haowner hrepays hcloser hb
      hbowner hbmint
    refine ⟨s', hstep, ?_⟩
    simp only [Ledger.balance]
    rw [hb, htarget]
    exact Nat.add_le_add_left hle _

end

/-- **A vault is released from the account of its deposit** exactly if the vault's address is that
account's close authority, and it is if it was when the vault was created. Should the counters or
the mint of the configuration be set anew by then, a release needs in addition that the mint is the
account's and that the counters can give the amount back. -/
theorem release_exact {env : VaultEnv} {s₀ s : VaultState} {tr : VaultTrace}
    {x : Step VaultState VaultEvent} {p : Opening} {v : Vault} {now : ℤ} {target : Pubkey}
    {c : ArioConfig} {b : SplAccount} (hfresh : FreshVaults env s₀)
    (run : Run (VaultStep env) s₀ tr s) (hdistinct : env.Distinct tr) (hx : x ∈ tr)
    (hopening : x.label.call.opening x.label.signer = some p)
    (hv : s.vaults (p.key x.before) = some v) (htime : v.endTimestamp ≤ now)
    (hsigner : env.CanSign v.owner) (hconfig : s.config = some c)
    (hb : s.tokens target = some b) (hbowner : b.owner = v.owner) :
    (b.mint = c.mint → (Releases env tr s v now p.vaultTokenAccount target ↔
      ClosedByVault env s (p.key x.before) p.vaultTokenAccount)) ∧
    (b.mint = c.mint → ClosedByVault env x.before (p.key x.before) p.vaultTokenAccount →
      Releases env tr s v now p.vaultTokenAccount target) ∧
    ∀ c' : ArioConfig, b.mint = c'.mint →
      (Releases env tr { s with config := some c' } v now p.vaultTokenAccount target ↔
        ClosedByVault env s (p.key x.before) p.vaultTokenAccount ∧
        ∃ a, s.tokens p.vaultTokenAccount = some a ∧ c'.Repays v a.mint) := by
  have hK := vaultsKept_run hfresh run hdistinct
  have hD := depositsKept_run hfresh run hdistinct
  obtain ⟨tr', -, -, hcreate, -⟩ := vaultsKept_before hfresh run hdistinct hx
  have hpos := deposits_pos hx hopening (hcreate.opening_pos hopening)
  have hany := fun (c' : ArioConfig) (hbmint : b.mint = c'.mint) =>
    releases_iff hK hD hv hpos htime hsigner hb hbowner hbmint
  have hsame : { s with config := some c } = s := by rw [← hconfig]
  have hiff : b.mint = c.mint → (Releases env tr s v now p.vaultTokenAccount target ↔
      ClosedByVault env s (p.key x.before) p.vaultTokenAccount) := by
    intro hbmint
    have h := hany c hbmint
    rw [hsame] at h
    refine h.trans (and_iff_left_of_imp fun hclosed => ?_)
    obtain ⟨a, ha, -⟩ := hclosed
    exact ⟨a, ha, hK.repays hD hv hpos hconfig ha⟩
  exact ⟨hiff, fun hbmint h =>
    (hiff hbmint).mpr (closedByVault_run hfresh run hdistinct hx hopening h hv), hany⟩

namespace SmallVaults

/-- Alice keeps the right to close an account that she hands to bob's vault, and locks five tokens
in it for him. Bob has an account to be paid into. -/
def foreign : List VaultEvent :=
  [signed 1000 alice (.vaultedTransfer bob ⟨41⟩ ⟨53⟩ 500000000 1728000 false),
    signed 1000 alice (.spl (.setOwner ⟨53⟩ (env.vaultPda bob 0))),
    signed 1000 alice (.spl (.setCloseAuthority ⟨53⟩ (some alice))),
    signed 1000 alice (.spl (.initializeAccount ⟨53⟩ mint alice)),
    signed 1000 bob (.spl (.initializeAccount ⟨61⟩ mint bob)),
    signed 1000 bob (.initializeCore mint params)]

def foreignScript : Script := ⟨foreign, by decide +kernel, by decide +kernel⟩

def lockedScript : Script := ⟨locked, by decide +kernel, by decide +kernel⟩

/-- The vault that alice created for herself. -/
def own : Vault := ⟨alice, 0, 500000000, 1000, 1729000, none, false⟩

/-- The vault that alice created for bob. -/
def given : Vault := ⟨bob, 0, 500000000, 1000, 1729000, none, false⟩

def configured : ArioConfig :=
  ⟨bob, mint, 3000000000, 0, 2500000000, 500000000, 1209600, 6307200000, 604800⟩

end SmallVaults

open SmallVaults in
theorem release_exact_small :
    Releases env (history locked) (after locked) own 1729000 ⟨51⟩ ⟨41⟩ :=
  (release_exact (x := ⟨after locked.tail, signed 1000 alice
      (.createVault ⟨41⟩ ⟨51⟩ 500000000 1728000), after locked⟩)
    (p := ⟨alice, ⟨41⟩, ⟨51⟩, 500000000, 1728000, none, false⟩) (c := configured)
    (b := ⟨mint, alice, 2500000000, none, 0, none⟩) start_fresh lockedScript.run
    lockedScript.distinct List.mem_cons_self rfl (by decide +kernel) (by decide) (by decide +kernel)
    (by decide +kernel) (by decide +kernel) rfl).2.1 rfl
    ⟨⟨mint, pda, 0, none, 0, none⟩, by decide +kernel, by decide +kernel⟩

open SmallVaults in
/-- With a foreign close authority the release fails although the time has come. -/
theorem release_blocked : ¬ ∀ (env : VaultEnv) (s₀ s : VaultState) (tr : VaultTrace)
    (x : Step VaultState VaultEvent) (p : Opening) (v : Vault) (now : ℤ) (target : Pubkey)
    (config : ArioConfig) (b : SplAccount), FreshVaults env s₀ → Run (VaultStep env) s₀ tr s →
    env.Distinct tr → x ∈ tr → x.label.call.opening x.label.signer = some p →
    s.vaults (p.key x.before) = some v → v.endTimestamp ≤ now → env.CanSign v.owner →
    s.config = some config → s.tokens target = some b → b.owner = v.owner →
    b.mint = config.mint → Releases env tr s v now p.vaultTokenAccount target := by
  intro h
  have hreleases := h env start (after foreign) (history foreign)
    ⟨after foreign.tail, signed 1000 alice
      (.vaultedTransfer bob ⟨41⟩ ⟨53⟩ 500000000 1728000 false), after foreign⟩
    ⟨bob, ⟨41⟩, ⟨53⟩, 500000000, 1728000, none, false⟩ given 1729000 ⟨61⟩ configured
    ⟨mint, bob, 0, none, 0, none⟩ start_fresh foreignScript.run foreignScript.distinct
    List.mem_cons_self rfl (by decide +kernel) (by decide) (by decide +kernel) (by decide +kernel)
    (by decide +kernel) rfl rfl
  obtain ⟨s', hstep, -⟩ := hreleases
  have hfails : (VaultEvent.exec env (after foreign)
      ⟨1729000, bob, .releaseVault 0 ⟨53⟩ ⟨61⟩⟩).isOk = false := by decide +kernel
  have hok : VaultEvent.exec env (after foreign) ⟨1729000, bob, .releaseVault 0 ⟨53⟩ ⟨61⟩⟩ = .ok
    s' :=
    hstep
  rw [hok] at hfails
  cases hfails

end Core
end ArioSolana
