import ArioSolana.CoreVaultBooks

/-!
# Rules of the vaults

What every run of vault calls keeps to: the counts, the ids, the ends, and who closes a vault. The
two time tests of a close exclude each other; extending and increasing are still allowed at the very
instant at which the release opens, and change nothing about that. -/

namespace ArioSolana
namespace Core

open Checked Solana

/-- **What a run's vaults keep to.** -/
structure VaultRules (tr : VaultTrace) (env : VaultEnv) (s : VaultState) : Prop where
  /-- the locked supply is what the vaults have -/
  locked : ∀ c : ArioConfig, s.config = some c → (c.lockedSupply : ℤ) = lockedIn s.vaults
  /-- locked and circulating supply together stay what they were after any step -/
  constant : ∀ x ∈ tr, ∀ c₀ : ArioConfig, x.after.config = some c₀ → ∃ c, s.config = some c ∧
    c.circulatingSupply + c.lockedSupply = c₀.circulatingSupply + c₀.lockedSupply
  /-- an owner's ids are not used again -/
  ids : (vaultsCreated tr).Nodup
  /-- the accounts of a vault's address hold its amount -/
  covered : ∀ c : ArioConfig, ∀ key v, s.config = some c → s.vaults key = some v →
    (v.amount : ℤ) ≤ s.tokens.holdings c.mint (env.vaultPda v.owner v.vaultId)
  /-- an end never decreases, and is bounded when it is set -/
  ends : ∀ x ∈ tr, ∀ key v', x.after.vaults key = some v' →
    (∀ v, x.before.vaults key = some v → v.endTimestamp ≤ v'.endTimestamp) ∧
    ((x.before.vaults key).map (·.endTimestamp) ≠ some v'.endTimestamp →
      ∃ c, x.before.config = some c ∧ v'.endTimestamp ≤ x.label.now + c.maxVaultDuration)
  /-- before its end a vault is closed by its controller, if it was created revocable, and from
  then on by its owner -/
  closes : ∀ x ∈ tr, ∀ key v, x.before.vaults key = some v → x.after.vaults key = none →
    CreatedAs tr key v ∧
    (x.label.now < v.endTimestamp → v.revocable = true ∧ v.controller = some x.label.signer) ∧
    (v.endTimestamp ≤ x.label.now → x.label.signer = v.owner)
  /-- one of the two time checks passes -/
  times : ∀ (v : Vault) (now : ℤ),
    Xor (releaseTimeCheck v now = .ok ()) (revokeTimeCheck v now = .ok ())

section

variable {env : VaultEnv} {s s' s₀ : VaultState} {tr : VaultTrace} {e : VaultEvent}
  {key : Pubkey × VaultId} {v v' : Vault}

/-! ### One step -/

lemma VaultChange.ends (h : VaultChange env e s s') (hv' : s'.vaults key = some v') :
    (∀ v, s.vaults key = some v → v.endTimestamp ≤ v'.endTimestamp) ∧
    ((s.vaults key).map (·.endTimestamp) ≠ some v'.endTimestamp →
      ∃ c, s.config = some c ∧ v'.endTimestamp ≤ e.now + c.maxVaultDuration) := by
  -- a vault that was not written is the one before
  have hsame : s.vaults key = some v' →
      (∀ v, s.vaults key = some v → v.endTimestamp ≤ v'.endTimestamp) ∧
      ((s.vaults key).map (·.endTimestamp) ≠ some v'.endTimestamp →
        ∃ c, s.config = some c ∧ v'.endTimestamp ≤ e.now + c.maxVaultDuration) := by
    intro hv
    refine ⟨fun v₀ hv₀ => ?_, fun hne => absurd (by rw [hv, Option.map_some]) hne⟩
    rw [hv] at hv₀
    exact (Option.some.inj hv₀) ▸ le_rfl
  cases h with
  | quiet call still counts counters vaults tokens => exact hsame (vaults ▸ hv')
  | opened p t config account call before terms change =>
    rw [change.vaults] at hv'
    by_cases hkey : key = p.key s
    · subst hkey
      have hfresh : s.vaults (p.key s) = none := change.fresh
      rw [show p.key { s with tokens := t } = p.key s from rfl, Function.update_self] at hv'
      obtain rfl := Option.some.inj hv'
      refine ⟨fun v₀ hv₀ => ?_, fun _ => ⟨config, change.paidIn.head, ?_⟩⟩
      · rw [hfresh] at hv₀
        cases hv₀
      · have hmax := change.bounds.2
        simp only [Opening.vault]
        omega
    · rw [show p.key { s with tokens := t } = p.key s from rfl, Function.update_of_ne hkey] at hv'
      exact hsame hv'
  | increased id source target amount config account v call change =>
    rw [change.vaults] at hv'
    by_cases hkey : key = (e.signer, id)
    · subst hkey
      rw [Function.update_self] at hv'
      obtain rfl := Option.some.inj hv'
      rw [change.found]
      exact ⟨fun v₀ hv₀ => (Option.some.inj hv₀) ▸ le_rfl, fun hne => absurd rfl hne⟩
    · rw [Function.update_of_ne hkey] at hv'
      exact hsame hv'
  | extended id seconds config v call change =>
    rw [change.vaults] at hv'
    by_cases hkey : key = (e.signer, id)
    · subst hkey
      rw [Function.update_self] at hv'
      obtain rfl := Option.some.inj hv'
      have hpos := change.positive
      refine ⟨fun v₀ hv₀ => ?_, fun _ => ⟨config, change.head, change.bounded⟩⟩
      rw [change.found] at hv₀
      obtain rfl := Option.some.inj hv₀
      simp only
      omega
    · rw [Function.update_of_ne hkey] at hv'
      exact hsame hv'
  | closed key' source target config a b v call change =>
    rw [change.vaults] at hv'
    by_cases hkey : key = key'
    · subst hkey
      rw [Function.update_self] at hv'
      cases hv'
    · rw [Function.update_of_ne hkey] at hv'
      exact hsame hv'

lemma VaultChange.closedBy (h : VaultChange env e s s') (hv : s.vaults key = some v)
    (hnone : s'.vaults key = none) : ClosedBy e.now e.signer key v e.call := by
  cases h with
  | quiet call still counts counters vaults tokens =>
    rw [vaults, hv] at hnone
    cases hnone
  | opened p t config account call before terms change =>
    rw [change.vaults] at hnone
    by_cases hkey : key = p.key { s with tokens := t }
    · rw [hkey, Function.update_self] at hnone
      cases hnone
    · rw [Function.update_of_ne hkey] at hnone
      exact absurd (hv.symm.trans hnone) (by simp)
  | increased id source target amount config account v call change =>
    rw [change.vaults] at hnone
    by_cases hkey : key = (e.signer, id)
    · rw [hkey, Function.update_self] at hnone
      cases hnone
    · rw [Function.update_of_ne hkey, hv] at hnone
      cases hnone
  | extended id seconds config v call change =>
    rw [change.vaults] at hnone
    by_cases hkey : key = (e.signer, id)
    · rw [hkey, Function.update_self] at hnone
      cases hnone
    · rw [Function.update_of_ne hkey, hv] at hnone
      cases hnone
  | closed key' source target config a b v₀ call change =>
    rw [change.vaults] at hnone
    by_cases hkey : key = key'
    · subst hkey
      obtain rfl := Option.some.inj (hv.symm.trans change.found)
      exact call
    · rw [Function.update_of_ne hkey, hv] at hnone
      cases hnone

lemma ClosedBy.who {call : VaultCall} {now : ℤ} {signer : Pubkey}
    (h : ClosedBy now signer key v call) :
    (now < v.endTimestamp → v.revocable = true ∧ v.controller = some signer) ∧
    (v.endTimestamp ≤ now → signer = key.1) := by
  cases call with
  | revokeVault owner id source target =>
    obtain ⟨-, hrevocable, hcontroller, htime⟩ := h
    have hearly : ¬v.endTimestamp ≤ now := by simpa [Vault.isUnlocked] using htime
    exact ⟨fun _ => ⟨hrevocable, hcontroller⟩, fun hle => absurd hle hearly⟩
  | releaseVault id source target =>
    obtain ⟨rfl, htime⟩ := h
    have hlate : v.endTimestamp ≤ now := by simpa [Vault.isUnlocked] using htime
    exact ⟨fun hlt => absurd hlate (not_le.mpr hlt), fun _ => rfl⟩
  | _ => exact absurd h id

lemma VaultChange.fixed {c₀ : ArioConfig} (h : VaultChange env e s s') (hc₀ : s.config = some c₀) :
    ∃ c, s'.config = some c ∧ c.mint = c₀.mint ∧ c.totalSupply = c₀.totalSupply := by
  cases h with
  | quiet call still counts counters vaults tokens =>
    rcases counts with hsame | ⟨hnone, -⟩ | ⟨c, c', hc, hc', hmint, -, -, htotal⟩
    · exact ⟨c₀, hsame.trans hc₀, rfl, rfl⟩
    · rw [hc₀] at hnone
      cases hnone
    · obtain rfl := Option.some.inj (hc₀.symm.trans hc)
      exact ⟨c', hc', hmint, htotal⟩
  | opened p t config account call before terms change =>
    obtain ⟨config', hlock, hconfig'⟩ := change.paidIn.locked
    obtain rfl := Option.some.inj (hc₀.symm.trans change.paidIn.head)
    obtain ⟨-, -, rfl⟩ := lock_eq_ok.mp hlock
    exact ⟨_, hconfig', rfl, rfl⟩
  | increased id source target amount config account v call change =>
    obtain ⟨config', hlock, hconfig'⟩ := change.paidIn.locked
    obtain rfl := Option.some.inj (hc₀.symm.trans change.paidIn.head)
    obtain ⟨-, -, rfl⟩ := lock_eq_ok.mp hlock
    exact ⟨_, hconfig', rfl, rfl⟩
  | extended id seconds config v call change =>
    exact ⟨c₀, change.config_eq.trans hc₀, rfl, rfl⟩
  | closed key' source target config a b v call change =>
    obtain ⟨config', hunlock, hconfig'⟩ := change.unlocked
    obtain rfl := Option.some.inj (hc₀.symm.trans change.head)
    obtain ⟨-, -, rfl⟩ := unlock_eq_ok.mp hunlock
    exact ⟨_, hconfig', rfl, rfl⟩

/-! ### Runs -/

lemma CreatedAs.mono {tr' : VaultTrace} (h : CreatedAs tr' key v) (hsub : tr' ⊆ tr) :
    CreatedAs tr key v := by
  obtain ⟨x, hx, h⟩ := h
  exact ⟨x, hsub hx, h⟩

lemma vaultsKept_before (hfresh : FreshVaults env s₀) (run : Run (VaultStep env) s₀ tr s)
    (hdistinct : env.Distinct tr) {x : Step VaultState VaultEvent} (hx : x ∈ tr) :
    ∃ tr', tr' ⊆ tr ∧ VaultsKept env tr' x.before ∧ VaultChange env x.label x.before x.after ∧
      VaultsKept env (x :: tr') x.after := by
  obtain ⟨tr', run', step, hsuf⟩ := run.of_mem hx
  have hsub : tr' ⊆ tr := fun y hy => hsuf.subset (List.mem_cons_of_mem _ hy)
  have hK := vaultsKept_run hfresh run' (hdistinct.mono hsub)
  exact ⟨tr', hsub, hK, vaultStep_change hK.undelegated step,
    vaultsKept_step hK (hdistinct.mono hsub) step⟩

lemma totalSupply_run (hfresh : FreshVaults env s₀) (run : Run (VaultStep env) s₀ tr s)
    (hdistinct : env.Distinct tr) {x : Step VaultState VaultEvent} (hx : x ∈ tr) {c₀ : ArioConfig}
    (hc₀ : x.after.config = some c₀) : ∃ c, s.config = some c ∧ c.totalSupply = c₀.totalSupply := by
  induction run with
  | nil => cases hx
  | @cons tr s i s' run last ih =>
    have htail := hdistinct.mono (List.subset_cons_self _ _)
    rcases List.mem_cons.mp hx with rfl | hx
    · exact ⟨c₀, hc₀, rfl⟩
    · obtain ⟨c, hc, htotal⟩ := ih htail hx
      have hK := vaultsKept_run hfresh run htail
      obtain ⟨c', hc', -, htotal'⟩ := (vaultStep_change hK.undelegated last).fixed hc
      exact ⟨c', hc', htotal'.trans htotal⟩

lemma times_exclusive (v : Vault) (now : ℤ) :
    Xor (releaseTimeCheck v now = .ok ()) (revokeTimeCheck v now = .ok ()) := by
  simp only [releaseTimeCheck, revokeTimeCheck, require_eq_ok]
  cases v.isUnlocked now <;> simp [Xor]

/-- **The vaults of every run keep to the rules**, if no two of its vaults have one address. -/
theorem vault_rules (hfresh : FreshVaults env s₀) (run : Run (VaultStep env) s₀ tr s)
    (hdistinct : env.Distinct tr) : VaultRules tr env s := by
  have hK := vaultsKept_run hfresh run hdistinct
  refine ⟨fun c hc => (hK.counts c hc).1, fun x hx c₀ hc₀ => ?_, hK.nodup,
    fun c key v hc hv => ?_, fun x hx key v' hv' => ?_, fun x hx key v hv hnone => ?_,
    times_exclusive⟩
  · obtain ⟨c, hc, htotal⟩ := totalSupply_run hfresh run hdistinct hx hc₀
    obtain ⟨tr', -, -, -, hafter⟩ := vaultsKept_before hfresh run hdistinct hx
    obtain ⟨-, hsum, -⟩ := hK.counts c hc
    obtain ⟨-, hsum₀, -⟩ := hafter.counts c₀ hc₀
    exact ⟨c, hc, by rw [hsum, hsum₀, htotal]⟩
  · obtain ⟨howner, hid, -⟩ := hK.named key v hv
    rw [howner, hid]
    exact hK.covered c key v hc hv
  · obtain ⟨tr', -, -, hchange, -⟩ := vaultsKept_before hfresh run hdistinct hx
    exact hchange.ends hv'
  · obtain ⟨tr', hsub, hbefore, hchange, -⟩ := vaultsKept_before hfresh run hdistinct hx
    obtain ⟨howner, -, hcreated⟩ := hbefore.named key v hv
    obtain ⟨hcontroller, hlate⟩ := (hchange.closedBy hv hnone).who
    exact ⟨hcreated.mono hsub, hcontroller, fun hle => (hlate hle).trans howner.symm⟩

end

/-! ### A small chain -/

namespace SmallVaults

/-- The upper half of the keys, from one number for owner and id. -/
def vaultPda (owner : Pubkey) (id : VaultId) : Pubkey :=
  ⟨Fin.ofNat (2 ^ 256) (2 ^ 255 + owner.bytes.val % 2 ^ 64 * 2 ^ 64 + id.val)⟩

def isVaultPda (k : Pubkey) : Bool := 2 ^ 255 ≤ k.bytes.val ∧ k.bytes.val < 2 ^ 255 + 2 ^ 128

lemma isVaultPda_iff (k : Pubkey) : isVaultPda k = true ↔ ∃ owner id, k = vaultPda owner id := by
  simp only [isVaultPda, decide_eq_true_eq]
  constructor
  · rintro ⟨hlow, hhigh⟩
    have hid : (k.bytes.val - 2 ^ 255) % 2 ^ 64 < 2 ^ 64 := Nat.mod_lt _ (by norm_num)
    refine ⟨⟨Fin.ofNat (2 ^ 256) ((k.bytes.val - 2 ^ 255) / 2 ^ 64)⟩, ⟨_, hid⟩, ?_⟩
    obtain ⟨k⟩ := k
    simp only [vaultPda, Pubkey.mk.injEq, Fin.ext_iff, Fin.val_ofNat] at *
    omega
  · rintro ⟨owner, id, rfl⟩
    have hid := id.isLt
    simp only [vaultPda, Fin.val_ofNat]
    omega

def env : VaultEnv := ⟨vaultPda, isVaultPda, isVaultPda_iff⟩

def mint : Pubkey := ⟨11⟩

def alice : Pubkey := ⟨21⟩

def bob : Pubkey := ⟨22⟩

/-- The address of alice's first vault. -/
def pda : Pubkey := env.vaultPda alice 0

/-- Nothing but an account of alice. -/
def tokens : Ledger :=
  Function.update (fun _ => none) ⟨41⟩ (some ⟨mint, alice, 3000000000, none, 0, none⟩)

def start : VaultState := ⟨none, fun _ => none, fun _ => none, tokens⟩

lemma start_fresh : FreshVaults env start := by
  have htokens : start.tokens = tokens := rfl
  refine ⟨rfl, rfl, rfl, fun k a ha _ => ?_, fun m => ?_⟩
  · rw [htokens, tokens] at ha
    by_cases hk : k = ⟨41⟩
    · rw [hk, Function.update_self] at ha
      obtain rfl := Option.some.inj ha
      rfl
    · rw [Function.update_of_ne hk] at ha
      cases ha
  · have hempty : Ledger.total (fun _ => none) (Ledger.worth m) = 0 := by
      simp [Ledger.total, Ledger.worth]
    rw [htokens, Ledger.supply, tokens, Ledger.total_update, hempty]
    simp only [Ledger.worth, Option.elim_some, Option.elim_none]
    split <;> norm_num

def signed (now : ℤ) (signer : Pubkey) (call : VaultCall) : VaultEvent := ⟨now, signer, call⟩

/-- The state after calls, latest first. -/
def after (events : List VaultEvent) : VaultState := stateAfter (VaultEvent.exec env) start events

def history (events : List VaultEvent) : VaultTrace := traceOf (VaultEvent.exec env) start events

def params : InitializeParams := ⟨bob, 3000000000, by norm_num⟩

/-- Alice locks five tokens for twenty days in an account that she opened for the vault. -/
def locked : List VaultEvent :=
  [signed 1000 alice (.createVault ⟨41⟩ ⟨51⟩ 500000000 1728000),
    signed 1000 alice (.spl (.initializeAccount ⟨51⟩ mint pda)),
    signed 1000 bob (.initializeCore mint params)]

/-- She adds two tokens, moves the end by a day, and takes everything back after that. -/
def released : List VaultEvent :=
  [signed 1815400 alice (.releaseVault 0 ⟨51⟩ ⟨41⟩),
    signed 3000 alice (.extendVault 0 86400),
    signed 2000 alice (.increaseVault 0 ⟨41⟩ ⟨51⟩ 200000000)] ++ locked

/-- Calls that run through and create no two vaults at one address. -/
structure Script where
  events : List VaultEvent
  runs : allOk (VaultEvent.exec env) start events = true
  nodup : ((vaultsCreated (history events)).map fun key => env.vaultPda key.1 key.2).Nodup

def releasedScript : Script := ⟨released, by decide +kernel, by decide +kernel⟩

lemma Script.run (s : Script) : Run (VaultStep env) start (history s.events) (after s.events) :=
  run_traceOf s.runs

lemma Script.distinct (s : Script) : env.Distinct (history s.events) :=
  fun _ hkey _ hkey' heq => List.inj_on_of_nodup_map s.nodup hkey hkey' heq

end SmallVaults

open SmallVaults in
theorem vault_rules_small : VaultRules (history released) env (after released) :=
  vault_rules start_fresh releasedScript.run releasedScript.distinct

end Core
end ArioSolana
