import ArioSolana.CoreVaultSteps
import ArioSolana.Book

/-!
# The books of the vaults

The configuration's locked supply is the sum of the vaults' amounts, and what a vault counts lies in
accounts of its address: a deposit raises both by the same amount, and between a vault's creation
and its close nobody takes tokens out of its accounts. The ids that an owner's counter has passed
are used up.

Addresses of vaults are hashes. The runs below may not create two vaults at one address.
-/

namespace ArioSolana
namespace Core

open Checked Solana Finset

/-! ### Histories -/

/-- The key of the vault that a step creates. -/
def created (e : Step VaultState VaultEvent) : Option (Pubkey × VaultId) :=
  (e.label.call.opening e.label.signer).map (·.key e.before)

def vaultsCreated (tr : VaultTrace) : List (Pubkey × VaultId) := tr.filterMap created

/-- No two vaults of a run have one address. -/
def VaultEnv.Distinct (env : VaultEnv) (tr : VaultTrace) : Prop :=
  ∀ key ∈ vaultsCreated tr, ∀ key' ∈ vaultsCreated tr,
    env.vaultPda key.1 key.2 = env.vaultPda key'.1 key'.2 → key = key'

/-- A step of the run created the vault, with its controller. -/
def CreatedAs (tr : VaultTrace) (key : Pubkey × VaultId) (v : Vault) : Prop :=
  ∃ e ∈ tr, ∃ p, e.label.call.opening e.label.signer = some p ∧ p.key e.before = key ∧
    p.controller = v.controller ∧ p.revocable = v.revocable

/-! ### The invariant -/

/-- What a vault counts for in the locked supply. -/
def amountOf (o : Option Vault) : ℤ := o.elim 0 fun v => (v.amount : ℤ)

/-- The amounts of all vaults together. -/
def lockedIn (vaults : Pubkey × VaultId → Option Vault) : ℤ := ∑ key, amountOf (vaults key)

/-- **The books are in order.** -/
structure VaultsKept (env : VaultEnv) (tr : VaultTrace) (s : VaultState) : Prop where
  undelegated : Ledger.Undelegated env.Pda s.tokens
  supply : ∀ mint, s.tokens.supply mint < 2 ^ 64
  bare : s.config = none → s.vaults = fun _ => none
  counts : ∀ c : ArioConfig, s.config = some c → (c.lockedSupply : ℤ) = lockedIn s.vaults ∧
    c.circulatingSupply + c.lockedSupply = c.totalSupply ∧ c.totalSupply < 2 ^ 64
  named : ∀ key v, s.vaults key = some v → v.owner = key.1 ∧ v.vaultId = key.2 ∧
    CreatedAs tr key v
  covered : ∀ c : ArioConfig, ∀ key v, s.config = some c → s.vaults key = some v →
    (v.amount : ℤ) ≤ s.tokens.holdings c.mint (env.vaultPda key.1 key.2)
  used : ∀ key ∈ vaultsCreated tr, key.2.val < (loadCounter s key.1).nextId.val
  nodup : (vaultsCreated tr).Nodup

section

variable {env : VaultEnv} {s s' s₀ : VaultState} {tr : VaultTrace} {e : VaultEvent}
  {now : ℤ} {signer : Pubkey} {key key' : Pubkey × VaultId} {v v' : Vault}
  {config : ArioConfig} {account : SplAccount} {t : Ledger}

lemma lockedIn_update (vaults : Pubkey × VaultId → Option Vault) (key : Pubkey × VaultId)
    (o : Option Vault) :
    lockedIn (Function.update vaults key o) = lockedIn vaults +
        (amountOf o - amountOf (vaults key)) := by
  have hcomp : (fun i => amountOf (Function.update vaults key o i))
      = Function.update (fun i => amountOf (vaults i)) key (amountOf o) :=
    Function.comp_update amountOf vaults key o
  rw [lockedIn, hcomp, sum_update]
  rfl

lemma amountOf_nonneg (o : Option Vault) : 0 ≤ amountOf o := by
  cases o with
  | none => exact le_rfl
  | some v => exact Int.natCast_nonneg _

lemma amount_le_lockedIn {vaults : Pubkey × VaultId → Option Vault} (h : vaults key = some v) :
    (v.amount : ℤ) ≤ lockedIn vaults := by
  have hle := single_le_sum (f := fun key => amountOf (vaults key))
    (fun _ _ => amountOf_nonneg _) (mem_univ key)
  rw [h] at hle
  exact hle

lemma CreatedAs.mem (h : CreatedAs tr key v) : key ∈ vaultsCreated tr := by
  obtain ⟨e, he, p, hp, hkey, -⟩ := h
  exact List.mem_filterMap.mpr ⟨e, he, by rw [created, hp, Option.map_some, hkey]⟩

lemma CreatedAs.cons {x : Step VaultState VaultEvent} (h : CreatedAs tr key v) :
    CreatedAs (x :: tr) key v := by
  obtain ⟨e, he, h⟩ := h
  exact ⟨e, List.mem_cons_of_mem _ he, h⟩

lemma CreatedAs.congr (h : CreatedAs tr key v) (hcontroller : v'.controller = v.controller)
    (hrevocable : v'.revocable = v.revocable) : CreatedAs tr key v' := by
  obtain ⟨e, he, p, hp, hkey, hc, hr⟩ := h
  exact ⟨e, he, p, hp, hkey, hc.trans hcontroller.symm, hr.trans hrevocable.symm⟩

lemma vaultsCreated_cons_none (h : e.call.opening e.signer = none) :
    vaultsCreated (⟨s, e, s'⟩ :: tr) = vaultsCreated tr := by
  rw [vaultsCreated, List.filterMap_cons]
  simp [created, h, vaultsCreated]

lemma vaultsCreated_cons_some {p : Opening} (h : e.call.opening e.signer = some p) :
    vaultsCreated (⟨s, e, s'⟩ :: tr) = p.key s :: vaultsCreated tr := by
  rw [vaultsCreated, List.filterMap_cons]
  simp [created, h, vaultsCreated]

/-! ### Tokens -/

lemma VaultsKept.withTokens (hK : VaultsKept env tr s) (h : s.tokens.Untouched env.Pda t) :
    VaultsKept env tr { s with tokens := t } where
  undelegated := h.undelegated
  supply mint := by
    rw [h.supply]
    exact hK.supply mint
  bare := hK.bare
  counts := hK.counts
  named := hK.named
  covered c key v hc hv := (hK.covered c key v hc hv).trans (h.holdings_le (pda_vaultPda _ _))
  used := hK.used
  nodup := hK.nodup

lemma PaidIn.untouched {source target : Pubkey} {amount : ℕ}
    (h : PaidIn env signer source target key amount s s' config account)
    (hundelegated : Ledger.Undelegated env.Pda s.tokens) (hsigner : env.CanSign signer) :
    s.tokens.Untouched env.Pda s'.tokens :=
  Ledger.splCall_untouched (.transfer source target amount) hundelegated
    (canSign_iff.mp hsigner) h.paid

lemma PaidIn.holdings_eq {source target : Pubkey} {amount : ℕ}
    (h : PaidIn env signer source target key amount s s' config account)
    (hundelegated : Ledger.Undelegated env.Pda s.tokens) (hsigner : env.CanSign signer) :
    s'.tokens.holdings config.mint (env.vaultPda key.1 key.2)
      = s.tokens.holdings config.mint (env.vaultPda key.1 key.2) + amount := by
  obtain ⟨src, dst, hmoved⟩ := Ledger.transfer_ok h.paid
  obtain rfl := Option.some.inj (h.supplied.symm.trans hmoved.destination_eq)
  have hsrc : ¬(src.mint = config.mint ∧ src.owner = env.vaultPda key.1 key.2) := by
    rintro ⟨-, howner⟩
    have hpda : env.Pda src.owner := howner ▸ pda_vaultPda _ _
    rcases hmoved.authorized with hd | hs
    · rw [hundelegated source src hmoved.source_eq hpda] at hd
      cases hd
    · exact canSign_iff.mp hsigner (hs ▸ hpda)
  rw [hmoved.holdings_eq, if_pos ⟨h.mint, h.owned⟩, if_neg hsrc, sub_zero]

lemma Swept.total_eq {t t' : Ledger} {pda source target : Pubkey} {a b : SplAccount}
    (h : Swept t t' pda source target a b) (w : Option SplAccount → ℤ) :
    t'.total w = t.total w + (w none - w (some a))
      + (w (some { b with amount := b.amount + a.amount }) - w (some b)) := by
  have heq : t' = Function.update (Function.update t source none) target
      (some { b with amount := b.amount + a.amount }) := by
    funext k
    by_cases ht : k = target
    · rw [ht, Function.update_self, h.credited]
    · by_cases hs : k = source
      · rw [hs, Function.update_of_ne h.ne, Function.update_self, h.closed]
      · rw [Function.update_of_ne ht, Function.update_of_ne hs, h.others k hs ht]
  rw [heq, Ledger.total_update, Ledger.total_update, Function.update_of_ne h.ne.symm, h.from_eq,
    h.into_eq]

lemma Swept.supply_eq {t t' : Ledger} {pda source target mint : Pubkey} {a b : SplAccount}
    (h : Swept t t' pda source target a b) : t'.supply mint = t.supply mint := by
  rw [Ledger.supply, h.total_eq, Ledger.supply]
  simp only [Ledger.worth, Option.elim_some, Option.elim_none, h.mint]
  split
  · push_cast
    ring
  · ring

lemma Swept.holdings_eq {t t' : Ledger} {pda source target mint owner : Pubkey} {a b : SplAccount}
    (h : Swept t t' pda source target a b) (hpda : owner ≠ pda) (howner : owner ≠ b.owner) :
    t'.holdings mint owner = t.holdings mint owner := by
  rw [Ledger.holdings, h.total_eq, Ledger.holdings]
  simp only [Ledger.worthTo, Option.elim_some, Option.elim_none, h.owned]
  rw [if_neg fun hboth => hpda hboth.2.symm, if_neg fun hboth => howner hboth.2.symm,
    if_neg fun hboth => howner hboth.2.symm]
  ring

lemma Swept.undelegated {t t' : Ledger} {P : Pubkey → Prop} {pda source target : Pubkey}
    {a b : SplAccount} (h : Swept t t' pda source target a b) (hundelegated : t.Undelegated P) :
    t'.Undelegated P := by
  intro k x hx hP
  by_cases ht : k = target
  · rw [ht, h.credited] at hx
    obtain rfl := Option.some.inj hx
    exact hundelegated target b h.into_eq hP
  · by_cases hs : k = source
    · rw [hs, h.closed] at hx
      cases hx
    · rw [h.others k hs ht] at hx
      exact hundelegated k x hx hP

/-! ### One step -/

lemma loadCounter_update {o o' : Pubkey} {c : VaultCounter}
    (h : s'.counters = Function.update s.counters o (some c)) :
    loadCounter s' o' = if o' = o then c else loadCounter s o' := by
  by_cases ho : o' = o
  · rw [if_pos ho, loadCounter, h, ho, Function.update_self, Option.getD_some]
  · rw [if_neg ho, loadCounter, h, Function.update_of_ne ho, loadCounter]

lemma loadCounter_congr (h : s'.counters = s.counters) : loadCounter s' = loadCounter s := by
  funext o
  rw [loadCounter, h, loadCounter]

lemma VaultsKept.used_cons (hK : VaultsKept env tr s) (hcall : e.call.opening e.signer = none)
    (hcounters : s'.counters = s.counters) :
    (∀ key ∈ vaultsCreated (⟨s, e, s'⟩ :: tr), key.2.val < (loadCounter s' key.1).nextId.val) ∧
      (vaultsCreated (⟨s, e, s'⟩ :: tr)).Nodup := by
  rw [vaultsCreated_cons_none hcall, loadCounter_congr hcounters]
  exact ⟨hK.used, hK.nodup⟩

lemma vaultsKept_quiet (hK : VaultsKept env tr s) (hcall : e.call.opening e.signer = none)
    (hcounts : SameCounts s s') (hcounters : s'.counters = s.counters)
    (hvaults : s'.vaults = s.vaults) (htokens : s.tokens.Untouched env.Pda s'.tokens) :
    VaultsKept env (⟨s, e, s'⟩ :: tr) s' := by
  have hT := hK.withTokens htokens
  obtain ⟨hused, hnodup⟩ := hK.used_cons hcall hcounters
  have hnamed : ∀ key v, s'.vaults key = some v → v.owner = key.1 ∧ v.vaultId = key.2 ∧
      CreatedAs (⟨s, e, s'⟩ :: tr) key v := by
    intro key v hv
    rw [hvaults] at hv
    obtain ⟨howner, hid, hcreated⟩ := hK.named key v hv
    exact ⟨howner, hid, hcreated.cons⟩
  rcases hcounts with hsame | ⟨hnone, c, hc, hlocked, hcirculating, hlt⟩ |
    ⟨c, c', hc, hc', hmint, hlocked, hcirculating, htotal⟩
  · refine ⟨hT.undelegated, hT.supply, fun hnone => ?_, fun c hc => ?_, hnamed,
      fun c key v hc hv => ?_, hused, hnodup⟩
    · rw [hvaults]
      exact hK.bare (hsame ▸ hnone)
    · rw [hvaults]
      exact hK.counts c (hsame ▸ hc)
    · exact hT.covered c key v (hsame ▸ hc) (hvaults ▸ hv)
  · -- the program is set up: there are no vaults
    have hempty := hK.bare hnone
    refine ⟨hT.undelegated, hT.supply, fun h => ?_, fun c₁ hc₁ => ?_, hnamed,
      fun c₁ key v hc₁ hv => ?_, hused, hnodup⟩
    · rw [hc] at h
      cases h
    · obtain rfl := Option.some.inj (hc.symm.trans hc₁)
      refine ⟨?_, by omega, hlt⟩
      rw [hvaults, hempty, hlocked, lockedIn]
      simp [amountOf]
    · rw [hvaults, hempty] at hv
      cases hv
  · refine ⟨hT.undelegated, hT.supply, fun h => ?_, fun c₁ hc₁ => ?_, hnamed,
      fun c₁ key v hc₁ hv => ?_, hused, hnodup⟩
    · rw [hc'] at h
      cases h
    · obtain rfl := Option.some.inj (hc'.symm.trans hc₁)
      rw [hvaults, hlocked, hcirculating, htotal]
      exact hK.counts c hc
    · obtain rfl := Option.some.inj (hc'.symm.trans hc₁)
      rw [hmint]
      exact hT.covered c key v hc (hvaults ▸ hv)

lemma PaidIn.counts {source target : Pubkey} {amount : ℕ}
    (h : PaidIn env signer source target key amount s s' config account)
    (hK : VaultsKept env tr s) (vaults : Pubkey × VaultId → Option Vault)
    (hvaults : lockedIn vaults = lockedIn s.vaults + amount) :
    ∀ c : ArioConfig, s'.config = some c → (c.lockedSupply : ℤ) = lockedIn vaults ∧
      c.circulatingSupply + c.lockedSupply = c.totalSupply ∧ c.totalSupply < 2 ^ 64 := by
  intro c hc
  obtain ⟨config', hlock, hconfig'⟩ := h.locked
  obtain rfl := Option.some.inj (hconfig'.symm.trans hc)
  obtain ⟨-, hle, rfl⟩ := lock_eq_ok.mp hlock
  obtain ⟨hlocked, hsum, hlt⟩ := hK.counts config h.head
  refine ⟨?_, ?_, hlt⟩
  · rw [hvaults, ← hlocked]
    push_cast
    ring
  · simp only
    omega

lemma PaidIn.covered {source target : Pubkey} {amount n : ℕ}
    (h : PaidIn env signer source target key amount s s' config account)
    (hK : VaultsKept env tr s) (hsigner : env.CanSign signer)
    (hvaults : s'.vaults = Function.update s.vaults key (some v)) (hamount : v.amount = n + amount)
    (hn : ∀ v₀, s.vaults key = some v₀ → n ≤ v₀.amount) (hfree : s.vaults key = none → n = 0) :
    ∀ c : ArioConfig, ∀ key' v', s'.config = some c → s'.vaults key' = some v' →
      (v'.amount : ℤ) ≤ s'.tokens.holdings c.mint (env.vaultPda key'.1 key'.2) := by
  intro c key' v' hc hv'
  obtain ⟨config', hlock, hconfig'⟩ := h.locked
  obtain rfl := Option.some.inj (hconfig'.symm.trans hc)
  obtain ⟨-, -, rfl⟩ := lock_eq_ok.mp hlock
  simp only
  by_cases hkey : key' = key
  · subst hkey
    rw [hvaults, Function.update_self] at hv'
    obtain rfl := Option.some.inj hv'
    rw [h.holdings_eq hK.undelegated hsigner, hamount]
    have hbefore : (n : ℤ) ≤ s.tokens.holdings config.mint (env.vaultPda key'.1 key'.2) := by
      cases hs : s.vaults key' with
      | none =>
        rw [hfree hs]
        exact Ledger.holdings_nonneg
      | some v₀ =>
        have hcovered := hK.covered config key' v₀ h.head hs
        have hle := hn v₀ hs
        omega
    push_cast
    omega
  · rw [hvaults, Function.update_of_ne hkey] at hv'
    exact (hK.covered config key' v' h.head hv').trans
      ((h.untouched hK.undelegated hsigner).holdings_le (pda_vaultPda _ _))

lemma vaultsKept_opened {p : Opening} (hK : VaultsKept env tr s) (hsigner : env.CanSign e.signer)
    (hcall : e.call.opening e.signer = some p) (htokens : s.tokens.Untouched env.Pda t)
    (h : Opened env e.now e.signer p { s with tokens := t } s' config account) :
    VaultsKept env (⟨s, e, s'⟩ :: tr) s' := by
  have hT := hK.withTokens htokens
  have hU := h.paidIn.untouched hT.undelegated hsigner
  obtain ⟨next, hnext, hcounters⟩ := h.counters
  have hnew : p.key s ∉ vaultsCreated tr := by
    intro hmem
    exact absurd (hK.used _ hmem) (lt_irrefl _)
  refine ⟨hU.undelegated, fun mint => ?_, fun hnone => ?_, h.paidIn.counts hT _ ?_,
    fun key v hv => ?_, h.paidIn.covered (n := 0) hT hsigner h.vaults (by simp [Opening.vault])
      (by simp) (by simp), fun key hkey => ?_, ?_⟩
  · rw [hU.supply]
    exact hT.supply mint
  · obtain ⟨config', -, hconfig'⟩ := h.paidIn.locked
    rw [hconfig'] at hnone
    cases hnone
  · rw [h.vaults, lockedIn_update, h.fresh]
    simp [amountOf, Opening.vault]
  · rw [h.vaults] at hv
    by_cases hkey : key = p.key s
    · subst hkey
      rw [show p.key { s with tokens := t } = p.key s from rfl, Function.update_self] at hv
      obtain rfl := Option.some.inj hv
      exact ⟨rfl, rfl, _, List.mem_cons_self, p, hcall, rfl, rfl, rfl⟩
    · rw [show p.key { s with tokens := t } = p.key s from rfl, Function.update_of_ne hkey] at hv
      obtain ⟨howner, hid, hcreated⟩ := hK.named key v hv
      exact ⟨howner, hid, hcreated.cons⟩
  · rw [vaultsCreated_cons_some hcall] at hkey
    rw [loadCounter_update hcounters]
    rcases List.mem_cons.mp hkey with rfl | hkey
    · simp only [Opening.key, if_true]
      rw [hnext]
      exact Nat.lt_succ_self _
    · have hlt := hK.used key hkey
      split
      · rename_i howner
        simp only [hnext]
        rw [howner] at hlt
        exact hlt.trans (Nat.lt_succ_self _)
      · exact hlt
  · rw [vaultsCreated_cons_some hcall]
    exact List.nodup_cons.mpr ⟨hnew, hK.nodup⟩

lemma vaultsKept_increased {id : VaultId} {source target : Pubkey} {amount : ℕ}
    (hK : VaultsKept env tr s) (hsigner : env.CanSign e.signer)
    (hcall : e.call = .increaseVault id source target amount)
    (h : Increased env e.now e.signer id source target amount s s' config account v) :
    VaultsKept env (⟨s, e, s'⟩ :: tr) s' := by
  have hU := h.paidIn.untouched hK.undelegated hsigner
  have hopening : e.call.opening e.signer = none := by
    rw [hcall]
    rfl
  obtain ⟨hused, hnodup⟩ := hK.used_cons hopening h.counters
  refine ⟨hU.undelegated, fun mint => ?_, fun hnone => ?_, h.paidIn.counts hK _ ?_,
    fun key' v' hv' => ?_, h.paidIn.covered (n := v.amount) hK hsigner h.vaults rfl
      (fun v₀ hv₀ => ?_) (fun hnone => ?_), hused, hnodup⟩
  · rw [hU.supply]
    exact hK.supply mint
  · obtain ⟨config', -, hconfig'⟩ := h.paidIn.locked
    rw [hconfig'] at hnone
    cases hnone
  · rw [h.vaults, lockedIn_update, h.found]
    simp [amountOf]
  · rw [h.vaults] at hv'
    by_cases hkey : key' = (e.signer, id)
    · subst hkey
      rw [Function.update_self] at hv'
      obtain rfl := Option.some.inj hv'
      obtain ⟨howner, hid, hcreated⟩ := hK.named _ v h.found
      exact ⟨howner, hid, (hcreated.congr rfl rfl).cons⟩
    · rw [Function.update_of_ne hkey] at hv'
      obtain ⟨howner, hid, hcreated⟩ := hK.named key' v' hv'
      exact ⟨howner, hid, hcreated.cons⟩
  · rw [h.found] at hv₀
    exact (Option.some.inj hv₀) ▸ le_rfl
  · rw [h.found] at hnone
    cases hnone

lemma vaultsKept_extended {id : VaultId} {seconds : ℤ} (hK : VaultsKept env tr s)
    (hcall : e.call = .extendVault id seconds)
    (h : Extended e.now e.signer id seconds s s' config v) :
    VaultsKept env (⟨s, e, s'⟩ :: tr) s' := by
  have hopening : e.call.opening e.signer = none := by
    rw [hcall]
    rfl
  obtain ⟨hused, hnodup⟩ := hK.used_cons hopening h.counters
  have hold : ∀ key' v', s'.vaults key' = some v' → ∃ v₀, s.vaults key' = some v₀ ∧
      v'.owner = v₀.owner ∧ v'.vaultId = v₀.vaultId ∧ v'.amount = v₀.amount ∧
      v'.controller = v₀.controller ∧ v'.revocable = v₀.revocable := by
    intro key' v' hv'
    rw [h.vaults] at hv'
    by_cases hkey : key' = (e.signer, id)
    · subst hkey
      rw [Function.update_self] at hv'
      obtain rfl := Option.some.inj hv'
      exact ⟨v, h.found, rfl, rfl, rfl, rfl, rfl⟩
    · rw [Function.update_of_ne hkey] at hv'
      exact ⟨v', hv', rfl, rfl, rfl, rfl, rfl⟩
  refine ⟨h.tokens ▸ hK.undelegated, h.tokens ▸ hK.supply, fun hnone => ?_, fun c hc => ?_,
    fun key' v' hv' => ?_, fun c key' v' hc hv' => ?_, hused, hnodup⟩
  · rw [h.config_eq, h.head] at hnone
    cases hnone
  · rw [h.config_eq] at hc
    rw [h.vaults, lockedIn_update, h.found]
    simpa [amountOf] using hK.counts c hc
  · obtain ⟨v₀, hv₀, howner, hid, -, hcontroller, hrevocable⟩ := hold key' v' hv'
    obtain ⟨howner₀, hid₀, hcreated⟩ := hK.named key' v₀ hv₀
    exact ⟨howner.trans howner₀, hid.trans hid₀, (hcreated.congr hcontroller hrevocable).cons⟩
  · obtain ⟨v₀, hv₀, -, -, hamount, -⟩ := hold key' v' hv'
    rw [h.config_eq] at hc
    rw [h.tokens, hamount]
    exact hK.covered c key' v₀ hc hv₀

lemma vaultsKept_closed {source target : Pubkey} {a b : SplAccount} (hK : VaultsKept env tr s)
    (hdistinct : env.Distinct tr) (hsigner : env.CanSign e.signer)
    (hcall : ClosedBy e.now e.signer key v e.call)
    (h : Closed env key e.signer source target s s' config a b v) :
    VaultsKept env (⟨s, e, s'⟩ :: tr) s' := by
  have hopening : e.call.opening e.signer = none := by
    cases hc : e.call <;> simp [hc, ClosedBy] at hcall <;> rfl
  obtain ⟨hused, hnodup⟩ := hK.used_cons hopening h.counters
  obtain ⟨config', hunlock, hconfig'⟩ := h.unlocked
  obtain ⟨hle, hfit, rfl⟩ := unlock_eq_ok.mp hunlock
  obtain ⟨hlocked, hsum, hlt⟩ := hK.counts config h.head
  have hold : ∀ key' v', s'.vaults key' = some v' → key' ≠ key ∧ s.vaults key' = some v' := by
    intro key' v' hv'
    rw [h.vaults] at hv'
    by_cases hkey : key' = key
    · subst hkey
      rw [Function.update_self] at hv'
      cases hv'
    · rw [Function.update_of_ne hkey] at hv'
      exact ⟨hkey, hv'⟩
  refine ⟨h.swept.undelegated hK.undelegated, fun mint => ?_, fun hnone => ?_, fun c hc => ?_,
    fun key' v' hv' => ?_, fun c key' v' hc hv' => ?_, hused, hnodup⟩
  · rw [h.swept.supply_eq]
    exact hK.supply mint
  · rw [hconfig'] at hnone
    cases hnone
  · obtain rfl := Option.some.inj (hconfig'.symm.trans hc)
    refine ⟨?_, by simp only; omega, hlt⟩
    rw [h.vaults, lockedIn_update, h.found, ← hlocked]
    simp only [amountOf, Option.elim_some, Option.elim_none]
    omega
  · obtain ⟨-, hv'⟩ := hold key' v' hv'
    obtain ⟨howner, hid, hcreated⟩ := hK.named key' v' hv'
    exact ⟨howner, hid, hcreated.cons⟩
  · obtain ⟨hkey, hv'⟩ := hold key' v' hv'
    obtain rfl := Option.some.inj (hconfig'.symm.trans hc)
    have hpda : env.vaultPda key'.1 key'.2 ≠ env.vaultPda key.1 key.2 := by
      intro heq
      exact hkey (hdistinct key' (hK.named key' v' hv').2.2.mem key (hK.named key v h.found).2.2.mem
        heq)
    have hreceiver : env.vaultPda key'.1 key'.2 ≠ b.owner := by
      intro heq
      exact canSign_iff.mp hsigner (h.receiver_eq ▸ heq ▸ pda_vaultPda _ _)
    rw [h.swept.holdings_eq hpda hreceiver]
    exact hK.covered config key' v' h.head hv'

/-- **A step keeps the books.** -/
theorem vaultsKept_step (hK : VaultsKept env tr s) (hdistinct : env.Distinct tr)
    (h : VaultStep env s e s') : VaultsKept env (⟨s, e, s'⟩ :: tr) s' := by
  have hsigner := signer_of_step h
  cases vaultStep_change hK.undelegated h with
  | quiet call still counts counters vaults tokens =>
    exact vaultsKept_quiet hK call counts counters vaults tokens
  | opened p t config account call before terms change =>
    exact vaultsKept_opened hK hsigner call before change
  | increased id source target amount config account v call change =>
    exact vaultsKept_increased hK hsigner call change
  | extended id seconds config v call change => exact vaultsKept_extended hK call change
  | closed key source target config a b v call change =>
    exact vaultsKept_closed hK hdistinct hsigner call change

/-! ### Runs -/

lemma vaultsKept_fresh (h : FreshVaults env s₀) : VaultsKept env [] s₀ where
  undelegated := h.undelegated
  supply := h.supply
  bare _ := h.vaults
  counts c hc := by
    rw [h.config] at hc
    cases hc
  named key v hv := by
    rw [h.vaults] at hv
    cases hv
  covered c key v hc := by
    rw [h.config] at hc
    cases hc
  used key hkey := absurd hkey (by simp [vaultsCreated])
  nodup := List.nodup_nil

lemma VaultEnv.Distinct.mono {tr' : VaultTrace} (h : env.Distinct tr) (hsub : tr' ⊆ tr) :
    env.Distinct tr' := by
  intro key hkey key' hkey' heq
  have hmem : ∀ k ∈ vaultsCreated tr', k ∈ vaultsCreated tr := by
    intro k hk
    obtain ⟨e, he, hcreated⟩ := List.mem_filterMap.mp hk
    exact List.mem_filterMap.mpr ⟨e, hsub he, hcreated⟩
  exact h key (hmem key hkey) key' (hmem key' hkey') heq

/-- **The books are in order along every run.** -/
theorem vaultsKept_run (hfresh : FreshVaults env s₀) (run : Run (VaultStep env) s₀ tr s)
    (hdistinct : env.Distinct tr) : VaultsKept env tr s := by
  induction run with
  | nil => exact vaultsKept_fresh hfresh
  | cons run last ih =>
    have htail := hdistinct.mono (List.subset_cons_self _ _)
    exact vaultsKept_step (ih htail) htail last

end

end Core
end ArioSolana
