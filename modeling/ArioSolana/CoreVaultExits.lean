import ArioSolana.CoreVaultRules

/-!
# What a closed vault pays

A close pays the balance of the account that the caller supplies. That is the vault's amount or more
unless the vault has several accounts, and the caller names another than the one that was paid into.
-/

namespace ArioSolana
namespace Core

open Checked Solana

/-- The key, the swept account and the destination of a call that closes a vault. -/
def VaultCall.closing (signer : Pubkey) : VaultCall → Option ((Pubkey × VaultId) × Pubkey × Pubkey)
  | .revokeVault owner id source target => some ((owner, id), source, target)
  | .releaseVault id source target => some ((signer, id), source, target)
  | _ => none

/-- Who is paid when a vault is closed: the controller that revokes it, or the owner. -/
def VaultCall.receiver (v : Vault) : VaultCall → Option Pubkey
  | .revokeVault .. => v.controller
  | _ => some v.owner

/-- A close pays at least the vault's amount into an account of the receiver, and leaves nothing
that the vault counted in the accounts of its address. -/
structure PaysPrincipal (env : VaultEnv) (s s' : VaultState) (v : Vault) (mint : Pubkey)
    (receiver : Option Pubkey) (target : Pubkey) : Prop where
  credited : ∃ b b', s.tokens target = some b ∧ s'.tokens target = some b' ∧
    some b'.owner = receiver ∧ b.amount + v.amount ≤ b'.amount
  nothingLeft : s'.tokens.holdings mint (env.vaultPda v.owner v.vaultId) + v.amount ≤
    s.tokens.holdings mint (env.vaultPda v.owner v.vaultId)

section

variable {env : VaultEnv} {s s' s₀ : VaultState} {tr : VaultTrace} {e : VaultEvent}
  {key : Pubkey × VaultId} {v : Vault} {config : ArioConfig} {source target k : Pubkey}
  {a b : SplAccount}

/-! ### What a close pays -/

lemma VaultChange.undelegated (h : VaultChange env e s s')
    (hundelegated : s.tokens.Undelegated env.Pda) (hsigner : env.CanSign e.signer) :
    s'.tokens.Undelegated env.Pda := by
  cases h with
  | quiet call still counts counters vaults tokens => exact tokens.undelegated
  | opened p t config account call before terms change =>
    exact (change.paidIn.untouched before.undelegated hsigner).undelegated
  | increased id source target amount config account v call change =>
    exact (change.paidIn.untouched hundelegated hsigner).undelegated
  | extended id seconds config v call change => exact change.tokens ▸ hundelegated
  | closed key source target config a b v call change =>
    exact change.swept.undelegated hundelegated

lemma undelegated_run (hfresh : FreshVaults env s₀) (run : Run (VaultStep env) s₀ tr s) :
    s.tokens.Undelegated env.Pda := by
  induction run with
  | nil => exact hfresh.undelegated
  | cons run last ih => exact (vaultStep_change ih last).undelegated ih (signer_of_step last)

lemma closed_of_closing (hundelegated : s.tokens.Undelegated env.Pda) (h : VaultStep env s e s')
    (hcall : e.call.closing e.signer = some (key, source, target)) :
    ∃ config a b v, Closed env key e.signer source target s s' config a b v ∧
      e.call.receiver v = some e.signer := by
  have hsigner := signer_of_step h
  obtain ⟨now, signer, call⟩ := e
  simp only [VaultStep, VaultEvent.exec, bind_eq_ok, require_eq_ok] at h
  obtain ⟨-, -, h⟩ := h
  cases call with
  | revokeVault owner id source' target' =>
    obtain ⟨rfl, rfl, rfl⟩ : (owner, id) = key ∧ source' = source ∧ target' = target := by
      simpa [VaultCall.closing] using hcall
    obtain ⟨config, a, b, v, hclosed, -, hcontroller, -⟩ :=
      revokeVault_closed hundelegated hsigner h
    exact ⟨config, a, b, v, hclosed, hcontroller⟩
  | releaseVault id source' target' =>
    obtain ⟨rfl, rfl, rfl⟩ : (signer, id) = key ∧ source' = source ∧ target' = target := by
      simpa [VaultCall.closing] using hcall
    obtain ⟨config, a, b, v, hclosed, -⟩ := releaseVault_closed hundelegated hsigner h
    exact ⟨config, a, b, v, hclosed, by simp [VaultCall.receiver, hclosed.named.1]⟩
  | _ => cases hcall

lemma Swept.holdings_pda {t t' : Ledger} {pda mint : Pubkey}
    (h : Swept t t' pda source target a b) (hmint : a.mint = mint) (hb : b.owner ≠ pda) :
    t'.holdings mint pda = t.holdings mint pda - a.amount := by
  rw [Ledger.holdings, h.total_eq, Ledger.holdings]
  simp only [Ledger.worthTo, Option.elim_some, Option.elim_none]
  rw [if_pos ⟨hmint, h.owned⟩, if_neg fun hboth => hb hboth.2, if_neg fun hboth => hb hboth.2]
  ring

lemma Closed.pays_iff {receiver : Option Pubkey} (hsigner : env.CanSign e.signer)
    (h : Closed env key e.signer source target s s' config a b v)
    (hreceiver : receiver = some e.signer) :
    PaysPrincipal env s s' v config.mint receiver target ↔ v.amount ≤ s.tokens.balance source := by
  have hb : b.owner ≠ env.vaultPda v.owner v.vaultId := by
    intro heq
    exact canSign_iff.mp hsigner (h.receiver_eq ▸ heq ▸ pda_vaultPda _ _)
  have hswept := h.swept
  rw [← h.named.1, ← h.named.2] at hswept
  rw [Ledger.balance, hswept.from_eq, Option.elim_some]
  constructor
  · rintro ⟨⟨b₁, b', hb₁, hb', -, hle⟩, -⟩
    obtain rfl := Option.some.inj (hswept.into_eq.symm.trans hb₁)
    obtain rfl := Option.some.inj (hswept.credited.symm.trans hb')
    exact Nat.le_of_add_le_add_left hle
  · intro hle
    refine ⟨⟨b, _, hswept.into_eq, hswept.credited, ?_, Nat.add_le_add_left hle _⟩, ?_⟩
    · rw [hreceiver, h.receiver_eq]
    · rw [hswept.holdings_pda h.mint hb]
      omega

end

/-- **A close pays the principal** exactly if the account that the caller supplies for the vault
holds it. -/
theorem close_pays_exactly {env : VaultEnv} {s₀ s s' : VaultState} {tr : VaultTrace}
    {e : VaultEvent}
    {key : Pubkey × VaultId} {source target : Pubkey} (hfresh : FreshVaults env s₀)
    (run : Run (VaultStep env) s₀ tr s) (step : VaultStep env s e s')
    (hcall : e.call.closing e.signer = some (key, source, target)) :
    ∃ config v, s.config = some config ∧ s.vaults key = some v ∧ s'.vaults key = none ∧
      (PaysPrincipal env s s' v config.mint (e.call.receiver v) target ↔
        v.amount ≤ s.tokens.balance source) := by
  obtain ⟨config, a, b, v, hclosed, hreceiver⟩ :=
    closed_of_closing (undelegated_run hfresh run) step hcall
  refine ⟨config, v, hclosed.head, hclosed.found, ?_, hclosed.pays_iff (signer_of_step step)
    hreceiver⟩
  rw [hclosed.vaults, Function.update_self]

namespace SmallVaults

/-- Bob opens another account of alice's vault, and her release names that one. -/
def emptied : List VaultEvent :=
  [signed 1729000 alice (.releaseVault 0 ⟨52⟩ ⟨41⟩),
    signed 1000 bob (.spl (.initializeAccount ⟨52⟩ mint pda))] ++ locked

/-- Her release names the account that she paid into. -/
def paid : List VaultEvent := signed 1729000 alice (.releaseVault 0 ⟨51⟩ ⟨41⟩) :: locked

def emptiedScript : Script := ⟨emptied, by decide +kernel, by decide +kernel⟩

def paidScript : Script := ⟨paid, by decide +kernel, by decide +kernel⟩

lemma Script.last {e : VaultEvent} {events : List VaultEvent} (s : Script)
    (h : s.events = e :: events) : Run (VaultStep env) start (history events) (after events) ∧
      VaultStep env (after events) e (after s.events) := by
  have hrun := s.run
  rw [h] at hrun ⊢
  cases hrun with
  | cons run last => exact ⟨run, last⟩

end SmallVaults

open SmallVaults in
theorem close_pays_exactly_small : ∃ config v, (after locked).config = some config ∧
    (after locked).vaults (alice, 0) = some v ∧ (after paid).vaults (alice, 0) = none ∧
      (PaysPrincipal env (after locked) (after paid) v config.mint (some v.owner) ⟨41⟩ ↔
        v.amount ≤ (after locked).tokens.balance ⟨51⟩) :=
  close_pays_exactly (e := signed 1729000 alice (.releaseVault 0 ⟨51⟩ ⟨41⟩)) start_fresh
    (paidScript.last rfl).1 (paidScript.last rfl).2 rfl

open SmallVaults in
/-- A release that names an empty account of the vault pays nothing and closes the vault. -/
theorem close_pays_nothing : ¬ ∀ (env : VaultEnv) (s₀ s s' : VaultState) (tr : VaultTrace)
    (e : VaultEvent) (key : Pubkey × VaultId) (source target : Pubkey) (config : ArioConfig)
    (v : Vault), FreshVaults env s₀ → Run (VaultStep env) s₀ tr s → VaultStep env s e s' →
    e.call.closing e.signer = some (key, source, target) → s.config = some config →
    s.vaults key = some v → PaysPrincipal env s s' v config.mint (e.call.receiver v) target := by
  intro h
  obtain ⟨hrun, hstep⟩ := emptiedScript.last rfl
  obtain ⟨config, hconfig⟩ := Option.isSome_iff_exists.mp
    (by decide +kernel : (after emptied.tail).config.isSome = true)
  have hamount : amountOf ((after emptied.tail).vaults (alice, 0)) = 500000000 := by decide +kernel
  have hsame : (after emptied).tokens.balance ⟨41⟩ = (after emptied.tail).tokens.balance ⟨41⟩ := by
    decide +kernel
  cases hv : (after emptied.tail).vaults (alice, 0) with
  | none =>
    rw [hv] at hamount
    cases hamount
  | some v =>
    obtain ⟨⟨b, b', hb, hb', -, hle⟩, -⟩ := h env start _ _ _ _ (alice, 0) ⟨52⟩ ⟨41⟩ config v
      start_fresh hrun hstep rfl hconfig hv
    have hb₁ : (after emptied.tail).tokens ⟨41⟩ = some b := hb
    have hb₂ : (after emptied).tokens ⟨41⟩ = some b' := hb'
    rw [Ledger.balance, Ledger.balance, hb₁, hb₂] at hsame
    rw [hv] at hamount
    simp only [Option.elim_some, amountOf] at hsame hamount
    omega

end Core
end ArioSolana
