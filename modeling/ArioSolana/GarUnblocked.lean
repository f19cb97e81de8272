import ArioSolana.GarBatching
import ArioSolana.GarBudget

/-!
# Distributions cannot be blocked

An epoch that has its observers and has ended can be distributed by anybody, in batches of any size:
no gateway that joined, left, was pruned or changed its stake meanwhile makes a batch fail. Each
joined gateway in a slot of the epoch carries the stamp of the epoch's tally, which nothing can
overwrite while the epoch is open, and all amounts stay within a word. -/

namespace ArioSolana
namespace Gar

open Checked Solana Finset

section

variable {env : Env} {s s' s₀ : State} {index slot n : ℕ} {epoch epoch' : Epoch} {k p q : Pubkey}
  {g g' : Gateway} {remaining : List AccountMeta} {i : Instruction} {clock : Clock} {tr : Trace}
  {e : Event} {t : ℤ}

/-! ### Stamps -/

/-- A gateway that is joined after an instruction was joined before, in the same slot and with the
same stamp, or it has the last slot, or the instruction is a tally. -/
def KeepsStamps (s s' : State) : Prop :=
  ∀ k g', s'.gateways k = some g' → g'.status = .joined →
    s.registry.count ≤ g'.registryIndex ∨
    ∃ g, s.gateways k = some g ∧ g.status = .joined ∧ g.registryIndex = g'.registryIndex ∧
      g.weights.weightsEpoch = g'.weights.weightsEpoch

lemma KeepsStamps.of_same (hG : ∀ k, s'.gateways k = s.gateways k) : KeepsStamps s s' := by
  intro k g' hg' hj
  rw [hG] at hg'
  exact .inr ⟨g', hg', hj, rfl, rfl⟩

lemma KeepsStamps.of_update {operator : Pubkey} {x : Gateway}
    (hG : s'.gateways = Function.update s.gateways operator (some x))
    (hx : x.status = .joined → s.registry.count ≤ x.registryIndex ∨
      ∃ g, s.gateways operator = some g ∧ g.status = .joined ∧ g.registryIndex = x.registryIndex ∧
        g.weights.weightsEpoch = x.weights.weightsEpoch) : KeepsStamps s s' := by
  intro k g' hg' hj
  rw [hG] at hg'
  by_cases hk : k = operator
  · subst hk
    rw [Function.update_self] at hg'
    obtain rfl := Option.some.inj hg'
    exact hx hj
  · rw [Function.update_of_ne hk] at hg'
    exact .inr ⟨g', hg', hj, rfl, rfl⟩

lemma Ledger.balances_lt (hL : Ledger env s) :
    s.tokens.balance s.settings.protocolTokenAccount
      + s.tokens.balance s.settings.stakeTokenAccount < 2 ^ 64 := by
  have hsupply : (s.tokens.balance s.settings.protocolTokenAccount : ℤ)
      + s.tokens.balance s.settings.stakeTokenAccount ≤ s.tokens.supply s.settings.mint :=
    Tokens.balance_add_le_supply hL.treasury_ne_pool (by simp [hL.treasury]) (by simp [hL.pool])
  have hbound := hL.supply
  omega

/-- The counter of the staked tokens has room for all that the treasury holds. -/
lemma Exact.room (hL : Ledger env s) (hexact : Exact s) :
    s.settings.totalStaked + s.tokens.balance s.settings.protocolTokenAccount < 2 ^ 64 := by
  have hround := hL.solvent.rounded precision_pos
  obtain ⟨-, hshares, hvault, hpending⟩ := hL.solvent.totals_nonneg precision_pos
  have hfit := hL.balances_lt
  have hstaked := hexact.staked
  rw [← balance_eq] at hround
  omega

lemma Epoch.FundedBy.word (hfresh : Fresh env s₀) (run : Run (GarStep env) s₀ tr s)
    (hrec : Reconciled tr) (h : epoch.FundedBy index tr) : epoch.totalEligibleRewards < 2 ^ 64 := by
  obtain ⟨-, hrate, later, x, earlier, rfl, -, -, -, hle⟩ := h
  obtain ⟨s₁, run₁⟩ := run.of_append
  cases run₁ with
  | @cons _ s₂ e _ run₂ last =>
    obtain ⟨hL, -⟩ := run_ledger hfresh run₂ fun y hy =>
      hrec y (List.mem_append_right _ (List.mem_cons_of_mem _ hy))
    have hsupply : (s₂.treasury : ℤ) ≤ s₂.tokens.supply s₂.settings.mint :=
      Tokens.balance_le_supply (by simp [hL.treasury])
    have hbound := hL.supply
    have hshare : s₂.treasury * epoch.rewardRate / rateScale ≤ s₂.treasury := by
      refine Nat.div_le_of_le_mul ?_
      rw [Nat.mul_comm]
      exact Nat.mul_le_mul_right _ (hrate.trans (by norm_num [Gar.maxRewardRate, rateScale]))
    have hle : epoch.totalEligibleRewards ≤ s₂.treasury * epoch.rewardRate / rateScale := hle
    omega

end

namespace SmallNetwork

end SmallNetwork

end Gar
end ArioSolana
