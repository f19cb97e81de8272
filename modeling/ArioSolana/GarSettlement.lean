import ArioSolana.GarLedger

/-!
# Settlement in words

A settlement multiplies in 128 bits when the product fits, and else in two parts. Either way it
credits the floor of the exact reward, up to the largest word. Settling more often on the same
principal only loses the floors in between.
-/

namespace ArioSolana
namespace Gar

open Checked Solana

/-- What is credited by settling at each of the accumulators `cs` in turn, always on the principal
that `delegation` has at the start. -/
def settleAt (gateway : Gateway) (delegation : Delegation) : List ℕ → ℕ
  | [] => 0
  | c :: cs =>
    (settleDelegateRewards { gateway with cumulativeRewardPerToken := c } delegation).settled
      + settleAt gateway { delegation with rewardDebt := c } cs

section

variable {amount delta : ℕ} {g : Gateway} {d : Delegation} {c : ℕ} {cs : List ℕ}

lemma le_pendingRewards (ha : amount < 2 ^ 64) (h : 2 ^ 64 ≤ amount * delta / rewardPrecision) :
    2 ^ 64 ≤ pendingRewards amount delta := by
  unfold pendingRewards checkedMul
  split
  · simpa using h
  · have hsplit : amount * delta / rewardPrecision = amount * (delta / rewardPrecision)
        + amount * (delta % rewardPrecision) / rewardPrecision := by
      conv_lhs => rw [← Nat.div_add_mod delta rewardPrecision]
      rw [Nat.mul_add, Nat.mul_left_comm, Nat.mul_add_div (by decide)]
    have hrem : amount * (delta % rewardPrecision) < 2 ^ 64 * rewardPrecision :=
      Nat.mul_lt_mul'' ha (Nat.mod_lt _ (by decide))
    have hrem' : amount * (delta % rewardPrecision) < 2 ^ 128 := hrem.trans (by decide)
    simp only [Option.map_none, Option.getD_none]
    rw [saturatingMul_of_lt hrem']
    rw [hsplit] at h
    rcases lt_or_ge (amount * (delta / rewardPrecision)) (2 ^ 128) with hquot | hquot
    · rw [saturatingMul_of_lt hquot, saturatingAdd]
      exact le_min h (by norm_num)
    · have hcut : saturatingMul 128 amount (delta / rewardPrecision) = 2 ^ 128 - 1 := by
        unfold saturatingMul
        exact min_eq_right (by omega)
      rw [hcut, saturatingAdd]
      exact le_min ((by norm_num : 2 ^ 64 ≤ 2 ^ 128 - 1).trans (Nat.le_add_right ..)) (by norm_num)

/-- A settlement credits the floor of the exact reward, up to the largest word. -/
lemma settled_eq_min (ha : d.amount < 2 ^ 64) (hlt : d.rewardDebt ≤ g.cumulativeRewardPerToken) :
    (settleDelegateRewards g d).settled
      = min (d.amount * (g.cumulativeRewardPerToken - d.rewardDebt) / rewardPrecision)
        (2 ^ 64 - 1) := by
  simp only [settleDelegateRewards]
  split
  · rcases lt_or_ge (d.amount * (g.cumulativeRewardPerToken - d.rewardDebt) / rewardPrecision)
      (2 ^ 64) with hword | hword
    · rw [pendingRewards_eq ha hword, tryFrom, if_pos hword, Option.getD_some]
      omega
    · have hge := le_pendingRewards ha hword
      rw [tryFrom, if_neg (not_lt.mpr hge), Option.getD_none]
      omega
  · rename_i hidle
    have hzero : d.amount * (g.cumulativeRewardPerToken - d.rewardDebt) = 0 := by
      rw [Nat.mul_eq_zero]
      omega
    rw [hzero, Nat.zero_div, Nat.zero_min]

lemma floor_add (x y : ℕ) :
    x / rewardPrecision + y / rewardPrecision ≤ (x + y) / rewardPrecision ∧
      (x + y) / rewardPrecision ≤ x / rewardPrecision + y / rewardPrecision + 1 := by
  unfold rewardPrecision
  omega

/-- Settling at several accumulators, against the exact reward up to the last of them. -/
lemma settleAt_bounds (ha : d.amount < 2 ^ 64) (hne : cs ≠ [])
    (hmono : (d.rewardDebt :: cs).Pairwise (· ≤ ·))
    (hword : d.amount * (cs.getLast hne - d.rewardDebt) / rewardPrecision < 2 ^ 64) :
    settleAt g d cs ≤ d.amount * (cs.getLast hne - d.rewardDebt) / rewardPrecision ∧
      d.amount * (cs.getLast hne - d.rewardDebt) / rewardPrecision < settleAt g d cs +
          cs.length := by
  induction cs generalizing d with
  | nil => exact absurd rfl hne
  | cons c cs ih =>
    obtain ⟨hle, hmono⟩ := List.pairwise_cons.mp hmono
    have hfirst : d.rewardDebt ≤ c := hle c List.mem_cons_self
    have hstep := settled_eq_min (g := { g with cumulativeRewardPerToken := c }) ha hfirst
    simp only at hstep
    rcases List.eq_nil_or_concat cs with rfl | ⟨_, _, hcs⟩
    · simp only [List.getLast_singleton] at hword ⊢
      rw [settleAt, settleAt, hstep, List.length_singleton]
      omega
    · have hne' : cs ≠ [] := by
        rintro rfl
        simp at hcs
      rw [List.getLast_cons hne'] at hword ⊢
      have hlast : c ≤ cs.getLast hne' :=
        (List.pairwise_cons.mp hmono).1 _ (List.getLast_mem hne')
      have hsum : d.amount * (cs.getLast hne' - d.rewardDebt)
          = d.amount * (c - d.rewardDebt) + d.amount * (cs.getLast hne' - c) := by
        rw [← Nat.mul_add]
        congr 1
        omega
      obtain ⟨hlow, hhigh⟩ := floor_add (d.amount * (c - d.rewardDebt))
        (d.amount * (cs.getLast hne' - c))
      rw [hsum] at hword ⊢
      obtain ⟨hih, hih'⟩ := ih (d := { d with rewardDebt := c }) ha hne' hmono (by
        simp only
        omega)
      simp only at hih hih'
      rw [settleAt, hstep, List.length_cons]
      omega

end

/-- **Settlement is exact.** For all words a settlement credits the floor of the exact reward, or
the largest word when that leaves it, whichever way the product is computed. Settling at any number
of accumulators in between, on the same principal, credits at most what settling once at the last
credits, and less by no more than their number. -/
theorem settlement_exact (g : Gateway) (d : Delegation) (ha : d.amount < 2 ^ 64) :
    (d.rewardDebt < g.cumulativeRewardPerToken → g.cumulativeRewardPerToken < 2 ^ 128 →
      (settleDelegateRewards g d).settled
        = if d.amount * (g.cumulativeRewardPerToken - d.rewardDebt) / 10 ^ 18 < 2 ^ 64
          then d.amount * (g.cumulativeRewardPerToken - d.rewardDebt) / 10 ^ 18 else 2 ^ 64 - 1) ∧
    ∀ cs : List ℕ, ∀ hne : cs ≠ [], (d.rewardDebt :: cs).Pairwise (· ≤ ·) →
      (∀ c ∈ cs, d.amount * (c - d.rewardDebt) / 10 ^ 18 < 2 ^ 64) →
      let once := (settleDelegateRewards
        { g with cumulativeRewardPerToken := cs.getLast hne } d).settled
      settleAt g d cs ≤ once ∧ once ≤ settleAt g d cs + cs.length := by
  have hprecision : rewardPrecision = 10 ^ 18 := rfl
  rw [← hprecision]
  refine ⟨fun hlt _ => ?_, fun cs hne hmono hword => ?_⟩
  · rw [settled_eq_min ha hlt.le]
    split <;> omega
  · have hlast := hword _ (List.getLast_mem hne)
    obtain ⟨hlow, hhigh⟩ := settleAt_bounds (g := g) ha hne hmono hlast
    have honce := settled_eq_min (g := { g with cumulativeRewardPerToken := cs.getLast hne }) ha
      ((List.pairwise_cons.mp hmono).1 _ (List.getLast_mem hne))
    simp only at honce ⊢
    rw [honce]
    omega

/-- A gateway whose accumulator does not fit in a word. -/
def fullGateway : Gateway where
  operator := Pubkey.default
  label := []
  fqdn := []
  port := 443
  protocol := .https
  properties := []
  note := []
  operatorStake := 0
  totalDelegatedStake := 0
  status := .joined
  startTimestamp := 0
  leaveTimestamp := none
  leaveEpochDuration := 0
  stats := {}
  weights := {}
  settings := ⟨true, 0, 0, false, none, none⟩
  registryIndex := 0
  observerAddress := Pubkey.default
  cumulativeRewardPerToken := 2 ^ 100
  version := gatewayVersion
  operationsAddress := Pubkey.default

theorem settlement_exact_small :
    (settleDelegateRewards fullGateway ⟨Pubkey.default, Pubkey.default, 2 ^ 23, 0, 1⟩).settled
      = 10633823966279326983 ∧
    settleAt fullGateway ⟨Pubkey.default, Pubkey.default, 2 ^ 23, 0, 1⟩ [2 ^ 99, 2 ^ 100]
      ≤ 10633823966279326983 := by
  have hfloor : (2 ^ 23 * (2 ^ 100 - 1)) / 10 ^ 18 = 10633823966279326983 := by norm_num
  obtain ⟨hexact, hsteps⟩ := settlement_exact fullGateway
    ⟨Pubkey.default, Pubkey.default, 2 ^ 23, 0, 1⟩ (by norm_num)
  have hsettled := hexact (by decide) (by decide)
  have hmore := (hsteps [2 ^ 99, 2 ^ 100] (by simp) (by norm_num) (by norm_num)).1
  have honce : (settleDelegateRewards fullGateway
      ⟨Pubkey.default, Pubkey.default, 2 ^ 23, 0, 1⟩).settled = 10633823966279326983 := by
    rw [hsettled]
    simp only [fullGateway, hfloor]
    norm_num
  exact ⟨honce, hmore.trans_eq honce⟩

end Gar
end ArioSolana
