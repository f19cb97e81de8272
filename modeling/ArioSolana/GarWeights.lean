import ArioSolana.GarNames

/-!
# The weight of a gateway

The composite weight is a product of four scaled factors, computed in a word of 128 bits and cut
down to one of 64. Within the bounds that stakes, times and counts keep, each factor is the
mathematical one, the product fits, and a larger stake, a longer tenure or a better record never
lowers the weight.
-/

namespace ArioSolana
namespace Gar

open Checked Solana

/-- What the weights of a gateway are computed from. -/
structure Weighing where
  totalStake : ℕ
  startTimestamp : ℤ
  currentTimestamp : ℤ
  tenureWeightDuration : ℤ
  maxTenureWeight : ℕ
  stats : GatewayStats

namespace Weighing

/-- The minimum stake of an operator that the factors are scaled by. -/
def minOperatorStake : ℕ := 20000000000

/-- The weights that the program computes. -/
def compute (x : Weighing) : Except GarError GatewayWeights :=
  GatewayWeights.compute x.totalStake minOperatorStake x.startTimestamp x.currentTimestamp
    x.tenureWeightDuration x.maxTenureWeight x.stats rateScale

/-- The bounds that stakes, times and counts keep; the tenure settings are some that the
authority could set. -/
structure Sound (x : Weighing) : Prop where
  stake : x.totalStake ≤ 10 ^ 15
  started : 0 ≤ x.startTimestamp
  running : x.startTimestamp ≤ x.currentTimestamp
  now : x.currentTimestamp < 2 ^ 32
  accepted : ∃ authority s s',
    adminSetTenureWeight authority x.tenureWeightDuration x.maxTenureWeight s = .ok s'
  passed : x.stats.passedEpochs ≤ x.stats.totalEpochs
  observed : x.stats.observedEpochs ≤ x.stats.prescribedEpochs

/-! ### The factors -/

/-- The seconds since the gateway started. -/
def timeRunning (x : Weighing) : ℕ := (x.currentTimestamp - x.startTimestamp).toNat

def stakeWeight (x : Weighing) : ℕ := x.totalStake * rateScale / minOperatorStake

/-- A gateway that just started counts like one that has run for a second. -/
def tenureWeight (x : Weighing) : ℕ :=
  if x.timeRunning = 0 then rateScale / x.tenureWeightDuration.toNat
  else min (x.timeRunning * rateScale / x.tenureWeightDuration.toNat)
    (x.maxTenureWeight * rateScale)

/-- The share of `good` among `all`, with one good one more. -/
def performance (good all : ℕ) : ℕ := (1 + good) * rateScale / (1 + all)

def gatewayRatio (x : Weighing) : ℕ := performance x.stats.passedEpochs x.stats.totalEpochs

def observerRatio (x : Weighing) : ℕ :=
  performance x.stats.observedEpochs x.stats.prescribedEpochs

def product (x : Weighing) : ℕ := x.stakeWeight * x.tenureWeight * x.gatewayRatio * x.observerRatio

/-- The exact weights: the composite one is the product, scaled down and capped. -/
def weights (x : Weighing) : GatewayWeights where
  stakeWeight := x.stakeWeight
  tenureWeight := x.tenureWeight
  gatewayPerformanceRatio := x.gatewayRatio
  observerPerformanceRatio := x.observerRatio
  compositeWeight := min (x.product / 10 ^ 18) (2 ^ 64 - 1)

/-- `y` has at least the stake, the tenure and the record of `x`, under the same settings and with
the same totals. -/
structure Le (x y : Weighing) : Prop where
  stake : x.totalStake ≤ y.totalStake
  time : x.timeRunning ≤ y.timeRunning
  passed : x.stats.passedEpochs ≤ y.stats.passedEpochs
  observed : x.stats.observedEpochs ≤ y.stats.observedEpochs
  totalEpochs : x.stats.totalEpochs = y.stats.totalEpochs
  prescribedEpochs : x.stats.prescribedEpochs = y.stats.prescribedEpochs
  tenureWeightDuration : x.tenureWeightDuration = y.tenureWeightDuration
  maxTenureWeight : x.maxTenureWeight = y.maxTenureWeight

section

variable {x y : Weighing} {good good' all : ℕ}

lemma Sound.tenure (h : x.Sound) : 0 < x.tenureWeightDuration ∧ 0 < x.maxTenureWeight := by
  obtain ⟨authority, s, s', hset⟩ := h.accepted
  simp only [adminSetTenureWeight, bind_eq_ok, require_eq_ok, exists_const] at hset
  obtain ⟨-, -, hduration, hmax, -⟩ := hset
  exact ⟨hduration, hmax⟩

/-! ### Bounds -/

lemma Sound.timeRunning_lt (h : x.Sound) : x.timeRunning < 2 ^ 32 := by
  have hstarted := h.started
  have hnow := h.now
  unfold timeRunning
  omega

lemma Sound.stakeWeight_le (h : x.Sound) : x.stakeWeight ≤ 5 * 10 ^ 10 := by
  have hstake := h.stake
  unfold stakeWeight minOperatorStake rateScale
  omega

lemma Sound.tenureWeight_le (h : x.Sound) : x.tenureWeight ≤ 2 ^ 32 * 10 ^ 6 := by
  have hrunning := h.timeRunning_lt
  unfold tenureWeight rateScale
  split
  · exact (Nat.div_le_self ..).trans (by norm_num)
  · refine (min_le_left ..).trans ((Nat.div_le_self ..).trans ?_)
    omega

lemma performance_le (h : good ≤ all) : performance good all ≤ 10 ^ 6 := by
  refine Nat.div_le_of_le_mul ?_
  rw [show rateScale = 10 ^ 6 from rfl]
  exact Nat.mul_le_mul_right _ (by omega)

/-- The four factors together fit a word of 128 bits, and so do they one after the other. -/
lemma Sound.products_lt (h : x.Sound) :
    x.stakeWeight * x.tenureWeight < 2 ^ 128 ∧
      x.stakeWeight * x.tenureWeight * x.gatewayRatio < 2 ^ 128 ∧ x.product < 2 ^ 128 := by
  have htwo : x.stakeWeight * x.tenureWeight ≤ 5 * 10 ^ 10 * (2 ^ 32 * 10 ^ 6) :=
    Nat.mul_le_mul h.stakeWeight_le h.tenureWeight_le
  have hthree : x.stakeWeight * x.tenureWeight * x.gatewayRatio
      ≤ 5 * 10 ^ 10 * (2 ^ 32 * 10 ^ 6) * 10 ^ 6 :=
    Nat.mul_le_mul htwo (performance_le h.passed)
  have hfour : x.product ≤ 5 * 10 ^ 10 * (2 ^ 32 * 10 ^ 6) * 10 ^ 6 * 10 ^ 6 :=
    Nat.mul_le_mul hthree (performance_le h.observed)
  exact ⟨htwo.trans_lt (by norm_num), hthree.trans_lt (by norm_num), hfour.trans_lt (by norm_num)⟩

lemma Sound.factors_lt (h : x.Sound) : x.stakeWeight < 2 ^ 64 ∧ x.tenureWeight < 2 ^ 64 ∧
    x.gatewayRatio < 2 ^ 64 ∧ x.observerRatio < 2 ^ 64 :=
  ⟨h.stakeWeight_le.trans_lt (by norm_num), h.tenureWeight_le.trans_lt (by norm_num),
    (performance_le h.passed).trans_lt (by norm_num),
    (performance_le h.observed).trans_lt (by norm_num)⟩

/-! ### The program computes the exact weights -/

lemma Sound.elapsed (h : x.Sound) : checkedSubSigned 64 x.currentTimestamp x.startTimestamp
    = some (x.timeRunning : ℤ) := by
  have hstarted := h.started
  have hrunning := h.running
  have hnow := h.now
  have hcast : (x.timeRunning : ℤ) = x.currentTimestamp - x.startTimestamp := by
    unfold timeRunning
    omega
  rw [hcast]
  exact if_pos (by unfold fitsSigned; omega)

lemma Sound.tenure_eq (h : x.Sound) :
    (if 0 < x.tenureWeightDuration ∧ (0 : ℤ) < x.timeRunning then
      truncate 64 (min ((x.timeRunning : ℤ).toNat * rateScale / x.tenureWeightDuration.toNat)
        (x.maxTenureWeight * rateScale))
    else if (x.timeRunning : ℤ) = 0 ∧ 0 < x.tenureWeightDuration then
      truncate 64 (rateScale / x.tenureWeightDuration.toNat)
    else 0) = x.tenureWeight := by
  obtain ⟨hduration, -⟩ := h.tenure
  have hlt := h.factors_lt.2.1
  unfold tenureWeight at hlt ⊢
  rw [Int.toNat_natCast]
  split at hlt
  · rename_i hzero
    rw [if_neg (by omega), if_pos (by omega), if_pos hzero, truncate_of_lt hlt]
  · rename_i hpos
    rw [if_pos (by omega), if_neg hpos, truncate_of_lt hlt]

lemma capped (w : ℕ) : (tryFrom 64 w).getD (2 ^ 64 - 1) = min w (2 ^ 64 - 1) := by
  unfold tryFrom
  split
  · rw [Option.getD_some]
    omega
  · rw [Option.getD_none]
    omega

lemma Sound.compute_eq (h : x.Sound) : x.compute = .ok x.weights := by
  obtain ⟨hstake, htenure, hgateway, hobserver⟩ := h.factors_lt
  obtain ⟨htwo, hthree, hfour⟩ := h.products_lt
  have hminimum : 0 < minOperatorStake := by decide
  have hcubed : saturatingMul 128 (saturatingMul 128 rateScale rateScale) rateScale = 10 ^ 18 := by
    decide
  unfold compute GatewayWeights.compute
  dsimp only
  rw [if_pos hminimum, if_pos h.running, h.elapsed, okOr_some, ok_bind, h.tenure_eq,
    ← stakeWeight, truncate_of_lt hstake, ← performance, ← performance, ← gatewayRatio,
    ← observerRatio, truncate_of_lt hgateway, truncate_of_lt hobserver]
  have htwo' : checkedMul 128 x.stakeWeight x.tenureWeight = some _ := if_pos htwo
  have hthree' : checkedMul 128 (x.stakeWeight * x.tenureWeight) x.gatewayRatio = some _ :=
    if_pos hthree
  have hfour' : checkedMul 128 (x.stakeWeight * x.tenureWeight * x.gatewayRatio) x.observerRatio
    = some x.product := if_pos hfour
  rw [htwo', Option.getD_some, hthree', Option.getD_some, hfour', Option.getD_some, hcubed]
  have hdiv : checkedDiv x.product (10 ^ 18) = some _ := if_neg (by decide)
  rw [hdiv, Option.getD_some, capped]
  rfl

/-! ### Order -/

lemma performance_mono (h : good ≤ good') : performance good all ≤ performance good' all :=
  Nat.div_le_div_right (Nat.mul_le_mul_right _ (by omega))

lemma Sound.tenureWeight_mono (h : x.Sound) (hle : x.Le y) : x.tenureWeight ≤ y.tenureWeight := by
  obtain ⟨hduration, hmax⟩ := h.tenure
  have htime := hle.time
  unfold tenureWeight
  rw [← hle.tenureWeightDuration, ← hle.maxTenureWeight]
  split
  · split
    · exact le_rfl
    · rename_i hrunning
      refine le_min (Nat.div_le_div_right ?_) ((Nat.div_le_self ..).trans ?_)
      · exact Nat.le_mul_of_pos_left _ (Nat.pos_of_ne_zero hrunning)
      · exact Nat.le_mul_of_pos_left _ hmax
  · rename_i hrunning
    rw [if_neg (by omega)]
    exact min_le_min (Nat.div_le_div_right (Nat.mul_le_mul_right _ htime)) le_rfl

lemma Sound.product_mono (h : x.Sound) (hle : x.Le y) : x.product ≤ y.product := by
  refine Nat.mul_le_mul (Nat.mul_le_mul (Nat.mul_le_mul ?_ (h.tenureWeight_mono hle)) ?_) ?_
  · exact Nat.div_le_div_right (Nat.mul_le_mul_right _ hle.stake)
  · rw [gatewayRatio, gatewayRatio, ← hle.totalEpochs]
    exact performance_mono hle.passed
  · rw [observerRatio, observerRatio, ← hle.prescribedEpochs]
    exact performance_mono hle.observed

end

end Weighing

/-- **The composite weight is exact and ordered.** Within the bounds no cast to 64 bits cuts a
factor and no product leaves the word of 128 bits, so the program's weights are the exact ones; and
a gateway with at least the stake, the time and the record of another has at least its weight. -/
theorem composite_weight_exact (x : Weighing) (h : x.Sound) :
    x.compute = .ok x.weights ∧
    (x.stakeWeight < 2 ^ 64 ∧ x.tenureWeight < 2 ^ 64 ∧ x.gatewayRatio < 2 ^ 64 ∧
      x.observerRatio < 2 ^ 64) ∧
    (checkedMul 128 x.stakeWeight x.tenureWeight).isSome ∧
    (checkedMul 128 (x.stakeWeight * x.tenureWeight) x.gatewayRatio).isSome ∧
    checkedMul 128 (x.stakeWeight * x.tenureWeight * x.gatewayRatio) x.observerRatio
      = some x.product ∧
    x.weights.compositeWeight = min (x.stakeWeight * x.tenureWeight * x.gatewayRatio
      * x.observerRatio / 10 ^ 18) (2 ^ 64 - 1) ∧
    ∀ y : Weighing, y.Sound → x.Le y →
      ∃ w, y.compute = .ok w ∧ x.weights.compositeWeight ≤ w.compositeWeight := by
  obtain ⟨htwo, hthree, hfour⟩ := h.products_lt
  refine ⟨h.compute_eq, h.factors_lt, ?_, ?_, if_pos hfour, rfl, fun y hy hle =>
    ⟨y.weights, hy.compute_eq, ?_⟩⟩
  · rw [checkedMul, if_pos htwo]
    rfl
  · rw [checkedMul, if_pos hthree]
    rfl
  · exact min_le_min (Nat.div_le_div_right (h.product_mono hle)) le_rfl

namespace SmallWheel

/-- A gateway with the largest stake, after the longest time, under settings that let its tenure
count in full. -/
def largest : Weighing := ⟨10 ^ 15, 0, 2 ^ 32 - 1, 1, 2 ^ 32, ⟨9, 1, 10, 5, 5, 0, 0⟩⟩

lemma largest_accepted : ∃ authority s s', adminSetTenureWeight authority
    largest.tenureWeightDuration largest.maxTenureWeight s = .ok s' :=
  ⟨⟨4⟩, state weights 50 2, _, eq_ok_outcome (s := state weights 50 2) (by decide +kernel)⟩

end SmallWheel

open SmallWheel in
theorem composite_weight_exact_small : largest.compute = .ok largest.weights :=
  (composite_weight_exact largest ⟨by decide, by decide, by decide, by decide, largest_accepted,
    by decide, by decide⟩).1

end Gar
end ArioSolana
