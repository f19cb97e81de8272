import ArioSolana.ArnsTypes

/-!
# Demand

The demand factor of the name program and its table of fees. They change once for each period, and
the periods that nobody cranked are made up for when the account is used the next time: one by one
for a short gap, and for a long one with the cycles of idle periods taken together.
-/

namespace ArioSolana
namespace Arns

open Checked

/-! ### Constants -/

/-- 1.0 -/
def demandFactorScale : ℕ := 1000000

/-- 0.5 -/
def demandFactorMin : ℕ := 500000

def maxDemandFactor : ℕ := 1000 * demandFactorScale

/-- 1.05 -/
def demandFactorUpAdjustment : ℕ := 1050000

/-- 0.985 -/
def demandFactorDownAdjustment : ℕ := 985000

def maxPeriodsAtMinDemandFactor : ℕ := 7

/-- One day. -/
def periodLengthSeconds : ℕ := 86400

def maxRolloverPeriods : ℕ := 100

def demandCriteriaRevenue : ℕ := 0

def demandCriteriaPurchases : ℕ := 1

def demandFactorVersion : ℕ × ℕ × ℕ := (1, 0, 0)

abbrev Fees := Vector ℕ numNameLengthFees

def genesisFees : Fees :=
  #v[500000000000, 100000000000, 10000000000, 5000000000, 2500000000, 1500000000, 800000000,
    500000000, 400000000, 350000000, 300000000, 250000000, 200000000, 200000000, 200000000,
    200000000, 200000000, 200000000, 200000000, 200000000, 200000000, 200000000, 200000000,
    200000000, 200000000, 200000000, 200000000, 200000000, 200000000, 200000000, 200000000,
    200000000, 200000000, 200000000, 200000000, 200000000, 200000000, 200000000, 200000000,
    200000000, 200000000, 200000000, 200000000, 200000000, 200000000, 200000000, 200000000,
    200000000, 200000000, 200000000, 200000000]

/-- How a call that only reads or writes the demand factor ends badly. -/
inductive ArnsError where
  | invalidNameFormat
  | arithmeticOverflow
  | invalidParameter
  /-- the program stops without an error of its own -/
  | panicked
deriving DecidableEq, Repr

/-! ### One period -/

/-- A value times a multiplier that is scaled by `demandFactorScale`. -/
def mulScaled (value multiplier : ℕ) : Except ArnsError ℕ := do
  let product ← okOr (checkedMul 128 value multiplier) .arithmeticOverflow
  okOr (tryFrom 64 (product / demandFactorScale)) .arithmeticOverflow

/-- The mean over the trailing periods. The sum is taken with overflow checks. -/
def mvgAvgTrailing (trailing : Vector ℕ movingAvgPeriodCount) : Except ArnsError ℕ := do
  let sum ← trailing.foldlM (fun sum x => okOr (checkedAdd 64 sum x) .panicked) 0
  return sum / movingAvgPeriodCount

def DemandFactor.mvgAvgTrailingPurchases (demand : DemandFactor) : Except ArnsError ℕ :=
  mvgAvgTrailing demand.trailingPeriodPurchases

def DemandFactor.mvgAvgTrailingRevenues (demand : DemandFactor) : Except ArnsError ℕ :=
  mvgAvgTrailing demand.trailingPeriodRevenues

/-- Demand is increasing: the period beats the mean of the trailing ones. -/
def DemandFactor.isDemandIncreasing (demand : DemandFactor) : Except ArnsError Bool :=
  if demand.criteria = demandCriteriaPurchases then
    if demand.purchasesThisPeriod = 0 then return false
    else do
      let avg ← demand.mvgAvgTrailingPurchases
      return avg < demand.purchasesThisPeriod
  else
    if demand.revenueThisPeriod = 0 then return false
    else do
      let avg ← demand.mvgAvgTrailingRevenues
      return avg < demand.revenueThisPeriod

/-- Multiply all fees for good. -/
def updateFees (fees : Fees) (multiplier : ℕ) : Except ArnsError Fees :=
  fees.mapM fun fee => mulScaled fee multiplier

/-- The factor after a period, before the check of the floor. -/
def DemandFactor.adjust (demand : DemandFactor) (demandIncreasing : Bool) : Except ArnsError ℕ :=
  if demandIncreasing then do
    let raised ← mulScaled demand.currentDemandFactor demandFactorUpAdjustment
    return min raised maxDemandFactor
  else if demandFactorMin < demand.currentDemandFactor then
    mulScaled demand.currentDemandFactor demandFactorDownAdjustment
  else return demand.currentDemandFactor

/-- At the floor the factor dwells, and then the fees are halved and it starts again. -/
def DemandFactor.checkFloor (demand : DemandFactor) (factor : ℕ) : Except ArnsError DemandFactor :=
  if factor ≤ demandFactorMin then
    if maxPeriodsAtMinDemandFactor ≤ demand.consecutivePeriodsWithMinDemandFactor then do
      let fees ← updateFees demand.fees demandFactorMin
      return { demand with
        fees
        currentDemandFactor := demandFactorScale
        consecutivePeriodsWithMinDemandFactor := 0 }
    else do
      let consecutive ← okOr (checkedAdd 32 demand.consecutivePeriodsWithMinDemandFactor 1)
        .arithmeticOverflow
      return { demand with
        currentDemandFactor := demandFactorMin
        consecutivePeriodsWithMinDemandFactor := consecutive }
  else return { demand with
    currentDemandFactor := factor
    consecutivePeriodsWithMinDemandFactor := 0 }

/-- Close the period: its counters go to the trailing ones. -/
def DemandFactor.closePeriod (demand : DemandFactor) : Except ArnsError DemandFactor := do
  let ringIdx := demand.currentPeriod % movingAvgPeriodCount
  let currentPeriod ← okOr (checkedAdd 64 demand.currentPeriod 1) .arithmeticOverflow
  return { demand with
    trailingPeriodPurchases :=
      demand.trailingPeriodPurchases.setIfInBounds ringIdx demand.purchasesThisPeriod
    trailingPeriodRevenues :=
      demand.trailingPeriodRevenues.setIfInBounds ringIdx demand.revenueThisPeriod
    purchasesThisPeriod := 0
    revenueThisPeriod := 0
    currentPeriod }

/-- Roll the demand state forward by one period. -/
def rollOnePeriod (demand : DemandFactor) : Except ArnsError DemandFactor := do
  let demandIncreasing ← demand.isDemandIncreasing
  let factor ← demand.adjust demandIncreasing
  let demand ← demand.checkFloor factor
  demand.closePeriod

/-- Roll `n` periods, one after the other. -/
def rollPeriods : ℕ → DemandFactor → Except ArnsError DemandFactor
  | 0, demand => return demand
  | n + 1, demand => do rollPeriods n (← rollOnePeriod demand)

/-! ### Idle periods -/

/-- The factor after an idle period, before the check of the floor. -/
def zeroActivityFactor (factor : ℕ) : ℕ :=
  if demandFactorMin < factor then
    truncate 64 (factor * demandFactorDownAdjustment / demandFactorScale)
  else factor

/-- Factor and count after an idle period, and whether the fees are halved. -/
def zeroActivityStep (factor consecutive : ℕ) : ℕ × ℕ × Bool :=
  if zeroActivityFactor factor ≤ demandFactorMin then
    if maxPeriodsAtMinDemandFactor ≤ consecutive then (demandFactorScale, 0, true)
    else (demandFactorMin, consecutive + 1, false)
  else (zeroActivityFactor factor, 0, false)

section

variable {factor consecutive : ℕ}

lemma zeroActivityStep_cases (factor consecutive : ℕ) :
    (zeroActivityFactor factor ≤ demandFactorMin ∧ maxPeriodsAtMinDemandFactor ≤ consecutive ∧
      zeroActivityStep factor consecutive = (demandFactorScale, 0, true)) ∨
    (zeroActivityFactor factor ≤ demandFactorMin ∧ consecutive < maxPeriodsAtMinDemandFactor ∧
      zeroActivityStep factor consecutive = (demandFactorMin, consecutive + 1, false)) ∨
    (demandFactorMin < zeroActivityFactor factor ∧
      zeroActivityStep factor consecutive = (zeroActivityFactor factor, 0, false)) := by
  unfold zeroActivityStep
  split
  · rename_i hfloor
    split
    · rename_i hdwell
      exact .inl ⟨hfloor, hdwell, rfl⟩
    · rename_i hdwell
      exact .inr (.inl ⟨hfloor, Nat.lt_of_not_le hdwell, rfl⟩)
  · rename_i hfloor
    exact .inr (.inr ⟨Nat.lt_of_not_le hfloor, rfl⟩)

lemma zeroActivityFactor_lt (h : demandFactorMin < factor) :
    zeroActivityFactor factor < factor := by
  rw [zeroActivityFactor, if_pos h]
  refine truncate_le.trans_lt (Nat.div_lt_of_lt_mul ?_)
  unfold demandFactorMin at h
  unfold demandFactorDownAdjustment demandFactorScale
  omega

lemma zeroActivityStep_decreasing (h : ¬ (zeroActivityStep factor consecutive).2.2 = true) :
    Prod.Lex (· < ·) (· < ·)
      ((zeroActivityStep factor consecutive).1 - demandFactorMin,
        maxPeriodsAtMinDemandFactor - (zeroActivityStep factor consecutive).2.1)
      (factor - demandFactorMin, maxPeriodsAtMinDemandFactor - consecutive) := by
  rcases zeroActivityStep_cases factor consecutive with
    ⟨-, -, heq⟩ | ⟨-, hdwell, heq⟩ | ⟨hfloor, heq⟩
  · rw [heq] at h
    exact absurd rfl h
  · simp only [heq, Nat.sub_self]
    by_cases hlt : demandFactorMin < factor
    · exact .left _ _ (by omega)
    · rw [Nat.sub_eq_zero_of_le (Nat.le_of_not_lt hlt)]
      exact .right _ (by omega)
  · simp only [heq]
    by_cases hlt : demandFactorMin < factor
    · exact .left _ _ (by have := zeroActivityFactor_lt hlt; omega)
    · rw [zeroActivityFactor, if_neg hlt] at hfloor
      exact absurd hfloor hlt

end

/-- The number of idle periods up to the first halving, added to `steps`. -/
def zeroActivityCycleFrom (factor consecutive steps : ℕ) : ℕ :=
  if (zeroActivityStep factor consecutive).2.2 = true then steps + 1
  else zeroActivityCycleFrom (zeroActivityStep factor consecutive).1
    (zeroActivityStep factor consecutive).2.1 (steps + 1)
termination_by (factor - demandFactorMin, maxPeriodsAtMinDemandFactor - consecutive)
decreasing_by exact zeroActivityStep_decreasing ‹_›

/-- The number of idle periods in a full cycle of the demand factor. -/
def zeroActivityCycleLength : ℕ := zeroActivityCycleFrom demandFactorScale 0 0

/-- What idle periods change. -/
structure Idle where
  factor : ℕ
  consecutive : ℕ
  fees : Fees

def Idle.step (x : Idle) : Except ArnsError Idle := do
  let r := zeroActivityStep x.factor x.consecutive
  let fees ← if r.2.2 then updateFees x.fees demandFactorMin else pure x.fees
  return ⟨r.1, r.2.1, fees⟩

/-- The state at the end of a cycle. -/
def Idle.AtBoundary (x : Idle) : Prop := x.factor = demandFactorScale ∧ x.consecutive = 0

instance (x : Idle) : Decidable x.AtBoundary := inferInstanceAs (Decidable (_ ∧ _))

/-- Step to the next boundary; the result says how many periods remain. -/
def Idle.toBoundary (x : Idle) : ℕ → Except ArnsError (Idle × ℕ)
  | 0 => return (x, 0)
  | remaining + 1 =>
    if x.AtBoundary then return (x, remaining + 1)
    else do (← x.step).toBoundary remaining

/-- Halve the fees once for each cycle, until all are zero. -/
def halveCycles (fees : Fees) : ℕ → Except ArnsError Fees
  | 0 => return fees
  | cycles + 1 =>
    if fees.any (· ≠ 0) then do halveCycles (← updateFees fees demandFactorMin) cycles
    else return fees

/-- The part of a cycle that remains. -/
def Idle.steps (x : Idle) : ℕ → Except ArnsError Idle
  | 0 => return x
  | n + 1 => do (← x.step).steps n

def DemandFactor.idle (demand : DemandFactor) : Idle :=
  ⟨demand.currentDemandFactor, demand.consecutivePeriodsWithMinDemandFactor, demand.fees⟩

/-- Advance the demand state by `n` idle periods. -/
def advanceZeroActivityPeriods (demand : DemandFactor) (n : ℕ) :
    Except ArnsError DemandFactor :=
  if n = 0 then return demand
  else do
    let r ← demand.idle.toBoundary n
    let x ← if 0 < r.2 then do
        let fees ← halveCycles r.1.fees (r.2 / zeroActivityCycleLength)
        Idle.steps { r.1 with fees } (r.2 % zeroActivityCycleLength)
      else pure r.1
    let currentPeriod ← okOr (checkedAdd 64 demand.currentPeriod n) .arithmeticOverflow
    return { demand with
      trailingPeriodPurchases := Vector.replicate movingAvgPeriodCount 0
      trailingPeriodRevenues := Vector.replicate movingAvgPeriodCount 0
      purchasesThisPeriod := 0
      revenueThisPeriod := 0
      currentDemandFactor := x.factor
      consecutivePeriodsWithMinDemandFactor := x.consecutive
      fees := x.fees
      currentPeriod }

/-! ### Rolling -/

/-- The period of a time, from one on. -/
def getPeriodForTimestamp (timestamp periodZeroStart : ℤ) : Except ArnsError ℕ :=
  if timestamp < periodZeroStart then return 1
  else do
    let elapsed ← okOr (checkedSubSigned 64 timestamp periodZeroStart) .panicked
    return elapsed.toNat / periodLengthSeconds + 1

/-- Roll the demand factor forward to the period of a time. -/
def maybeRollDemandPeriod (demand : DemandFactor) (timestamp : ℤ) :
    Except ArnsError DemandFactor := do
  let target ← getPeriodForTimestamp timestamp demand.periodZeroStartTimestamp
  if target ≤ demand.currentPeriod then return demand
  else if target - demand.currentPeriod ≤ maxRolloverPeriods then
    rollPeriods (target - demand.currentPeriod) demand
  else do
    let demand ← rollOnePeriod demand
    advanceZeroActivityPeriods demand (target - demand.currentPeriod)

end Arns
end ArioSolana
