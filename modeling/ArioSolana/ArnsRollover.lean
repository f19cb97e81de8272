import ArioSolana.ArnsDemand

/-!
# Rolling late

An idle period changes the factor, the count and the fees by a step that does not fail, and empties
one slot of the trailing periods. The fast path computes the iterates of that step: up to a boundary
one by one, then cycle by cycle, and then the rest.
-/

namespace ArioSolana
namespace Arns

open Checked

variable {demand demand' : DemandFactor} {fees : Fees} {x : Idle} {n m c : ℕ} {t t' : ℤ}

/-! ### Fees -/

/-- All fees fit in their words. -/
def FeeWords (fees : Fees) : Prop := ∀ fee ∈ fees, fee < 2 ^ 64

/-- Half of each fee, rounded down. -/
def halve (fees : Fees) : Fees := fees.map fun fee => fee * demandFactorMin / demandFactorScale

lemma mulScaled_eq_ok {a b v : ℕ} : mulScaled a b = .ok v ↔
    a * b < 2 ^ 128 ∧ a * b / demandFactorScale < 2 ^ 64 ∧ v = a * b / demandFactorScale := by
  simp only [mulScaled, bind_eq_ok, okOr_eq_ok, checkedMul_eq_some, tryFrom_eq_some]
  constructor
  · rintro ⟨_, ⟨h₁, rfl⟩, h₂, rfl⟩
    exact ⟨h₁, h₂, rfl⟩
  · rintro ⟨h₁, h₂, rfl⟩
    exact ⟨_, ⟨h₁, rfl⟩, h₂, rfl⟩

lemma mulScaled_of_le {a b : ℕ} (ha : a < 2 ^ 64) (hb : b ≤ demandFactorScale) :
    mulScaled a b = .ok (a * b / demandFactorScale) := by
  unfold demandFactorScale at hb
  have hprod : a * b ≤ a * 1000000 := Nat.mul_le_mul_left a hb
  refine mulScaled_eq_ok.mpr ⟨by omega, ?_, rfl⟩
  refine (Nat.div_le_of_le_mul ?_).trans_lt ha
  unfold demandFactorScale
  omega

lemma updateFees_eq (h : FeeWords fees) : updateFees fees demandFactorMin = .ok (halve fees) :=
  vector_mapM_ok fun fee hfee => mulScaled_of_le (h fee hfee) (by decide)

lemma halve_le (fee : ℕ) : fee * demandFactorMin / demandFactorScale ≤ fee := by
  unfold demandFactorMin demandFactorScale
  omega

lemma FeeWords.halve (h : FeeWords fees) : FeeWords (halve fees) := by
  intro v hv
  obtain ⟨fee, hfee, rfl⟩ := Vector.mem_map.mp hv
  exact (halve_le fee).trans_lt (h fee hfee)

lemma FeeWords.iterate (h : FeeWords fees) (n : ℕ) : FeeWords (Arns.halve^[n] fees) := by
  induction n with
  | zero => exact h
  | succ n ih =>
    rw [Function.iterate_succ_apply']
    exact ih.halve

lemma halve_of_zero (h : fees.any (· ≠ 0) = false) : halve fees = fees := by
  ext i hi
  have hzero : fees[i] = 0 := by
    by_contra hne
    rw [Vector.any_eq_false] at h
    exact h i hi (by simpa using hne)
  rw [halve, Vector.getElem_map, hzero, Nat.zero_mul, Nat.zero_div]

lemma halveCycles_eq (h : FeeWords fees) : halveCycles fees n = .ok (halve^[n] fees) := by
  induction n generalizing fees with
  | zero => rfl
  | succ n ih =>
    rw [halveCycles]
    split
    · rw [updateFees_eq h, ok_bind, ih h.halve, Function.iterate_succ_apply]
    · rename_i hzero
      have hfixed : halve fees = fees := halve_of_zero (Bool.eq_false_iff.mpr hzero)
      have hfixed' : halve^[n + 1] fees = fees := Function.iterate_fixed hfixed _
      rw [hfixed']
      rfl

/-! ### The idle step -/

/-- The fields fit in their words. -/
structure Idle.Words (x : Idle) : Prop where
  factor : x.factor < 2 ^ 64
  fees : FeeWords x.fees

/-- The effect of an idle period. -/
def Idle.next (x : Idle) : Idle :=
  let r := zeroActivityStep x.factor x.consecutive
  ⟨r.1, r.2.1, if r.2.2 then halve x.fees else x.fees⟩

lemma Idle.step_eq (h : x.Words) : x.step = .ok x.next := by
  unfold Idle.step Idle.next
  dsimp only
  split
  · rw [updateFees_eq h.fees]
    rfl
  · rfl

lemma zeroActivityFactor_word {factor : ℕ} (h : factor < 2 ^ 64) :
    zeroActivityFactor factor < 2 ^ 64 := by
  unfold zeroActivityFactor
  split
  · exact truncate_lt
  · exact h

lemma zeroActivityStep_word {factor consecutive : ℕ} (h : factor < 2 ^ 64) :
    (zeroActivityStep factor consecutive).1 < 2 ^ 64 := by
  rcases zeroActivityStep_cases factor consecutive with
    ⟨-, -, heq⟩ | ⟨-, -, heq⟩ | ⟨-, heq⟩
  · rw [heq]
    norm_num [demandFactorScale]
  · rw [heq]
    norm_num [demandFactorMin]
  · rw [heq]
    exact zeroActivityFactor_word h

lemma Idle.Words.next (h : x.Words) : x.next.Words where
  factor := zeroActivityStep_word h.factor
  fees := by
    unfold Idle.next
    simp only
    split
    · exact h.fees.halve
    · exact h.fees

lemma Idle.Words.iterate (h : x.Words) (n : ℕ) : (Idle.next^[n] x).Words := by
  induction n with
  | zero => exact h
  | succ n ih =>
    rw [Function.iterate_succ_apply']
    exact ih.next

lemma Idle.steps_eq (h : x.Words) : x.steps n = .ok (Idle.next^[n] x) := by
  induction n generalizing x with
  | zero => rfl
  | succ n ih => rw [Idle.steps, Idle.step_eq h, ok_bind, ih h.next, Function.iterate_succ_apply]

/-- The first phase takes some of the steps, and stops early only at a boundary. -/
lemma Idle.toBoundary_eq (h : x.Words) : ∃ k ≤ n, x.toBoundary n = .ok (Idle.next^[k] x, n - k) ∧
    (k < n → (Idle.next^[k] x).AtBoundary) := by
  induction n generalizing x with
  | zero => exact ⟨0, le_rfl, rfl, fun hlt => absurd hlt (lt_irrefl 0)⟩
  | succ n ih =>
    rw [Idle.toBoundary]
    split
    · rename_i hat
      exact ⟨0, Nat.zero_le _, rfl, fun _ => hat⟩
    · obtain ⟨k, hk, heq, hat⟩ := ih h.next
      refine ⟨k + 1, by omega, ?_, fun hlt => ?_⟩
      · rw [Idle.step_eq h, ok_bind, heq, Function.iterate_succ_apply, Nat.add_sub_add_right]
      · rw [Function.iterate_succ_apply]
        exact hat (by omega)

/-! ### Cycles -/

lemma zeroActivityStep_halved {factor consecutive : ℕ}
    (h : (zeroActivityStep factor consecutive).2.2 = true) :
    zeroActivityStep factor consecutive = (demandFactorScale, 0, true) := by
  rcases zeroActivityStep_cases factor consecutive with
    ⟨-, -, heq⟩ | ⟨-, -, heq⟩ | ⟨-, heq⟩
  · exact heq
  all_goals
    rw [heq] at h
    cases h

lemma zeroActivityCycleFrom_eq (factor consecutive steps : ℕ) :
    ∃ k, 0 < k ∧ zeroActivityCycleFrom factor consecutive steps = steps + k ∧
      ∀ fees, Idle.next^[k] ⟨factor, consecutive, fees⟩ = ⟨demandFactorScale, 0, halve fees⟩ := by
  fun_induction zeroActivityCycleFrom factor consecutive steps with
  | case1 factor consecutive steps hhalved =>
    refine ⟨1, Nat.one_pos, rfl, fun fees => ?_⟩
    rw [Function.iterate_one, Idle.next]
    simp only [zeroActivityStep_halved hhalved, if_true]
  | case2 factor consecutive steps hhalved ih =>
    obtain ⟨k, hk, heq, hnext⟩ := ih
    refine ⟨k + 1, Nat.succ_pos k, by omega, fun fees => ?_⟩
    have hstep : Idle.next ⟨factor, consecutive, fees⟩
        = ⟨(zeroActivityStep factor consecutive).1, (zeroActivityStep factor consecutive).2.1,
          fees⟩ := by
      rw [Idle.next]
      simp only [if_neg hhalved]
    rw [Function.iterate_succ_apply, hstep, hnext]

lemma zeroActivityCycleLength_eq : 0 < zeroActivityCycleLength ∧
    ∀ fees, Idle.next^[zeroActivityCycleLength] ⟨demandFactorScale, 0, fees⟩
      = ⟨demandFactorScale, 0, halve fees⟩ := by
  obtain ⟨k, hk, heq, hnext⟩ := zeroActivityCycleFrom_eq demandFactorScale 0 0
  rw [zeroActivityCycleLength, heq, Nat.zero_add]
  exact ⟨hk, hnext⟩

lemma iterate_cycles (fees : Fees) (n : ℕ) :
    Idle.next^[zeroActivityCycleLength * n] ⟨demandFactorScale, 0, fees⟩
      = ⟨demandFactorScale, 0, halve^[n] fees⟩ := by
  induction n generalizing fees with
  | zero => rfl
  | succ n ih =>
    rw [Nat.mul_succ, Function.iterate_add_apply, zeroActivityCycleLength_eq.2, ih,
      Function.iterate_succ_apply]

lemma Idle.AtBoundary.iterate (h : x.AtBoundary) (n : ℕ) :
    Idle.next^[n] x = Idle.next^[n % zeroActivityCycleLength]
      { x with fees := halve^[n / zeroActivityCycleLength] x.fees } := by
  obtain ⟨factor, consecutive, fees⟩ := x
  obtain ⟨rfl, rfl⟩ : factor = demandFactorScale ∧ consecutive = 0 := h
  conv_lhs => rw [← Nat.mod_add_div n zeroActivityCycleLength]
  rw [Function.iterate_add_apply, iterate_cycles]

/-! ### The trailing periods -/

/-- Empty the slots of `n` periods from `c` on. -/
def clearSlots (c : ℕ) : ℕ → Vector ℕ movingAvgPeriodCount → Vector ℕ movingAvgPeriodCount
  | 0, trailing => trailing
  | n + 1, trailing =>
    clearSlots (c + 1) n (trailing.setIfInBounds (c % movingAvgPeriodCount) 0)

section

variable {trailing : Vector ℕ movingAvgPeriodCount} {i : ℕ}

lemma clearSlots_zero (hi : i < movingAvgPeriodCount) (h : trailing[i] = 0) :
    (clearSlots c n trailing)[i] = 0 := by
  induction n generalizing c trailing with
  | zero => exact h
  | succ n ih =>
    refine ih ?_
    rw [Vector.getElem_setIfInBounds]
    split
    · rfl
    · exact h

lemma clearSlots_slot {j : ℕ} (hj : j < n) (hi : i < movingAvgPeriodCount)
    (hslot : (c + j) % movingAvgPeriodCount = i) : (clearSlots c n trailing)[i] = 0 := by
  induction n generalizing c j trailing with
  | zero => omega
  | succ n ih =>
    cases j with
    | zero =>
      rw [clearSlots]
      refine clearSlots_zero hi ?_
      rw [Vector.getElem_setIfInBounds, if_pos (by simpa using hslot)]
    | succ j =>
      have hslot' : (c + 1 + j) % movingAvgPeriodCount = i := by
        rw [← hslot, Nat.add_right_comm, Nat.add_assoc]
      exact ih (Nat.lt_of_succ_lt_succ hj) hslot'

lemma clearSlots_full (h : movingAvgPeriodCount ≤ n) :
    clearSlots c n trailing = Vector.replicate movingAvgPeriodCount 0 := by
  ext i hi
  rw [Vector.getElem_replicate]
  unfold movingAvgPeriodCount at hi h
  refine clearSlots_slot (show (i + 7 - c % 7) % 7 < n by omega) hi ?_
  unfold movingAvgPeriodCount
  omega

end

/-! ### Idle periods of the account -/

/-- The fields that are computed with fit in their words. -/
structure DemandFactor.Words (demand : DemandFactor) : Prop where
  currentDemandFactor : demand.currentDemandFactor < 2 ^ 64
  fees : FeeWords demand.fees

/-- Nothing has been bought in the current period. -/
def DemandFactor.Quiet (demand : DemandFactor) : Prop :=
  demand.purchasesThisPeriod = 0 ∧ demand.revenueThisPeriod = 0

/-- The account after `n` idle periods. -/
def DemandFactor.afterIdle (demand : DemandFactor) (n : ℕ) : DemandFactor :=
  let x := Idle.next^[n] demand.idle
  { demand with
    trailingPeriodPurchases := clearSlots demand.currentPeriod n demand.trailingPeriodPurchases
    trailingPeriodRevenues := clearSlots demand.currentPeriod n demand.trailingPeriodRevenues
    purchasesThisPeriod := 0
    revenueThisPeriod := 0
    currentDemandFactor := x.factor
    consecutivePeriodsWithMinDemandFactor := x.consecutive
    fees := x.fees
    currentPeriod := demand.currentPeriod + n }

lemma DemandFactor.Words.idle (h : demand.Words) : demand.idle.Words :=
  ⟨h.currentDemandFactor, h.fees⟩

lemma DemandFactor.Words.afterIdle (h : demand.Words) (n : ℕ) : (demand.afterIdle n).Words where
  currentDemandFactor := (h.idle.iterate n).factor
  fees := (h.idle.iterate n).fees

/-- **The fast path** computes the iterates of the idle step. -/
lemma advanceZeroActivityPeriods_eq (h : demand.Words) (hn : movingAvgPeriodCount ≤ n)
    (hfits : demand.currentPeriod + n < 2 ^ 64) :
    advanceZeroActivityPeriods demand n = .ok (demand.afterIdle n) := by
  have hpos : n ≠ 0 := by
    unfold movingAvgPeriodCount at hn
    omega
  have hperiod : okOr (checkedAdd 64 demand.currentPeriod n) ArnsError.arithmeticOverflow
      = .ok (demand.currentPeriod + n) := okOr_eq_ok.mpr (checkedAdd_eq_some.mpr ⟨hfits, rfl⟩)
  obtain ⟨k, hk, hphase, hat⟩ := Idle.toBoundary_eq (n := n) h.idle
  have hwords := h.idle.iterate k
  have hsplit : Idle.next^[n] demand.idle = Idle.next^[n - k] (Idle.next^[k] demand.idle) := by
    rw [← Function.iterate_add_apply, Nat.sub_add_cancel hk]
  rw [advanceZeroActivityPeriods, if_neg hpos, hphase, ok_bind]
  dsimp only
  split
  · rename_i hlt
    have hrest := (hat (by omega)).iterate (n - k)
    have hhalved : Idle.Words { Idle.next^[k] demand.idle with
        fees := halve^[(n - k) / zeroActivityCycleLength] (Idle.next^[k] demand.idle).fees } :=
      ⟨hwords.factor, hwords.fees.iterate _⟩
    rw [halveCycles_eq hwords.fees, ok_bind, Idle.steps_eq hhalved, ← hrest, ← hsplit, ok_bind,
      hperiod, ok_bind, DemandFactor.afterIdle, clearSlots_full hn, clearSlots_full hn]
    rfl
  · have hzero : n - k = 0 := by omega
    rw [hzero, Function.iterate_zero_apply] at hsplit
    rw [← hsplit, hperiod, DemandFactor.afterIdle, clearSlots_full hn, clearSlots_full hn]
    rfl

lemma isDemandIncreasing_quiet (h : demand.Quiet) : demand.isDemandIncreasing = .ok false := by
  unfold DemandFactor.isDemandIncreasing
  rw [if_pos h.1, if_pos h.2, ite_self]
  rfl

lemma checkFloor_quiet (h : demand.Words) :
    (demand.adjust false >>= demand.checkFloor) = .ok { demand with
      currentDemandFactor := demand.idle.next.factor
      consecutivePeriodsWithMinDemandFactor := demand.idle.next.consecutive
      fees := demand.idle.next.fees } := by
  have hadjust : demand.adjust false = .ok (zeroActivityFactor demand.currentDemandFactor) := by
    unfold DemandFactor.adjust zeroActivityFactor
    rw [if_neg Bool.false_ne_true]
    split
    · have hmul := mulScaled_of_le h.currentDemandFactor
        (b := demandFactorDownAdjustment) (by decide)
      rw [hmul, truncate_of_lt (mulScaled_eq_ok.mp hmul).2.1]
    · rfl
  rw [hadjust, ok_bind, DemandFactor.checkFloor, Idle.next]
  rcases zeroActivityStep_cases demand.currentDemandFactor
    demand.consecutivePeriodsWithMinDemandFactor with
    ⟨hfloor, hdwell, heq⟩ | ⟨hfloor, hdwell, heq⟩ | ⟨hfloor, heq⟩
  · rw [if_pos hfloor, if_pos hdwell, updateFees_eq h.fees, ok_bind]
    simp only [DemandFactor.idle, heq, if_true]
    rfl
  · have hnext : okOr (checkedAdd 32 demand.consecutivePeriodsWithMinDemandFactor 1)
        ArnsError.arithmeticOverflow
        = .ok (demand.consecutivePeriodsWithMinDemandFactor + 1) := by
      unfold maxPeriodsAtMinDemandFactor at hdwell
      exact okOr_eq_ok.mpr (checkedAdd_eq_some.mpr ⟨by omega, rfl⟩)
    rw [if_pos hfloor, if_neg (Nat.not_le_of_lt hdwell), hnext, ok_bind]
    simp only [DemandFactor.idle, heq, Bool.false_eq_true, if_false]
    rfl
  · rw [if_neg (Nat.not_le_of_lt hfloor)]
    simp only [DemandFactor.idle, heq, Bool.false_eq_true, if_false]
    rfl

lemma closePeriod_eq (h : demand.currentPeriod + 1 < 2 ^ 64) :
    demand.closePeriod = .ok { demand with
      trailingPeriodPurchases := demand.trailingPeriodPurchases.setIfInBounds
        (demand.currentPeriod % movingAvgPeriodCount) demand.purchasesThisPeriod
      trailingPeriodRevenues := demand.trailingPeriodRevenues.setIfInBounds
        (demand.currentPeriod % movingAvgPeriodCount) demand.revenueThisPeriod
      purchasesThisPeriod := 0
      revenueThisPeriod := 0
      currentPeriod := demand.currentPeriod + 1 } := by
  rw [DemandFactor.closePeriod, okOr_eq_ok.mpr (checkedAdd_eq_some.mpr ⟨h, rfl⟩)]
  rfl

lemma rollOnePeriod_quiet (h : demand.Words) (hq : demand.Quiet)
    (hfits : demand.currentPeriod + 1 < 2 ^ 64) :
    rollOnePeriod demand = .ok (demand.afterIdle 1) := by
  have hfloor := checkFloor_quiet h
  rw [rollOnePeriod, isDemandIncreasing_quiet hq, ok_bind, ← bind_assoc, hfloor, ok_bind]
  rw [closePeriod_eq (by exact hfits)]
  dsimp only
  rw [hq.1, hq.2]
  rfl

lemma afterIdle_succ (demand : DemandFactor) (n : ℕ) :
    (demand.afterIdle 1).afterIdle n = demand.afterIdle (n + 1) := by
  have hidle : (demand.afterIdle 1).idle = demand.idle.next := rfl
  rw [DemandFactor.afterIdle, hidle, DemandFactor.afterIdle]
  simp only [Nat.add_assoc, Nat.add_comm 1 n]
  rfl

lemma rollPeriods_quiet (h : demand.Words) (hq : demand.Quiet)
    (hfits : demand.currentPeriod + n < 2 ^ 64) :
    rollPeriods n demand = .ok (demand.afterIdle n) := by
  induction n generalizing demand with
  | zero =>
    obtain ⟨hp, hr⟩ := hq
    obtain ⟨factor, period, purchases, revenue⟩ := demand
    obtain rfl : purchases = 0 := hp
    obtain rfl : revenue = 0 := hr
    rfl
  | succ n ih =>
    rw [rollPeriods, rollOnePeriod_quiet h hq (by omega), ok_bind, ← afterIdle_succ demand n]
    refine ih (h.afterIdle 1) ⟨rfl, rfl⟩ ?_
    change demand.currentPeriod + 1 + n < 2 ^ 64
    omega

/-! ### One period -/

/-- What any period leaves behind. -/
structure RolledOnce (demand demand' : DemandFactor) : Prop where
  words : demand'.Words
  quiet : demand'.Quiet
  currentPeriod : demand'.currentPeriod = demand.currentPeriod + 1
  periodZeroStartTimestamp :
    demand'.periodZeroStartTimestamp = demand.periodZeroStartTimestamp

lemma adjust_word {factor : ℕ} {b : Bool} (h : demand.Words)
    (hadjust : demand.adjust b = .ok factor) : factor < 2 ^ 64 := by
  unfold DemandFactor.adjust at hadjust
  split at hadjust
  · simp only [bind_eq_ok, mulScaled_eq_ok, pure_eq_ok] at hadjust
    obtain ⟨_, ⟨-, hlt, rfl⟩, rfl⟩ := hadjust
    exact (min_le_left _ _).trans_lt hlt
  · split at hadjust
    · obtain ⟨-, hlt, rfl⟩ := mulScaled_eq_ok.mp hadjust
      exact hlt
    · rw [← pure_eq_ok.mp hadjust]
      exact h.currentDemandFactor

lemma checkFloor_rest {factor : ℕ} (h : demand.Words) (hfactor : factor < 2 ^ 64)
    (hfloor : demand.checkFloor factor = .ok demand') :
    ∃ consecutive, (demand'.currentDemandFactor < 2 ^ 64 ∧ FeeWords demand'.fees) ∧
      demand' = { demand with
        currentDemandFactor := demand'.currentDemandFactor
        consecutivePeriodsWithMinDemandFactor := consecutive
        fees := demand'.fees } := by
  unfold DemandFactor.checkFloor at hfloor
  split at hfloor
  · split at hfloor
    · rw [updateFees_eq h.fees, ok_bind] at hfloor
      obtain rfl := pure_eq_ok.mp hfloor
      exact ⟨_, ⟨by norm_num [demandFactorScale], h.fees.halve⟩, rfl⟩
    · simp only [bind_eq_ok, pure_eq_ok] at hfloor
      obtain ⟨_, -, rfl⟩ := hfloor
      exact ⟨_, ⟨by norm_num [demandFactorMin], h.fees⟩, rfl⟩
  · obtain rfl := pure_eq_ok.mp hfloor
    exact ⟨_, ⟨hfactor, h.fees⟩, rfl⟩

lemma rollOnePeriod_ok (h : demand.Words) (hroll : rollOnePeriod demand = .ok demand') :
    RolledOnce demand demand' := by
  simp only [rollOnePeriod, bind_eq_ok] at hroll
  obtain ⟨b, -, factor, hadjust, mid, hfloor, hclose⟩ := hroll
  obtain ⟨_, ⟨hword, hfees⟩, hmid⟩ := checkFloor_rest h (adjust_word h hadjust) hfloor
  simp only [DemandFactor.closePeriod, bind_eq_ok, okOr_eq_ok, checkedAdd_eq_some,
    pure_eq_ok] at hclose
  obtain ⟨_, ⟨-, rfl⟩, rfl⟩ := hclose
  rw [hmid]
  exact ⟨⟨hword, hfees⟩, ⟨rfl, rfl⟩, rfl, rfl⟩

/-! ### Any number of periods -/

/-- What periods leave behind. -/
structure Rolled (n : ℕ) (demand demand' : DemandFactor) : Prop where
  words : demand'.Words
  currentPeriod : demand'.currentPeriod = demand.currentPeriod + n
  periodZeroStartTimestamp :
    demand'.periodZeroStartTimestamp = demand.periodZeroStartTimestamp

lemma rollPeriods_ok (h : demand.Words) (hroll : rollPeriods n demand = .ok demand') :
    Rolled n demand demand' := by
  induction n generalizing demand with
  | zero =>
    obtain rfl := pure_eq_ok.mp hroll
    exact ⟨h, rfl, rfl⟩
  | succ n ih =>
    simp only [rollPeriods, bind_eq_ok] at hroll
    obtain ⟨mid, hone, hroll⟩ := hroll
    have hmid := rollOnePeriod_ok h hone
    have hrest := ih hmid.words hroll
    refine ⟨hrest.words, ?_, ?_⟩
    · rw [hrest.currentPeriod, hmid.currentPeriod, Nat.add_assoc, Nat.add_comm 1 n]
    · rw [hrest.periodZeroStartTimestamp, hmid.periodZeroStartTimestamp]

lemma rollPeriods_add (m n : ℕ) (demand : DemandFactor) :
    rollPeriods (m + n) demand = rollPeriods m demand >>= rollPeriods n := by
  induction m generalizing demand with
  | zero =>
    rw [Nat.zero_add]
    rfl
  | succ m ih =>
    rw [Nat.succ_add, rollPeriods, rollPeriods, bind_assoc]
    exact congrArg _ (funext ih)

lemma getPeriodForTimestamp_lt {z : ℤ} {p : ℕ} (h : getPeriodForTimestamp t z = .ok p) :
    p < 2 ^ 64 := by
  unfold getPeriodForTimestamp at h
  split at h
  · rw [← pure_eq_ok.mp h]
    norm_num
  · simp only [bind_eq_ok, okOr_eq_ok, checkedSubSigned_eq_some, pure_eq_ok] at h
    obtain ⟨_, ⟨⟨-, hlt⟩, rfl⟩, rfl⟩ := h
    unfold periodLengthSeconds
    omega

/-- **Lazy rollover** rolls once for each missed period. -/
lemma maybeRollDemandPeriod_eq (h : demand.Words) (t : ℤ) :
    maybeRollDemandPeriod demand t = (do
      let target ← getPeriodForTimestamp t demand.periodZeroStartTimestamp
      rollPeriods (target - demand.currentPeriod) demand) := by
  unfold maybeRollDemandPeriod
  cases htarget : getPeriodForTimestamp t demand.periodZeroStartTimestamp with
  | error e => rfl
  | ok target =>
    rw [ok_bind, ok_bind]
    split
    · rename_i hle
      rw [Nat.sub_eq_zero_of_le hle]
      rfl
    split
    · rfl
    rename_i hgap
    unfold maxRolloverPeriods at hgap
    obtain ⟨n, hn⟩ : ∃ n, target - demand.currentPeriod = n + 1 :=
      Nat.exists_eq_succ_of_ne_zero (by omega)
    rw [hn, rollPeriods]
    cases hone : rollOnePeriod demand with
    | error e => rfl
    | ok mid =>
      have hmid := rollOnePeriod_ok h hone
      have hlt := getPeriodForTimestamp_lt htarget
      have hcount : target - mid.currentPeriod = n := by
        rw [hmid.currentPeriod]
        omega
      have hfits : mid.currentPeriod + n < 2 ^ 64 := by
        rw [hmid.currentPeriod]
        omega
      have hseven : movingAvgPeriodCount ≤ n := by
        unfold movingAvgPeriodCount
        omega
      rw [ok_bind, ok_bind, hcount, advanceZeroActivityPeriods_eq hmid.words hseven hfits,
        rollPeriods_quiet hmid.words hmid.quiet hfits]

lemma getPeriodForTimestamp_mono {z : ℤ} {p' : ℕ} (hle : t ≤ t')
    (h : getPeriodForTimestamp t' z = .ok p') :
    ∃ p ≤ p', getPeriodForTimestamp t z = .ok p := by
  unfold getPeriodForTimestamp at h ⊢
  split at h
  · rename_i hlt
    rw [if_pos (hle.trans_lt hlt)]
    exact ⟨1, (pure_eq_ok.mp h).le, rfl⟩
  · simp only [bind_eq_ok, okOr_eq_ok, checkedSubSigned_eq_some, pure_eq_ok] at h
    obtain ⟨_, ⟨⟨-, hlt⟩, rfl⟩, rfl⟩ := h
    split
    · exact ⟨1, Nat.le_add_left .., rfl⟩
    · rename_i hstart
      refine ⟨(t - z).toNat / periodLengthSeconds + 1, ?_, ?_⟩
      · exact Nat.succ_le_succ (Nat.div_le_div_right (by omega))
      · rw [okOr_eq_ok.mpr (checkedSubSigned_eq_some.mpr ⟨⟨by omega, by omega⟩, rfl⟩)]
        rfl

/-- **Rolling late.** Lazy rollover computes what one rollover for each missed period computes,
errors included, and rolling at two times ends where rolling at the later one does. -/
theorem lazy_rollover_exact (demand : DemandFactor) (h : demand.Words) (t : ℤ) :
    maybeRollDemandPeriod demand t = (do
      let target ← getPeriodForTimestamp t demand.periodZeroStartTimestamp
      rollPeriods (target - demand.currentPeriod) demand) ∧
    ∀ t' demand', t ≤ t' →
      ((maybeRollDemandPeriod demand t >>= fun mid => maybeRollDemandPeriod mid t') = .ok demand' ↔
        maybeRollDemandPeriod demand t' = .ok demand') := by
  refine ⟨maybeRollDemandPeriod_eq h t, fun t' demand' hle => ?_⟩
  rw [maybeRollDemandPeriod_eq h t, maybeRollDemandPeriod_eq h t', bind_assoc]
  -- Both sides reach the later period, by two stretches or by one.
  have hjoin (p p' : ℕ) (hp : p ≤ p')
      (ht' : getPeriodForTimestamp t' demand.periodZeroStartTimestamp = .ok p') :
      (rollPeriods (p - demand.currentPeriod) demand >>= fun mid => maybeRollDemandPeriod mid t')
        = rollPeriods (p' - demand.currentPeriod) demand := by
    have hsum : p' - demand.currentPeriod = (p - demand.currentPeriod)
        + (p' - (demand.currentPeriod + (p - demand.currentPeriod))) := by omega
    rw [hsum, rollPeriods_add]
    cases hmid : rollPeriods (p - demand.currentPeriod) demand with
    | error e => rfl
    | ok mid =>
      have hrolled := rollPeriods_ok h hmid
      rw [ok_bind, ok_bind, maybeRollDemandPeriod_eq hrolled.words,
        hrolled.periodZeroStartTimestamp, ht', ok_bind, hrolled.currentPeriod]
  constructor
  · intro hrun
    simp only [bind_eq_ok] at hrun
    obtain ⟨p, hp, mid, hmid, hrun⟩ := hrun
    have hrolled := rollPeriods_ok h hmid
    rw [maybeRollDemandPeriod_eq hrolled.words, hrolled.periodZeroStartTimestamp] at hrun
    simp only [bind_eq_ok] at hrun
    obtain ⟨p', hp', hrun⟩ := hrun
    obtain ⟨q, hq, heq⟩ := getPeriodForTimestamp_mono hle hp'
    obtain rfl := Except.ok.inj (hp.symm.trans heq)
    have hboth := hjoin p p' hq hp'
    rw [hmid, ok_bind, maybeRollDemandPeriod_eq hrolled.words, hrolled.periodZeroStartTimestamp,
      hp', ok_bind, hrun] at hboth
    rw [hp', ok_bind, ← hboth]
  · intro hrun
    simp only [bind_eq_ok] at hrun
    obtain ⟨p', hp', hrun⟩ := hrun
    obtain ⟨p, hle, hp⟩ := getPeriodForTimestamp_mono hle hp'
    rw [hp, ok_bind, hjoin p p' hle hp', hrun]

namespace SmallDemand

/-- The demand factor in its tenth period, at the cap. -/
def high : DemandFactor where
  currentDemandFactor := maxDemandFactor
  currentPeriod := 10
  purchasesThisPeriod := 3
  revenueThisPeriod := 5000000
  consecutivePeriodsWithMinDemandFactor := 0
  trailingPeriodPurchases := Vector.replicate 7 5
  trailingPeriodRevenues := Vector.replicate 7 100
  fees := genesisFees
  periodZeroStartTimestamp := 0
  criteria := demandCriteriaRevenue
  bump := 255
  version := demandFactorVersion

lemma high_words : high.Words := ⟨by decide, by unfold FeeWords; decide⟩

end SmallDemand

open SmallDemand in
theorem lazy_rollover_exact_small :
    maybeRollDemandPeriod high 77760000 = rollPeriods (901 - high.currentPeriod) high := by
  have hperiod : getPeriodForTimestamp 77760000 high.periodZeroStartTimestamp = .ok 901 := by
    decide +kernel
  have hexact := (lazy_rollover_exact high high_words 77760000).1
  rw [hperiod, ok_bind] at hexact
  exact hexact

end Arns
end ArioSolana
