import ArioSolana.ArnsHistory

/-!
# Halving for good

The fees are halved for good and rounded down. A halving resets the factor, so that it has to fall
to the floor and dwell there before the next one: 53 periods lie between two halvings. So the fees
are the first fees over a power of two, and no price is zero as long as the power is small; after
years without demand the fees are zero. -/

namespace ArioSolana
namespace Arns

open Checked Solana

section

variable {demand demand' demand₀ : DemandFactor} {fees : Fees} {n h factor base df years count : ℕ}
  {t : ℤ} {e : DemandEvent} {tr : List (Step DemandFactor DemandEvent)}

/-! ### Counting the halvings -/

/-- The fees after `h` halvings. -/
def FeesHalved (h : ℕ) (fees : Fees) : Prop :=
  ∀ i : Fin numNameLengthFees, fees.get i = genesisFees.get i / 2 ^ h

lemma FeesHalved.halve (hfees : FeesHalved h fees) : FeesHalved (h + 1) (halve fees) := by
  intro i
  have hhalved : (Arns.halve fees).get i = fees.get i * demandFactorMin / demandFactorScale :=
    halve_getElem fees i
  rw [hhalved, hfees i, pow_succ, ← Nat.div_div_eq_div_mul]
  unfold demandFactorMin demandFactorScale
  omega

/-! ### The way to the floor -/

/-- The idle periods that leave the factor above the floor, counted within `n` periods. -/
def periodsAbove : ℕ → ℕ → ℕ
  | 0, _ => 0
  | n + 1, factor =>
    if factor ≤ demandFactorMin then 0 else periodsAbove n (zeroActivityFactor factor) + 1

lemma zeroActivityFactor_mono {f f' : ℕ} (hmin : demandFactorMin < f) (hle : f ≤ f')
    (hcap : f' ≤ maxDemandFactor) : zeroActivityFactor f ≤ zeroActivityFactor f' := by
  have hword : ∀ x ≤ maxDemandFactor,
      truncate 64 (x * demandFactorDownAdjustment / demandFactorScale) =
        x * demandFactorDownAdjustment / demandFactorScale := by
    intro x hx
    refine truncate_of_lt ?_
    unfold maxDemandFactor demandFactorScale at hx
    unfold demandFactorDownAdjustment demandFactorScale
    omega
  rw [zeroActivityFactor, zeroActivityFactor, if_pos hmin, if_pos (hmin.trans_le hle),
    hword f (hle.trans hcap), hword f' hcap]
  exact Nat.div_le_div_right (Nat.mul_le_mul_right _ hle)

lemma periodsAbove_mono {m : ℕ} {f f' : ℕ} (hmn : m ≤ n) (hle : f ≤ f')
    (hcap : f' ≤ maxDemandFactor) :
    periodsAbove m f ≤ periodsAbove n f' := by
  induction m generalizing n f f' with
  | zero => exact Nat.zero_le _
  | succ m ih =>
    obtain ⟨n, rfl⟩ := Nat.exists_eq_add_of_lt hmn
    rw [periodsAbove, periodsAbove]
    split
    · exact Nat.zero_le _
    · rename_i hmin
      rw [if_neg (by omega)]
      have hfall : zeroActivityFactor f' < f' := zeroActivityFactor_lt (by omega)
      exact Nat.succ_le_succ (ih (by omega) (zeroActivityFactor_mono (by omega) hle hcap)
        (by omega))

/-- The idle periods since the factor was reset that a factor and its count stand for. -/
def elapsed (demand : DemandFactor) : ℕ :=
  if demand.currentDemandFactor ≤ demandFactorMin then
    45 + demand.consecutivePeriodsWithMinDemandFactor
  else 46 - periodsAbove 46 demand.currentDemandFactor

/-- `h` halvings took place, each after a way to the floor and a dwelling of its own. -/
structure HalvedTo (h : ℕ) (demand : DemandFactor) : Prop where
  fees : FeesHalved h demand.fees
  periods : 53 * h + elapsed demand ≤ demand.currentPeriod + 44

lemma zeroActivityFactor_le {b : Bool} (hord : Ordered demand)
    (hadjust : demand.adjust b = .ok factor) :
    zeroActivityFactor demand.currentDemandFactor ≤ factor := by
  have hcap := hord.factor_le
  unfold DemandFactor.adjust at hadjust
  split at hadjust
  · simp only [bind_eq_ok, mulScaled_eq_ok, pure_eq_ok] at hadjust
    obtain ⟨_, ⟨-, -, rfl⟩, rfl⟩ := hadjust
    have hfall : zeroActivityFactor demand.currentDemandFactor ≤ demand.currentDemandFactor := by
      unfold zeroActivityFactor
      split
      · refine truncate_le.trans (Nat.div_le_of_le_mul ?_)
        unfold demandFactorDownAdjustment demandFactorScale
        omega
      · exact le_rfl
    refine hfall.trans (le_min ?_ hcap)
    unfold demandFactorUpAdjustment demandFactorScale
    omega
  · split at hadjust
    · rename_i hmin
      obtain ⟨-, -, rfl⟩ := mulScaled_eq_ok.mp hadjust
      rw [zeroActivityFactor, if_pos hmin]
      exact truncate_le
    · rename_i hmin
      obtain rfl := pure_eq_ok.mp hadjust
      rw [zeroActivityFactor, if_neg hmin]

lemma elapsed_next (hord : Ordered demand)
    (hle : zeroActivityFactor demand.currentDemandFactor ≤ factor)
    (hcap : factor ≤ maxDemandFactor) :
    (factor ≤ demandFactorMin →
      45 + demand.consecutivePeriodsWithMinDemandFactor ≤ elapsed demand) ∧
    46 - periodsAbove 46 factor ≤ elapsed demand + 1 := by
  unfold elapsed
  split
  · exact ⟨fun _ => le_rfl, by omega⟩
  · rename_i habove
    have hone : periodsAbove 46 demand.currentDemandFactor ≤ periodsAbove 46 factor + 1 := by
      rw [periodsAbove, if_neg habove]
      exact Nat.succ_le_succ (periodsAbove_mono (by norm_num) hle hcap)
    have hcount : demand.consecutivePeriodsWithMinDemandFactor = 0 := by
      by_contra hpos
      exact habove (hord.count_pos (Nat.pos_of_ne_zero hpos)).le
    refine ⟨fun hfloor => ?_, by omega⟩
    have hzero : periodsAbove 46 factor = 0 := by rw [periodsAbove, if_pos hfloor]
    omega

lemma HalvedTo.rollOnePeriod (hd : HalvedTo h demand) (hord : Ordered demand)
    (hroll : rollOnePeriod demand = .ok demand') : ∃ h', HalvedTo h' demand' := by
  simp only [Arns.rollOnePeriod, bind_eq_ok] at hroll
  obtain ⟨b, -, factor, hadjust, mid, hfloor, hclose⟩ := hroll
  simp only [DemandFactor.closePeriod, bind_eq_ok, okOr_eq_ok, checkedAdd_eq_some,
    pure_eq_ok] at hclose
  obtain ⟨_, ⟨-, rfl⟩, rfl⟩ := hclose
  obtain ⟨hfees, hperiods⟩ := hd
  obtain ⟨hnear, hnext⟩ := elapsed_next hord (zeroActivityFactor_le hord hadjust)
    (adjust_le hord hadjust)
  unfold DemandFactor.checkFloor at hfloor
  split at hfloor
  · rename_i hlow
    have hnear := hnear hlow
    split at hfloor
    · rename_i hdwell
      rw [updateFees_eq hord.words.fees, ok_bind] at hfloor
      obtain rfl := pure_eq_ok.mp hfloor
      refine ⟨h + 1, hfees.halve, ?_⟩
      -- the factor is reset, and it is 46 periods from the floor again
      have hreset : 46 - periodsAbove 46 demandFactorScale = 0 := by decide +kernel
      unfold maxPeriodsAtMinDemandFactor at hdwell
      change 53 * (h + 1) + (46 - periodsAbove 46 demandFactorScale) ≤ demand.currentPeriod + 1 + 44
      omega
    · simp only [bind_eq_ok, okOr_eq_ok, checkedAdd_eq_some, pure_eq_ok] at hfloor
      obtain ⟨_, ⟨-, rfl⟩, rfl⟩ := hfloor
      refine ⟨h, hfees, ?_⟩
      change 53 * h + (45 + (demand.consecutivePeriodsWithMinDemandFactor + 1)) ≤
        demand.currentPeriod + 1 + 44
      omega
  · rename_i hhigh
    obtain rfl := pure_eq_ok.mp hfloor
    refine ⟨h, hfees, ?_⟩
    have hnow : elapsed { demand with
        currentDemandFactor := factor
        consecutivePeriodsWithMinDemandFactor := 0 } = 46 - periodsAbove 46 factor := if_neg hhigh
    change 53 * h + elapsed { demand with
      currentDemandFactor := factor
      consecutivePeriodsWithMinDemandFactor := 0 } ≤ demand.currentPeriod + 1 + 44
    omega

lemma HalvedTo.rollPeriods (hd : HalvedTo h demand) (hord : Ordered demand)
    (hroll : rollPeriods n demand = .ok demand') : ∃ h', HalvedTo h' demand' := by
  induction n generalizing demand h with
  | zero =>
    obtain rfl := pure_eq_ok.mp hroll
    exact ⟨h, hd⟩
  | succ n ih =>
    simp only [Arns.rollPeriods, bind_eq_ok] at hroll
    obtain ⟨mid, hone, hroll⟩ := hroll
    obtain ⟨h', hmid⟩ := hd.rollOnePeriod hord hone
    exact ih hmid (hord.rollOnePeriod hone).1 hroll

lemma HalvedTo.maybeRoll (hd : HalvedTo h demand) (hord : Ordered demand)
    (hroll : maybeRollDemandPeriod demand t = .ok demand') : ∃ h', HalvedTo h' demand' := by
  rw [maybeRollDemandPeriod_eq hord.words] at hroll
  simp only [bind_eq_ok] at hroll
  obtain ⟨target, -, hroll⟩ := hroll
  exact hd.rollPeriods hord hroll

lemma HalvedTo.step (hd : HalvedTo h demand) (hord : Ordered demand)
    (hstep : DemandStep demand e demand') : ∃ h', HalvedTo h' demand' := by
  cases e with
  | updateDemandFactor timestamp => exact hd.maybeRoll hord hstep
  | purchase timestamp tokenCost =>
    simp only [DemandStep, DemandEvent.exec, DemandFactor.tally, bind_eq_ok, pure_eq_ok] at hstep
    obtain ⟨mid, hroll, _, -, _, -, rfl⟩ := hstep
    obtain ⟨h', hfees, hperiods⟩ := hd.maybeRoll hord hroll
    exact ⟨h', hfees, hperiods⟩

lemma initializeArns_halved {clock : ℤ} {configBump demandBump : ℕ}
    {params : InitializeArnsParams} {config : ArnsConfig}
    (hinit : initializeArns clock configBump demandBump params = .ok (config, demand)) :
    HalvedTo 0 demand := by
  simp only [initializeArns, bind_eq_ok, require_eq_ok, pure_eq_ok, exists_const,
    Prod.mk.injEq] at hinit
  obtain ⟨-, -, -, -, rfl⟩ := hinit
  refine ⟨fun i => by rw [pow_zero, Nat.div_one], ?_⟩
  unfold elapsed
  split
  · exact le_rfl
  · rename_i hhigh
    simp only [periodsAbove, if_neg hhigh]
    omega

lemma run_halved (hd : HalvedTo h demand₀) (hord : Ordered demand₀)
    (run : Run DemandStep demand₀ tr demand) : ∃ h', HalvedTo h' demand := by
  induction run with
  | nil => exact ⟨h, hd⟩
  | cons run last ih =>
    obtain ⟨h', hmid⟩ := ih
    exact hmid.step (run_ordered hord run) last

/-! ### Positive prices -/

lemma le_genesisFees (i : Fin numNameLengthFees) : 200000000 ≤ genesisFees.get i := by
  revert i
  decide

lemma FeesHalved.le {m : ℕ} (hfees : FeesHalved h fees) (hle : h ≤ m) (i : Fin numNameLengthFees) :
    200000000 / 2 ^ m ≤ fees[i] :=
  calc 200000000 / 2 ^ m ≤ 200000000 / 2 ^ h :=
        Nat.div_le_div_left (Nat.pow_le_pow_right (by norm_num) hle) (by positivity)
    _ ≤ genesisFees.get i / 2 ^ h := Nat.div_le_div_right (le_genesisFees i)
    _ = fees[i] := (hfees i).symm

lemma leaseFee_pos (hbase : 2 ≤ base) (hdf : demandFactorMin ≤ df) (hyears : 1 ≤ years) :
    0 < leaseFee base df years := by
  rw [leaseFee_eq]
  refine Nat.div_pos ?_ (by decide)
  calc 5 * demandFactorScale ≤ 2 * demandFactorMin * (5 + 1) := by decide
    _ ≤ base * df * (5 + years) :=
        Nat.mul_le_mul (Nat.mul_le_mul hbase hdf) (Nat.add_le_add_left hyears 5)

lemma permabuyFee_pos (hbase : 1 ≤ base) (hdf : demandFactorMin ≤ df) :
    0 < permabuyFee base df := by
  refine Nat.div_pos ?_ (by decide)
  calc demandFactorScale ≤ 1 * demandFactorMin * 5 := by decide
    _ ≤ base * df * 5 := Nat.mul_le_mul_right 5 (Nat.mul_le_mul hbase hdf)

/-- A share of the fee is positive when its base is at least two over the share. -/
lemma shareFee_pos {pct least : ℕ} (hbase : least ≤ base) (hdf : demandFactorMin ≤ df)
    (hcount : 1 ≤ count) (hleast : 2 * demandFactorScale ≤ least * pct) :
    0 < shareFee base df pct count := by
  rw [shareFee, Nat.div_div_eq_div_mul]
  refine Nat.div_pos ?_ (by decide)
  calc demandFactorScale * demandFactorScale = demandFactorMin * (2 * demandFactorScale) := by
        decide
    _ ≤ demandFactorMin * (least * pct) := Nat.mul_le_mul_left _ hleast
    _ = least * demandFactorMin * (pct * 1) := by ring
    _ ≤ base * df * (pct * count) :=
        Nat.mul_le_mul (Nat.mul_le_mul hbase hdf) (Nat.mul_le_mul_left pct hcount)

/-- The prices of a name: all are computed, they are positive while the fees were halved seldom, and
with a base fee of zero all of them are zero. -/
structure Priced (h base df : ℕ) (purchaseType : PurchaseType) (years qty : ℕ) : Prop where
  registration : ∃ fee, calculateRegistrationFee base purchaseType years df = .ok fee ∧
    (h ≤ 26 → 0 < fee) ∧ (base = 0 → fee = 0)
  extension : ∃ fee, calculateExtensionFee base years df = .ok fee ∧
    (h ≤ 24 → 0 < fee) ∧ (base = 0 → fee = 0)
  undername : ∃ fee, calculateUndernameCost base qty purchaseType df = .ok fee ∧
    (h ≤ 16 → 0 < fee) ∧ (base = 0 → fee = 0)

lemma Capped.priced {qty : ℕ} (hcap : Capped base df) (hdf : demandFactorMin ≤ df)
    (hbase : ∀ m, h ≤ m → 200000000 / 2 ^ m ≤ base) (purchaseType : PurchaseType)
    (hyears : 1 ≤ years) (hfive : years ≤ 5) (hqty : 1 ≤ qty) (hword : qty < 2 ^ 16) :
    Priced h base df purchaseType years qty := by
  refine ⟨?_, ?_, ?_⟩
  · have hpos : h ≤ 26 → 2 ≤ base := fun hle => (hbase 26 hle).trans' (by norm_num)
    cases purchaseType with
    | lease =>
      refine ⟨_, hcap.lease (by omega), fun hle => leaseFee_pos (hpos hle) hdf hyears, ?_⟩
      rintro rfl
      simp [leaseFee]
    | permabuy =>
      refine ⟨_, hcap.permabuy, fun hle => permabuyFee_pos (by have := hpos hle; omega) hdf, ?_⟩
      rintro rfl
      simp [permabuyFee]
  · have hpos : h ≤ 24 → 10 ≤ base := fun hle => (hbase 24 hle).trans' (by norm_num)
    refine ⟨_, hcap.extension (by omega),
      fun hle => shareFee_pos (hpos hle) hdf hyears (by decide), ?_⟩
    rintro rfl
    simp [shareFee]
  · have hpos : h ≤ 16 → 2000 ≤ base := fun hle => (hbase 16 hle).trans' (by norm_num)
    refine ⟨_, hcap.undername purchaseType hword, fun hle => ?_, ?_⟩
    · refine shareFee_pos (hpos hle) hdf hqty ?_
      cases purchaseType <;> decide
    · rintro rfl
      simp [shareFee]

end

/-- **Prices stay positive.** In every state that rollovers and purchases reach from an initial
factor within its bounds, the fees are the first ones halved some number of times, once in 53
periods and the first time in period 9 at the earliest. All prices of valid names are computed;
registrations are positive up to 26 halvings, extensions up to 24 and undernames up to 16. -/
theorem prices_positive (clock : ℤ) (configBump demandBump : ℕ) (params : InitializeArnsParams)
    (config : ArnsConfig) (demand₀ demand : DemandFactor)
    (tr : List (Step DemandFactor DemandEvent))
    (hinit : initializeArns clock configBump demandBump params = .ok (config, demand₀))
    (hcap : params.initialDemandFactor ≤ maxDemandFactor)
    (run : Run DemandStep demand₀ tr demand) :
    ∃ h, 53 * h ≤ demand.currentPeriod + 44 ∧ FeesHalved h demand.fees ∧
      ∀ nameLength, 1 ≤ nameLength → nameLength ≤ 51 →
        ∃ base, getBaseFeeForNameLength demand.fees nameLength = .ok base ∧
          ∀ purchaseType years qty, 1 ≤ years → years ≤ 5 → 1 ≤ qty → qty < 2 ^ 16 →
            Priced h base demand.currentDemandFactor purchaseType years qty := by
  have hfirst := initializeArns_ordered hinit hcap
  have hordered := run_ordered hfirst run
  obtain ⟨h, hfees, hperiods⟩ := run_halved (initializeArns_halved hinit) hfirst run
  refine ⟨h, by omega, hfees, fun nameLength hpos hle => ?_⟩
  obtain ⟨base, hbase, hcapped⟩ := hordered.baseFee hpos hle
  have hlt : nameLength - 1 < numNameLengthFees := by
    unfold numNameLengthFees
    omega
  have hfee : base = demand.fees[nameLength - 1] := by
    rw [getBaseFeeForNameLength, if_neg (by omega), getElem?_pos demand.fees _ hlt] at hbase
    exact (Except.ok.inj hbase).symm
  refine ⟨base, hbase, fun purchaseType years qty h1 h5 hq hq' => ?_⟩
  refine hcapped.priced hordered.factor_ge (fun m hm => ?_) purchaseType h1 h5 hq hq'
  rw [hfee]
  exact hfees.le hm ⟨nameLength - 1, hlt⟩

open SmallDemand in
theorem prices_positive_small :
    ∃ h, 53 * h ≤ bought.currentPeriod + 44 ∧ FeesHalved h bought.fees := by
  obtain ⟨h, hle, hfees, -⟩ := prices_positive 1600000000 255 254 params _ first bought _ rfl
    (by decide) (.cons .nil bought_step)
  exact ⟨h, hle, hfees⟩

/-! ### Years without demand -/

/-- The length of a cycle, looked for within `n` steps. -/
def cycleWithin : ℕ → ℕ → ℕ → Option ℕ
  | 0, _, _ => none
  | n + 1, factor, consecutive =>
    if (zeroActivityStep factor consecutive).2.2 = true then some 1
    else (cycleWithin n (zeroActivityStep factor consecutive).1
      (zeroActivityStep factor consecutive).2.1).map (· + 1)

lemma cycleWithin_some {n factor consecutive steps k : ℕ}
    (h : cycleWithin n factor consecutive = some k) :
    zeroActivityCycleFrom factor consecutive steps = steps + k := by
  induction n generalizing factor consecutive steps k with
  | zero => cases h
  | succ n ih =>
    rw [zeroActivityCycleFrom]
    rw [cycleWithin] at h
    split at h
    · rename_i hhalved
      rw [if_pos hhalved, ← Option.some.inj h]
    · rename_i hhalved
      obtain ⟨k', hk', rfl⟩ := Option.map_eq_some_iff.mp h
      rw [if_neg hhalved, ih hk']
      omega

lemma zeroActivityCycleLength_value : zeroActivityCycleLength = 53 := by
  have hfound : cycleWithin 60 demandFactorScale 0 = some 53 := by decide +kernel
  rw [zeroActivityCycleLength, cycleWithin_some hfound]

namespace SmallDemand

lemma first_words : first.Words := ⟨by decide, by unfold FeeWords; decide⟩

/-- Four years after the first period, with nothing bought. -/
def idle : DemandFactor := first.afterIdle (zeroActivityCycleLength * 28)

lemma idle_step : DemandStep first (.updateDemandFactor 1728217600) idle := by
  have hperiod : getPeriodForTimestamp 1728217600 first.periodZeroStartTimestamp = .ok 1485 := by
    decide +kernel
  have hroll := rollPeriods_quiet (n := 1484) first_words ⟨rfl, rfl⟩ (by decide)
  rw [DemandStep, DemandEvent.exec, maybeRollDemandPeriod_eq first_words, hperiod, ok_bind]
  rw [idle, zeroActivityCycleLength_value]
  exact hroll

lemma idle_prices : idle.fees[50] = 0 ∧ idle.currentDemandFactor = demandFactorScale := by
  have hend : Idle.next^[zeroActivityCycleLength * 28] first.idle
      = ⟨demandFactorScale, 0, halve^[28] genesisFees⟩ := iterate_cycles genesisFees 28
  have hfees : ∀ n, FeesHalved n (halve^[n] genesisFees) := by
    intro n
    induction n with
    | zero => exact fun i => by rw [pow_zero, Nat.div_one]; rfl
    | succ n ih =>
      rw [Function.iterate_succ_apply']
      exact ih.halve
  rw [idle, DemandFactor.afterIdle, hend]
  exact ⟨(hfees 28 ⟨50, by decide⟩).trans (by decide), rfl⟩

end SmallDemand

open SmallDemand in
/-- After four idle years a name of 51 characters cannot be bought, and is extended for nothing. An
initial factor above the cap makes a price overflow. -/
theorem prices_vanish :
    (∃ config, initializeArns 1600000000 255 254 params = .ok (config, first)) ∧
    DemandStep first (.updateDemandFactor 1728217600) idle ∧
    getBaseFeeForNameLength idle.fees 51 = .ok 0 ∧
    calculateRegistrationFee 0 .lease 1 idle.currentDemandFactor = .ok 0 ∧
    calculateExtensionFee 0 1 idle.currentDemandFactor = .ok 0 ∧
    calculateUndernameCost 0 1 .lease idle.currentDemandFactor = .ok 0 ∧
    (initializeArns 1600000000 255 254 { params with initialDemandFactor := 2 ^ 64 - 1 }).isOk ∧
    calculateRegistrationFee 500000000000 .permabuy 1 (2 ^ 64 - 1) = .error
        .arithmeticOverflow := by
  obtain ⟨hfee, hfactor⟩ := idle_prices
  have hbase : getBaseFeeForNameLength idle.fees 51 = .ok 0 := by
    rw [getBaseFeeForNameLength, if_neg (by decide), getElem?_pos idle.fees _ (by decide), hfee]
    rfl
  rw [hfactor]
  exact ⟨⟨_, rfl⟩, idle_step, hbase, by decide +kernel, by decide +kernel, by decide +kernel,
    by decide +kernel, by decide +kernel⟩

end Arns
end ArioSolana
