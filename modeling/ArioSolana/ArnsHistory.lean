import ArioSolana.ArnsPricing
import ArioSolana.ArnsRollover
import ArioSolana.Runs

/-!
# Prices over any history

Whatever is bought and whenever the periods are rolled, the factor stays between the floor and the
cap, and the table of fees falls and stays in order. So all prices are computed without overflow.
-/

namespace ArioSolana
namespace Arns

open Checked Solana

/-! ### The program -/

def maxLeaseLengthYears : ℕ := 5

structure ArnsConfig where
  authority : Pubkey
  mint : Pubkey
  treasury : Pubkey
  gracePeriodSeconds : ℤ
  returnAuctionDurationSeconds : ℤ
  maxLeaseLengthYears : ℕ
  totalNamesRegistered : ℕ
  nextRecordsPruneTimestamp : ℤ
  nextReturnedNamesPruneTimestamp : ℤ
  migrationActive : Bool
  migrationAuthority : Pubkey
  bump : ℕ
  version : ℕ × ℕ × ℕ

structure InitializeArnsParams where
  authority : Pubkey
  mint : Pubkey
  treasury : Pubkey
  periodZeroStartTimestamp : ℤ
  migrationAuthority : Pubkey
  initialDemandFactor : ℕ

/-- Initialize the config and the demand factor, at addresses with the given bumps. -/
def initializeArns (clock : ℤ) (configBump demandBump : ℕ) (params : InitializeArnsParams) :
    Except ArnsError (ArnsConfig × DemandFactor) := do
  let config : ArnsConfig := {
    authority := params.authority
    mint := params.mint
    treasury := params.treasury
    gracePeriodSeconds
    returnAuctionDurationSeconds := returnedNameDurationSeconds
    maxLeaseLengthYears
    totalNamesRegistered := 0
    nextRecordsPruneTimestamp := 2 ^ 63 - 1
    nextReturnedNamesPruneTimestamp := 2 ^ 63 - 1
    migrationActive := true
    migrationAuthority := params.migrationAuthority
    bump := configBump
    version := (1, 0, 0) }
  require (demandFactorMin ≤ params.initialDemandFactor) .invalidParameter
  require (params.periodZeroStartTimestamp ≤ clock) .invalidParameter
  require (1577836800 ≤ params.periodZeroStartTimestamp) .invalidParameter
  return (config, {
    currentDemandFactor := params.initialDemandFactor
    currentPeriod := 1
    purchasesThisPeriod := 0
    revenueThisPeriod := 0
    consecutivePeriodsWithMinDemandFactor := 0
    trailingPeriodPurchases := Vector.replicate movingAvgPeriodCount 0
    trailingPeriodRevenues := Vector.replicate movingAvgPeriodCount 0
    fees := genesisFees
    periodZeroStartTimestamp := params.periodZeroStartTimestamp
    criteria := demandCriteriaRevenue
    bump := demandBump
    version := demandFactorVersion })

/-- Count a purchase, as every call that sells something does at its end. -/
def DemandFactor.tally (demand : DemandFactor) (tokenCost : ℕ) : Except ArnsError DemandFactor := do
  let purchasesThisPeriod ← okOr (checkedAdd 64 demand.purchasesThisPeriod 1) .arithmeticOverflow
  let revenueThisPeriod ← okOr (checkedAdd 64 demand.revenueThisPeriod tokenCost)
    .arithmeticOverflow
  return { demand with purchasesThisPeriod, revenueThisPeriod }

/-- What is done to the demand factor. A purchase rolls it before it reads the prices. -/
inductive DemandEvent where
  | updateDemandFactor (timestamp : ℤ)
  | purchase (timestamp : ℤ) (tokenCost : ℕ)

def DemandEvent.exec (demand : DemandFactor) : DemandEvent → Except ArnsError DemandFactor
  | .updateDemandFactor timestamp => maybeRollDemandPeriod demand timestamp
  | .purchase timestamp tokenCost => do
    let demand ← maybeRollDemandPeriod demand timestamp
    demand.tally tokenCost

def DemandStep (demand : DemandFactor) (e : DemandEvent) (demand' : DemandFactor) : Prop :=
  e.exec demand = .ok demand'

/-! ### The table of fees -/

/-- No fee is higher than in the other table. -/
def FeesLe (fees fees' : Fees) : Prop := ∀ i : Fin numNameLengthFees, fees[i] ≤ fees'[i]

/-- Longer names cost no more. -/
def FeesAntitone (fees : Fees) : Prop :=
  ∀ i j : Fin numNameLengthFees, i ≤ j → fees[j] ≤ fees[i]

/-- **The ordered states.** -/
structure Ordered (demand : DemandFactor) : Prop where
  factor_ge : demandFactorMin ≤ demand.currentDemandFactor
  factor_le : demand.currentDemandFactor ≤ maxDemandFactor
  count_le : demand.consecutivePeriodsWithMinDemandFactor ≤ maxPeriodsAtMinDemandFactor
  count_pos : 0 < demand.consecutivePeriodsWithMinDemandFactor →
    demand.currentDemandFactor = demandFactorMin
  antitone : FeesAntitone demand.fees
  genesis : FeesLe demand.fees genesisFees

section

variable {demand demand' demand₀ : DemandFactor} {fees fees' fees'' : Fees} {n factor : ℕ} {t : ℤ}
  {e : DemandEvent} {tr : List (Step DemandFactor DemandEvent)} {b : Bool}

lemma FeesLe.refl (fees : Fees) : FeesLe fees fees := fun _ => le_rfl

lemma FeesLe.trans (h : FeesLe fees fees') (h' : FeesLe fees' fees'') : FeesLe fees fees'' :=
  fun i => (h i).trans (h' i)

lemma halve_getElem (fees : Fees) (i : Fin numNameLengthFees) :
    (halve fees)[i] = fees[i] * demandFactorMin / demandFactorScale := Vector.getElem_map _ _

lemma halve_feesLe (fees : Fees) : FeesLe (halve fees) fees := by
  intro i
  rw [halve_getElem]
  exact halve_le _

lemma FeesAntitone.halve (h : FeesAntitone fees) : FeesAntitone (halve fees) := by
  intro i j hij
  rw [halve_getElem, halve_getElem]
  exact Nat.div_le_div_right (Nat.mul_le_mul_right _ (h i j hij))

lemma genesisFees_le (i : Fin numNameLengthFees) : genesisFees[i] ≤ 500000000000 := by
  revert i
  decide

lemma genesisFees_antitone : FeesAntitone genesisFees := by
  unfold FeesAntitone
  decide

lemma Ordered.fee_le (h : Ordered demand) (i : Fin numNameLengthFees) :
    demand.fees[i] ≤ 500000000000 := (h.genesis i).trans (genesisFees_le i)

lemma Ordered.words (h : Ordered demand) : demand.Words where
  currentDemandFactor := h.factor_le.trans_lt (by decide)
  fees := by
    intro fee hfee
    obtain ⟨i, hi, rfl⟩ := Vector.mem_iff_getElem.mp hfee
    exact (h.fee_le ⟨i, hi⟩).trans_lt (by norm_num)

/-! ### One period -/

/-- The adjusted factor is below the cap, and above the floor or where the floor catches it. -/
lemma adjust_le (h : Ordered demand) (hadjust : demand.adjust b = .ok factor) :
    factor ≤ maxDemandFactor := by
  unfold DemandFactor.adjust at hadjust
  split at hadjust
  · simp only [bind_eq_ok, mulScaled_eq_ok, pure_eq_ok] at hadjust
    obtain ⟨_, -, rfl⟩ := hadjust
    exact min_le_right _ _
  · split at hadjust
    · obtain ⟨-, -, rfl⟩ := mulScaled_eq_ok.mp hadjust
      refine (Nat.div_le_of_le_mul ?_).trans h.factor_le
      unfold demandFactorScale demandFactorDownAdjustment
      omega
    · rw [← pure_eq_ok.mp hadjust]
      exact h.factor_le

lemma Ordered.checkFloor (h : Ordered demand) (hfactor : factor ≤ maxDemandFactor)
    (hfloor : demand.checkFloor factor = .ok demand') :
    Ordered demand' ∧ FeesLe demand'.fees demand.fees := by
  unfold DemandFactor.checkFloor at hfloor
  split at hfloor
  · split at hfloor
    · rw [updateFees_eq h.words.fees, ok_bind] at hfloor
      obtain rfl := pure_eq_ok.mp hfloor
      have hfees := halve_feesLe demand.fees
      exact ⟨⟨(by decide : demandFactorMin ≤ demandFactorScale),
        (by decide : demandFactorScale ≤ maxDemandFactor), Nat.zero_le _,
        fun hpos => absurd hpos (lt_irrefl 0), h.antitone.halve, hfees.trans h.genesis⟩, hfees⟩
    · rename_i hdwell
      simp only [bind_eq_ok, okOr_eq_ok, checkedAdd_eq_some, pure_eq_ok] at hfloor
      obtain ⟨_, ⟨-, rfl⟩, rfl⟩ := hfloor
      exact ⟨⟨le_refl demandFactorMin, (by decide : demandFactorMin ≤ maxDemandFactor),
        Nat.lt_of_not_le hdwell, fun _ => rfl, h.antitone, h.genesis⟩, .refl _⟩
  · rename_i habove
    obtain rfl := pure_eq_ok.mp hfloor
    exact ⟨⟨(Nat.lt_of_not_le habove).le, hfactor, Nat.zero_le _,
      fun hpos => absurd hpos (lt_irrefl 0), h.antitone, h.genesis⟩, .refl _⟩

lemma Ordered.rollOnePeriod (h : Ordered demand) (hroll : rollOnePeriod demand = .ok demand') :
    Ordered demand' ∧ FeesLe demand'.fees demand.fees := by
  simp only [Arns.rollOnePeriod, bind_eq_ok] at hroll
  obtain ⟨b, -, factor, hadjust, mid, hfloor, hclose⟩ := hroll
  obtain ⟨hmid, hfees⟩ := h.checkFloor (adjust_le h hadjust) hfloor
  simp only [DemandFactor.closePeriod, bind_eq_ok, pure_eq_ok] at hclose
  obtain ⟨_, -, rfl⟩ := hclose
  exact ⟨⟨hmid.factor_ge, hmid.factor_le, hmid.count_le, hmid.count_pos, hmid.antitone,
    hmid.genesis⟩, hfees⟩

lemma Ordered.rollPeriods (h : Ordered demand) (hroll : rollPeriods n demand = .ok demand') :
    Ordered demand' ∧ FeesLe demand'.fees demand.fees := by
  induction n generalizing demand with
  | zero =>
    obtain rfl := pure_eq_ok.mp hroll
    exact ⟨h, .refl _⟩
  | succ n ih =>
    simp only [Arns.rollPeriods, bind_eq_ok] at hroll
    obtain ⟨mid, hone, hroll⟩ := hroll
    obtain ⟨hmid, hfees⟩ := h.rollOnePeriod hone
    obtain ⟨hlast, hfees'⟩ := ih hmid hroll
    exact ⟨hlast, hfees'.trans hfees⟩

lemma Ordered.maybeRoll (h : Ordered demand)
    (hroll : maybeRollDemandPeriod demand t = .ok demand') :
    Ordered demand' ∧ FeesLe demand'.fees demand.fees := by
  rw [maybeRollDemandPeriod_eq h.words] at hroll
  simp only [bind_eq_ok] at hroll
  obtain ⟨target, -, hroll⟩ := hroll
  exact h.rollPeriods hroll

/-! ### Histories -/

lemma Ordered.step (h : Ordered demand) (hstep : DemandStep demand e demand') :
    Ordered demand' ∧ FeesLe demand'.fees demand.fees := by
  cases e with
  | updateDemandFactor timestamp => exact h.maybeRoll hstep
  | purchase timestamp tokenCost =>
    simp only [DemandStep, DemandEvent.exec, DemandFactor.tally, bind_eq_ok, pure_eq_ok] at hstep
    obtain ⟨mid, hroll, _, -, _, -, rfl⟩ := hstep
    obtain ⟨hmid, hfees⟩ := h.maybeRoll hroll
    exact ⟨⟨hmid.factor_ge, hmid.factor_le, hmid.count_le, hmid.count_pos, hmid.antitone,
      hmid.genesis⟩, hfees⟩

lemma initializeArns_ordered {clock : ℤ} {configBump demandBump : ℕ}
    {params : InitializeArnsParams} {config : ArnsConfig}
    (hinit : initializeArns clock configBump demandBump params = .ok (config, demand))
    (hcap : params.initialDemandFactor ≤ maxDemandFactor) : Ordered demand := by
  simp only [initializeArns, bind_eq_ok, require_eq_ok, pure_eq_ok, exists_const,
    Prod.mk.injEq] at hinit
  obtain ⟨hmin, -, -, -, rfl⟩ := hinit
  exact ⟨hmin, hcap, Nat.zero_le _, fun hpos => absurd hpos (lt_irrefl 0), genesisFees_antitone,
    .refl _⟩

lemma run_ordered (h : Ordered demand₀) (run : Run DemandStep demand₀ tr demand) :
    Ordered demand := by
  induction run with
  | nil => exact h
  | cons run last ih => exact (ih.step last).1

lemma Ordered.baseFee (h : Ordered demand) {nameLength : ℕ} (hpos : 1 ≤ nameLength)
    (hle : nameLength ≤ 51) : ∃ base, getBaseFeeForNameLength demand.fees nameLength = .ok base ∧
      Capped base demand.currentDemandFactor := by
  have hlt : nameLength - 1 < numNameLengthFees := by
    unfold numNameLengthFees
    omega
  refine ⟨demand.fees[nameLength - 1], ?_, h.fee_le ⟨_, hlt⟩, h.factor_le⟩
  rw [getBaseFeeForNameLength, if_neg (by omega), getElem?_pos demand.fees _ hlt]
  rfl

end

/-- A price that the program quotes for a registration. -/
def RegistrationFee (base df fee : ℕ) : Prop :=
  ∃ purchaseType years, 1 ≤ years ∧ years ≤ 5 ∧
    calculateRegistrationFee base purchaseType years df = .ok fee

/-- **The order of prices** for a base fee and a demand factor: every price is computed, a permabuy
costs at least as much as five years, leases add up, a returned name costs from fifty registration
fees down to one, and the discount takes off a fifth at most. -/
structure PricesOrdered (base df : ℕ) : Prop where
  lease : ∀ purchaseType years, 1 ≤ years → years ≤ 5 →
    ∃ fee, calculateRegistrationFee base purchaseType years df = .ok fee
  permabuy : ∃ fee lease, calculatePermabuyFee base df = .ok fee ∧
    calculateRegistrationFee base .lease 5 df = .ok lease ∧ lease ≤ fee
  extension : ∀ years more, 1 ≤ years → years ≤ 5 → 1 ≤ more → more ≤ 5 →
    ∃ lease extra longer, calculateRegistrationFee base .lease years df = .ok lease ∧
      calculateExtensionFee base more df = .ok extra ∧
      calculateRegistrationFee base .lease (years + more) df = .ok longer ∧
      lease + extra ≤ longer ∧ longer ≤ lease + extra + 1
  undername : ∀ purchaseType qty, qty < 2 ^ 16 →
    ∃ cost, calculateUndernameCost base qty purchaseType df = .ok cost
  returned : ∀ fee, RegistrationFee base df fee → ∀ returnedAt t, returnedAt ≤ t →
    ∃ price, calculateReturnedNamePremium fee returnedAt t = .ok price ∧
      fee ≤ price ∧ price ≤ 50 * fee ∧ ∀ t', t ≤ t' →
        ∃ price', calculateReturnedNamePremium fee returnedAt t' = .ok price' ∧ price' ≤ price
  discount : ∀ tokenCost, tokenCost < 2 ^ 64 →
    ∃ cost, applyGatewayOperatorDiscount tokenCost = .ok cost ∧ cost ≤ tokenCost ∧
      5 * (tokenCost - cost) ≤ tokenCost

section

variable {base df fee : ℕ}

lemma Capped.registrationFee_lt (h : Capped base df) (hfee : RegistrationFee base df fee) :
    fee < 2 ^ 58 := by
  obtain ⟨purchaseType, years, -, hyears, hfee⟩ := hfee
  have hle := h.mul_le
  cases purchaseType with
  | lease =>
    rw [h.lease (by omega)] at hfee
    obtain rfl := Except.ok.inj hfee
    have hmul : base * df * (5 + years) ≤ base * df * 10 := Nat.mul_le_mul_left _ (by omega)
    rw [leaseFee_eq]
    unfold demandFactorScale
    omega
  | permabuy =>
    rw [h.permabuy] at hfee
    obtain rfl := Except.ok.inj hfee
    unfold permabuyFee demandFactorScale
    omega

lemma Capped.pricesOrdered (h : Capped base df) : PricesOrdered base df where
  lease purchaseType years _ hyears := by
    cases purchaseType with
    | lease => exact ⟨_, h.lease (by omega)⟩
    | permabuy => exact ⟨_, h.permabuy⟩
  permabuy := ⟨_, _, h.permabuy, h.lease (by norm_num), leaseFee_le_permabuyFee base df⟩
  extension years more _ hyears _ hmore :=
    ⟨_, _, _, h.lease (by omega), h.extension (by omega), h.lease (by omega),
      (leaseFee_add base df years more).1, (leaseFee_add base df years more).2⟩
  undername purchaseType qty hqty := ⟨_, h.undername purchaseType hqty⟩
  returned fee hfee returnedAt t ht := by
    have hlt := h.registrationFee_lt hfee
    refine ⟨_, calculateReturnedNamePremium_eq hlt ht, le_returnedPrice .., returnedPrice_le ..,
      fun t' ht' => ?_⟩
    exact ⟨_, calculateReturnedNamePremium_eq hlt (ht.trans ht'),
      returnedPrice_anti fee (saturatingSubSigned_mono ht' returnedAt)⟩
  discount _ htokenCost := applyGatewayOperatorDiscount_eq htokenCost

end

/-- **Prices over any history.** In every state that rollovers and purchases reach from an initial
factor within its bounds, the factor and the count are within theirs, no step raises a fee, longer
names cost no more, and the prices are in order. -/
theorem prices_ordered (clock : ℤ) (configBump demandBump : ℕ) (params : InitializeArnsParams)
    (config : ArnsConfig) (demand₀ demand : DemandFactor)
    (tr : List (Step DemandFactor DemandEvent))
    (hinit : initializeArns clock configBump demandBump params = .ok (config, demand₀))
    (hcap : params.initialDemandFactor ≤ maxDemandFactor)
    (run : Run DemandStep demand₀ tr demand) :
    Ordered demand ∧
    (∀ e demand', DemandStep demand e demand' → FeesLe demand'.fees demand.fees) ∧
    ∀ nameLength, 1 ≤ nameLength → nameLength ≤ 51 →
      ∃ base, getBaseFeeForNameLength demand.fees nameLength = .ok base ∧
        PricesOrdered base demand.currentDemandFactor := by
  have hordered : Ordered demand := run_ordered (initializeArns_ordered hinit hcap) run
  refine ⟨hordered, fun e demand' hstep => (hordered.step hstep).2, fun nameLength hpos hle => ?_⟩
  obtain ⟨base, hbase, hcapped⟩ := hordered.baseFee hpos hle
  exact ⟨base, hbase, hcapped.pricesOrdered⟩

namespace SmallDemand

def params : InitializeArnsParams := ⟨⟨1⟩, ⟨2⟩, ⟨3⟩, 1600000000, ⟨4⟩, demandFactorScale⟩

/-- The demand factor after initialization. -/
def first : DemandFactor where
  currentDemandFactor := demandFactorScale
  currentPeriod := 1
  purchasesThisPeriod := 0
  revenueThisPeriod := 0
  consecutivePeriodsWithMinDemandFactor := 0
  trailingPeriodPurchases := Vector.replicate movingAvgPeriodCount 0
  trailingPeriodRevenues := Vector.replicate movingAvgPeriodCount 0
  fees := genesisFees
  periodZeroStartTimestamp := 1600000000
  criteria := demandCriteriaRevenue
  bump := 254
  version := demandFactorVersion

/-- A purchase in the first period. -/
def bought : DemandFactor := { first with purchasesThisPeriod := 1, revenueThisPeriod := 240000000 }

lemma bought_step : DemandStep first (.purchase 1600000500 240000000) bought := by
  have hperiod : getPeriodForTimestamp 1600000500 first.periodZeroStartTimestamp = .ok 1 := by
    decide +kernel
  have hroll : maybeRollDemandPeriod first 1600000500 = .ok first := by
    rw [maybeRollDemandPeriod, hperiod, ok_bind, if_pos (by exact le_rfl)]
    rfl
  have hcount : checkedAdd 64 first.purchasesThisPeriod 1 = some 1 := by decide +kernel
  have hrevenue : checkedAdd 64 first.revenueThisPeriod 240000000 = some 240000000 := by
    decide +kernel
  rw [DemandStep, DemandEvent.exec, hroll, ok_bind, DemandFactor.tally, hcount, hrevenue]
  rfl

end SmallDemand

open SmallDemand in
theorem prices_ordered_small : Ordered bought :=
  (prices_ordered 1600000000 255 254 params _ first bought _ rfl (by decide)
    (.cons .nil bought_step)).1

end Arns
end ArioSolana
