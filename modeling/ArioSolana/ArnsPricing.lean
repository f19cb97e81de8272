import ArioSolana.ArnsDemand

/-!
# Prices

The prices of the name program: a registration, an extension, more undernames, the premium of a name
that was returned, and the discount of gateway operators. Each is a product in words of 128 bits
that is scaled back by division. -/

namespace ArioSolana
namespace Arns

open Checked

/-! ### Constants -/

/-- 0.2 -/
def annualPercentageFee : ℕ := 200000

/-- 0.001 -/
def undernameLeaseFeePct : ℕ := 1000

/-- 0.005 -/
def undernamePermabuyFeePct : ℕ := 5000

def returnedNameMaxMultiplier : ℕ := 50

/-- 14 days. -/
def returnedNameDurationSeconds : ℤ := 14 * 86400

/-- 0.2 -/
def gatewayOperatorDiscountPct : ℕ := 200000

/-! ### The functions -/

def mul128 (a b : ℕ) : Except ArnsError ℕ := okOr (checkedMul 128 a b) .arithmeticOverflow

def toU64 (a : ℕ) : Except ArnsError ℕ := okOr (tryFrom 64 a) .arithmeticOverflow

/-- The fee for a new name. -/
def calculateRegistrationFee (baseFee : ℕ) (purchaseType : PurchaseType)
    (years demandFactor : ℕ) : Except ArnsError ℕ :=
  match purchaseType with
  | .lease => do
    let annual ← mul128 annualPercentageFee years
    let yearFactor ← okOr (checkedAdd 128 demandFactorScale annual) .arithmeticOverflow
    let fee ← mul128 baseFee demandFactor
    let fee ← mul128 fee yearFactor
    toU64 (fee / demandFactorScale / demandFactorScale)
  | .permabuy => do
    let fee ← mul128 baseFee demandFactor
    let fee ← mul128 fee 5
    toU64 (fee / demandFactorScale)

/-- A part `pct` of the base fee, `count` times. -/
def calculateShare (baseFee demandFactor pct count : ℕ) : Except ArnsError ℕ := do
  let fee ← mul128 baseFee demandFactor
  let fee ← mul128 fee pct
  let fee ← mul128 fee count
  toU64 (fee / demandFactorScale / demandFactorScale)

/-- The fee for more years of a lease. -/
def calculateExtensionFee (baseFee years demandFactor : ℕ) : Except ArnsError ℕ :=
  calculateShare baseFee demandFactor annualPercentageFee years

def PurchaseType.undernameFeePct : PurchaseType → ℕ
  | .lease => undernameLeaseFeePct
  | .permabuy => undernamePermabuyFeePct

/-- The fee for a higher undername limit. -/
def calculateUndernameCost (baseFee qty : ℕ) (purchaseType : PurchaseType) (demandFactor : ℕ) :
    Except ArnsError ℕ :=
  calculateShare baseFee demandFactor purchaseType.undernameFeePct qty

def calculatePermabuyFee (baseFee demandFactor : ℕ) : Except ArnsError ℕ :=
  calculateRegistrationFee baseFee .permabuy 0 demandFactor

/-- A signed word as an unsigned one of 128 bits. -/
def asU128 (z : ℤ) : ℕ := (z % 2 ^ 128).toNat

/-- The price of a returned name. It falls from fifty registration fees to one. -/
def calculateReturnedNamePremium (registrationFee : ℕ) (returnedAt currentTimestamp : ℤ) :
    Except ArnsError ℕ :=
  let elapsed := saturatingSubSigned 64 currentTimestamp returnedAt
  let duration := returnedNameDurationSeconds
  if duration ≤ elapsed then return registrationFee
  else do
    let full ← mul128 returnedNameMaxMultiplier (asU128 duration)
    let fallen ← mul128 (returnedNameMaxMultiplier - 1) (asU128 elapsed)
    let numerator ← okOr (checkedSub full fallen) .arithmeticOverflow
    let scaled ← mul128 numerator demandFactorScale
    let multiplier := scaled / asU128 duration
    let fee ← mul128 registrationFee multiplier
    toU64 (fee / demandFactorScale)

/-- Twenty percent off. -/
def applyGatewayOperatorDiscount (tokenCost : ℕ) : Except ArnsError ℕ := do
  let scaled ← mul128 tokenCost gatewayOperatorDiscountPct
  let result ← okOr (checkedSub tokenCost (scaled / demandFactorScale)) .arithmeticOverflow
  toU64 result

/-- The fee of the table for names of a length. -/
def getBaseFeeForNameLength (fees : Fees) (nameLength : ℕ) : Except ArnsError ℕ :=
  if nameLength < 1 ∨ 51 < nameLength then .error .invalidNameFormat
  else okOr fees[nameLength - 1]? .panicked

section

variable {a b v base df years count pct fee el : ℕ} {t t' r : ℤ}

lemma mul128_eq (h : a * b < 2 ^ 128) : mul128 a b = .ok (a * b) :=
  okOr_eq_ok.mpr (checkedMul_eq_some.mpr ⟨h, rfl⟩)

lemma toU64_eq (h : a < 2 ^ 64) : toU64 a = .ok a := okOr_eq_ok.mpr (tryFrom_eq_some.mpr ⟨h, rfl⟩)

/-! ### Fees within the cap -/

/-- A base fee and a factor that stay below the highest of either. -/
structure Capped (base df : ℕ) : Prop where
  base : base ≤ 500000000000
  factor : df ≤ maxDemandFactor

lemma Capped.mul_le (h : Capped base df) : base * df ≤ 500000000000 * 1000000000 :=
  Nat.mul_le_mul h.base h.factor

lemma Capped.mul_mul_le (h : Capped base df) (hv : v ≤ 500000000) :
    base * df * v ≤ 500000000000 * 1000000000 * 500000000 := Nat.mul_le_mul h.mul_le hv

lemma Capped.mul128_eq (h : Capped base df) : mul128 base df = .ok (base * df) :=
  Arns.mul128_eq (h.mul_le.trans_lt (by norm_num))

lemma Capped.mul_mul128_eq (h : Capped base df) (hv : v ≤ 500000000) :
    mul128 (base * df) v = .ok (base * df * v) :=
  Arns.mul128_eq ((h.mul_mul_le hv).trans_lt (by norm_num))

lemma Capped.toU64_eq (h : Capped base df) (hv : v ≤ 500000000) :
    toU64 (base * df * v / demandFactorScale / demandFactorScale)
      = .ok (base * df * v / demandFactorScale / demandFactorScale) := by
  refine Arns.toU64_eq ?_
  have hle := h.mul_mul_le hv
  unfold demandFactorScale
  omega

/-- The fee of a lease. -/
def leaseFee (base df years : ℕ) : ℕ :=
  base * df * (demandFactorScale + annualPercentageFee * years) / demandFactorScale
    / demandFactorScale

/-- The fee of a permabuy. -/
def permabuyFee (base df : ℕ) : ℕ := base * df * 5 / demandFactorScale

/-- A part of the fee, some times. -/
def shareFee (base df pct count : ℕ) : ℕ :=
  base * df * (pct * count) / demandFactorScale / demandFactorScale

lemma Capped.lease (h : Capped base df) (hyears : years < 256) :
    calculateRegistrationFee base .lease years df = .ok (leaseFee base df years) := by
  have hannual : annualPercentageFee * years ≤ 51000000 := by
    unfold annualPercentageFee
    omega
  have hfactor : demandFactorScale + annualPercentageFee * years ≤ 500000000 := by
    unfold demandFactorScale
    omega
  have hadd : okOr (checkedAdd 128 demandFactorScale (annualPercentageFee * years))
      ArnsError.arithmeticOverflow = .ok (demandFactorScale + annualPercentageFee * years) :=
    okOr_eq_ok.mpr (checkedAdd_eq_some.mpr ⟨by omega, rfl⟩)
  rw [calculateRegistrationFee, Arns.mul128_eq (by omega), ok_bind, hadd, ok_bind, h.mul128_eq,
    ok_bind, h.mul_mul128_eq hfactor, ok_bind, h.toU64_eq hfactor]
  rfl

lemma Capped.permabuy (h : Capped base df) :
    calculateRegistrationFee base .permabuy years df = .ok (permabuyFee base df) := by
  have hle := h.mul_le
  rw [calculateRegistrationFee, h.mul128_eq, ok_bind, h.mul_mul128_eq (by norm_num), ok_bind]
  refine Arns.toU64_eq ?_
  unfold demandFactorScale
  omega

lemma Capped.share (h : Capped base df) (hpct : pct ≤ 200000) (hboth : pct * count ≤ 500000000) :
    calculateShare base df pct count = .ok (shareFee base df pct count) := by
  have hpct' : pct ≤ 500000000 := hpct.trans (by norm_num)
  have hmul : mul128 (base * df * pct) count = .ok (base * df * (pct * count)) := by
    rw [Arns.mul128_eq, Nat.mul_assoc]
    rw [Nat.mul_assoc]
    exact (h.mul_mul_le hboth).trans_lt (by norm_num)
  rw [calculateShare, h.mul128_eq, ok_bind, h.mul_mul128_eq hpct', ok_bind, hmul, ok_bind,
    h.toU64_eq hboth]
  rfl

lemma Capped.extension (h : Capped base df) (hyears : years < 256) :
    calculateExtensionFee base years df = .ok (shareFee base df annualPercentageFee years) :=
  h.share le_rfl (by unfold annualPercentageFee; omega)

lemma Capped.undername (h : Capped base df) (purchaseType : PurchaseType)
    (hcount : count < 2 ^ 16) : calculateUndernameCost base count purchaseType df
      = .ok (shareFee base df purchaseType.undernameFeePct count) := by
  have hpct : purchaseType.undernameFeePct ≤ 5000 := by
    cases purchaseType <;> decide
  have hboth := Nat.mul_le_mul hpct (Nat.le_of_lt hcount)
  exact h.share (hpct.trans (by norm_num)) (hboth.trans (by norm_num))

/-! ### Order -/

lemma leaseFee_eq (base df years : ℕ) :
    leaseFee base df years = base * df * (5 + years) / (5 * demandFactorScale) := by
  have hyear : demandFactorScale + annualPercentageFee * years = (5 + years) * 200000 := by
    unfold demandFactorScale annualPercentageFee
    omega
  rw [leaseFee, hyear, Nat.div_div_eq_div_mul, ← Nat.mul_assoc]
  unfold demandFactorScale
  omega

lemma extensionFee_eq (base df years : ℕ) : shareFee base df annualPercentageFee years
    = base * df * years / (5 * demandFactorScale) := by
  rw [shareFee, Nat.div_div_eq_div_mul, Nat.mul_comm annualPercentageFee, ← Nat.mul_assoc]
  unfold demandFactorScale annualPercentageFee
  omega

/-- The fees of a lease and of an extension make up that of the longer lease, up to rounding. -/
lemma leaseFee_add (base df years count : ℕ) :
    leaseFee base df years + shareFee base df annualPercentageFee count
        ≤ leaseFee base df (years + count) ∧
      leaseFee base df (years + count)
        ≤ leaseFee base df years + shareFee base df annualPercentageFee count + 1 := by
  have hsum : base * df * (5 + (years + count))
      = base * df * (5 + years) + base * df * count := by ring
  rw [leaseFee_eq, leaseFee_eq, extensionFee_eq, hsum]
  unfold demandFactorScale
  omega

lemma leaseFee_le_permabuyFee (base df : ℕ) : leaseFee base df 5 ≤ permabuyFee base df := by
  rw [leaseFee_eq, permabuyFee]
  unfold demandFactorScale
  omega

/-! ### The premium -/

/-- The multiplier after some seconds of the auction. -/
def multiplierAfter (el : ℕ) : ℕ := (50 * 1209600 - 49 * el) * demandFactorScale / 1209600

lemma multiplierAfter_le (el : ℕ) : multiplierAfter el ≤ 50 * demandFactorScale := by
  unfold multiplierAfter demandFactorScale
  omega

lemma le_multiplierAfter (h : el < 1209600) : demandFactorScale ≤ multiplierAfter el := by
  unfold multiplierAfter demandFactorScale
  omega

lemma multiplierAfter_anti {el' : ℕ} (h : el ≤ el') : multiplierAfter el' ≤ multiplierAfter el := by
  unfold multiplierAfter
  exact Nat.div_le_div_right (Nat.mul_le_mul_right _ (by omega))

/-- The price of a returned name. -/
def returnedPrice (fee : ℕ) (elapsed : ℤ) : ℕ :=
  if returnedNameDurationSeconds ≤ elapsed then fee
  else fee * multiplierAfter elapsed.toNat / demandFactorScale

lemma returnedPrice_le (fee : ℕ) (t : ℤ) : returnedPrice fee t ≤ 50 * fee := by
  unfold returnedPrice
  split
  · omega
  · refine Nat.div_le_of_le_mul ?_
    have hmul := Nat.mul_le_mul_left fee (multiplierAfter_le t.toNat)
    unfold demandFactorScale at hmul ⊢
    omega

lemma le_returnedPrice (fee : ℕ) (t : ℤ) : fee ≤ returnedPrice fee t := by
  unfold returnedPrice
  split
  · exact le_rfl
  · rename_i hlt
    unfold returnedNameDurationSeconds at hlt
    have hel : t.toNat < 1209600 := by omega
    have hmul := Nat.mul_le_mul_left fee (le_multiplierAfter hel)
    rw [Nat.le_div_iff_mul_le (by decide)]
    exact hmul

lemma returnedPrice_anti (fee : ℕ) (h : t ≤ t') : returnedPrice fee t' ≤ returnedPrice fee t := by
  by_cases hend : returnedNameDurationSeconds ≤ t'
  · rw [returnedPrice, if_pos hend]
    exact le_returnedPrice fee t
  · have hend' : ¬ returnedNameDurationSeconds ≤ t := fun hle => hend (hle.trans h)
    rw [returnedPrice, returnedPrice, if_neg hend, if_neg hend']
    exact Nat.div_le_div_right (Nat.mul_le_mul_left _ (multiplierAfter_anti (by omega)))

lemma saturatingSubSigned_mono (h : t ≤ t') (r : ℤ) :
    saturatingSubSigned 64 t r ≤ saturatingSubSigned 64 t' r := by
  unfold saturatingSubSigned
  omega

lemma saturatingSubSigned_nonneg (h : r ≤ t) : 0 ≤ saturatingSubSigned 64 t r := by
  unfold saturatingSubSigned
  omega

lemma calculateReturnedNamePremium_eq (hfee : fee < 2 ^ 58) (h : r ≤ t) :
    calculateReturnedNamePremium fee r t
      = .ok (returnedPrice fee (saturatingSubSigned 64 t r)) := by
  have hnonneg := saturatingSubSigned_nonneg h
  unfold calculateReturnedNamePremium returnedPrice
  dsimp only
  generalize saturatingSubSigned 64 t r = elapsed at hnonneg ⊢
  split
  · rfl
  rename_i hlt
  unfold returnedNameDurationSeconds at hlt
  have hel : asU128 elapsed = elapsed.toNat := by
    rw [asU128, Int.emod_eq_of_lt hnonneg (by omega)]
  have hdur : asU128 returnedNameDurationSeconds = 1209600 := by decide
  have hmult : multiplierAfter elapsed.toNat ≤ 50000000 := multiplierAfter_le _
  have hmul := Nat.mul_le_mul hfee.le hmult
  have hsub : okOr (checkedSub (50 * 1209600) ((50 - 1) * elapsed.toNat))
      ArnsError.arithmeticOverflow = .ok (50 * 1209600 - 49 * elapsed.toNat) :=
    okOr_eq_ok.mpr (checkedSub_eq_some.mpr ⟨by omega, rfl⟩)
  rw [hel, hdur, returnedNameMaxMultiplier, mul128_eq (by norm_num), ok_bind,
    mul128_eq (by omega), ok_bind, hsub, ok_bind,
    mul128_eq (by unfold demandFactorScale; omega), ok_bind]
  change (mul128 fee (multiplierAfter elapsed.toNat) >>= _) = _
  rw [mul128_eq (hmul.trans_lt (by norm_num)), ok_bind]
  refine toU64_eq ?_
  unfold demandFactorScale
  omega

/-! ### The discount -/

lemma applyGatewayOperatorDiscount_eq (h : fee < 2 ^ 64) :
    ∃ cost, applyGatewayOperatorDiscount fee = .ok cost ∧ cost ≤ fee ∧ 5 * (fee - cost) ≤ fee := by
  have hoff : fee * gatewayOperatorDiscountPct / demandFactorScale = fee / 5 := by
    unfold gatewayOperatorDiscountPct demandFactorScale
    omega
  refine ⟨fee - fee / 5, ?_, Nat.sub_le .., by omega⟩
  have hsub : okOr (checkedSub fee (fee / 5)) ArnsError.arithmeticOverflow
      = .ok (fee - fee / 5) := okOr_eq_ok.mpr (checkedSub_eq_some.mpr ⟨Nat.div_le_self .., rfl⟩)
  rw [applyGatewayOperatorDiscount, mul128_eq (by unfold gatewayOperatorDiscountPct; omega),
    ok_bind, hoff, hsub, ok_bind, toU64_eq (by omega)]

end

end Arns
end ArioSolana
