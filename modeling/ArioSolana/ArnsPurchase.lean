import ArioSolana.ArnsNames

/-!
# Buying names

A name is bought when it is free, or at an auction after somebody gave it back or lost it. Whoever
pays can extend a lease, turn it into a permabuy, or raise the limit of undernames. All of them
first roll the demand factor over to the current period, and count the sale at the end. -/

namespace ArioSolana
namespace Arns

open Checked Solana

/-- The arguments of both purchases. -/
structure BuyNameParams where
  name : List UInt8
  purchaseType : PurchaseType
  years : ℕ
  /-- the asset that controls the name -/
  ant : Pubkey

/-! ### Shared steps -/

/-- Roll the demand factor over to the current period. -/
def rollDemand (clock : ℤ) (s : NameState) : Except NameError NameState := do
  let demand ← within .ofPricing (maybeRollDemandPeriod s.demand clock)
  return { s with demand }

/-- Count a sale. -/
def tallyDemand (tokenCost : ℕ) (s : NameState) : Except NameError NameState := do
  let demand ← within .ofPricing (s.demand.tally tokenCost)
  return { s with demand }

def checkLeaseYears (purchaseType : PurchaseType) (years : ℕ) : Except NameError Unit :=
  match purchaseType with
  | .lease => require (1 ≤ years ∧ years ≤ maxLeaseLengthYears) .invalidLeaseDuration
  | .permabuy => return ()

def addYears (start : ℤ) (years : ℕ) : Except NameError ℤ := do
  let duration ← okOr (checkedMulSigned 64 years oneYearSeconds) .arithmeticOverflow
  okOr (checkedAddSigned 64 start duration) .arithmeticOverflow

/-- When a name bought now ends. -/
def endOf (clock : ℤ) (purchaseType : PurchaseType) (years : ℕ) : Except NameError (Option ℤ) :=
  match purchaseType with
  | .lease => do
    let endTs ← addYears clock years
    return some endTs
  | .permabuy => return none

/-- Bring the next pruning forward to the end of a lease and its grace period. -/
def ArnsConfig.scheduleRecordsPrune (config : ArnsConfig) (endTs : ℤ) :
    Except NameError ArnsConfig := do
  let pruneTs ← okOr (checkedAddSigned 64 endTs config.gracePeriodSeconds) .arithmeticOverflow
  return if pruneTs < config.nextRecordsPruneTimestamp then
    { config with nextRecordsPruneTimestamp := pruneTs }
  else config

/-- Bring the next pruning of returned names forward to the end of an auction. -/
def ArnsConfig.scheduleReturnedPrune (config : ArnsConfig) (clock : ℤ) :
    Except NameError ArnsConfig := do
  let pruneTs ← okOr (checkedAddSigned 64 clock config.returnAuctionDurationSeconds)
    .arithmeticOverflow
  return if pruneTs < config.nextReturnedNamesPruneTimestamp then
    { config with nextReturnedNamesPruneTimestamp := pruneTs }
  else config

/-- Write the record of a name that was paid for, and list it. -/
def register (env : NameEnv) (clock : ℤ) (hash : Bytes32) (params : BuyNameParams) (buyer : Pubkey)
    (tokenCost : ℕ) (s : NameState) : Except NameError NameState := do
  let endTimestamp ← endOf clock params.purchaseType params.years
  let s := s.setRecord hash (some {
    nameHash := hash
    owner := buyer
    ant := params.ant
    purchaseType := params.purchaseType
    startTimestamp := clock
    endTimestamp
    undernameLimit := defaultUndernameCount
    purchasePrice := tokenCost
    bump := env.bump .record hash
    name := env.toLowercase params.name
    version := accountVersion })
  let totalNamesRegistered ← okOr (checkedAdd 64 s.config.totalNamesRegistered 1)
    .arithmeticOverflow
  let config := { s.config with totalNamesRegistered }
  let config ← endTimestamp.elim (pure config) config.scheduleRecordsPrune
  let s ← tallyDemand tokenCost { s with config }
  let registry ← s.registry.appendNameEntry ⟨hash, s.registry.count⟩
  return { s with registry }

/-- Who may buy a name that is reserved: nobody but the target, until the reservation expires. -/
def checkReservation (clock : ℤ) (buyer : Pubkey) : Option ReservedName → Except NameError Unit
  | none => return ()
  | some reserved =>
    if reserved.expiresAt.any (· ≤ clock) then return ()
    else match reserved.reservedFor with
      | some target => require (target = buyer) .nameReserved
      | none => throw .nameReserved

/-! ### Purchases -/

/-- Buy a free name. -/
def buyName (env : NameEnv) (clock : ℤ) (p : Payment) (params : BuyNameParams) (s : NameState) :
    Except NameError NameState := do
  let hash := hashName env params.name
  require ((s.records hash).isNone) .accountAlreadyInUse
  p.checkAccounts s
  require (isValidArnsName params.name) .invalidNameFormat
  p.checkDiscountCount
  checkReservation clock p.payer (s.reservedNames hash)
  require ((s.returnedNames hash).isNone) .auctionActive
  checkLeaseYears params.purchaseType params.years
  let s ← rollDemand clock s
  let baseFee ← within .ofPricing (getBaseFeeForNameLength s.demand.fees params.name.length)
  let tokenCost ← within .ofPricing
    (calculateRegistrationFee baseFee params.purchaseType params.years s.demand.currentDemandFactor)
  require (0 < tokenCost) .invalidParameter
  let (tokenCost, fundingAccounts) ← p.discount clock s.gar tokenCost
  let gar ← p.pay env clock fundingAccounts tokenCost s.gar
  let s ← register env clock hash params p.payer tokenCost { s with gar }
  return s.setReserved hash none

/-- The buyer's token account: that of the payment, or one beside the accounts of a stake. -/
def Payment.wallet (p : Payment) (buyerTokenAccount : Pubkey) : Pubkey :=
  match p.funding with
  | .balance tokenAccount => tokenAccount
  | _ => buyerTokenAccount

/-- Pay the share of who gave the name back. The protocol has its share already. -/
def Payment.payInitiator (p : Payment) (isProtocolInitiator : Prop) [Decidable isProtocolInitiator]
    (buyerTokenAccount initiatorTokenAccount : Pubkey) (amount : ℕ) (gar : Gar.State) :
    Except NameError Gar.State :=
  if 0 < amount ∧ ¬ isProtocolInitiator then do
    let tokens ← within .spl
      (gar.tokens.transfer (p.wallet buyerTokenAccount) initiatorTokenAccount p.payer amount)
    return { gar with tokens }
  else return gar

/-- Buy a name at its auction. Who gave the name back gets half of the price, from the buyer's
wallet. -/
def buyReturnedName (env : NameEnv) (clock : ℤ) (p : Payment) (buyerTokenAccount
    initiatorTokenAccount : Pubkey) (params : BuyNameParams) (s : NameState) :
    Except NameError NameState := do
  let hash := hashName env params.name
  let returned ← loadReturned env s hash
  require ((s.records hash).isNone) .accountAlreadyInUse
  p.checkAccounts s
  checkTokenAccount s (p.wallet buyerTokenAccount) p.payer
  checkTokenAccount s initiatorTokenAccount returned.initiator
  require (isValidArnsName params.name) .invalidNameFormat
  p.checkDiscountCount
  checkLeaseYears params.purchaseType params.years
  let s ← rollDemand clock s
  let baseFee ← within .ofPricing (getBaseFeeForNameLength s.demand.fees params.name.length)
  let registrationFee ← within .ofPricing
    (calculateRegistrationFee baseFee params.purchaseType params.years s.demand.currentDemandFactor)
  let tokenCost ← within .ofPricing
    (calculateReturnedNamePremium registrationFee returned.returnedAt clock)
  require (0 < tokenCost) .invalidParameter
  let (tokenCost, fundingAccounts) ← p.discount clock s.gar tokenCost
  let isProtocolInitiator := returned.initiator = env.configKey
  let rewardForProtocol := if isProtocolInitiator then tokenCost else tokenCost / 2
  let rewardForInitiator ← okOr (checkedSub tokenCost rewardForProtocol) .arithmeticUnderflow
  let gar ← p.pay env clock fundingAccounts rewardForProtocol s.gar
  let gar ← p.payInitiator isProtocolInitiator buyerTokenAccount initiatorTokenAccount
    rewardForInitiator gar
  let s ← register env clock hash params p.payer tokenCost { s with gar }
  return s.setReturned hash none

/-! ### More for a name -/

/-- The checks of a lease that is to be upgraded or extended. -/
def checkLease (clock : ℤ) (config : ArnsConfig) (record : ArnsRecord) (e : NameError) :
    Except NameError Unit := do
  require (record.purchaseType = .lease) e
  require (record.isActive clock ∨ record.isInGracePeriod clock config.gracePeriodSeconds)
    .recordExpired

/-- Turn a lease into a permabuy. -/
def upgradeName (env : NameEnv) (clock : ℤ) (p : Payment) (hash : Bytes32) (s : NameState) :
    Except NameError NameState := do
  let record ← loadRecord env s hash
  p.checkManageAccounts s
  p.checkDiscountCount
  checkLease clock s.config record .alreadyPermanent
  let s ← rollDemand clock s
  let baseFee ← within .ofPricing (getBaseFeeForNameLength s.demand.fees record.name.length)
  let tokenCost ← within .ofPricing (calculatePermabuyFee baseFee s.demand.currentDemandFactor)
  let (tokenCost, fundingAccounts) ← p.discount clock s.gar tokenCost
  let gar ← p.pay env clock fundingAccounts tokenCost s.gar
  let s := { s with gar }.setRecord hash (some { record with
    purchaseType := .permabuy
    endTimestamp := none
    purchasePrice := tokenCost })
  tallyDemand tokenCost s

/-- The years that a lease can still be extended by. -/
def maxExtension (endTs clock : ℤ) : ℕ :=
  let remainingSeconds := max (saturatingSubSigned 64 endTs clock) 0
  let remainingYears := (remainingSeconds.toNat + oneYearSeconds.toNat - 1) / oneYearSeconds.toNat
  saturatingSub maxLeaseLengthYears remainingYears

/-- A payment from a withdrawal or by a plan computes the new end before the price. -/
def Funding.extendFirst (newEnd : Except NameError ℤ) : Funding → Except NameError Unit
  | .withdrawal .. | .fundingPlan .. => do
    let _ ← newEnd
    return ()
  | _ => return ()

/-- Extend a lease by some years, up to the longest lease from now on. -/
def extendLease (env : NameEnv) (clock : ℤ) (p : Payment) (hash : Bytes32) (years : ℕ)
    (s : NameState) : Except NameError NameState := do
  let record ← loadRecord env s hash
  p.checkManageAccounts s
  p.checkDiscountCount
  checkLease clock s.config record .cannotExtendPermanent
  require (1 ≤ years) .invalidLeaseDuration
  let endTs ← okOr record.endTimestamp .invalidParameter
  require (years ≤ maxExtension endTs clock) .extensionExceedsMax
  p.funding.extendFirst (addYears endTs years)
  let s ← rollDemand clock s
  let baseFee ← within .ofPricing (getBaseFeeForNameLength s.demand.fees record.name.length)
  let tokenCost ← within .ofPricing
    (calculateExtensionFee baseFee years s.demand.currentDemandFactor)
  let (tokenCost, fundingAccounts) ← p.discount clock s.gar tokenCost
  let gar ← p.pay env clock fundingAccounts tokenCost s.gar
  let newEnd ← addYears endTs years
  let s := { s with gar }.setRecord hash (some { record with endTimestamp := some newEnd })
  let config ← s.config.scheduleRecordsPrune newEnd
  tallyDemand tokenCost { s with config }

/-- The undername limit after adding `quantity`, or an error. -/
def checkedUndernameLimit (current quantity : ℕ) : Except NameError ℕ := do
  require (0 < quantity) .invalidUndernameQuantity
  let newLimit ← okOr (checkedAdd 16 current quantity) .undernameLimitExceeded
  require (newLimit ≤ maxUndernameLimit) .undernameLimitExceeded
  return newLimit

/-- Raise the limit of undernames. -/
def increaseUndernameLimit (env : NameEnv) (clock : ℤ) (p : Payment) (hash : Bytes32)
    (quantity : ℕ) (s : NameState) : Except NameError NameState := do
  let record ← loadRecord env s hash
  p.checkManageAccounts s
  p.checkDiscountCount
  require (record.isActive clock) .recordExpired
  let newLimit ← checkedUndernameLimit record.undernameLimit quantity
  let s ← rollDemand clock s
  let baseFee ← within .ofPricing (getBaseFeeForNameLength s.demand.fees record.name.length)
  let tokenCost ← within .ofPricing
    (calculateUndernameCost baseFee quantity record.purchaseType s.demand.currentDemandFactor)
  let (tokenCost, fundingAccounts) ← p.discount clock s.gar tokenCost
  let gar ← p.pay env clock fundingAccounts tokenCost s.gar
  let s := { s with gar }.setRecord hash (some { record with undernameLimit := newLimit })
  tallyDemand tokenCost s

/-! ### What the shared steps do -/

section

variable {env : NameEnv} {clock start endTs : ℤ} {s s' : NameState} {config config' : ArnsConfig}
  {tokenCost years current quantity limit : ℕ} {purchaseType : PurchaseType} {o : Option ℤ}
  {record : ArnsRecord} {e : NameError} {buyer : Pubkey} {reserved : ReservedName}

lemma rollDemand_ok (h : rollDemand clock s = .ok s') : ∃ demand, s' = { s with demand } ∧
    maybeRollDemandPeriod s.demand clock = .ok demand := by
  simp only [rollDemand, bind_eq_ok, within_eq_ok, pure_eq_ok] at h
  obtain ⟨demand, hroll, rfl⟩ := h
  exact ⟨demand, rfl, hroll⟩

lemma tallyDemand_ok (h : tallyDemand tokenCost s = .ok s') : ∃ demand, s' = { s with demand } ∧
    s.demand.tally tokenCost = .ok demand := by
  simp only [tallyDemand, bind_eq_ok, within_eq_ok, pure_eq_ok] at h
  obtain ⟨demand, htally, rfl⟩ := h
  exact ⟨demand, rfl, htally⟩

lemma addYears_eq_ok : addYears start years = .ok endTs ↔
    fitsSigned 64 ((years : ℤ) * oneYearSeconds) ∧
      fitsSigned 64 (start + years * oneYearSeconds) ∧ endTs = start + years * oneYearSeconds := by
  simp only [addYears, bind_eq_ok, okOr_eq_ok, checkedMulSigned_eq_some, checkedAddSigned_eq_some]
  constructor
  · rintro ⟨_, ⟨hmul, rfl⟩, hadd⟩
    exact ⟨hmul, hadd⟩
  · rintro ⟨hmul, hadd⟩
    exact ⟨_, ⟨hmul, rfl⟩, hadd⟩

/-- The terms of a record: a permabuy has no end, and a lease has one. -/
def Terms : PurchaseType → Option ℤ → Prop
  | .lease, o => ∃ endTs, o = some endTs ∧ fitsSigned 64 endTs
  | .permabuy, o => o = none

lemma endOf_ok (hyears : checkLeaseYears purchaseType years = .ok ())
    (h : endOf clock purchaseType years = .ok o) : Terms purchaseType o ∧
      ∀ endTs ∈ o, clock < endTs ∧ endTs ≤ clock + 5 * oneYearSeconds := by
  cases purchaseType with
  | permabuy =>
    obtain rfl := pure_eq_ok.mp h
    exact ⟨rfl, by simp⟩
  | lease =>
    simp only [checkLeaseYears, require_eq_ok] at hyears
    simp only [endOf, bind_eq_ok, addYears_eq_ok, pure_eq_ok] at h
    obtain ⟨endTs, ⟨-, hfits, hend⟩, rfl⟩ := h
    unfold maxLeaseLengthYears at hyears
    refine ⟨⟨endTs, rfl, hend ▸ hfits⟩, fun e he => ?_⟩
    obtain rfl := Option.some.inj (Option.mem_def.mp he)
    unfold oneYearSeconds at hend ⊢
    omega

/-- What scheduling leaves of the config: all but the time of the next pruning. -/
def SameButPrune (config config' : ArnsConfig) : Prop :=
  ∃ t t', config' = { config with
    nextRecordsPruneTimestamp := t
    nextReturnedNamesPruneTimestamp := t' }

lemma SameButPrune.refl (config : ArnsConfig) : SameButPrune config config := ⟨_, _, rfl⟩

lemma scheduleRecordsPrune_ok (h : config.scheduleRecordsPrune endTs = .ok config') :
    SameButPrune config config' := by
  simp only [ArnsConfig.scheduleRecordsPrune, bind_eq_ok, pure_eq_ok] at h
  obtain ⟨_, -, rfl⟩ := h
  split
  · exact ⟨_, _, rfl⟩
  · exact .refl _

lemma scheduleReturnedPrune_ok (h : config.scheduleReturnedPrune clock = .ok config') :
    SameButPrune config config' := by
  simp only [ArnsConfig.scheduleReturnedPrune, bind_eq_ok, pure_eq_ok] at h
  obtain ⟨_, -, rfl⟩ := h
  split
  · exact ⟨_, _, rfl⟩
  · exact .refl _

lemma checkReservation_some (h : checkReservation clock buyer (some reserved) = .ok ()) :
    (∃ expiry, reserved.expiresAt = some expiry ∧ expiry ≤ clock) ∨
      reserved.reservedFor = some buyer := by
  unfold checkReservation at h
  dsimp only at h
  split at h
  · rename_i hexpired
    cases hexpiry : reserved.expiresAt with
    | none => simp [hexpiry] at hexpired
    | some expiry => exact .inl ⟨expiry, rfl, by simpa [hexpiry] using hexpired⟩
  · split at h
    · rename_i target htarget
      rw [require_eq_ok] at h
      exact .inr (h ▸ htarget)
    · cases h

lemma checkLease_ok (h : checkLease clock config record e = .ok ()) : record.purchaseType = .lease ∧
    (record.isActive clock ∨ record.isInGracePeriod clock config.gracePeriodSeconds) := by
  simpa only [checkLease, bind_eq_ok, require_eq_ok, exists_const] using h

lemma checkedUndernameLimit_ok (h : checkedUndernameLimit current quantity = .ok limit) :
    limit = current + quantity ∧ current < limit ∧ limit ≤ maxUndernameLimit := by
  simp only [checkedUndernameLimit, bind_eq_ok, require_eq_ok, exists_const, okOr_eq_ok,
    checkedAdd_eq_some, pure_eq_ok] at h
  obtain ⟨hpos, _, ⟨-, rfl⟩, hle, rfl⟩ := h
  exact ⟨rfl, by omega, hle⟩

/-- An extension that is allowed does not reach beyond the longest lease from now on. -/
lemma le_of_maxExtension (hyears : 1 ≤ years) (hmax : years ≤ maxExtension endTs clock) :
    endTs + years * oneYearSeconds ≤ clock + 5 * oneYearSeconds := by
  have hyear : oneYearSeconds.toNat = 31536000 := by decide
  simp only [maxExtension, hyear, saturatingSubSigned, saturatingSub, maxLeaseLengthYears] at hmax
  unfold oneYearSeconds
  omega

end

end Arns
end ArioSolana
