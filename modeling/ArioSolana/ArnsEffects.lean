import ArioSolana.ArnsProgram

/-!
# What each instruction does to the names

For each instruction what it leaves of the records, the auctions, the reservations and the registry.
A sale for a name rewrites its record, a purchase writes a new one, and a name that is returned or
pruned loses its record. The payment changes none of them, whichever way it is made. -/

namespace ArioSolana
namespace Arns

open Checked Solana

/-- The times that the program counts with stay. -/
structure SameRules (config config' : ArnsConfig) : Prop where
  grace : config'.gracePeriodSeconds = config.gracePeriodSeconds
  auction : config'.returnAuctionDurationSeconds = config.returnAuctionDurationSeconds

/-- One record is rewritten, and nothing else of the names changes. -/
structure Rewritten (s s' : NameState) (hash : Bytes32) (r r' : ArnsRecord) : Prop where
  was : s.records hash = some r
  records : s'.records = Function.update s.records hash (some r')
  returnedNames : s'.returnedNames = s.returnedNames
  reservedNames : s'.reservedNames = s.reservedNames
  registry : s'.registry = s.registry
  total : s'.config.totalNamesRegistered = s.config.totalNamesRegistered
  rules : SameRules s.config s'.config

/-- The record of a name that somebody bought now. -/
structure NewRecord (env : NameEnv) (clock grace : ℤ) (hash : Bytes32) (buyer : Pubkey)
    (params : BuyNameParams) (r : ArnsRecord) : Prop where
  nameHash : r.nameHash = hash
  bump : r.bump = env.bump .record hash
  name : r.name = env.toLowercase params.name
  owner : r.owner = buyer
  ant : r.ant = params.ant
  purchaseType : r.purchaseType = params.purchaseType
  startTimestamp : r.startTimestamp = clock
  undernameLimit : r.undernameLimit = defaultUndernameCount
  terms : Terms r.purchaseType r.endTimestamp
  ahead : ∀ endTs ∈ r.endTimestamp, clock < endTs ∧ endTs ≤ clock + 5 * oneYearSeconds
  fits : ∀ endTs ∈ r.endTimestamp, fitsSigned 64 (endTs + grace)

/-- A record is written for a name that had none. -/
structure Registered (env : NameEnv) (clock : ℤ) (hash : Bytes32) (buyer : Pubkey)
    (params : BuyNameParams) (s s' : NameState) (r : ArnsRecord) : Prop where
  new : NewRecord env clock s.config.gracePeriodSeconds hash buyer params r
  records : s'.records = Function.update s.records hash (some r)
  appended : s.registry.appendNameEntry ⟨hash, s.registry.count⟩ = .ok s'.registry
  total : s'.config.totalNamesRegistered = s.config.totalNamesRegistered + 1
  rules : SameRules s.config s'.config

/-- A name loses its record. -/
structure Removed (s s' : NameState) (hash : Bytes32) : Prop where
  records : s'.records = Function.update s.records hash none
  registry : s.registry.removeNameEntryByHash hash = .ok s'.registry

/-- A name goes from its record to an auction. -/
structure Auctioned (env : NameEnv) (clock : ℤ) (hash : Bytes32) (initiator : Pubkey)
    (s s' : NameState) (r : ArnsRecord) (x : ReturnedName) : Prop where
  was : s.records hash = some r
  free : s.returnedNames hash = none
  removed : Removed s s' hash
  returnedNames : s'.returnedNames = Function.update s.returnedNames hash (some x)
  returned : x = ⟨r.name, hash, initiator, clock, env.bump .returned hash, accountVersion⟩
  reservedNames : s'.reservedNames = s.reservedNames
  total : s'.config.totalNamesRegistered = s.config.totalNamesRegistered - 1
  rules : SameRules s.config s'.config
  fits : fitsSigned 64 (clock + s.config.returnAuctionDurationSeconds)

section

variable {env : NameEnv} {clock : ℤ} {s s' : NameState} {hash : Bytes32} {params : BuyNameParams}
  {p : Payment} {buyer caller newAnt initiator wallet share authority : Pubkey} {tokenCost : ℕ}
  {record r : ArnsRecord} {years quantity : ℕ} {config config' : ArnsConfig} {endTs : ℤ}

lemma SameRules.refl (config : ArnsConfig) : SameRules config config := ⟨rfl, rfl⟩

lemma SameButPrune.rules (h : SameButPrune config config') : SameRules config config' := by
  obtain ⟨_, _, rfl⟩ := h
  exact ⟨rfl, rfl⟩

lemma SameButPrune.total (h : SameButPrune config config') :
    config'.totalNamesRegistered = config.totalNamesRegistered := by
  obtain ⟨_, _, rfl⟩ := h
  rfl

lemma scheduleRecordsPrune_fits (h : config.scheduleRecordsPrune endTs = .ok config') :
    fitsSigned 64 (endTs + config.gracePeriodSeconds) := by
  simp only [ArnsConfig.scheduleRecordsPrune, bind_eq_ok, okOr_eq_ok, checkedAddSigned_eq_some] at h
  obtain ⟨_, ⟨hfits, -⟩, -⟩ := h
  exact hfits

lemma scheduleReturnedPrune_fits (h : config.scheduleReturnedPrune clock = .ok config') :
    fitsSigned 64 (clock + config.returnAuctionDurationSeconds) := by
  simp only [ArnsConfig.scheduleReturnedPrune, bind_eq_ok, okOr_eq_ok,
    checkedAddSigned_eq_some] at h
  obtain ⟨_, ⟨hfits, -⟩, -⟩ := h
  exact hfits

/-! ### Purchases -/

lemma register_ok (hyears : checkLeaseYears params.purchaseType params.years = .ok ())
    (h : register env clock hash params buyer tokenCost s = .ok s') :
    (∃ r, Registered env clock hash buyer params s s' r) ∧ s'.returnedNames = s.returnedNames ∧
      s'.reservedNames = s.reservedNames := by
  simp only [register, bind_eq_ok, okOr_eq_ok, checkedAdd_eq_some, pure_eq_ok] at h
  obtain ⟨endTimestamp, hend, _, ⟨-, rfl⟩, config, hconfig, s₁, htally, registry, happend, rfl⟩ := h
  obtain ⟨hterms, hahead⟩ := endOf_ok hyears hend
  obtain ⟨demand, rfl, -⟩ := tallyDemand_ok htally
  obtain ⟨hrules, htotal, hfits⟩ : SameRules s.config config ∧
      config.totalNamesRegistered = s.config.totalNamesRegistered + 1 ∧
      ∀ endTs ∈ endTimestamp, fitsSigned 64 (endTs + s.config.gracePeriodSeconds) := by
    cases endTimestamp with
    | none =>
      obtain rfl := pure_eq_ok.mp hconfig
      exact ⟨⟨rfl, rfl⟩, rfl, by simp⟩
    | some endTs =>
      change ArnsConfig.scheduleRecordsPrune _ endTs = .ok config at hconfig
      have hsame := scheduleRecordsPrune_ok hconfig
      have hfits := scheduleRecordsPrune_fits hconfig
      refine ⟨⟨hsame.rules.grace, hsame.rules.auction⟩, hsame.total, fun e he => ?_⟩
      obtain rfl := Option.some.inj (Option.mem_def.mp he)
      exact hfits
  exact ⟨⟨_, ⟨rfl, rfl, rfl, rfl, rfl, rfl, rfl, rfl, hterms, hahead, hfits⟩, rfl, happend, htotal,
    hrules⟩, rfl, rfl⟩

lemma buyName_ok (h : buyName env clock p params s = .ok s') :
    s.records (hashName env params.name) = none ∧ s.returnedNames (hashName env params.name) =
      none ∧
      isValidArnsName params.name = true ∧
      checkReservation clock p.payer (s.reservedNames (hashName env params.name)) = .ok () ∧
      (∃ r, Registered env clock (hashName env params.name) p.payer params s s' r) ∧
      s'.returnedNames = s.returnedNames ∧
      s'.reservedNames = Function.update s.reservedNames (hashName env params.name) none := by
  simp only [buyName, bind_eq_ok, require_eq_ok, exists_const, Option.isNone_iff_eq_none] at h
  obtain ⟨hfree, _, -, hvalid, _, -, _, hreserved, hauction, _, hyears, s₁, hroll, _, -, _, -, -,
    ⟨_, _⟩, -,
    gar, -, s₂, hregister, h⟩ := h
  obtain rfl := pure_eq_ok.mp h
  obtain ⟨demand, rfl, -⟩ := rollDemand_ok hroll
  obtain ⟨⟨r, hr⟩, hret, hres⟩ := register_ok hyears hregister
  exact ⟨hfree, hauction, hvalid, hreserved, ⟨r, hr.new, hr.records, hr.appended, hr.total,
    hr.rules⟩,
    hret, by rw [← hres]; rfl⟩

lemma buyReturnedName_ok (h : buyReturnedName env clock p wallet share params s = .ok s') :
    s.records (hashName env params.name) = none ∧
      (∃ x, s.returnedNames (hashName env params.name) = some x) ∧
      isValidArnsName params.name = true ∧
      (∃ r, Registered env clock (hashName env params.name) p.payer params s s' r) ∧
      s'.returnedNames = Function.update s.returnedNames (hashName env params.name) none ∧
      s'.reservedNames = s.reservedNames := by
  simp only [buyReturnedName, bind_eq_ok, require_eq_ok, exists_const,
    Option.isNone_iff_eq_none] at h
  obtain ⟨x, hload, hfree, _, -, _, -, _, -, hvalid, _, -, _, hyears, s₁, hroll, _, -, _, -, _,
    -, -,
    ⟨_, _⟩, -, _, -, _, -, gar, -, s₂, hregister, h⟩ := h
  obtain rfl := pure_eq_ok.mp h
  obtain ⟨demand, rfl, -⟩ := rollDemand_ok hroll
  obtain ⟨⟨r, hr⟩, hret, hres⟩ := register_ok hyears hregister
  exact ⟨hfree, ⟨x, loadReturned_ok hload⟩, hvalid,
    ⟨r, hr.new, hr.records, hr.appended, hr.total, hr.rules⟩,
    by rw [← hret]; rfl, hres⟩

/-! ### Records rewritten -/

lemma upgradeName_ok (h : upgradeName env clock p hash s = .ok s') :
    ∃ r price, r.purchaseType = .lease ∧
      (r.isActive clock ∨ r.isInGracePeriod clock s.config.gracePeriodSeconds) ∧
      Rewritten s s' hash r
        { r with purchaseType := .permabuy, endTimestamp := none, purchasePrice := price } := by
  simp only [upgradeName, bind_eq_ok] at h
  obtain ⟨r, hload, _, -, _, -, _, hlease, s₁, hroll, _, -, _, -, ⟨price, _⟩, -, gar, -,
    htally⟩ := h
  obtain ⟨hget, -, -⟩ := loadRecord_eq_ok.mp hload
  obtain ⟨hkind, hin⟩ := checkLease_ok hlease
  obtain ⟨_, rfl, -⟩ := rollDemand_ok hroll
  obtain ⟨_, rfl, -⟩ := tallyDemand_ok htally
  exact ⟨r, price, hkind, hin, hget, rfl, rfl, rfl, rfl, rfl, .refl _⟩

lemma extendLease_ok (h : extendLease env clock p hash years s = .ok s') :
    ∃ r endTs, r.purchaseType = .lease ∧ r.endTimestamp = some endTs ∧ 1 ≤ years ∧
      (r.isActive clock ∨ r.isInGracePeriod clock s.config.gracePeriodSeconds) ∧
      endTs + years * oneYearSeconds ≤ clock + 5 * oneYearSeconds ∧
      fitsSigned 64 (endTs + years * oneYearSeconds) ∧
      fitsSigned 64 (endTs + years * oneYearSeconds + s.config.gracePeriodSeconds) ∧
      Rewritten s s' hash r { r with endTimestamp := some (endTs + years * oneYearSeconds) } := by
  simp only [extendLease, bind_eq_ok, require_eq_ok, exists_const, okOr_eq_ok] at h
  obtain ⟨r, hload, _, -, _, -, _, hlease, hpos, endTs, hend, hmax, _, -, s₁, hroll, _, -, _, -,
    ⟨_, _⟩, -, gar, -, newEnd, hnew, config, hconfig, htally⟩ := h
  obtain ⟨hget, -, -⟩ := loadRecord_eq_ok.mp hload
  obtain ⟨hkind, hin⟩ := checkLease_ok hlease
  obtain ⟨-, hfits, rfl⟩ := addYears_eq_ok.mp hnew
  obtain ⟨_, rfl, -⟩ := rollDemand_ok hroll
  obtain ⟨_, rfl, -⟩ := tallyDemand_ok htally
  have hsame := scheduleRecordsPrune_ok hconfig
  exact ⟨r, endTs, hkind, hend, hpos, hin, le_of_maxExtension hpos hmax, hfits,
    scheduleRecordsPrune_fits hconfig, hget, rfl, rfl, rfl, rfl, hsame.total, hsame.rules⟩

lemma increaseUndernameLimit_ok
    (h : increaseUndernameLimit env clock p hash quantity s = .ok s') :
    ∃ r limit, r.isActive clock ∧ r.undernameLimit < limit ∧ limit ≤ maxUndernameLimit ∧
      limit = r.undernameLimit + quantity ∧
      Rewritten s s' hash r { r with undernameLimit := limit } := by
  simp only [increaseUndernameLimit, bind_eq_ok, require_eq_ok, exists_const] at h
  obtain ⟨r, hload, _, -, _, -, hactive, limit, hlimit, s₁, hroll, _, -, _, -, ⟨_, _⟩, -, gar, -,
    htally⟩ := h
  obtain ⟨hget, -, -⟩ := loadRecord_eq_ok.mp hload
  obtain ⟨hsum, hlt, hle⟩ := checkedUndernameLimit_ok hlimit
  obtain ⟨_, rfl, -⟩ := rollDemand_ok hroll
  obtain ⟨_, rfl, -⟩ := tallyDemand_ok htally
  exact ⟨r, limit, hactive, hlt, hle, hsum, hget, rfl, rfl, rfl, rfl, rfl, .refl _⟩

lemma reassignName_ok (h : reassignName env clock caller hash newAnt s = .ok s') :
    ∃ r, antHolder s r = .ok caller ∧ r.isActive clock ∧ newAnt ≠ r.ant ∧
      Rewritten s s' hash r { r with ant := newAnt } := by
  simp only [reassignName, bind_eq_ok, require_eq_ok, exists_const, pure_eq_ok] at h
  obtain ⟨r, hload, holder, hholder, rfl, hactive, -, hne, rfl⟩ := h
  obtain ⟨hget, -, -⟩ := loadRecord_eq_ok.mp hload
  exact ⟨r, hholder, hactive, hne, hget, rfl, rfl, rfl, rfl, rfl, .refl _⟩

/-! ### Records removed -/

lemma removeRecord_ok (h : removeRecord hash s = .ok s') : Removed s s' hash ∧
    s'.returnedNames = s.returnedNames ∧ s'.reservedNames = s.reservedNames ∧
      s'.config = s.config := by
  simp only [removeRecord, bind_eq_ok, pure_eq_ok] at h
  obtain ⟨registry, hremove, rfl⟩ := h
  exact ⟨⟨rfl, hremove⟩, rfl, rfl, rfl⟩

lemma returnName_ok (hget : s.records hash = some record)
    (h : returnName env clock hash record initiator s = .ok s') :
    ∃ x, Auctioned env clock hash initiator s s' record x := by
  simp only [returnName, bind_eq_ok, require_eq_ok, exists_const, Option.isNone_iff_eq_none] at h
  obtain ⟨hfree, config, hconfig, h⟩ := h
  obtain ⟨hremoved, hret, hres, hcfg⟩ := removeRecord_ok h
  have hsame := scheduleReturnedPrune_ok hconfig
  refine ⟨_, hget, hfree, ⟨hremoved.records, hremoved.registry⟩, hret, rfl, hres, ?_, ?_,
    scheduleReturnedPrune_fits hconfig⟩
  · rw [hcfg]
    exact congrArg (· - 1) hsame.total
  · rw [hcfg]
    exact ⟨hsame.rules.grace, hsame.rules.auction⟩

lemma releaseName_ok (h : releaseName env clock caller hash s = .ok s') :
    ∃ r x, antHolder s r = .ok caller ∧ r.purchaseType = .permabuy ∧
      Auctioned env clock hash caller s s' r x := by
  simp only [releaseName, bind_eq_ok, require_eq_ok, exists_const] at h
  obtain ⟨r, hload, holder, hholder, rfl, hkind, -, h⟩ := h
  obtain ⟨hget, -, -⟩ := loadRecord_eq_ok.mp hload
  obtain ⟨x, hx⟩ := returnName_ok hget h
  exact ⟨r, x, hholder, hkind, hx⟩

lemma pruneToReturned_ok (h : pruneToReturned env clock hash s = .ok s') :
    ∃ r x, r.endedBefore clock (saturatingAddSigned 64 · s.config.gracePeriodSeconds) ∧
      Auctioned env clock hash env.configKey s s' r x := by
  simp only [pruneToReturned, bind_eq_ok, require_eq_ok, exists_const] at h
  obtain ⟨r, hload, hended, h⟩ := h
  obtain ⟨hget, -, -⟩ := loadRecord_eq_ok.mp hload
  obtain ⟨x, hx⟩ := returnName_ok hget h
  exact ⟨r, x, hended, hx⟩

lemma endedBefore_iff {wait : ℤ → ℤ} : r.endedBefore clock wait ↔
    r.purchaseType = .lease ∧ ∃ endTs, r.endTimestamp = some endTs ∧ wait endTs < clock := by
  unfold ArnsRecord.endedBefore
  cases hkind : r.purchaseType with
  | permabuy => simp
  | lease => cases hend : r.endTimestamp with
    | none => simp
    | some endTs => simp

/-- When a record can be pruned for good. -/
def PastAuction (config : ArnsConfig) (clock : ℤ) (r : ArnsRecord) : Prop :=
  r.endedBefore clock fun endTs => saturatingAddSigned 64
    (saturatingAddSigned 64 endTs gracePeriodSeconds) config.returnAuctionDurationSeconds

/-- What pruning leaves as it is. -/
structure PruneFrame (s s' : NameState) : Prop where
  returnedNames : s'.returnedNames = s.returnedNames
  reservedNames : s'.reservedNames = s.reservedNames
  config : s'.config = s.config

/-- Pruning at one address does nothing, or removes one record that is past its auction. -/
lemma pruneExpiredAt_ok {n n' : ℕ} {address : NameAddress}
    (h : pruneExpiredAt clock (s, n) address = .ok (s', n')) : (s' = s ∧ n' = n) ∨
      ∃ hash r, s.records hash = some r ∧ PastAuction s.config clock r ∧ Removed s s' hash ∧
        PruneFrame s s' ∧ n' = n + 1 := by
  have same : (pure (s, n) : Except NameError (NameState × ℕ)) = .ok (s', n') → s' = s ∧
      n' = n := by
    intro h
    obtain ⟨rfl, rfl⟩ := Prod.mk.inj (pure_eq_ok.mp h)
    exact ⟨rfl, rfl⟩
  unfold pruneExpiredAt at h
  split at h
  · rename_i hash
    dsimp only at h
    split at h
    · exact .inl (same h)
    · rename_i record hget
      split at h
      · rename_i hended
        simp only [bind_eq_ok, pure_eq_ok, Prod.mk.injEq] at h
        obtain ⟨_, hremove, rfl, rfl⟩ := h
        obtain ⟨hremoved, hret, hres, hcfg⟩ := removeRecord_ok hremove
        exact .inr ⟨hash, record, hget, hended.1, hremoved, ⟨hret, hres, hcfg⟩, rfl⟩
      · exact .inl (same h)
  · exact .inl (same h)

lemma pruneReturnedAt_cases (clock : ℤ) (s : NameState) (address : NameAddress) :
    pruneReturnedAt clock s address = s ∨ ∃ hash x, s.returnedNames hash = some x ∧
      saturatingAddSigned 64 x.returnedAt returnedNameDurationSeconds ≤ clock ∧
      pruneReturnedAt clock s address = s.setReturned hash none := by
  unfold pruneReturnedAt
  split
  · rename_i hash
    split
    · exact .inl rfl
    · rename_i x hget
      split
      · rename_i hover
        exact .inr ⟨hash, x, hget, hover.1, rfl⟩
      · exact .inl rfl
  · exact .inl rfl

/-! ### Reservations and administration -/

/-- Only reservations change. -/
structure ReservationsOnly (s s' : NameState) : Prop where
  records : s'.records = s.records
  returnedNames : s'.returnedNames = s.returnedNames
  registry : s'.registry = s.registry
  config : s'.config = s.config

lemma reserve_ok {params : ReserveNameParams} (h : reserve env clock authority params s = .ok s') :
    s.config.authority = authority ∧ ReservationsOnly s s' := by
  simp only [reserve, bind_eq_ok, require_eq_ok, exists_const, pure_eq_ok] at h
  obtain ⟨hauth, -, -, rfl⟩ := h
  exact ⟨hauth, rfl, rfl, rfl, rfl⟩

lemma unreserve_ok (h : unreserve env authority hash s = .ok s') :
    s.config.authority = authority ∧ s' = s.setReserved hash none := by
  simp only [unreserve, bind_eq_ok, require_eq_ok, exists_const, pure_eq_ok] at h
  obtain ⟨hauth, _, -, rfl⟩ := h
  exact ⟨hauth, rfl⟩

lemma pruneExpiredReservation_ok (h : pruneExpiredReservation env clock hash s = .ok s') :
    ∃ x expiry, s.reservedNames hash = some x ∧ x.expiresAt = some expiry ∧ expiry ≤ clock ∧
      s' = s.setReserved hash none := by
  simp only [pruneExpiredReservation, bind_eq_ok, okOr_eq_ok, require_eq_ok, exists_const,
    pure_eq_ok] at h
  obtain ⟨x, hload, expiry, hexpiry, hle, rfl⟩ := h
  exact ⟨x, expiry, loadReserved_ok hload, hexpiry, hle, rfl⟩

/-- The registry may be made longer, and the administration of the config may change. -/
structure NamesKept (s s' : NameState) : Prop where
  records : s'.records = s.records
  returnedNames : s'.returnedNames = s.returnedNames
  reservedNames : s'.reservedNames = s.reservedNames
  registry : NameRegistry.Grown s.registry s'.registry
  total : s'.config.totalNamesRegistered = s.config.totalNamesRegistered
  rules : SameRules s.config s'.config

lemma createNameRegistry_ok (h : createNameRegistry authority s = .ok s') : NamesKept s s' := by
  simp only [createNameRegistry, bind_eq_ok, require_eq_ok, exists_const, pure_eq_ok] at h
  obtain ⟨-, registry, hcreate, rfl⟩ := h
  exact ⟨rfl, rfl, rfl, NameRegistry.create_grown hcreate, rfl, .refl _⟩

lemma adminExpandNameRegistry_ok {capacity : ℕ}
    (h : adminExpandNameRegistry authority capacity s = .ok s') : NamesKept s s' := by
  simp only [adminExpandNameRegistry, bind_eq_ok, require_eq_ok, exists_const, pure_eq_ok] at h
  obtain ⟨-, registry, hexpand, rfl⟩ := h
  exact ⟨rfl, rfl, rfl, NameRegistry.expand_grown hexpand, rfl, .refl _⟩

lemma transferAuthority_ok {newAuthority : Pubkey}
    (h : transferAuthority authority newAuthority s = .ok s') : NamesKept s s' := by
  simp only [transferAuthority, bind_eq_ok, require_eq_ok, exists_const, pure_eq_ok] at h
  obtain ⟨-, -, rfl⟩ := h
  exact ⟨rfl, rfl, rfl, ⟨rfl, rfl, le_rfl⟩, rfl, ⟨rfl, rfl⟩⟩

lemma finalizeMigration_ok (h : finalizeMigration authority s = .ok s') : NamesKept s s' := by
  simp only [finalizeMigration, bind_eq_ok, require_eq_ok, exists_const, pure_eq_ok] at h
  obtain ⟨-, -, rfl⟩ := h
  exact ⟨rfl, rfl, rfl, ⟨rfl, rfl, le_rfl⟩, rfl, ⟨rfl, rfl⟩⟩

lemma rollDemand_kept (h : rollDemand clock s = .ok s') : NamesKept s s' := by
  obtain ⟨_, rfl, -⟩ := rollDemand_ok h
  exact ⟨rfl, rfl, rfl, ⟨rfl, rfl, le_rfl⟩, rfl, .refl _⟩

end

end Arns
end ArioSolana
