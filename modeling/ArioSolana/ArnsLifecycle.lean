import ArioSolana.ArnsEffects

/-!
# The life of a name

A name is free, or somebody owns it, or it is at an auction. `Transition` says which instructions
move it from one to another, and what they need for it; this is what the program is for. Every step
of every run leaves each name where it is or makes one of these transitions, and the registry, the
count in the config and the accounts agree in every state that is reached. -/

namespace ArioSolana
namespace Arns

open Checked Solana

/-! ### Stages -/

inductive Stage where
  | free
  | owned (r : ArnsRecord)
  | auction (x : ReturnedName)

/-- Where a name is. -/
def NameState.stage (s : NameState) (hash : Bytes32) : Stage :=
  match s.records hash with
  | some r => .owned r
  | none => match s.returnedNames hash with
    | some x => .auction x
    | none => .free

/-- The lease may be upgraded or extended. -/
def LeaseOpen (clock : ℤ) (config : ArnsConfig) (r : ArnsRecord) : Prop :=
  r.purchaseType = .lease ∧
    (r.isActive clock ∨ r.isInGracePeriod clock config.gracePeriodSeconds)

/-- **What can happen to a name.** -/
inductive Transition (env : NameEnv) (clock : ℤ) (s : NameState) (hash : Bytes32) :
    NameInstruction → Stage → Stage → Prop
  | bought {p params r} (name : hashName env params.name = hash)
      (valid : isValidArnsName params.name = true)
      (allowed : checkReservation clock p.payer (s.reservedNames hash) = .ok ())
      (new : NewRecord env clock s.config.gracePeriodSeconds hash p.payer params r) :
      Transition env clock s hash (.buyName p params) .free (.owned r)
  | boughtAtAuction {p wallet share params x r} (name : hashName env params.name = hash)
      (valid : isValidArnsName params.name = true)
      (new : NewRecord env clock s.config.gracePeriodSeconds hash p.payer params r) :
      Transition env clock s hash (.buyReturnedName p wallet share params) (.auction x) (.owned r)
  | upgraded {p r price} (leased : LeaseOpen clock s.config r) :
      Transition env clock s hash (.upgradeName p hash) (.owned r)
        (.owned { r with purchaseType := .permabuy, endTimestamp := none, purchasePrice := price })
  | extended {p r endTs} {years : ℕ} (leased : LeaseOpen clock s.config r)
      (ends : r.endTimestamp = some endTs) (positive : 1 ≤ years)
      (ahead : endTs + years * oneYearSeconds ≤ clock + 5 * oneYearSeconds) :
      Transition env clock s hash (.extendLease p hash years) (.owned r)
        (.owned { r with endTimestamp := some (endTs + years * oneYearSeconds) })
  | undernamesAdded {p quantity r} (active : r.isActive clock) (positive : 0 < quantity)
      (capped : r.undernameLimit + quantity ≤ maxUndernameLimit) :
      Transition env clock s hash (.increaseUndernameLimit p hash quantity) (.owned r)
        (.owned { r with undernameLimit := r.undernameLimit + quantity })
  | reassigned {caller newAnt r} (holder : antHolder s r = .ok caller) (active : r.isActive clock)
      (other : newAnt ≠ r.ant) :
      Transition env clock s hash (.reassignName caller hash newAnt) (.owned r)
        (.owned { r with ant := newAnt })
  | released {caller r} (holder : antHolder s r = .ok caller)
      (forGood : r.purchaseType = .permabuy) :
      Transition env clock s hash (.releaseName caller hash) (.owned r)
        (.auction ⟨r.name, hash, caller, clock, env.bump .returned hash, accountVersion⟩)
  | lapsed {r endTs} (leased : r.purchaseType = .lease) (ends : r.endTimestamp = some endTs)
      (late : endTs + gracePeriodSeconds < clock) :
      Transition env clock s hash (.pruneToReturned hash) (.owned r)
        (.auction ⟨r.name, hash, env.configKey, clock, env.bump .returned hash, accountVersion⟩)
  | pruned {remaining maxNames r endTs} (leased : r.purchaseType = .lease)
      (ends : r.endTimestamp = some endTs)
      (late : endTs + gracePeriodSeconds + returnedNameDurationSeconds < clock) :
      Transition env clock s hash (.pruneExpired remaining maxNames) (.owned r) .free
  | auctionOver {remaining maxNames x} (ended : x.returnedAt + returnedNameDurationSeconds ≤
      clock) :
      Transition env clock s hash (.pruneReturned remaining maxNames) (.auction x) .free

/-! ### Agreement -/

/-- A record is at the address that its hash gives, and on the terms of its type. -/
structure RecordOk (env : NameEnv) (hash : Bytes32) (r : ArnsRecord) : Prop where
  nameHash : r.nameHash = hash
  bump : r.bump = env.bump .record hash
  terms : Terms r.purchaseType r.endTimestamp
  fits : ∀ endTs ∈ r.endTimestamp, fitsSigned 64 (endTs + gracePeriodSeconds)

/-- The accounts agree, but for some pruned names that the config still counts. -/
structure AgreesUpTo (env : NameEnv) (pruned : ℕ) (s : NameState) : Prop where
  listed : s.registry.Lists fun hash => (s.records hash).isSome
  total : s.config.totalNamesRegistered = s.registry.count + pruned
  exclusive : ∀ hash, (s.records hash).isSome → s.returnedNames hash = none
  records : ∀ hash r, s.records hash = some r → RecordOk env hash r
  returned : ∀ hash x, s.returnedNames hash = some x →
    x.nameHash = hash ∧ x.bump = env.bump .returned hash ∧
      fitsSigned 64 (x.returnedAt + returnedNameDurationSeconds)
  grace : s.config.gracePeriodSeconds = gracePeriodSeconds
  auction : s.config.returnAuctionDurationSeconds = returnedNameDurationSeconds

/-- **The accounts of the names agree**: no name is owned and at an auction, the registry lists
exactly the names that are owned, each once and under its own position, and the config counts them.
-/
def Agrees (env : NameEnv) (s : NameState) : Prop := AgreesUpTo env 0 s

/-- The runtime's clock is a word. -/
def NameEvent.InWord : NameEvent → Prop
  | .call clock _ => fitsSigned 64 clock
  | .others _ _ => True

instance (e : NameEvent) : Decidable e.InWord :=
  match e with
  | .call clock _ => inferInstanceAs (Decidable (fitsSigned 64 clock))
  | .others _ _ => .isTrue trivial

section

variable {env : NameEnv} {clock : ℤ} {s s' : NameState} {hash k : Bytes32} {params : BuyNameParams}
  {buyer initiator : Pubkey} {r r' : ArnsRecord} {x : ReturnedName} {n n' : ℕ} {i : NameInstruction}
  {e : NameEvent} {live live' : Bytes32 → Prop} {endTs : ℤ} {tr : List (Step NameState NameEvent)}
  {s₀ : NameState}

lemma NameRegistry.Lists.congr {registry : NameRegistry} (h : registry.Lists live)
    (hiff : ∀ hash, live hash ↔ live' hash) : registry.Lists live' :=
  ⟨h.count_le, h.index, h.distinct, fun hash => (hiff hash).symm.trans (h.mem hash), h.unused⟩

/-! ### Stages of the effects -/

lemma stage_eq (hrec : s'.records k = s.records k) (hret : s'.returnedNames k = s.returnedNames k) :
    s'.stage k = s.stage k := by
  unfold NameState.stage
  rw [hrec, hret]

lemma stage_owned (h : s.records k = some r) : s.stage k = .owned r := by
  unfold NameState.stage
  rw [h]

lemma stage_auction (h : s.records k = none) (hx : s.returnedNames k = some x) :
    s.stage k = .auction x := by
  unfold NameState.stage
  rw [h, hx]

lemma stage_free (h : s.records k = none) (hx : s.returnedNames k = none) : s.stage k = .free := by
  unfold NameState.stage
  rw [h, hx]

lemma Rewritten.stages (h : Rewritten s s' hash r r') : s.stage hash = .owned r ∧
    s'.stage hash = .owned r' ∧ ∀ k, k ≠ hash → s'.stage k = s.stage k := by
  refine ⟨stage_owned h.was, stage_owned ?_, fun k hk => stage_eq ?_ ?_⟩
  · rw [h.records, Function.update_self]
  · rw [h.records, Function.update_of_ne hk]
  · rw [h.returnedNames]

lemma Registered.stages (h : Registered env clock hash buyer params s s' r)
    (hret : ∀ k, k ≠ hash → s'.returnedNames k = s.returnedNames k) :
    s'.stage hash = .owned r ∧ ∀ k, k ≠ hash → s'.stage k = s.stage k := by
  refine ⟨stage_owned ?_, fun k hk => stage_eq ?_ (hret k hk)⟩
  · rw [h.records, Function.update_self]
  · rw [h.records, Function.update_of_ne hk]

lemma Auctioned.stages (h : Auctioned env clock hash initiator s s' r x) :
    s.stage hash = .owned r ∧ s'.stage hash = .auction x ∧
      ∀ k, k ≠ hash → s'.stage k = s.stage k := by
  refine ⟨stage_owned h.was, stage_auction ?_ ?_, fun k hk => stage_eq ?_ ?_⟩
  · rw [h.removed.records, Function.update_self]
  · rw [h.returnedNames, Function.update_self]
  · rw [h.removed.records, Function.update_of_ne hk]
  · rw [h.returnedNames, Function.update_of_ne hk]

/-! ### The effects keep the agreement -/

lemma RecordOk.fits_end (h : RecordOk env hash r) (hend : r.endTimestamp = some endTs) :
    saturatingAddSigned 64 endTs gracePeriodSeconds = endTs + gracePeriodSeconds := by
  have hfits := h.fits endTs hend
  unfold fitsSigned at hfits
  unfold saturatingAddSigned
  omega

lemma Rewritten.agrees (hs : AgreesUpTo env n s) (h : Rewritten s s' hash r r')
    (hok : RecordOk env hash r') : AgreesUpTo env n s' where
  listed := by
    rw [h.registry]
    refine hs.listed.congr fun k => ?_
    rw [h.records]
    by_cases hk : k = hash
    · rw [hk, Function.update_self, h.was]
      simp
    · rw [Function.update_of_ne hk]
  total := by rw [h.total, h.registry, hs.total]
  exclusive k hk := by
    rw [h.returnedNames]
    rw [h.records] at hk
    by_cases heq : k = hash
    · rw [heq]
      exact hs.exclusive hash (by rw [h.was]; rfl)
    · rw [Function.update_of_ne heq] at hk
      exact hs.exclusive k hk
  records k y hk := by
    rw [h.records] at hk
    by_cases heq : k = hash
    · rw [heq, Function.update_self] at hk
      obtain rfl := Option.some.inj hk
      rw [heq]
      exact hok
    · rw [Function.update_of_ne heq] at hk
      exact hs.records k y hk
  returned := by
    rw [h.returnedNames]
    exact hs.returned
  grace := h.rules.grace.trans hs.grace
  auction := h.rules.auction.trans hs.auction

lemma NewRecord.ok (h : NewRecord env clock gracePeriodSeconds hash buyer params r) :
    RecordOk env hash r := ⟨h.nameHash, h.bump, h.terms, h.fits⟩

lemma Registered.agrees (hs : Agrees env s) (h : Registered env clock hash buyer params s s' r)
    (hfree : s.records hash = none) (hat : s'.returnedNames hash = none)
    (hret : ∀ k, k ≠ hash → s'.returnedNames k = s.returnedNames k) : Agrees env s' := by
  have hnew : ¬ ((s.records hash).isSome : Prop) := by
    rw [hfree]
    exact Bool.false_ne_true
  obtain ⟨hlists, hcount⟩ := hs.listed.append hnew h.appended
  refine ⟨hlists.congr fun k => ?_, ?_, fun k hk => ?_, fun k y hk => ?_, fun k y hk => ?_,
    h.rules.grace.trans hs.grace, h.rules.auction.trans hs.auction⟩
  · rw [h.records]
    by_cases heq : k = hash
    · rw [heq, Function.update_self]
      simp
    · rw [Function.update_of_ne heq]
      simp [heq]
  · rw [h.total, hcount, hs.total]
  · by_cases heq : k = hash
    · rw [heq, hat]
    · rw [h.records, Function.update_of_ne heq] at hk
      rw [hret k heq]
      exact hs.exclusive k hk
  · rw [h.records] at hk
    by_cases heq : k = hash
    · rw [heq, Function.update_self] at hk
      obtain rfl := Option.some.inj hk
      rw [heq]
      exact (hs.grace ▸ h.new).ok
    · rw [Function.update_of_ne heq] at hk
      exact hs.records k y hk
  · by_cases heq : k = hash
    · rw [heq, hat] at hk
      cases hk
    · rw [hret k heq] at hk
      exact hs.returned k y hk

lemma Removed.listed (hs : AgreesUpTo env n s) (h : Removed s s' hash)
    (hget : s.records hash = some r) :
    (s'.registry.Lists fun k => (s'.records k).isSome) ∧ s'.registry.count + 1 = s.registry.count ∧
      ∀ k y, s'.records k = some y → s.records k = some y := by
  have hlive : ((s.records hash).isSome : Prop) := by
    rw [hget]
    rfl
  obtain ⟨hlists, hcount⟩ := hs.listed.remove hlive h.registry
  refine ⟨hlists.congr fun k => ?_, hcount, fun k y hk => ?_⟩
  · rw [h.records]
    by_cases heq : k = hash
    · rw [heq, Function.update_self]
      simp
    · rw [Function.update_of_ne heq]
      simp [heq]
  · rw [h.records] at hk
    by_cases heq : k = hash
    · rw [heq, Function.update_self] at hk
      cases hk
    · rwa [Function.update_of_ne heq] at hk

lemma Removed.agrees (hs : AgreesUpTo env n s) (h : Removed s s' hash)
    (hget : s.records hash = some r) (hframe : PruneFrame s s') : AgreesUpTo env (n + 1) s' := by
  obtain ⟨hlists, hcount, hsub⟩ := h.listed hs hget
  refine ⟨hlists, ?_, fun k hk => ?_, fun k y hk => hs.records k y (hsub k y hk), ?_, ?_, ?_⟩
  · rw [hframe.config, hs.total]
    omega
  · obtain ⟨y, hy⟩ := Option.isSome_iff_exists.mp hk
    rw [hframe.returnedNames]
    exact hs.exclusive k (by rw [hsub k y hy]; rfl)
  · rw [hframe.returnedNames]
    exact hs.returned
  · rw [hframe.config]
    exact hs.grace
  · rw [hframe.config]
    exact hs.auction

lemma Auctioned.agrees (hs : Agrees env s) (h : Auctioned env clock hash initiator s s' r x) :
    Agrees env s' := by
  obtain ⟨hlists, hcount, hsub⟩ := h.removed.listed hs h.was
  refine ⟨hlists, ?_, fun k hk => ?_, fun k y hk => hs.records k y (hsub k y hk), fun k y hk => ?_,
    h.rules.grace.trans hs.grace, h.rules.auction.trans hs.auction⟩
  · have htotal := hs.total
    rw [h.total]
    omega
  · obtain ⟨y, hy⟩ := Option.isSome_iff_exists.mp hk
    have hne : k ≠ hash := by
      rintro rfl
      rw [h.removed.records, Function.update_self] at hy
      cases hy
    rw [h.returnedNames, Function.update_of_ne hne]
    exact hs.exclusive k (by rw [hsub k y hy]; rfl)
  · rw [h.returnedNames] at hk
    by_cases heq : k = hash
    · rw [heq, Function.update_self] at hk
      obtain rfl := Option.some.inj hk
      have hfits := h.fits
      rw [hs.auction] at hfits
      rw [h.returned, heq]
      exact ⟨rfl, rfl, hfits⟩
    · rw [Function.update_of_ne heq] at hk
      exact hs.returned k y hk

lemma NamesKept.agrees (hs : Agrees env s) (h : NamesKept s s') : Agrees env s' where
  listed := by
    rw [h.records]
    exact h.registry.lists hs.listed
  total := by rw [h.total, h.registry.count, hs.total]
  exclusive := by
    rw [h.records, h.returnedNames]
    exact hs.exclusive
  records := by
    rw [h.records]
    exact hs.records
  returned := by
    rw [h.returnedNames]
    exact hs.returned
  grace := h.rules.grace.trans hs.grace
  auction := h.rules.auction.trans hs.auction

lemma ReservationsOnly.agrees (hs : Agrees env s) (h : ReservationsOnly s s') : Agrees env s' where
  listed := by
    rw [h.records, h.registry]
    exact hs.listed
  total := by rw [h.config, h.registry, hs.total]
  exclusive := by
    rw [h.records, h.returnedNames]
    exact hs.exclusive
  records := by
    rw [h.records]
    exact hs.records
  returned := by
    rw [h.returnedNames]
    exact hs.returned
  grace := h.config ▸ hs.grace
  auction := h.config ▸ hs.auction

lemma setReserved_only (hash : Bytes32) (s : NameState) :
    ReservationsOnly s (s.setReserved hash none) := ⟨rfl, rfl, rfl, rfl⟩

lemma setReturned_agrees (hs : Agrees env s) (hash : Bytes32) :
    Agrees env (s.setReturned hash none) where
  listed := hs.listed
  total := hs.total
  exclusive k hk := by
    change Function.update s.returnedNames hash none k = none
    by_cases heq : k = hash
    · rw [heq, Function.update_self]
    · rw [Function.update_of_ne heq]
      exact hs.exclusive k hk
  records := hs.records
  returned k y hk := by
    change Function.update s.returnedNames hash none k = some y at hk
    by_cases heq : k = hash
    · rw [heq, Function.update_self] at hk
      cases hk
    · rw [Function.update_of_ne heq] at hk
      exact hs.returned k y hk
  grace := hs.grace
  auction := hs.auction

end

end Arns
end ArioSolana
