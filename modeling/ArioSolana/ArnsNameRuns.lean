import ArioSolana.ArnsLifecycle
import ArioSolana.GarAccounting

/-!
# Names over any run

Whatever is called, in any order and with any accounts, and whatever other programs do in between:
the accounts of the names agree, and each name only makes the transitions of its life. So nobody
loses a name early, nobody leases one for more than five years ahead, and a reserved name is sold as
a free one to its target only. -/

namespace ArioSolana
namespace Arns

open Checked Solana

section

variable {env : NameEnv} {clock : ℤ} {s s' s₀ : NameState} {hash k : Bytes32} {n n' : ℕ}
  {i : NameInstruction} {e : NameEvent} {ev : Step NameState NameEvent}
  {addresses : List NameAddress}
  {tr : List (Step NameState NameEvent)} {r : ArnsRecord} {x : ReturnedName} {endTs : ℤ}
  {reserved : ReservedName}

/-! ### Pruning a list of accounts -/

/-- **Pruning any list** keeps the agreement, and removes records past their auctions only. -/
lemma pruneExpired_fold (hs : AgreesUpTo env n s)
    (h : addresses.foldlM (pruneExpiredAt clock) (s, n) = .ok (s', n')) :
    AgreesUpTo env n' s' ∧ PruneFrame s s' ∧ ∀ k, s'.records k = s.records k ∨
      ∃ r, s.records k = some r ∧ PastAuction s.config clock r ∧ s'.records k = none := by
  induction addresses generalizing s n with
  | nil =>
    obtain ⟨rfl, rfl⟩ := Prod.mk.inj (pure_eq_ok.mp h)
    exact ⟨hs, ⟨rfl, rfl, rfl⟩, fun k => .inl rfl⟩
  | cons address addresses ih =>
    rw [List.foldlM_cons, bind_eq_ok] at h
    obtain ⟨⟨s₁, n₁⟩, hone, hrest⟩ := h
    rcases pruneExpiredAt_ok hone with ⟨rfl, rfl⟩ | ⟨hash, r, hget, hpast, hremoved, hframe, rfl⟩
    · exact ih hs hrest
    · obtain ⟨hs', hframe', hrec⟩ := ih (hremoved.agrees hs hget hframe) hrest
      refine ⟨hs', ⟨hframe'.returnedNames.trans hframe.returnedNames,
        hframe'.reservedNames.trans hframe.reservedNames, hframe'.config.trans hframe.config⟩,
        fun k => ?_⟩
      by_cases hk : k = hash
      · have hgone : s₁.records k = none := by rw [hremoved.records, hk, Function.update_self]
        refine .inr ⟨r, hk ▸ hget, hpast, ?_⟩
        rcases hrec k with heq | ⟨_, hsome, -, -⟩
        · rw [heq, hgone]
        · rw [hgone] at hsome
          cases hsome
      · have hsame : s₁.records k = s.records k := by
          rw [hremoved.records, Function.update_of_ne hk]
        have hat := hrec k
        rw [hsame, hframe.config] at hat
        exact hat

lemma pruneExpired_ok {maxNames : ℕ} (hs : Agrees env s)
    (h : pruneExpired clock addresses maxNames s = .ok s') : Agrees env s' ∧
      s'.returnedNames = s.returnedNames ∧ s'.reservedNames = s.reservedNames ∧
      ∀ k, s'.records k = s.records k ∨
        ∃ r, s.records k = some r ∧ PastAuction s.config clock r ∧ s'.records k = none := by
  simp only [pruneExpired, bind_eq_ok, pure_eq_ok] at h
  obtain ⟨⟨s₁, pruned⟩, hfold, rfl⟩ := h
  obtain ⟨hs', hframe, hrec⟩ := pruneExpired_fold hs hfold
  refine ⟨⟨hs'.listed, ?_, hs'.exclusive, hs'.records, hs'.returned, hs'.grace, hs'.auction⟩,
    hframe.returnedNames, hframe.reservedNames, hrec⟩
  have htotal := hs'.total
  change s₁.config.totalNamesRegistered - pruned = s₁.registry.count + 0
  omega

/-- Closing auctions keeps all but the returned names, and closes only those that are over. -/
lemma pruneReturned_fold (clock : ℤ) (addresses : List NameAddress) (hs : Agrees env s) :
    Agrees env (addresses.foldl (pruneReturnedAt clock) s) ∧
      (addresses.foldl (pruneReturnedAt clock) s).records = s.records ∧
      (addresses.foldl (pruneReturnedAt clock) s).reservedNames = s.reservedNames ∧
      ∀ k, (addresses.foldl (pruneReturnedAt clock) s).returnedNames k = s.returnedNames k ∨
        ∃ x, s.returnedNames k = some x ∧
          saturatingAddSigned 64 x.returnedAt returnedNameDurationSeconds ≤ clock ∧
          (addresses.foldl (pruneReturnedAt clock) s).returnedNames k = none := by
  induction addresses generalizing s with
  | nil => exact ⟨hs, rfl, rfl, fun k => .inl rfl⟩
  | cons address addresses ih =>
    rw [List.foldl_cons]
    rcases pruneReturnedAt_cases clock s address with heq | ⟨hash, x, hget, hover, heq⟩
    · rw [heq]
      exact ih hs
    · rw [heq]
      obtain ⟨hs', hrec, hres, hret⟩ := ih (setReturned_agrees hs hash)
      refine ⟨hs', hrec, hres, fun k => ?_⟩
      by_cases hk : k = hash
      · have hgone : (s.setReturned hash none).returnedNames k = none := by
          rw [hk]
          exact Function.update_self ..
        refine .inr ⟨x, hk ▸ hget, hover, ?_⟩
        rcases hret k with heq | ⟨_, hsome, -, -⟩
        · rw [heq, hgone]
        · rw [hgone] at hsome
          cases hsome
      · have hsame : (s.setReturned hash none).returnedNames k = s.returnedNames k :=
          Function.update_of_ne hk _ _
        have hat := hret k
        rw [hsame] at hat
        exact hat

/-! ### One step -/

lemma others_agrees (hs : Agrees env s) (gar : Gar.State) (assets : Pubkey → Option (List UInt8)) :
    Agrees env { s with gar, assets } :=
  ⟨hs.listed, hs.total, hs.exclusive, hs.records, hs.returned, hs.grace, hs.auction⟩

/-- **One step keeps the agreement.** -/
theorem step_agrees (hs : Agrees env s) (h : NameStep env s e s') : Agrees env s' := by
  cases e with
  | others gar assets =>
    cases h
    exact others_agrees hs gar assets
  | call clock i =>
    change i.exec env clock s = .ok s' at h
    cases i with
    | buyName p params =>
      obtain ⟨hfree, hat, -, -, ⟨r, hr⟩, hret, -⟩ := buyName_ok h
      exact hr.agrees hs hfree (by rw [hret, hat]) fun k _ => by rw [hret]
    | buyReturnedName p wallet share params =>
      obtain ⟨hfree, -, -, ⟨r, hr⟩, hret, -⟩ := buyReturnedName_ok h
      exact hr.agrees hs hfree (by rw [hret, Function.update_self])
        fun k hk => by rw [hret, Function.update_of_ne hk]
    | upgradeName p hash =>
      obtain ⟨r, price, -, -, hr⟩ := upgradeName_ok h
      have hold := hs.records hash r hr.was
      exact hr.agrees hs ⟨hold.nameHash, hold.bump, rfl, by simp⟩
    | extendLease p hash years =>
      obtain ⟨r, endTs, hkind, -, -, -, -, hfits, hgrace, hr⟩ := extendLease_ok h
      have hold := hs.records hash r hr.was
      refine hr.agrees hs ⟨hold.nameHash, hold.bump, ?_, fun e he => ?_⟩
      · change Terms r.purchaseType _
        rw [hkind]
        exact ⟨_, rfl, hfits⟩
      · obtain rfl := Option.some.inj (Option.mem_def.mp he)
        rwa [hs.grace] at hgrace
    | increaseUndernameLimit p hash quantity =>
      obtain ⟨r, limit, -, -, -, -, hr⟩ := increaseUndernameLimit_ok h
      have hold := hs.records hash r hr.was
      exact hr.agrees hs ⟨hold.nameHash, hold.bump, hold.terms, hold.fits⟩
    | reassignName caller hash newAnt =>
      obtain ⟨r, -, -, -, hr⟩ := reassignName_ok h
      have hold := hs.records hash r hr.was
      exact hr.agrees hs ⟨hold.nameHash, hold.bump, hold.terms, hold.fits⟩
    | releaseName caller hash =>
      obtain ⟨r, x, -, -, hx⟩ := releaseName_ok h
      exact hx.agrees hs
    | pruneExpired remaining maxNames => exact (pruneExpired_ok hs h).1
    | pruneReturned remaining maxNames =>
      cases h
      exact (pruneReturned_fold clock _ hs).1
    | pruneToReturned hash =>
      obtain ⟨r, x, -, hx⟩ := pruneToReturned_ok h
      exact hx.agrees hs
    | reserve authority params => exact (reserve_ok h).2.agrees hs
    | claim authority hash =>
      obtain ⟨-, rfl⟩ := unreserve_ok h
      exact (setReserved_only hash s).agrees hs
    | unreserve authority hash =>
      obtain ⟨-, rfl⟩ := unreserve_ok h
      exact (setReserved_only hash s).agrees hs
    | pruneExpiredReservation hash =>
      obtain ⟨_, _, -, -, -, rfl⟩ := pruneExpiredReservation_ok h
      exact (setReserved_only hash s).agrees hs
    | updateDemandFactor => exact (rollDemand_kept h).agrees hs
    | createNameRegistry authority => exact (createNameRegistry_ok h).agrees hs
    | adminExpandNameRegistry authority capacity => exact (adminExpandNameRegistry_ok h).agrees hs
    | transferAuthority authority newAuthority => exact (transferAuthority_ok h).agrees hs
    | finalizeMigration authority => exact (finalizeMigration_ok h).agrees hs

/-- The step leaves a name where it is, or is one of the transitions of its life. -/
def Moves (env : NameEnv) (s : NameState) (e : NameEvent) (s' : NameState) (k : Bytes32) : Prop :=
  s'.stage k = s.stage k ∨
    ∃ clock i, e = .call clock i ∧ Transition env clock s k i (s.stage k) (s'.stage k)

lemma Moves.kept (hrec : s'.records = s.records) (hret : s'.returnedNames = s.returnedNames) :
    Moves env s e s' k := .inl (stage_eq (by rw [hrec]) (by rw [hret]))

lemma Moves.of_one {a b : Stage} (hfrom : s.stage hash = a) (hto : s'.stage hash = b)
    (hframe : ∀ k, k ≠ hash → s'.stage k = s.stage k) (ht : Transition env clock s hash i a b)
    (k : Bytes32) : Moves env s (.call clock i) s' k := by
  by_cases hk : k = hash
  · refine .inr ⟨clock, i, rfl, ?_⟩
    rw [hk, hfrom, hto]
    exact ht
  · exact .inl (hframe k hk)

/-- **One step moves a name along its life only.** -/
theorem step_moves (hs : Agrees env s) (hword : e.InWord) (h : NameStep env s e s') (k : Bytes32) :
    Moves env s e s' k := by
  cases e with
  | others gar assets =>
    cases h
    exact .kept rfl rfl
  | call clock i =>
    change i.exec env clock s = .ok s' at h
    change fitsSigned 64 clock at hword
    cases i with
    | buyName p params =>
      obtain ⟨hfree, hat, hvalid, hallowed, ⟨r, hr⟩, hret, -⟩ := buyName_ok h
      obtain ⟨hto, hframe⟩ := hr.stages fun k _ => by rw [hret]
      exact .of_one (stage_free hfree hat) hto hframe (.bought rfl hvalid hallowed hr.new) k
    | buyReturnedName p wallet share params =>
      obtain ⟨hfree, ⟨x, hx⟩, hvalid, ⟨r, hr⟩, hret, -⟩ := buyReturnedName_ok h
      obtain ⟨hto, hframe⟩ := hr.stages fun k hk => by rw [hret, Function.update_of_ne hk]
      exact .of_one (stage_auction hfree hx) hto hframe (.boughtAtAuction rfl hvalid hr.new) k
    | upgradeName p hash =>
      obtain ⟨r, price, hkind, hopen, hr⟩ := upgradeName_ok h
      obtain ⟨hfrom, hto, hframe⟩ := hr.stages
      exact .of_one hfrom hto hframe (.upgraded ⟨hkind, hopen⟩) k
    | extendLease p hash years =>
      obtain ⟨r, endTs, hkind, hend, hpos, hopen, hahead, -, -, hr⟩ := extendLease_ok h
      obtain ⟨hfrom, hto, hframe⟩ := hr.stages
      exact .of_one hfrom hto hframe (.extended ⟨hkind, hopen⟩ hend hpos hahead) k
    | increaseUndernameLimit p hash quantity =>
      obtain ⟨r, limit, hactive, hlt, hle, rfl, hr⟩ := increaseUndernameLimit_ok h
      obtain ⟨hfrom, hto, hframe⟩ := hr.stages
      exact .of_one hfrom hto hframe (.undernamesAdded hactive (by omega) hle) k
    | reassignName caller hash newAnt =>
      obtain ⟨r, hholder, hactive, hne, hr⟩ := reassignName_ok h
      obtain ⟨hfrom, hto, hframe⟩ := hr.stages
      exact .of_one hfrom hto hframe (.reassigned hholder hactive hne) k
    | releaseName caller hash =>
      obtain ⟨r, x, hholder, hkind, hx⟩ := releaseName_ok h
      obtain ⟨hfrom, hto, hframe⟩ := hx.stages
      exact .of_one hfrom (hx.returned ▸ hto) hframe (.released hholder hkind) k
    | pruneExpired remaining maxNames =>
      obtain ⟨-, hret, -, hrec⟩ := pruneExpired_ok hs h
      rcases hrec k with heq | ⟨r, hget, hpast, hgone⟩
      · exact .inl (stage_eq heq (by rw [hret]))
      · have hfree : s'.returnedNames k = none := by
          rw [hret]
          exact hs.exclusive k (by rw [hget]; rfl)
        obtain ⟨hkind, endTs, hend, hlate⟩ := endedBefore_iff.mp hpast
        rw [(hs.records k r hget).fits_end hend, hs.auction] at hlate
        refine .inr ⟨clock, _, rfl, ?_⟩
        rw [stage_owned hget, stage_free hgone hfree]
        refine .pruned hkind hend ?_
        unfold fitsSigned at hword
        unfold saturatingAddSigned at hlate
        omega
    | pruneReturned remaining maxNames =>
      cases h
      obtain ⟨-, hrec, -, hret⟩ := pruneReturned_fold clock (remaining.take maxNames) hs
      rcases hret k with heq | ⟨x, hget, hover, hgone⟩
      · exact .inl (stage_eq (by rw [← hrec]; rfl) heq)
      · have hnone : s.records k = none := by
          by_contra hsome
          have := hs.exclusive k (Option.isSome_iff_ne_none.mpr hsome)
          rw [hget] at this
          cases this
        obtain ⟨-, -, hfits⟩ := hs.returned k x hget
        have hto : (pruneReturned clock remaining maxNames s).stage k = .free :=
          stage_free ((congrFun hrec k).trans hnone) hgone
        refine .inr ⟨clock, _, rfl, ?_⟩
        rw [stage_auction hnone hget, hto]
        refine .auctionOver ?_
        unfold fitsSigned at hfits
        unfold saturatingAddSigned at hover
        omega
    | pruneToReturned hash =>
      obtain ⟨r, x, hended, hx⟩ := pruneToReturned_ok h
      obtain ⟨hfrom, hto, hframe⟩ := hx.stages
      obtain ⟨hkind, endTs, hend, hlate⟩ := endedBefore_iff.mp hended
      rw [hs.grace, (hs.records hash r hx.was).fits_end hend] at hlate
      exact .of_one hfrom (hx.returned ▸ hto) hframe (.lapsed hkind hend hlate) k
    | reserve authority params =>
      obtain ⟨-, hr⟩ := reserve_ok h
      exact .kept hr.records hr.returnedNames
    | claim authority hash =>
      obtain ⟨-, rfl⟩ := unreserve_ok h
      exact .kept rfl rfl
    | unreserve authority hash =>
      obtain ⟨-, rfl⟩ := unreserve_ok h
      exact .kept rfl rfl
    | pruneExpiredReservation hash =>
      obtain ⟨_, _, -, -, -, rfl⟩ := pruneExpiredReservation_ok h
      exact .kept rfl rfl
    | updateDemandFactor =>
      exact .kept (rollDemand_kept h).records
        (rollDemand_kept h).returnedNames
    | createNameRegistry authority =>
      exact .kept (createNameRegistry_ok h).records (createNameRegistry_ok h).returnedNames
    | adminExpandNameRegistry authority capacity =>
      exact .kept (adminExpandNameRegistry_ok h).records
        (adminExpandNameRegistry_ok h).returnedNames
    | transferAuthority authority newAuthority =>
      exact .kept (transferAuthority_ok h).records (transferAuthority_ok h).returnedNames
    | finalizeMigration authority =>
      exact .kept (finalizeMigration_ok h).records (finalizeMigration_ok h).returnedNames

end

/-! ### A few names -/

namespace SmallNames

def ario : List UInt8 := [97, 114, 105, 111]

/-- The hash of that name. -/
def arioHash : Bytes32 :=
  #v[172, 72, 32, 170, 70, 23, 229, 192, 48, 244, 7, 58, 128, 117, 85, 102, 79, 42, 25, 3, 19, 255,
    168, 248, 55, 196, 26, 128, 133, 95, 65, 33]

def world : NameEnv where
  sha256 text := if text = ario then arioHash else Vector.replicate 32 0
  toLowercase text := text
  configKey := ⟨40⟩
  bump _ _ := 255
  gar := Gar.SmallNetwork.chain

/-- The mint is 10, the treasury 12 and the authority 4. -/
def config : ArnsConfig where
  authority := ⟨4⟩
  mint := ⟨10⟩
  treasury := ⟨12⟩
  gracePeriodSeconds
  returnAuctionDurationSeconds := returnedNameDurationSeconds
  maxLeaseLengthYears
  totalNamesRegistered := 0
  nextRecordsPruneTimestamp := 2 ^ 63 - 1
  nextReturnedNamesPruneTimestamp := 2 ^ 63 - 1
  migrationActive := true
  migrationAuthority := ⟨5⟩
  bump := 255
  version := (1, 0, 0)

def start : NameState where
  config
  demand := SmallDemand.first
  registry := .empty
  records _ := none
  returnedNames _ := none
  reservedNames _ := none
  assets _ := none
  gar := Gar.SmallNetwork.start

lemma fresh : FreshNames start where
  initialized := ⟨1600000000, 255, 254, ⟨⟨4⟩, ⟨10⟩, ⟨12⟩, 1600000000, ⟨5⟩, demandFactorScale⟩, rfl⟩
  registry := rfl
  records _ := rfl
  returnedNames _ := rfl
  reservedNames _ := rfl

def create : NameEvent := .call 1600000001 (.createNameRegistry ⟨4⟩)

/-- Wallet 21 leases the name for a year. -/
def lease : NameEvent :=
  .call 1600000100 (.buyName ⟨⟨21⟩, .balance ⟨31⟩, ⟨12⟩, []⟩ ⟨ario, .lease, 1, ⟨50⟩⟩)

def reserveFor : NameEvent := .call 1600000050 (.reserve ⟨4⟩ ⟨ario, some ⟨21⟩, none⟩)

def extend : NameEvent := .call 1600000200 (.extendLease ⟨⟨22⟩, .balance ⟨32⟩, ⟨12⟩, []⟩ arioHash 2)

/-- The history of some events, latest first. -/
def history (events : List NameEvent) : List (Step NameState NameEvent) :=
  traceOf (NameEvent.exec world) start events

def now (events : List NameEvent) : NameState := stateAfter (NameEvent.exec world) start events

lemma run_now {events : List NameEvent} (h : allOk (NameEvent.exec world) start events = true) :
    Run (NameStep world) start (history events) (now events) := run_traceOf h

lemma inWord_history {events : List NameEvent} (h : ∀ e ∈ events, e.InWord) :
    ∀ ev ∈ history events, ev.label.InWord := by
  unfold history
  induction events with
  | nil => simp [traceOf]
  | cons e events ih =>
    intro ev hev
    rcases List.mem_cons.mp hev with rfl | hev
    · exact h e List.mem_cons_self
    · exact ih (fun e he => h e (List.mem_cons_of_mem _ he)) ev hev

lemma leased : allOk (NameEvent.exec world) start [lease, create] = true := by decide +kernel

lemma leasedRecord : (now [lease, create]).records arioHash = some ⟨arioHash, ⟨21⟩, ⟨50⟩, .lease,
    1600000100, some 1631536100, 10, 6000000000, 255, ario, (1, 0, 0)⟩ := by
  decide +kernel

end SmallNames

section

variable {env : NameEnv} {clock : ℤ} {s s' s₀ : NameState} {hash k : Bytes32} {n n' : ℕ}
  {i : NameInstruction} {e : NameEvent} {ev : Step NameState NameEvent}
  {addresses : List NameAddress}
  {tr : List (Step NameState NameEvent)} {r : ArnsRecord} {x : ReturnedName} {endTs : ℤ}
  {reserved : ReservedName}

/-! ### Runs -/

lemma FreshNames.agrees (h : FreshNames s₀) : Agrees env s₀ := by
  obtain ⟨_, _, _, params, hinit⟩ := h.initialized
  simp only [initializeArns, bind_eq_ok, require_eq_ok, exists_const, pure_eq_ok,
    Prod.mk.injEq] at hinit
  obtain ⟨-, -, -, hconfig, -⟩ := hinit
  refine ⟨?_, ?_, fun k hk => ?_, fun k r hk => ?_, fun k x hk => ?_, ?_, ?_⟩
  · rw [h.registry]
    exact NameRegistry.empty_lists.congr fun k => by simp [h.records k]
  · rw [← hconfig, h.registry]
    rfl
  · rw [h.records k] at hk
    exact absurd hk Bool.false_ne_true
  · rw [h.records k] at hk
    cases hk
  · rw [h.returnedNames k] at hk
    cases hk
  · rw [← hconfig]
  · rw [← hconfig]

lemma run_agrees (hfresh : FreshNames s₀) (run : Run (NameStep env) s₀ tr s) : Agrees env s := by
  refine run.invariant (P := Agrees env) (A := fun _ => True) hfresh.agrees ?_ fun _ _ => trivial
  intro s e s' _ hs h
  exact step_agrees hs h

/-- **In every state that is reached the accounts of the names agree.** No name is owned and at an
auction at once, the registry lists exactly the owned names, each once and under its own position,
with nothing behind them, and the config counts them. -/
theorem registry_agrees (hfresh : FreshNames s₀) (run : Run (NameStep env) s₀ tr s) :
    Agrees env s := run_agrees hfresh run

open SmallNames in
theorem registry_agrees_small : Agrees world (now [lease, create]) :=
  registry_agrees fresh (run_now leased)

lemma run_moves (hfresh : FreshNames s₀) (run : Run (NameStep env) s₀ tr s)
    (hword : ∀ ev ∈ tr, ev.label.InWord) (hev : ev ∈ tr) (k : Bytes32) :
    Moves env ev.before ev.label ev.after k := by
  obtain ⟨tr', run', hstep, -⟩ := run.of_mem hev
  exact step_moves (run_agrees hfresh run') (hword ev hev) hstep k

/-- **Every step of every run** leaves each name where it is, or is a transition of its life: a name
is bought when it is free, or at its auction; it is lost by its holder's release, or by a lease that
ended more than the grace period ago. -/
theorem names_move (hfresh : FreshNames s₀) (run : Run (NameStep env) s₀ tr s)
    (hword : ∀ ev ∈ tr, ev.label.InWord) :
    ∀ ev ∈ tr, ∀ k, Moves env ev.before ev.label ev.after k :=
  fun _ hev k => run_moves hfresh run hword hev k

open SmallNames in
theorem names_move_small : {ev | ev ∈ history [lease, create]} ⊆
    {ev | ∀ k, Moves world ev.before ev.label ev.after k} :=
  names_move fresh (run_now leased) (inWord_history (by decide))

/-! ### Reserved names -/

/-- **A reserved name is sold as a free one to its target only**, and the sale ends the reservation.
-/
theorem reserved_for_target (hfresh : FreshNames s₀) (run : Run (NameStep env) s₀ tr s)
    (hword : ∀ ev ∈ tr, ev.label.InWord) (hev : ev ∈ tr) (hcall : ev.label = .call clock i)
    (hreserved : ev.before.reservedNames k = some reserved)
    (hforce : ∀ expiry ∈ reserved.expiresAt, clock < expiry)
    (hfree : ev.before.stage k = .free) (howned : ev.after.records k = some r) :
    ∃ p params, i = .buyName p params ∧ reserved.reservedFor = some p.payer ∧ r.owner = p.payer ∧
      ev.after.reservedNames k = none := by
  obtain ⟨_, run', hstep, -⟩ := run.of_mem hev
  have hafter : ev.after.stage k = .owned r := stage_owned howned
  rcases run_moves hfresh run hword hev k with hsame | ⟨clock', i', hcall', ht⟩
  · rw [hafter, hfree] at hsame
    cases hsame
  · obtain ⟨rfl, rfl⟩ := NameEvent.call.inj (hcall.symm.trans hcall')
    rw [hafter, hfree] at ht
    cases ht with
    | bought name valid allowed new =>
      rename_i p params
      rw [hreserved] at allowed
      refine ⟨p, params, rfl, ?_, new.owner, ?_⟩
      · rcases checkReservation_some allowed with ⟨expiry, hexpiry, hle⟩ | htarget
        · have := hforce expiry hexpiry
          omega
        · exact htarget
      · rw [hcall] at hstep
        obtain ⟨-, -, -, -, -, -, hres⟩ := buyName_ok hstep
        rw [hres, name, Function.update_self]

open SmallNames in
theorem reserved_for_target_small :
    ∃ p params, NameInstruction.buyName ⟨⟨21⟩, .balance ⟨31⟩, ⟨12⟩, []⟩
      ⟨ario, .lease, 1, ⟨50⟩⟩ = .buyName p params ∧ some ⟨21⟩ = some p.payer ∧
    (⟨21⟩ : Pubkey) = p.payer ∧ (now [lease, reserveFor, create]).reservedNames arioHash =
        none := by
  have hev : ⟨now [reserveFor, create], lease, now [lease, reserveFor, create]⟩
      ∈ history [lease, reserveFor, create] := List.mem_cons_self
  have hreserved : (now [reserveFor, create]).reservedNames arioHash
      = some ⟨ario, some ⟨21⟩, none, ⟨4⟩, 1600000050, 255, (1, 0, 0)⟩ := by decide +kernel
  have hbought : (now [lease, reserveFor, create]).records arioHash = some ⟨arioHash, ⟨21⟩, ⟨50⟩,
      .lease, 1600000100, some 1631536100, 10, 6000000000, 255, ario, (1, 0, 0)⟩ := by
        decide +kernel
  exact reserved_for_target fresh (run_now (by decide +kernel)) (inWord_history (by decide)) hev rfl
    hreserved (by simp) (stage_free (by decide +kernel) (by decide +kernel)) hbought

/-! ### Nobody loses a name early -/

/-- The name is owned for good, or until some time at least. -/
def OwnedUntil (deadline : ℤ) (r : ArnsRecord) : Prop :=
  r.purchaseType = .permabuy ∨
    ∃ endTs, r.endTimestamp = some endTs ∧ deadline ≤ endTs + gracePeriodSeconds

/-- What the owner keeps: the record is that of the same purchase. -/
structure SamePurchase (r r' : ArnsRecord) : Prop where
  name : r'.name = r.name
  owner : r'.owner = r.owner
  startTimestamp : r'.startTimestamp = r.startTimestamp

/-- Before the deadline a transition keeps the record, unless it is a release. -/
lemma Transition.keeps {deadline : ℤ} {a : Stage} (ht : Transition env clock s k i (.owned r) a)
    (hkeep : OwnedUntil deadline r) (hclock : clock ≤ deadline)
    (hrelease : ∀ caller, i ≠ .releaseName caller k) :
    ∃ r', a = .owned r' ∧ SamePurchase r r' ∧ OwnedUntil deadline r' := by
  have ended : ∀ {endTs}, r.purchaseType = .lease → r.endTimestamp = some endTs →
      endTs + gracePeriodSeconds < clock → False := by
    intro endTs hkind hend hlate
    rcases hkeep with hgood | ⟨endTs', hend', hle⟩
    · rw [hkind] at hgood
      cases hgood
    · obtain rfl := Option.some.inj (hend.symm.trans hend')
      omega
  cases ht with
  | upgraded leased => exact ⟨_, rfl, ⟨rfl, rfl, rfl⟩, .inl rfl⟩
  | extended leased ends positive ahead =>
    rename_i endTs years
    refine ⟨_, rfl, ⟨rfl, rfl, rfl⟩, .inr ⟨_, rfl, ?_⟩⟩
    rcases hkeep with hgood | ⟨endTs', hend', hle⟩
    · rw [leased.1] at hgood
      cases hgood
    · obtain rfl := Option.some.inj (ends.symm.trans hend')
      unfold oneYearSeconds
      omega
  | undernamesAdded active positive capped => exact ⟨_, rfl, ⟨rfl, rfl, rfl⟩, hkeep⟩
  | reassigned holder active other => exact ⟨_, rfl, ⟨rfl, rfl, rfl⟩, hkeep⟩
  | released holder forGood => exact absurd rfl (hrelease _)
  | lapsed leased ends late => exact (ended leased ends late).elim
  | pruned leased ends late =>
    refine (ended leased ends ?_).elim
    unfold returnedNameDurationSeconds at late
    omega

/-- **Nobody loses a name early.** However a run goes on up to the end of a lease and its grace
period, and for ever in the case of a permabuy, the name keeps its owner's record, unless it is
released: then the call was signed by the holder of its asset. -/
theorem name_kept {deadline : ℤ} {later : List (Step NameState NameEvent)} (hfresh : FreshNames s₀)
    (run : Run (NameStep env) s₀ tr s) (hget : s.records k = some r)
    (howned : OwnedUntil deadline r) (run' : Run (NameStep env) s later s')
    (hword : ∀ ev ∈ later, ev.label.InWord)
    (htime : ∀ ev ∈ later, ∀ clock i, ev.label = .call clock i → clock ≤ deadline)
    (hrelease : ∀ ev ∈ later, ∀ clock caller, ev.label ≠ .call clock (.releaseName caller k)) :
    ∃ r', s'.records k = some r' ∧ SamePurchase r r' ∧ OwnedUntil deadline r' := by
  induction run' with
  | nil => exact ⟨r, hget, ⟨rfl, rfl, rfl⟩, howned⟩
  | @cons later s₁ e s₂ run' last ih =>
    obtain ⟨r₁, hget₁, hsame₁, howned₁⟩ := ih
      (fun ev hev => hword ev (List.mem_cons_of_mem _ hev))
      (fun ev hev => htime ev (List.mem_cons_of_mem _ hev))
      (fun ev hev => hrelease ev (List.mem_cons_of_mem _ hev))
    have hs := run_agrees hfresh (run.append run')
    have hat : s₁.stage k = .owned r₁ := stage_owned hget₁
    have owns : ∀ r', s₂.stage k = .owned r' → s₂.records k = some r' := by
      intro r' hstage
      unfold NameState.stage at hstage
      split at hstage
      · rename_i heq
        rw [heq, Stage.owned.inj hstage]
      · split at hstage <;> cases hstage
    rcases step_moves hs (hword _ List.mem_cons_self) last k with heq | ⟨clock, i, rfl, ht⟩
    · exact ⟨r₁, owns r₁ (heq.trans hat), hsame₁, howned₁⟩
    · rw [hat] at ht
      obtain ⟨r₂, hto, hsame₂, howned₂⟩ := ht.keeps howned₁
        (htime _ List.mem_cons_self clock i rfl)
        fun caller heq => hrelease _ List.mem_cons_self clock caller (by rw [heq])
      exact ⟨r₂, owns r₂ hto, ⟨hsame₂.name.trans hsame₁.name, hsame₂.owner.trans hsame₁.owner,
        hsame₂.startTimestamp.trans hsame₁.startTimestamp⟩, howned₂⟩

open SmallNames in
theorem name_kept_small : ∃ r', (now [extend, lease, create]).records arioHash = some r' ∧
    r'.owner = ⟨21⟩ := by
  have hstep : NameStep world (now [lease, create]) extend (now [extend, lease, create]) :=
    eq_ok_outcome (s := now [lease, create]) (by decide +kernel)
  have howned : OwnedUntil 1632000000 ⟨arioHash, ⟨21⟩, ⟨50⟩, .lease, 1600000100,
    some 1631536100, 10,
      6000000000, 255, ario, (1, 0, 0)⟩ := .inr ⟨_, rfl, by decide⟩
  have hword : extend.InWord := by decide
  obtain ⟨r', hget, hsame, -⟩ := name_kept fresh (run_now leased) leasedRecord howned
    (.cons .nil hstep) (by simpa using hword) (by simp [extend]) (by simp [extend])
  exact ⟨r', hget, hsame.owner⟩

/-! ### When a lease is over -/

lemma leaseOpen_iff (hr : RecordOk env k r) (hkind : r.purchaseType = .lease)
    (hend : r.endTimestamp = some endTs) :
    (r.isActive clock ∨ r.isInGracePeriod clock gracePeriodSeconds) ↔
      clock ≤ endTs + gracePeriodSeconds := by
  have hfits := hr.fits_end hend
  simp only [ArnsRecord.isActive, ArnsRecord.isInGracePeriod, hkind, hend, hfits,
    decide_eq_true_eq, Bool.and_eq_true]
  unfold gracePeriodSeconds
  omega

lemma returnName_succeeds {initiator : Pubkey} {pruneTs : ℤ} (hfree : s.returnedNames k = none)
    (hadd : checkedAddSigned 64 clock s.config.returnAuctionDurationSeconds = some pruneTs)
    (hlen : NameRegistry.headerBytes ≤ s.registry.dataLen) :
    ∃ s', returnName env clock k r initiator s = .ok s' := by
  have hregistry : ∃ registry, s.registry.removeNameEntryByHash k = .ok registry := by
    unfold NameRegistry.removeNameEntryByHash
    rw [require_of hlen]
    exact ⟨_, rfl⟩
  obtain ⟨registry, hregistry⟩ := hregistry
  have hconfig : ∃ config, s.config.scheduleReturnedPrune clock = .ok config := by
    unfold ArnsConfig.scheduleReturnedPrune
    rw [hadd]
    exact ⟨_, rfl⟩
  obtain ⟨config, hconfig⟩ := hconfig
  simp only [returnName, removeRecord, bind_eq_ok, require_eq_ok, exists_const, pure_eq_ok]
  exact ⟨_, Option.isNone_iff_eq_none.mpr hfree, config, hconfig, registry, hregistry, rfl⟩

/-- **A lease is either open or lapsed.** In every state that is reached, anybody can send the name
of a lease to its auction exactly when the lease can no longer be upgraded or extended. -/
theorem lapse_iff (hfresh : FreshNames s₀) (run : Run (NameStep env) s₀ tr s)
    (hget : s.records k = some r) (hkind : r.purchaseType = .lease)
    (hclock : fitsSigned 64 (clock + returnedNameDurationSeconds)) :
    (∃ s', pruneToReturned env clock k s = .ok s') ↔ ¬ LeaseOpen clock s.config r := by
  have hs := run_agrees hfresh run
  have hr := hs.records k r hget
  obtain ⟨endTs, hend, -⟩ : ∃ endTs, r.endTimestamp = some endTs ∧ fitsSigned 64 endTs := by
    have hterms := hr.terms
    rw [hkind] at hterms
    exact hterms
  have hopen : LeaseOpen clock s.config r ↔ clock ≤ endTs + gracePeriodSeconds := by
    unfold LeaseOpen
    rw [hs.grace, leaseOpen_iff hr hkind hend]
    exact and_iff_right hkind
  rw [hopen, Int.not_le]
  constructor
  · rintro ⟨s', h⟩
    obtain ⟨r', x, hended, hx⟩ := pruneToReturned_ok h
    obtain rfl := Option.some.inj (hget.symm.trans hx.was)
    obtain ⟨-, endTs', hend', hlate⟩ := endedBefore_iff.mp hended
    obtain rfl := Option.some.inj (hend.symm.trans hend')
    rwa [hs.grace, hr.fits_end hend] at hlate
  · intro hlate
    have hload : loadRecord env s k = .ok r := loadRecord_eq_ok.mpr ⟨hget, hr.nameHash, hr.bump⟩
    have hended : r.endedBefore clock (saturatingAddSigned 64 · s.config.gracePeriodSeconds) := by
      refine endedBefore_iff.mpr ⟨hkind, endTs, hend, ?_⟩
      rwa [hs.grace, hr.fits_end hend]
    have hfree : s.returnedNames k = none := hs.exclusive k (by rw [hget]; rfl)
    have hadd : checkedAddSigned 64 clock s.config.returnAuctionDurationSeconds
        = some (clock + returnedNameDurationSeconds) := by
      rw [hs.auction]
      exact checkedAddSigned_eq_some.mpr ⟨hclock, rfl⟩
    -- the registry lists a name, so it has its header
    have hlen : NameRegistry.headerBytes ≤ s.registry.dataLen := by
      obtain ⟨j, hj, -⟩ := (hs.listed.mem k).mp (by rw [hget]; rfl)
      have hcap := hs.listed.count_le
      unfold NameRegistry.slotCapacity at hcap
      omega
    simp only [pruneToReturned, hload, ok_bind, require_of hended]
    exact returnName_succeeds hfree hadd hlen

open SmallNames in
theorem lapse_iff_small : ∃ s', pruneToReturned world 1632745701 arioHash
    (now [lease, create]) = .ok s' := by
  have hclock : fitsSigned 64 (1632745701 + returnedNameDurationSeconds) := by decide
  have hlapsed := (lapse_iff fresh (run_now leased) leasedRecord rfl hclock).mpr
  exact hlapsed fun hopen => absurd hopen.2 (by decide +kernel)

end

end Arns
end ArioSolana
