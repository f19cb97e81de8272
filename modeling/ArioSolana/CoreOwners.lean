import ArioSolana.CoreFormats
import ArioSolana.AntAuthority

/-!
# The core program grants what the name program would

The name program judges a record's owner by clearing the record first, if it was last touched under
another owner of the asset. The core program only reads, and compares the two owners itself. Both
come to the same answer, touched or not, as long as the accounts are there that a call on the
record needs.
-/

namespace ArioSolana
namespace Core

open Checked Solana Borsh
open Ant (AntConfig AntRecord AntStep State Trace Fresh Manages SetRecordParams clearStale
  hashUndername)

/-- The test that the name program puts to one who does not manage the asset. -/
def acceptsRecordOwner (c : AntConfig) (r : AntRecord) (k : Pubkey) : Prop :=
  (clearStale c r).owner = some k

/-- A call that writes the content of the record under a hash, and asks for nothing else. -/
structure WritesRecord (env : Ant.Env) (hash : Bytes32) (params : SetRecordParams) : Prop where
  hash : hashUndername env params.undername = hash
  undername : Ant.isValidUndername (env.toLowercase params.undername) = true
  target : Ant.validateTarget params.target params.targetProtocol = true
  ttl : Ant.isValidTtl params.ttlSeconds = true
  priority : params.priority = none

/-- What the core program reads is what the name program would grant. -/
structure GrantsAlike (env : ReadEnv) (s : State) (x : Pubkey) (hash : Bytes32) (c : AntConfig)
    (r : AntRecord) (o : Pubkey) : Prop where
  reads : ∀ undername config record, hashUndername env.toEnv undername = hash →
    Holds env config (antConfigPda env x) "AntConfig" c.encode →
    Holds env record (antRecordPda env x undername) "AntRecord" r.encode ∨
      Holds env record (antRecordPda env x undername) "AntRecord" (clearStale c r).encode →
    readAntRecordOwner env record config x undername env.antProgramId = .ok (effectiveOwner c r)
  accepted : ∀ k, acceptsRecordOwner c r k → r.owner = some k ∧ effectiveOwner c r = k
  otherwise : (∀ k, ¬acceptsRecordOwner c r k) → effectiveOwner c r = o
  setRecord : ∀ k params, WritesRecord env.toEnv hash params →
    ((∃ s', Ant.setRecord env.toEnv x k params s = .ok s') ↔
      Manages s x k ∨ acceptsRecordOwner c r k)
  transferRecord : ∀ k newOwner, (clearStale c r).owner ≠ some newOwner →
    ((∃ s', Ant.transferRecord env.toEnv x k hash newOwner s = .ok s') ↔
      Manages s x k ∨ acceptsRecordOwner c r k)

section

variable {env : ReadEnv} {c : AntConfig} {r : AntRecord} {o k x : Pubkey} {s s₀ : State}
    {tr : Trace}
  {hash : Bytes32}

lemma clearStale_owner_of_stale (h : r.lastReconciledOwner ≠ c.lastKnownOwner) :
    (clearStale c r).owner = none := by
  rw [clearStale, if_pos h]

/-- The effective owner is read off the record as the name program would leave it. -/
lemma effectiveOwner_eq : effectiveOwner c r = (clearStale c r).owner.getD c.lastKnownOwner := by
  by_cases h : r.lastReconciledOwner = c.lastKnownOwner
  · rw [Ant.clearStale_of_fresh h, effectiveOwner, if_neg (by simpa using h)]
  · rw [clearStale_owner_of_stale h, effectiveOwner, if_pos h, Option.getD_none]

lemma clearStale_idem : clearStale c (clearStale c r) = clearStale c r :=
  Ant.clearStale_of_fresh Ant.clearStale_lastReconciledOwner

/-- **Touching a record does not change who may act for it.** -/
theorem effectiveOwner_clearStale : effectiveOwner c (clearStale c r) = effectiveOwner c r := by
  rw [effectiveOwner_eq, clearStale_idem, ← effectiveOwner_eq]

lemma acceptsRecordOwner_owner (h : acceptsRecordOwner c r k) : r.owner = some k := by
  by_cases hfresh : r.lastReconciledOwner = c.lastKnownOwner
  · rwa [acceptsRecordOwner, Ant.clearStale_of_fresh hfresh] at h
  · rw [acceptsRecordOwner, clearStale_owner_of_stale hfresh] at h
    cases h

/-- The name program writes a record for those who manage the asset and for its owner. -/
lemma setRecord_succeeds_iff {l : Ant.AntControllers} {params : SetRecordParams}
    (hc : s.configs x = some c) (hl : s.controllers x = some l) (ho : s.assets x = some o)
    (hlko : c.lastKnownOwner = o) (hr : s.records x hash = some r)
    (hwell : r.WellFormed env.toEnv hash) (hw : WritesRecord env.toEnv hash params) :
    (∃ s', Ant.setRecord env.toEnv x k params s = .ok s') ↔
      Manages s x k ∨ acceptsRecordOwner c r k := by
  obtain ⟨hhash, hundername, htarget, httl, hpriority⟩ := hw
  have hload : Ant.Loaded s x k (Ant.reconcileAndCheckPermission c l o k) o c l :=
    ⟨ho, hc, hl, rfl⟩
  have hconfig : (Ant.reconcileAndCheckPermission c l o k).config = c := by
    rw [hload.config_eq, ← hlko]
  have hget : (s.records x (hashUndername env.toEnv params.undername)).getD Ant.emptyRecord =
      r := by
    rw [hhash, hr, Option.getD_some]
  have hopen : ∀ r', Ant.openRecord env.toEnv (Ant.reconcileAndCheckPermission c l o k) x k
      (env.toLowercase params.undername) r = .ok r' ↔ r' = clearStale c r ∧
        (Manages s x k ∨ acceptsRecordOwner c r k) := by
    intro r'
    rw [Ant.openRecord_eq_ok, hconfig, hload.manages]
    constructor
    · rintro (⟨hnil, -⟩ | ⟨-, rfl, hperm⟩)
      · exact absurd hnil hwell.undername
      · exact ⟨rfl, hperm⟩
    · rintro ⟨rfl, hperm⟩
      exact .inr ⟨hwell.undername, rfl, hperm⟩
  constructor
  · rintro ⟨s', h⟩
    obtain ⟨o', c', l', a, r', p, hload', hwrote⟩ := Ant.setRecord_eq_ok.mp h
    obtain rfl := Option.some.inj (ho.symm.trans hload'.owner)
    obtain rfl := Option.some.inj (hc.symm.trans hload'.config)
    obtain rfl := Option.some.inj (hl.symm.trans hload'.controllers)
    have hopened := hwrote.opened
    rw [hget, hload'.reconciled] at hopened
    exact ((hopen r').mp hopened).2
  · intro hperm
    obtain ⟨p, hp⟩ : ∃ p, Ant.recordPriority (env.toLowercase params.undername) params.priority
        (clearStale c r).priority (Ant.reconcileAndCheckPermission c l o k).isOwnerOrController
          = .ok p := by
      rw [hpriority, Ant.recordPriority]
      split
      · exact ⟨some 0, rfl⟩
      · exact ⟨_, rfl⟩
    refine ⟨_, Ant.setRecord_eq_ok.mpr ⟨o, c, l, _, clearStale c r, p, hload, hundername, htarget,
      httl, ?_, hp, rfl⟩⟩
    rw [hget]
    exact (hopen _).mpr ⟨rfl, hperm⟩

lemma transferRecord_succeeds_iff {l : Ant.AntControllers} {newOwner : Pubkey}
    (hc : s.configs x = some c) (hl : s.controllers x = some l) (ho : s.assets x = some o)
    (hlko : c.lastKnownOwner = o) (hr : s.records x hash = some r)
    (hhash : hash = hashUndername env.toEnv r.undername)
    (hne : (clearStale c r).owner ≠ some newOwner) :
    (∃ s', Ant.transferRecord env.toEnv x k hash newOwner s = .ok s') ↔
      Manages s x k ∨ acceptsRecordOwner c r k := by
  have hload : Ant.Loaded s x k (Ant.reconcileAndCheckPermission c l o k) o c l :=
    ⟨ho, hc, hl, rfl⟩
  have hconfig : (Ant.reconcileAndCheckPermission c l o k).config = c := by
    rw [hload.config_eq, ← hlko]
  constructor
  · rintro ⟨s', h⟩
    obtain ⟨r', o', c', l', a, hr', -, hload', hperm, -, -⟩ := Ant.transferRecord_eq_ok.mp h
    obtain rfl := Option.some.inj (hr.symm.trans hr')
    obtain rfl := Option.some.inj (ho.symm.trans hload'.owner)
    obtain rfl := Option.some.inj (hc.symm.trans hload'.config)
    obtain rfl := Option.some.inj (hl.symm.trans hload'.controllers)
    rw [hload'.manages, hload'.reconciled, hconfig] at hperm
    exact hperm
  · intro hperm
    refine ⟨_, Ant.transferRecord_eq_ok.mpr ⟨r, o, c, l, _, hr, hhash, hload, ?_, ?_, rfl⟩⟩
    · rw [hload.manages, hconfig]
      exact hperm
    · rw [hconfig]
      exact hne

lemma wellFormed_hash {env : Ant.Env}
    (hlower : ∀ u, env.toLowercase (env.toLowercase u) = env.toLowercase u)
    (h : r.WellFormed env hash) : hash = hashUndername env r.undername := by
  rcases h.place with ⟨hroot, hhash⟩ | ⟨u, hu, hhash⟩
  · rw [hhash, hroot]
  · rw [hhash, hu, hashUndername, hashUndername, hlower]

/-- **The core program grants exactly what the name program would.** -/
theorem core_grants_as_ant (hlower : ∀ u, env.toLowercase (env.toLowercase u) = env.toLowercase u)
    (run : Run (AntStep env.toEnv) s₀ tr s) (hs : Fresh s₀) (hc : s.configs x = some c)
    (hr : s.records x hash = some r) (hopen : (s.controllers x).isSome)
    (ho : s.assets x = some o) (hlko : c.lastKnownOwner = o) :
    GrantsAlike env s x hash c r o := by
  obtain ⟨hlimits, hwells⟩ := Ant.wellFormed_reachable run hs x
  obtain ⟨l, hl⟩ := Option.isSome_iff_exists.mp hopen
  have hwell := hwells hash r hr
  refine ⟨?_, ?_, ?_, ?_, ?_⟩
  · rintro undername config record - hconfig (hrecord | hrecord)
    · exact readAntRecordOwner_encode (hlimits c hc) hwell.limits hconfig hrecord
    · rw [← effectiveOwner_clearStale]
      exact readAntRecordOwner_encode (hlimits c hc) (Ant.clearStale_wellFormed hwell).limits
        hconfig
        hrecord
  · intro k hk
    refine ⟨acceptsRecordOwner_owner hk, ?_⟩
    rw [effectiveOwner_eq, hk, Option.getD_some]
  · intro hnone
    have howner : (clearStale c r).owner = none := by
      cases hcases : (clearStale c r).owner with
      | none => rfl
      | some k => exact absurd hcases (hnone k)
    rw [effectiveOwner_eq, howner, Option.getD_none, hlko]
  · exact fun k params hw => setRecord_succeeds_iff hc hl ho hlko hr hwell hw
  · exact fun k newOwner hne =>
      transferRecord_succeeds_iff hc hl ho hlko hr (wellFormed_hash hlower hwell) hne

end

/-! ### A small history -/

namespace SmallReader

open Ant.Small

/-- The surroundings of a small history, with all accounts at one address. -/
def env : ReadEnv where
  toEnv := Ant.Small.env
  findProgramAddress := fun _ _ => .default
  antProgramId := ⟨77⟩

/-- The owner of the asset closes the list of controllers. -/
def closedScript :
    Script := ⟨.assetCall asset alice .closeAntControllers :: granted, by decide +kernel⟩

/-- The account that holds an encoding. -/
def account (name : String) (encoded : List UInt8) : AccountInfo :=
  ⟨.default, env.antProgramId, accountData env name encoded []⟩

lemma account_holds (name : String) (encoded : List UInt8) :
    Holds env (account name encoded) .default name encoded := ⟨rfl, rfl, [], rfl⟩

/-- The hash of the undername that Alice gave to Carol. -/
def undernameHash : Bytes32 := hashUndername Ant.Small.env (ascii "a")

end SmallReader

open Ant.Small SmallReader in
/-- The accounts are open: Carol is the owner of the record for both programs. -/
theorem core_grants_as_ant_small : ∃ c r, r.owner = some carol ∧
    GrantsAlike SmallReader.env (after granted) asset undernameHash c r alice := by
  have hlko : ((after granted).configs asset).map (·.lastKnownOwner) = some alice := by
    decide +kernel
  have howner : ((after granted).records asset undernameHash).map (·.owner) = some
      (some carol) := by
    decide +kernel
  obtain ⟨c, hc, hlko⟩ := Option.map_eq_some_iff.mp hlko
  obtain ⟨r, hr, howner⟩ := Option.map_eq_some_iff.mp howner
  exact ⟨c, r, howner, core_grants_as_ant (fun _ => rfl) grantedScript.run
    start_fresh hc hr (by decide +kernel) (by decide +kernel) hlko⟩

open Ant.Small SmallReader in
/-- The controllers are closed: the core program still reads that Carol may act, and no call on the
record gets through. -/
theorem core_grants_after_close : ∃ tr s c r, Fresh start ∧
    Run (AntStep SmallReader.env.toEnv) start tr s ∧ s.configs asset = some c ∧
    s.records asset undernameHash = some r ∧ s.assets asset = some alice ∧
    c.lastKnownOwner = alice ∧ r.owner = some carol ∧
    readAntRecordOwner SmallReader.env (account "AntRecord" r.encode)
      (account "AntConfig" c.encode) asset (ascii "a") SmallReader.env.antProgramId = .ok carol ∧
    (∀ params s', Ant.setRecord SmallReader.env.toEnv asset carol params s ≠ .ok s') ∧
    ∀ newOwner s', Ant.transferRecord SmallReader.env.toEnv asset carol undernameHash newOwner s
      ≠ .ok s' := by
  have hlko : ((after closedScript.events).configs asset).map (·.lastKnownOwner) = some alice := by
    decide +kernel
  have howners : ((after closedScript.events).records asset undernameHash).map
      (fun r => (r.owner, r.lastReconciledOwner)) = some (some carol, alice) := by
    decide +kernel
  have hclosed : ((after closedScript.events).controllers asset).isNone = true := by decide +kernel
  obtain ⟨c, hc, hlko⟩ := Option.map_eq_some_iff.mp hlko
  obtain ⟨r, hr, howners⟩ := Option.map_eq_some_iff.mp howners
  obtain ⟨howner, hlro⟩ := Prod.mk.inj howners
  obtain ⟨hlimits, hwells⟩ := Ant.wellFormed_reachable closedScript.run start_fresh asset
  have hread : readAntRecordOwner SmallReader.env (account "AntRecord" r.encode)
      (account "AntConfig" c.encode) asset (ascii "a") SmallReader.env.antProgramId =
        .ok (effectiveOwner c r) :=
    readAntRecordOwner_encode (hlimits c hc) (hwells _ r hr).limits (account_holds _ _)
      (account_holds _ _)
  have heffective : effectiveOwner c r = carol := by
    rw [effectiveOwner, if_neg (by rw [hlro, hlko]; simp), howner, Option.getD_some]
  rw [heffective] at hread
  refine ⟨_, _, c, r, start_fresh, closedScript.run, hc, hr, by decide +kernel, hlko, howner, hread,
    ?_, ?_⟩
  · intro params s' h
    obtain ⟨o, c', l, a, r', p, hload, -⟩ := Ant.setRecord_eq_ok.mp h
    rw [Option.isNone_iff_eq_none, hload.controllers] at hclosed
    cases hclosed
  · intro newOwner s' h
    obtain ⟨r', o, c', l, a, -, -, hload, -⟩ := Ant.transferRecord_eq_ok.mp h
    rw [Option.isNone_iff_eq_none, hload.controllers] at hclosed
    cases hclosed

end Core
end ArioSolana
