import ArioSolana.AntSteps

/-!
# The calls, one by one

Each call's effect, from its own checks and writes.
-/

namespace ArioSolana
namespace Ant

open Checked Solana

section

variable {env : Env} {s s' s₁ : State} {x k q o : Pubkey} {a : Access} {c : AntConfig}
  {l : AntControllers} {hash : Bytes32} {index : ℕ}

/-! ### Lists -/

lemma AgreeOnAssets.trans {s₂ : State} (h : AgreeOnAssets s s₁) (h' : AgreeOnAssets s₁ s₂) :
    AgreeOnAssets s s₂ :=
  ⟨h'.assets.trans h.assets, h'.configs.trans h.configs, h'.controllers.trans h.controllers,
    h'.records.trans h.records, h'.metadata.trans h.metadata⟩

lemma addEntry_agree {user : Pubkey} {entry : AclEntry} (h : addEntry user index entry s = .ok s') :
    AgreeOnAssets s s' := by
  simp only [addEntry, bind_eq_ok, pure_eq_ok] at h
  obtain ⟨config, -, page, -, -, -, page', -, rfl⟩ := h
  exact ⟨rfl, rfl, rfl, rfl, rfl⟩

lemma removeEntry_agree {user : Pubkey} {entry : AclEntry}
    (h : removeEntry user index entry s = .ok s') : AgreeOnAssets s s' := by
  simp only [removeEntry, bind_eq_ok, pure_eq_ok] at h
  obtain ⟨config, -, page, -, -, -, page', -, rfl⟩ := h
  exact ⟨rfl, rfl, rfl, rfl, rfl⟩

/-! ### Checked strings -/

lemma isValidArweaveId_length {id : Text} (h : isValidArweaveId id = true) :
    id.length ≤ arweaveTxIdLength := by
  simp only [isValidArweaveId, Bool.and_eq_true, decide_eq_true_eq] at h
  exact h.1.le

lemma validateKeywords_limits {kws : List Text} (h : validateKeywords kws = true) :
    kws.length ≤ maxKeywords ∧ ∀ kw ∈ kws, kw.length ≤ maxKeywordLength := by
  simp only [validateKeywords, Bool.and_eq_true, decide_eq_true_eq, List.all_eq_true] at h
  refine ⟨h.1.1, fun kw hkw => ?_⟩
  have hvalid := h.1.2 kw hkw
  simp only [isValidKeyword, Bool.and_eq_true, decide_eq_true_eq] at hvalid
  exact hvalid.1.2

lemma ttl_limits {ttl : ℕ} (h : isValidTtl ttl = true) : ttl < 2 ^ 32 := by
  simp only [isValidTtl, Bool.and_eq_true, decide_eq_true_eq] at h
  exact h.2.trans_lt (by decide)

/-! ### Initialization -/

lemma initializeAnt_effect {params : InitializeAntParams}
    (h : initializeAnt env x k params s = .ok s') :
    Effect env x k (.initializeAnt params) s s' ∧ s.assets x = some k := by
  simp only [initializeAnt, readAssetOwner, bind_eq_ok, require_eq_ok, okOr_eq_ok, pure_eq_ok] at h
  obtain ⟨-, hconfig, -, hcontrollers, -, hrecord, o, ho, -, rfl, -, hname, -, hnameLen, u, hticker,
    -, htarget, -, hlogo, -, hdescription, -, hkeywords, rfl⟩ := h
  have htarget := validateTarget_limits htarget
  refine ⟨.ofParts rfl rfl rfl rfl (.inr (.inr ⟨_, rfl, ho⟩)) ?_ ?_ ?_ ?_, ho⟩
  · rintro q c l - hl - hq
    obtain rfl := Option.some.inj hl
    exact .inr (List.mem_singleton.mp hq).symm
  · rintro hash q r hr hq hlro
    by_cases hne : hash = hashUndername env (ascii "@")
    · subst hne
      simp only [State.setConfig, State.setControllers, Function.update_self] at hr
      obtain rfl := Option.some.inj hr
      cases hq
    · rw [Function.update_of_ne hne] at hr
      exact .inl ⟨r, hr, hq, hlro⟩
  · rintro - c hc
    obtain rfl := Option.some.inj hc
    refine ⟨hnameLen, ?_, ?_, ?_, ?_, ?_⟩
    · cases hp : params.ticker with
      | none => exact (by decide : (ascii "ANT").length ≤ maxTickerLength)
      | some t =>
        rw [hp, validateTicker, require_eq_ok] at hticker
        exact hticker.2
    · show (if params.logo = [] then defaultLogo else params.logo).length ≤ arweaveTxIdLength
      split
      · decide
      · rename_i hne
        exact isValidArweaveId_length (hlogo hne)
    · by_cases hnil : params.description = []
      · simp [hnil]
      · exact hdescription hnil
    · by_cases hnil : params.keywords = []
      · simp [hnil]
      · exact (validateKeywords_limits (hkeywords hnil)).1
    · intro kw hkw
      exact (validateKeywords_limits (hkeywords (List.ne_nil_of_mem hkw))).2 kw hkw
  · rintro hwell hash r hr
    by_cases hne : hash = hashUndername env (ascii "@")
    · subst hne
      simp only [State.setConfig, State.setControllers, Function.update_self] at hr
      obtain rfl := Option.some.inj hr
      refine ⟨⟨(by decide : (ascii "@").length ≤ maxUndernameLength), htarget.1, htarget.2,
        (by decide : defaultTtlSeconds < 2 ^ 32), ?_⟩, (by decide : ascii "@" ≠ []),
          .inl ⟨rfl, rfl⟩,
        fun _ => rfl⟩
      exact (by decide : ∀ p ∈ some 0, p < 2 ^ 32)
    · rw [Function.update_of_ne hne] at hr
      exact hwell hash r hr

/-! ### Records -/

/-- A record is opened as a new one by a manager, or as it is by one who has rights on it. -/
lemma openRecord_eq_ok {undername : Text} {record r : AntRecord} :
    openRecord env a x k undername record = .ok r ↔
      (record.undername = [] ∧ a.isOwnerOrController = true ∧ r = { record with
        mint := x
        undername
        lastReconciledOwner := a.config.lastKnownOwner
        bump := env.bump x undername
        version := currentVersion }) ∨
      (record.undername ≠ [] ∧ r = clearStale a.config record ∧
        (a.isOwnerOrController = true ∨ r.owner = some k)) := by
  unfold openRecord
  split
  · rename_i hnil
    simp only [bind_eq_ok, require_eq_ok, pure_eq_ok]
    constructor
    · rintro ⟨-, hm, rfl⟩
      exact .inl ⟨hnil, hm, rfl⟩
    · rintro (⟨-, hm, rfl⟩ | ⟨hne, -⟩)
      · exact ⟨(), hm, rfl⟩
      · exact absurd hnil hne
  · rename_i hne
    simp only [bind_eq_ok, require_eq_ok, pure_eq_ok]
    constructor
    · rintro ⟨-, hperm, rfl⟩
      exact .inr ⟨hne, rfl, hperm⟩
    · rintro (⟨hnil, -⟩ | ⟨-, rfl, hperm⟩)
      · exact absurd hnil hne
      · exact ⟨(), hperm, rfl⟩

lemma getD_emptyRecord {r : Option AntRecord} (h : (r.getD emptyRecord).undername ≠ []) :
    r = some (r.getD emptyRecord) := by
  cases r with
  | none => exact absurd rfl h
  | some r => rfl

lemma recordPriority_fits {u : Text} {priority old p : Option ℕ} {manages : Bool}
    (h : recordPriority u priority old manages = .ok p) (hnew : ∀ n ∈ priority, n < 2 ^ 32)
    (hold : ∀ n ∈ old, n < 2 ^ 32) : ∀ n ∈ p, n < 2 ^ 32 := by
  unfold recordPriority at h
  split at h
  · simp only [bind_eq_ok, pure_eq_ok] at h
    obtain ⟨-, -, rfl⟩ := h
    decide
  · split at h
    · simp only [bind_eq_ok, pure_eq_ok] at h
      obtain ⟨-, -, rfl⟩ := h
      exact hnew
    · simp only [pure_eq_ok] at h
      subst h
      exact hold

lemma recordPriority_of_not_manages {u : Text} {priority old p : Option ℕ}
    (h : recordPriority u priority old false = .ok p) (hroot : u = ascii "@" → old = some 0) :
    p = old := by
  unfold recordPriority at h
  split at h
  · rename_i hu
    simp only [bind_eq_ok, pure_eq_ok] at h
    obtain ⟨-, -, rfl⟩ := h
    exact (hroot hu).symm
  · split at h
    · simp only [bind_eq_ok, require_eq_ok] at h
      obtain ⟨-, hm, -⟩ := h
      cases hm
    · simp only [pure_eq_ok] at h
      exact h.symm

lemma recordPriority_root {priority old p : Option ℕ} {manages : Bool}
    (h : recordPriority (ascii "@") priority old manages = .ok p) : p = some 0 := by
  rw [recordPriority, if_pos rfl] at h
  simp only [bind_eq_ok, pure_eq_ok] at h
  obtain ⟨-, -, rfl⟩ := h
  rfl

/-- What `setRecord` writes. -/
structure SetRecordWrote (env : Env) (x k : Pubkey) (params : SetRecordParams) (s s' : State)
    (a : Access) (r : AntRecord) (p : Option ℕ) : Prop where
  undername : isValidUndername (env.toLowercase params.undername) = true
  target : validateTarget params.target params.targetProtocol = true
  ttl : isValidTtl params.ttlSeconds = true
  opened : openRecord env a x k (env.toLowercase params.undername)
    ((s.records x (hashUndername env params.undername)).getD emptyRecord) = .ok r
  priority : recordPriority (env.toLowercase params.undername) params.priority r.priority
    a.isOwnerOrController = .ok p
  wrote : s' = (s.setAccess x a).setRecord x (hashUndername env params.undername) (some { r with
    priority := p
    owner := if a.isOwnerOrController then params.recordOwner else r.owner
    target := params.target
    targetProtocol := params.targetProtocol
    ttlSeconds := params.ttlSeconds })

lemma setRecord_eq_ok {params : SetRecordParams} :
    setRecord env x k params s = .ok s' ↔ ∃ o c l a r p, Loaded s x k a o c l ∧
      SetRecordWrote env x k params s s' a r p := by
  simp only [setRecord, bind_eq_ok, require_eq_ok, loadAccess_eq_ok, pure_eq_ok]
  constructor
  · rintro ⟨-, hu, -, ht, -, hl, a, ⟨o, c, l, h⟩, r, hr, p, hp, rfl⟩
    exact ⟨o, c, l, a, r, p, h, hu, ht, hl, hr, hp, rfl⟩
  · rintro ⟨o, c, l, a, r, p, h, hu, ht, hl, hr, hp, rfl⟩
    exact ⟨(), hu, (), ht, (), hl, a, ⟨o, c, l, h⟩, r, hr, p, hp, rfl⟩

lemma SetRecordWrote.permitted {params : SetRecordParams} {r : AntRecord} {p : Option ℕ}
    (h : Loaded s x k a o c l) (hw : SetRecordWrote env x k params s s' a r p) :
    Manages s x k ∨ a.isOwnerOrController = false ∧ ∃ r₀,
      s.records x (hashUndername env params.undername) = some r₀ ∧ r₀.undername ≠ [] ∧ r = r₀ ∧
      r.owner = some k ∧ r.lastReconciledOwner = o := by
  cases hm : a.isOwnerOrController with
  | true => exact .inl (h.manages.mp hm)
  | false =>
    rcases openRecord_eq_ok.mp hw.opened with ⟨-, hm', -⟩ | ⟨hne, hr, hperm⟩
    · rw [hm] at hm'
      cases hm'
    · rw [hm] at hperm
      have hk : r.owner = some k := hperm.resolve_left (by decide)
      have hfresh := hk
      rw [hr, clearStale_owner_eq h.lastKnownOwner] at hfresh
      have hsame := clearStale_of_fresh (hfresh.2.trans h.lastKnownOwner.symm)
      refine .inr ⟨rfl, _, getD_emptyRecord hne, hne, hr.trans hsame, hk, ?_⟩
      rw [hr, hsame]
      exact hfresh.2

lemma setRecord_effect {params : SetRecordParams} (h : setRecord env x k params s = .ok s') :
    Effect env x k (.setRecord params) s s' := by
  obtain ⟨o, c, l, a, r, p, hload, hw⟩ := setRecord_eq_ok.mp h
  have hwrote := hw.wrote
  subst hwrote
  refine .ofLoaded hload rfl rfl rfl rfl rfl id (fun q hq => .inl hq) ?_ ?_
  · rintro hash q r' hr' hq hlro
    by_cases hne : hash = hashUndername env params.undername
    · subst hne
      rw [Function.update_self] at hr'
      obtain rfl := Option.some.inj hr'
      rcases hw.permitted hload with hm | ⟨hm, r₀, hr₀, -, rfl, -, ho⟩
      · rw [if_pos (hload.manages.mpr hm)] at hq
        exact .inr ⟨hm, rfl, hq⟩
      · rw [hm, if_neg (by decide)] at hq
        exact .inl ⟨r, hr₀, hq, by rw [hload.owner, ho]⟩
    · rw [Function.update_of_ne hne] at hr'
      exact .inl ⟨r', hr', hq, hlro⟩
  · rintro hwell hash r' hr'
    by_cases hne : hash = hashUndername env params.undername
    · subst hne
      rw [Function.update_self] at hr'
      obtain rfl := Option.some.inj hr'
      have hundername := isValidUndername_ne_nil hw.undername
      have htarget := validateTarget_limits hw.target
      have hroot : (∀ u, env.sha256 u = hashUndername env params.undername → u = ascii "@") →
          p = some 0 := by
        intro hu
        have hp := hw.priority
        rw [hu _ rfl] at hp
        exact recordPriority_root hp
      rcases openRecord_eq_ok.mp hw.opened with ⟨hnil, -, rfl⟩ | ⟨hne, rfl, -⟩
      · have hold : ∀ n ∈ ((s.records x (hashUndername env params.undername)).getD
            emptyRecord).priority, n < 2 ^ 32 := by
          cases hs : s.records x (hashUndername env params.undername) with
          | none => simp [emptyRecord]
          | some r₀ => exact (hwell _ _ hs).limits.priority
        refine ⟨⟨hundername.2, htarget.1, htarget.2, ttl_limits hw.ttl, ?_⟩, hundername.1,
          .inr ⟨_, rfl, rfl⟩, hroot⟩
        exact recordPriority_fits hw.priority params.priorityFits hold
      · have hr₀ := clearStale_wellFormed (c := a.config) (hwell _ _ (getD_emptyRecord hne))
        refine ⟨⟨hr₀.limits.undername, htarget.1, htarget.2, ttl_limits hw.ttl, ?_⟩,
          hr₀.undername, hr₀.place, hroot⟩
        exact recordPriority_fits hw.priority params.priorityFits hr₀.limits.priority
    · rw [Function.update_of_ne hne] at hr'
      exact hwell hash r' hr'

/-- The owner of a record, who does not manage the asset, changes its content only. -/
lemma setRecord_permission {params : SetRecordParams} (h : setRecord env x k params s = .ok s')
    (hwell : ∀ hash r, s.records x hash = some r → r.WellFormed env hash)
    (hroot : ∀ u, env.sha256 u = env.sha256 (ascii "@") → u = ascii "@") :
    Manages s x k ∨ OwnsRecord s x (hashUndername env params.undername) k ∧
      ∃ t, Reconciles x s t ∧ (Synced s x → t = s) ∧
        ∃ r, s.records x (hashUndername env params.undername) = some r ∧
          s' = t.setRecord x (hashUndername env params.undername) (some { r with
            target := params.target
            targetProtocol := params.targetProtocol
            ttlSeconds := params.ttlSeconds }) := by
  obtain ⟨o, c, l, a, r, p, hload, hw⟩ := setRecord_eq_ok.mp h
  refine (hw.permitted hload).imp_right ?_
  rintro ⟨hm, r₀, hr₀, -, rfl, hk, ho⟩
  have hp : p = r.priority := by
    have hpriority := hw.priority
    rw [hm] at hpriority
    refine recordPriority_of_not_manages hpriority fun hu => (hwell _ r hr₀).root fun u hhash => ?_
    rw [hashUndername, hu] at hhash
    exact hroot u hhash
  refine ⟨⟨r, hr₀, hk, by rw [hload.owner, ho]⟩, _, hload.reconciles, hload.unchanged_of_synced, r,
    hr₀, ?_⟩
  have hwrote := hw.wrote
  rwa [hm, hp] at hwrote

lemma transferRecord_eq_ok {newOwner : Pubkey} :
    transferRecord env x k hash newOwner s = .ok s' ↔ ∃ r o c l a, s.records x hash = some r ∧
      hash = hashUndername env r.undername ∧ Loaded s x k a o c l ∧
      (a.isOwnerOrController = true ∨ (clearStale a.config r).owner = some k) ∧
      (clearStale a.config r).owner ≠ some newOwner ∧
      s' = (s.setAccess x a).setRecord x hash
        (some { clearStale a.config r with owner := some newOwner }) := by
  simp only [transferRecord, loadRecord, bind_eq_ok, require_eq_ok, okOr_eq_ok, loadAccess_eq_ok,
    pure_eq_ok]
  constructor
  · rintro ⟨r, ⟨r', hr, -, hhash, rfl⟩, a, ⟨o, c, l, hload⟩, -, -, -, hperm, -, hself, rfl⟩
    exact ⟨r', o, c, l, a, hr, hhash, hload, hperm, hself, rfl⟩
  · rintro ⟨r, o, c, l, a, hr, hhash, hload, hperm, hself, rfl⟩
    refine ⟨r, ⟨r, hr, (), hhash, rfl⟩, a, ⟨o, c, l, hload⟩, (), ?_, (), hperm, (), hself, rfl⟩
    exact hperm.imp_right fun hk => by rw [hk, Option.isSome_some]

lemma transferRecord_effect {newOwner : Pubkey}
    (h : transferRecord env x k hash newOwner s = .ok s') :
    Effect env x k (.transferRecord hash newOwner) s s' := by
  obtain ⟨r, o, c, l, a, hr, -, hload, -, -, rfl⟩ := transferRecord_eq_ok.mp h
  refine .ofLoaded hload rfl rfl rfl rfl rfl id (fun q hq => .inl hq) ?_ ?_
  · rintro hash' q r' hr' hq hlro
    by_cases hne : hash' = hash
    · subst hne
      rw [Function.update_self] at hr'
      obtain rfl := Option.some.inj hr'
      exact .inr ⟨rfl, Option.some.inj hq⟩
    · rw [Function.update_of_ne hne] at hr'
      exact .inl ⟨r', hr', hq, hlro⟩
  · rintro hwell hash' r' hr'
    by_cases hne : hash' = hash
    · subst hne
      rw [Function.update_self] at hr'
      obtain rfl := Option.some.inj hr'
      have hr₀ := clearStale_wellFormed (c := a.config) (hwell _ _ hr)
      exact ⟨⟨hr₀.limits.undername, hr₀.limits.target, hr₀.limits.targetProtocol,
        hr₀.limits.ttlSeconds, hr₀.limits.priority⟩, hr₀.undername, hr₀.place, hr₀.root⟩
    · rw [Function.update_of_ne hne] at hr'
      exact hwell hash' r' hr'

/-- The owner of a record, who does not manage the asset, hands it on and changes nothing else. -/
lemma transferRecord_permission {newOwner : Pubkey}
    (h : transferRecord env x k hash newOwner s = .ok s') :
    Manages s x k ∨ OwnsRecord s x hash k ∧ ∃ t, Reconciles x s t ∧ (Synced s x → t = s) ∧
      ∃ r, s.records x hash = some r ∧
        s' = t.setRecord x hash (some { r with owner := some newOwner }) := by
  obtain ⟨r, o, c, l, a, hr, -, hload, hperm, -, rfl⟩ := transferRecord_eq_ok.mp h
  rcases hperm with hm | hk
  · exact .inl (hload.manages.mp hm)
  · obtain ⟨hq, ho⟩ := (clearStale_owner_eq hload.lastKnownOwner).mp hk
    refine .inr ⟨⟨r, hr, hq, by rw [hload.owner, ho]⟩, _, hload.reconciles,
      hload.unchanged_of_synced,
      r, hr, ?_⟩
    rw [clearStale_of_fresh (ho.trans hload.lastKnownOwner.symm)]

lemma removeRecord_effect {withMetadata : Bool}
    (h : removeRecord env x k hash withMetadata s = .ok s') :
    Effect env x k (.removeRecord hash withMetadata) s s' ∧ Manages s x k := by
  simp only [removeRecord, bind_eq_ok, require_eq_ok, loadAccess_eq_ok, pure_eq_ok] at h
  obtain ⟨r, -, -, -, -, -, a, ⟨o, c, l, hload⟩, -, hm, rfl⟩ := h
  refine ⟨?_, hload.manages.mp hm⟩
  have hparts : AgreeOnAssets ((s.setAccess x a).setRecord x hash none)
      { (if withMetadata then ((s.setAccess x a).setRecord x hash none).setMetadata x hash none
        else (s.setAccess x a).setRecord x hash none) with
        metadata := ((s.setAccess x a).setRecord x hash none).metadata } := by
    cases withMetadata <;> exact ⟨rfl, rfl, rfl, rfl, rfl⟩
  exact .ofLoaded hload hparts.assets hparts.configs hparts.controllers hparts.records rfl id
    (fun q hq => .inl hq) (OwnsRecord.ofClosed (s := s) hash) (wellFormed_closed hash)

/-! ### Controllers -/

lemma addController_effect {controller : Pubkey}
    (h : addController x k controller index s = .ok s') :
    Effect env x k (.addController controller index) s s' ∧ Manages s x k := by
  simp only [addController, bind_eq_ok, require_eq_ok, loadAccess_eq_ok] at h
  obtain ⟨a, ⟨o, c, l, hload⟩, -, hm, -, -, -, -, h⟩ := h
  have hagree := addEntry_agree h
  refine ⟨.ofLoaded hload hagree.assets hagree.configs hagree.controllers
    (hagree.records.trans (Function.update_eq_self _ _).symm) rfl id ?_
    (OwnsRecord.ofSame (s := s)) id,
    hload.manages.mp hm⟩
  intro q hq
  rcases List.mem_append.mp hq with hq | hq
  · exact .inl hq
  · exact .inr (List.mem_singleton.mp hq).symm

lemma removeController_effect {controller : Pubkey}
    (h : removeController x k controller index s = .ok s') :
    Effect env x k (.removeController controller index) s s' ∧ Manages s x k := by
  simp only [removeController, bind_eq_ok, require_eq_ok, loadAccess_eq_ok] at h
  obtain ⟨a, ⟨o, c, l, hload⟩, -, hm, -, -, h⟩ := h
  have hagree := removeEntry_agree h
  refine ⟨.ofLoaded hload hagree.assets hagree.configs hagree.controllers
    (hagree.records.trans (Function.update_eq_self _ _).symm) rfl id ?_
    (OwnsRecord.ofSame (s := s)) id,
    hload.manages.mp hm⟩
  exact fun q hq => .inl (List.mem_of_mem_erase hq)

/-! ### Metadata of an asset -/

lemma manageMetadata_effect {change : AntConfig → AntConfig} {call : AssetCall}
    (h : manageMetadata x k change s = .ok s')
    (hlko : ∀ c, (change c).lastKnownOwner = c.lastKnownOwner)
    (hlimits : ∀ c, c.WithinLimits → (change c).WithinLimits) :
    Effect env x k call s s' ∧ Manages s x k := by
  simp only [manageMetadata, bind_eq_ok, require_eq_ok, loadAccess_eq_ok, pure_eq_ok] at h
  obtain ⟨a, ⟨o, c, l, hload⟩, -, hm, rfl⟩ := h
  exact ⟨.ofLoaded hload rfl rfl rfl (Function.update_eq_self _ _).symm (hlko _) (hlimits _)
    (fun q hq => .inl hq) (OwnsRecord.ofSame (s := s)) id, hload.manages.mp hm⟩

lemma setName_effect {name : Text} (h : setName x k name s = .ok s') :
    Effect env x k (.setName name) s s' ∧ Manages s x k := by
  simp only [setName, bind_eq_ok, require_eq_ok] at h
  obtain ⟨-, -, -, hlen, h⟩ := h
  refine manageMetadata_effect h (fun _ => rfl) fun c hc => ?_
  exact ⟨hlen, hc.ticker, hc.logo, hc.description, hc.keywords, hc.keyword⟩

lemma setTicker_effect {ticker : Text} (h : setTicker x k ticker s = .ok s') :
    Effect env x k (.setTicker ticker) s s' ∧ Manages s x k := by
  simp only [setTicker, bind_eq_ok, require_eq_ok] at h
  obtain ⟨-, -, -, hlen, h⟩ := h
  refine manageMetadata_effect h (fun _ => rfl) fun c hc => ?_
  exact ⟨hc.name, hlen, hc.logo, hc.description, hc.keywords, hc.keyword⟩

lemma setDescription_effect {description : Text} (h : setDescription x k description s = .ok s') :
    Effect env x k (.setDescription description) s s' ∧ Manages s x k := by
  simp only [setDescription, bind_eq_ok, require_eq_ok] at h
  obtain ⟨-, hlen, h⟩ := h
  refine manageMetadata_effect h (fun _ => rfl) fun c hc => ?_
  exact ⟨hc.name, hc.ticker, hc.logo, hlen, hc.keywords, hc.keyword⟩

lemma setKeywords_effect {keywords : List Text} (h : setKeywords x k keywords s = .ok s') :
    Effect env x k (.setKeywords keywords) s s' ∧ Manages s x k := by
  simp only [setKeywords, bind_eq_ok, require_eq_ok] at h
  obtain ⟨-, hvalid, h⟩ := h
  have hkws := validateKeywords_limits hvalid
  refine manageMetadata_effect h (fun _ => rfl) fun c hc => ?_
  exact ⟨hc.name, hc.ticker, hc.logo, hc.description, hkws.1, hkws.2⟩

lemma setLogo_effect {logo : Text} (h : setLogo x k logo s = .ok s') :
    Effect env x k (.setLogo logo) s s' ∧ Manages s x k := by
  simp only [setLogo, bind_eq_ok, require_eq_ok] at h
  obtain ⟨-, hvalid, h⟩ := h
  refine manageMetadata_effect h (fun _ => rfl) fun c hc => ?_
  exact ⟨hc.name, hc.ticker, isValidArweaveId_length hvalid, hc.description, hc.keywords,
    hc.keyword⟩

/-! ### Ownership -/

lemma transfer_eq {newOwner : Pubkey} {i j : ℕ} (h : transfer x k newOwner i j s = .ok s') :
    s.assets x = some k ∧ s'.assets = Function.update s.assets x (some newOwner) ∧
    (∃ c : AntConfig, s.configs x = some c ∧ s'.configs =
      Function.update s.configs x (some { c with lastKnownOwner := newOwner })) ∧
    (∃ l : AntControllers,
      s'.controllers = Function.update s.controllers x (some { l with controllers := [] })) ∧
    s'.records = s.records := by
  simp only [transfer, readAssetOwner, bind_eq_ok, require_eq_ok, okOr_eq_ok] at h
  obtain ⟨c, hc, l, -, o, ho, -, rfl, -, -, s₁, h₁, h₂⟩ := h
  have hagree := (addEntry_agree h₁).trans (removeEntry_agree h₂)
  exact ⟨ho, hagree.assets, ⟨c, hc, hagree.configs⟩, ⟨l, hagree.controllers⟩, hagree.records⟩

lemma transfer_effect {newOwner : Pubkey} {i j : ℕ} (h : transfer x k newOwner i j s = .ok s') :
    Effect env x k (.transfer newOwner i j) s s' ∧ s.assets x = some k := by
  obtain ⟨ho, hassets, ⟨c, hc, hconfigs⟩, ⟨l, hcontrollers⟩, hrecords⟩ := transfer_eq h
  have hcx : s'.configs x = some { c with lastKnownOwner := newOwner } := by
    rw [hconfigs, Function.update_self]
  have hnone : ∀ q, ¬ControllerInForce s' x q := by
    rintro q ⟨c', l', -, hl', -, hq⟩
    rw [hcontrollers, Function.update_self] at hl'
    obtain rfl := Option.some.inj hl'
    exact absurd hq List.not_mem_nil
  refine ⟨⟨fun y hy => ?_, .inr ⟨⟨newOwner, i, j, rfl⟩, ho, hnone, by rw [hrecords]⟩, ?_,
    fun _ q hq => absurd hq (hnone q), ?_, ?_, ?_⟩, ho⟩
  · rw [hassets, hconfigs, hcontrollers, hrecords, Function.update_of_ne hy,
      Function.update_of_ne hy, Function.update_of_ne hy]
    exact ⟨rfl, rfl, rfl, rfl⟩
  · exact .inr (.inr ⟨_, hcx, by rw [hassets, Function.update_self]⟩)
  · rintro hsame hash q ⟨r, hr, hq, hlro⟩
    rw [hrecords] at hr
    rw [hsame] at hlro
    exact .inl ⟨r, hr, hq, hlro⟩
  · rintro hlimits c' hc'
    obtain rfl := Option.some.inj (hcx.symm.trans hc')
    exact (hlimits c hc).reconciled
  · rw [hrecords]
    exact id

lemma reconcile_eq (h : reconcile x s = .ok s') : ∃ o c l, s.assets x = some o ∧
    s.configs x = some c ∧ s.controllers x = some l ∧
    (c.lastKnownOwner = o ∧ s' = s ∨ c.lastKnownOwner ≠ o ∧
      s' = (s.setConfig x (some { c with lastKnownOwner := o })).setControllers x
        (some { l with controllers := [] })) := by
  simp only [reconcile, readAssetOwner, bind_eq_ok, okOr_eq_ok, pure_eq_ok] at h
  obtain ⟨c, hc, l, hl, o, ho, h⟩ := h
  refine ⟨o, c, l, ho, hc, hl, ?_⟩
  by_cases hlko : c.lastKnownOwner = o
  · rw [if_neg (by simpa using hlko)] at h
    exact .inl ⟨hlko, h.symm⟩
  · rw [if_pos hlko] at h
    exact .inr ⟨hlko, h.symm⟩

lemma reconcile_effect (h : reconcile x s = .ok s') : Effect env x k .reconcile s s' := by
  obtain ⟨o, c, l, ho, hc, hl, ⟨hlko, rfl⟩ | ⟨hlko, rfl⟩⟩ := reconcile_eq h
  · refine .ofParts rfl (Function.update_eq_self _ _).symm (Function.update_eq_self _ _).symm
      (Function.update_eq_self _ _).symm (.inl rfl) ?_ OwnsRecord.ofSame id id
    exact fun q c₁ l₁ hc₁ hl₁ ho₁ hq => .inl ⟨c₁, l₁, hc₁, hl₁, ho₁, hq⟩
  · refine .ofParts rfl rfl rfl (Function.update_eq_self _ _).symm (.inr (.inr ⟨_, rfl, ho⟩)) ?_
      (OwnsRecord.ofSame (s := s)) ?_ id
    · rintro q c₁ l₁ - hl₁ - hq
      obtain rfl := Option.some.inj hl₁
      exact absurd hq List.not_mem_nil
    · rintro hlimits c₁ hc₁
      obtain rfl := Option.some.inj hc₁
      exact (hlimits c hc).reconciled

/-! ### Metadata of a record -/

lemma setRecordMetadata_effect {params : SetRecordMetadataParams}
    (h : setRecordMetadata env x k params s = .ok s') :
    Effect env x k (.setRecordMetadata params) s s' ∧
      (Manages s x k ∨ OwnsRecord s x (hashUndername env params.undername) k ∧
        ∃ t, Reconciles x s t ∧ (Synced s x → t = s) ∧
          ∃ m, s' = t.setMetadata x (hashUndername env params.undername) (some m)) := by
  simp only [setRecordMetadata, bind_eq_ok, require_eq_ok, okOr_eq_ok, loadAccess_eq_ok,
    pure_eq_ok] at h
  obtain ⟨r, hr, -, -, -, -, -, -, -, -, -, -, a, ⟨o, c, l, hload⟩, -, -, -, hperm, rfl⟩ := h
  refine ⟨.ofLoaded hload rfl rfl rfl (Function.update_eq_self _ _).symm rfl id
    (fun q hq => .inl hq) (OwnsRecord.ofSame (s := s)) id, ?_⟩
  rcases hperm with hm | ⟨hlro, hk⟩
  · exact .inl (hload.manages.mp hm)
  · rw [hload.lastKnownOwner] at hlro
    exact .inr ⟨⟨r, hr, hk, by rw [hload.owner, hlro]⟩, _, hload.reconciles,
      hload.unchanged_of_synced,
      _, rfl⟩

lemma removeRecordMetadata_effect {undername : Text}
    (h : removeRecordMetadata env x k undername s = .ok s') :
    Effect env x k (.removeRecordMetadata undername) s s' ∧ Manages s x k := by
  simp only [removeRecordMetadata, bind_eq_ok, require_eq_ok, loadAccess_eq_ok, pure_eq_ok] at h
  obtain ⟨-, -, -, -, a, ⟨o, c, l, hload⟩, -, hm, rfl⟩ := h
  exact ⟨.ofLoaded hload rfl rfl rfl (Function.update_eq_self _ _).symm rfl id
    (fun q hq => .inl hq) (OwnsRecord.ofSame (s := s)) id, hload.manages.mp hm⟩

lemma closeOrphanedRecordMetadata_eq {undername : Text}
    (h : closeOrphanedRecordMetadata env x undername s = .ok s') : ∃ hash,
      s.records x hash = none ∧ s' = s.setMetadata x hash none := by
  simp only [closeOrphanedRecordMetadata, bind_eq_ok, require_eq_ok, pure_eq_ok] at h
  obtain ⟨o, -, -, -, -, -, -, hnone, rfl⟩ := h
  exact ⟨_, Option.isNone_iff_eq_none.mp hnone, rfl⟩

/-! ### Closing accounts -/

lemma Effect.ofClosing {call : AssetCall} (hassets : s'.assets = s.assets)
    (hconfigs : s'.configs = s.configs ∨ s'.configs = Function.update s.configs x none)
    (hcontrollers : s'.controllers = s.controllers ∨
      s'.controllers = Function.update s.controllers x none)
    (hrecords : s'.records = s.records ∨ ∃ closed, s'.records =
      Function.update s.records x (Function.update (s.records x) closed none)) :
    Effect env x k call s s' := by
  obtain ⟨newConfig, hc, hc'⟩ : ∃ newConfig, s'.configs = Function.update s.configs x newConfig ∧
      (newConfig = s.configs x ∨ newConfig = none) := by
    rcases hconfigs with h | h
    · exact ⟨s.configs x, by rw [h, Function.update_eq_self], .inl rfl⟩
    · exact ⟨none, h, .inr rfl⟩
  obtain ⟨newControllers, hl, hl'⟩ : ∃ newControllers, s'.controllers =
      Function.update s.controllers x newControllers ∧
      (newControllers = s.controllers x ∨ newControllers = none) := by
    rcases hcontrollers with h | h
    · exact ⟨s.controllers x, by rw [h, Function.update_eq_self], .inl rfl⟩
    · exact ⟨none, h, .inr rfl⟩
  obtain ⟨newRecords, hr, hr'⟩ : ∃ newRecords, s'.records =
      Function.update s.records x newRecords ∧ ∀ hash r, newRecords hash = some r →
        s.records x hash = some r := by
    rcases hrecords with h | ⟨closed, h⟩
    · exact ⟨s.records x, by rw [h, Function.update_eq_self], fun _ _ => id⟩
    · refine ⟨_, h, fun hash r hr => ?_⟩
      by_cases hne : hash = closed
      · rw [hne, Function.update_self] at hr
        cases hr
      · rwa [Function.update_of_ne hne] at hr
  refine .ofParts hassets hc hl hr (hc'.imp_right .inl) ?_ ?_ ?_ ?_
  · intro q c l hcs hls ho hq
    rcases hc' with rfl | rfl
    · rcases hl' with rfl | rfl
      · exact .inl ⟨c, l, hcs, hls, ho, hq⟩
      · cases hls
    · cases hcs
  · exact fun hash q r hrs hq ho => .inl ⟨r, hr' hash r hrs, hq, ho⟩
  · intro hlimits c hcs
    rcases hc' with rfl | rfl
    · exact hlimits c hcs
    · cases hcs
  · exact fun hwell hash r hrs => hwell hash r (hr' hash r hrs)

lemma requireHolder_eq_ok : requireHolder x k s = .ok () ↔ s.assets x = some k := by
  simp only [requireHolder, readAssetOwner, bind_eq_ok, okOr_eq_ok, require_eq_ok]
  constructor
  · rintro ⟨o, ho, rfl⟩
    exact ho
  · exact fun ho => ⟨k, ho, rfl⟩

lemma closeAntRecord_effect {undername : Text} (h : closeAntRecord env x k undername s = .ok s') :
    Effect env x k (.closeAntRecord undername) s s' ∧ s.assets x = some k := by
  simp only [closeAntRecord, bind_eq_ok, require_eq_ok, pure_eq_ok] at h
  obtain ⟨-, -, u, hk, rfl⟩ := h
  exact ⟨.ofClosing rfl (.inl rfl) (.inl rfl) (.inr ⟨_, rfl⟩), requireHolder_eq_ok.mp hk⟩

lemma closeAntRecordMetadataForOwner_effect {undername : Text}
    (h : closeAntRecordMetadataForOwner env x k undername s = .ok s') :
    Effect env x k (.closeAntRecordMetadataForOwner undername) s s' ∧ s.assets x = some k := by
  simp only [closeAntRecordMetadataForOwner, bind_eq_ok, require_eq_ok, pure_eq_ok] at h
  obtain ⟨-, -, u, hk, rfl⟩ := h
  exact ⟨.ofClosing rfl (.inl rfl) (.inl rfl) (.inl rfl), requireHolder_eq_ok.mp hk⟩

lemma closeAntControllers_effect (h : closeAntControllers x k s = .ok s') :
    Effect env x k .closeAntControllers s s' ∧ s.assets x = some k := by
  simp only [closeAntControllers, bind_eq_ok, require_eq_ok, pure_eq_ok] at h
  obtain ⟨-, -, u, hk, rfl⟩ := h
  exact ⟨.ofClosing rfl (.inl rfl) (.inr rfl) (.inl rfl), requireHolder_eq_ok.mp hk⟩

lemma closeAntConfig_effect (h : closeAntConfig x k s = .ok s') :
    Effect env x k .closeAntConfig s s' ∧ s.assets x = some k := by
  simp only [closeAntConfig, bind_eq_ok, require_eq_ok, pure_eq_ok] at h
  obtain ⟨-, -, u, hk, rfl⟩ := h
  exact ⟨.ofClosing rfl (.inr rfl) (.inl rfl) (.inl rfl), requireHolder_eq_ok.mp hk⟩

/-! ### All calls -/

/-- **The effect of a call**, whatever the call. -/
theorem handler_effect {call : AssetCall} (h : call.handler env x k s = .ok s') :
    Effect env x k call s s' := by
  cases call with
  | initializeAnt params => exact (initializeAnt_effect h).1
  | setRecord params => exact setRecord_effect h
  | removeRecord hash withMetadata => exact (removeRecord_effect h).1
  | transferRecord hash newOwner => exact transferRecord_effect h
  | addController controller index => exact (addController_effect h).1
  | removeController controller index => exact (removeController_effect h).1
  | setName name => exact (setName_effect h).1
  | setTicker ticker => exact (setTicker_effect h).1
  | setDescription description => exact (setDescription_effect h).1
  | setKeywords keywords => exact (setKeywords_effect h).1
  | setLogo logo => exact (setLogo_effect h).1
  | transfer newOwner i j => exact (transfer_effect h).1
  | reconcile => exact reconcile_effect h
  | setRecordMetadata params => exact (setRecordMetadata_effect h).1
  | removeRecordMetadata undername => exact (removeRecordMetadata_effect h).1
  | closeOrphanedRecordMetadata undername =>
    obtain ⟨hash, -, rfl⟩ := closeOrphanedRecordMetadata_eq h
    exact .ofClosing rfl (.inl rfl) (.inl rfl) (.inl rfl)
  | closeAntRecord undername => exact (closeAntRecord_effect h).1
  | closeAntRecordMetadataForOwner undername => exact (closeAntRecordMetadataForOwner_effect h).1
  | closeAntControllers => exact (closeAntControllers_effect h).1
  | closeAntConfig => exact (closeAntConfig_effect h).1

end

end Ant
end ArioSolana
