import ArioSolana.AntProgram

/-!
# What a call on an asset does

Each call is taken apart once. What the later modules need is collected in `Effect`: the owner of
the asset changes in a transfer only, a configuration that is written carries the owner, and
whoever has a say after the call had it before or got it by the call.
-/

namespace ArioSolana
namespace Ant

open Checked Solana

/-! ### Who has a say -/

/-- A controller on the list of an asset whose owner is the last known one. -/
def ControllerInForce (s : State) (asset q : Pubkey) : Prop :=
  ∃ c l, s.configs asset = some c ∧ s.controllers asset = some l ∧
    s.assets asset = some c.lastKnownOwner ∧ q ∈ l.controllers

/-- The owner of the asset, or a controller in force. -/
def Manages (s : State) (asset k : Pubkey) : Prop :=
  s.assets asset = some k ∨ ControllerInForce s asset k

/-- The owner of a record that was last touched under the present owner of the asset. -/
def OwnsRecord (s : State) (asset : Pubkey) (hash : Bytes32) (q : Pubkey) : Prop :=
  ∃ r, s.records asset hash = some r ∧ r.owner = some q ∧
    s.assets asset = some r.lastReconciledOwner

/-- What the accounts of a managing call hold, and what follows for the caller. -/
structure Loaded (s : State) (asset caller : Pubkey) (access : Access) (o : Pubkey)
    (c : AntConfig) (l : AntControllers) : Prop where
  owner : s.assets asset = some o
  config : s.configs asset = some c
  controllers : s.controllers asset = some l
  reconciled : access = reconcileAndCheckPermission c l o caller

section

variable {env : Env} {s s' : State} {x k q o : Pubkey} {a : Access} {c : AntConfig}
  {l : AntControllers} {hash : Bytes32}

lemma loadAccess_eq_ok : loadAccess x k s = .ok a ↔ ∃ o c l, Loaded s x k a o c l := by
  simp only [loadAccess, readAssetOwner, bind_eq_ok, okOr_eq_ok, pure_eq_ok]
  constructor
  · rintro ⟨o, ho, c, hc, l, hl, rfl⟩
    exact ⟨o, c, l, ho, hc, hl, rfl⟩
  · rintro ⟨o, c, l, ho, hc, hl, rfl⟩
    exact ⟨o, ho, c, hc, l, hl, rfl⟩

namespace Loaded

lemma config_eq (h : Loaded s x k a o c l) : a.config = { c with lastKnownOwner := o } := by
  obtain ⟨-, -, -, rfl⟩ := h
  by_cases hlko : c.lastKnownOwner = o
  · subst hlko
    rw [reconcileAndCheckPermission, if_neg (by simp)]
  · rw [reconcileAndCheckPermission, if_pos hlko]

lemma lastKnownOwner (h : Loaded s x k a o c l) : a.config.lastKnownOwner = o := by
  rw [h.config_eq]

lemma controllerInForce (h : Loaded s x k a o c l) :
    q ∈ a.controllers.controllers ↔ ControllerInForce s x q := by
  obtain ⟨ho, hc, hl, rfl⟩ := h
  by_cases hlko : c.lastKnownOwner = o
  · subst hlko
    rw [reconcileAndCheckPermission, if_neg (by simp)]
    simp [ControllerInForce, ho, hc, hl]
  · rw [reconcileAndCheckPermission, if_pos hlko]
    refine ⟨fun hq => absurd hq List.not_mem_nil, ?_⟩
    rintro ⟨c', l', hc', -, ho', -⟩
    obtain rfl := Option.some.inj (hc.symm.trans hc')
    exact absurd (Option.some.inj (ho'.symm.trans ho)) hlko

lemma manages (h : Loaded s x k a o c l) : a.isOwnerOrController = true ↔ Manages s x k := by
  have hforce := h.controllerInForce (q := k)
  obtain ⟨ho, -, -, rfl⟩ := h
  rw [Manages, ho, ← hforce]
  by_cases hlko : c.lastKnownOwner = o
  · rw [reconcileAndCheckPermission, if_neg (by simpa using hlko)]
    simp [@eq_comm _ k o]
  · rw [reconcileAndCheckPermission, if_pos hlko]
    simp [@eq_comm _ k o]

lemma unchanged (h : Loaded s x k a o c l) (hsync : c.lastKnownOwner = o) :
    s.setAccess x a = s := by
  obtain ⟨-, hc, hl, rfl⟩ := h
  rw [reconcileAndCheckPermission, if_neg (by simpa using hsync)]
  simp only [State.setAccess, State.setConfig, State.setControllers]
  rw [← hc, ← hl, Function.update_eq_self, Function.update_eq_self]

end Loaded

/-- The last known owner is the owner. -/
def Synced (s : State) (x : Pubkey) : Prop :=
  ∀ c o, s.configs x = some c → s.assets x = some o → c.lastKnownOwner = o

/-- The controllers of a former owner are dropped, if they have not been. -/
def Reconciles (x : Pubkey) (s t : State) : Prop :=
  t = s ∨ ∃ o c l, s.assets x = some o ∧ s.configs x = some c ∧ s.controllers x = some l ∧
    c.lastKnownOwner ≠ o ∧
      t = (s.setConfig x (some { c with lastKnownOwner := o })).setControllers x
      (some { l with controllers := [] })

lemma Loaded.reconciles (h : Loaded s x k a o c l) : Reconciles x s (s.setAccess x a) := by
  by_cases hsync : c.lastKnownOwner = o
  · exact .inl (h.unchanged hsync)
  · obtain ⟨ho, hc, hl, rfl⟩ := h
    refine .inr ⟨o, c, l, ho, hc, hl, hsync, ?_⟩
    rw [reconcileAndCheckPermission, if_pos hsync, State.setAccess]

lemma Loaded.unchanged_of_synced (h : Loaded s x k a o c l) (hsync : Synced s x) :
    s.setAccess x a = s :=
  h.unchanged (hsync c o h.config h.owner)

/-! ### Records -/

/-- What is known of a record that the program keeps under a hash. -/
structure AntRecord.WellFormed (env : Env) (hash : Bytes32) (r : AntRecord) : Prop where
  limits : r.WithinLimits
  undername : r.undername ≠ []
  place : r.undername = ascii "@" ∧ hash = hashUndername env (ascii "@") ∨
    ∃ u, r.undername = env.toLowercase u ∧ hash = hashUndername env u
  /-- the root record, if no other name has its hash -/
  root : (∀ u, env.sha256 u = hash → u = ascii "@") → r.priority = some 0

lemma isValidUndername_ne_nil {u : Text} (h : isValidUndername u = true) :
    u ≠ [] ∧ u.length ≤ maxUndernameLength := by
  unfold isValidUndername at h
  split at h
  · cases h
  · rename_i hn
    exact ⟨fun hnil => hn (.inl hnil), not_lt.mp fun hlt => hn (.inr hlt)⟩

lemma validateTarget_limits {t : Text} {protocol : ℕ} (h : validateTarget t protocol = true) :
    t.length ≤ maxTargetLength ∧ protocol < 2 ^ 8 := by
  unfold validateTarget at h
  split at h
  · cases h
  · rename_i hn
    refine ⟨not_lt.mp fun hlt => hn (.inr hlt), ?_⟩
    split at h
    · rename_i hp
      rw [hp]
      decide
    · split at h
      · rename_i hp
        rw [hp]
        decide
      · cases h

lemma clearStale_owner_eq {r : AntRecord} (hlko : c.lastKnownOwner = o) :
    (clearStale c r).owner = some q ↔ r.owner = some q ∧ r.lastReconciledOwner = o := by
  unfold clearStale
  split
  · rename_i hne
    rw [hlko] at hne
    simp [hne]
  · rename_i heq
    rw [hlko] at heq
    simp [not_ne_iff.mp heq]

lemma clearStale_of_fresh {r : AntRecord} (h : r.lastReconciledOwner = c.lastKnownOwner) :
    clearStale c r = r := by
  rw [clearStale, if_neg (by simpa using h)]

lemma clearStale_lastReconciledOwner {r : AntRecord} :
    (clearStale c r).lastReconciledOwner = c.lastKnownOwner := by
  unfold clearStale
  split
  · rfl
  · rename_i heq
    exact not_ne_iff.mp heq

lemma clearStale_wellFormed {r : AntRecord} (h : r.WellFormed env hash) :
    (clearStale c r).WellFormed env hash := by
  unfold clearStale
  split
  · exact ⟨⟨h.limits.undername, h.limits.target, h.limits.targetProtocol, h.limits.ttlSeconds,
      h.limits.priority⟩, h.undername, h.place, h.root⟩
  · exact h

end

/-! ### What a call leaves alone and what it changes -/

/-- The call makes `q` a controller. -/
def AssetCall.addsController (caller : Pubkey) : AssetCall → Pubkey → Prop
  | .addController controller _, q => controller = q
  | .initializeAnt _, q => caller = q
  | _, _ => False

/-- The call gives the record under `hash` to `q`. -/
def AssetCall.assigns (env : Env) (manages : Prop) : AssetCall → Bytes32 → Pubkey → Prop
  | .setRecord params, hash, q =>
    manages ∧ hashUndername env params.undername = hash ∧ params.recordOwner = some q
  | .transferRecord hash' newOwner, hash, q => hash' = hash ∧ newOwner = q
  | _, _, _ => False

/-- Two states that differ in the users' lists only. -/
structure AgreeOnAssets (s s' : State) : Prop where
  assets : s'.assets = s.assets
  configs : s'.configs = s.configs
  controllers : s'.controllers = s.controllers
  records : s'.records = s.records
  metadata : s'.metadata = s.metadata

/-- What a call on an asset does. -/
structure Effect (env : Env) (x k : Pubkey) (call : AssetCall) (s s' : State) : Prop where
  others : ∀ y, y ≠ x → s'.assets y = s.assets y ∧ s'.configs y = s.configs y ∧
    s'.controllers y = s.controllers y ∧ s'.records y = s.records y
  owner : s'.assets x = s.assets x ∨ (∃ newOwner i j, call = .transfer newOwner i j) ∧
    s.assets x = some k ∧ (∀ q, ¬ControllerInForce s' x q) ∧ s'.records x = s.records x
  config : s'.configs x = s.configs x ∧ s'.assets x = s.assets x ∨ s'.configs x = none ∨
    ∃ c, s'.configs x = some c ∧ s'.assets x = some c.lastKnownOwner
  controllers : s'.assets x = s.assets x → ∀ q, ControllerInForce s' x q →
    ControllerInForce s x q ∨ call.addsController k q
  records : s'.assets x = s.assets x → ∀ hash q, OwnsRecord s' x hash q →
    OwnsRecord s x hash q ∨ call.assigns env (Manages s x k) hash q
  configLimits : (∀ c, s.configs x = some c → c.WithinLimits) →
    ∀ c, s'.configs x = some c → c.WithinLimits
  wellFormed : (∀ hash r, s.records x hash = some r → r.WellFormed env hash) →
    ∀ hash r, s'.records x hash = some r → r.WellFormed env hash

section

variable {env : Env} {s s' s₁ : State} {x k q o : Pubkey} {a : Access} {c c' : AntConfig}
  {l l' : AntControllers} {hash : Bytes32} {call : AssetCall} {newConfig : Option AntConfig}
  {newControllers : Option AntControllers} {newRecords : Bytes32 → Option AntRecord}

lemma Effect.ofParts (hassets : s'.assets = s.assets)
    (hconfigs : s'.configs = Function.update s.configs x newConfig)
    (hcontrollers : s'.controllers = Function.update s.controllers x newControllers)
    (hrecords : s'.records = Function.update s.records x newRecords)
    (hc : newConfig = s.configs x ∨ newConfig = none ∨
      ∃ c, newConfig = some c ∧ s.assets x = some c.lastKnownOwner)
    (hl : ∀ q c l, newConfig = some c → newControllers = some l →
      s.assets x = some c.lastKnownOwner → q ∈ l.controllers →
      ControllerInForce s x q ∨ call.addsController k q)
    (hr : ∀ hash q r, newRecords hash = some r → r.owner = some q →
      s.assets x = some r.lastReconciledOwner →
      OwnsRecord s x hash q ∨ call.assigns env (Manages s x k) hash q)
    (hclimits : (∀ c, s.configs x = some c → c.WithinLimits) →
      ∀ c, newConfig = some c → c.WithinLimits)
    (hwell : (∀ hash r, s.records x hash = some r → r.WellFormed env hash) →
      ∀ hash r, newRecords hash = some r → r.WellFormed env hash) :
    Effect env x k call s s' := by
  have hcx : s'.configs x = newConfig := by rw [hconfigs, Function.update_self]
  have hlx : s'.controllers x = newControllers := by rw [hcontrollers, Function.update_self]
  have hrx : s'.records x = newRecords := by rw [hrecords, Function.update_self]
  refine ⟨fun y hy => ⟨by rw [hassets], ?_, ?_, ?_⟩, .inl (by rw [hassets]), ?_, ?_, ?_, ?_, ?_⟩
  · rw [hconfigs, Function.update_of_ne hy]
  · rw [hcontrollers, Function.update_of_ne hy]
  · rw [hrecords, Function.update_of_ne hy]
  · rw [hcx, hassets]
    exact hc.imp_left fun h => ⟨h, rfl⟩
  · rintro - q ⟨c, l, hc', hl', ho, hq⟩
    rw [hcx] at hc'
    rw [hlx] at hl'
    rw [hassets] at ho
    exact hl q c l hc' hl' ho hq
  · rintro - hash q ⟨r, hr', hq, ho⟩
    rw [hrx] at hr'
    rw [hassets] at ho
    exact hr hash q r hr' hq ho
  · rw [hcx]
    exact hclimits
  · rw [hrx]
    exact hwell

lemma AntConfig.WithinLimits.reconciled (h : c.WithinLimits) :
    ({ c with lastKnownOwner := o } : AntConfig).WithinLimits :=
  ⟨h.name, h.ticker, h.logo, h.description, h.keywords, h.keyword⟩

lemma Effect.ofLoaded (h : Loaded s x k a o c l) (hassets : s'.assets = s.assets)
    (hconfigs : s'.configs = Function.update s.configs x (some c'))
    (hcontrollers : s'.controllers = Function.update s.controllers x (some l'))
    (hrecords : s'.records = Function.update s.records x newRecords)
    (hlko : c'.lastKnownOwner = a.config.lastKnownOwner)
    (hclimits : a.config.WithinLimits → c'.WithinLimits)
    (hl : ∀ q ∈ l'.controllers, q ∈ a.controllers.controllers ∨ call.addsController k q)
    (hr : ∀ hash q r, newRecords hash = some r → r.owner = some q →
      s.assets x = some r.lastReconciledOwner →
      OwnsRecord s x hash q ∨ call.assigns env (Manages s x k) hash q)
    (hwell : (∀ hash r, s.records x hash = some r → r.WellFormed env hash) →
      ∀ hash r, newRecords hash = some r → r.WellFormed env hash) :
    Effect env x k call s s' := by
  have ho : s.assets x = some c'.lastKnownOwner := by rw [hlko, h.lastKnownOwner, h.owner]
  refine .ofParts hassets hconfigs hcontrollers hrecords (.inr (.inr ⟨c', rfl, ho⟩)) ?_ hr ?_ hwell
  · rintro q c₁ l₁ - hl₁ - hq
    obtain rfl := Option.some.inj hl₁
    exact (hl q hq).imp_left h.controllerInForce.mp
  · rintro hlimits c₁ hc₁
    obtain rfl := Option.some.inj hc₁
    refine hclimits ?_
    rw [h.config_eq]
    exact (hlimits c h.config).reconciled

lemma OwnsRecord.ofSame (hash : Bytes32) (q : Pubkey) (r : AntRecord)
    (hr : s.records x hash = some r) (hq : r.owner = some q)
    (ho : s.assets x = some r.lastReconciledOwner) :
    OwnsRecord s x hash q ∨ call.assigns env (Manages s x k) hash q :=
  .inl ⟨r, hr, hq, ho⟩

lemma OwnsRecord.ofClosed (closed hash : Bytes32) (q : Pubkey) (r : AntRecord)
    (hr : Function.update (s.records x) closed none hash = some r) (hq : r.owner = some q)
    (ho : s.assets x = some r.lastReconciledOwner) :
    OwnsRecord s x hash q ∨ call.assigns env (Manages s x k) hash q := by
  by_cases hne : hash = closed
  · subst hne
    rw [Function.update_self] at hr
    cases hr
  · rw [Function.update_of_ne hne] at hr
    exact .inl ⟨r, hr, hq, ho⟩

lemma wellFormed_closed (closed : Bytes32)
    (h : ∀ hash r, s.records x hash = some r → r.WellFormed env hash) (hash : Bytes32)
    (r : AntRecord) (hr : Function.update (s.records x) closed none hash = some r) :
    r.WellFormed env hash := by
  by_cases hne : hash = closed
  · subst hne
    rw [Function.update_self] at hr
    cases hr
  · rw [Function.update_of_ne hne] at hr
    exact h hash r hr

end

end Ant
end ArioSolana
