import ArioSolana.AntEffects

/-!
# Authority and changes of owner

Authority over an asset is judged by the owner of the asset, the last known owner in its
configuration, and the owner under whom a record was last touched. If every change of owner is a
transfer of this program or is followed by a reconciliation before the next one, a controller in
force was added since the last change. A record's owner was assigned since the last change unless
the asset went to one under whom the record was last touched: the owner of such a record is taken
for fresh, and may change what the owner of that record may change, but nothing else. -/

namespace ArioSolana
namespace Ant

open Checked Solana

/-! ### Histories -/

/-- The asset has another owner after the step. -/
def ChangesOwner (x : Pubkey) (e : Step State Event) : Prop :=
  ∃ o o', e.before.assets x = some o ∧ e.after.assets x = some o' ∧ o ≠ o'

/-- A transfer by this program. -/
def ByTransfer (x : Pubkey) (e : Step State Event) : Prop :=
  ∃ k newOwner i j, e.label = .assetCall x k (.transfer newOwner i j)

def ByReconcile (x : Pubkey) (e : Step State Event) : Prop :=
  ∃ k, e.label = .assetCall x k .reconcile

/-- The step makes `q` a controller. -/
def AddsController (x q : Pubkey) (e : Step State Event) : Prop :=
  ∃ k call, e.label = .assetCall x k call ∧ call.addsController k q

/-- The step gives a record to `q`. -/
def AssignsRecord (env : Env) (x : Pubkey) (hash : Bytes32) (q : Pubkey) (e : Step State Event) :
    Prop :=
  ∃ k call, e.label = .assetCall x k call ∧ call.assigns env (Manages e.before x k) hash q

/-- A step after the last change of owner satisfies `p`. -/
def SinceChange (x : Pubkey) (p : Step State Event → Prop) : Trace → Prop
  | [] => False
  | e :: tr => ¬ChangesOwner x e ∧ (p e ∨ SinceChange x p tr)

/-- The last change of owner was a transfer of this program or has been followed by a
reconciliation. -/
def Settled (x : Pubkey) : Trace → Prop
  | [] => True
  | e :: tr => ByReconcile x e ∨ ChangesOwner x e ∧ ByTransfer x e ∨
    ¬ChangesOwner x e ∧ Settled x tr

/-- Every change of owner is settled before the next one. -/
def Disciplined (x : Pubkey) : Trace → Prop
  | [] => True
  | e :: tr => (ChangesOwner x e → Settled x tr) ∧ Disciplined x tr

/-- The asset goes to a new owner under whom the record was last touched: a record owner of that
time is taken for fresh. -/
def Revives (x : Pubkey) (hash : Bytes32) (q : Pubkey) (e : Step State Event) : Prop :=
  ChangesOwner x e ∧ ∃ r, e.before.records x hash = some r ∧ r.owner = some q ∧
    e.after.assets x = some r.lastReconciledOwner

/-- The last change of owner revived the record. -/
def Revived (x : Pubkey) (hash : Bytes32) (q : Pubkey) : Trace → Prop
  | [] => False
  | e :: tr => Revives x hash q e ∨ ¬ChangesOwner x e ∧ Revived x hash q tr

section

variable {env : Env} {s₀ s s' : State} {tr : Trace} {x k q : Pubkey} {hash : Bytes32} {e : Event}

/-! ### Steps -/

/-- The step leaves alone what the program keeps for the asset. -/
structure Passive (x : Pubkey) (s s' : State) : Prop where
  configs : s'.configs x = s.configs x
  controllers : s'.controllers x = s.controllers x
  records : s'.records x = s.records x
  gone : s.assets x = none → s'.assets x = none

lemma AgreeOnAssets.passive (h : AgreeOnAssets s s') : Passive x s s' :=
  ⟨congrFun h.configs x, congrFun h.controllers x, congrFun h.records x,
    (congrFun h.assets x).trans⟩

lemma aclCall_agree {user : Pubkey} {call : AclCall} (h : call.handler user s = .ok s') :
    AgreeOnAssets s s' := by
  cases call <;>
    simp only [AclCall.handler, registerAclConfig, closeAclConfig, addAclPage, closeAclPage,
      recordAclOwner, recordAclController, removeAclOwner, removeAclController, bind_eq_ok,
      pure_eq_ok] at h
  case registerAclConfig =>
    obtain ⟨-, -, rfl⟩ := h
    exact ⟨rfl, rfl, rfl, rfl, rfl⟩
  case closeAclConfig =>
    obtain ⟨config, -, -, -, rfl⟩ := h
    exact ⟨rfl, rfl, rfl, rfl, rfl⟩
  case addAclPage =>
    obtain ⟨config, -, -, -, n, -, rfl⟩ := h
    exact ⟨rfl, rfl, rfl, rfl, rfl⟩
  case closeAclPage =>
    obtain ⟨config, -, page, -, -, -, -, -, -, -, rfl⟩ := h
    exact ⟨rfl, rfl, rfl, rfl, rfl⟩
  case recordAclOwner =>
    obtain ⟨-, -, o, -, -, -, h⟩ := h
    exact addEntry_agree h
  case recordAclController =>
    obtain ⟨o, -, l, -, -, -, h⟩ := h
    exact addEntry_agree h
  case removeAclOwner =>
    obtain ⟨-, -, o, -, -, -, h⟩ := h
    exact removeEntry_agree h
  case removeAclController =>
    obtain ⟨o, -, l, -, -, -, h⟩ := h
    exact removeEntry_agree h

lemma antStep_cases (h : AntStep env s e s') (x : Pubkey) :
    (∃ k call, e = .assetCall x k call ∧ Effect env x k call s s') ∨ Passive x s s' := by
  cases e with
  | assetCall y k call =>
    by_cases hxy : x = y
    · subst hxy
      exact .inl ⟨k, call, rfl, handler_effect h⟩
    · obtain ⟨hassets, hconfigs, hcontrollers, hrecords⟩ := (handler_effect h).others x hxy
      exact .inr ⟨hconfigs, hcontrollers, hrecords, hassets.trans⟩
  | aclCall user call => exact .inr (aclCall_agree h).passive
  | mplTransfer y newOwner =>
    simp only [AntStep, Event.exec, readAssetOwner, bind_eq_ok, okOr_eq_ok, pure_eq_ok] at h
    obtain ⟨o, ho, rfl⟩ := h
    refine .inr ⟨rfl, rfl, rfl, fun hnone => ?_⟩
    have hne : x ≠ y := by
      rintro rfl
      rw [ho] at hnone
      cases hnone
    exact (Function.update_of_ne hne _ _).trans hnone
  | mplBurn y =>
    simp only [AntStep, Event.exec, bind_eq_ok, pure_eq_ok] at h
    obtain ⟨o, -, rfl⟩ := h
    refine .inr ⟨rfl, rfl, rfl, fun hnone => ?_⟩
    by_cases hne : x = y
    · subst hne
      exact Function.update_self _ _ _
    · exact (Function.update_of_ne hne _ _).trans hnone

lemma owner_eq (h : AntStep env s e s') {o : Pubkey} (ho : s'.assets x = some o)
    (hsame : ¬ChangesOwner x ⟨s, e, s'⟩) : s'.assets x = s.assets x := by
  cases hs : s.assets x with
  | some o₁ =>
    by_cases heq : o₁ = o
    · rw [ho, heq]
    · exact absurd ⟨o₁, o, hs, ho, heq⟩ hsame
  | none =>
    rcases antStep_cases h x with ⟨k, call, -, heff⟩ | hp
    · rcases heff.owner with hassets | ⟨-, hk, -⟩
      · exact hassets.trans hs
      · rw [hs] at hk
        cases hk
    · exact hp.gone hs

lemma not_changesOwner_of_eq (h : s'.assets x = s.assets x) : ¬ChangesOwner x ⟨s, e, s'⟩ := by
  rintro ⟨o, o', ho, ho', hne⟩
  exact hne (Option.some.inj (ho.symm.trans (h.symm.trans ho')))

lemma synced_step (h : AntStep env s e s') (hs : Synced s x) (hsame : ¬ChangesOwner x ⟨s, e, s'⟩) :
    Synced s' x := by
  intro c o hc ho
  have howner := owner_eq h ho hsame
  rcases antStep_cases h x with ⟨k, call, -, heff⟩ | hp
  · rcases heff.config with ⟨hconfig, -⟩ | hnone | ⟨c', hc', ho'⟩
    · exact hs c o (hconfig ▸ hc) (howner ▸ ho)
    · rw [hnone] at hc
      cases hc
    · obtain rfl := Option.some.inj (hc'.symm.trans hc)
      exact Option.some.inj (ho'.symm.trans ho)
  · exact hs c o (hp.configs ▸ hc) (howner ▸ ho)

/-! ### Runs -/

lemma synced_of_settled (run : Run (AntStep env) s₀ tr s) (hs : Fresh s₀) (hset : Settled x tr) :
    Synced s x := by
  induction run with
  | nil =>
    intro c o hc
    rw [hs.configs] at hc
    cases hc
  | @cons tr s e s' run last ih =>
    rcases hset with ⟨k, hk⟩ | ⟨-, k, newOwner, i, j, hk⟩ | ⟨hsame, hset⟩
    · obtain rfl : e = _ := hk
      obtain ⟨o, c, l, ho, hc, -, ⟨hlko, rfl⟩ | ⟨-, rfl⟩⟩ := reconcile_eq last
      · intro c' o' hc' ho'
        obtain rfl := Option.some.inj (hc.symm.trans hc')
        exact hlko.trans (Option.some.inj (ho.symm.trans ho'))
      · intro c' o' hc' ho'
        have hc₁ := (Function.update_self x _ s.configs).symm.trans hc'
        obtain rfl := Option.some.inj hc₁
        exact Option.some.inj (ho.symm.trans ho')
    · obtain rfl : e = _ := hk
      obtain ⟨-, hassets, ⟨c, -, hconfigs⟩, -, -⟩ := transfer_eq last
      intro c' o' hc' ho'
      rw [hconfigs, Function.update_self] at hc'
      rw [hassets, Function.update_self] at ho'
      obtain rfl := Option.some.inj hc'
      exact Option.some.inj ho'
    · exact synced_step last (ih hset) hsame

/-- **A controller in force was added since the last change of owner.** -/
theorem controllerInForce_since (run : Run (AntStep env) s₀ tr s) (hs : Fresh s₀)
    (hd : Disciplined x tr) (h : ControllerInForce s x q) :
    SinceChange x (AddsController x q) tr := by
  induction run with
  | nil =>
    obtain ⟨c, l, hc, -⟩ := h
    rw [hs.configs] at hc
    cases hc
  | @cons tr s e s' run last ih =>
    obtain ⟨hset, hd⟩ := hd
    obtain ⟨c, l, hc, hl, ho, hq⟩ := id h
    rcases antStep_cases last x with ⟨k, call, rfl, heff⟩ | hp
    · rcases heff.owner with hsame | ⟨-, -, hnone, -⟩
      · refine ⟨not_changesOwner_of_eq hsame, ?_⟩
        rcases heff.controllers hsame q h with hbefore | hadds
        · exact .inr (ih hd hbefore)
        · exact .inl ⟨k, call, rfl, hadds⟩
      · exact absurd h (hnone q)
    · have hc₀ := hp.configs.symm.trans hc
      by_cases hch : ChangesOwner x ⟨s, e, s'⟩
      · -- the configuration still names the owner before
        have hsync := synced_of_settled run hs (hset hch)
        obtain ⟨o, o', hbefore, hafter, hne⟩ := hch
        have hlko := hsync c o hc₀ hbefore
        exact absurd (hlko.symm.trans (Option.some.inj (ho.symm.trans hafter))) hne
      · have hbefore := (owner_eq last ho hch).symm.trans ho
        exact ⟨hch, .inr (ih hd ⟨c, l, hc₀, hp.controllers.symm.trans hl, hbefore, hq⟩)⟩

/-- **The owner of a fresh record got it since the last change of owner**, unless that change
revived the record. -/
theorem ownsRecord_since (run : Run (AntStep env) s₀ tr s) (hs : Fresh s₀)
    (h : OwnsRecord s x hash q) :
    SinceChange x (AssignsRecord env x hash q) tr ∨ Revived x hash q tr := by
  induction run with
  | nil =>
    obtain ⟨r, hr, -⟩ := h
    rw [hs.records] at hr
    cases hr
  | @cons tr s e s' run last ih =>
    obtain ⟨r, hr, hq, ho⟩ := id h
    have hstep := antStep_cases last x
    by_cases hch : ChangesOwner x ⟨s, e, s'⟩
    · have hrecords : s'.records x = s.records x := by
        rcases hstep with ⟨k, call, -, heff⟩ | hp
        · rcases heff.owner with hsame | ⟨-, -, -, hrecords⟩
          · exact absurd hch (not_changesOwner_of_eq hsame)
          · exact hrecords
        · exact hp.records
      rw [hrecords] at hr
      exact .inr (.inl ⟨hch, r, hr, hq, ho⟩)
    · have hsame := owner_eq last ho hch
      have hbefore : OwnsRecord s x hash q → SinceChange x (AssignsRecord env x hash q)
          (⟨s, e, s'⟩ :: tr) ∨ Revived x hash q (⟨s, e, s'⟩ :: tr) := fun hb =>
        (ih hb).imp (fun hsince => ⟨hch, .inr hsince⟩) fun hrevived => .inr ⟨hch, hrevived⟩
      rcases hstep with ⟨k, call, rfl, heff⟩ | hp
      · rcases heff.records hsame hash q h with hb | hassigns
        · exact hbefore hb
        · exact .inl ⟨hch, .inl ⟨k, call, rfl, hassigns⟩⟩
      · refine hbefore ⟨r, ?_, hq, hsame ▸ ho⟩
        rw [← hp.records]
        exact hr

lemma assigns_synced {call : AssetCall} {manages : Prop} (h : call.handler env x k s = .ok s')
    (hassigns : call.assigns env manages hash q) : Synced s' x := by
  have hsync : ∀ {a o c l record}, Loaded s x k a o c l →
      Synced ((s.setAccess x a).setRecord x hash record) x := by
    intro a o c l record hload c' o' hc' ho'
    have hc₁ : some a.config = some c' := (Function.update_self x _ s.configs).symm.trans hc'
    obtain rfl := Option.some.inj hc₁
    exact hload.lastKnownOwner.trans (Option.some.inj (hload.owner.symm.trans ho'))
  cases call with
  | setRecord params =>
    obtain ⟨-, rfl, -⟩ := hassigns
    obtain ⟨o, c, l, a, r, p, hload, hw⟩ := setRecord_eq_ok.mp h
    rw [hw.wrote]
    exact hsync hload
  | transferRecord hash' newOwner =>
    obtain ⟨rfl, rfl⟩ := hassigns
    obtain ⟨r, o, c, l, a, -, -, hload, -, -, rfl⟩ := transferRecord_eq_ok.mp h
    exact hsync hload
  | _ => exact hassigns.elim

lemma synced_of_assigned (run : Run (AntStep env) s₀ tr s)
    (h : SinceChange x (AssignsRecord env x hash q) tr) : Synced s x := by
  induction run with
  | nil => exact h.elim
  | @cons tr s e s' run last ih =>
    obtain ⟨hch, ⟨k, call, hlabel, hassigns⟩ | hsince⟩ := h
    · obtain rfl : e = _ := hlabel
      exact assigns_synced last hassigns
    · exact synced_step last (ih hsince) hch

/-- **What the program keeps for an asset is well formed**, in every state. -/
theorem wellFormed_reachable (run : Run (AntStep env) s₀ tr s) (hs : Fresh s₀) (x : Pubkey) :
    (∀ c, s.configs x = some c → c.WithinLimits) ∧
      ∀ hash r, s.records x hash = some r → r.WellFormed env hash := by
  induction run with
  | nil =>
    refine ⟨fun c hc => ?_, fun hash r hr => ?_⟩
    · rw [hs.configs] at hc
      cases hc
    · rw [hs.records] at hr
      cases hr
  | cons run last ih =>
    rcases antStep_cases last x with ⟨k, call, -, heff⟩ | hp
    · exact ⟨heff.configLimits ih.1, heff.wellFormed ih.2⟩
    · rw [hp.configs, hp.records]
      exact ih

end

/-! ### Who may do what -/

/-- The owner of the asset, or a controller added since the last change of owner. -/
def InControl (tr : Trace) (s : State) (x k : Pubkey) : Prop :=
  s.assets x = some k ∨ ControllerInForce s x k ∧ SinceChange x (AddsController x k) tr

/-- The owner of a record that was assigned to it since the last change of owner. -/
def HoldsRecord (env : Env) (tr : Trace) (s : State) (x : Pubkey) (hash : Bytes32) (k : Pubkey) :
    Prop :=
  OwnsRecord s x hash k ∧ SinceChange x (AssignsRecord env x hash k) tr

/-- What the owner of a record does is `P` of the state before, if it got the record since the last
change of owner. If that change revived the record, `P` may be of a state where the controllers of
a former owner are dropped. -/
def AsRecordOwner (env : Env) (tr : Trace) (x k : Pubkey) (hash : Bytes32) (s : State)
    (P : State → Prop) : Prop :=
  HoldsRecord env tr s x hash k ∧ P s ∨
    OwnsRecord s x hash k ∧ Revived x hash k tr ∧ ∃ t, Reconciles x s t ∧ P t

/-- What a call that succeeds says about its signer. The owner of a record changes the content of
the record, its owner or its metadata, and nothing else; anybody may drop the controllers of a
former owner, and close the metadata of a record that is gone. -/
def Permitted (env : Env) (tr : Trace) (x k : Pubkey) (call : AssetCall) (s s' : State) : Prop :=
  match call with
  | .reconcile => Reconciles x s s'
  | .closeOrphanedRecordMetadata _ => ∃ hash, s.records x hash = none ∧
      s' = s.setMetadata x hash none
  | .setRecord params => InControl tr s x k ∨
      AsRecordOwner env tr x k (hashUndername env params.undername) s fun t =>
        ∃ r, s.records x (hashUndername env params.undername) = some r ∧
          s' = t.setRecord x (hashUndername env params.undername) (some { r with
            target := params.target
            targetProtocol := params.targetProtocol
            ttlSeconds := params.ttlSeconds })
  | .transferRecord hash newOwner => InControl tr s x k ∨ AsRecordOwner env tr x k hash s fun t =>
      ∃ r, s.records x hash = some r ∧
        s' = t.setRecord x hash (some { r with owner := some newOwner })
  | .setRecordMetadata params => InControl tr s x k ∨
      AsRecordOwner env tr x k (hashUndername env params.undername) s fun t =>
        ∃ m, s' = t.setMetadata x (hashUndername env params.undername) (some m)
  | _ => InControl tr s x k

section

variable {env : Env} {s₀ s s' : State} {tr : Trace} {x k q : Pubkey} {hash : Bytes32}

lemma inControl_of_manages (run : Run (AntStep env) s₀ tr s) (hs : Fresh s₀)
    (hd : Disciplined x tr) (h : Manages s x k) : InControl tr s x k :=
  h.imp_right fun hforce => ⟨hforce, controllerInForce_since run hs hd hforce⟩

/-- A record's owner is in control of the asset, or acts as the owner of the record. -/
lemma inControl_or_asRecordOwner (run : Run (AntStep env) s₀ tr s) (hs : Fresh s₀)
    (hd : Disciplined x tr) {P : State → Prop} (h : Manages s x k ∨ OwnsRecord s x hash k ∧
      ∃ t, Reconciles x s t ∧ (Synced s x → t = s) ∧ P t) :
    InControl tr s x k ∨ AsRecordOwner env tr x k hash s P := by
  rcases h with hm | ⟨hrecord, t, ht, hsync, hP⟩
  · exact .inl (inControl_of_manages run hs hd hm)
  · rcases ownsRecord_since run hs hrecord with hsince | hrevived
    · exact .inr (.inl ⟨⟨hrecord, hsince⟩, hsync (synced_of_assigned run hsince) ▸ hP⟩)
    · exact .inr (.inr ⟨hrecord, hrevived, t, ht, hP⟩)

end

/-- **Authority does not survive a change of owner.** In a run where each change of owner is settled
before the next one, a call succeeds only for the owner of the asset, for a controller added since
the last change, or, for the content of a record, its metadata and its owner, for one whom the
record was given to since the last change or whose record the last change revived. -/
theorem authority_since_change {env : Env} {s₀ s s' : State} {tr : Trace} {x k : Pubkey}
    {call : AssetCall} (hroot : ∀ u, env.sha256 u = env.sha256 (ascii "@") → u = ascii "@")
    (run : Run (AntStep env) s₀ tr s) (hs : Fresh s₀) (hd : Disciplined x tr)
    (h : AntStep env s (.assetCall x k call) s') : Permitted env tr x k call s s' := by
  have hwell := (wellFormed_reachable run hs x).2
  have howner : Effect env x k call s s' ∧ s.assets x = some k → InControl tr s x k :=
    fun heff => .inl heff.2
  have hmanages : Effect env x k call s s' ∧ Manages s x k → InControl tr s x k :=
    fun heff => inControl_of_manages run hs hd heff.2
  cases call with
  | initializeAnt params => exact howner (initializeAnt_effect h)
  | setRecord params =>
    exact inControl_or_asRecordOwner run hs hd (setRecord_permission h hwell hroot)
  | removeRecord hash withMetadata => exact hmanages (removeRecord_effect h)
  | transferRecord hash newOwner =>
    exact inControl_or_asRecordOwner run hs hd (transferRecord_permission h)
  | addController controller index => exact hmanages (addController_effect h)
  | removeController controller index => exact hmanages (removeController_effect h)
  | setName name => exact hmanages (setName_effect h)
  | setTicker ticker => exact hmanages (setTicker_effect h)
  | setDescription description => exact hmanages (setDescription_effect h)
  | setKeywords keywords => exact hmanages (setKeywords_effect h)
  | setLogo logo => exact hmanages (setLogo_effect h)
  | transfer newOwner i j => exact howner (transfer_effect h)
  | reconcile =>
    obtain ⟨o, c, l, ho, hc, hl, ⟨-, rfl⟩ | ⟨hlko, rfl⟩⟩ := reconcile_eq h
    · exact .inl rfl
    · exact .inr ⟨o, c, l, ho, hc, hl, hlko, rfl⟩
  | setRecordMetadata params =>
    exact inControl_or_asRecordOwner run hs hd (setRecordMetadata_effect h).2
  | removeRecordMetadata undername => exact hmanages (removeRecordMetadata_effect h)
  | closeOrphanedRecordMetadata undername => exact closeOrphanedRecordMetadata_eq h
  | closeAntRecord undername => exact howner (closeAntRecord_effect h)
  | closeAntRecordMetadataForOwner undername =>
    exact howner (closeAntRecordMetadataForOwner_effect h)
  | closeAntControllers => exact howner (closeAntControllers_effect h)
  | closeAntConfig => exact howner (closeAntConfig_effect h)

/-! ### A small history -/

namespace Small

/-- A hash that tells the root name from the others. -/
def env : Env where
  sha256 := fun u => if u = ascii "@" then Vector.replicate 32 0 else Vector.replicate 32 1
  toLowercase := id
  bump := fun _ _ => 255

lemma env_root (u : Text) (h : env.sha256 u = env.sha256 (ascii "@")) : u = ascii "@" := by
  by_contra hne
  have hzero : env.sha256 u = Vector.replicate 32 1 := if_neg hne
  rw [hzero] at h
  exact absurd h (by decide)

def asset : Pubkey := ⟨9⟩

def alice : Pubkey := ⟨1⟩

def bob : Pubkey := ⟨2⟩

def carol : Pubkey := ⟨3⟩

def dave : Pubkey := ⟨4⟩

def start : State where
  assets := fun x => if x = asset then some alice else none
  configs := fun _ => none
  controllers := fun _ => none
  records := fun _ _ => none
  metadata := fun _ _ => none
  aclConfigs := fun _ => none
  aclPages := fun _ _ => none

lemma start_fresh : Fresh start := ⟨rfl, rfl, rfl, rfl, rfl, rfl⟩

/-- Write the record of one undername. -/
def write (caller : Pubkey) (ttl : ℕ) (recordOwner : Option Pubkey) : AssetCall × Pubkey :=
  (.setRecord ⟨ascii "a", defaultLogo, protocolArweave, ttl, none, by simp, recordOwner⟩, caller)

def call (c : AssetCall × Pubkey) : Event := .assetCall asset c.2 c.1

/-- Alice sets the asset up and gives a record to Carol. -/
def granted : List Event :=
  [call (write alice 900 (some carol)),
    .assetCall asset alice (.initializeAnt ⟨ascii "n", none, defaultLogo, none, [], [], []⟩)]

/-- The asset goes to Bob. -/
def moved : List Event := .mplTransfer asset bob :: granted

/-- It comes back to Alice, reconciled each time. -/
def returned : List Event :=
  [.assetCall asset dave .reconcile, .mplTransfer asset alice, .assetCall asset dave .reconcile]
    ++ moved

/-- Bob buys the asset, sets it up and gives a record to Carol. -/
def bought : List Event :=
  [call (write bob 900 (some carol)),
    .assetCall asset bob (.initializeAnt ⟨ascii "n", none, defaultLogo, none, [], [], []⟩),
    .mplTransfer asset bob]

abbrev after (events : List Event) : State := stateAfter (Event.exec env) start events

abbrev history (events : List Event) : Trace := traceOf (Event.exec env) start events

/-- A list of events that runs through. -/
structure Script where
  events : List Event
  ok : allOk (Event.exec env) start events = true

def grantedScript : Script := ⟨granted, by decide +kernel⟩

def movedScript : Script := ⟨moved, by decide +kernel⟩

def returnedScript : Script := ⟨returned, by decide +kernel⟩

def boughtScript : Script := ⟨bought, by decide +kernel⟩

/-- Carol writes the record after the asset has come back. -/
def revivedScript : Script := ⟨call (write carol 60 none) :: returned, by decide +kernel⟩

def reconciledScript : Script := ⟨.assetCall asset dave .reconcile :: moved, by decide +kernel⟩

def writtenScript : Script := ⟨call (write carol 60 none) :: bought, by decide +kernel⟩

lemma Script.run (s : Script) : Run (AntStep env) start (history s.events) (after s.events) :=
  run_traceOf s.ok

lemma Script.last {e : Event} {events : List Event} (s : Script) (h : s.events = e :: events) :
    AntStep env (after events) e (after (e :: events)) := by
  have hok := s.ok
  rw [h] at hok
  exact eq_ok_outcome (Bool.and_eq_true_iff.mp hok).1

lemma granted_calm {e : Step State Event} (he : e ∈ history granted) :
    ¬ChangesOwner asset e := by
  rcases List.mem_cons.mp he with rfl | he
  · exact not_changesOwner_of_eq (by decide +kernel)
  · obtain rfl := List.mem_singleton.mp he
    exact not_changesOwner_of_eq (by decide +kernel)

lemma granted_disciplined : Disciplined asset (history granted) := by
  refine ⟨fun h => absurd h (granted_calm List.mem_cons_self), ?_, trivial⟩
  exact fun h => absurd h (granted_calm (List.mem_cons_of_mem _ List.mem_cons_self))

lemma granted_settled : Settled asset (history granted) :=
  .inr (.inr ⟨granted_calm List.mem_cons_self,
    .inr (.inr ⟨granted_calm (List.mem_cons_of_mem _ List.mem_cons_self), trivial⟩)⟩)

lemma moved_disciplined : Disciplined asset (history moved) :=
  ⟨fun _ => granted_settled, granted_disciplined⟩

lemma returned_disciplined : Disciplined asset (history returned) := by
  refine ⟨fun h => absurd h (not_changesOwner_of_eq (by decide +kernel)),
    fun _ => .inl ⟨dave, rfl⟩, ?_, moved_disciplined⟩
  exact fun h => absurd h (not_changesOwner_of_eq (by decide +kernel))

lemma bought_disciplined : Disciplined asset (history bought) := by
  refine ⟨fun h => absurd h (not_changesOwner_of_eq (by decide +kernel)),
    fun h => absurd h (not_changesOwner_of_eq (by decide +kernel)), fun _ => trivial, trivial⟩

end Small

/-- A call changes what the program keeps for an asset, and its signer has no authority that it got
since the last change of owner. -/
structure Unauthorized (env : Env) (tr : Trace) (s : State) (x k : Pubkey) (call : AssetCall)
    (s' : State) : Prop where
  step : AntStep env s (.assetCall x k call) s'
  changed : s'.configs x ≠ s.configs x ∨ s'.controllers x ≠ s.controllers x ∨
    s'.records x ≠ s.records x ∨ s'.metadata x ≠ s.metadata x
  control : ¬InControl tr s x k
  record : ∀ hash, ¬HoldsRecord env tr s x hash k

open Ant.Small in
/-- An asset that comes back revives the owner of a record, and anybody may reconcile. -/
theorem authority_survives_return :
    (∀ u, env.sha256 u = env.sha256 (ascii "@") → u = ascii "@") ∧
    (∃ tr s s' call, Fresh start ∧ Run (AntStep env) start tr s ∧ Disciplined asset tr ∧
      (∃ params, call = .setRecord params) ∧ Unauthorized env tr s asset carol call s') ∧
    ∃ tr s s', Fresh start ∧ Run (AntStep env) start tr s ∧ Disciplined asset tr ∧
      Unauthorized env tr s asset dave .reconcile s' := by
  refine ⟨env_root, ⟨history returned, after returned, _, _, start_fresh, returnedScript.run,
    returned_disciplined, ⟨_, rfl⟩, ⟨revivedScript.last rfl, .inr (.inr (.inl ?_)), ?_, ?_⟩⟩,
    history moved, after moved, _, start_fresh, movedScript.run, moved_disciplined,
    ⟨reconciledScript.last rfl, .inl ?_, ?_, ?_⟩⟩
  · intro hsame
    have hne : ((after (call (write carol 60 none) :: returned)).records asset
        (hashUndername env (ascii "a"))).map (·.ttlSeconds) ≠
        ((after returned).records asset (hashUndername env (ascii "a"))).map (·.ttlSeconds) := by
      decide +kernel
    exact hne (congrArg (fun records => (records (hashUndername env (ascii "a"))).map
      (·.ttlSeconds)) hsame)
  · rintro (howner | ⟨⟨c, l, -, hl, -, hq⟩, -⟩)
    · exact absurd howner (by decide +kernel)
    · have hempty : ((after returned).controllers asset).map (·.controllers) = some [] := by
        decide +kernel
      rw [hl] at hempty
      have hnil : l.controllers = [] := Option.some.inj hempty
      rw [hnil] at hq
      exact absurd hq List.not_mem_nil
  · rintro hash ⟨-, -, ⟨k, c, hlabel, hassigns⟩ | ⟨hsame, -⟩⟩
    · cases hlabel
      exact hassigns
    · exact hsame ⟨bob, alice, by decide +kernel, by decide +kernel, by decide⟩
  · have hne : ((after (.assetCall asset dave .reconcile :: moved)).configs asset).map
        (·.lastKnownOwner) ≠ ((after moved).configs asset).map (·.lastKnownOwner) := by
      decide +kernel
    intro hsame
    rw [hsame] at hne
    exact hne rfl
  · rintro (howner | ⟨⟨c, l, hc, -, ho, -⟩, -⟩)
    · exact absurd howner (by decide +kernel)
    · have hlko : ((after moved).configs asset).map (fun c => some c.lastKnownOwner) ≠
          some ((after moved).assets asset) := by
        decide +kernel
      rw [hc, ho] at hlko
      exact hlko rfl
  · rintro hash ⟨-, hsame, -⟩
    exact hsame ⟨alice, bob, by decide +kernel, by decide +kernel, by decide⟩

open Ant.Small in
/-- Carol writes the record that Bob gave to her. -/
theorem authority_since_change_small : Permitted env (history bought) asset carol
    (write carol 60 none).1 (after bought) (after (call (write carol 60 none) :: bought)) :=
  authority_since_change env_root boughtScript.run start_fresh bought_disciplined
    (writtenScript.last rfl)

end Ant
end ArioSolana
