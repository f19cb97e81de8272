import ArioSolana.GarFrames

/-!
# Who decides about a gateway

The operator, the version and the operations address of a gateway stay as they are while it is
there, but for the instruction that changes the operations address. And the stake, the status, the
settings, the observer and the withdrawals of an operator change only through instructions that the
operator signs or that need no particular signer. None of this needs an invariant of the state. -/

namespace ArioSolana
namespace Gar

open Checked Solana
open Anchor (SchemaVersion)

variable {env : Env} {s s' s'' : State} {k u : Pubkey} {id : WithdrawalId} {i : Instruction}
  {g g' : Gateway} {clock : Clock} {α : Type} {f : Gateway → α}

/-- What says who may act for a gateway. -/
def Gateway.keys (g : Gateway) : Pubkey × SchemaVersion × Pubkey :=
  (g.operator, g.version, g.operationsAddress)

/-- What the operator decides about. -/
def Gateway.control (g : Gateway) : ℕ × GatewayStatus × GatewaySettings2 × Pubkey :=
  (g.operatorStake, g.status, g.settings, g.observerAddress)

/-- The gateways are there as before, with the same value of `f`. -/
def SameOn (f : Gateway → α) (s s' : State) : Prop :=
  ∀ k, (s'.gateways k).map f = (s.gateways k).map f

namespace SameOn

lemma refl (s : State) : SameOn f s s := fun _ => rfl

lemma trans (h : SameOn f s s') (h' : SameOn f s' s'') : SameOn f s s'' :=
  fun k => (h' k).trans (h k)

lemma of_eq (h : s'.gateways = s.gateways) : SameOn f s s' := fun k => by rw [h]

lemma of_update (hg : s.gateways k = some g)
    (hs' : s'.gateways = Function.update s.gateways k (some g')) (h : f g' = f g) :
    SameOn f s s' := by
  intro j
  rw [hs']
  by_cases hj : j = k
  · subst hj
    rw [Function.update_self, hg, Option.map_some, Option.map_some, h]
  · rw [Function.update_of_ne hj]

lemma of_two {j : Pubkey} {x x' : Gateway} (hne : j ≠ k) (hg : s.gateways k = some g)
    (hx : s.gateways j = some x)
    (hs' : s'.gateways = Function.update (Function.update s.gateways k (some g')) j (some x'))
    (h : f g' = f g) (h' : f x' = f x) : SameOn f s s' := by
  have hmid : SameOn f s { s with gateways := Function.update s.gateways k (some g') } :=
    .of_update hg rfl h
  have hxmid : Function.update s.gateways k (some g') j = some x :=
    (Function.update_of_ne hne ..).trans hx
  exact hmid.trans (.of_update hxmid hs' h')

lemma eq (h : SameOn f s s') (hg : s.gateways k = some g) (hg' : s'.gateways k = some g') :
    f g' = f g := by
  have heq := h k
  rw [hg, hg'] at heq
  exact Option.some.inj heq

end SameOn

/-! ### Batches -/

lemma tallyBatch_keys {settings : EpochSettings} {epoch epoch' : Epoch}
    {infos : List AccountMeta} (h : tallyBatch settings infos (s, epoch) = .ok (s', epoch')) :
    SameOn Gateway.keys s s' := by
  induction infos generalizing s epoch with
  | nil =>
    obtain ⟨rfl, -⟩ := Prod.mk.inj (pure_eq_ok.mp h)
    exact .refl _
  | cons info infos ih =>
    unfold tallyBatch at h
    split at h
    · simp only [bind_eq_ok, Prod.exists] at h
      obtain ⟨s₁, e₁, h₁, h⟩ := h
      refine SameOn.trans ?_ (ih h)
      obtain ⟨-, ⟨-, rfl, -⟩ | ⟨g, weights, weight, hg, -, -, -, -, -, rfl, -⟩⟩ := tallySlot_ok h₁
      · exact .refl _
      · exact .of_update hg rfl rfl
    · obtain ⟨rfl, -⟩ := Prod.mk.inj (pure_eq_ok.mp h)
      exact .refl _

lemma payBatch_keys {total transfer : ℕ} {xs : List PendingDistribution} {payout payout' : Payout}
    (hxs : ∀ x ∈ xs, s.gateways x.gateway.operator = some x.gateway)
    (hG : SameOn Gateway.keys s payout.state)
    (h : payBatch total transfer xs payout = .ok payout') :
    SameOn Gateway.keys s payout'.state := by
  induction xs generalizing payout with
  | nil =>
    obtain rfl := pure_eq_ok.mp h
    exact hG
  | cons x xs ih =>
    simp only [payBatch, bind_eq_ok] at h
    obtain ⟨p₁, h₁, h⟩ := h
    obtain ⟨payment, hpay, hstate, -⟩ := payPending_ok h₁
    obtain ⟨stake, cum, hgw⟩ := payGateway_gateway hpay
    have hx := hxs x List.mem_cons_self
    refine ih (fun y hy => hxs y (List.mem_cons_of_mem _ hy)) ?_ h
    intro j
    rw [hstate, State.setGateway, hgw]
    by_cases hj : j = x.gateway.operator
    · subst hj
      simp only [Function.update_self, hx]
      rfl
    · simp only [Function.update_of_ne hj]
      exact hG j

lemma distributeEpoch_keys {t : ℤ} {index : ℕ} {p q : Pubkey} {remaining : List AccountMeta}
    (h : distributeEpoch env t index p q remaining s = .ok s') :
    SameOn Gateway.keys s s' ∧ s'.withdrawals = s.withdrawals := by
  obtain ⟨settings, epoch, -, -, rfl, rfl, -, -, -, ⟨-, -, rfl⟩ |
    ⟨batch, payout, t, -, hb, hpay, -, -, hs'⟩⟩ := distributeEpoch_ok h
  · exact ⟨.of_eq rfl, rfl⟩
  · obtain ⟨idxs, xs, hpend, -, hscan, -⟩ := scanBatch_ok hb
    rw [List.nil_append] at hpend
    have hxs : ∀ x ∈ batch.pending, s.gateways x.gateway.operator = some x.gateway := by
      intro x hx
      obtain ⟨j, -, info, hslot⟩ := exists_of_forall₂ hscan (hpend ▸ hx)
      exact (scanSlot_ok hslot).1
    obtain ⟨-, G, hrest⟩ := payBatch_leaving hxs (.refl s) ⟨_, rfl⟩ hpay
    have hpaid := payBatch_keys hxs (.refl s) hpay
    rw [hs']
    exact ⟨fun k => hpaid k, by rw [hrest]⟩

/-! ### Instructions -/

/-- The operations address that the instruction gives to the gateway `k`. -/
def Instruction.rotates (i : Instruction) (k : Pubkey) : Option Pubkey :=
  match i with
  | .updateOperationsAddress operator newOperationsAddress =>
    if operator = k then some newOperationsAddress else none
  | _ => none

/-- The instruction lets `k` join. -/
def Instruction.Joins (i : Instruction) (k : Pubkey) : Prop :=
  match i with
  | .joinNetwork operator _ _ _ => operator = k
  | _ => False

instance (i : Instruction) (k : Pubkey) : Decidable (i.Joins k) := by
  unfold Instruction.Joins
  split <;> infer_instance

/-- Operators' withdrawals are from their own gateways. -/
def OwnWithdrawals (s : State) : Prop := ∀ u id w, s.withdrawals (u, id) = some w → w.Own u

/-- The withdrawals of those who do not sign stay. -/
structure OwnVaults (i : Instruction) (s s' : State) : Prop where
  others : ∀ u j, i.signer = some u → u ≠ j → ∀ id, s'.withdrawals (j, id) = s.withdrawals (j, id)
  own : OwnWithdrawals s → OwnWithdrawals s'

/-- What an instruction leaves to the operators. -/
structure Controlled (i : Instruction) (s s' : State) : Prop where
  kept : ∀ k g g', s.gateways k = some g → s'.gateways k = some g' → i.rotates k = none →
    g'.keys = g.keys
  rotated : ∀ k g g' new, s.gateways k = some g → s'.gateways k = some g' →
    i.rotates k = some new → ¬ g.version.lt operationsAddressSince ∧
      g'.keys = (g.operator, g.version, new)
  joined : ∀ k g', s.gateways k = none → s'.gateways k = some g' →
    i.Joins k ∧ g'.keys = (k, gatewayVersion, k)
  others : OwnWithdrawals s → ∀ u k, i.signer = some u → u ≠ k →
    (s'.gateways k).map Gateway.control = (s.gateways k).map Gateway.control
  vaults : OwnVaults i s s'

lemma OwnVaults.of_eq (h : s'.withdrawals = s.withdrawals) : OwnVaults i s s' where
  others _ _ _ _ _ := by rw [h]
  own hown u id w hw := hown u id w (by rw [← h]; exact hw)

lemma OwnVaults.of_update {o : Option Withdrawal}
    (hs' : s'.withdrawals = Function.update s.withdrawals (u, id) o)
    (hs : ∀ v, i.signer = some v → v = u) (ho : OwnWithdrawals s → ∀ w, o = some w → w.Own u) :
    OwnVaults i s s' where
  others v j hv hne id' := by
    obtain rfl := hs v hv
    rw [hs', Function.update_of_ne]
    exact fun heq => hne (congrArg Prod.fst heq).symm
  own hown v id' w hw := by
    rw [hs'] at hw
    by_cases hkey : (v, id') = (u, id)
    · rw [hkey, Function.update_self] at hw
      rw [(Prod.mk.inj hkey).1]
      exact ho hown w hw
    · rw [Function.update_of_ne hkey] at hw
      exact hown v id' w hw

lemma OwnVaults.of_close (hs' : s'.withdrawals = Function.update s.withdrawals (u, id) none)
    (hs : ∀ v, i.signer = some v → v = u) : OwnVaults i s s' :=
  .of_update hs' hs fun _ _ h => by cases h

lemma Controlled.same (hrot : ∀ k, i.rotates k = none) (h : SameOn Gateway.keys s s')
    (h' : OwnWithdrawals s → ∀ u k, i.signer = some u → u ≠ k →
      (s'.gateways k).map Gateway.control = (s.gateways k).map Gateway.control)
    (hW : OwnVaults i s s') : Controlled i s s' where
  kept k g g' hg hg' _ := h.eq hg hg'
  rotated k g g' new _ _ hnew := by
    rw [hrot] at hnew
    cases hnew
  joined k g' hg hg' := by
    have heq := h k
    rw [hg, hg'] at heq
    cases heq
  others := h'
  vaults := hW

lemma Controlled.unsigned (hrot : ∀ k, i.rotates k = none) (hs : i.signer = none)
    (h : SameOn Gateway.keys s s') (hW : OwnVaults i s s') : Controlled i s s' := by
  refine .same hrot h (fun _ u k hu => ?_) hW
  rw [hs] at hu
  cases hu

lemma Controlled.idle (hrot : ∀ k, i.rotates k = none) (h : s'.gateways = s.gateways)
    (hW : OwnVaults i s s') : Controlled i s s' :=
  .same hrot (.of_eq h) (fun _ _ k _ _ => by rw [h]) hW

lemma Controlled.write (hrot : ∀ k, i.rotates k = none) (hg : s.gateways k = some g)
    (hs' : s'.gateways = Function.update s.gateways k (some g')) (h : g'.keys = g.keys)
    (h' : g'.control = g.control) (hW : OwnVaults i s s') : Controlled i s s' :=
  .same hrot (.of_update hg hs' h) (fun _ _ k _ _ => SameOn.of_update hg hs' h' k) hW

lemma Controlled.signed (hrot : ∀ k, i.rotates k = none) (hg : s.gateways k = some g)
    (hs' : s'.gateways = Function.update s.gateways k (some g')) (h : g'.keys = g.keys)
    (hs : i.signer = some k) (hW : OwnVaults i s s') : Controlled i s s' := by
  refine .same hrot (.of_update hg hs' h) (fun _ u j hu hne => ?_) hW
  obtain rfl := Option.some.inj (hs.symm.trans hu)
  rw [hs', Function.update_of_ne hne.symm]

/-- Two gateways are written, without touching what their operators decide about. -/
lemma Controlled.two {j : Pubkey} {x x' : Gateway} (hrot : ∀ k, i.rotates k = none) (hne : j ≠ k)
    (hg : s.gateways k = some g) (hx : s.gateways j = some x)
    (hs' : s'.gateways = Function.update (Function.update s.gateways k (some g')) j (some x'))
    (h : g'.keys = g.keys) (h' : x'.keys = x.keys) (hc : g'.control = g.control)
    (hc' : x'.control = x.control) (hW : OwnVaults i s s') : Controlled i s s' :=
  .same hrot (.of_two hne hg hx hs' h h') (fun _ _ k _ _ => SameOn.of_two hne hg hx hs' hc hc' k) hW

/-! ### Every instruction -/

lemma joinNetwork_controlled {a p : Pubkey} {params : JoinNetworkParams} {t : ℤ}
    (h : joinNetwork t k a p params s = .ok s') :
    Controlled (.joinNetwork k a p params) s s' := by
  simp only [joinNetwork, bind_eq_ok, requireAbsent_eq_ok, splTransfer_eq_ok, pure_eq_ok,
    exists_const] at h
  obtain ⟨hnone, _, -, _, -, -, _, -, _, -, _, -, _, -, _, ⟨t, -, rfl⟩, _, -, _, -, _, -, _, -,
    _, -,
    rfl⟩ := h
  have hothers : ∀ j ≠ k, ∀ x : Gateway,
      Function.update s.gateways k (some x) j = s.gateways j := fun j hj x =>
    Function.update_of_ne hj ..
  refine ⟨fun j g g' hg hg' _ => ?_, fun j g g' new _ _ hnew => ?_, fun j g' hg hg' => ?_,
    fun _ u j hu hne => ?_, .of_eq rfl⟩
  · have hj : j ≠ k := by
      rintro rfl
      rw [hnone] at hg
      cases hg
    simp only [State.setGateway, State.setObserverLookup, hothers j hj] at hg'
    obtain rfl := Option.some.inj (hg.symm.trans hg')
    rfl
  · cases hnew
  · by_cases hj : j = k
    · subst hj
      simp only [State.setGateway, State.setObserverLookup, Function.update_self,
        Option.some.injEq] at hg'
      subst hg'
      exact ⟨rfl, rfl⟩
    · simp only [State.setGateway, State.setObserverLookup, hothers j hj] at hg'
      rw [hg] at hg'
      cases hg'
  · obtain rfl := Option.some.inj hu
    simp only [State.setGateway, State.setObserverLookup, hothers j hne.symm]

lemma updateOperationsAddress_controlled {new : Pubkey}
    (h : updateOperationsAddress k new s = .ok s') :
    Controlled (.updateOperationsAddress k new) s s' := by
  simp only [updateOperationsAddress, bind_eq_ok, loadOwnGateway_eq_ok, require_eq_ok, pure_eq_ok,
    exists_const] at h
  obtain ⟨g, ⟨hg, -⟩, -, hset, -, -, rfl⟩ := h
  refine ⟨fun j x x' hx hx' hrot => ?_, fun j x x' new' hx hx' hrot => ?_, fun j x' hx hx' => ?_,
    fun _ u j hu hne => ?_, .of_eq rfl⟩
  · by_cases hj : j = k
    · subst hj
      rw [Instruction.rotates, if_pos rfl] at hrot
      cases hrot
    · simp only [State.setGateway, Function.update_of_ne hj] at hx'
      obtain rfl := Option.some.inj (hx.symm.trans hx')
      rfl
  · simp only [Instruction.rotates] at hrot
    split at hrot
    · rename_i hj
      subst hj
      obtain rfl := Option.some.inj hrot
      simp only [State.setGateway, Function.update_self, Option.some.injEq] at hx'
      obtain rfl := Option.some.inj (hg.symm.trans hx)
      subst hx'
      exact ⟨hset, rfl⟩
    · cases hrot
  · by_cases hj : j = k
    · subst hj
      rw [hg] at hx
      cases hx
    · simp only [State.setGateway, Function.update_of_ne hj] at hx'
      rw [hx] at hx'
      cases hx'
  · obtain rfl := Option.some.inj hu
    simp only [State.setGateway, Function.update_of_ne hne.symm]

lemma updateGatewaySettings_keys {params : UpdateGatewayParams} {t : ℤ}
    (h : updateGatewaySettings t k params s = .ok s') : ∃ g g', s.gateways k = some g ∧
      s' = { s with gateways := Function.update s.gateways k (some g') } ∧ g'.keys = g.keys := by
  simp only [updateGatewaySettings, bind_eq_ok, loadOwnGateway_eq_ok, require_eq_ok, pure_eq_ok,
    exists_const] at h
  obtain ⟨g, ⟨hg, -⟩, -, g₁, h₁, g₂, h₂, _, -, _, -, rfl⟩ := h
  obtain ⟨_, _, _, _, _, _, rfl⟩ := describe_ok h₁
  refine ⟨g, _, hg, rfl, ?_⟩
  have hkeys : g₂.keys = g.keys := by
    cases hp : params.allowDelegatedStaking with
    | none =>
      simp only [hp, Option.elim_none, pure_eq_ok] at h₂
      subst h₂
      rfl
    | some allow =>
      simp only [hp, Option.elim_some] at h₂
      obtain ⟨_, _, rfl⟩ := switchDelegation_ok h₂
      rfl
  exact hkeys

lemma updateGatewayMetadata_described {signer : Pubkey} {params : UpdateGatewayMetadataParams}
    (h : updateGatewayMetadata signer k params s = .ok s') : ∃ g g', s.gateways k = some g ∧
      s' = { s with gateways := Function.update s.gateways k (some g') } ∧ g'.keys = g.keys ∧
      g'.control = g.control := by
  simp only [updateGatewayMetadata, bind_eq_ok, loadOwnGateway_eq_ok, require_eq_ok, pure_eq_ok,
    exists_const] at h
  obtain ⟨g, ⟨hg, -⟩, -, -, g₁, h₁, rfl⟩ := h
  obtain ⟨_, _, _, _, _, _, rfl⟩ := describe_ok h₁
  exact ⟨g, _, hg, rfl, rfl, rfl⟩

lemma OwnVaults.trans (h : OwnVaults i s s') (h' : OwnVaults i s' s'') : OwnVaults i s s'' where
  others u j hu hne id := (h'.others u j hu hne id).trans (h.others u j hu hne id)
  own hown := h'.own (h.own hown)

lemma ExitVaults.ownVaults {t : ℤ} {stake : ℕ} {flag : Bool}
    {C : Pubkey → Option WithdrawalCounter} {W : Pubkey × WithdrawalId → Option Withdrawal}
    (h : ExitVaults t k stake flag s C W) (hs' : s'.withdrawals = W)
    (hs : ∀ v, i.signer = some v → v = k) : OwnVaults i s s' := by
  obtain ⟨_, _, -, -, ⟨-, -, rfl⟩ | ⟨-, -, -, rfl⟩⟩ := h.vaults
  · refine .of_update hs' hs fun _ w hw => ?_
    obtain rfl := Option.some.inj hw
    exact fun _ => rfl
  · -- the vault of the minimum is written first
    let minimum := exitVault t k (loadCounter s k).nextId s.settings.minOperatorStake flag
    let W₁ := Function.update s.withdrawals (k, (loadCounter s k).nextId) (some minimum)
    have hfirst : OwnVaults i s { s with withdrawals := W₁ } := by
      refine .of_update rfl hs fun _ w hw => ?_
      obtain rfl := Option.some.inj hw
      exact fun _ => rfl
    refine hfirst.trans (.of_update hs' hs fun _ w hw => ?_)
    obtain rfl := Option.some.inj hw
    exact fun _ => rfl

lemma DrawnAt.keys {payer : Pubkey} {o : Option Gateway} {o' : Option Delegation}
    {n m left : ℕ} (h : DrawnAt s payer k o o' n m left) :
    o.map Gateway.keys = (s.gateways k).map Gateway.keys := by
  cases h with
  | untouched => rfl
  | delegation _ _ hg => rw [hg]; rfl
  | operatorStake _ _ _ hg => rw [hg]; rfl

lemma DrawnAt.control {payer : Pubkey} {o : Option Gateway} {o' : Option Delegation}
    {n m left : ℕ} (h : DrawnAt s payer k o o' n m left) (hne : payer ≠ k) :
    o.map Gateway.control = (s.gateways k).map Gateway.control := by
  cases h with
  | untouched => rfl
  | delegation _ _ hg => rw [hg]; rfl
  | operatorStake _ _ hself => exact absurd hself.symm hne

lemma PlanAccounts.own {payer : Pubkey} {t : ℤ} {named : List (Address × ℕ)}
    {residues : List (Pubkey × ℕ)} (x : PlanAccounts s s' payer t named residues)
    (hown : OwnWithdrawals s) : OwnWithdrawals s' := by
  intro u id w hw
  by_cases hu : u = payer
  · subst hu
    cases hold : s.withdrawals (u, id) with
    | some w₀ =>
      obtain ⟨-, hnew⟩ := x.withdrawals id w₀ hold
      obtain rfl := Option.some.inj (hnew.symm.trans hw)
      exact hown u id w₀ hold
    | none =>
      -- a new withdrawal holds a residue of a delegation
      have hid : nextIdOf s u ≤ id.val ∧ id.val < nextIdOf s u + residues.length := by
        by_contra hout
        have hnone := (x.absent id hold).2 (by omega)
        rw [hnone] at hw
        cases hw
      obtain ⟨r, hr⟩ : ∃ r, residues[id.val - nextIdOf s u]? = some r :=
        ⟨_, List.getElem?_eq_getElem (by omega)⟩
      obtain ⟨id', hval, -, hnew⟩ := x.vaults _ r.1 r.2 hr
      obtain rfl : id' = id := Fin.ext (by omega)
      obtain rfl := Option.some.inj (hnew.symm.trans hw)
      intro hdel
      cases hdel
  · rw [(x.others u hu).2.1 id] at hw
    exact hown u id w hw

lemma payFromFundingPlan_controlled {payer p q : Pubkey} {pta : Option Pubkey} {t : ℤ}
    {remaining : List AccountMeta} {sources : List FundingSourceSpec} {total count : ℕ}
    (h : payFromFundingPlan env t payer p q pta remaining sources total count s = .ok s') :
    Controlled (.payFromFundingPlan payer p q pta remaining sources total count) s s' := by
  obtain ⟨residues, x⟩ := payFromFundingPlan_accounts h
  refine .same (fun _ => rfl) (fun k => ?_) (fun _ u k hu hne => ?_)
    ⟨fun u j hu hne id => ?_, fun hown u id w hw => ?_⟩
  · obtain ⟨left, hdrawn, -⟩ := x.each k
    exact hdrawn.keys
  · obtain rfl := Option.some.inj hu
    obtain ⟨left, hdrawn, -⟩ := x.each k
    exact hdrawn.control hne
  · obtain rfl := Option.some.inj hu
    exact (x.others j hne.symm).2.1 id
  · exact x.own hown u id w hw

lemma finalizeGone_controlled {t : ℤ} {remaining : List AccountMeta}
    (h : finalizeGone t k remaining s = .ok s') : Controlled (.finalizeGone k remaining) s s' := by
  obtain ⟨g, settings, s₁, -, -, -, -, -, -, -, -, -, hmove, rfl⟩ := finalizeGone_ok h
  have hsame : SameOn Gateway.keys s s₁ := by
    rcases moveLastSlot_ok hmove with ⟨-, rfl⟩ | ⟨g, -, hg, rfl⟩
    · exact .refl _
    · exact .of_update hg rfl rfl
  have hkeeps : ∀ j x', Function.update s₁.gateways k none j = some x' → s₁.gateways j = some
      x' := by
    intro j x' hx'
    by_cases hj : j = k
    · subst hj
      simp at hx'
    · rwa [Function.update_of_ne hj] at hx'
  refine ⟨fun j x x' hx hx' _ => hsame.eq hx (hkeeps j x' hx'), fun j x x' new _ _ hnew => ?_,
    fun j x' hx hx' => ?_, fun _ u j hu => ?_, .of_eq ?_⟩
  · cases hnew
  · have heq := hsame j
    rw [hx, hkeeps j x' hx'] at heq
    cases heq
  · cases hu
  · rcases moveLastSlot_ok hmove with ⟨-, rfl⟩ | ⟨g, -, hg, rfl⟩ <;> rfl

lemma cancelWithdrawal_controlled {withDelegation : Bool}
    (h : cancelWithdrawal u k id withDelegation s = .ok s') :
    Controlled (.cancelWithdrawal u k id withDelegation) s s' := by
  have hs : ∀ v, (Instruction.cancelWithdrawal u k id withDelegation).signer = some v → v = u :=
    fun _ hv => (Option.some.inj hv).symm
  obtain ⟨w, g, hw, hg, hgw, -, ⟨-, d, -, rfl⟩ | ⟨hdel, rfl⟩⟩ := cancelWithdrawal_ok h
  · exact .write (fun _ => rfl) hg rfl rfl rfl (.of_close rfl hs)
  · refine .same (fun _ => rfl) (.of_update hg rfl rfl) (fun hown v j hv hne => ?_)
      (.of_close rfl hs)
    -- the gateway that gets the stake back is the owner's own
    have hk : k = u := hgw.symm.trans (hown u id w hw hdel)
    have hj : j ≠ k := by
      rintro rfl
      exact hne ((hs v hv).trans hk.symm)
    simp only [Function.update_of_ne hj]

lemma Instruction.IsEpochOnly.rotates (he : i.IsEpochOnly) (k : Pubkey) : i.rotates k = none := by
  cases i with
  | updateOperationsAddress => exact absurd he id
  | _ => rfl

/-- **What every instruction leaves to the operators.** -/
theorem handler_controlled (h : i.handler env clock s = .ok s') : Controlled i s s' := by
  by_cases he : i.IsEpochOnly
  · obtain ⟨_, _, _, _, rfl⟩ := handler_epochOnly he h
    exact .idle he.rotates rfl (.of_eq rfl)
  cases i <;> try exact absurd trivial he
  all_goals simp only [Instruction.handler] at h
  case adminSetWithdrawalPeriod authority period =>
    simp only [adminSetWithdrawalPeriod, bind_eq_ok, pure_eq_ok] at h
    obtain ⟨_, -, _, -, rfl⟩ := h
    exact .idle (fun _ => rfl) rfl (.of_eq rfl)
  case transferAuthority authority newAuthority =>
    simp only [transferAuthority, bind_eq_ok, pure_eq_ok] at h
    obtain ⟨_, -, _, -, rfl⟩ := h
    exact .idle (fun _ => rfl) rfl (.of_eq rfl)
  case finalizeMigration authority =>
    simp only [finalizeMigration, bind_eq_ok, pure_eq_ok] at h
    obtain ⟨_, -, _, -, rfl⟩ := h
    exact .idle (fun _ => rfl) rfl (.of_eq rfl)
  case joinNetwork operator account pool params => exact joinNetwork_controlled h
  case leaveNetwork operator excess remaining =>
    obtain ⟨g, settings, C, W, L, hg, -, -, -, hexit, -, -, -, rfl⟩ := leaveNetwork_ok h
    exact .signed (fun _ => rfl) hg rfl rfl rfl (hexit.ownVaults rfl fun _ hv =>
      (Option.some.inj hv).symm)
  case updateGatewaySettings operator params =>
    obtain ⟨g, g', hg, rfl, hkeys⟩ := updateGatewaySettings_keys h
    exact .signed (fun _ => rfl) hg rfl hkeys rfl (.of_eq rfl)
  case updateGatewayMetadata signer operator params =>
    obtain ⟨g, g', hg, rfl, hkeys, hcontrol⟩ := updateGatewayMetadata_described h
    exact .write (fun _ => rfl) hg rfl hkeys hcontrol (.of_eq rfl)
  case updateOperationsAddress operator newOperations => exact updateOperationsAddress_controlled h
  case updateObserverAddress operator newObserver =>
    obtain ⟨g, hg, -, -, -, -, -, rfl⟩ := updateObserverAddress_ok h
    exact .signed (fun _ => rfl) hg rfl rfl rfl (.of_eq rfl)
  case pruneGateway operator pool treasury excess remaining =>
    obtain ⟨g, settings, slash, C, W, L, t, hg, -, -, -, -, -, hexit, -, -, -, -, rfl⟩ :=
      pruneGateway_ok h
    exact .unsigned (fun _ => rfl) rfl (.of_update hg rfl rfl)
      (hexit.ownVaults rfl fun _ hv => by cases hv)
  case finalizeGone operator remaining => exact finalizeGone_controlled h
  case increaseOperatorStake operator account pool amount =>
    obtain ⟨g, t, hg, -, -, -, -, rfl⟩ := increaseOperatorStake_ok h
    exact .signed (fun _ => rfl) hg rfl rfl rfl (.of_eq rfl)
  case decreaseOperatorStake operator amount =>
    obtain ⟨g, nextId, hg, -, -, -, -, -, rfl⟩ := decreaseOperatorStake_ok h
    exact .signed (fun _ => rfl) hg rfl rfl rfl (.of_update rfl
      (fun _ hv => (Option.some.inj hv).symm) fun _ w hw => by
        obtain rfl := Option.some.inj hw
        exact fun _ => rfl)
  case delegateStake delegator gateway account pool remaining amount =>
    obtain ⟨g, d, t, hg, -, -, -, -, -, rfl⟩ := delegateStake_ok h
    exact .write (fun _ => rfl) hg rfl rfl rfl (.of_eq rfl)
  case decreaseDelegateStake delegator gateway amount =>
    obtain ⟨g, d, amount, hg, -, -, -, h⟩ := decreaseDelegateStake_ok h
    obtain ⟨nextId, -, -, rfl⟩ := vaultDelegation_ok h
    exact .write (fun _ => rfl) hg rfl rfl rfl (.of_update rfl
      (fun _ hv => (Option.some.inj hv).symm) fun _ w hw => by
        obtain rfl := Option.some.inj hw
        exact fun hdel => by cases hdel)
  case claimDelegateFromLeavingGateway delegator gateway =>
    obtain ⟨g, d, amount, hg, -, -, -, h⟩ := claimDelegateFromLeavingGateway_ok h
    obtain ⟨nextId, -, -, rfl⟩ := vaultDelegation_ok h
    exact .unsigned (fun _ => rfl) rfl (.of_update hg rfl rfl) (.of_update rfl
      (fun _ hv => by cases hv) fun _ w hw => by
        obtain rfl := Option.some.inj hw
        exact fun hdel => by cases hdel)
  case claimDelegateFromDisabledGateway delegator gateway =>
    obtain ⟨g, d, amount, hg, -, -, -, h⟩ := claimDelegateFromDisabledGateway_ok h
    obtain ⟨nextId, -, -, rfl⟩ := vaultDelegation_ok h
    exact .unsigned (fun _ => rfl) rfl (.of_update hg rfl rfl) (.of_update rfl
      (fun _ hv => by cases hv) fun _ w hw => by
        obtain rfl := Option.some.inj hw
        exact fun hdel => by cases hdel)
  case closeEmptyDelegation delegator gateway =>
    obtain ⟨g, d, hg, -, -, rfl⟩ := closeEmptyDelegation_ok h
    exact .unsigned (fun _ => rfl) rfl (.of_update hg rfl rfl) (.of_eq rfl)
  case redelegateStake delegator source target account pool treasury remaining amount =>
    obtain ⟨g, d, g', d', fee, t, record, hne, hg, -, hg', -, -, -, -, -, rfl⟩ :=
      redelegateStake_ok h
    exact .two (fun _ => rfl) hne.symm hg hg' rfl rfl rfl rfl rfl (.of_eq rfl)
  case compoundDelegationRewards delegator gateway =>
    obtain ⟨g, d, hg, -, rfl⟩ := compoundDelegationRewards_ok h
    exact .unsigned (fun _ => rfl) rfl (.of_update hg rfl rfl) (.of_eq rfl)
  case allowDelegate operator delegate =>
    obtain ⟨_, rfl⟩ := allowDelegate_ok h
    exact .idle (fun _ => rfl) rfl (.of_eq rfl)
  case disallowDelegate operator delegate =>
    rw [disallowDelegate_ok h]
    exact .idle (fun _ => rfl) rfl (.of_eq rfl)
  case setAllowlistEnabled operator enabled =>
    obtain ⟨g, hg, rfl⟩ := setAllowlistEnabled_ok h
    exact .signed (fun _ => rfl) hg rfl rfl rfl (.of_eq rfl)
  case claimWithdrawal owner id pool account =>
    obtain ⟨_, _, -, -, -, -, rfl⟩ := claimWithdrawal_ok h
    exact .idle (fun _ => rfl) rfl (.of_close rfl fun _ hv => (Option.some.inj hv).symm)
  case instantWithdrawal owner id pool account treasury =>
    obtain ⟨_, _, _, _, -, -, -, -, -, -, -, rfl⟩ := instantWithdrawal_ok h
    exact .idle (fun _ => rfl) rfl (.of_close rfl fun _ hv => (Option.some.inj hv).symm)
  case cancelWithdrawal owner gateway id withDelegation =>
    exact cancelWithdrawal_controlled h
  case closeDrainedWithdrawal owner id =>
    obtain ⟨_, -, -, rfl⟩ := closeDrainedWithdrawal_ok h
    exact .unsigned (fun _ => rfl) rfl (.of_eq rfl) (.of_close rfl fun _ hv => by cases hv)
  case deductDelegationForPayment delegator gateway pool treasury amount =>
    obtain ⟨g, d, t, hg, -, -, -, -, rfl⟩ := deductDelegationForPayment_ok h
    exact .write (fun _ => rfl) hg rfl rfl rfl (.of_eq rfl)
  case deductOperatorStakeForPayment operator pool treasury amount =>
    obtain ⟨g, t, hg, -, -, -, -, rfl⟩ := deductOperatorStakeForPayment_ok h
    exact .signed (fun _ => rfl) hg rfl rfl rfl (.of_eq rfl)
  case deductWithdrawalForPayment owner id pool treasury amount =>
    obtain ⟨w, _, hw, -, -, -, rfl⟩ := deductWithdrawalForPayment_ok h
    exact .idle (fun _ => rfl) rfl (.of_update rfl (fun _ hv => (Option.some.inj hv).symm)
      fun hown w' hw' => by
        obtain rfl := Option.some.inj hw'
        exact hown owner id w hw)
  case payFromFundingPlan payer pool treasury account remaining sources total count =>
    exact payFromFundingPlan_controlled h
  case adminReconcileDelegatedStake authority gateway remaining counter removed =>
    obtain ⟨g, sum, hg, -, -, rfl⟩ := adminReconcileDelegatedStake_ok h
    exact .write (fun _ => rfl) hg rfl rfl rfl (.of_eq rfl)
  case adminResyncSupplyCounters authority es ns ed nd =>
    rw [adminResyncSupplyCounters_ok h]
    exact .idle (fun _ => rfl) rfl (.of_eq rfl)
  case tallyWeights index remaining =>
    obtain ⟨settings, epoch, s₁, epoch', -, -, -, -, -, hbatch, rfl⟩ := tallyWeights_ok h
    obtain ⟨G, r, rfl⟩ := (tallyBatch_tallied hbatch).rest
    exact .unsigned (fun _ => rfl) rfl (fun k => tallyBatch_keys hbatch k) (.of_eq rfl)
  case distributeEpoch index treasury pool remaining =>
    exact .unsigned (fun _ => rfl) rfl (distributeEpoch_keys h).1
      (.of_eq (distributeEpoch_keys h).2)

end Gar
end ArioSolana
