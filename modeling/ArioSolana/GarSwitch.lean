import ArioSolana.GarStakers

/-!
# What an instruction leaves alone

Every instruction but one leaves the delegation switch of a gateway alone, and while the switch is
off none raises the delegated stake by more than the rewards it settles. The accounts of the program
never change, and only redelegation writes to redelegation records. All this needs no invariant.
-/

namespace ArioSolana
namespace Gar

open Checked Solana

variable {env : Env} {s s' : State} {k u : Pubkey} {g g' : Gateway} {i : Instruction}
  {clock : Clock}

/-! ### One gateway -/

/-- Rewards that a step may settle into the principal of one delegation to the gateway `k`. -/
def Settles (s : State) (k : Pubkey) (g : Gateway) (settled : ℕ) : Prop :=
  settled = 0 ∨ ∃ u d, s.delegations (k, u) = some d ∧
    settled = (settleDelegateRewards g d).settled

/-- The gateway `k` before and after a step that does not touch its delegation switch. -/
structure Held (s : State) (k : Pubkey) (g g' : Gateway) : Prop where
  allowed : g'.settings.allowDelegatedStaking = g.settings.allowDelegatedStaking
  disabledAt : g'.settings.delegationDisabledAt = g.settings.delegationDisabledAt
  counter : g.settings.allowDelegatedStaking = false → ∃ settled, Settles s k g settled ∧
    g'.totalDelegatedStake ≤ g.totalDelegatedStake + settled

/-- A step keeps all gateways that there were, and a new one was never disabled. -/
structure AllHeld (s s' : State) : Prop where
  held : ∀ k g g', s.gateways k = some g → s'.gateways k = some g' → Held s k g g'
  fresh : ∀ k g', s.gateways k = none → s'.gateways k = some g' →
    g'.settings.delegationDisabledAt = none

/-- Nobody delegates to the own gateway. -/
def NoSelf (s : State) : Prop := ∀ k, s.delegations (k, k) = none

lemma NoSelf.of_eq (h : NoSelf s) (hs' : s'.delegations = s.delegations) : NoSelf s' := by
  intro k
  rw [hs']
  exact h k

lemma NoSelf.of_update {v : Option Delegation} (h : NoSelf s)
    (hne : u ≠ k ∨ (s.delegations (k, u)).isSome)
    (hs' : s'.delegations = Function.update s.delegations (k, u) v) : NoSelf s' := by
  have hne' : u ≠ k := by
    rcases hne with hne | hsome
    · exact hne
    · rintro rfl
      rw [h] at hsome
      cases hsome
  intro j
  rw [hs', Function.update_of_ne]
  · exact h j
  · intro heq
    obtain ⟨rfl, rfl⟩ := Prod.mk.inj heq
    exact hne' rfl

lemma NoSelf.of_two_updates {j w : Pubkey} {v v' : Option Delegation} (h : NoSelf s)
    (hsome : (s.delegations (k, u)).isSome) (hne : w ≠ j)
    (hs' : s'.delegations
      = Function.update (Function.update s.delegations (k, u) v) (j, w) v') : NoSelf s' := by
  have hmid : NoSelf { s with delegations := Function.update s.delegations (k, u) v } :=
    h.of_update (.inr hsome) rfl
  exact hmid.of_update (.inl hne) hs'

lemma Held.mk_of_le (h : g'.settings.allowDelegatedStaking = g.settings.allowDelegatedStaking)
    (h' : g'.settings.delegationDisabledAt = g.settings.delegationDisabledAt)
    (hle : g'.totalDelegatedStake ≤ g.totalDelegatedStake) : Held s k g g' :=
  ⟨h, h', fun _ => ⟨0, .inl rfl, hle⟩⟩

lemma Held.refl : Held s k g g := .mk_of_le rfl rfl le_rfl

lemma settle_total_le (g : Gateway) (d : Delegation) :
    (settleDelegateRewards g d).gateway.totalDelegatedStake
      ≤ g.totalDelegatedStake + (settleDelegateRewards g d).settled := by
  have htotal : (settleDelegateRewards g d).gateway.totalDelegatedStake
      = if 0 < (settleDelegateRewards g d).settled then
        saturatingAdd 64 g.totalDelegatedStake (settleDelegateRewards g d).settled
      else g.totalDelegatedStake := rfl
  rw [htotal]
  split
  · exact saturatingAdd_le
  · exact Nat.le_add_right ..

lemma Held.mk_of_settle {d : Delegation} {total : ℕ} (hd : s.delegations (k, u) = some d)
    (hle : total ≤ (settleDelegateRewards g d).gateway.totalDelegatedStake) :
    Held s k g { (settleDelegateRewards g d).gateway with totalDelegatedStake := total } :=
  ⟨rfl, rfl, fun _ => ⟨_, .inr ⟨u, d, hd, rfl⟩, hle.trans (settle_total_le g d)⟩⟩

lemma Held.mk_of_allowed (h : g'.settings = g.settings)
    (hon : g.settings.allowDelegatedStaking = true) : Held s k g g' :=
  ⟨by rw [h], by rw [h], fun hoff => by rw [hon] at hoff; cases hoff⟩

lemma AllHeld.of_eq (h : s'.gateways = s.gateways) : AllHeld s s' where
  held k g g' hg hg' := by
    rw [h, hg] at hg'
    obtain rfl := Option.some.inj hg'
    exact .refl
  fresh k g' hnone hg' := by
    rw [h, hnone] at hg'
    cases hg'

lemma AllHeld.of_update (hg : s.gateways k = some g)
    (hs' : s'.gateways = Function.update s.gateways k (some g')) (h : Held s k g g') :
    AllHeld s s' where
  held j x x' hx hx' := by
    rw [hs'] at hx'
    by_cases hj : j = k
    · subst hj
      rw [Function.update_self] at hx'
      obtain rfl := Option.some.inj (hg.symm.trans hx)
      obtain rfl := Option.some.inj hx'
      exact h
    · rw [Function.update_of_ne hj, hx] at hx'
      obtain rfl := Option.some.inj hx'
      exact .refl
  fresh j x' hnone hx' := by
    rw [hs'] at hx'
    by_cases hj : j = k
    · subst hj
      rw [hg] at hnone
      cases hnone
    · rw [Function.update_of_ne hj, hnone] at hx'
      cases hx'

/-- A gateway that is written back as it was, the counter included. -/
def Gateway.gate (g : Gateway) : Bool × Option ℤ × ℕ :=
  (g.settings.allowDelegatedStaking, g.settings.delegationDisabledAt, g.totalDelegatedStake)

lemma Held.of_gate (h : g'.gate = g.gate) : Held s k g g' := by
  obtain ⟨h₁, h₂, h₃⟩ : _ ∧ _ ∧ _ := by simpa only [Gateway.gate, Prod.mk.injEq] using h
  exact .mk_of_le h₁ h₂ h₃.le

/-- A step that keeps switches and counters of all gateways. -/
def SameGates (s s' : State) : Prop :=
  ∀ k, (s'.gateways k).map Gateway.gate = (s.gateways k).map Gateway.gate

lemma SameGates.refl (s : State) : SameGates s s := fun _ => rfl

lemma SameGates.trans {s'' : State} (h : SameGates s s') (h' : SameGates s' s'') :
    SameGates s s'' := fun k => (h' k).trans (h k)

lemma SameGates.of_update (hg : s.gateways k = some g)
    (hs' : s'.gateways = Function.update s.gateways k (some g')) (h : g'.gate = g.gate) :
    SameGates s s' := by
  intro j
  rw [hs']
  by_cases hj : j = k
  · subst hj
    rw [Function.update_self, hg, Option.map_some, Option.map_some, h]
  · rw [Function.update_of_ne hj]

lemma AllHeld.congr {s₁ : State} (h : AllHeld s s₁) (heq : s'.gateways = s₁.gateways) :
    AllHeld s s' :=
  ⟨fun k g g' hg hg' => h.held k g g' hg (heq ▸ hg'),
    fun k g' hnone hg' => h.fresh k g' hnone (heq ▸ hg')⟩

lemma AllHeld.of_two {j : Pubkey} {x x' : Gateway} (hne : k ≠ j) (hg : s.gateways k = some g)
    (hx : s.gateways j = some x)
    (hs' : s'.gateways
      = Function.update (Function.update s.gateways k (some g')) j (some x'))
    (h : Held s k g g') (h' : Held s j x x') : AllHeld s s' where
  held i y y' hy hy' := by
    rw [hs'] at hy'
    by_cases hij : i = j
    · subst hij
      rw [Function.update_self] at hy'
      obtain rfl := Option.some.inj (hx.symm.trans hy)
      obtain rfl := Option.some.inj hy'
      exact h'
    · rw [Function.update_of_ne hij] at hy'
      have hone : AllHeld s { s with gateways := Function.update s.gateways k (some g') } :=
        .of_update hg rfl h
      exact hone.held i y y' hy hy'
  fresh i y' hnone hy' := by
    have hik : i ≠ k := by
      rintro rfl
      rw [hg] at hnone
      cases hnone
    have hij : i ≠ j := by
      rintro rfl
      rw [hx] at hnone
      cases hnone
    rw [hs', Function.update_of_ne hij, Function.update_of_ne hik, hnone] at hy'
    cases hy'

lemma SameGates.allHeld (h : SameGates s s') : AllHeld s s' where
  held k g g' hg hg' := by
    have hgate := h k
    rw [hg, hg', Option.map_some, Option.map_some] at hgate
    exact .of_gate (Option.some.inj hgate)
  fresh k g' hnone hg' := by
    have hgate := h k
    rw [hnone, hg', Option.map_some, Option.map_none] at hgate
    cases hgate

/-! ### All accounts -/

def Instruction.IsRedelegation : Instruction → Prop
  | .redelegateStake .. => True
  | _ => False

/-- The instruction is an update of the settings of the gateway `k`. -/
def Instruction.Updates (i : Instruction) (k : Pubkey) : Prop :=
  match i with
  | .updateGatewaySettings operator _ => operator = k
  | _ => False

/-- What an instruction leaves alone. -/
structure Regular (i : Instruction) (s s' : State) : Prop where
  pool : s'.settings.stakeTokenAccount = s.settings.stakeTokenAccount
  treasury : s'.settings.protocolTokenAccount = s.settings.protocolTokenAccount
  redelegations : ¬ i.IsRedelegation → s'.redelegations = s.redelegations
  gateways : ∀ k g g', s.gateways k = some g → s'.gateways k = some g' → ¬ i.Updates k →
    Held s k g g'
  fresh : ∀ k g', s.gateways k = none → s'.gateways k = some g' →
    g'.settings.delegationDisabledAt = none
  noSelf : NoSelf s → NoSelf s'

lemma AllHeld.regular (h : AllHeld s s')
    (h₁ : s'.settings.stakeTokenAccount = s.settings.stakeTokenAccount)
    (h₂ : s'.settings.protocolTokenAccount = s.settings.protocolTokenAccount)
    (h₃ : s'.redelegations = s.redelegations) (h₄ : NoSelf s → NoSelf s') : Regular i s s' :=
  ⟨h₁, h₂, fun _ => h₃, fun k g g' hg hg' _ => h.held k g g' hg hg', h.fresh, h₄⟩

lemma Regular.idle (h : s'.gateways = s.gateways)
    (h₁ : s'.settings.stakeTokenAccount = s.settings.stakeTokenAccount)
    (h₂ : s'.settings.protocolTokenAccount = s.settings.protocolTokenAccount)
    (h₃ : s'.redelegations = s.redelegations) (h₄ : s'.delegations = s.delegations) :
    Regular i s s' :=
  (AllHeld.of_eq h).regular h₁ h₂ h₃ fun hself => hself.of_eq h₄

lemma Regular.write (hg : s.gateways k = some g)
    (hs' : s'.gateways = Function.update s.gateways k (some g')) (h : Held s k g g')
    (h₁ : s'.settings.stakeTokenAccount = s.settings.stakeTokenAccount)
    (h₂ : s'.settings.protocolTokenAccount = s.settings.protocolTokenAccount)
    (h₃ : s'.redelegations = s.redelegations) (h₄ : s'.delegations = s.delegations) :
    Regular i s s' :=
  (AllHeld.of_update hg hs' h).regular h₁ h₂ h₃ fun hself => hself.of_eq h₄

lemma Regular.both {v : Option Delegation} (hg : s.gateways k = some g)
    (hs' : s'.gateways = Function.update s.gateways k (some g'))
    (hs'' : s'.delegations = Function.update s.delegations (k, u) v) (h : Held s k g g')
    (hne : u ≠ k ∨ (s.delegations (k, u)).isSome)
    (h₁ : s'.settings.stakeTokenAccount = s.settings.stakeTokenAccount)
    (h₂ : s'.settings.protocolTokenAccount = s.settings.protocolTokenAccount)
    (h₃ : s'.redelegations = s.redelegations) : Regular i s s' :=
  (AllHeld.of_update hg hs' h).regular h₁ h₂ h₃ fun hself => hself.of_update hne hs''

/-! ### Admission -/

/-- The gateway `k` admits the delegate `u`: it is joined and lets delegates in, the delegate is not
its operator, and an empty delegation needs an entry of the allowlist if that is enabled. -/
def Admits (s : State) (k u : Pubkey) : Prop :=
  ∃ g, s.gateways k = some g ∧ g.status = .joined ∧ g.settings.allowDelegatedStaking = true ∧
    u ≠ k ∧ (g.settings.allowlistEnabled = true →
      ((s.delegations (k, u)).getD Delegation.zeroed).amount = 0 →
      (s.allowlist (k, u)).isSome = true)

lemma delegateStake_admits {a p : Pubkey} {remaining : List AccountMeta} {amount : ℕ} {t : ℤ}
    (h : delegateStake t u k a p remaining amount s = .ok s') : Admits s k u := by
  simp only [delegateStake, bind_eq_ok, loadGateway_eq_ok, require_eq_ok, exists_const] at h
  obtain ⟨g, ⟨hg, rfl⟩, -, -, -, -, -, hon, -, hst, hne, hlisted, -⟩ := h
  exact ⟨g, hg, hst, hon, hne, fun hen hzero => (hlisted ⟨hen, hzero⟩).2⟩

lemma redelegateStake_admits {src tgt p q : Pubkey} {acc : TokenAccount}
    {remaining : List AccountMeta} {amount : ℕ} {t : ℤ}
    (h : redelegateStake env t u src tgt acc p q remaining amount s = .ok s') : Admits s tgt u := by
  simp only [redelegateStake, bind_eq_ok, loadGateway_eq_ok, loadDelegation_eq_ok, require_eq_ok,
    exists_const] at h
  obtain ⟨_, -, g, ⟨hg, rfl⟩, _, -, -, -, -, -, -, -, -, -, -, hst, hon, hne, hlisted, -⟩ := h
  exact ⟨g, hg, hst, hon, hne, fun hen hzero => (hlisted ⟨hen, hzero⟩).2⟩

/-- Canceling the withdrawal of a delegate checks all but the delegate and the allowlist. -/
lemma cancelWithdrawal_allowed {id : WithdrawalId} {withDelegation : Bool}
    (h : cancelWithdrawal u k id withDelegation s = .ok s') :
    ∃ w g, s.withdrawals (u, id) = some w ∧ s.gateways k = some g ∧ g.status = .joined ∧
      (w.isDelegate = true → g.settings.allowDelegatedStaking = true) := by
  simp only [cancelWithdrawal, bind_eq_ok, loadGateway_eq_ok, loadWithdrawal_eq_ok, require_eq_ok,
    exists_const] at h
  obtain ⟨g, ⟨hg, rfl⟩, w, ⟨hw, -, -⟩, -, _, -, hst, h⟩ := h
  refine ⟨w, g, hw, hg, hst, fun hdel => ?_⟩
  rw [if_pos hdel] at h
  simp only [bind_eq_ok, require_eq_ok, exists_const] at h
  obtain ⟨_, -, hon, -⟩ := h
  exact hon

/-! ### A funding plan -/

section Plan

variable {payer : Pubkey} {amount : ℕ} {plan plan' : FundingPlan} {b : Bool}

/-- The walk over the sources so far: it wrote to each gateway at most once. -/
structure Walked (s : State) (plan : FundingPlan) : Prop where
  rest : ∃ G D W, plan.state = { s with gateways := G, delegations := D, withdrawals := W }
  unseen : ∀ k ∉ plan.gatewaysSeen, plan.state.gateways k = s.gateways k ∧
    ∀ u, plan.state.delegations (k, u) = s.delegations (k, u)
  held : AllHeld s plan.state
  noSelf : NoSelf s → NoSelf plan.state

lemma Walked.start {remaining : List AccountMeta} : Walked s { state := s, remaining } :=
  ⟨⟨_, _, _, rfl⟩, fun _ _ => ⟨rfl, fun _ => rfl⟩, .of_eq rfl, id⟩

lemma Walked.write (w : Walked s plan) {D : Pubkey × Pubkey → Option Delegation}
    (hk : k ∉ plan.gatewaysSeen) (hseen : plan'.gatewaysSeen = k :: plan.gatewaysSeen)
    (hg : plan.state.gateways k = some g) (hD : ∀ j ≠ k, ∀ u, D (j, u) = plan.state.delegations
      (j, u))
    (hs' : plan'.state = { plan.state with
      gateways := Function.update plan.state.gateways k (some g'), delegations := D })
    (h : Held s k g g') (hself : NoSelf plan.state → NoSelf plan'.state) : Walked s plan' := by
  obtain ⟨G, D₀, W, hstate⟩ := w.rest
  have hG' : plan'.state.gateways = Function.update plan.state.gateways k (some g') := by rw [hs']
  have hD' : plan'.state.delegations = D := by rw [hs']
  have hg₀ : s.gateways k = some g := (w.unseen k hk).1.symm.trans hg
  refine ⟨⟨_, _, W, by rw [hs', hstate]⟩, ?_, ⟨?_, ?_⟩, hself ∘ w.noSelf⟩
  · intro j hj
    rw [hseen, List.mem_cons, not_or] at hj
    obtain ⟨hG, hD₁⟩ := w.unseen j hj.2
    rw [hG', hD']
    exact ⟨by rw [Function.update_of_ne hj.1, hG], fun u => by rw [hD j hj.1, hD₁]⟩
  · intro j x x' hx hx'
    rw [hG'] at hx'
    by_cases hj : j = k
    · subst hj
      rw [Function.update_self] at hx'
      obtain rfl := Option.some.inj (hg₀.symm.trans hx)
      obtain rfl := Option.some.inj hx'
      exact h
    · rw [Function.update_of_ne hj] at hx'
      exact w.held.held j x x' hx hx'
  · intro j x' hnone hx'
    rw [hG'] at hx'
    by_cases hj : j = k
    · subst hj
      rw [hg₀] at hnone
      cases hnone
    · rw [Function.update_of_ne hj] at hx'
      exact w.held.fresh j x' hnone hx'

lemma Walked.draw {source : FundingSourceSpec} (w : Walked s plan)
    (h : plan.draw payer b source = .ok plan') : Walked s plan' := by
  unfold FundingPlan.draw at h
  split at h
  · simp only [FundingPlan.drawBalance, bind_eq_ok, pure_eq_ok] at h
    obtain ⟨-, -, _, -, rfl⟩ := h
    exact ⟨w.rest, w.unseen, w.held, w.noSelf⟩
  · obtain ⟨k, g, d, residue, hg, -, hd, -, -, hs', -, -, -, -, -, -, -, -, hunseen, hseen, -⟩ :=
      drawDelegation_ok h
    have hd₀ : s.delegations (k, payer) = some d := by
      rw [← (w.unseen _ hunseen).2]
      exact hd
    refine w.write hunseen hseen hg (fun j hj v => ?_) hs' (.mk_of_settle hd₀ (Nat.sub_le ..))
      fun hself => hself.of_update (.inr (by rw [hd]; rfl)) (by rw [hs'])
    exact Function.update_of_ne (fun heq => hj (congrArg Prod.fst heq)) ..
  · obtain ⟨g, hg, -, -, -, -, hs', -, -, -, -, -, -, -, -, hunseen, hseen, -⟩ :=
      drawOperatorStake_ok h
    exact w.write hunseen hseen hg (fun _ _ _ => rfl) hs' (.of_gate rfl)
      fun hself => hself.of_eq (by rw [hs'])
  · obtain ⟨id, x, -, -, -, hs', -, -, -, -, -, -, -, -, hseen, -⟩ := drawWithdrawal_ok h
    obtain ⟨G, D, W, hstate⟩ := w.rest
    refine ⟨⟨G, D, _, by rw [hs', hstate]⟩, ?_, w.held.congr (by rw [hs']),
      fun hself => (w.noSelf hself).of_eq (by rw [hs'])⟩
    rw [hseen, hs']
    exact w.unseen

lemma Walked.drawAll {sources : List FundingSourceSpec} (w : Walked s plan)
    (h : FundingPlan.drawAll payer b sources plan = .ok plan') : Walked s plan' := by
  induction sources generalizing plan with
  | nil =>
    obtain rfl := pure_eq_ok.mp h
    exact w
  | cons source sources ih =>
    simp only [FundingPlan.drawAll, bind_eq_ok] at h
    obtain ⟨p₁, h₁, h⟩ := h
    exact ih (w.draw h₁) h

end Plan

/-! ### Batches -/

lemma tallyBatch_gates {settings : EpochSettings} {epoch epoch' : Epoch} {infos : List AccountMeta}
    (h : tallyBatch settings infos (s, epoch) = .ok (s', epoch')) : SameGates s s' := by
  induction infos generalizing s epoch with
  | nil =>
    obtain ⟨rfl, -⟩ := Prod.mk.inj (pure_eq_ok.mp h)
    exact .refl _
  | cons info infos ih =>
    unfold tallyBatch at h
    split at h
    · simp only [bind_eq_ok, Prod.exists] at h
      obtain ⟨s₁, e₁, h₁, h⟩ := h
      refine SameGates.trans ?_ (ih h)
      obtain ⟨-, ⟨-, rfl, -⟩ | ⟨g, weights, weight, hg, -, -, -, -, -, rfl, -⟩⟩ := tallySlot_ok h₁
      · exact .refl _
      · exact .of_update hg rfl rfl
    · obtain ⟨rfl, -⟩ := Prod.mk.inj (pure_eq_ok.mp h)
      exact .refl _

lemma payGateway_gate {r : ℕ} {had : Bool} {payment : Payment}
    (h : payGateway g r had = .ok payment) :
    payment.gateway.operator = g.operator ∧ payment.gateway.gate = g.gate := by
  simp only [payGateway] at h
  split at h
  · simp only [bind_eq_ok, pure_eq_ok] at h
    obtain ⟨_, -, _, -, rfl⟩ := h
    exact ⟨rfl, rfl⟩
  · obtain rfl := pure_eq_ok.mp h
    exact ⟨rfl, rfl⟩

lemma payBatch_gates {total transfer : ℕ} {xs : List PendingDistribution} {payout payout' : Payout}
    (hxs : ∀ x ∈ xs, s.gateways x.gateway.operator = some x.gateway)
    (hG : SameGates s payout.state) (hrest : ∃ G, payout.state = { s with gateways := G })
    (h : payBatch total transfer xs payout = .ok payout') :
    SameGates s payout'.state ∧ ∃ G, payout'.state = { s with gateways := G } := by
  induction xs generalizing payout with
  | nil =>
    obtain rfl := pure_eq_ok.mp h
    exact ⟨hG, hrest⟩
  | cons x xs ih =>
    simp only [payBatch, bind_eq_ok] at h
    obtain ⟨p₁, h₁, h⟩ := h
    obtain ⟨payment, hpay, hstate, -⟩ := payPending_ok h₁
    obtain ⟨hop, hgate⟩ := payGateway_gate hpay
    have hx := hxs x (List.mem_cons_self ..)
    obtain ⟨G, hG'⟩ := hrest
    refine ih (fun y hy => hxs y (List.mem_cons_of_mem _ hy)) ?_ ⟨_, by rw [hstate, hG']; rfl⟩ h
    intro j
    rw [hstate, State.setGateway, hop]
    by_cases hj : j = x.gateway.operator
    · subst hj
      rw [hx]
      simp only [Function.update_self, Option.map_some]
      exact congrArg some hgate
    · simp only [Function.update_of_ne hj]
      exact hG j

lemma distributeEpoch_regular {t : ℤ} {index : ℕ} {p q : Pubkey} {remaining : List AccountMeta}
    (h : distributeEpoch env t index p q remaining s = .ok s') : Regular i s s' := by
  obtain ⟨settings, epoch, -, -, rfl, rfl, -, -, -, ⟨-, -, rfl⟩ |
    ⟨batch, payout, t, -, hb, hpay, -, -, hs'⟩⟩ := distributeEpoch_ok h
  · exact .idle rfl rfl rfl rfl rfl
  · obtain ⟨idxs, xs, hpend, -, hscan, -⟩ := scanBatch_ok hb
    rw [List.nil_append] at hpend
    have hxs : ∀ x ∈ batch.pending, s.gateways x.gateway.operator = some x.gateway := by
      intro x hx
      obtain ⟨j, -, info, hslot⟩ := exists_of_forall₂ hscan (hpend ▸ hx)
      exact (scanSlot_ok hslot).1
    obtain ⟨hG, G, hrest⟩ := payBatch_gates hxs (.refl s) ⟨_, rfl⟩ hpay
    have hheld : AllHeld s s' := hG.allHeld.congr (by rw [hs'])
    refine hheld.regular ?_ ?_ ?_ fun hself => hself.of_eq ?_
    all_goals rw [hs', hrest]

/-! ### Delegations -/

lemma Vaults.regular {t : ℤ} (h : Vaults t u k s s') : Regular i s s' := by
  obtain ⟨g, d, amount, hg, hd, -, -, h⟩ := h
  obtain ⟨nextId, -, -, rfl⟩ := vaultDelegation_ok h
  exact .both hg rfl rfl (.mk_of_settle hd (Nat.sub_le ..)) (.inr (by rw [hd]; rfl)) rfl rfl rfl

lemma delegateStake_regular {a p : Pubkey} {remaining : List AccountMeta} {amount : ℕ} {t : ℤ}
    (h : delegateStake t u k a p remaining amount s = .ok s') : Regular i s s' := by
  obtain ⟨g, hg, -, hon, hne, -⟩ := delegateStake_admits h
  obtain ⟨g₁, d, _, hg₁, -, -, -, -, -, rfl⟩ := delegateStake_ok h
  obtain rfl := Option.some.inj (hg.symm.trans hg₁)
  exact .both hg rfl rfl (.mk_of_allowed rfl hon) (.inl hne) rfl rfl rfl

lemma cancelWithdrawal_regular {id : WithdrawalId} {withDelegation : Bool}
    (h : cancelWithdrawal u k id withDelegation s = .ok s') : Regular i s s' := by
  obtain ⟨w, g, hw, hg, -, hon⟩ := cancelWithdrawal_allowed h
  obtain ⟨w₁, g₁, hw₁, hg₁, -, -, ⟨hdel, d, hd, rfl⟩ | ⟨-, rfl⟩⟩ := cancelWithdrawal_ok h
  · obtain rfl := Option.some.inj (hg.symm.trans hg₁)
    obtain rfl := Option.some.inj (hw.symm.trans hw₁)
    exact .both hg rfl rfl (.mk_of_allowed rfl (hon hdel)) (.inr (by rw [hd]; rfl)) rfl rfl rfl
  · exact .write hg₁ rfl (.of_gate rfl) rfl rfl rfl rfl

lemma redelegateStake_held {src tgt p q : Pubkey} {acc : TokenAccount}
    {remaining : List AccountMeta} {amount : ℕ} {t : ℤ}
    (h : redelegateStake env t u src tgt acc p q remaining amount s = .ok s') : AllHeld s s' := by
  obtain ⟨x, hx, -, hon, -⟩ := redelegateStake_admits h
  obtain ⟨g, d, g', d', fee, t, record, hne, hg, hd, hg', -, -, -, -, -, rfl⟩ :=
    redelegateStake_ok h
  obtain rfl := Option.some.inj (hx.symm.trans hg')
  exact .of_two hne hg hg' rfl (.mk_of_settle hd (Nat.sub_le ..)) (.mk_of_allowed rfl hon)

lemma payFromFundingPlan_regular {payer p q : Pubkey} {pta : Option Pubkey} {t : ℤ}
    {remaining : List AccountMeta} {sources : List FundingSourceSpec} {total count : ℕ}
    (h : payFromFundingPlan env t payer p q pta remaining sources total count s = .ok s') :
    Regular i s s' := by
  simp only [payFromFundingPlan, bind_eq_ok, splTransferNonzero_eq_ok, pure_eq_ok,
    Prod.exists] at h
  obtain ⟨_, -, _, -, _, -, _, -, _, -, _, -, _, -, _, -, plan, hplan, _, -, s₁, ⟨t, -, rfl⟩, s₂,
    hbal, s₃, rest, hvaults, _, -, _, -, rfl⟩ := h
  have w := Walked.start.drawAll hplan
  obtain ⟨G, D, W, hstate⟩ := w.rest
  obtain ⟨t', rfl, -⟩ := payBalance_ok hbal
  obtain ⟨-, -, -, -, -, ⟨C, W', hs₃, -⟩⟩ := createResidueVaults_ok hvaults
  have hG : s₃.gateways = plan.state.gateways := by
    rw [hs₃]
    rfl
  have hD : s₃.delegations = plan.state.delegations := by
    rw [hs₃]
    rfl
  refine AllHeld.regular (w.held.congr hG) ?_ ?_ ?_ fun hself => (w.noSelf hself).of_eq hD
  all_goals simp only [hs₃, State.setCounter, hstate]

/-! ### The lifecycle -/

lemma finalizeGone_regular {t : ℤ} {remaining : List AccountMeta}
    (h : finalizeGone t k remaining s = .ok s') : Regular i s s' := by
  obtain ⟨g, settings, s₁, -, -, -, -, -, -, -, -, -, hmove, rfl⟩ := finalizeGone_ok h
  have hgates : SameGates s s₁ ∧ ∃ G r, s₁ = { s with gateways := G, registry := r } := by
    rcases moveLastSlot_ok hmove with ⟨-, rfl⟩ | ⟨g, -, hg, rfl⟩
    · exact ⟨.refl _, _, _, rfl⟩
    · exact ⟨.of_update hg rfl rfl, _, _, rfl⟩
  obtain ⟨hsame, G, r, hs₁⟩ := hgates
  have hheld : AllHeld s s₁ := hsame.allHeld
  have hkeeps : ∀ j x', Function.update s₁.gateways k none j = some x' → s₁.gateways j = some
      x' := by
    intro j x' hx'
    by_cases hj : j = k
    · subst hj
      simp at hx'
    · rwa [Function.update_of_ne hj] at hx'
  refine AllHeld.regular ⟨fun j x x' hx hx' => hheld.held j x x' hx (hkeeps j x' hx'),
    fun j x' hnone hx' => hheld.fresh j x' hnone (hkeeps j x' hx')⟩ ?_ ?_ ?_
    fun hself => hself.of_eq ?_
  all_goals simp only [hs₁]

lemma joinNetwork_regular {a p : Pubkey} {params : JoinNetworkParams} {t : ℤ}
    (h : joinNetwork t k a p params s = .ok s') : Regular i s s' := by
  simp only [joinNetwork, bind_eq_ok, requireAbsent_eq_ok, splTransfer_eq_ok, pure_eq_ok,
    exists_const] at h
  obtain ⟨hnone, _, -, _, -, -, _, -, _, -, _, -, _, -, _, ⟨t, -, rfl⟩, _, -, _, -, _, -, _, -,
    _, -,
    rfl⟩ := h
  refine AllHeld.regular ⟨fun j x x' hx hx' => ?_, fun j x' hno hx' => ?_⟩ rfl rfl rfl
    fun hself => hself.of_eq rfl
  · have hj : j ≠ k := by
      rintro rfl
      rw [hnone] at hx
      cases hx
    simp only [State.setGateway, State.setObserverLookup, Function.update_of_ne hj] at hx'
    obtain rfl := Option.some.inj (hx.symm.trans hx')
    exact .refl
  · by_cases hj : j = k
    · subst hj
      simp only [State.setGateway, State.setObserverLookup, Function.update_self,
        Option.some.injEq] at hx'
      subst hx'
      rfl
    · simp only [State.setGateway, State.setObserverLookup, Function.update_of_ne hj] at hx'
      rw [hno] at hx'
      cases hx'

/-! ### Every instruction -/

/-- **What every instruction leaves alone.** -/
theorem handler_regular (h : i.handler env clock s = .ok s') : Regular i s s' := by
  by_cases he : i.IsEpochOnly
  · obtain ⟨_, _, _, _, rfl⟩ := handler_epochOnly he h
    exact .idle rfl rfl rfl rfl rfl
  cases i <;> try exact absurd trivial he
  all_goals simp only [Instruction.handler] at h
  case adminSetWithdrawalPeriod authority period =>
    simp only [adminSetWithdrawalPeriod, bind_eq_ok, pure_eq_ok] at h
    obtain ⟨_, -, _, -, rfl⟩ := h
    exact .idle rfl rfl rfl rfl rfl
  case transferAuthority authority newAuthority =>
    simp only [transferAuthority, bind_eq_ok, pure_eq_ok] at h
    obtain ⟨_, -, _, -, rfl⟩ := h
    exact .idle rfl rfl rfl rfl rfl
  case finalizeMigration authority =>
    simp only [finalizeMigration, bind_eq_ok, pure_eq_ok] at h
    obtain ⟨_, -, _, -, rfl⟩ := h
    exact .idle rfl rfl rfl rfl rfl
  case joinNetwork operator account pool params => exact joinNetwork_regular h
  case leaveNetwork operator excess remaining =>
    obtain ⟨g, settings, C, W, L, hg, -, -, -, -, -, -, -, rfl⟩ := leaveNetwork_ok h
    exact .write hg rfl (.of_gate rfl) rfl rfl rfl rfl
  case updateGatewaySettings operator params =>
    obtain ⟨g, g', hg, -, -, rfl, -⟩ := updateGatewaySettings_ok h
    refine ⟨rfl, rfl, fun _ => rfl, fun j x x' hx hx' hj => ?_, fun j x' hno hx' => ?_,
      fun hself => hself.of_eq rfl⟩
    · simp only [Function.update_of_ne (Ne.symm hj)] at hx'
      obtain rfl := Option.some.inj (hx.symm.trans hx')
      exact .refl
    · have hj : j ≠ operator := by
        rintro rfl
        rw [hg] at hno
        cases hno
      simp only [Function.update_of_ne hj, hno, reduceCtorEq] at hx'
  case updateGatewayMetadata signer operator params =>
    obtain ⟨g, g', hg, -, -, rfl, -, -, htotal, -, hset⟩ := updateGatewayMetadata_ok h
    refine .write hg rfl (.of_gate ?_) rfl rfl rfl rfl
    rw [Gateway.gate, hset, htotal]
    rfl
  case updateOperationsAddress operator newOperations =>
    obtain ⟨g, hg, -, -, rfl⟩ := updateOperationsAddress_ok h
    exact .write hg rfl (.of_gate rfl) rfl rfl rfl rfl
  case updateObserverAddress operator newObserver =>
    obtain ⟨g, hg, -, -, -, -, -, rfl⟩ := updateObserverAddress_ok h
    exact .write hg rfl (.of_gate rfl) rfl rfl rfl rfl
  case pruneGateway operator pool treasury excess remaining =>
    obtain ⟨g, settings, slash, C, W, L, t, hg, -, -, -, -, -, -, -, -, -, -, rfl⟩ :=
      pruneGateway_ok h
    exact .write hg rfl (.of_gate rfl) rfl rfl rfl rfl
  case finalizeGone operator remaining => exact finalizeGone_regular h
  case increaseOperatorStake operator account pool amount =>
    obtain ⟨g, t, hg, -, -, -, -, rfl⟩ := increaseOperatorStake_ok h
    exact .write hg rfl (.of_gate rfl) rfl rfl rfl rfl
  case decreaseOperatorStake operator amount =>
    obtain ⟨g, nextId, hg, -, -, -, -, -, rfl⟩ := decreaseOperatorStake_ok h
    exact .write hg rfl (.of_gate rfl) rfl rfl rfl rfl
  case delegateStake delegator gateway account pool remaining amount =>
    exact delegateStake_regular h
  case decreaseDelegateStake delegator gateway amount =>
    exact (decreaseDelegateStake_ok h).regular
  case claimDelegateFromLeavingGateway delegator gateway =>
    exact (claimDelegateFromLeavingGateway_ok h).regular
  case claimDelegateFromDisabledGateway delegator gateway =>
    exact (claimDelegateFromDisabledGateway_ok h).regular
  case closeEmptyDelegation delegator gateway =>
    obtain ⟨g, d, hg, hd, -, rfl⟩ := closeEmptyDelegation_ok h
    exact .both hg rfl rfl .refl (.inr (by rw [hd]; rfl)) rfl rfl rfl
  case redelegateStake delegator source target account pool treasury remaining amount =>
    have hheld := redelegateStake_held h
    obtain ⟨_, -, -, -, hself, -⟩ := redelegateStake_admits h
    obtain ⟨_, _, _, _, _, _, _, hne, -, hd, -, -, -, -, -, -, rfl⟩ := redelegateStake_ok h
    refine ⟨rfl, rfl, fun hno => absurd trivial hno,
      fun j x x' hx hx' _ => hheld.held j x x' hx hx', hheld.fresh, fun hno => ?_⟩
    exact hno.of_two_updates (by rw [hd]; rfl) hself rfl
  case compoundDelegationRewards delegator gateway =>
    obtain ⟨g, d, hg, hd, rfl⟩ := compoundDelegationRewards_ok h
    exact .both hg rfl rfl (.mk_of_settle hd le_rfl) (.inr (by rw [hd]; rfl)) rfl rfl rfl
  case allowDelegate operator delegate =>
    obtain ⟨_, rfl⟩ := allowDelegate_ok h
    exact .idle rfl rfl rfl rfl rfl
  case disallowDelegate operator delegate =>
    rw [disallowDelegate_ok h]
    exact .idle rfl rfl rfl rfl rfl
  case setAllowlistEnabled operator enabled =>
    obtain ⟨g, hg, rfl⟩ := setAllowlistEnabled_ok h
    exact .write hg rfl (.of_gate rfl) rfl rfl rfl rfl
  case claimWithdrawal owner id pool account =>
    obtain ⟨_, _, -, -, -, -, rfl⟩ := claimWithdrawal_ok h
    exact .idle rfl rfl rfl rfl rfl
  case instantWithdrawal owner id pool account treasury =>
    obtain ⟨_, _, _, _, -, -, -, -, -, -, -, rfl⟩ := instantWithdrawal_ok h
    exact .idle rfl rfl rfl rfl rfl
  case cancelWithdrawal owner gateway id withDelegation => exact cancelWithdrawal_regular h
  case closeDrainedWithdrawal owner id =>
    obtain ⟨_, -, -, rfl⟩ := closeDrainedWithdrawal_ok h
    exact .idle rfl rfl rfl rfl rfl
  case deductDelegationForPayment delegator gateway pool treasury amount =>
    obtain ⟨g, d, t, hg, hd, -, -, -, rfl⟩ := deductDelegationForPayment_ok h
    exact .both hg rfl rfl (.mk_of_settle hd (Nat.sub_le ..)) (.inr (by rw [hd]; rfl)) rfl rfl rfl
  case deductOperatorStakeForPayment operator pool treasury amount =>
    obtain ⟨g, t, hg, -, -, -, -, rfl⟩ := deductOperatorStakeForPayment_ok h
    exact .write hg rfl (.of_gate rfl) rfl rfl rfl rfl
  case deductWithdrawalForPayment owner id pool treasury amount =>
    obtain ⟨_, _, -, -, -, -, rfl⟩ := deductWithdrawalForPayment_ok h
    exact .idle rfl rfl rfl rfl rfl
  case payFromFundingPlan payer pool treasury account remaining sources total count =>
    exact payFromFundingPlan_regular h
  case adminReconcileDelegatedStake authority gateway remaining counter removed =>
    obtain ⟨g, sum, hg, htotal, -, rfl⟩ := adminReconcileDelegatedStake_ok h
    exact .write hg rfl (.mk_of_le rfl rfl (htotal ▸ Nat.le_add_right ..)) rfl rfl rfl rfl
  case adminResyncSupplyCounters authority es ns ed nd =>
    rw [adminResyncSupplyCounters_ok h]
    exact .idle rfl rfl rfl rfl rfl
  case tallyWeights index remaining =>
    obtain ⟨settings, epoch, s₁, epoch', -, -, -, -, -, hbatch, rfl⟩ := tallyWeights_ok h
    have hheld : AllHeld s s₁ := (tallyBatch_gates hbatch).allHeld
    obtain ⟨G, r, rfl⟩ := (tallyBatch_tallied hbatch).rest
    refine AllHeld.regular (hheld.congr ?_) ?_ ?_ ?_ fun hself => hself.of_eq ?_ <;> rfl
  case distributeEpoch index treasury pool remaining => exact distributeEpoch_regular h

end Gar
end ArioSolana
