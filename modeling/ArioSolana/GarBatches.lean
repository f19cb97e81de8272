import ArioSolana.GarRegistry

/-!
# Effects of the batches

Tallying and distributing walk over the registry in batches. A tally touches weights and staged
settings only. A distribution posts, for each gateway it pays, the operator's reward and an
accrual for the delegates; the gateways of one batch are distinct because the slots are.
-/

namespace ArioSolana
namespace Gar

open Checked Solana Book Finset

attribute [local irreducible] book settleDelegateRewards Book.pending

variable {env : Env} {s s' : State} {clock : ℤ} {k a p q u : Pubkey} {amount i : ℕ}
  {info : AccountMeta} {remaining : List AccountMeta} {settings : EpochSettings}
  {epoch epoch' : Epoch} {g : Gateway}

/-! ### Tallying a slot -/

lemma loadSlotGateway_ok {r : GatewayRegistry} (h : loadSlotGateway s r i info = .ok g) :
    s.gateways g.operator = some g ∧ (r.gateways i).address = g.operator ∧
      info.address = .gateway g.operator := by
  unfold loadSlotGateway at h
  split at h
  · rename_i operator haddr
    simp only [bind_eq_ok, okOr_eq_ok, require_eq_ok, pure_eq_ok, exists_const] at h
    obtain ⟨g', hg, rfl, hslot, rfl⟩ := h
    exact ⟨hg, hslot, haddr⟩
  · simp at h

/-- A slot is tallied with weight zero, or its joined gateway is weighed and stamped. -/
lemma tallySlot_ok (h : tallySlot settings epoch i info s = .ok (s', epoch')) :
    i < GatewayRegistry.maxGateways ∧
    (((s.registry.gateways i).address = Pubkey.default ∨
        (∃ g, s.gateways (s.registry.gateways i).address = some g ∧ g.status ≠ .joined)) ∧
      s' = { s with registry := s.registry.setSlot i { s.registry.gateways i with
        compositeWeight := 0, delegatedAtTally := 0 } } ∧
      epoch' = { epoch with tallyIndex := i + 1 } ∨
    ∃ g weights weight, s.gateways g.operator = some g ∧
      (s.registry.gateways i).address = g.operator ∧ g.operator ≠ Pubkey.default ∧
      g.status = .joined ∧ GatewayWeights.compute g.totalStake s.settings.minOperatorStake
        g.startTimestamp
        epoch.startTimestamp settings.tenureWeightDuration settings.maxTenureWeight g.stats
        rateScale = .ok weights ∧
      weight = (if epoch.startTimestamp < g.startTimestamp then 0 else weights.compositeWeight) ∧
      s' = { s with
        gateways := Function.update s.gateways g.operator
          (some (g.stampWeights weights epoch.epochIndex))
        registry := s.registry.setSlot i { s.registry.gateways i with
          compositeWeight := weight
          delegatedAtTally := if 0 < g.totalDelegatedStake then 1 else 0 } } ∧
      epoch' = { epoch with
        tallyIndex := i + 1
        totalCompositeWeight := saturatingAdd 128 epoch.totalCompositeWeight weight }) := by
  simp only [tallySlot, bind_eq_ok, require_eq_ok, exists_const] at h
  obtain ⟨hi, h⟩ := h
  refine ⟨hi, ?_⟩
  split at h
  · rename_i hdef
    obtain ⟨rfl, rfl⟩ := Prod.mk.inj (pure_eq_ok.mp h)
    exact .inl ⟨.inl hdef, rfl, rfl⟩
  · rename_i hdef
    simp only [bind_eq_ok] at h
    obtain ⟨g, hg, h⟩ := h
    obtain ⟨hg, hslot, -⟩ := loadSlotGateway_ok hg
    split at h
    · rename_i hst
      obtain ⟨rfl, rfl⟩ := Prod.mk.inj (pure_eq_ok.mp h)
      exact .inl ⟨.inr ⟨g, hslot ▸ hg, hst⟩, rfl, rfl⟩
    · rename_i hst
      simp only [bind_eq_ok, require_eq_ok, pure_eq_ok, exists_const] at h
      obtain ⟨weights, hw, -, h⟩ := h
      obtain ⟨rfl, rfl⟩ := Prod.mk.inj h
      exact .inr ⟨g, weights, _, hg, hslot, hslot ▸ hdef, not_not.mp hst, hw, rfl, rfl, rfl⟩

/-- What a tally leaves alone. -/
structure Tallied (s s' : State) : Prop where
  seats : SameSeats s s'
  stakes : ∀ k, (s'.gateways k).map (fun g => (g.operatorStake, g.totalDelegatedStake,
      g.cumulativeRewardPerToken, g.status))
    = (s.gateways k).map fun g => (g.operatorStake, g.totalDelegatedStake,
      g.cumulativeRewardPerToken, g.status)
  share : (∀ k g, s.gateways k = some g → g.settings.ShareOk) →
    ∀ k g, s'.gateways k = some g → g.settings.ShareOk
  rest : ∃ G r, s' = { s with gateways := G, registry := r }

namespace Tallied

lemma refl (s : State) : Tallied s s := ⟨.refl s, fun _ => rfl, id, _, _, rfl⟩

lemma trans {s'' : State} (h : Tallied s s') (h' : Tallied s' s'') : Tallied s s'' := by
  refine ⟨h.seats.trans h'.seats, fun k => (h'.stakes k).trans (h.stakes k),
    h'.share ∘ h.share, ?_⟩
  obtain ⟨-, -, -, G, r, rfl⟩ := h
  obtain ⟨-, -, -, G', r', rfl⟩ := h'
  exact ⟨G', r', rfl⟩

end Tallied

lemma tallySlot_tallied (h : tallySlot settings epoch i info s = .ok (s', epoch')) :
    Tallied s s' := by
  obtain ⟨-, ⟨-, rfl, -⟩ | ⟨g, weights, weight, hg, hslot, hne, hst, -, -, rfl, -⟩⟩ :=
    tallySlot_ok h
  · refine ⟨⟨rfl, ?_, ?_, ?_, rfl⟩, fun _ => rfl, id, _, _, rfl⟩
    · intro j
      by_cases hj : j = i
      · subst hj; simp [GatewayRegistry.setSlot]
      · simp [GatewayRegistry.setSlot, hj]
    · intro j
      by_cases hj : j = i
      · subst hj; simp [GatewayRegistry.setSlot]
      · simp [GatewayRegistry.setSlot, hj]
    · intro j hz
      by_cases hj : j = i
      · subst hj; simp [GatewayRegistry.setSlot, hz, GatewaySlot.zeroed]
      · simpa [GatewayRegistry.setSlot, hj] using hz
  · refine ⟨⟨rfl, ?_, ?_, ?_, seats_update hg rfl rfl⟩, ?_, ?_, _, _, rfl⟩
    · intro j
      by_cases hj : j = i
      · subst hj; simp [GatewayRegistry.setSlot]
      · simp [GatewayRegistry.setSlot, hj]
    · intro j
      by_cases hj : j = i
      · subst hj; simp [GatewayRegistry.setSlot]
      · simp [GatewayRegistry.setSlot, hj]
    · intro j hz
      by_cases hj : j = i
      · subst hj
        rw [hz] at hslot
        exact absurd hslot.symm hne
      · simpa [GatewayRegistry.setSlot, hj] using hz
    · intro j
      by_cases hj : j = g.operator
      · subst hj; simp [hg, Gateway.stampWeights]
      · simp [hj]
    · intro hall j x hx
      by_cases hj : j = g.operator
      · subst hj
        obtain rfl : g.stampWeights weights epoch.epochIndex = x := by simpa using hx
        obtain ⟨hr, hs⟩ := hall _ _ hg
        refine ⟨?_, fun r hr => by cases hr⟩
        simp only [Gateway.stampWeights]
        cases hp : g.settings.pendingDelegateRewardShareRatio with
        | none => exact hr
        | some r => exact hs r hp
      · exact hall j x (by simpa [hj] using hx)

lemma tallyBatch_tallied {infos : List AccountMeta}
    (h : tallyBatch settings infos (s, epoch) = .ok (s', epoch')) : Tallied s s' := by
  induction infos generalizing s epoch with
  | nil =>
    obtain ⟨rfl, -⟩ := Prod.mk.inj (pure_eq_ok.mp h)
    exact .refl _
  | cons info infos ih =>
    unfold tallyBatch at h
    split at h
    · simp only [bind_eq_ok, Prod.exists] at h
      obtain ⟨s₁, e₁, h₁, h⟩ := h
      exact (tallySlot_tallied h₁).trans (ih h)
    · obtain ⟨rfl, -⟩ := Prod.mk.inj (pure_eq_ok.mp h)
      exact .refl _

lemma tallyWeights_ok {index : ℕ} (h : tallyWeights index remaining s = .ok s') :
    ∃ settings epoch s₁ epoch', s.epochSettings = some settings ∧ s.epochs index = some epoch ∧
      epoch.weightsTallied = 0 ∧ 1 ≤ settings.currentEpochIndex ∧
      epoch.epochIndex = settings.currentEpochIndex - 1 ∧
      tallyBatch settings remaining (s, epoch) = .ok (s₁, epoch') ∧
      s' = s₁.setEpoch index (some { epoch' with
        weightsTallied :=
          if epoch'.activeGatewayCount ≤ epoch'.tallyIndex then 1 else epoch'.weightsTallied
              }) := by
  simp only [tallyWeights, bind_eq_ok, loadEpochSettings, loadEpoch, okOr_eq_ok, require_eq_ok,
    checkedSub_eq_some, pure_eq_ok, exists_const, Prod.exists] at h
  obtain ⟨settings, hset, epoch, he, h0, _, ⟨h1, rfl⟩, hidx, s₁, epoch', hb, rfl⟩ := h
  exact ⟨settings, epoch, s₁, epoch', hset, he, h0, h1, hidx, hb, rfl⟩

lemma tallyWeights_footprint {index : ℕ} (hF : Footing env s)
    (h : tallyWeights index remaining s = .ok s') : Footprint s s' ∧ SameSeats s s' := by
  obtain ⟨settings, epoch, s₁, epoch', -, -, -, -, -, hb, rfl⟩ := tallyWeights_ok h
  have ht := tallyBatch_tallied hb
  obtain ⟨G, r, rfl⟩ := ht.rest
  exact ⟨idle_footprint hF rfl rfl rfl (ht.share fun k g hg => (hF.gateways k g hg).share)
    ht.stakes,
    ht.seats.trans (.of_registry rfl rfl)⟩

theorem tallyWeights_effect {index : ℕ} (hL : Ledger env s)
    (h : tallyWeights index remaining s = .ok s') : Effect s s' u := by
  obtain ⟨settings, epoch, s₁, epoch', -, -, -, -, -, hb, rfl⟩ := tallyWeights_ok h
  have ht := tallyBatch_tallied hb
  obtain ⟨G, r, rfl⟩ := ht.rest
  exact idle_effect hL rfl rfl rfl ⟨rfl, rfl, rfl⟩ rfl
    (ht.share fun k g hg => (hL.gateways k g hg).share) ht.stakes

/-! ### The first pass of a distribution -/

lemma scanSlot_ok {rate : ℕ} {x : PendingDistribution}
    (h : scanSlot s epoch rate i info = .ok x) :
    s.gateways x.gateway.operator = some x.gateway ∧
    (s.registry.gateways i).address = x.gateway.operator ∧
    (x.isLeaving = true ↔ x.gateway.status = .leaving) ∧
    (x.eligible = true ↔ 0 < (s.registry.gateways i).compositeWeight ∧
      x.gateway.weights.weightsEpoch = epoch.epochIndex) ∧
    (x.hadDelegationAtTally = true ↔ (s.registry.gateways i).delegatedAtTally ≠ 0) ∧
    (x.failed = true ↔ 0 < epoch.observationsSubmitted ∧
      epoch.observationsSubmitted / 2 < epoch.failureCounts i) ∧
    x.isPrescribed = (position epoch.prescribedObserverGateways epoch.observerCount
      x.gateway.operator).isSome ∧
    x.isObserved = (position epoch.prescribedObserverGateways epoch.observerCount
      x.gateway.operator).elim false epoch.isObserved ∧
    x.fullReward = fullReward epoch.perGatewayReward epoch.perObserverReward rate x.isLeaving
      x.eligible x.failed x.isPrescribed x.isObserved := by
  simp only [scanSlot, bind_eq_ok, require_eq_ok, pure_eq_ok, exists_const] at h
  obtain ⟨-, g, hg, -, -, rfl⟩ := h
  obtain ⟨hg, hslot, -⟩ := loadSlotGateway_ok hg
  refine ⟨hg, hslot, ?_, ?_, ?_, ?_, rfl, rfl, rfl⟩ <;> simp

lemma fullReward_leaving {x : PendingDistribution} {rate : ℕ}
    (h : x.fullReward = fullReward epoch.perGatewayReward epoch.perObserverReward rate x.isLeaving
      x.eligible x.failed x.isPrescribed x.isObserved) (hl : x.isLeaving = true) :
    x.fullReward = 0 := by
  rw [h, fullReward, hl]
  simp

/-- The first pass finds gateways in increasing slots, and sums up their full rewards. -/
lemma scanBatch_ok {rate : ℕ} {infos : List AccountMeta} {b b' : Batch}
    (h : scanBatch s epoch rate infos b = .ok b') :
    ∃ idxs xs, b'.pending = b.pending ++ xs ∧ b.distIdx ≤ b'.distIdx ∧
      List.Forall₂ (fun i x => ∃ info, scanSlot s epoch rate i info = .ok x) idxs xs ∧
      (∀ i ∈ idxs, b.distIdx ≤ i ∧ i < b'.distIdx ∧ i < epoch.activeGatewayCount) ∧
      idxs.Pairwise (· < ·) ∧
      b'.totalReward = b.totalReward + (xs.map (·.fullReward)).sum ∧
      (b.totalReward < 2 ^ 64 → b'.totalReward < 2 ^ 64) ∧
      (∀ i, b.distIdx ≤ i → i < b'.distIdx →
        (s.registry.gateways i).address ≠ Pubkey.default → i ∈ idxs) ∧
      (b'.distIdx ≤ epoch.activeGatewayCount ∨ b'.distIdx = b.distIdx) := by
  induction infos generalizing b with
  | nil =>
    obtain rfl := pure_eq_ok.mp h
    exact ⟨[], [], by simp, le_rfl, .nil, by simp, .nil, by simp, id, fun i h1 h2 => by omega,
      .inr rfl⟩
  | cons info infos ih =>
    unfold scanBatch at h
    split at h
    · obtain rfl := pure_eq_ok.mp h
      exact ⟨[], [], by simp, le_rfl, .nil, by simp, .nil, by simp, id, fun i h1 h2 => by omega,
        .inr rfl⟩
    · rename_i hact
      simp only [bind_eq_ok, require_eq_ok, exists_const] at h
      obtain ⟨hmax, h⟩ := h
      split at h
      · -- an empty slot
        rename_i hdef
        obtain ⟨idxs, xs, h1, h2, h3, h4, h5, h6, h7, h8, h9⟩ := ih h
        refine ⟨idxs, xs, h1, (Nat.le_succ _).trans h2, h3,
          fun i hi => ⟨(Nat.le_succ _).trans (h4 i hi).1, (h4 i hi).2⟩, h5, h6, h7, ?_, ?_⟩
        · intro i hi hi' haddr
          rcases hi.lt_or_eq with hlt | rfl
          · exact h8 i hlt hi' haddr
          · exact absurd hdef haddr
        · simp only at h9 ⊢; omega
      · simp only [bind_eq_ok, addNonzero_eq_ok] at h
        obtain ⟨x, hx, total, ⟨htotal, rfl⟩, h⟩ := h
        obtain ⟨idxs, xs, h1, h2, h3, h4, h5, h6, h7, h8, h9⟩ := ih h
        simp only at h1 h2 h4 h6 h7 h8 h9
        refine ⟨b.distIdx :: idxs, x :: xs, by rw [h1]; simp, by omega, .cons ⟨info, hx⟩ h3, ?_, ?_,
          ?_, ?_, ?_, by omega⟩
        · intro i hi
          rcases List.mem_cons.mp hi with rfl | hi
          · exact ⟨le_rfl, by omega, by omega⟩
          · obtain ⟨e1, e2, e3⟩ := h4 i hi
            exact ⟨by omega, e2, e3⟩
        · exact List.pairwise_cons.mpr ⟨fun i hi => by have := (h4 i hi).1; omega, h5⟩
        · rw [h6]; simp [add_assoc]
        · intro hlt
          refine h7 ?_
          rcases Nat.eq_zero_or_pos x.fullReward with h0 | hpos
          · omega
          · exact htotal hpos
        · intro i hi hi' haddr
          rcases hi.lt_or_eq with hlt | rfl
          · exact List.mem_cons_of_mem _ (h8 i hlt hi' haddr)
          · exact List.mem_cons_self

lemma exists_of_forall₂ {α β : Type} {R : α → β → Prop} {l : List α} {l' : List β}
    (h : List.Forall₂ R l l') {b : β} (hb : b ∈ l') : ∃ a ∈ l, R a b := by
  induction h with
  | nil => simp at hb
  | cons hab _ ih =>
    rcases List.mem_cons.mp hb with rfl | hb
    · exact ⟨_, List.mem_cons_self, hab⟩
    · obtain ⟨a, ha, hR⟩ := ih hb
      exact ⟨a, List.mem_cons_of_mem _ ha, hR⟩

/-! ### The second pass of a distribution -/

variable {x : PendingDistribution} {payment : Payment} {payout payout' : Payout}
  {total transfer r : ℕ} {had : Bool}

lemma splitScaledReward_eq {ratio : ℕ} (had : Bool) (hr : r < 2 ^ 64)
    (hratio : ratio ≤ maxDelegateRewardShare) :
    splitScaledReward r ratio had
      = (r - (if had then r * ratio / 10000 else 0), if had then r * ratio / 10000 else 0) ∧
    r * ratio / 10000 ≤ r := by
  have hle : r * ratio / 10000 ≤ r := by
    refine Nat.div_le_of_le_mul ?_
    unfold maxDelegateRewardShare at hratio
    nlinarith
  refine ⟨?_, hle⟩
  have hcut : truncate 64 (r * ratio / 10000) = r * ratio / 10000 := truncate_of_lt (by omega)
  unfold splitScaledReward saturatingSub
  rcases Nat.eq_zero_or_pos ratio with rfl | hpos
  · cases had <;> simp
  · cases had
    · simp
    · simp [hpos, hcut]

/-- What paying a joined gateway does: its operator gets what is not the delegates' part, which
goes to the accumulator or stays behind. -/
lemma payGateway_ok (hr : r < 2 ^ 64) (hratio : g.settings.ShareOk)
    (hst : g.status = .joined ∨ r = 0) (h : payGateway g r had = .ok payment) :
    ∃ pool operatorReward increment, pool = (if had then
        r * g.settings.delegateRewardShareRatio / 10000 else 0) ∧
      operatorReward = r - pool ∧ pool ≤ r ∧
      payment.operatorReward = operatorReward ∧
      payment.delegateReward + payment.orphaned = pool ∧
      increment * g.totalDelegatedStake ≤ payment.delegateReward * rewardPrecision ∧
      (0 < pool → 0 < g.totalDelegatedStake → payment.delegateReward = pool ∧
        pool * rewardPrecision < 2 ^ 128 ∧
        increment = pool * rewardPrecision / g.totalDelegatedStake) ∧
      (¬ (0 < pool ∧ 0 < g.totalDelegatedStake) → payment.orphaned = pool) ∧
      payment.gateway = { g with
        operatorStake := if 0 < operatorReward then
          saturatingAdd 64 g.operatorStake operatorReward else g.operatorStake
        cumulativeRewardPerToken := if 0 < pool ∧ 0 < g.totalDelegatedStake then
          saturatingAdd 128 g.cumulativeRewardPerToken increment
          else g.cumulativeRewardPerToken } := by
  obtain ⟨hsplit, hle⟩ := splitScaledReward_eq had hr hratio.ratio
  simp only [payGateway, hsplit] at h
  set pool := if had then r * g.settings.delegateRewardShareRatio / 10000 else 0 with hpool
  have hpool_le : pool ≤ r := by rw [hpool]; split <;> omega
  have hcred : (0 < r - pool ∧ g.status = .joined) ↔ 0 < r - pool := by
    constructor
    · exact And.left
    · intro hpos
      rcases hst with hst | h0
      · exact ⟨hpos, hst⟩
      · omega
  simp only [hcred] at h
  have hreward : (if 0 < r - pool then r - pool else 0) = r - pool := by split <;> omega
  rw [hreward] at h
  split at h
  · rename_i hpay
    simp only [bind_eq_ok, okOr_eq_ok, checkedMul_eq_some, checkedDiv_eq_some, pure_eq_ok] at h
    obtain ⟨_, ⟨hlt, rfl⟩, _, ⟨-, rfl⟩, rfl⟩ := h
    refine ⟨pool, r - pool, pool * rewardPrecision / g.totalDelegatedStake, rfl, rfl, hpool_le, rfl,
      rfl, Nat.div_mul_le_self _ _, fun _ _ => ⟨rfl, hlt, rfl⟩, fun hno => absurd hpay hno, ?_⟩
    simp only [if_pos hpay]
  · rename_i hpay
    obtain rfl := pure_eq_ok.mp h
    refine ⟨pool, r - pool, 0, rfl, rfl, hpool_le, rfl, zero_add _, by simp,
      fun h1 h2 => absurd ⟨h1, h2⟩ hpay, fun _ => rfl, ?_⟩
    simp only [if_neg hpay]

lemma scaleReward_eq {full : ℕ} (hfull : full ≤ total) (htotal : total < 2 ^ 64)
    (ht : transfer < 2 ^ 64) :
    scaleReward full transfer total = full * transfer / total ∧
      full * transfer / total ≤ transfer := by
  have hle : full * transfer / total ≤ transfer :=
    Nat.div_le_of_le_mul (Nat.mul_le_mul_right _ hfull)
  refine ⟨?_, hle⟩
  have hprod : full * transfer < 2 ^ 128 := by
    have := Nat.mul_lt_mul'' (hfull.trans_lt htotal) ht
    exact this.trans_le (by norm_num)
  unfold scaleReward
  split
  · rw [saturatingMul_of_lt hprod, truncate_of_lt (by omega)]
  · rename_i h0
    push Not at h0
    rcases Nat.eq_zero_or_pos total with rfl | hpos
    · simp
    · have := h0 hpos
      have h00 : full = 0 := by omega
      simp [h00]

lemma payPending_ok (h : payPending total transfer x payout = .ok payout') :
    ∃ payment, payGateway x.gateway (scaleReward x.fullReward transfer total)
        x.hadDelegationAtTally = .ok payment ∧
      payout'.state = payout.state.setGateway payment.gateway.operator (some { payment.gateway with
        stats := if !x.isLeaving && x.eligible then
          payment.gateway.stats.record x.failed x.isPrescribed x.isObserved
          else payment.gateway.stats }) ∧
      payout'.operatorRewards = saturatingAdd 64 payout.operatorRewards payment.operatorReward ∧
      payout'.delegateRewards = payout.delegateRewards + payment.delegateReward ∧
      payout'.orphaned = saturatingAdd 64 payout.orphaned payment.orphaned := by
  simp only [payPending, bind_eq_ok, pure_eq_ok] at h
  obtain ⟨payment, hp, rfl⟩ := h
  refine ⟨payment, hp, ?_, rfl, rfl, rfl⟩
  split <;> rfl

/-- The operator stakes of all gateways. -/
def State.operatorStakes (s : State) : ℕ := ∑ k, (s.gateways k).elim 0 (·.operatorStake)

lemma State.operatorStakes_le {s s' : State} {g g' : Gateway} {k : Pubkey} {r : ℕ}
    (hG : s'.gateways = Function.update s.gateways k (some g')) (hg : s.gateways k = some g)
    (hle : g'.operatorStake ≤ g.operatorStake + r) : s'.operatorStakes ≤ s.operatorStakes + r := by
  calc s'.operatorStakes
      ≤ ∑ j, ((s.gateways j).elim 0 (·.operatorStake) + if j = k then r else 0) := by
        refine Finset.sum_le_sum fun j _ => ?_
        rw [hG]
        by_cases hj : j = k
        · subst hj
          rw [Function.update_self, hg, if_pos rfl]
          exact hle
        · rw [Function.update_of_ne hj, if_neg hj, Nat.add_zero]
    _ = s.operatorStakes + r := by
        rw [Finset.sum_add_distrib, Finset.sum_ite_eq' Finset.univ k, if_pos (Finset.mem_univ k)]
        rfl

/-- How the second pass, after it paid out `done`, relates to the state before it. -/
structure Handed (s : State) (done : ℕ) (payout : Payout) : Prop where
  rest : ∃ G, payout.state = { s with gateways := G }
  seats : payout.state.seats = s.seats
  gateways : ∀ k g, payout.state.gateways k = some g → g.Sound s.settings.minOperatorStake
  sum : payout.operatorRewards + payout.delegateRewards + payout.orphaned = done
  stakes : payout.state.operatorStakes ≤ s.operatorStakes + payout.operatorRewards

/-- The reward `r` of one gateway is split between the operator, the accumulator and the treasury.
-/
structure Shared (x : PendingDistribution) (r : ℕ) (payout payout' : Payout)
    (reward delegated orphaned accrued : ℕ) : Prop where
  sum : reward + delegated + orphaned = r
  joined : x.gateway.status = .joined ∨ reward = 0
  operatorRewards : payout'.operatorRewards = payout.operatorRewards + reward
  delegateRewards : payout'.delegateRewards = payout.delegateRewards + delegated
  orphaned : payout'.orphaned = payout.orphaned + orphaned
  grows : x.gateway.cumulativeRewardPerToken ≤ accrued
  covered : ((accrued : ℤ) - x.gateway.cumulativeRewardPerToken) * x.gateway.totalDelegatedStake
    ≤ delegated * precision
  word : accrued < 2 ^ 128
  state : ∃ stats, payout'.state = payout.state.setGateway x.gateway.operator (some { x.gateway with
    operatorStake := if 0 < reward then saturatingAdd 64 x.gateway.operatorStake reward
      else x.gateway.operatorStake
    cumulativeRewardPerToken := accrued
    stats := stats })

namespace Handed

variable {done : ℕ}

lemma start (hF : Footing env s) : Handed s 0 { state := s } :=
  ⟨⟨_, rfl⟩, rfl, hF.gateways, rfl, Nat.le_add_right _ _⟩

lemma shared (w : Handed s done payout) (hT : transfer < 2 ^ 64) (hfull : x.fullReward ≤ total)
    (htotal : total < 2 ^ 64) (hdone : done + x.fullReward * transfer / total ≤ transfer)
    (hg : payout.state.gateways x.gateway.operator = some x.gateway)
    (hst : x.gateway.status = .joined ∨ x.fullReward = 0)
    (h : payPending total transfer x payout = .ok payout') :
    ∃ reward delegated orphaned accrued, Shared x (x.fullReward * transfer / total) payout payout'
      reward delegated orphaned accrued := by
  obtain ⟨hscale, -⟩ := scaleReward_eq hfull htotal hT
  obtain ⟨payment, hp, hstate, hop, hdel, horph⟩ := payPending_ok h
  rw [hscale] at hp
  set r := x.fullReward * transfer / total with hr
  have hok := w.gateways _ _ hg
  have hsum := w.sum
  have hr0 : x.gateway.status = .joined ∨ r = 0 := by
    rcases hst with hst | h0
    · exact .inl hst
    · exact .inr (by rw [hr, h0]; simp)
  obtain ⟨pool, reward, increment, -, hreward, hpool, hpay, hsplit, hinc, -, -, hgw⟩ :=
    payGateway_ok (by linarith) hok.share hr0 hp
  have hparts : reward + pool = r := by rw [hreward]; exact Nat.sub_add_cancel hpool
  rw [hpay, saturatingAdd_of_lt (by linarith)] at hop
  rw [saturatingAdd_of_lt (by linarith)] at horph
  have hopg : payment.gateway.operator = x.gateway.operator := by rw [hgw]
  set accrued := if 0 < pool ∧ 0 < x.gateway.totalDelegatedStake then
      saturatingAdd 128 x.gateway.cumulativeRewardPerToken increment
      else x.gateway.cumulativeRewardPerToken with haccrued
  have hle : accrued ≤ x.gateway.cumulativeRewardPerToken + increment := by
    rw [haccrued]
    split
    · exact saturatingAdd_le
    · exact Nat.le_add_right _ _
  refine ⟨reward, payment.delegateReward, payment.orphaned, accrued, by omega, ?_, hop, hdel, horph,
    ?_, ?_, ?_, _, by rw [hstate, hopg, hgw]⟩
  · exact hr0.imp_right fun h00 => by omega
  · rw [haccrued]
    split
    · exact le_saturatingAdd hok.word
    · exact le_rfl
  · have h1 : ((accrued : ℤ) - x.gateway.cumulativeRewardPerToken) ≤ increment := by
      zify at hle
      linarith
    have h2 : (increment : ℤ) * x.gateway.totalDelegatedStake
        ≤ payment.delegateReward * precision := by
      have : ((increment * x.gateway.totalDelegatedStake : ℕ) : ℤ)
          ≤ (payment.delegateReward * rewardPrecision : ℕ) := by exact_mod_cast hinc
      push_cast at this
      exact this
    exact (mul_le_mul_of_nonneg_right h1 (by positivity)).trans h2
  · rw [haccrued]
    split
    · exact saturatingAdd_lt
    · exact hok.word

lemma pay {reward delegated orphaned accrued r : ℕ} (w : Handed s done payout)
    (hg : payout.state.gateways x.gateway.operator = some x.gateway)
    (hx : Shared x r payout payout' reward delegated orphaned accrued) :
    Handed s (done + r) payout' ∧
      ∀ k ≠ x.gateway.operator, payout'.state.gateways k = payout.state.gateways k := by
  obtain ⟨stats, hstate⟩ := hx.state
  have hok := w.gateways _ _ hg
  have hsum := w.sum
  refine ⟨⟨?_, ?_, ?_, ?_, ?_⟩, fun k hk => ?_⟩
  · obtain ⟨G, hG⟩ := w.rest
    rw [hstate, hG]
    exact ⟨_, rfl⟩
  · refine Eq.trans ?_ w.seats
    refine seats_update hg (by rw [hstate, State.setGateway]) ?_
    rfl
  · rw [hstate, State.setGateway]
    refine sound_update w.gateways ⟨⟨fun hj => ?_, fun hne => ?_, hx.word, hok.share⟩, ?_⟩
    · refine (hok.floor hj).trans ?_
      simp only
      split
      · exact le_saturatingAdd hok.stakeWord
      · exact le_rfl
    · have h0 : reward = 0 := hx.joined.resolve_left hne
      simp only [h0, lt_irrefl, if_false]
      exact hok.departed hne
    · simp only
      split
      · exact saturatingAdd_lt
      · exact hok.stakeWord
  · rw [hx.operatorRewards, hx.delegateRewards, hx.orphaned, ← hx.sum]
    linarith
  · have hone := @State.operatorStakes_le payout.state payout'.state _ _ _ reward
      (by rw [hstate, State.setGateway]) hg (by
        simp only
        split
        · exact saturatingAdd_le
        · exact Nat.le_add_right _ _)
    have hbefore := w.stakes
    rw [hx.operatorRewards]
    omega
  · rw [hstate, State.setGateway]
    exact Function.update_of_ne hk _ _

lemma payAll {xs : List PendingDistribution} (w : Handed s done payout) (hT : transfer < 2 ^ 64)
    (htotal : total < 2 ^ 64) (hfull : ∀ x ∈ xs, x.fullReward ≤ total)
    (hdone : done + (xs.map fun x => x.fullReward * transfer / total).sum ≤ transfer)
    (hg : ∀ x ∈ xs, payout.state.gateways x.gateway.operator = some x.gateway)
    (hne : xs.Pairwise fun x y => x.gateway.operator ≠ y.gateway.operator)
    (hst : ∀ x ∈ xs, x.gateway.status = .joined ∨ x.fullReward = 0)
    (h : payBatch total transfer xs payout = .ok payout') :
    Handed s (done + (xs.map fun x => x.fullReward * transfer / total).sum) payout' := by
  induction xs generalizing done payout with
  | nil =>
    obtain rfl := pure_eq_ok.mp h
    simpa using w
  | cons x xs ih =>
    simp only [payBatch, bind_eq_ok] at h
    obtain ⟨payout₁, h₁, h⟩ := h
    rw [List.map_cons, List.sum_cons, ← add_assoc] at hdone ⊢
    obtain ⟨hhead, htail⟩ := List.pairwise_cons.mp hne
    have hx := hg x List.mem_cons_self
    obtain ⟨_, _, _, _, hshared⟩ := w.shared hT (hfull x List.mem_cons_self) htotal
      ((Nat.le_add_right _ _).trans hdone) hx (hst x List.mem_cons_self) h₁
    obtain ⟨w₁, hkeep⟩ := w.pay hx hshared
    refine ih w₁ (fun y hy => hfull y (List.mem_cons_of_mem _ hy)) hdone (fun y hy => ?_) htail
      (fun y hy => hst y (List.mem_cons_of_mem _ hy)) h
    rw [hkeep _ (hhead y hy).symm]
    exact hg y (List.mem_cons_of_mem _ hy)

end Handed

/-- In a solvent state the books follow. -/
structure Paid (s : State) (done : ℕ) (payout : Payout) : Prop extends Handed s done payout where
  posted : ∃ ms, (∀ m ∈ ms, IsGain m) ∧ AdmitsAll precision ms (book s) ∧
    play precision ms (book s) = { book payout.state with
      tokens := (book s).tokens + payout.operatorRewards + payout.delegateRewards }
  totalOwn : (book payout.state).totalOwn = (book s).totalOwn + payout.operatorRewards
  totalShares : (book payout.state).totalShares = (book s).totalShares

namespace Paid

variable {done : ℕ}

lemma start (hL : Ledger env s) : Paid s 0 { state := s } :=
  ⟨.start hL.footing, ⟨[], by simp, trivial, by simp⟩, by simp, rfl⟩

/-- The books so far are solvent, so the stake of the operator has room for the reward. -/
lemma room {reward delegated orphaned accrued r : ℕ} (hL : Ledger env s) (w : Paid s done payout)
    (hfit : (book s).tokens + transfer < 2 ^ 64) (hdone : done + r ≤ transfer)
    (hg : payout.state.gateways x.gateway.operator = some x.gateway)
    (hx : Shared x r payout payout' reward delegated orphaned accrued) :
    x.gateway.operatorStake + reward < 2 ^ 64 := by
  obtain ⟨ms, -, hadm, hplay⟩ := w.posted
  have hsol := hL.solvent.play precision_pos hadm
  rw [hplay] at hsol
  have hcap := hsol.own_le_total x.gateway.operator
  have hround := hsol.rounded precision_pos
  obtain ⟨n1, n2, n3, n4⟩ := hsol.totals_nonneg precision_pos
  simp only [totalOwn_tokens, totalShares_tokens, totalVault_tokens] at hcap hround n1 n2 n3
  rw [(book_gateway hg).1] at hcap
  have hsum := w.sum
  have hparts := hx.sum
  have h1 : payout.operatorRewards + payout.delegateRewards + reward ≤ transfer := by linarith
  zify at h1 ⊢
  linarith

lemma pay {reward delegated orphaned accrued r : ℕ} (hL : Ledger env s) (w : Paid s done payout)
    (hfit : (book s).tokens + transfer < 2 ^ 64) (hdone : done + r ≤ transfer)
    (hg : payout.state.gateways x.gateway.operator = some x.gateway)
    (hx : Shared x r payout payout' reward delegated orphaned accrued) :
    Paid s (done + r) payout' := by
  have hroom := w.room hL hfit hdone hg hx
  obtain ⟨stats, hstate⟩ := hx.state
  obtain ⟨hown, hshares, hindex⟩ := book_gateway hg
  obtain ⟨ms, hgain, hadm, hplay⟩ := w.posted
  have hstake : (if 0 < reward then saturatingAdd 64 x.gateway.operatorStake reward
      else x.gateway.operatorStake) = x.gateway.operatorStake + reward := by
    split
    · rw [saturatingAdd_of_lt hroom]
    · rename_i h0
      rw [Nat.eq_zero_of_not_pos h0, add_zero]
  rw [hstake] at hstate
  have hplay' : { book payout'.state with tokens := (book s).tokens + payout'.operatorRewards
      + payout'.delegateRewards } = play precision [.own x.gateway.operator reward,
        .accrue x.gateway.operator delegated (accrued - x.gateway.cumulativeRewardPerToken)]
        { book payout.state with
          tokens := (book s).tokens + payout.operatorRewards + payout.delegateRewards } := by
    rw [hstate, State.setGateway, book_mk, bookOf_gateway, bookOf_self, hx.operatorRewards,
      hx.delegateRewards]
    simp only [play_cons, play_nil, Book.apply, Option.elim_some, hown, hindex, Nat.cast_add,
      add_sub_cancel]
    rw [← hshares, Function.update_eq_self]
    refine Book.ext rfl rfl rfl rfl rfl rfl ?_
    simp only
    ring
  have hadm' : AdmitsAll precision [.own x.gateway.operator reward,
        .accrue x.gateway.operator delegated (accrued - x.gateway.cumulativeRewardPerToken)]
        { book payout.state with
          tokens := (book s).tokens + payout.operatorRewards + payout.delegateRewards } := by
    refine ⟨?_, ⟨?_, ?_, ?_⟩, trivial⟩
    · simp only [Admits, hown]; positivity
    · positivity
    · have := hx.grows
      zify at this
      linarith
    · simp only [Book.apply, hshares]
      exact hx.covered
  have htot := congrArg Book.totalOwn hplay'
  have htot' := congrArg Book.totalShares hplay'
  simp only [play_cons, play_nil, totalOwn_apply, totalOwn_tokens, ownChange] at htot
  simp only [play_cons, play_nil, totalShares_apply, totalShares_tokens, sharesChange] at htot'
  refine ⟨(w.toHanded.pay hg hx).1, ⟨ms ++ [.own x.gateway.operator reward,
    .accrue x.gateway.operator delegated (accrued - x.gateway.cumulativeRewardPerToken)],
    ?_, ?_, ?_⟩, ?_, ?_⟩
  · intro m hm
    rcases List.mem_append.mp hm with hm | hm
    · exact hgain m hm
    · simp only [List.mem_cons, List.not_mem_nil, or_false] at hm
      rcases hm with rfl | rfl
      · simp [IsGain]
      · trivial
  · rw [admitsAll_append, hplay]
    exact ⟨hadm, hadm'⟩
  · rw [play_append, hplay, ← hplay']
  · rw [htot, w.totalOwn, hx.operatorRewards]; push_cast; ring
  · rw [htot', w.totalShares]; ring

lemma payAll (hL : Ledger env s) {xs : List PendingDistribution} (w : Paid s done payout)
    (hT : transfer < 2 ^ 64) (hfit : (book s).tokens + transfer < 2 ^ 64) (htotal : total < 2 ^ 64)
    (hfull : ∀ x ∈ xs, x.fullReward ≤ total)
    (hdone : done + (xs.map fun x => x.fullReward * transfer / total).sum ≤ transfer)
    (hg : ∀ x ∈ xs, payout.state.gateways x.gateway.operator = some x.gateway)
    (hne : xs.Pairwise fun x y => x.gateway.operator ≠ y.gateway.operator)
    (hst : ∀ x ∈ xs, x.gateway.status = .joined ∨ x.fullReward = 0)
    (h : payBatch total transfer xs payout = .ok payout') :
    Paid s (done + (xs.map fun x => x.fullReward * transfer / total).sum) payout' := by
  induction xs generalizing done payout with
  | nil =>
    obtain rfl := pure_eq_ok.mp h
    simpa using w
  | cons x xs ih =>
    simp only [payBatch, bind_eq_ok] at h
    obtain ⟨payout₁, h₁, h⟩ := h
    rw [List.map_cons, List.sum_cons, ← add_assoc] at hdone ⊢
    obtain ⟨hhead, htail⟩ := List.pairwise_cons.mp hne
    have hfirst := (Nat.le_add_right _ _).trans hdone
    have hx := hg x List.mem_cons_self
    obtain ⟨_, _, _, _, hshared⟩ := w.toHanded.shared hT (hfull x List.mem_cons_self) htotal hfirst
      hx (hst x List.mem_cons_self) h₁
    have hkeep := (w.toHanded.pay hx hshared).2
    refine ih (w.pay hL hfit hfirst hx hshared) (fun y hy => hfull y (List.mem_cons_of_mem _ hy))
      hdone (fun y hy => ?_) htail
      (fun y hy => hst y (List.mem_cons_of_mem _ hy)) h
    rw [hkeep _ (hhead y hy).symm]
    exact hg y (List.mem_cons_of_mem _ hy)

end Paid

lemma sum_scaled_le {xs : List PendingDistribution}
    (h : (xs.map (·.fullReward)).sum ≤ total) :
    (xs.map fun x => x.fullReward * transfer / total).sum ≤ transfer := by
  have hsum : ∀ ys : List PendingDistribution,
      (ys.map fun x => x.fullReward * transfer / total).sum
        ≤ (ys.map (·.fullReward)).sum * transfer / total := by
    intro ys
    induction ys with
    | nil => simp
    | cons y ys ih =>
      simp only [List.map_cons, List.sum_cons]
      calc y.fullReward * transfer / total
            + (ys.map fun x => x.fullReward * transfer / total).sum
          ≤ y.fullReward * transfer / total
            + (ys.map (·.fullReward)).sum * transfer / total := Nat.add_le_add_left ih _
        _ ≤ (y.fullReward * transfer + (ys.map (·.fullReward)).sum * transfer) / total :=
          Nat.div_add_div_le_add_div
        _ = (y.fullReward + (ys.map (·.fullReward)).sum) * transfer / total := by rw [add_mul]
  exact (hsum xs).trans (Nat.div_le_of_le_mul (Nat.mul_le_mul_right _ h))

/-! ### A whole distribution -/

/-- A batch pays distinct gateways, each of which is in its slot; one that left is paid
nothing. -/
lemma scanned_pending (hR : Registered s) {rate : ℕ} {idxs : List ℕ}
    {xs : List PendingDistribution}
    (h : List.Forall₂ (fun i x => ∃ info, scanSlot s epoch rate i info = .ok x) idxs xs)
    (hidx : idxs.Pairwise (· < ·)) :
    (∀ x ∈ xs, s.gateways x.gateway.operator = some x.gateway) ∧
    (xs.Pairwise fun x y => x.gateway.operator ≠ y.gateway.operator) ∧
    ∀ x ∈ xs, x.gateway.status = .joined ∨ x.fullReward = 0 := by
  induction h with
  | nil => simp
  | @cons i x is xs hx hxs ih =>
    obtain ⟨hlt, hidx⟩ := List.pairwise_cons.mp hidx
    obtain ⟨h1, h2, h3⟩ := ih hidx
    obtain ⟨info, hx⟩ := hx
    obtain ⟨hg, hslot, hleave, -, -, -, -, -, hfull⟩ := scanSlot_ok hx
    have hi : i < s.registry.count :=
      hR.lt_of_address (by rw [hslot]; exact hR.nonzero _ _ hg)
    refine ⟨?_, List.pairwise_cons.mpr ⟨?_, h2⟩, ?_⟩
    · rintro y (_ | ⟨_, hy⟩)
      · exact hg
      · exact h1 y hy
    · intro y hy heq
      obtain ⟨j, hj, ⟨info', hy'⟩⟩ := exists_of_forall₂ hxs hy
      obtain ⟨hg', hslot', -⟩ := scanSlot_ok hy'
      have hij := hR.injective hi
        (hR.lt_of_address (by rw [hslot']; exact hR.nonzero _ _ hg'))
        (by rw [hslot, hslot', heq])
      exact absurd (hij ▸ hlt j hj) (lt_irrefl _)
    · rintro y (_ | ⟨_, hy⟩)
      · rcases hst : x.gateway.status with _ | _ | _
        · exact .inl rfl
        · exact .inr (fullReward_leaving hfull (hleave.mpr hst))
        · exact absurd hst (hR.status _ _ hg).1
      · exact h3 y hy

lemma distributeEpoch_ok {index : ℕ}
    (h : distributeEpoch env clock index p q remaining s = .ok s') :
    ∃ settings epoch, s.epochSettings = some settings ∧ s.epochs index = some epoch ∧
      p = s.settings.protocolTokenAccount ∧ q = s.settings.stakeTokenAccount ∧
      epoch.prescriptionsDone ≠ 0 ∧ epoch.endTimestamp ≤ clock ∧ epoch.rewardsDistributed = 0 ∧
      ((epoch.observationsSubmitted = 0 ∧ epoch.distributionIndex = 0 ∧
        s' = s.setEpoch index (some { epoch with
          distributionIndex := epoch.activeGatewayCount
          rewardsDistributed := 1 })) ∨
      ∃ batch payout t, ¬ (epoch.observationsSubmitted = 0 ∧ epoch.distributionIndex = 0) ∧
        scanBatch s epoch settings.missedObservationPenaltyRate remaining
          { distIdx := epoch.distributionIndex } = .ok batch ∧
        payBatch batch.totalReward (min batch.totalReward (s.tokens.balance p)) batch.pending
          { state := s } = .ok payout ∧
        payout.state.tokens.Moved t p q env.arioConfig
          (min batch.totalReward (s.tokens.balance p) - payout.orphaned) ∧
        (0 < payout.operatorRewards →
          payout.state.settings.totalStaked + payout.operatorRewards < 2 ^ 64) ∧
        s' = { payout.state with
          tokens := t
          epochs := Function.update payout.state.epochs index (some { epoch with
            distributionIndex := batch.distIdx
            rewardsDistributed := if epoch.activeGatewayCount ≤ batch.distIdx then 1 else 0 })
          settings := { payout.state.settings with
            totalStaked := payout.state.settings.totalStaked + payout.operatorRewards } }) := by
  simp only [distributeEpoch, bind_eq_ok, loadEpochSettings, loadEpoch, okOr_eq_ok, require_eq_ok,
    checkProtocolTokenAccount_eq_ok, checkStakeTokenAccount_eq_ok, exists_const] at h
  obtain ⟨settings, hset, epoch, he, ⟨hp, -⟩, ⟨hq, -⟩, h1, h2, h3, h⟩ := h
  refine ⟨settings, epoch, hset, he, hp, hq, h1, h2, h3, ?_⟩
  split at h
  · rename_i h0
    exact .inl ⟨h0.1, h0.2, (pure_eq_ok.mp h).symm⟩
  · rename_i h0
    simp only [bind_eq_ok, addNonzero_eq_ok, pure_eq_ok] at h
    obtain ⟨batch, hb, payout, hpay, s₁, hrel, _, ⟨hfit, rfl⟩, rfl⟩ := h
    have hmoved : ∃ t, payout.state.tokens.Moved t p q env.arioConfig
        (min batch.totalReward (s.tokens.balance p) - payout.orphaned) ∧
        s₁ = { payout.state with tokens := t } := by
      unfold releaseTreasuryToRecipient at hrel
      unfold Tokens.Moved
      split at hrel
      · rename_i hpos
        simp only [bind_eq_ok, require_eq_ok, exists_const, splTransfer_eq_ok] at hrel
        obtain ⟨-, -, t, ht, rfl⟩ := hrel
        rw [saturatingSub] at ht hpos
        exact ⟨t, by rw [if_pos hpos]; exact ht, rfl⟩
      · rename_i hpos
        obtain rfl := pure_eq_ok.mp hrel
        rw [saturatingSub] at hpos
        exact ⟨_, by rw [if_neg hpos], rfl⟩
    obtain ⟨t, ht, rfl⟩ := hmoved
    rw [h3]
    exact .inr ⟨batch, payout, t, h0, hb, hpay, ht, hfit, rfl⟩

lemma handed_of_batch {rate : ℕ} {batch : Batch} (hF : Footing env s) (hR : Registered s)
    (hb : scanBatch s epoch rate remaining { distIdx := epoch.distributionIndex } = .ok batch)
    (hpay : payBatch batch.totalReward
      (min batch.totalReward (s.tokens.balance s.settings.protocolTokenAccount)) batch.pending
      { state := s } = .ok payout) :
    Handed s ((batch.pending.map fun x => x.fullReward *
      min batch.totalReward (s.tokens.balance s.settings.protocolTokenAccount)
        / batch.totalReward).sum) payout ∧
    (batch.pending.map fun x => x.fullReward *
      min batch.totalReward (s.tokens.balance s.settings.protocolTokenAccount)
        / batch.totalReward).sum
      ≤ min batch.totalReward (s.tokens.balance s.settings.protocolTokenAccount) := by
  obtain ⟨idxs, xs, hpend, -, hscan, -, hidx, htot, hlt, -⟩ := scanBatch_ok hb
  simp only [List.nil_append, zero_add] at hpend htot
  rw [← hpend] at hscan htot
  obtain ⟨hg, hne, hst⟩ := scanned_pending hR hscan hidx
  have hle : (batch.pending.map fun x => x.fullReward *
      min batch.totalReward (s.tokens.balance s.settings.protocolTokenAccount)
        / batch.totalReward).sum
      ≤ min batch.totalReward (s.tokens.balance s.settings.protocolTokenAccount) :=
    sum_scaled_le htot.ge
  have htotal : batch.totalReward < 2 ^ 64 := hlt (by norm_num)
  have hfull : ∀ x ∈ batch.pending, x.fullReward ≤ batch.totalReward := by
    intro x hx
    rw [htot]
    exact List.single_le_sum (by simp) _ (List.mem_map_of_mem hx)
  have w := (Handed.start hF).payAll ((min_le_left _ _).trans_lt htotal) htotal hfull
    (by rwa [zero_add]) hg hne hst hpay
  rw [zero_add] at w
  exact ⟨w, hle⟩

lemma paid_of_batch {rate : ℕ} {batch : Batch} (hL : Ledger env s) (hR : Registered s)
    (hb : scanBatch s epoch rate remaining { distIdx := epoch.distributionIndex } = .ok batch)
    (hpay : payBatch batch.totalReward
      (min batch.totalReward (s.tokens.balance s.settings.protocolTokenAccount)) batch.pending
      { state := s } = .ok payout) :
    Paid s ((batch.pending.map fun x => x.fullReward *
      min batch.totalReward (s.tokens.balance s.settings.protocolTokenAccount)
        / batch.totalReward).sum) payout := by
  have hle := (handed_of_batch hL.footing hR hb hpay).2
  obtain ⟨idxs, xs, hpend, -, hscan, -, hidx, htot, hlt, -⟩ := scanBatch_ok hb
  simp only [List.nil_append, zero_add] at hpend htot
  rw [← hpend] at hscan htot
  obtain ⟨hg, hne, hst⟩ := scanned_pending hR hscan hidx
  have hsupply : (s.tokens.balance s.settings.protocolTokenAccount : ℤ)
      + s.tokens.balance s.settings.stakeTokenAccount ≤ s.tokens.supply s.settings.mint :=
    Tokens.balance_add_le_supply hL.treasury_ne_pool (by simp [hL.treasury]) (by simp [hL.pool])
  have hlt64 := hL.supply
  have htotal : batch.totalReward < 2 ^ 64 := hlt (by norm_num)
  have hfit : (book s).tokens + (min batch.totalReward
      (s.tokens.balance s.settings.protocolTokenAccount) : ℕ) < 2 ^ 64 := by
    have hmin : (min batch.totalReward (s.tokens.balance s.settings.protocolTokenAccount) : ℕ)
        ≤ s.tokens.balance s.settings.protocolTokenAccount := min_le_right _ _
    zify at hmin
    rw [← balance_eq]
    push_cast at hmin ⊢
    linarith
  have hfull : ∀ x ∈ batch.pending, x.fullReward ≤ batch.totalReward := by
    intro x hx
    rw [htot]
    exact List.single_le_sum (by simp) _ (List.mem_map_of_mem hx)
  have w := Paid.payAll hL (Paid.start hL) ((min_le_left _ _).trans_lt htotal) hfit htotal hfull
    (by rwa [zero_add]) hg hne hst hpay
  rwa [zero_add] at w

/-- What a distribution does to the ledger: nobody loses. -/
structure Gain (s s' : State) : Prop extends Footprint s s' where
  posted : ∃ ms, (∀ m ∈ ms, IsGain m) ∧ AdmitsAll precision ms (book s) ∧
    book s' = play precision ms (book s)
  exact : Exact s → Exact s'

lemma distributeEpoch_footprint {index : ℕ} (hF : Footing env s) (hR : Registered s)
    (h : distributeEpoch env clock index p q remaining s = .ok s') :
    Footprint s s' ∧ SameSeats s s' := by
  obtain ⟨settings, epoch, -, -, rfl, rfl, -, -, -, ⟨-, -, rfl⟩ |
    ⟨batch, payout, t, -, hb, hpay, ht, -, hs'⟩⟩ := distributeEpoch_ok h
  · exact ⟨⟨hF.gateways, hF.withdrawals, .of_fixed rfl rfl⟩, .of_registry rfl rfl⟩
  · have w := (handed_of_batch hF hR hb hpay).1
    obtain ⟨G, hrest⟩ := w.rest
    have htok : payout.state.tokens = s.tokens := by rw [hrest]
    have hset : payout.state.settings = s.settings := by rw [hrest]
    have hwd : payout.state.withdrawals = s.withdrawals := by rw [hrest]
    rw [htok] at ht
    refine ⟨⟨?_, ?_, ?_⟩, .of_registry ?_ ?_⟩
    · rw [hs']; exact w.gateways
    · rw [hs', ← hwd.symm]; exact hF.withdrawals
    · rw [hs', hset]
      exact ⟨rfl, ht.terms_eq, fun _ => ht.supply_eq⟩
    · rw [hs', hrest]
    · rw [hs']; exact w.seats

theorem distributeEpoch_gain {index : ℕ} (hL : Ledger env s) (hR : Registered s)
    (h : distributeEpoch env clock index p q remaining s = .ok s') : Gain s s' := by
  have hfoot := (distributeEpoch_footprint hL.footing hR h).1
  obtain ⟨settings, epoch, -, -, rfl, rfl, -, -, -, ⟨-, -, rfl⟩ |
    ⟨batch, payout, t, -, hb, hpay, ht, -, hs'⟩⟩ := distributeEpoch_ok h
  · refine ⟨hfoot, ⟨[], by simp, trivial, book_setEpoch _ _⟩, fun he => ?_⟩
    have h1 := he.staked
    have h2 := he.delegated
    have h3 := he.withdrawn
    exact ⟨by rw [book_setEpoch]; exact h1, by rw [book_setEpoch]; exact h2,
      by rw [book_setEpoch]; exact h3⟩
  · have hle := (handed_of_batch hL.footing hR hb hpay).2
    have w := paid_of_batch hL hR hb hpay
    obtain ⟨ms, hgain, hadm, hplay⟩ := w.posted
    have hsum := w.sum
    obtain ⟨G, hrest⟩ := w.rest
    set transfer := min batch.totalReward (s.tokens.balance s.settings.protocolTokenAccount)
    set done := (batch.pending.map fun x => x.fullReward * transfer / batch.totalReward).sum
    have htok : payout.state.tokens = s.tokens := by rw [hrest]
    have hset : payout.state.settings = s.settings := by rw [hrest]
    have hwd : payout.state.withdrawals = s.withdrawals := by rw [hrest]
    rw [htok] at ht
    have horph : payout.orphaned ≤ transfer := by linarith
    have hbal := ht.balance_eq s.settings.stakeTokenAccount
    rw [if_pos rfl, if_neg hL.treasury_ne_pool.symm, sub_zero, balance_eq, Nat.cast_sub horph]
      at hbal
    have hbook' : book s' = { book payout.state with
        tokens := (t.balance s.settings.stakeTokenAccount : ℤ) } := by
      rw [hs', book_mk, hset, bookOf_self]
    have hbook : book s' = play precision (ms ++ [.donate ((transfer : ℤ) - payout.orphaned
        - payout.operatorRewards - payout.delegateRewards)]) (book s) := by
      rw [hbook', play_append, hplay, hbal]
      refine Book.ext rfl rfl rfl rfl rfl rfl ?_
      simp only [play_cons, play_nil, Book.apply]
      ring
    refine ⟨hfoot, ⟨_, ?_, ?_, hbook⟩, ?_⟩
    · intro m hm
      rcases List.mem_append.mp hm with hm | hm
      · exact hgain m hm
      · rw [List.mem_singleton.mp hm]
        trivial
    · rw [admitsAll_append]
      refine ⟨hadm, ?_, trivial⟩
      simp only [Admits]
      zify at hsum hle
      linarith
    · rintro ⟨h1, h2, h3⟩
      refine ⟨?_, ?_, ?_⟩
      · rw [hbook', totalOwn_tokens, w.totalOwn, hs', hset]
        push_cast
        rw [h1]
      · rw [hbook', totalShares_tokens, w.totalShares, hs', hset]
        exact h2
      · rw [totalVault_congr s s' (by rw [hs', ← hwd]), hs', hset]
        exact h3

end Gar
end ArioSolana
