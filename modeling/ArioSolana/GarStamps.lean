import ArioSolana.GarEpochs

/-!
# What a tally fixes

A tally stamps each gateway with its epoch and each slot with a weight, and it notes whether the
gateway had delegates. Nothing but the next tally changes a stamp, except that a gateway that
departs loses its weight. So the payout of an epoch splits a reward by the share and by the note
of the tally, whatever happened to the delegations since.
-/

namespace ArioSolana
namespace Gar

open Checked Solana

variable {env : Env} {s s' s₀ : State} {k : Pubkey} {tr : Trace} {e : Event} {clock : Clock}
  {i : Instruction} {index : ℕ} {remaining : List AccountMeta} {g g' : Gateway}

/-! ### Stamps -/

/-- What the last tally decided about a gateway. -/
structure Stamp where
  status : GatewayStatus
  weightsEpoch : ℕ
  delegateRewardShareRatio : ℕ
  slot : GatewaySlot

def State.stamp (s : State) (k : Pubkey) : Option Stamp :=
  (s.gateways k).map fun g => ⟨g.status, g.weights.weightsEpoch,
    g.settings.delegateRewardShareRatio, s.registry.gateways g.registryIndex⟩

lemma stamp_eq (hg : s.gateways k = some g) (hg' : s'.gateways k = some g')
    (h1 : g'.status = g.status) (h2 : g'.weights = g.weights)
    (h3 : g'.settings.delegateRewardShareRatio = g.settings.delegateRewardShareRatio)
    (h4 : s'.registry.gateways g'.registryIndex = s.registry.gateways g.registryIndex) :
    s'.stamp k = s.stamp k := by
  rw [State.stamp, State.stamp, hg, hg', Option.map_some, Option.map_some, h1, h2, h3, h4]

lemma stamp_none (hg : s.gateways k = none) (hg' : s'.gateways k = none) :
    s'.stamp k = s.stamp k := by
  rw [State.stamp, State.stamp, hg, hg', Option.map_none, Option.map_none]

lemma stamp_of_same (hG : s'.gateways k = s.gateways k)
    (hr : ∀ g, s.gateways k = some g →
      s'.registry.gateways g.registryIndex = s.registry.gateways g.registryIndex) :
    s'.stamp k = s.stamp k := by
  rcases hg : s.gateways k with _ | g
  · exact stamp_none hg (by rw [hG, hg])
  · exact stamp_eq hg (by rw [hG, hg]) rfl rfl rfl (hr g hg)

lemma Quiet.stamp (h : Quiet s s') (k : Pubkey) : s'.stamp k = s.stamp k := by
  have hsh := congrFun h.shells k
  rw [State.shells, State.shells] at hsh
  rcases hg : s.gateways k with _ | g
  · rw [hg, Option.map_none, Option.map_eq_none_iff] at hsh
    exact stamp_none hg hsh
  · rw [hg, Option.map_some, Option.map_eq_some_iff] at hsh
    obtain ⟨g', hg', heq⟩ := hsh
    refine stamp_eq hg hg' (congrArg Shell.status heq) (congrArg Shell.weights heq)
      (congrArg Shell.delegateRewardShareRatio heq) ?_
    rw [h.registry, show g'.registryIndex = g.registryIndex from congrArg Shell.registryIndex heq]

lemma EpochOnly.stamp (h : EpochOnly s s') (k : Pubkey) : s'.stamp k = s.stamp k := by
  obtain ⟨_, _, _, _, rfl⟩ := h
  rfl

/-! ### Paying -/

section Paying

variable {x : PendingDistribution} {payment : Payment} {payout payout' : Payout}
  {total transfer r : ℕ} {had : Bool} {xs : List PendingDistribution}

lemma payGateway_gateway (h : payGateway g r had = .ok payment) :
    ∃ stake cum, payment.gateway = { g with
      operatorStake := stake
      cumulativeRewardPerToken := cum } := by
  simp only [payGateway] at h
  split at h
  · simp only [bind_eq_ok, pure_eq_ok] at h
    obtain ⟨_, -, _, -, rfl⟩ := h
    exact ⟨_, _, rfl⟩
  · obtain rfl := pure_eq_ok.mp h
    exact ⟨_, _, rfl⟩

lemma payPending_orphaned (h : payPending total transfer x payout = .ok payout')
    (hlt : payout.orphaned < 2 ^ 64) :
    payout.orphaned ≤ payout'.orphaned ∧ payout'.orphaned < 2 ^ 64 := by
  obtain ⟨payment, -, -, -, -, hor⟩ := payPending_ok h
  rw [hor]
  exact ⟨le_saturatingAdd hlt, saturatingAdd_lt⟩

lemma payBatch_orphaned (h : payBatch total transfer xs payout = .ok payout')
    (hlt : payout.orphaned < 2 ^ 64) : payout.orphaned ≤ payout'.orphaned := by
  induction xs generalizing payout with
  | nil =>
    obtain rfl := pure_eq_ok.mp h
    exact le_rfl
  | cons x xs ih =>
    simp only [payBatch, bind_eq_ok] at h
    obtain ⟨payout₁, h₁, h⟩ := h
    obtain ⟨hle, hlt₁⟩ := payPending_orphaned h₁ hlt
    exact hle.trans (ih h hlt₁)

lemma payBatch_other (h : payBatch total transfer xs payout = .ok payout')
    (hk : ∀ x ∈ xs, x.gateway.operator ≠ k) :
    payout'.state.gateways k = payout.state.gateways k := by
  induction xs generalizing payout with
  | nil =>
    obtain rfl := pure_eq_ok.mp h
    rfl
  | cons x xs ih =>
    simp only [payBatch, bind_eq_ok] at h
    obtain ⟨payout₁, h₁, h⟩ := h
    obtain ⟨payment, hp, hst, -⟩ := payPending_ok h₁
    obtain ⟨stake, cum, hgw⟩ := payGateway_gateway hp
    rw [ih h fun y hy => hk y (List.mem_cons_of_mem _ hy), hst, hgw, State.setGateway]
    exact Function.update_of_ne (hk x List.mem_cons_self).symm _ _

lemma payBatch_each (h : payBatch total transfer xs payout = .ok payout')
    (hne : xs.Pairwise fun x y => x.gateway.operator ≠ y.gateway.operator) (hx : x ∈ xs)
    (hlt : payout.orphaned < 2 ^ 64) :
    ∃ payment, payGateway x.gateway (scaleReward x.fullReward transfer total)
        x.hadDelegationAtTally = .ok payment ∧
      payout'.state.gateways x.gateway.operator = some { payment.gateway with
        stats := if !x.isLeaving && x.eligible then
          payment.gateway.stats.record x.failed x.isPrescribed x.isObserved
          else payment.gateway.stats } ∧
      (payment.orphaned < 2 ^ 64 → payment.orphaned ≤ payout'.orphaned) := by
  induction xs generalizing payout with
  | nil => simp at hx
  | cons y ys ih =>
    obtain ⟨hhead, htail⟩ := List.pairwise_cons.mp hne
    simp only [payBatch, bind_eq_ok] at h
    obtain ⟨payout₁, h₁, h⟩ := h
    have hlt₁ := (payPending_orphaned h₁ hlt).2
    rcases List.mem_cons.mp hx with rfl | hx
    · obtain ⟨payment, hp, hst, -, -, hor⟩ := payPending_ok h₁
      obtain ⟨stake, cum, hgw⟩ := payGateway_gateway hp
      refine ⟨payment, hp, ?_, fun hpay => ?_⟩
      · have hop : payment.gateway.operator = x.gateway.operator := by rw [hgw]
        rw [payBatch_other h fun z hz => (hhead z hz).symm, hst, hop, State.setGateway]
        exact Function.update_self ..
      · refine le_trans ?_ (payBatch_orphaned h hlt₁)
        rw [hor, saturatingAdd]
        exact le_min (Nat.le_add_left _ _) (Nat.le_sub_one_of_lt hpay)
    · exact ih h htail hx hlt₁

end Paying

lemma distributeEpoch_stamp {clock : ℤ} {p q : Pubkey} (hF : Footing env s) (hR : Registered s)
    (h : distributeEpoch env clock index p q remaining s = .ok s') (k : Pubkey) :
    s'.stamp k = s.stamp k := by
  obtain ⟨settings, epoch, -, -, rfl, rfl, -, -, -, ⟨-, -, rfl⟩ |
    ⟨batch, payout, t, -, hb, hpay, -, -, hs'⟩⟩ := distributeEpoch_ok h
  · rfl
  · obtain ⟨G, hrest⟩ := (handed_of_batch hF hR hb hpay).1.rest
    obtain ⟨idxs, xs, hpend, -, hscan, -, hidx, -⟩ := scanBatch_ok hb
    simp only [List.nil_append] at hpend
    rw [← hpend] at hscan
    obtain ⟨hg, hne, -⟩ := scanned_pending hR hscan hidx
    have hreg : s'.registry = s.registry := by rw [hs', hrest]
    have hgw : s'.gateways = payout.state.gateways := by rw [hs']
    by_cases hk : ∃ x ∈ batch.pending, x.gateway.operator = k
    · obtain ⟨x, hx, rfl⟩ := hk
      obtain ⟨payment, hp, hst, -⟩ := payBatch_each hpay hne hx (by norm_num)
      obtain ⟨stake, cum, hpg⟩ := payGateway_gateway hp
      rw [← hgw, hpg] at hst
      exact stamp_eq (hg x hx) hst rfl rfl rfl (by rw [hreg])
    · push Not at hk
      refine stamp_of_same ?_ fun g _ => by rw [hreg]
      rw [hgw, payBatch_other hpay hk]

/-! ### Tallying -/

/-- What a tally for epoch `n` did to a gateway and its slot. A gateway that is not joined has no
weight; a joined one is stamped, and it is noted whether it has delegates. -/
def Weighed (s s' : State) (n : ℕ) (k : Pubkey) (g : Gateway) : Prop :=
  g.status ≠ .joined ∧ s'.gateways k = some g ∧
    s'.registry.gateways g.registryIndex = { s.registry.gateways g.registryIndex with
      compositeWeight := 0
      delegatedAtTally := 0 } ∨
  g.status = .joined ∧ ∃ weights weight, s'.gateways k = some (g.stampWeights weights n) ∧
    s'.registry.gateways g.registryIndex = { s.registry.gateways g.registryIndex with
      compositeWeight := weight
      delegatedAtTally := if 0 < g.totalDelegatedStake then 1 else 0 }

lemma tallySlot_weighed {settings : EpochSettings} {epoch epoch' : Epoch} {j : ℕ}
    {info : AccountMeta} (hR : Registered s)
    (h : tallySlot settings epoch j info s = .ok (s', epoch')) :
    (∀ i, i ≠ j → s'.registry.gateways i = s.registry.gateways i) ∧
    ∀ k g, s.gateways k = some g →
      (g.registryIndex ≠ j → s'.gateways k = some g) ∧
      (g.registryIndex = j → Weighed s s' epoch.epochIndex k g) := by
  obtain ⟨-, ⟨hout, rfl, -⟩ | ⟨x, weights, weight, hx, hslot, -, hst, -, -, rfl, -⟩⟩ :=
    tallySlot_ok h
  · refine ⟨fun i hi => by simp [GatewayRegistry.setSlot, hi], fun k g hg => ⟨fun _ => hg, ?_⟩⟩
    rintro rfl
    refine .inl ⟨?_, hg, by simp [GatewayRegistry.setSlot]⟩
    have haddr := (hR.index k g hg).2
    rcases hout with hdef | ⟨y, hy, hne⟩
    · rw [haddr] at hdef
      exact absurd hdef (hR.nonzero k g hg)
    · rw [haddr, hg] at hy
      rwa [Option.some.inj hy]
  · have hxidx : x.registryIndex = j := by
      have hlt : j < s.registry.count := by
        refine hR.lt_of_address ?_
        rw [hslot]
        exact hR.nonzero _ _ hx
      exact hR.index_eq hlt (by rw [hslot]; exact hx)
    refine ⟨fun i hi => by simp [GatewayRegistry.setSlot, hi], fun k g hg => ⟨fun hne => ?_, ?_⟩⟩
    · have hk : k ≠ x.operator := by
        rintro rfl
        rw [hx] at hg
        exact hne (Option.some.inj hg ▸ hxidx)
      simpa [hk] using hg
    · intro heq
      have hk : k = x.operator := by
        by_contra hk
        exact hR.index_ne hx hg hk (heq.trans hxidx.symm)
      subst hk
      obtain rfl : x = g := Option.some.inj (hx.symm.trans hg)
      exact .inr ⟨hst, weights, weight, by simp, by simp [GatewayRegistry.setSlot, heq]⟩

lemma tallyBatch_weighed {settings : EpochSettings} {epoch epoch' : Epoch}
    {infos : List AccountMeta} (hR : Registered s)
    (h : tallyBatch settings infos (s, epoch) = .ok (s', epoch')) :
    (∀ i, i < epoch.tallyIndex ∨ epoch'.tallyIndex ≤ i →
      s'.registry.gateways i = s.registry.gateways i) ∧
    ∀ k g, s.gateways k = some g →
      (g.registryIndex < epoch.tallyIndex ∨ epoch'.tallyIndex ≤ g.registryIndex →
        s'.gateways k = some g) ∧
      (epoch.tallyIndex ≤ g.registryIndex → g.registryIndex < epoch'.tallyIndex →
        Weighed s s' epoch.epochIndex k g) := by
  induction infos generalizing s epoch with
  | nil =>
    obtain ⟨rfl, rfl⟩ := Prod.mk.inj (pure_eq_ok.mp h)
    exact ⟨fun _ _ => rfl, fun k g hg => ⟨fun _ => hg, fun h1 h2 => by omega⟩⟩
  | cons info infos ih =>
    unfold tallyBatch at h
    split at h
    · simp only [bind_eq_ok, Prod.exists] at h
      obtain ⟨s₁, e₁, h₁, h⟩ := h
      have hR₁ := hR.of_sameSeats (tallySlot_tallied h₁).seats
      obtain ⟨hslots, hgws⟩ := tallySlot_weighed hR h₁
      obtain ⟨ihslots, ihgws⟩ := ih hR₁ h
      obtain ⟨n, w, hle, rfl⟩ := tallyBatch_epoch h
      have hadv : e₁.tallyIndex = epoch.tallyIndex + 1 ∧ e₁.epochIndex = epoch.epochIndex := by
        obtain ⟨-, ⟨-, -, rfl⟩ | ⟨_, _, _, -, -, -, -, -, -, -, rfl⟩⟩ := tallySlot_ok h₁ <;>
          exact ⟨rfl, rfl⟩
      simp only at ihslots ihgws ⊢
      rw [hadv.1] at ihslots ihgws hle
      rw [hadv.2] at ihgws
      refine ⟨fun i hi => ?_, fun k g hg => ⟨fun hi => ?_, fun h1 h2 => ?_⟩⟩
      · rw [ihslots i (by omega), hslots i (by omega)]
      · have hg₁ := (hgws k g hg).1 (by omega)
        exact (ihgws k g hg₁).1 (by omega)
      · rcases h1.eq_or_lt with heq | hlt
        · -- the slot of this step; the rest of the batch leaves it alone
          have hrest := ihslots g.registryIndex (by omega)
          rcases (hgws k g hg).2 heq.symm with ⟨hst, hg₁, hslot⟩ | ⟨hst, weights, w', hg₁, hslot⟩
          · have hg₂ := (ihgws k g hg₁).1 (.inl (by omega))
            exact .inl ⟨hst, hg₂, by rw [hrest, hslot]⟩
          · have hg₂ := (ihgws k _ hg₁).1 (.inl (by simp only [Gateway.stampWeights]; omega))
            exact .inr ⟨hst, weights, w', hg₂, by rw [hrest, hslot]⟩
        · have hg₁ := (hgws k g hg).1 (by omega)
          have hsame := hslots g.registryIndex (by omega)
          rcases (ihgws k g hg₁).2 (by omega) h2 with ⟨hst, hg₂, hslot⟩ |
            ⟨hst, weights, w', hg₂, hslot⟩
          · exact .inl ⟨hst, hg₂, by rw [hslot, hsame]⟩
          · exact .inr ⟨hst, weights, w', hg₂, by rw [hslot, hsame]⟩
    · obtain ⟨rfl, rfl⟩ := Prod.mk.inj (pure_eq_ok.mp h)
      exact ⟨fun _ _ => rfl, fun k g hg => ⟨fun _ => hg, fun h1 h2 => by omega⟩⟩

lemma finalize_stamp {operator : Pubkey} {s₁ : State} (hR : Registered s)
    (hg : s.gateways operator = some g) (hk : k ≠ operator)
    (hmove : moveLastSlot g.registryIndex remaining s = .ok s₁)
    (hG : s'.gateways = Function.update s₁.gateways operator none)
    (hr : s'.registry = s₁.registry.dropLast) : s'.stamp k = s.stamp k := by
  rcases moveLastSlot_ok hmove with ⟨hlast, rfl⟩ | ⟨x, hlast, hx, rfl⟩
  · refine stamp_of_same (by rw [hG, Function.update_of_ne hk]) fun y hy => ?_
    have h1 := (hR.index k y hy).1
    have h2 := hR.index_ne hg hy hk
    rw [hr]
    exact Function.update_of_ne (by omega) _ _
  · set n := s.registry.count with hn
    have hlt := (hR.index _ _ hg).1
    have hxidx : x.registryIndex = n - 1 := hR.index_eq (by omega) hx
    by_cases hkl : k = (s.registry.gateways (n - 1)).address
    · have hx' : s'.gateways k = some { x with registryIndex := g.registryIndex } := by
        rw [hG, Function.update_of_ne hk, hkl]
        exact Function.update_self ..
      have hxk : s.gateways k = some x := by rw [hkl]; exact hx
      refine stamp_eq hxk hx' rfl rfl rfl ?_
      rw [hr]
      simp [GatewayRegistry.dropLast, GatewayRegistry.setSlot, ← hn, hlast, hxidx]
    · have hsame : s'.gateways k = s.gateways k := by
        rw [hG, Function.update_of_ne hk]
        exact Function.update_of_ne hkl _ _
      refine stamp_of_same hsame fun y hy => ?_
      have h1 := hR.index_ne hx hy hkl
      have h2 := hR.index_ne hg hy hk
      have h3 : y.registryIndex ≠ n - 1 := by omega
      rw [hr]
      simp [GatewayRegistry.dropLast, GatewayRegistry.setSlot, ← hn, h3, h2]

/-! ### Snapshots -/

/-- A step tallies a gateway for epoch `n`: the cursor of the epoch moves past its slot. -/
def TalliesGateway (x : Step State Event) (n : ℕ) (k : Pubkey) : Prop :=
  x.label.Calls (fun i => ∃ remaining, i = .tallyWeights n remaining) ∧
  ∃ epoch epoch' g, x.before.epochs n = some epoch ∧ x.after.epochs n = some epoch' ∧
    x.before.gateways k = some g ∧ epoch.tallyIndex ≤ g.registryIndex ∧
    g.registryIndex < epoch'.tallyIndex

/-- While a gateway is in the epoch, its slot and its share are those of the snapshot. -/
def Snapshot (s : State) (k : Pubkey) (n : ℕ) (had : Prop) (ratio : ℕ) : Prop :=
  ∀ x, s.stamp k = some x → x.status = .joined → x.weightsEpoch = n →
    0 < x.slot.compositeWeight →
    (x.slot.delegatedAtTally ≠ 0 ↔ had) ∧ x.delegateRewardShareRatio = ratio

variable {n : ℕ} {had : Prop} {ratio : ℕ}

lemma Snapshot.of_stamp (h : Snapshot s k n had ratio) (hs : s'.stamp k = s.stamp k) :
    Snapshot s' k n had ratio := by
  intro x hx
  rw [hs] at hx
  exact h x hx

lemma Snapshot.of_none (hg : s.gateways k = none) : Snapshot s k n had ratio := by
  intro x hx
  rw [State.stamp, hg] at hx
  cases hx

lemma Snapshot.of_gateway (hg : s.gateways k = some g)
    (h : g.status = .joined → g.weights.weightsEpoch = n →
      0 < (s.registry.gateways g.registryIndex).compositeWeight →
      ((s.registry.gateways g.registryIndex).delegatedAtTally ≠ 0 ↔ had) ∧
        g.settings.delegateRewardShareRatio = ratio) : Snapshot s k n had ratio := by
  intro x hx
  rw [State.stamp, hg] at hx
  obtain rfl := Option.some.inj hx
  exact h

lemma tallyWeights_snapshot (hR : Registered s) (hK : Keyed s)
    (h : tallyWeights index remaining s = .ok s')
    (hno : ¬ TalliesGateway ⟨s, e, s'⟩ n k)
    (he : e.action = .call (.tallyWeights index remaining))
    (hS : Snapshot s k n had ratio) : Snapshot s' k n had ratio := by
  obtain ⟨settings, epoch, s₁, epoch', -, hep, -, -, -, hb, rfl⟩ := tallyWeights_ok h
  obtain ⟨hslots, hgws⟩ := tallyBatch_weighed hR hb
  rcases hg : s.gateways k with _ | g
  · refine .of_none ?_
    have := congrFun (tallyBatch_tallied hb).seats.seats k
    rw [State.seats, State.seats, hg, Option.map_none, Option.map_eq_none_iff] at this
    exact this
  · by_cases hin : epoch.tallyIndex ≤ g.registryIndex ∧ g.registryIndex < epoch'.tallyIndex
    · by_cases hn : index = n
      · subst hn
        exact absurd ⟨⟨_, he, remaining, rfl⟩, epoch, _, g, hep, Function.update_self .., hg,
          hin.1, hin.2⟩ hno
      · rcases (hgws k g hg).2 hin.1 hin.2 with ⟨hst, hg', -⟩ | ⟨-, weights, w, hg', -⟩
        · exact .of_gateway (s := s₁.setEpoch index _) hg' fun hj => absurd hj hst
        · refine .of_gateway (s := s₁.setEpoch index _) hg' fun _ hw => ?_
          exact absurd ((hK _ _ hep).symm.trans hw) hn
    · have hout : g.registryIndex < epoch.tallyIndex ∨ epoch'.tallyIndex ≤ g.registryIndex := by
        omega
      refine hS.of_stamp ?_
      have hsame := (hgws k g hg).1 hout
      refine stamp_of_same ?_ fun x hx => ?_
      · rw [hg]
        exact hsame
      · rw [hg] at hx
        exact Option.some.inj hx ▸ hslots _ hout

/-- **One step and a snapshot.** Nothing but a tally of the gateway for the epoch changes it. -/
theorem step_snapshot (hF : Footing env s) (hR : Registered s) (hK : Keyed s)
    (h : GarStep env s e s') (hno : ¬ TalliesGateway ⟨s, e, s'⟩ n k)
    (hS : Snapshot s k n had ratio) : Snapshot s' k n had ratio := by
  rcases garStep_cases h with ⟨i, he, -, h⟩ | ⟨t, rfl⟩
  · by_cases hepoch : i.IsEpochOnly
    · exact hS.of_stamp ((handler_epochOnly hepoch h).stamp k)
    by_cases hb : i.IsBatch
    · cases i <;> try exact hb.elim
      case tallyWeights index remaining => exact tallyWeights_snapshot hR hK h hno he hS
      case distributeEpoch index treasury pool remaining =>
        exact hS.of_stamp (distributeEpoch_stamp hF hR h k)
    by_cases hl : i.IsLifecycle
    · cases i <;> try exact hl.elim
      all_goals simp only [Instruction.handler] at h
      case joinNetwork operator account pool params =>
        obtain ⟨g, t, -, -, -, -, -, -, -, -, -, -, -, -, -, hidx, -, -, -, rfl⟩ := joinNetwork_ok h
        by_cases hk : k = operator
        · subst hk
          refine .of_gateway (g := g) (Function.update_self ..) fun _ _ hw => ?_
          simp [hidx] at hw
        · refine hS.of_stamp (stamp_of_same (Function.update_of_ne hk _ _) fun x hx => ?_)
          exact Function.update_of_ne (hR.index k x hx).1.ne _ _
      case leaveNetwork operator excess remaining =>
        obtain ⟨g, settings, C, W, L, hg, -, -, -, -, -, -, -, rfl⟩ := leaveNetwork_ok h
        by_cases hk : k = operator
        · subst hk
          exact .of_gateway (Function.update_self ..) fun hj => by cases hj
        · refine hS.of_stamp (stamp_of_same (Function.update_of_ne hk _ _) fun x hx => ?_)
          exact Function.update_of_ne (hR.index_ne hg hx hk) _ _
      case pruneGateway operator pool treasury excess remaining =>
        obtain ⟨g, settings, slash, C, W, L, t, hg, -, -, -, -, -, -, -, -, -, -, rfl⟩ :=
          pruneGateway_ok h
        by_cases hk : k = operator
        · subst hk
          exact .of_gateway (Function.update_self ..) fun hj => by cases hj
        · refine hS.of_stamp (stamp_of_same (Function.update_of_ne hk _ _) fun x hx => ?_)
          exact Function.update_of_ne (hR.index_ne hg hx hk) _ _
      case finalizeGone operator remaining =>
        obtain ⟨g, settings, s₁, hg, -, -, -, -, -, -, -, -, hmove, rfl⟩ := finalizeGone_ok h
        by_cases hk : k = operator
        · subst hk
          exact .of_none (Function.update_self ..)
        · exact hS.of_stamp (finalize_stamp hR hg hk hmove rfl rfl)
      case updateObserverAddress operator newObserver =>
        obtain ⟨g, hg, -, -, -, -, -, rfl⟩ := updateObserverAddress_ok h
        refine hS.of_stamp ?_
        by_cases hk : k = operator
        · subst hk
          exact stamp_eq hg (Function.update_self ..) rfl rfl rfl rfl
        · exact stamp_of_same (Function.update_of_ne hk _ _) fun _ _ => rfl
    · exact hS.of_stamp ((handler_quiet hF hepoch hb hl h).stamp k)
  · exact hS

lemma run_snapshot {tr' : Trace} {s₁ : State} (hfresh : Fresh env s₀)
    (run₁ : Run (GarStep env) s₀ tr s₁) (run : Run (GarStep env) s₀ (tr' ++ tr) s)
    (hno : ∀ x ∈ tr', ¬ TalliesGateway x n k)
    (hS : Snapshot s₁ k n had ratio) : Snapshot s k n had ratio := by
  induction tr' generalizing s with
  | nil => rwa [run.last_eq run₁]
  | cons x tr' ih =>
    cases run with
    | cons run last =>
      obtain ⟨hF, hR⟩ := run_footing hfresh run
      exact step_snapshot hF hR (run_keyed hfresh run) last (hno _ List.mem_cons_self)
        (ih run fun y hy => hno y (List.mem_cons_of_mem _ hy))

/-! ### The share of the delegates -/

/-- `x` is what the first pass of a distribution finds out about a gateway, and `r` its reward,
scaled to what the treasury holds. An epoch without reports has no rewards. -/
def Rewarded (s : State) (n : ℕ) (remaining : List AccountMeta) (batch : Batch)
    (x : PendingDistribution) (r : ℕ) : Prop :=
  ∃ settings epoch, s.epochSettings = some settings ∧ s.epochs n = some epoch ∧
    ¬ (epoch.observationsSubmitted = 0 ∧ epoch.distributionIndex = 0) ∧
    scanBatch s epoch settings.missedObservationPenaltyRate remaining
      { distIdx := epoch.distributionIndex } = .ok batch ∧
    x ∈ batch.pending ∧ r = scaleReward x.fullReward (min batch.totalReward
      (s.tokens.balance s.settings.protocolTokenAccount)) batch.totalReward

/-- A gateway that is paid is in the epoch: it is joined, and its slot has a weight. -/
lemma scanSlot_paid {epoch : Epoch} {rate j : ℕ} {info : AccountMeta} {x : PendingDistribution}
    (hR : Registered s) (h : scanSlot s epoch rate j info = .ok x) (hpos : 0 < x.fullReward) :
    s.stamp x.gateway.operator = some ⟨.joined, epoch.epochIndex,
      x.gateway.settings.delegateRewardShareRatio, s.registry.gateways j⟩ ∧
    0 < (s.registry.gateways j).compositeWeight := by
  obtain ⟨hg, hslot, hleave, helig, -, -, -, -, hfull⟩ := scanSlot_ok h
  have hne : x.isLeaving ≠ true := by
    intro hl
    rw [fullReward_leaving hfull hl] at hpos
    exact lt_irrefl _ hpos
  have hel : x.eligible = true := by
    by_contra hno
    rw [Bool.not_eq_true] at hno
    rw [hfull, fullReward, hno] at hpos
    simp at hpos
  obtain ⟨hw, hepoch⟩ := helig.mp hel
  have hst : x.gateway.status = .joined := by
    rcases hst : x.gateway.status with _ | _ | _
    · rfl
    · exact absurd (hleave.mpr hst) hne
    · exact absurd hst (hR.status _ _ hg).1
  have hlt : j < s.registry.count := by
    refine hR.lt_of_address ?_
    rw [hslot]
    exact hR.nonzero _ _ hg
  have hidx : x.gateway.registryIndex = j := hR.index_eq hlt (by rw [hslot]; exact hg)
  refine ⟨?_, hw⟩
  rw [State.stamp, hg, Option.map_some, hst, hepoch, hidx]

/-- Right after the tally the snapshot is in the registry, and it stays there. -/
lemma tallied_snapshot {later earlier : Trace} {x : Step State Event} {g₀ g₁ : Gateway}
    (hfresh : Fresh env s₀) (run : Run (GarStep env) s₀ (later ++ x :: earlier) s)
    (htally : TalliesGateway x n k)
    (hlast : ∀ y ∈ later, ¬ TalliesGateway y n k) (hg₀ : x.before.gateways k = some g₀)
    (hdel : 0 < g₀.totalDelegatedStake) (hg₁ : x.after.gateways k = some g₁) :
    Snapshot s k n True g₁.settings.delegateRewardShareRatio := by
  obtain ⟨s₁, run₁⟩ := run.of_append
  refine run_snapshot hfresh run₁ run hlast ?_
  cases run₁ with
  | @cons _ s e s' run₀ last =>
    obtain ⟨-, hR⟩ := run_footing hfresh run₀
    obtain ⟨⟨i, hi, remaining, rfl⟩, epoch, epoch', g, he, he', hg, hlo, hhi⟩ := htally
    simp only at hi he he' hg hg₀ hg₁
    obtain rfl := Option.some.inj (hg₀.symm.trans hg)
    obtain ⟨clock, action⟩ := e
    simp only at hi
    subst hi
    simp only [GarStep, Event.exec, Instruction.exec, bind_eq_ok, Instruction.handler] at last
    obtain ⟨-, -, last⟩ := last
    obtain ⟨settings, ep, s₁, ep', -, hep, -, -, -, hb, rfl⟩ := tallyWeights_ok last
    obtain rfl := Option.some.inj (hep.symm.trans he)
    have hep' : ep'.tallyIndex = epoch'.tallyIndex := by
      simp only [State.setEpoch, Function.update_self] at he'
      rw [← Option.some.inj he']
    rcases ((tallyBatch_weighed hR hb).2 k g₀ hg₀).2 hlo (hep' ▸ hhi) with ⟨hst, hg', -⟩ |
      ⟨-, weights, w, hg', hslot⟩
    · exact .of_gateway (s := s₁.setEpoch n _) hg' fun hj => absurd hj hst
    · refine .of_gateway (s := s₁.setEpoch n _) hg' fun _ _ _ => ⟨?_, ?_⟩
      · have : (s₁.registry.gateways g₀.registryIndex).delegatedAtTally = 1 := by
          rw [hslot]
          exact if_pos hdel
        simp only [Gateway.stampWeights, State.setEpoch, this, ne_eq, one_ne_zero,
          not_false_eq_true]
      · have hg₁' : s₁.gateways k = some g₁ := hg₁
        rw [hg'] at hg₁'
        rw [Option.some.inj hg₁']

lemma scaleReward_zero {transfer total : ℕ} : scaleReward 0 transfer total = 0 := by
  simp [scaleReward]

/-- What a distribution does to a gateway that it pays: the pool of the delegates is cut off by the
note of the tally, and goes to the accumulator or stays in the treasury. -/
lemma distributeEpoch_paid {clock : ℤ} {p q : Pubkey} {batch : Batch} {x : PendingDistribution}
    {r : ℕ} (hF : Footing env s) (hR : Registered s)
    (h : distributeEpoch env clock index p q remaining s = .ok s')
    (hpaid : Rewarded s index remaining batch x r) :
    ∃ pool g', pool = (if x.hadDelegationAtTally then
        r * x.gateway.settings.delegateRewardShareRatio / 10000 else 0) ∧
      s'.gateways x.gateway.operator = some g' ∧
      g'.operatorStake ≤ x.gateway.operatorStake + (r - pool) ∧
      (0 < x.gateway.totalDelegatedStake ∧
        g'.cumulativeRewardPerToken = saturatingAdd 128 x.gateway.cumulativeRewardPerToken
          (pool * rewardPrecision / x.gateway.totalDelegatedStake) ∨
        g'.cumulativeRewardPerToken = x.gateway.cumulativeRewardPerToken ∧
        s.tokens.balance s.settings.protocolTokenAccount + pool
          ≤ s'.tokens.balance s'.settings.protocolTokenAccount
            + min batch.totalReward (s.tokens.balance s.settings.protocolTokenAccount)) := by
  obtain ⟨settings, epoch, hset, he, hrep, hscan, hx, rfl⟩ := hpaid
  obtain ⟨settings', epoch', hset', he', rfl, rfl, -, -, -, ⟨h1, h2, -⟩ |
    ⟨batch', payout, t, -, hb, hpay, ht, -, hs'⟩⟩ := distributeEpoch_ok h
  · rw [he] at he'
    cases he'
    exact absurd ⟨h1, h2⟩ hrep
  rw [hset] at hset'
  cases hset'
  rw [he] at he'
  cases he'
  rw [hscan] at hb
  cases hb
  obtain ⟨w, hle⟩ := handed_of_batch hF hR hscan hpay
  have hsum := w.sum
  obtain ⟨G, hrest⟩ := w.rest
  obtain ⟨idxs, xs, hpend, -, hslots, -, hidx, htot, hlt, -⟩ := scanBatch_ok hscan
  simp only [List.nil_append, zero_add] at hpend htot
  rw [← hpend] at hslots htot
  obtain ⟨hg, hne, hst⟩ := scanned_pending hR hslots hidx
  set transfer := min batch.totalReward (s.tokens.balance s.settings.protocolTokenAccount)
  have hfull : x.fullReward ≤ batch.totalReward := by
    rw [htot]
    exact List.single_le_sum (by simp) _ (List.mem_map_of_mem hx)
  have htotal : batch.totalReward < 2 ^ 64 := hlt (by norm_num)
  have htransfer : transfer < 2 ^ 64 := (min_le_left _ _).trans_lt htotal
  obtain ⟨hscale, hscale_le⟩ := scaleReward_eq hfull htotal htransfer
  set r := scaleReward x.fullReward transfer batch.totalReward with hr
  have hrlt : r < 2 ^ 64 := by rw [hscale]; exact hscale_le.trans_lt htransfer
  have hshare := (hF.gateways _ _ (hg x hx)).share
  have hst' : x.gateway.status = .joined ∨ r = 0 := by
    rcases hst x hx with hj | h0
    · exact .inl hj
    · exact .inr (by rw [hr, h0, scaleReward_zero])
  obtain ⟨payment, hp, hgw, horph⟩ := payBatch_each hpay hne hx (by norm_num)
  obtain ⟨pool, reward, increment, hpool, hreward, hpool_le, -, hsplit, -, hinc, horphan, hpg⟩ :=
    payGateway_ok hrlt hshare hst' hp
  have horph' := horph (by omega)
  have hG : s'.gateways x.gateway.operator = _ := (congrFun (by rw [hs']) _).trans hgw
  refine ⟨pool, _, hpool, hG, ?_, ?_⟩
  · rw [hpg, ← hreward]
    simp only
    split
    · exact saturatingAdd_le
    · exact Nat.le_add_right _ _
  · rw [hpg]
    simp only
    by_cases hpos : 0 < pool ∧ 0 < x.gateway.totalDelegatedStake
    · rw [if_pos hpos, (hinc hpos.1 hpos.2).2.2]
      exact .inl ⟨hpos.2, rfl⟩
    · rw [if_neg hpos]
      refine .inr ⟨rfl, ?_⟩
      have hle' : payout.orphaned ≤ transfer := by linarith
      have hbal := ht.balance_eq s.settings.protocolTokenAccount
      rw [if_pos rfl, if_neg hF.treasury_ne_pool, Nat.cast_sub hle'] at hbal
      have htok : payout.state.tokens = s.tokens := by rw [hrest]
      have hacc : s'.settings.protocolTokenAccount = s.settings.protocolTokenAccount := by
        rw [hs', hrest]
      have htok' : s'.tokens = t := by rw [hs']
      rw [hacc, htok', ← horphan hpos]
      rw [htok] at hbal
      zify at horph' ⊢
      linarith

/-- **The share of the delegates.** Let the gateway have delegated stake at its last tally for
epoch `n`, and let `ratio` be its share right after that tally. When a distribution of epoch `n`
pays the gateway a scaled reward `r`, then whatever happened in between, its operator is credited
with at most `r - r * ratio / 10000`, and the rest goes to the accumulator or stays in the
treasury. -/
theorem delegate_share_fixed {later earlier : Trace} {x : Step State Event} {g₀ g₁ : Gateway}
    {p q : Pubkey} {batch : Batch} {paid : PendingDistribution} {r : ℕ} (hfresh : Fresh env s₀)
    (run : Run (GarStep env) s₀ (later ++ x :: earlier) s)
    (htally : TalliesGateway x n k) (hlast : ∀ y ∈ later, ¬ TalliesGateway y n k)
    (hg₀ : x.before.gateways k = some g₀) (hdel : 0 < g₀.totalDelegatedStake)
    (hg₁ : x.after.gateways k = some g₁)
    (h : (Instruction.distributeEpoch n p q remaining).exec env clock s = .ok s')
    (hpaid : Rewarded s n remaining batch paid r) (hk : paid.gateway.operator = k) :
    s.gateways k = some paid.gateway ∧ ∃ g', s'.gateways k = some g' ∧
      g'.operatorStake ≤ paid.gateway.operatorStake
        + (r - r * g₁.settings.delegateRewardShareRatio / 10000) ∧
      (0 < paid.gateway.totalDelegatedStake ∧
        g'.cumulativeRewardPerToken = saturatingAdd 128 paid.gateway.cumulativeRewardPerToken
          (r * g₁.settings.delegateRewardShareRatio / 10000 * rewardPrecision
            / paid.gateway.totalDelegatedStake) ∨
        g'.cumulativeRewardPerToken = paid.gateway.cumulativeRewardPerToken ∧
        s.tokens.balance s.settings.protocolTokenAccount
            + r * g₁.settings.delegateRewardShareRatio / 10000
          ≤ s'.tokens.balance s'.settings.protocolTokenAccount
            + min batch.totalReward (s.tokens.balance s.settings.protocolTokenAccount)) := by
  obtain ⟨hF, hR⟩ := run_footing hfresh run
  simp only [Instruction.exec, bind_eq_ok, Instruction.handler] at h
  obtain ⟨-, -, h⟩ := h
  have hsnap := tallied_snapshot hfresh run htally hlast hg₀ hdel hg₁
  obtain ⟨settings, epoch, hset, he, hrep, hscan, hx, hr⟩ := id hpaid
  have hepoch := run_keyed hfresh run n epoch he
  obtain ⟨idxs, xs, hpend, -, hslots, -⟩ := scanBatch_ok hscan
  simp only [List.nil_append] at hpend
  obtain ⟨j, -, ⟨info, hslot⟩⟩ := exists_of_forall₂ hslots (hpend ▸ hx)
  obtain ⟨hg, -, -, -, hhad, -⟩ := scanSlot_ok hslot
  obtain ⟨pool, g', hpool, hg', hstake, hrest⟩ := distributeEpoch_paid hF hR h hpaid
  have hshare : pool = r * g₁.settings.delegateRewardShareRatio / 10000 := by
    rcases Nat.eq_zero_or_pos paid.fullReward with h0 | hpos
    · have hr0 : r = 0 := by rw [hr, h0, scaleReward_zero]
      rw [hpool, hr0]
      simp
    · obtain ⟨hstamp, hw⟩ := scanSlot_paid hR hslot hpos
      obtain ⟨hnote, hratio⟩ := hsnap _ (hk ▸ hstamp) rfl hepoch hw
      rw [hpool, if_pos (hhad.mpr (hnote.mpr trivial)), ← hratio]
  rw [hshare] at hstake hrest
  exact ⟨hk ▸ hg, g', hk ▸ hg', hstake, hrest⟩

namespace SmallNetwork

/-- The epoch is prescribed and observed, and the delegate goes. -/
def closing : List Event := observing ++ [undelegate 23 21 20000000]

def epochZero : Script := ⟨opening ++ tally :: closing, by decide +kernel⟩

end SmallNetwork

open SmallNetwork in
theorem delegate_share_fixed_small : ∃ s s' g',
    s = after epochZero.events ∧ distribution.exec chain ⟨0, 90000⟩ s = .ok s' ∧
    s'.gateways ⟨21⟩ = some g' ∧ g'.operatorStake ≤ 30000000000 + (1000000000 - 500000000) := by
  set s := after epochZero.events with hs
  obtain ⟨earlier, later, run, -, hl'⟩ := run_around opening closing tally epochZero.works
  have last : distribution.exec chain ⟨0, 90000⟩ s
      = .ok (outcome (distribution.exec chain ⟨0, 90000⟩ s) start) :=
    eq_ok_outcome (by rw [hs]; unfold after; decide +kernel)
  have hbefore : ((after opening).epochs 0).map (·.tallyIndex) = some 0 ∧
      ((after opening).gateways ⟨21⟩).map (fun g => (g.registryIndex, decide
        (0 < g.totalDelegatedStake))) = some (0, true) := by
    unfold after
    decide +kernel
  have hafter : ((after (opening ++ [tally])).epochs 0).map (·.tallyIndex) = some 1 ∧
      ((after (opening ++ [tally])).gateways ⟨21⟩).map
        (·.settings.delegateRewardShareRatio) = some 5000 := by
    unfold after
    decide +kernel
  have hpaid : (s.epochSettings.bind fun settings => (s.epochs 0).bind fun epoch =>
      if epoch.observationsSubmitted = 0 then none else
      (scanBatch s epoch settings.missedObservationPenaltyRate [⟨.gateway ⟨21⟩, true⟩]
        { distIdx := epoch.distributionIndex }).toOption.bind fun batch =>
      batch.pending.head?.map fun x => (x.gateway.operator, x.gateway.operatorStake,
        scaleReward x.fullReward (min batch.totalReward
          (s.tokens.balance s.settings.protocolTokenAccount)) batch.totalReward))
      = some (⟨21⟩, 30000000000, 1000000000) := by
    rw [hs]
    unfold after
    decide +kernel
  obtain ⟨hti, g₀', hg₀, heq₀⟩ := hbefore.imp_right Option.map_eq_some_iff.mp
  obtain ⟨hidx, hdel⟩ := Prod.mk.inj heq₀
  obtain ⟨epoch₀, he₀, hti₀⟩ := Option.map_eq_some_iff.mp hti
  obtain ⟨hti', g₁, hg₁, hratio⟩ := hafter.imp_right Option.map_eq_some_iff.mp
  obtain ⟨epoch₁, he₁, hti₁⟩ := Option.map_eq_some_iff.mp hti'
  simp only [Option.bind_eq_some_iff] at hpaid
  obtain ⟨settings, hset, epoch, hep, hpaid⟩ := hpaid
  split at hpaid
  · cases hpaid
  rename_i hrep
  obtain ⟨batch, hbatch, hpaid⟩ := Option.bind_eq_some_iff.mp hpaid
  obtain ⟨paid, hhead, heq⟩ := Option.map_eq_some_iff.mp hpaid
  simp only [Prod.mk.injEq] at heq
  obtain ⟨hk, hstake, hr⟩ := heq
  have hscan : scanBatch s epoch settings.missedObservationPenaltyRate [⟨.gateway ⟨21⟩, true⟩]
      { distIdx := epoch.distributionIndex } = .ok batch := by
    revert hbatch
    cases scanBatch s epoch settings.missedObservationPenaltyRate [⟨.gateway ⟨21⟩, true⟩]
      { distIdx := epoch.distributionIndex } with
    | ok b => exact fun h => congrArg _ (Option.some.inj h)
    | error e => exact fun h => by cases h
  have hlast : ∀ y ∈ later, ¬ TalliesGateway y 0 ⟨21⟩ := by
    rintro y hy ⟨⟨i, hi, remaining, rfl⟩, -⟩
    have hmem : y.label ∈ closing := by
      rw [← List.mem_reverse, ← hl']
      exact List.mem_map_of_mem hy
    revert hmem hi
    have hclosing : closing = [call 1002 (.prescribeEpoch 0 [⟨.gateway ⟨21⟩, true⟩] ⟨⟨0⟩, []⟩),
      call 1003 (.saveObservations ⟨41⟩ 0 (BitVec.allOnes 3000) 1 0), undelegate 23 21 20000000] :=
      rfl
    rw [hclosing]
    simp only [List.mem_cons, List.not_mem_nil, or_false]
    rintro hi (h | h | h) <;> · rw [h] at hi; cases hi
  obtain ⟨-, g', hg', hle, -⟩ := delegate_share_fixed fresh run
    ⟨⟨_, rfl, _, rfl⟩, epoch₀, epoch₁, g₀', he₀, he₁, hg₀, by omega, by omega⟩ hlast hg₀
    (of_decide_eq_true hdel) hg₁ last
    ⟨settings, epoch, hset, hep, fun h => hrep h.1, hscan, List.mem_of_head? hhead, hr.symm⟩ hk
  refine ⟨s, _, g', rfl, last, hg', ?_⟩
  rwa [hstake, hratio] at hle

end Gar
end ArioSolana
