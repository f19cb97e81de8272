import Mathlib.Algebra.BigOperators.Intervals
import ArioSolana.GarScores

/-!
# The budget of an epoch

The budget of an epoch is a share of what the treasury holds when the epoch is created. The rewards
for a gateway and for an observer are fixed when the observers are named, from the slots that have a
weight then; who is paid is decided later, batch by batch. What is paid so far and what is due for
the slots ahead of the cursor stays within the budget: weights only vanish while the epoch is open,
no gateway moves to another slot, and each slot is passed once. -/

namespace ArioSolana
namespace Gar

open Checked Solana Finset

/-- What the treasury holds. -/
def State.treasury (s : State) : ℕ := s.tokens.balance s.settings.protocolTokenAccount

/-- An amount summed up over the distributions of an epoch since its account was made. -/
def distributed (amount : Step State Event → ℕ) (index : ℕ) : Trace → ℕ
  | [] => 0
  | x :: earlier =>
    if (x.before.epochs index).isNone then 0
    else match x.label.action with
      | .call (.distributeEpoch n _ _ _) =>
        if n = index then distributed amount index earlier + amount x
        else distributed amount index earlier
      | _ => distributed amount index earlier

/-- What the distributions of an epoch released from the treasury. -/
def released : ℕ → Trace → ℕ := distributed fun x => x.before.treasury - x.after.treasury

/-- What the distributions of an epoch credited to operators. -/
def credited : ℕ → Trace → ℕ :=
  distributed fun x => x.after.operatorStakes - x.before.operatorStakes

/-- The most that the gateway in a slot may be paid: a reward if the slot has a weight, and an
observer's if its gateway was prescribed. -/
def Epoch.slotDue (epoch : Epoch) (r : GatewayRegistry) (slot : ℕ) : ℕ :=
  (if 0 < (r.gateways slot).compositeWeight then epoch.perGatewayReward else 0) +
    if (position epoch.prescribedObserverGateways epoch.observerCount
      (r.gateways slot).address).isSome
    then epoch.perObserverReward else 0

/-- The same for the slots ahead of the cursor. -/
def Epoch.due (epoch : Epoch) (r : GatewayRegistry) : ℕ :=
  ∑ slot ∈ Ico epoch.distributionIndex epoch.activeGatewayCount, epoch.slotDue r slot

section

variable {env : Env} {s s' s₀ : State} {index slot n : ℕ} {epoch epoch' : Epoch} {k p q : Pubkey}
  {remaining : List AccountMeta} {i : Instruction} {clock : Clock} {tr : Trace} {e : Event}
  {amount : Step State Event → ℕ} {r r' : GatewayRegistry} {t : ℤ}

/-! ### Sums over a trace -/

lemma distributed_of_none (hnone : s.epochs index = none) :
    distributed amount index (⟨s, e, s'⟩ :: tr) = 0 := by
  rw [distributed, hnone]
  rfl

lemma distributed_batch (he : s.epochs index = some epoch) :
    distributed amount index
        (⟨s, ⟨clock, .call (.distributeEpoch index p q remaining)⟩, s'⟩ :: tr) =
      distributed amount index tr +
        amount ⟨s, ⟨clock, .call (.distributeEpoch index p q remaining)⟩, s'⟩ := by
  simp [distributed, he]

lemma distributed_other (he : s.epochs index = some epoch)
    (hd : ∀ p q remaining, e.action ≠ .call (.distributeEpoch index p q remaining)) :
    distributed amount index (⟨s, e, s'⟩ :: tr) = distributed amount index tr := by
  rw [distributed, he]
  simp only [Option.isNone_some, Bool.false_eq_true, if_false]
  split
  · rename_i n p q remaining hcall
    refine if_neg ?_
    rintro rfl
    exact hd p q remaining hcall
  · rfl

/-! ### One batch -/

lemma fullReward_le {perGateway perObserver rate : ℕ} {leaving eligible failed pres obs : Bool} :
    fullReward perGateway perObserver rate leaving eligible failed pres obs ≤
      (if eligible then perGateway else 0) + if pres then perObserver else 0 := by
  have hdocked : truncate 64 (saturatingMul 128 perGateway (saturatingSub rateScale rate) /
    rateScale)
      ≤ perGateway :=
    calc truncate 64 (saturatingMul 128 perGateway (saturatingSub rateScale rate) / rateScale)
        ≤ saturatingMul 128 perGateway (saturatingSub rateScale rate) / rateScale := truncate_le
      _ ≤ perGateway * rateScale / rateScale :=
        Nat.div_le_div_right ((min_le_left _ _).trans (Nat.mul_le_mul_left _ (Nat.sub_le _ _)))
      _ = perGateway := Nat.mul_div_cancel _ (by norm_num [rateScale])
  have hsum : saturatingAdd 64 perGateway perObserver ≤ perGateway + perObserver := saturatingAdd_le
  unfold fullReward
  cases leaving <;> cases eligible <;> cases failed <;> cases pres <;> cases obs <;> simp <;> omega

lemma scanSlot_due {rate : ℕ} {x : PendingDistribution} {info : AccountMeta}
    (h : scanSlot s epoch rate slot info = .ok x) : x.fullReward ≤ epoch.slotDue s.registry
        slot := by
  obtain ⟨-, haddr, -, heligible, -, -, hpres, -, hfull⟩ := scanSlot_ok h
  rw [hfull, Epoch.slotDue, haddr, ← hpres]
  refine fullReward_le.trans (Nat.add_le_add_right ?_ _)
  by_cases hx : x.eligible = true
  · rw [if_pos hx, if_pos (heligible.mp hx).1]
  · rw [if_neg hx]
    exact Nat.zero_le _

lemma batch_due {rate : ℕ} {batch : Batch}
    (h : scanBatch s epoch rate remaining { distIdx := epoch.distributionIndex } = .ok batch) :
    batch.totalReward + { epoch with distributionIndex := batch.distIdx : Epoch }.due s.registry ≤
      epoch.due s.registry := by
  obtain ⟨idxs, xs, hpend, hle, hscan, hmem, hidx, htotal, -, -, hcover⟩ := scanBatch_ok h
  have hsum : batch.totalReward ≤ (idxs.map (epoch.slotDue s.registry)).sum := by
    rw [htotal, zero_add]
    clear hmem hidx htotal hpend
    induction hscan with
    | nil => exact le_rfl
    | cons hx _ ih =>
      obtain ⟨info, hx⟩ := hx
      rw [List.map_cons, List.map_cons, List.sum_cons, List.sum_cons]
      exact Nat.add_le_add (scanSlot_due hx) ih
  have hnodup : idxs.Nodup := hidx.imp ne_of_lt
  have hslots : batch.totalReward ≤
      ∑ slot ∈ Ico epoch.distributionIndex batch.distIdx, epoch.slotDue s.registry slot := by
    refine hsum.trans ?_
    rw [← List.sum_toFinset _ hnodup]
    refine sum_le_sum_of_subset fun slot hslot => ?_
    obtain ⟨hlow, hhigh, -⟩ := hmem slot (List.mem_toFinset.mp hslot)
    exact mem_Ico.mpr ⟨hlow, hhigh⟩
  unfold Epoch.due
  rcases hcover with hin | hsame
  · rw [← sum_Ico_consecutive _ hle hin]
    exact Nat.add_le_add_right hslots _
  · rw [hsame, Ico_self, sum_empty] at hslots
    have hzero : batch.totalReward = 0 := Nat.le_zero.mp hslots
    rw [hzero, hsame, zero_add]

/-- **One batch.** A batch releases no more than what is due for the slots that it covers, and
credits operators no more than it releases. -/
theorem distributeEpoch_released (hF : Footing env s) (hR : Registered s)
    (he : s.epochs index = some epoch) (h : distributeEpoch env t index p q remaining s = .ok s') :
    s'.registry = s.registry ∧
      s'.operatorStakes - s.operatorStakes ≤ s.treasury - s'.treasury ∧
      ∃ done flag, s'.epochs index = some { epoch with
          distributionIndex := done
          rewardsDistributed := flag } ∧
        (s.treasury - s'.treasury) +
          { epoch with distributionIndex := done : Epoch }.due s.registry ≤ epoch.due
              s.registry := by
  obtain ⟨settings, epoch', -, he', rfl, rfl, -, -, -, ⟨-, -, rfl⟩ |
    ⟨batch, payout, tokens, -, hb, hpay, ht, -, hs'⟩⟩ := distributeEpoch_ok h
  · obtain rfl := Option.some.inj (he.symm.trans he')
    refine ⟨rfl, (Nat.sub_self _).le.trans (Nat.zero_le _), _, _, Function.update_self .., ?_⟩
    have hsame : s.treasury - (s.setEpoch index (some { epoch with
        distributionIndex := epoch.activeGatewayCount
        rewardsDistributed := 1 })).treasury = 0 := Nat.sub_self _
    rw [hsame, Epoch.due, Ico_self, sum_empty]
    exact Nat.zero_le _
  obtain rfl := Option.some.inj (he.symm.trans he')
  obtain ⟨hpaid, hle⟩ := handed_of_batch hF hR hb hpay
  obtain ⟨G, hrest⟩ := hpaid.rest
  have hsum := hpaid.sum
  have hstakes := hpaid.stakes
  have htok : payout.state.tokens = s.tokens := by rw [hrest]
  have hset : payout.state.settings = s.settings := by rw [hrest]
  have hreg : payout.state.registry = s.registry := by rw [hrest]
  rw [htok] at ht
  have hbal := ht.balance_eq s.settings.protocolTokenAccount
  rw [if_pos rfl, if_neg hF.treasury_ne_pool] at hbal
  have hafter : s'.treasury = tokens.balance s.settings.protocolTokenAccount := by
    rw [hs', State.treasury, hset]
  have hstaked : s'.operatorStakes = payout.state.operatorStakes := by
    rw [hs']
    rfl
  have hbefore : s.treasury = s.tokens.balance s.settings.protocolTokenAccount := rfl
  rw [← hbefore] at hbal hle hsum
  have hcap : min batch.totalReward s.treasury ≤ batch.totalReward := min_le_left _ _
  have hdue := batch_due hb
  refine ⟨by rw [hs', hreg], ?_, _, _, by rw [hs']; exact Function.update_self .., ?_⟩
  · rw [hafter, hstaked]
    omega
  · rw [hafter]
    omega

/-! ### The settings of the rewards -/

/-- The shares of the gateways and of the observers make up the whole, and the rates are those of
the program. -/
structure EpochSettings.RatesOk (x : EpochSettings) : Prop where
  shares : x.gatewayRewardRatio + x.observerRewardRatio = rateScale
  largest : x.maxRewardRate = Gar.maxRewardRate
  least : x.minRewardRate = Gar.minRewardRate

def RatesOk (s : State) : Prop := ∀ x, s.epochSettings = some x → x.RatesOk

lemma RatesOk.of_same (h : RatesOk s) (hs : s'.epochSettings = s.epochSettings) : RatesOk s' := by
  intro x hx
  exact h x (hs ▸ hx)

/-- **The shares always make up the whole.** -/
theorem handler_ratesOk (hr : RatesOk s) (h : i.handler env clock s = .ok s') : RatesOk s' := by
  by_cases hinit : i.IsInitializeEpochs
  · cases i <;> try exact hinit.elim
    simp only [Instruction.handler, initializeEpochs, bind_eq_ok, pure_eq_ok] at h
    obtain ⟨_, -, _, -, _, -, _, -, rfl⟩ := h
    intro x hx
    obtain rfl := Option.some.inj hx
    exact ⟨by norm_num [gatewayOperatorRewardRate, observerRewardRate, rateScale], rfl, rfl⟩
  by_cases hclose : i.IsCloseEpochSettings
  · cases i <;> try exact hclose.elim
    simp only [Instruction.handler, closeEpochSettings, bind_eq_ok, pure_eq_ok] at h
    obtain ⟨_, -, rfl⟩ := h
    intro x hx
    cases hx
  rcases handler_settings hinit hclose h with hsame | ⟨old, new, hold, hnew, hadj⟩
  · exact hr.of_same hsame
  intro x hx
  obtain rfl := Option.some.inj (hnew.symm.trans hx)
  refine ⟨?_, hadj.rates.1.trans (hr old hold).largest, hadj.rates.2.trans (hr old hold).least⟩
  rcases hadj.shares with ⟨hgateways, hobservers⟩ | hsum
  · rw [hgateways, hobservers]
    exact (hr old hold).shares
  · exact hsum

lemma computeRewardRate_mem {maxRate minRate : ℕ} (hle : minRate ≤ maxRate) (n start last : ℕ) :
    minRate ≤ computeRewardRate n maxRate minRate start last ∧
      computeRewardRate n maxRate minRate start last ≤ maxRate := by
  unfold computeRewardRate
  split
  · exact ⟨hle, le_rfl⟩
  split
  · exact ⟨le_rfl, hle⟩
  rename_i hstart hlast
  have hdecay : truncate 64 ((checkedDiv ((checkedMul 128 (saturatingSub maxRate minRate)
      (n - start)).getD 0) (last - start)).getD 0) ≤ maxRate - minRate := by
    refine truncate_le.trans ?_
    have hproduct : (checkedMul 128 (saturatingSub maxRate minRate) (n - start)).getD 0 ≤
        (maxRate - minRate) * (last - start) := by
      unfold checkedMul saturatingSub
      split
      · exact Nat.mul_le_mul_left _ (by omega)
      · exact Nat.zero_le _
    unfold checkedDiv
    split
    · exact Nat.zero_le _
    · exact Nat.div_le_of_le_mul (by rw [Nat.mul_comm]; exact hproduct)
  dsimp only
  unfold saturatingSub at hdecay ⊢
  omega

/-! ### The weights of an open epoch -/

/-- **Once an epoch is tallied, weights only vanish while it is open.** -/
theorem handler_weights (hF : Footing env s) (hK : Keyed s) (hs : OneOpen s) (hR : Registered s)
    (hopen : s.Opened index epoch)
    (htallied : epoch.weightsTallied ≠ 0) (h : i.handler env clock s = .ok s')
    (hslot : slot < epoch.activeGatewayCount) :
    (s'.registry.gateways slot).compositeWeight = (s.registry.gateways slot).compositeWeight ∨
      (s'.registry.gateways slot).compositeWeight = 0 := by
  have of_leaving : ∀ j, (Function.update s.registry.gateways j { s.registry.gateways j with
      compositeWeight := 0
      status := GatewaySlot.statusLeaving } slot).compositeWeight =
        (s.registry.gateways slot).compositeWeight ∨
      (Function.update s.registry.gateways j { s.registry.gateways j with
        compositeWeight := 0
        status := GatewaySlot.statusLeaving } slot).compositeWeight = 0 := by
    intro j
    by_cases hj : slot = j
    · subst hj
      rw [Function.update_self]
      exact .inr rfl
    · rw [Function.update_of_ne hj]
      exact .inl rfl
  by_cases hepoch : i.IsEpochOnly
  · obtain ⟨_, _, _, _, rfl⟩ := handler_epochOnly hepoch h
    exact .inl rfl
  by_cases hb : i.IsBatch
  · cases i <;> try exact hb.elim
    case tallyWeights n remaining =>
      -- a tally is of the latest epoch, which is this one, and this one is tallied
      obtain ⟨settings, x, s₁, x', hset, hx, hzero, hpos, hidx, -, -⟩ := tallyWeights_ok h
      obtain ⟨settings', hset', hindex⟩ := hs.latest index epoch hopen
      obtain rfl := Option.some.inj (hset.symm.trans hset')
      obtain rfl : n = index := by
        have hkey := hK n x hx
        omega
      obtain rfl := Option.some.inj (hx.symm.trans hopen.1)
      exact absurd hzero htallied
    case distributeEpoch n p q remaining =>
      obtain ⟨-, x, _, _, hx, -⟩ := distributeEpoch_written h
      rw [(distributeEpoch_released hF hR hx h).1]
      exact .inl rfl
  by_cases hl : i.IsLifecycle
  · cases i <;> try exact hl.elim
    all_goals simp only [Instruction.handler] at h
    case joinNetwork operator account pool params =>
      obtain ⟨g, t, -, -, -, -, -, -, -, -, -, -, -, -, -, -, -, -, -, rfl⟩ := joinNetwork_ok h
      have hroom := hs.room index epoch hopen
      left
      change (Function.update s.registry.gateways _ _ slot).compositeWeight = _
      rw [Function.update_of_ne (by omega)]
    case leaveNetwork operator excess remaining =>
      obtain ⟨g, settings, C, W, L, hg, -, -, -, -, -, -, -, rfl⟩ := leaveNetwork_ok h
      exact of_leaving _
    case pruneGateway operator pool treasury excess remaining =>
      obtain ⟨g, settings, slash, C, W, L, t, hg, -, -, -, -, -, -, -, -, -, -, rfl⟩ :=
        pruneGateway_ok h
      exact of_leaving _
    case finalizeGone operator remaining =>
      obtain ⟨g, settings, s₁, -, hset, -, -, -, -, ⟨u, hfinished⟩, -⟩ := finalizeGone_ok h
      exact (hs.not_finished hopen hset hfinished).elim
    case updateObserverAddress operator newObserver =>
      obtain ⟨g, -, -, -, -, -, -, rfl⟩ := updateObserverAddress_ok h
      exact .inl rfl
  · rw [(handler_quiet hF hepoch hb hl h).registry]
    exact .inl rfl

lemma slotDue_le (haddr : (r'.gateways slot).address = (r.gateways slot).address)
    (hweight : (r'.gateways slot).compositeWeight = (r.gateways slot).compositeWeight ∨
      (r'.gateways slot).compositeWeight = 0) : epoch.slotDue r' slot ≤ epoch.slotDue r slot := by
  unfold Epoch.slotDue
  rw [haddr]
  rcases hweight with hsame | hzero
  · rw [hsame]
  · rw [hzero]
    simp

lemma handler_due (hF : Footing env s) (hR : Registered s) (hK : Keyed s) (hs : OneOpen s)
    (hopen : s.Opened index epoch)
    (htallied : epoch.weightsTallied ≠ 0) (h : i.handler env clock s = .ok s') :
    epoch.due s'.registry ≤ epoch.due s.registry := by
  have hkept := handler_slotsKept hF hR hs hopen h
  refine sum_le_sum fun slot hslot => ?_
  have hlt := (mem_Ico.mp hslot).2
  exact slotDue_le (hkept.address slot hlt)
    (handler_weights hF hK hs hR hopen htallied h hlt)

/-! ### The prescription -/

lemma rewardShare_le {total ratio : ℕ} : rewardShare total ratio ≤ total * ratio / rateScale := by
  unfold rewardShare checkedMul checkedDiv
  refine truncate_le.trans ?_
  rw [if_neg (by norm_num [rateScale])]
  split
  · exact le_rfl
  · rw [Option.getD_none, Option.getD_some, Nat.zero_div]
    exact Nat.zero_le _

lemma sum_weighted (each m : ℕ) :
    (∑ slot ∈ range m, if 0 < (r.gateways slot).compositeWeight then each else 0) =
      r.weighted m * each := by
  induction m with
  | zero => exact (Nat.zero_mul each).symm
  | succ m ih =>
    have hsucc : r.weighted (m + 1) =
        r.weighted m + if 0 < (r.gateways m).compositeWeight then 1 else 0 := by
      unfold GatewayRegistry.weighted
      rw [List.range_succ, List.countP_append, List.countP_singleton]
      simp only [decide_eq_true_eq]
    rw [sum_range_succ, ih, hsucc, Nat.add_mul]
    split <;> simp

lemma sum_prescribed (hR : Registered s) {m count : ℕ} {gateways : ℕ → Pubkey}
    (hm : m ≤ s.registry.count) (each : ℕ) :
    (∑ slot ∈ range m, if (position gateways count (s.registry.gateways slot).address).isSome
      then each else 0) ≤ count * each := by
  rw [← sum_filter, sum_const, smul_eq_mul]
  refine Nat.mul_le_mul_right _ ?_
  have hseat : ∀ slot ∈ (range m).filter (fun slot =>
      (position gateways count (s.registry.gateways slot).address).isSome),
      ∃ j, position gateways count (s.registry.gateways slot).address = some j := by
    intro slot hslot
    exact Option.isSome_iff_exists.mp (mem_filter.mp hslot).2
  choose! seat hseat using hseat
  have hcard := card_le_card_of_injOn (t := range count) seat
    (fun slot hslot => mem_range.mpr (position_some (hseat slot hslot)).1) fun x hx y hy hxy => by
      have hx' := (position_some (hseat x hx)).2
      have hy' := (position_some (hseat y hy)).2
      refine hR.injective ?_ ?_ (by rw [← hx', ← hy', hxy])
      · exact (mem_range.mp (mem_filter.mp hx).1).trans_le hm
      · exact (mem_range.mp (mem_filter.mp hy).1).trans_le hm
  rwa [card_range] at hcard

/-- **What is due after a prescription is within the budget.** -/
theorem prescribed_due {names : RawAccount} (hR : Registered s) (hrates : RatesOk s)
    (he : s.epochs index = some epoch) (hroom : epoch.activeGatewayCount ≤ s.registry.count)
    (hcursor : epoch.distributionIndex = 0) (hobserver : epoch.perObserverReward = 0)
    (h : prescribeEpoch env index remaining names s = .ok s')
    (he' : s'.epochs index = some epoch') :
    epoch'.due s'.registry ≤ epoch'.totalEligibleRewards ∧ epoch'.prescriptionsDone ≠ 0 ∧
      epoch'.weightsTallied ≠ 0 ∧ epoch'.totalEligibleRewards = epoch.totalEligibleRewards ∧
      epoch'.rewardRate = epoch.rewardRate := by
  obtain ⟨settings, x, sums, selected, observers, drawn, hset, hx, htallied, -, -, -, -, -, -,
    rfl⟩ :=
    prescribeEpoch_ok h
  obtain rfl := Option.some.inj (he.symm.trans hx)
  simp only [State.setEpoch, Function.update_self, Option.some.injEq] at he'
  obtain rfl := he'
  refine ⟨?_, one_ne_zero, htallied, rfl, rfl⟩
  set total := epoch.totalEligibleRewards
  set m := epoch.activeGatewayCount
  unfold Epoch.due Epoch.slotDue
  simp only [hcursor]
  rw [← range_eq_Ico, sum_add_distrib, sum_weighted]
  have hgateways : s.registry.weighted m * (if 0 < s.registry.weighted m then
      rewardShare total settings.gatewayRewardRatio / s.registry.weighted m
      else epoch.perGatewayReward) ≤ total * settings.gatewayRewardRatio / rateScale := by
    split
    · exact (Nat.mul_div_le _ _).trans rewardShare_le
    · rename_i hno
      rw [Nat.eq_zero_of_not_pos hno, Nat.zero_mul]
      exact Nat.zero_le _
  have hobservers : selected.length * (if 0 < s.registry.weighted m ∧ 0 < selected.length then
      rewardShare total settings.observerRewardRatio / selected.length
      else epoch.perObserverReward) ≤ total * settings.observerRewardRatio / rateScale := by
    split
    · exact (Nat.mul_div_le _ _).trans rewardShare_le
    · rw [hobserver, Nat.mul_zero]
      exact Nat.zero_le _
  calc _ ≤ total * settings.gatewayRewardRatio / rateScale +
        total * settings.observerRewardRatio / rateScale :=
        Nat.add_le_add hgateways ((sum_prescribed hR hroom _).trans hobservers)
    _ ≤ (total * settings.gatewayRewardRatio + total * settings.observerRewardRatio) / rateScale :=
        Nat.div_add_div_le_add_div
    _ = total := by
        rw [← Nat.mul_add, (hrates settings hset).shares, Nat.mul_div_cancel]
        norm_num [rateScale]

/-! ### The budget -/

/-- The step that made the account of the epoch found what the budget is a share of in the treasury.
-/
def Epoch.FundedBy (epoch : Epoch) (index : ℕ) (tr : Trace) : Prop :=
  Gar.minRewardRate ≤ epoch.rewardRate ∧ epoch.rewardRate ≤ Gar.maxRewardRate ∧
  ∃ later x earlier, tr = later ++ x :: earlier ∧ x.label.Calls Instruction.IsCreateEpoch ∧
    x.before.epochs index = none ∧ (∀ y ∈ later, y.before.epochs index ≠ none) ∧
    epoch.totalEligibleRewards ≤ x.before.treasury * epoch.rewardRate / rateScale

/-- What an epoch paid so far, and what is still due. -/
structure Epoch.Budgeted (epoch : Epoch) (r : GatewayRegistry) (paid : ℕ) : Prop where
  unprescribed : epoch.prescriptionsDone = 0 →
    paid = 0 ∧ epoch.perObserverReward = 0 ∧ epoch.distributionIndex = 0 ∧
      epoch.rewardsDistributed = 0
  tallied : epoch.prescriptionsDone ≠ 0 → epoch.weightsTallied ≠ 0
  within : epoch.prescriptionsDone ≠ 0 → epoch.rewardsDistributed = 0 →
    paid + epoch.due r ≤ epoch.totalEligibleRewards
  total : paid ≤ epoch.totalEligibleRewards

lemma Epoch.FundedBy.cons {x : Step State Event} (h : epoch.FundedBy index tr)
    (hlive : x.before.epochs index ≠ none)
    (htotal : epoch'.totalEligibleRewards = epoch.totalEligibleRewards)
    (hrate : epoch'.rewardRate = epoch.rewardRate) : epoch'.FundedBy index (x :: tr) := by
  obtain ⟨hleast, hlargest, later, y, earlier, rfl, hcall, hnone, hlater, hle⟩ := h
  refine ⟨hrate ▸ hleast, hrate ▸ hlargest, x :: later, y, earlier, rfl, hcall, hnone, ?_, ?_⟩
  · exact List.forall_mem_cons.mpr ⟨hlive, hlater⟩
  · rw [htotal, hrate]
    exact hle

lemma createEpoch_budgeted {account : Pubkey} (hrates : RatesOk s) (hnone : s.epochs index = none)
    (h : createEpoch env clock k account remaining s = .ok s')
    (he' : s'.epochs index = some epoch') :
    epoch'.Budgeted s'.registry 0 ∧ epoch'.FundedBy index
      (⟨s, ⟨clock, .call (.createEpoch k account remaining)⟩, s'⟩ :: tr) := by
  obtain ⟨settings, _, _, _, _, _, hset, -, rfl, -, -, -, -, rfl⟩ := createEpoch_ok h
  by_cases hn : index = settings.currentEpochIndex
  · subst hn
    simp only [Function.update_self, Option.some.injEq] at he'
    subst he'
    refine ⟨⟨fun _ => ⟨rfl, rfl, rfl, rfl⟩, fun hno => absurd rfl hno, fun hno => absurd rfl hno,
      Nat.zero_le _⟩, ?_⟩
    have hle : settings.minRewardRate ≤ settings.maxRewardRate := by
      rw [(hrates settings hset).least, (hrates settings hset).largest]
      decide
    have hrate := computeRewardRate_mem hle settings.currentEpochIndex
      settings.rewardDecayStartEpoch settings.rewardDecayLastEpoch
    refine ⟨(hrates settings hset).least ▸ hrate.1, (hrates settings hset).largest ▸ hrate.2, [],
      _, tr,
      rfl, ⟨_, rfl, trivial⟩, hnone, fun y hy => (by cases hy), ?_⟩
    exact rewardShare_le
  · simp only [Function.update_of_ne hn] at he'
    rw [hnone] at he'
    cases he'

lemma Epoch.Budgeted.distribute (hF : Footing env s) (hR : Registered s)
    (he : s.epochs index = some epoch) (hb : epoch.Budgeted s.registry (released index tr))
    (h : distributeEpoch env clock.unixTimestamp index p q remaining s = .ok s')
    (he' : s'.epochs index = some epoch') :
    epoch'.Budgeted s'.registry (released index
        (⟨s, ⟨clock, .call (.distributeEpoch index p q remaining)⟩, s'⟩ :: tr)) ∧
      epoch'.totalEligibleRewards = epoch.totalEligibleRewards ∧
      epoch'.rewardRate = epoch.rewardRate := by
  obtain ⟨hreg, -, done, flag, hE, hdue⟩ := distributeEpoch_released hF hR he h
  obtain ⟨-, x, _, _, hx, hdone, -, hzero, -⟩ := distributeEpoch_written h
  obtain rfl := Option.some.inj (he.symm.trans hx)
  obtain rfl := Option.some.inj (hE.symm.trans he')
  have hpaid : released index (⟨s, ⟨clock, .call (.distributeEpoch index p q remaining)⟩, s'⟩ ::
    tr) =
      released index tr + (s.treasury - s'.treasury) := distributed_batch he
  have hold := hb.within hdone hzero
  rw [hpaid, hreg]
  refine ⟨⟨fun hno => absurd hno hdone, hb.tallied, fun _ _ => ?_, ?_⟩, rfl, rfl⟩
  · calc _ = released index tr + ((s.treasury - s'.treasury) +
          { epoch with distributionIndex := done : Epoch }.due s.registry) := Nat.add_assoc _ _ _
      _ ≤ released index tr + epoch.due s.registry := Nat.add_le_add_left hdue _
      _ ≤ epoch.totalEligibleRewards := hold
  · show released index tr + (s.treasury - s'.treasury) ≤ epoch.totalEligibleRewards
    omega

/-- **One instruction on an epoch that is there.** -/
theorem handler_budgeted (hF : Footing env s) (hR : Registered s) (hK : Keyed s) (hs : OneOpen s)
    (hrates : RatesOk s) (he : s.epochs index = some epoch)
    (hb : epoch.Budgeted s.registry (released index tr)) (h : i.handler env clock s = .ok s')
    (he' : s'.epochs index = some epoch') :
    epoch'.Budgeted s'.registry (released index (⟨s, ⟨clock, .call i⟩, s'⟩ :: tr)) ∧
      epoch'.totalEligibleRewards = epoch.totalEligibleRewards ∧
      epoch'.rewardRate = epoch.rewardRate := by
  by_cases hd : ∃ p q remaining, i = .distributeEpoch index p q remaining
  · obtain ⟨p, q, remaining, rfl⟩ := hd
    exact hb.distribute hF hR he h he'
  push Not at hd
  have hpaid : released index (⟨s, ⟨clock, .call i⟩, s'⟩ :: tr) = released index tr :=
    distributed_other he fun p q remaining hcall => hd p q remaining (Action.call.inj hcall)
  rw [hpaid]
  -- instructions that write nothing of the budget
  have of_same : epoch'.prescriptionsDone = epoch.prescriptionsDone →
      epoch'.perObserverReward = epoch.perObserverReward →
      epoch'.distributionIndex = epoch.distributionIndex →
      epoch'.weightsTallied = epoch.weightsTallied →
      epoch'.rewardsDistributed = epoch.rewardsDistributed →
      epoch'.totalEligibleRewards = epoch.totalEligibleRewards →
      epoch'.due s'.registry = epoch.due s'.registry →
      epoch'.Budgeted s'.registry (released index tr) := by
    intro hdone hobserver hcursor htallied hflag htotal hdue
    refine ⟨?_, ?_, fun hprescribed hrunning => ?_, htotal ▸ hb.total⟩
    · rw [hdone, hobserver, hcursor, hflag]
      exact hb.unprescribed
    · rw [hdone, htallied]
      exact hb.tallied
    · rw [hdone] at hprescribed
      rw [hflag] at hrunning
      rw [hdue, htotal]
      exact (Nat.add_le_add_left (handler_due hF hR hK hs ⟨he, hrunning⟩
        (hb.tallied hprescribed) h) _).trans (hb.within hprescribed hrunning)
  cases handler_writes he he' h with
  | same => exact ⟨of_same rfl rfl rfl rfl rfl rfl rfl, rfl, rfl⟩
  | tally untallied n w flag =>
    have hno : epoch.prescriptionsDone = 0 := by
      by_contra hdone
      exact hb.tallied hdone untallied
    exact ⟨⟨hb.unprescribed, fun hdone => absurd hno hdone, fun hdone => absurd hno hdone,
      hb.total⟩,
      rfl, rfl⟩
  | prescribe unprescribed ends cursor running =>
    obtain ⟨hzero, hobserver, hcursor, hrunning⟩ := hb.unprescribed unprescribed
    obtain ⟨hdue, hdone, htallied, htotal, hrate⟩ := prescribed_due hR hrates he
      (hs.room index epoch ⟨he, hrunning⟩) hcursor hobserver h he'
    rw [hzero]
    refine ⟨⟨fun hno => absurd hno hdone, fun _ => htallied, fun _ _ => ?_, Nat.zero_le _⟩, htotal,
      hrate⟩
    rwa [zero_add]
  | save observed failed submitted => exact ⟨of_same rfl rfl rfl rfl rfl rfl rfl, rfl, rfl⟩
  | distribute done flag => exact absurd rfl (hd _ _ _)
  | closeReport closed => exact ⟨of_same rfl rfl rfl rfl rfl rfl rfl, rfl, rfl⟩

/-! ### Runs -/

lemma run_ratesOk (hfresh : Fresh env s₀) (run : Run (GarStep env) s₀ tr s) : RatesOk s := by
  induction run with
  | nil =>
    intro x hx
    rw [hfresh.epochSettings] at hx
    cases hx
  | cons run last ih =>
    rcases garStep_cases last with ⟨i, -, -, h⟩ | ⟨t, rfl⟩
    · exact handler_ratesOk ih h
    · exact ih

lemma run_budgeted (hfresh : Fresh env s₀) (run : Run (GarStep env) s₀ tr s)
    (hclose : tr.Avoids (·.IsCloseEpochSettings)) (he : s.epochs index = some epoch) :
    epoch.Budgeted s.registry (released index tr) ∧ epoch.FundedBy index tr := by
  induction run generalizing epoch with
  | nil =>
    rw [hfresh.epochs] at he
    cases he
  | @cons tr s e s' run last ih =>
    have hclose' : Trace.Avoids tr (·.IsCloseEpochSettings) :=
      fun x hx => hclose x (List.mem_cons_of_mem _ hx)
    obtain ⟨hF, hR⟩ := run_footing hfresh run
    have hrates := run_ratesOk hfresh run
    by_cases hcall : ∃ i, e.action = .call i
    · obtain ⟨clock, action⟩ := e
      obtain ⟨i, rfl⟩ := hcall
      obtain ⟨-, h⟩ := garStep_call last
      rcases hbefore : s.epochs index with _ | x
      · -- the step made the account
        rw [released, distributed_of_none hbefore]
        by_cases hc : i.IsCreateEpoch
        · cases i <;> try exact hc.elim
          exact createEpoch_budgeted hrates hbefore h he
        · obtain ⟨_, hsome, -⟩ := handler_descends hc h index epoch he
          rw [hbefore] at hsome
          cases hsome
      · obtain ⟨hb, hfunded⟩ := ih hclose' hbefore
        obtain ⟨hb', htotal, hrate⟩ := handler_budgeted hF hR (run_keyed hfresh run)
          (run_oneOpen hfresh run hclose') hrates hbefore hb h he
        exact ⟨hb', hfunded.cons (by simp only [hbefore]; exact Option.some_ne_none _) htotal hrate⟩
    · obtain ⟨t, rfl⟩ := garStep_transfer last hcall
      obtain ⟨hb, hfunded⟩ := ih hclose' he
      have hbefore : s.epochs index = some epoch := he
      rw [released, distributed_other hbefore fun _ _ _ hno => hcall ⟨_, hno⟩]
      exact ⟨hb, hfunded.cons (by simp only [hbefore]; exact Option.some_ne_none _) rfl rfl⟩

lemma run_credited (hfresh : Fresh env s₀) (run : Run (GarStep env) s₀ tr s) :
    credited index tr ≤ released index tr := by
  induction run with
  | nil => exact Nat.zero_le _
  | @cons tr s e s' run last ih =>
    rcases he : s.epochs index with _ | epoch
    · rw [credited, distributed_of_none he]
      exact Nat.zero_le _
    by_cases hd : ∃ p q remaining, e.action = .call (.distributeEpoch index p q remaining)
    · obtain ⟨clock, action⟩ := e
      obtain ⟨p, q, remaining, rfl⟩ := hd
      obtain ⟨hF, hR⟩ := run_footing hfresh run
      obtain ⟨-, hcredit, -⟩ := distributeEpoch_released hF hR he (garStep_call last).2
      rw [credited, released, distributed_batch he, distributed_batch he]
      exact Nat.add_le_add ih hcredit
    · push Not at hd
      rw [credited, released, distributed_other he hd, distributed_other he hd]
      exact ih

/-- **An epoch never pays more than its budget.** In every state that is reached without closing the
settings of the epochs, whoever left, joined or was pruned meanwhile and however the batches were
cut: what the distributions of an epoch credited to operators is at most what they released from the
treasury, which is at most the epoch's budget, which is at most its rate's share of what the
treasury held when the epoch was created, at a rate between the least and the largest. -/
theorem epoch_budget (hfresh : Fresh env s₀) (run : Run (GarStep env) s₀ tr s)
    (hclose : tr.Avoids (·.IsCloseEpochSettings)) (he : s.epochs index = some epoch) :
    credited index tr ≤ released index tr ∧ released index tr ≤ epoch.totalEligibleRewards ∧
      epoch.FundedBy index tr := by
  obtain ⟨hb, hfunded⟩ := run_budgeted hfresh run hclose he
  exact ⟨run_credited hfresh run, hb.total, hfunded⟩

end

open SmallNetwork in
/-- The one gateway is paid out of the budget of epoch 0. -/
theorem epoch_budget_small : ∃ s' tr epoch, GarStep chain (after observedEpoch.events) payout s' ∧
    s'.epochs 0 = some epoch ∧ 0 < (after observedEpoch.events).treasury - s'.treasury ∧
    credited 0 (⟨after observedEpoch.events, payout, s'⟩ :: tr) ≤
      released 0 (⟨after observedEpoch.events, payout, s'⟩ :: tr) ∧
    released 0 (⟨after observedEpoch.events, payout, s'⟩ :: tr) ≤ epoch.totalEligibleRewards := by
  obtain ⟨tr, run, hl⟩ := run_after observedEpoch.events observedEpoch.works
  have hvalues : (payout.exec chain (after observedEpoch.events)).isOk = true ∧
      0 < (after observedEpoch.events).treasury -
        (outcome (payout.exec chain (after observedEpoch.events))
          (after observedEpoch.events)).treasury ∧
      ((outcome (payout.exec chain (after observedEpoch.events))
        (after observedEpoch.events)).epochs 0).isSome = true := by
    unfold after
    decide +kernel
  obtain ⟨hok, hpaid, hlive⟩ := hvalues
  have hstep : GarStep chain (after observedEpoch.events) payout _ :=
    eq_ok_outcome (s := after observedEpoch.events) hok
  set s' := outcome (payout.exec chain (after observedEpoch.events)) (after observedEpoch.events)
  obtain ⟨epoch, he⟩ := Option.isSome_iff_exists.mp hlive
  have hlabels : (⟨after observedEpoch.events, payout, s'⟩ :: tr : Trace).map (·.label) =
      (observedEpoch.events ++ [payout]).reverse := by simp [hl]
  have hclose := avoids_of_labels (P := (·.IsCloseEpochSettings)) hlabels (by
    simp [observedEpoch, payout, distribution, tally, join, call, Instruction.IsCloseEpochSettings])
  obtain ⟨hcredited, hreleased, -⟩ := epoch_budget fresh (run.cons hstep) hclose he
  exact ⟨s', tr, epoch, hstep, he, hpaid, hcredited, hreleased⟩

end Gar
end ArioSolana
