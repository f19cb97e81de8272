import ArioSolana.GarRedelegation

/-!
# Funding plans draw exactly what they name

The sources of a plan name the accounts that they draw on by their positions among the extra
accounts. No gateway is named twice, so what a gateway and the payer's delegation there hold after
the plan is decided by one source. A withdrawal may be named any number of times, and its draws add
up. The residues wait until all sources are drawn and then go to new withdrawals, in order.
-/

namespace ArioSolana
namespace Gar

open Checked Solana

variable {env : Env} {s s' : State} {clock : Clock} {payer k : Pubkey} {amount : ℕ}
  {plan plan' : FundingPlan} {b : Bool} {source : FundingSourceSpec}
  {sources : List FundingSourceSpec} {draws : List (Address × ℕ)} {a : Address}

/-! ### What the sources name -/

/-- The account that each source other than a balance draws on, with the amount. -/
def namedAccounts : List FundingSourceSpec → List AccountMeta → List (Address × ℕ)
  | [], _ => []
  | source :: sources, infos =>
    match source.kind, infos with
    | .balance, _ => namedAccounts sources infos
    | .delegation, _ :: info :: rest => (info.address, source.amount) :: namedAccounts sources rest
    | .operatorStake, info :: rest => (info.address, source.amount) :: namedAccounts sources rest
    | .withdrawal, info :: rest => (info.address, source.amount) :: namedAccounts sources rest
    | _, _ => []

/-- What is drawn from one account. -/
def drawnFrom (draws : List (Address × ℕ)) (a : Address) : ℕ :=
  ((draws.filter fun x => x.1 = a).map (·.2)).sum

/-- What is drawn from all accounts of the pool. -/
def poolSum (draws : List (Address × ℕ)) : ℕ := (draws.map (·.2)).sum

/-- What the balance sources draw. -/
def balanceSum (sources : List FundingSourceSpec) : ℕ :=
  ((sources.filter fun x => x.kind = .balance).map (·.amount)).sum

@[simp] lemma drawnFrom_nil : drawnFrom [] a = 0 := rfl

@[simp] lemma drawnFrom_snoc {a' : Address} : drawnFrom (draws ++ [(a', amount)]) a
    = drawnFrom draws a + if a' = a then amount else 0 := by
  unfold drawnFrom
  rw [List.filter_append, List.map_append, List.sum_append]
  by_cases h : a' = a <;> simp [h]

lemma poolSum_snoc : poolSum (draws ++ [(a, amount)]) = poolSum draws + amount := by
  simp [poolSum]

/-- What a plan leaves of a gateway and of the payer's delegation there, when it draws `n` from the
delegation and `m` from the operator stake and moves the residue `left` to a vault. -/
inductive DrawnAt (s : State) (payer k : Pubkey) :
    Option Gateway → Option Delegation → ℕ → ℕ → ℕ → Prop
  | untouched : DrawnAt s payer k (s.gateways k) (s.delegations (k, payer)) 0 0 0
  | delegation {g : Gateway} {d : Delegation} {n left : ℕ} (positive : 0 < n)
      (joined : g.status = .joined)
      (gateway : s.gateways k = some g) (delegation : s.delegations (k, payer) = some d)
      (covered : n + left ≤ (settleDelegateRewards g d).delegation.amount)
      (counted : n + left ≤ (settleDelegateRewards g d).gateway.totalDelegatedStake)
      (residue : left = 0 ∧ ((settleDelegateRewards g d).delegation.amount = n ∨
          g.settings.minDelegationAmount ≤ (settleDelegateRewards g d).delegation.amount - n) ∨
        0 < left ∧ left < g.settings.minDelegationAmount ∧
          (settleDelegateRewards g d).delegation.amount = n + left) :
      DrawnAt s payer k
        (some { g with totalDelegatedStake :=
          (settleDelegateRewards g d).gateway.totalDelegatedStake - (n + left) })
        (some { (settleDelegateRewards g d).delegation with
          amount := (settleDelegateRewards g d).delegation.amount - (n + left) }) n 0 left
  | operatorStake {g : Gateway} {m : ℕ} (positive : 0 < m) (joined : g.status = .joined)
      (self : k = payer) (gateway : s.gateways k = some g) (covered : m ≤ g.operatorStake)
      (floor : s.settings.minOperatorStake ≤ g.operatorStake - m) :
      DrawnAt s payer k (some { g with operatorStake := g.operatorStake - m })
        (s.delegations (k, payer)) 0 m 0

/-! ### The walk over the sources -/

/-- The accounts of the payer that a source can draw on. -/
def OfPayer (payer : Pubkey) (a : Address) : Prop :=
  (∃ k, a = .delegation k payer) ∨ a = .gateway payer ∨ ∃ id, a = .withdrawal payer id

/-- The accounts after the draws so far. -/
structure Drawing (s : State) (payer : Pubkey) (plan : FundingPlan) (draws : List (Address × ℕ)) :
    Prop where
  rest : ∃ G D W, plan.state = { s with gateways := G, delegations := D, withdrawals := W }
  unseen : ∀ k ∉ plan.gatewaysSeen, plan.state.gateways k = s.gateways k ∧
    plan.state.delegations (k, payer) = s.delegations (k, payer) ∧
    drawnFrom draws (.delegation k payer) = 0 ∧ drawnFrom draws (.gateway k) = 0 ∧
    k ∉ plan.residueTargets.map (·.1)
  each : ∀ k, ∃ left, DrawnAt s payer k (plan.state.gateways k) (plan.state.delegations (k, payer))
      (drawnFrom draws (.delegation k payer)) (drawnFrom draws (.gateway k)) left ∧
    ∀ r, (k, r) ∈ plan.residueTargets ↔ r = left ∧ 0 < left
  once : (plan.residueTargets.map (·.1)).Nodup
  delegations : ∀ k u, u ≠ payer → plan.state.delegations (k, u) = s.delegations (k, u)
  withdrawals : ∀ u id, u ≠ payer → plan.state.withdrawals (u, id) = s.withdrawals (u, id)
  vaults : ∀ id, drawnFrom draws (.withdrawal payer id)
      ≤ (s.withdrawals (payer, id)).elim 0 (·.amount) ∧
    plan.state.withdrawals (payer, id) = (s.withdrawals (payer, id)).map fun w =>
      { w with amount := w.amount - drawnFrom draws (.withdrawal payer id) }
  named : ∀ x ∈ draws, OfPayer payer x.1
  pool : plan.stakePoolDrain = poolSum draws

namespace Drawing

lemma start {remaining : List AccountMeta} : Drawing s payer { state := s, remaining } [] where
  rest := ⟨_, _, _, rfl⟩
  unseen := fun _ _ => ⟨rfl, rfl, rfl, rfl, List.not_mem_nil⟩
  each := fun k => ⟨0, .untouched, fun r => by simp⟩
  once := List.nodup_nil
  delegations := fun _ _ _ => rfl
  withdrawals := fun _ _ _ => rfl
  vaults := fun id => by
    simp only [drawnFrom_nil, Nat.sub_zero, Nat.zero_le, true_and]
    exact Option.map_id'.symm
  named := by simp
  pool := rfl

/-- A draw on a gateway that the walk has not seen, or on the payer's delegation there. -/
lemma write (left : ℕ) {G : Pubkey → Option Gateway} {D : Pubkey × Pubkey → Option Delegation}
    (w : Drawing s payer plan draws) (hk : k ∉ plan.gatewaysSeen)
    (hseen : plan'.gatewaysSeen = k :: plan.gatewaysSeen)
    (ha : ∀ j ≠ k, a ≠ .delegation j payer ∧ a ≠ .gateway j) (hv : ∀ id, a ≠ .withdrawal payer id)
    (hnamed : OfPayer payer a)
    (hs' : plan'.state = { plan.state with gateways := G, delegations := D })
    (hG : ∀ j ≠ k, G j = plan.state.gateways j)
    (hD : ∀ x ≠ (k, payer), D x = plan.state.delegations x)
    (hpool : plan'.stakePoolDrain = plan.stakePoolDrain + amount)
    (ht : plan'.residueTargets = plan.residueTargets ++ if left = 0 then [] else [(k, left)])
    (h : DrawnAt s payer k (G k) (D (k, payer)) (if a = .delegation k payer then amount else 0)
      (if a = .gateway k then amount else 0) left) :
    Drawing s payer plan' (draws ++ [(a, amount)]) := by
  have hG' : plan'.state.gateways = G := by rw [hs']
  have hD' : plan'.state.delegations = D := by rw [hs']
  have hW' : plan'.state.withdrawals = plan.state.withdrawals := by rw [hs']
  obtain ⟨-, -, hdel, hgate, htargets⟩ := w.unseen k hk
  obtain ⟨G₀, D₀, W₀, hrest⟩ := w.rest
  have hother (j : Pubkey) (hj : j ≠ k) (r : ℕ) :
      (j, r) ∈ plan'.residueTargets ↔ (j, r) ∈ plan.residueTargets := by
    rw [ht, List.mem_append]
    split
    · simp
    · simp [hj]
  refine ⟨⟨G, D, W₀, by rw [hs', hrest]⟩, fun j hj => ?_, fun j => ?_, ?_, fun j u hu => ?_, ?_,
    fun id => ?_, fun x hx => ?_, ?_⟩
  · rw [hseen, List.mem_cons, not_or] at hj
    obtain ⟨h1, h2, h3, h4, h5⟩ := w.unseen j hj.2
    have hjk : (j, payer) ≠ (k, payer) := fun heq => hj.1 (congrArg Prod.fst heq)
    rw [hG', hD', hG j hj.1, hD _ hjk, drawnFrom_snoc, drawnFrom_snoc, if_neg (ha j hj.1).1,
      if_neg (ha j hj.1).2]
    refine ⟨h1, h2, h3, h4, fun hmem => ?_⟩
    obtain ⟨⟨j, r⟩, htarget, rfl⟩ := List.mem_map.mp hmem
    exact h5 (List.mem_map.mpr ⟨(j, r), (hother j hj.1 r).mp htarget, rfl⟩)
  · rw [hG', hD', drawnFrom_snoc, drawnFrom_snoc]
    by_cases hj : j = k
    · subst hj
      rw [hdel, hgate, Nat.zero_add, Nat.zero_add]
      refine ⟨left, h, fun r => ?_⟩
      have hnot : (j, r) ∉ plan.residueTargets := fun hmem =>
        htargets (List.mem_map.mpr ⟨(j, r), hmem, rfl⟩)
      rw [ht, List.mem_append]
      rcases Nat.eq_zero_or_pos left with rfl | hpos
      · simp [hnot]
      · simp [hnot, hpos, hpos.ne']
    · obtain ⟨left', h', htarget⟩ := w.each j
      have hjk : (j, payer) ≠ (k, payer) := fun heq => hj (congrArg Prod.fst heq)
      rw [hG j hj, hD _ hjk, if_neg (ha j hj).1, if_neg (ha j hj).2, Nat.add_zero, Nat.add_zero]
      exact ⟨left', h', fun r => (hother j hj r).trans (htarget r)⟩
  · rw [ht, List.map_append]
    split
    · simpa using w.once
    · refine List.nodup_append.mpr ⟨w.once, by simp, ?_⟩
      rintro j hj _ hmem rfl
      obtain rfl : j = k := by simpa using hmem
      exact htargets hj
  · have hne : (j, u) ≠ (k, payer) := fun heq => hu (congrArg Prod.snd heq)
    rw [hD', hD _ hne]
    exact w.delegations j u hu
  · rw [hW']
    exact w.withdrawals
  · rw [hW', drawnFrom_snoc, if_neg (hv id)]
    exact w.vaults id
  · rcases List.mem_append.mp hx with hx | hx
    · exact w.named x hx
    · rw [List.mem_singleton.mp hx]
      exact hnamed
  · rw [hpool, poolSum_snoc, w.pool]

lemma draw (w : Drawing s payer plan draws) (hpos : 0 < source.amount)
    (h : plan.draw payer b source = .ok plan') :
    ∃ new, Drawing s payer plan' (draws ++ new) ∧
      plan'.balanceDrain = plan.balanceDrain + balanceSum [source] ∧
      source.amount = balanceSum [source] + poolSum new ∧ (∀ x ∈ new, 0 < x.2) ∧
      ∀ sources, namedAccounts (source :: sources) plan.remaining
        = new ++ namedAccounts sources plan'.remaining := by
  obtain ⟨kind, amount⟩ := source
  cases kind with
  | balance =>
    simp only [FundingPlan.draw, FundingPlan.drawBalance, bind_eq_ok, require_eq_ok, add64_eq_ok,
      pure_eq_ok, exists_const] at h
    obtain ⟨-, _, ⟨-, rfl⟩, rfl⟩ := h
    refine ⟨[], ?_, by simp [balanceSum], by simp [balanceSum, poolSum], by simp,
      fun sources => rfl⟩
    rw [List.append_nil]
    exact ⟨w.rest, w.unseen, w.each, w.once, w.delegations, w.withdrawals, w.vaults, w.named,
      w.pool⟩
  | delegation =>
    obtain ⟨k, g, d, left, hg, hst, hd, hle, -, hs', hbal, hpool, -, -, -, -, hres, htot, hk, hseen,
      info, v, hrem⟩ := drawDelegation_ok h
    have ht : plan'.residueTargets
        = plan.residueTargets ++ if left = 0 then [] else [(k, left)] := by
      rcases hres with ⟨rfl, -, -, ht⟩ | ⟨hleft, -, -, -, ht⟩
      · rw [if_pos rfl, List.append_nil, ht]
      · rw [if_neg hleft.ne', ht]
    obtain ⟨hg₀, hd₀, -⟩ := w.unseen k hk
    refine ⟨[(.delegation k payer, amount)], ?_, by simpa [balanceSum] using hbal,
      by simp [balanceSum, poolSum], by simpa using hpos, fun sources => ?_⟩
    · refine w.write left hk hseen (fun j hj => ⟨?_, by simp⟩) (by simp) (.inl ⟨k, rfl⟩) hs'
        (fun j hj => Function.update_of_ne hj ..) (fun x hx => Function.update_of_ne hx ..) hpool
          ht ?_
      · simpa using hj.symm
      · rw [Function.update_self, Function.update_self, if_pos rfl, if_neg (by simp)]
        refine .delegation hpos hst (hg₀ ▸ hg) (hd₀ ▸ hd) hle htot ?_
        exact hres.imp (fun h => ⟨h.1, h.2.1⟩) fun h => ⟨h.1, h.2.1, h.2.2.1⟩
    · rw [hrem]
      rfl
  | operatorStake =>
    obtain ⟨g, hg, hst, hle, hmin, -, hs', hbal, hpool, -, -, -, -, -, ht, hk, hseen, v, hrem⟩ :=
      drawOperatorStake_ok h
    obtain ⟨hg₀, hd₀, -⟩ := w.unseen payer hk
    obtain ⟨G, D, W, hrest⟩ := w.rest
    have hset : plan.state.settings = s.settings := by rw [hrest]
    refine ⟨[(.gateway payer, amount)], ?_, by simpa [balanceSum] using hbal,
      by simp [balanceSum, poolSum], by simpa using hpos, fun sources => ?_⟩
    · refine w.write 0 hk hseen (fun j hj => ⟨by simp, ?_⟩) (by simp) (.inr (.inl rfl)) hs'
        (fun j hj => Function.update_of_ne hj ..) (fun x hx => rfl) hpool
        (by rw [ht, if_pos rfl, List.append_nil]) ?_
      · simpa using hj.symm
      · rw [Function.update_self, if_neg (by simp), if_pos rfl, hd₀]
        exact .operatorStake hpos hst rfl (hg₀ ▸ hg) hle (hset ▸ hmin)
    · rw [hrem]
      rfl
  | withdrawal =>
    obtain ⟨id, x, hx, hle, -, hs', hbal, hpool, -, -, -, -, -, ht, hseen, hrem⟩ :=
      drawWithdrawal_ok h
    obtain ⟨G, D, W, hrest⟩ := w.rest
    refine ⟨[(.withdrawal payer id, amount)], ?_, by simpa [balanceSum] using hbal,
      by simp [balanceSum, poolSum], by simpa using hpos, fun sources => ?_⟩
    · have hG' : plan'.state.gateways = plan.state.gateways := by rw [hs']
      have hD' : plan'.state.delegations = plan.state.delegations := by rw [hs']
      have hW' : plan'.state.withdrawals = Function.update plan.state.withdrawals (payer, id)
          (some { x with amount := x.amount - amount }) := by rw [hs']
      refine ⟨⟨G, D, _, by rw [hs', hrest]⟩, fun j hj => ?_, fun j => ?_, ?_, ?_, fun u i hu => ?_,
        fun i => ?_, fun y hy => ?_, ?_⟩
      · rw [hG', hD', ht, drawnFrom_snoc, drawnFrom_snoc, if_neg (by simp), if_neg (by simp)]
        exact w.unseen j (hseen ▸ hj)
      · rw [hG', hD', ht, drawnFrom_snoc, drawnFrom_snoc, if_neg (by simp), if_neg (by simp)]
        exact w.each j
      · rw [ht]
        exact w.once
      · rw [hD']
        exact w.delegations
      · have hne : (u, i) ≠ (payer, id) := fun heq => hu (congrArg Prod.fst heq)
        rw [hW', Function.update_of_ne hne]
        exact w.withdrawals u i hu
      · obtain ⟨hcov, hvault⟩ := w.vaults i
        rw [hW', drawnFrom_snoc]
        by_cases hi : i = id
        · subst hi
          rw [hx] at hvault
          obtain ⟨x₀, hx₀, rfl⟩ := Option.map_eq_some_iff.mp hvault.symm
          simp only [hx₀, Option.elim_some, if_true] at hcov hle ⊢
          rw [Function.update_self, Option.map_some, Nat.sub_sub]
          exact ⟨by omega, rfl⟩
        · have hne : (payer, i) ≠ (payer, id) := fun heq => hi (congrArg Prod.snd heq)
          have hne' : Address.withdrawal payer id ≠ .withdrawal payer i := by
            simpa using fun h => hi h.symm
          rw [Function.update_of_ne hne, if_neg hne']
          exact ⟨hcov, hvault⟩
      · rcases List.mem_append.mp hy with hy | hy
        · exact w.named y hy
        · rw [List.mem_singleton.mp hy]
          exact .inr (.inr ⟨id, rfl⟩)
      · rw [hpool, poolSum_snoc, w.pool]
    · rw [hrem]
      rfl

lemma drawAll (w : Drawing s payer plan draws) (hpos : ∀ x ∈ sources, 0 < x.amount)
    (h : FundingPlan.drawAll payer b sources plan = .ok plan') :
    Drawing s payer plan' (draws ++ namedAccounts sources plan.remaining) ∧
      plan'.balanceDrain = plan.balanceDrain + balanceSum sources ∧
      (sources.map (·.amount)).sum
        = balanceSum sources + poolSum (namedAccounts sources plan.remaining) ∧
      ∀ x ∈ namedAccounts sources plan.remaining, 0 < x.2 := by
  induction sources generalizing plan draws with
  | nil =>
    obtain rfl := pure_eq_ok.mp h
    exact ⟨by rw [namedAccounts, List.append_nil]; exact w, rfl, rfl, by simp [namedAccounts]⟩
  | cons source sources ih =>
    simp only [FundingPlan.drawAll, bind_eq_ok] at h
    obtain ⟨p, hp, h⟩ := h
    obtain ⟨new, w', hbal, hsum, hnew, hnamed⟩ := w.draw (hpos source List.mem_cons_self) hp
    obtain ⟨w'', hbal', hsum', hnew'⟩ := ih w' (fun x hx => hpos x (List.mem_cons_of_mem _ hx)) h
    have hparts : balanceSum (source :: sources) = balanceSum [source] + balanceSum sources := by
      unfold balanceSum
      rw [← List.singleton_append, List.filter_append, List.map_append, List.sum_append]
    have hpool (l l' : List (Address × ℕ)) : poolSum (l ++ l') = poolSum l + poolSum l' := by
      simp [poolSum]
    rw [hnamed, hparts, hpool, List.map_cons, List.sum_cons]
    refine ⟨by rw [← List.append_assoc]; exact w'', by omega, by omega, fun x hx => ?_⟩
    rcases List.mem_append.mp hx with hx | hx
    · exact hnew x hx
    · exact hnew' x hx

end Drawing

/-! ### The vaults of the residues -/

/-- The vault of a residue. -/
def residueVault (payer gateway : Pubkey) (id : WithdrawalId) (amount : ℕ) (now period : ℤ) :
    Withdrawal where
  owner := payer
  withdrawalId := id
  gateway
  amount
  createdAt := now
  availableAt := now + period
  isDelegate := true
  isExitVault := false
  isProtected := false

/-- The next id of an owner. -/
def nextIdOf (s : State) (owner : Pubkey) : ℕ := (loadCounter s owner).nextId.val

/-- What the creation of the vaults does. -/
structure Vaulted (s s' : State) (payer : Pubkey) (now : ℤ) (targets : List (Pubkey × ℕ)) :
    Prop where
  rest : ∃ C W, s' = { s with withdrawalCounters := C, withdrawals := W }
  others : ∀ u ≠ payer, s'.withdrawalCounters u = s.withdrawalCounters u ∧
    ∀ id, s'.withdrawals (u, id) = s.withdrawals (u, id)
  counter : nextIdOf s' payer = nextIdOf s payer + targets.length
  kept : ∀ id : WithdrawalId,
    id.val < nextIdOf s payer ∨ nextIdOf s payer + targets.length ≤ id.val →
    s'.withdrawals (payer, id) = s.withdrawals (payer, id)
  vaults : ∀ j k r, targets[j]? = some (k, r) → ∃ id : WithdrawalId,
    id.val = nextIdOf s payer + j ∧ s.withdrawals (payer, id) = none ∧
    s'.withdrawals (payer, id) = some (residueVault payer k id r now s.settings.withdrawalPeriod)

lemma createResidueVaults_spec {now : ℤ} {targets : List (Pubkey × ℕ)}
    {rest rest' : List AccountMeta}
    (h : createResidueVaults now payer targets (s, rest) = .ok (s', rest')) :
    Vaulted s s' payer now targets := by
  induction targets generalizing s rest with
  | nil =>
    obtain ⟨rfl, rfl⟩ := Prod.mk.inj (pure_eq_ok.mp h)
    exact ⟨⟨_, _, rfl⟩, fun _ _ => ⟨rfl, fun _ => rfl⟩, rfl, fun _ _ => rfl, by simp⟩
  | cons target targets ih =>
    obtain ⟨k₀, residue⟩ := target
    cases rest with
    | nil => simp [createResidueVaults] at h
    | cons info rest =>
      simp only [createResidueVaults, bind_eq_ok, WithdrawalId.next_eq_ok, require_eq_ok,
        addTime_eq_ok, exists_const, Option.isNone_iff_eq_none] at h
      obtain ⟨nextId, hnext, -, hnone, -, _, ⟨-, rfl⟩, h⟩ := h
      set id₀ := (loadCounter s payer).nextId with hid₀
      set s₁ := (s.setCounter payer { loadCounter s payer with nextId }).setWithdrawal payer id₀
        (some (residueVault payer k₀ id₀ residue now s.settings.withdrawalPeriod)) with hs₁
      obtain ⟨⟨C, W, hs'⟩, hothers, hcounter, hkept, hvaults⟩ : Vaulted s₁ s' payer now targets :=
        ih h
      have hload : nextIdOf s₁ payer = nextIdOf s payer + 1 := by
        simp only [nextIdOf, loadCounter, hs₁, State.setCounter, State.setWithdrawal,
          Function.update_self, Option.getD_some]
        exact hnext
      have hW₁ (u : Pubkey) (id : WithdrawalId) (hne : (u, id) ≠ (payer, id₀)) :
          s₁.withdrawals (u, id) = s.withdrawals (u, id) := Function.update_of_ne hne ..
      rw [hload] at hcounter hkept hvaults
      have hnextId : nextIdOf s payer = id₀.val := rfl
      refine ⟨⟨C, W, hs'⟩, fun u hu => ?_, ?_, fun id hid => ?_, fun j k r hj => ?_⟩
      · obtain ⟨hC, hW⟩ := hothers u hu
        refine ⟨hC.trans (Function.update_of_ne hu ..), fun id => (hW id).trans (hW₁ u id ?_)⟩
        exact fun heq => hu (congrArg Prod.fst heq)
      · rw [hcounter, List.length_cons]
        omega
      · rw [List.length_cons] at hid
        refine (hkept id (by omega)).trans (hW₁ payer id fun heq => ?_)
        obtain rfl : id = id₀ := congrArg Prod.snd heq
        omega
      · cases j with
        | zero =>
          obtain ⟨rfl, rfl⟩ : k₀ = k ∧ residue = r := by simpa using hj
          refine ⟨id₀, rfl, hnone, (hkept id₀ (.inl (by omega))).trans ?_⟩
          exact Function.update_self ..
        | succ j =>
          obtain ⟨id, hid, hfree, hvault⟩ := hvaults j k r (by simpa using hj)
          have hne : (payer, id) ≠ (payer, id₀) := by
            intro heq
            obtain rfl : id = id₀ := congrArg Prod.snd heq
            omega
          exact ⟨id, by omega, (hW₁ payer id hne).symm.trans hfree, hvault⟩

/-! ### The instruction -/

lemma sumSources_ok {t total : ℕ} (h : sumSources sources t = .ok total) :
    total = t + (sources.map (·.amount)).sum ∧ ∀ x ∈ sources, 0 < x.amount := by
  induction sources generalizing t with
  | nil =>
    obtain rfl := pure_eq_ok.mp h
    exact ⟨rfl, by simp⟩
  | cons source sources ih =>
    simp only [sumSources, bind_eq_ok, require_eq_ok, add64_eq_ok, exists_const] at h
    obtain ⟨hpos, _, ⟨-, rfl⟩, h⟩ := h
    obtain ⟨rfl, hrest⟩ := ih h
    refine ⟨by rw [List.map_cons, List.sum_cons, Nat.add_assoc], fun x hx => ?_⟩
    rcases List.mem_cons.mp hx with rfl | hx
    · exact hpos
    · exact hrest x hx

lemma payBalance_spec {pta : Option Pubkey} {q : Pubkey}
    (h : payBalance payer pta q amount s = .ok s') :
    ∃ t, s' = { s with tokens := t } ∧ t.terms = s.tokens.terms ∧
      (∀ a, (t.balance a : ℤ) = s.tokens.balance a + (if a = q then (amount : ℤ) else 0)
        - (if pta = some a then (amount : ℤ) else 0)) ∧
      (0 < amount → ∃ a mint, pta = some a ∧ s.tokens.terms a = some (mint, payer)) := by
  unfold payBalance at h
  split at h
  · simp only [bind_eq_ok, okOr_eq_ok, splTransfer_eq_ok] at h
    obtain ⟨a, rfl, t, ht, rfl⟩ := h
    have ht := Tokens.transfer_ok ht
    obtain ⟨src, hsrc, hauth, -⟩ := ht.source_exists
    refine ⟨t, rfl, ht.terms_eq, fun a' => ?_, fun _ => ⟨a, src.mint, rfl, ?_⟩⟩
    · rw [ht.balance_eq]
      simp only [Option.some.injEq, eq_comm]
    · rw [Tokens.terms, hsrc, hauth]
      rfl
  · obtain rfl := pure_eq_ok.mp h
    obtain rfl : amount = 0 := by omega
    exact ⟨s.tokens, rfl, rfl, by simp, fun hpos => absurd hpos (lt_irrefl 0)⟩

/-- The pool belongs to the program, and the treasury to the core program. -/
structure Custody (env : Env) (s : State) : Prop where
  addresses : env.settingsPda ≠ env.arioConfig
  pool : s.tokens.terms s.settings.stakeTokenAccount = some (s.settings.mint, env.settingsPda)
  treasury : s.tokens.terms s.settings.protocolTokenAccount = some (s.settings.mint, env.arioConfig)

/-- The accounts of the payer after a plan, with its residues. -/
structure PlanAccounts (s s' : State) (payer : Pubkey) (now : ℤ) (named : List (Address × ℕ))
    (residues : List (Pubkey × ℕ)) : Prop where
  ofPayer : ∀ x ∈ named, OfPayer payer x.1 ∧ 0 < x.2
  each : ∀ k, ∃ left, DrawnAt s payer k (s'.gateways k) (s'.delegations (k, payer))
      (drawnFrom named (.delegation k payer)) (drawnFrom named (.gateway k)) left ∧
    ∀ r, (k, r) ∈ residues ↔ r = left ∧ 0 < left
  /-- each gateway has at most one residue -/
  once : (residues.map (·.1)).Nodup
  withdrawals : ∀ id w, s.withdrawals (payer, id) = some w →
    drawnFrom named (.withdrawal payer id) ≤ w.amount ∧ s'.withdrawals (payer, id) =
      some { w with amount := w.amount - drawnFrom named (.withdrawal payer id) }
  /-- the residues take the next ids of the payer, in order -/
  vaults : ∀ j k r, residues[j]? = some (k, r) → ∃ id : WithdrawalId,
    id.val = nextIdOf s payer + j ∧ s.withdrawals (payer, id) = none ∧
    s'.withdrawals (payer, id) = some (residueVault payer k id r now s.settings.withdrawalPeriod)
  absent : ∀ id : WithdrawalId, s.withdrawals (payer, id) = none →
    drawnFrom named (.withdrawal payer id) = 0 ∧
    (id.val < nextIdOf s payer ∨ nextIdOf s payer + residues.length ≤ id.val →
      s'.withdrawals (payer, id) = none)
  counter : nextIdOf s' payer = nextIdOf s payer + residues.length
  others : ∀ u ≠ payer, (∀ k, s'.delegations (k, u) = s.delegations (k, u)) ∧
    (∀ id, s'.withdrawals (u, id) = s.withdrawals (u, id)) ∧
    s'.withdrawalCounters u = s.withdrawalCounters u
  rest : ∃ G D W C tokens totalStaked totalDelegated totalWithdrawn, s' = { s with
    gateways := G
    delegations := D
    withdrawals := W
    withdrawalCounters := C
    tokens := tokens
    settings := { s.settings with totalStaked, totalDelegated, totalWithdrawn } }

lemma Drawing.accounts {now : ℤ} {named : List (Address × ℕ)} {s₂ s₃ : State} {t : Tokens}
    {totalStaked totalDelegated totalWithdrawn : ℕ} (w : Drawing s payer plan named)
    (hpos : ∀ x ∈ named, 0 < x.2) (hs₂ : s₂ = { plan.state with tokens := t })
    (hvaulted : Vaulted (s₂.setCounter payer (loadCounter s₂ payer)) s₃ payer now
      plan.residueTargets)
    (hs' : s' = { s₃ with settings := { s₃.settings with
      totalStaked, totalDelegated, totalWithdrawn } }) :
    PlanAccounts s s' payer now named plan.residueTargets := by
  obtain ⟨G, D, W, hstate⟩ := w.rest
  rw [hstate] at hs₂
  obtain ⟨⟨C, W', hs₃⟩, hvothers, hcounter, hkept, hvaults⟩ := hvaulted
  have hnext : nextIdOf (s₂.setCounter payer (loadCounter s₂ payer)) payer = nextIdOf s payer := by
    simp [nextIdOf, loadCounter, hs₂]
  rw [hnext] at hcounter hkept hvaults
  have hG : s'.gateways = plan.state.gateways := by rw [hs', hs₃, hstate, hs₂]; rfl
  have hD : s'.delegations = plan.state.delegations := by rw [hs', hs₃, hstate, hs₂]; rfl
  have hW : plan.state.withdrawals = W := by rw [hstate]
  have hV : s'.withdrawals = s₃.withdrawals := by rw [hs']
  have hC : s'.withdrawalCounters = s₃.withdrawalCounters := by rw [hs']
  simp only [State.setCounter, hs₂] at hvothers hkept hvaults
  have hfree (id : WithdrawalId) : W (payer, id) = none ↔ s.withdrawals (payer, id) = none := by
    rw [← hW, (w.vaults id).2, Option.map_eq_none_iff]
  refine ⟨fun x hx => ⟨w.named x hx, hpos x hx⟩, ?_, w.once, fun id x hx => ?_, fun j k r hj => ?_,
    fun id hid => ?_, ?_, fun u hu => ?_, ?_⟩
  · rw [hG, hD]
    exact w.each
  · obtain ⟨hcov, hvault⟩ := w.vaults id
    rw [hx, Option.elim_some] at hcov
    rw [hx, Option.map_some, hW] at hvault
    rw [hV]
    refine ⟨hcov, (hkept id ?_).trans hvault⟩
    -- The ids of the residues are free, so this one is not among them.
    by_contra hrange
    have hlt : id.val - nextIdOf s payer < plan.residueTargets.length := by omega
    obtain ⟨id', hid', hnone, -⟩ := hvaults _ _ _ (List.getElem?_eq_getElem hlt)
    obtain rfl : id' = id := Fin.ext (by omega)
    cases hvault.symm.trans hnone
  · obtain ⟨id, hid, hnone, hvault⟩ := hvaults j k r hj
    rw [hV]
    exact ⟨id, hid, (hfree id).mp hnone, hvault⟩
  · have hcov := (w.vaults id).1
    rw [hid] at hcov
    rw [hV]
    exact ⟨Nat.le_zero.mp hcov, fun hrange => (hkept id hrange).trans ((hfree id).mpr hid)⟩
  · rw [nextIdOf, loadCounter, hC]
    exact hcounter
  · obtain ⟨hcounters, hothers⟩ := hvothers u hu
    rw [hD, hV, hC]
    refine ⟨fun k => w.delegations k u hu, fun id => (hothers id).trans ?_, hcounters.trans ?_⟩
    · rw [← w.withdrawals u id hu, hW]
    · exact Function.update_of_ne hu ..
  · rw [hs', hs₃, hs₂]
    exact ⟨_, _, _, _, _, _, _, _, rfl⟩

lemma payFromFundingPlan_accounts {now : ℤ} {p q : Pubkey} {pta : Option Pubkey}
    {remaining : List AccountMeta} {total count : ℕ}
    (h : payFromFundingPlan env now payer p q pta remaining sources total count s = .ok s') :
    ∃ residues, PlanAccounts s s' payer now (namedAccounts sources remaining) residues := by
  simp only [payFromFundingPlan, bind_eq_ok, require_eq_ok, splTransferNonzero_eq_ok, add64_eq_ok,
    pure_eq_ok, exists_const, Prod.exists] at h
  obtain ⟨_, -, -, -, -, -, -, _, hsum, -, plan, hplan, -, s₁, ⟨t, -, rfl⟩, s₂, hbal, s₃, rest,
    hvaults, -, _, -, hs'⟩ := h
  obtain ⟨-, hpos⟩ := sumSources_ok hsum
  obtain ⟨w, -, -, hnamed⟩ := Drawing.start.drawAll hpos hplan
  obtain ⟨t', rfl, -⟩ := payBalance_spec hbal
  exact ⟨_, w.accounts hnamed rfl (createResidueVaults_spec hvaults) hs'.symm⟩

lemma run_custody {s₀ : State} {tr : Trace} (hfresh : Fresh env s₀)
    (run : Run (GarStep env) s₀ tr s)
    (hrec : Reconciled tr) : Custody env s := by
  obtain ⟨hL, -⟩ := run_ledger hfresh run hrec
  exact ⟨hL.addresses, hL.pool, hL.treasury⟩

namespace SmallNetwork

end SmallNetwork

end Gar
end ArioSolana
