import ArioSolana.GarEffects

/-!
# Effects of a funding plan

A funding plan draws on several sources of its payer and only then moves tokens. `Walk` relates
the state before the plan to the plan at any point of the walk: the moves posted so far lead to
the accounts as written, with tokens already reduced by what the pool has still to pay. The
running sums of the plan are the differences of the totals, so none of them was ever cut off.
-/

namespace ArioSolana
namespace Gar

open Checked Solana Book Finset

attribute [local irreducible] book settleDelegateRewards Book.pending

variable {env : Env} {s s' : State} {clock : ℤ} {payer : Pubkey} {amount : ℕ}
  {plan plan' : FundingPlan}

/-! ### What a draw does -/

/-- A gateway that a plan loads is the one at the address, joined, and new to the plan. -/
lemma loadGateway_plan_ok {info : AccountMeta} {g : Gateway} (h : plan.loadGateway info = .ok g) :
    info.address = .gateway g.operator ∧ plan.state.gateways g.operator = some g ∧
      g.operator ∉ plan.gatewaysSeen ∧ g.status = .joined := by
  simp only [FundingPlan.loadGateway, bind_eq_ok, require_eq_ok, exists_const] at h
  obtain ⟨-, h⟩ := h
  split at h
  · rename_i haddress
    simp only [bind_eq_ok, okOr_eq_ok, require_eq_ok, pure_eq_ok, exists_const] at h
    obtain ⟨g', hg, rfl, hseen, hst, rfl⟩ := h
    exact ⟨haddress, hg, hseen, hst⟩
  · simp at h

lemma next_ok {info : AccountMeta} (h : plan.next = .ok (info, plan')) :
    ∃ rest, plan.remaining = info :: rest ∧ plan' = { plan with remaining := rest } := by
  unfold FundingPlan.next at h
  split at h
  · simp at h
  · rename_i hrem
    simp only [Except.ok.injEq, Prod.mk.injEq] at h
    exact ⟨_, h.1 ▸ hrem, h.2.symm⟩

/-- A draw on a delegation takes the amount and a residue; a residue is remembered. -/
lemma drawDelegation_ok (h : plan.drawDelegation payer amount = .ok plan') :
    ∃ k g d residue, let r := settleDelegateRewards g d
      plan.state.gateways k = some g ∧ g.status = .joined ∧
      plan.state.delegations (k, payer) = some d ∧ amount + residue ≤ r.delegation.amount ∧
      plan.stakePoolDrain + amount < 2 ^ 64 ∧
      plan'.state = { plan.state with
        gateways := Function.update plan.state.gateways k (some { r.gateway with
          totalDelegatedStake := r.gateway.totalDelegatedStake - (amount + residue) })
        delegations := Function.update plan.state.delegations (k, payer) (some { r.delegation with
          amount := r.delegation.amount - (amount + residue) }) } ∧
      plan'.balanceDrain = plan.balanceDrain ∧
      plan'.stakePoolDrain = plan.stakePoolDrain + amount ∧
      plan'.counterDelegatedSub = saturatingAdd 64 plan.counterDelegatedSub amount ∧
      plan'.counterDelegatedAdd = saturatingAdd 64 plan.counterDelegatedAdd r.settled ∧
      plan'.counterStakedSub = plan.counterStakedSub ∧
      plan'.counterWithdrawnSub = plan.counterWithdrawnSub ∧
      (residue = 0 ∧ (r.delegation.amount = amount ∨
            r.gateway.settings.minDelegationAmount ≤ r.delegation.amount - amount) ∧
          plan'.counterDelegatedResidueSub = plan.counterDelegatedResidueSub ∧
          plan'.residueTargets = plan.residueTargets ∨
        0 < residue ∧ residue < r.gateway.settings.minDelegationAmount ∧
          r.delegation.amount = amount + residue ∧
          plan'.counterDelegatedResidueSub =
            saturatingAdd 64 plan.counterDelegatedResidueSub residue ∧
          plan'.residueTargets = plan.residueTargets ++ [(k, residue)]) ∧
      amount + residue ≤ r.gateway.totalDelegatedStake ∧ k ∉ plan.gatewaysSeen ∧
      plan'.gatewaysSeen = k :: plan.gatewaysSeen ∧
      ∃ info w, plan.remaining = info :: ⟨.delegation k payer, w⟩ :: plan'.remaining := by
  simp only [FundingPlan.drawDelegation, bind_eq_ok, Prod.exists] at h
  obtain ⟨info, p₁, h₁, ⟨address, w⟩, p₂, h₂, h⟩ := h
  obtain ⟨rest₁, hrem₁, rfl⟩ := next_ok h₁
  obtain ⟨rest₂, hrem₂, rfl⟩ := next_ok h₂
  obtain rfl : rest₁ = ⟨address, w⟩ :: rest₂ := hrem₂
  simp only [loadDelegation_eq_ok, require_eq_ok, okOr_eq_ok, checkedSub_eq_some, add64_eq_ok,
    pure_eq_ok, exists_const] at h
  obtain ⟨g, hg, rfl, -, d, hd, -, hle, _, ⟨-, rfl⟩, _, ⟨-, rfl⟩, _, ⟨htot, rfl⟩, _, ⟨hlt, rfl⟩,
    rfl⟩ := h
  obtain ⟨-, hg, hseen, hst⟩ := loadGateway_plan_ok hg
  have hmin : (settleDelegateRewards g d).gateway.settings = g.settings := by
    unfold settleDelegateRewards
    rfl
  by_cases hk : (settleDelegateRewards g d).delegation.amount - amount = 0 ∨
      g.settings.minDelegationAmount ≤ (settleDelegateRewards g d).delegation.amount - amount
  · rw [if_pos hk] at htot
    refine ⟨g.operator, g, d, 0, hg, hst, hd, hle, hlt, ?_, rfl, rfl, rfl, rfl, rfl, rfl,
      .inl ⟨rfl, ?_, if_pos hk, if_pos hk⟩, htot, hseen, rfl, info, w, hrem₁⟩
    · simp only [if_pos hk, add_zero]
      rfl
    · rw [hmin]
      exact hk.imp (by omega) id
  · have hsum : amount + ((settleDelegateRewards g d).delegation.amount - amount)
        = (settleDelegateRewards g d).delegation.amount := Nat.add_sub_of_le hle
    rw [if_neg hk] at htot
    refine ⟨g.operator, g, d, (settleDelegateRewards g d).delegation.amount - amount, hg, hst, hd,
      hsum.le, hlt, ?_, rfl, rfl, rfl, rfl, rfl, rfl,
      .inr ⟨by omega, ?_, hsum.symm, if_neg hk, if_neg hk⟩, htot, hseen, rfl, info, w, hrem₁⟩
    · simp only [if_neg hk, hsum, Nat.sub_self]
      rfl
    · rw [hmin]
      omega

lemma drawOperatorStake_ok (h : plan.drawOperatorStake payer amount = .ok plan') :
    ∃ g, plan.state.gateways payer = some g ∧ g.status = .joined ∧ amount ≤ g.operatorStake ∧
      plan.state.settings.minOperatorStake ≤ g.operatorStake - amount ∧
      plan.stakePoolDrain + amount < 2 ^ 64 ∧
      plan'.state = { plan.state with
        gateways := Function.update plan.state.gateways payer (some { g with
          operatorStake := g.operatorStake - amount }) } ∧
      plan'.balanceDrain = plan.balanceDrain ∧
      plan'.stakePoolDrain = plan.stakePoolDrain + amount ∧
      plan'.counterDelegatedSub = plan.counterDelegatedSub ∧
      plan'.counterDelegatedAdd = plan.counterDelegatedAdd ∧
      plan'.counterDelegatedResidueSub = plan.counterDelegatedResidueSub ∧
      plan'.counterStakedSub = saturatingAdd 64 plan.counterStakedSub amount ∧
      plan'.counterWithdrawnSub = plan.counterWithdrawnSub ∧
      plan'.residueTargets = plan.residueTargets ∧ payer ∉ plan.gatewaysSeen ∧
      plan'.gatewaysSeen = payer :: plan.gatewaysSeen ∧
      ∃ w, plan.remaining = ⟨.gateway payer, w⟩ :: plan'.remaining := by
  simp only [FundingPlan.drawOperatorStake, bind_eq_ok, Prod.exists] at h
  obtain ⟨⟨address, w⟩, p₁, h₁, h⟩ := h
  obtain ⟨rest, hrem, rfl⟩ := next_ok h₁
  simp only [require_eq_ok, okOr_eq_ok, checkedSub_eq_some, add64_eq_ok, pure_eq_ok,
    exists_const] at h
  obtain ⟨g, hg, rfl, hle, _, ⟨-, rfl⟩, hmin, _, ⟨hlt, rfl⟩, rfl⟩ := h
  obtain ⟨rfl, hg, hseen, hst⟩ := loadGateway_plan_ok hg
  exact ⟨g, hg, hst, hle, hmin, hlt, rfl, rfl, rfl, rfl, rfl, rfl, rfl, rfl, rfl, hseen, rfl, w,
    hrem⟩

lemma drawWithdrawal_ok (h : plan.drawWithdrawal payer amount = .ok plan') :
    ∃ id w, plan.state.withdrawals (payer, id) = some w ∧ amount ≤ w.amount ∧
      plan.stakePoolDrain + amount < 2 ^ 64 ∧
      plan'.state = { plan.state with
        withdrawals := Function.update plan.state.withdrawals (payer, id) (some { w with
          amount := w.amount - amount }) } ∧
      plan'.balanceDrain = plan.balanceDrain ∧
      plan'.stakePoolDrain = plan.stakePoolDrain + amount ∧
      plan'.counterDelegatedSub = plan.counterDelegatedSub ∧
      plan'.counterDelegatedAdd = plan.counterDelegatedAdd ∧
      plan'.counterDelegatedResidueSub = plan.counterDelegatedResidueSub ∧
      plan'.counterStakedSub = plan.counterStakedSub ∧
      plan'.counterWithdrawnSub = saturatingAdd 64 plan.counterWithdrawnSub amount ∧
      plan'.residueTargets = plan.residueTargets ∧ plan'.gatewaysSeen = plan.gatewaysSeen ∧
      plan.remaining = ⟨.withdrawal payer id, true⟩ :: plan'.remaining := by
  simp only [FundingPlan.drawWithdrawal, bind_eq_ok, Prod.exists] at h
  obtain ⟨⟨address, writable⟩, p₁, h₁, h⟩ := h
  obtain ⟨rest, hrem, rfl⟩ := next_ok h₁
  split at h
  · rename_i owner id haddress
    obtain rfl : address = .withdrawal owner id := haddress
    simp only [bind_eq_ok, require_eq_ok, okOr_eq_ok, checkedSub_eq_some, add64_eq_ok, pure_eq_ok,
      exists_const] at h
    obtain ⟨w, hw, rfl, ⟨rfl, -⟩, hle, _, ⟨-, rfl⟩, rfl, _, ⟨hlt, rfl⟩, rfl⟩ := h
    exact ⟨id, w, hw, hle, hlt, rfl, rfl, rfl, rfl, rfl, rfl, rfl, rfl, rfl, rfl, hrem⟩
  · simp at h

/-! ### The walk over the sources -/

/-- What a plan leaves standing at every point of the walk. -/
structure Track (s : State) (plan : FundingPlan) : Prop where
  quiet : Quiet s plan.state
  settings : plan.state.settings = s.settings
  tokens : plan.state.tokens = s.tokens
  gateways : ∀ k g, plan.state.gateways k = some g → g.Sound s.settings.minOperatorStake
  withdrawals : ∀ u id w, plan.state.withdrawals (u, id) = some w → w.Own u

namespace Track

lemma start {remaining : List AccountMeta} (hF : Footing env s) :
    Track s { state := s, remaining } :=
  ⟨.refl s, rfl, rfl, hF.gateways, hF.withdrawals⟩

lemma operatorStake (w : Track s plan) (h : plan.drawOperatorStake payer amount = .ok plan') :
    Track s plan' := by
  obtain ⟨g, hg, -, -, hmin, -, hstate, -⟩ := drawOperatorStake_ok h
  rw [w.settings] at hmin
  refine ⟨w.quiet.trans ?_, ?_, ?_, ?_, ?_⟩ <;> rw [hstate]
  · exact ⟨rfl, rfl, rfl, rfl, rfl, rfl, shells_update hg rfl (by simp only [Gateway.shell])⟩
  · exact w.settings
  · exact w.tokens
  · exact sound_update w.gateways ((w.gateways _ _ hg).lessStake fun _ => hmin)
  · exact w.withdrawals

lemma withdrawal (w : Track s plan) (h : plan.drawWithdrawal payer amount = .ok plan') :
    Track s plan' := by
  obtain ⟨id, x, hx, -, -, hstate, -⟩ := drawWithdrawal_ok h
  have hown := w.withdrawals _ _ _ hx
  refine ⟨w.quiet.trans ?_, ?_, ?_, ?_, ?_⟩ <;> rw [hstate]
  · exact ⟨rfl, rfl, rfl, rfl, rfl, rfl, rfl⟩
  · exact w.settings
  · exact w.tokens
  · exact w.gateways
  · exact own_update w.withdrawals fun w' hw' => by cases hw'; exact hown

lemma delegation (w : Track s plan) (h : plan.drawDelegation payer amount = .ok plan') :
    Track s plan' := by
  obtain ⟨k, g, d, residue, hg, -, -, -, -, hstate, -⟩ := drawDelegation_ok h
  obtain ⟨n, hn⟩ := settled_gateway g d
  refine ⟨w.quiet.trans ?_, ?_, ?_, ?_, ?_⟩ <;> rw [hstate]
  · exact ⟨rfl, rfl, rfl, rfl, rfl, rfl, shells_update hg rfl (by simp only [hn, Gateway.shell])⟩
  · exact w.settings
  · exact w.tokens
  · simp only [hn]
    exact sound_update w.gateways (w.gateways _ _ hg).counts
  · exact w.withdrawals

lemma draw {b : Bool} {source : FundingSourceSpec} (w : Track s plan)
    (h : plan.draw payer b source = .ok plan') : Track s plan' := by
  unfold FundingPlan.draw at h
  split at h
  · simp only [FundingPlan.drawBalance, bind_eq_ok, pure_eq_ok] at h
    obtain ⟨_, -, _, -, _, -, rfl⟩ := h
    exact ⟨w.quiet, w.settings, w.tokens, w.gateways, w.withdrawals⟩
  · exact w.delegation h
  · exact w.operatorStake h
  · exact w.withdrawal h

lemma drawAll {b : Bool} {sources : List FundingSourceSpec} (w : Track s plan)
    (h : FundingPlan.drawAll payer b sources plan = .ok plan') : Track s plan' := by
  induction sources generalizing plan with
  | nil =>
    obtain rfl := pure_eq_ok.mp h
    exact w
  | cons source sources ih =>
    simp only [FundingPlan.drawAll, bind_eq_ok] at h
    obtain ⟨p, hp, h⟩ := h
    exact ih (w.draw hp) h

end Track

/-- How a plan at some point of the walk relates to the state before it. -/
structure Walk (s : State) (payer : Pubkey) (plan : FundingPlan) : Prop extends Track s plan where
  posted : ∃ ms, (∀ m ∈ ms, About id payer m) ∧ AdmitsAll precision ms (book s) ∧
    play precision ms (book s) = { book plan.state with
      tokens := (book s).tokens - plan.stakePoolDrain - plan.counterDelegatedResidueSub }
  totalOwn : (book plan.state).totalOwn = (book s).totalOwn - plan.counterStakedSub
  totalShares : (book plan.state).totalShares = (book s).totalShares + plan.counterDelegatedAdd
    - plan.counterDelegatedSub - plan.counterDelegatedResidueSub
  totalVault : (book plan.state).totalVault = (book s).totalVault - plan.counterWithdrawnSub
  drain : plan.stakePoolDrain
    = plan.counterDelegatedSub + plan.counterStakedSub + plan.counterWithdrawnSub
  fits : plan.stakePoolDrain < 2 ^ 64
  residues : (plan.residueTargets.map (·.2)).sum = plan.counterDelegatedResidueSub
  covered : (book s).totalShares + plan.counterDelegatedAdd ≤ (book s).tokens

namespace Walk

lemma start {remaining : List AccountMeta} (hL : Ledger env s) :
    Walk s payer { state := s, remaining } := by
  have hsum := hL.solvent.rounded precision_pos
  obtain ⟨h1, h2, h3, h4⟩ := hL.solvent.totals_nonneg precision_pos
  refine ⟨.start hL.footing, ⟨[], by simp, trivial, by simp⟩, by simp, by simp, by simp, rfl,
    by norm_num, rfl, ?_⟩
  rw [Nat.cast_zero]
  linarith

/-- The accounts as written, with the tokens the pool will have, form a solvent book. -/
lemma solvent (hL : Ledger env s) (w : Walk s payer plan) :
    { book plan.state with tokens := (book s).tokens - plan.stakePoolDrain
      - plan.counterDelegatedResidueSub }.Solvent precision := by
  obtain ⟨ms, -, hadm, hplay⟩ := w.posted
  rw [← hplay]
  exact hL.solvent.play precision_pos hadm

lemma tokens_book (w : Walk s payer plan) : (book plan.state).tokens = (book s).tokens := by
  rw [← balance_eq, ← balance_eq, w.tokens, w.settings]

lemma ledger (hL : Ledger env s) (w : Walk s payer plan) : Ledger env plan.state := by
  have hb := (w.solvent hL).more precision_pos (t := (book plan.state).tokens) (by
    rw [w.tokens_book]
    simp only
    omega)
  refine ⟨hb, hL.addresses, ?_, ?_, ?_, ?_, ?_, w.withdrawals⟩
  · rw [w.tokens, w.settings]; exact hL.pool
  · rw [w.tokens, w.settings]; exact hL.treasury
  · rw [w.tokens, w.settings]; exact hL.supply
  · rw [w.settings]; exact hL.penalties
  · rw [w.settings]; exact fun k g hg => (w.gateways k g hg).toStakeOk

lemma post (w : Walk s payer plan) {ms : List (Move Pubkey Pubkey WithdrawalId)} {t : ℤ}
    (hab : ∀ m ∈ ms, About id payer m)
    (hadm : AdmitsAll precision ms { book plan.state with
      tokens := (book s).tokens - plan.stakePoolDrain - plan.counterDelegatedResidueSub })
    (hplay : { book plan'.state with tokens := t } = play precision ms { book plan.state with
      tokens := (book s).tokens - plan.stakePoolDrain - plan.counterDelegatedResidueSub })
    (ht : t = (book s).tokens - plan'.stakePoolDrain - plan'.counterDelegatedResidueSub) :
    ∃ ms, (∀ m ∈ ms, About id payer m) ∧ AdmitsAll precision ms (book s) ∧
      play precision ms (book s) = { book plan'.state with
        tokens := (book s).tokens - plan'.stakePoolDrain - plan'.counterDelegatedResidueSub } := by
  obtain ⟨ms₀, hab₀, hadm₀, hplay₀⟩ := w.posted
  refine ⟨ms₀ ++ ms, ?_, ?_, ?_⟩
  · intro m hm
    rcases List.mem_append.mp hm with hm | hm
    · exact hab₀ m hm
    · exact hab m hm
  · rw [admitsAll_append, hplay₀]
    exact ⟨hadm₀, hadm⟩
  · rw [play_append, hplay₀, ← hplay, ht]

lemma operatorStake (w : Walk s payer plan)
    (h : plan.drawOperatorStake payer amount = .ok plan') : Walk s payer plan' := by
  obtain ⟨g, hg, hst, hle, hmin, hlt, hstate, -, hd, h1, h2, h3, h4, h5, h6, -⟩ :=
    drawOperatorStake_ok h
  obtain ⟨hown, hshares, hindex⟩ := book_gateway hg
  have hdrain := w.drain
  have hfits := w.fits
  have hadd : plan.counterStakedSub + amount < 2 ^ 64 := by linarith
  rw [saturatingAdd_of_lt hadd] at h4
  have hplay : { book plan'.state with tokens := (book s).tokens - plan.stakePoolDrain
      - plan.counterDelegatedResidueSub - amount } = play precision [.own payer (-amount)]
      { book plan.state with
        tokens := (book s).tokens - plan.stakePoolDrain - plan.counterDelegatedResidueSub } := by
    rw [hstate, book_mk, bookOf_gateway, bookOf_self]
    simp [Book.apply, Nat.cast_sub hle, ← hown, ← hshares, ← hindex, sub_eq_add_neg]
  have htot := congrArg Book.totalOwn hplay
  have htot' := congrArg Book.totalShares hplay
  have htot'' := congrArg Book.totalVault hplay
  simp only [play_cons, play_nil, totalOwn_apply, totalOwn_tokens, ownChange] at htot
  simp only [play_cons, play_nil, totalShares_apply, totalShares_tokens, sharesChange] at htot'
  simp only [play_cons, play_nil, totalVault_apply, totalVault_tokens, vaultChange] at htot''
  refine ⟨w.toTrack.operatorStake h, w.post (by simp [About]) ?_ hplay ?_, ?_, ?_, ?_, ?_, ?_,
    ?_, ?_⟩
  · simp only [AdmitsAll, Admits, hown, and_true]
    zify at hle
    linarith
  · rw [hd, h3]; push_cast; ring
  · rw [htot, w.totalOwn, h4]; push_cast; ring
  · rw [htot', w.totalShares, h1, h2, h3]; ring
  · rw [htot'', w.totalVault, h5]; ring
  · rw [hd, h1, h4, h5, hdrain]; ring
  · rw [hd]; exact hlt
  · rw [h6, h3]; exact w.residues
  · rw [h2]; exact w.covered

lemma withdrawal (w : Walk s payer plan)
    (h : plan.drawWithdrawal payer amount = .ok plan') : Walk s payer plan' := by
  obtain ⟨id, x, hx, hle, hlt, hstate, -, hd, h1, h2, h3, h4, h5, h6, -⟩ := drawWithdrawal_ok h
  have hvault := book_withdrawal hx
  have hdrain := w.drain
  have hfits := w.fits
  have hadd : plan.counterWithdrawnSub + amount < 2 ^ 64 := by linarith
  rw [saturatingAdd_of_lt hadd] at h5
  have hplay : { book plan'.state with tokens := (book s).tokens - plan.stakePoolDrain
      - plan.counterDelegatedResidueSub - amount } = play precision [.vault payer id (-amount)]
      { book plan.state with
        tokens := (book s).tokens - plan.stakePoolDrain - plan.counterDelegatedResidueSub } := by
    rw [hstate, book_mk, bookOf_withdrawal, bookOf_self]
    simp [Book.apply, Nat.cast_sub hle, hvault, sub_eq_add_neg]
  have htot := congrArg Book.totalOwn hplay
  have htot' := congrArg Book.totalShares hplay
  have htot'' := congrArg Book.totalVault hplay
  simp only [play_cons, play_nil, totalOwn_apply, totalOwn_tokens, ownChange] at htot
  simp only [play_cons, play_nil, totalShares_apply, totalShares_tokens, sharesChange] at htot'
  simp only [play_cons, play_nil, totalVault_apply, totalVault_tokens, vaultChange] at htot''
  refine ⟨w.toTrack.withdrawal h, w.post (by simp [About]) ?_ hplay ?_, ?_, ?_, ?_, ?_, ?_, ?_, ?_⟩
  · simp only [AdmitsAll, Admits, hvault, and_true]
    zify at hle
    linarith
  · rw [hd, h3]; push_cast; ring
  · rw [htot, w.totalOwn, h4]; ring
  · rw [htot', w.totalShares, h1, h2, h3]; ring
  · rw [htot'', w.totalVault, h5]; push_cast; ring
  · rw [hd, h1, h4, h5, hdrain]; ring
  · rw [hd]; exact hlt
  · rw [h6, h3]; exact w.residues
  · rw [h2]; exact w.covered

lemma delegation (hL : Ledger env s) (w : Walk s payer plan)
    (h : plan.drawDelegation payer amount = .ok plan') : Walk s payer plan' := by
  obtain ⟨k, g, d, residue, hg, hst, hd, hle, hlt, hstate, -, hdr, h1, h2, h4, h5, h3, -⟩ :=
    drawDelegation_ok h
  have hL' := w.ledger hL
  obtain ⟨hown, hshares, hindex⟩ := book_gateway hg
  have hd' : (plan.state.delegations (k, payer)).getD Delegation.zeroed = d := by simp [hd]
  obtain ⟨hprin, hmark⟩ := book_delegation hd'
  obtain ⟨hpend, hr, hrd⟩ := settleDelegateRewards_spec hL'.solvent hL'.tokens_lt hg hd'
  simp only [hr, hrd] at hstate hle
  have hle' := hL'.settled_amount_le hg hd' hle
  have hpend₂ := hpend
  rw [Book.pending] at hpend₂
  have hdrain := w.drain
  have hplay : { book plan'.state with tokens := (book s).tokens - plan.stakePoolDrain
      - plan.counterDelegatedResidueSub - (amount + residue) } = play precision
      [.settle k payer, .share k payer (-(amount + residue))] { book plan.state with
        tokens := (book s).tokens - plan.stakePoolDrain - plan.counterDelegatedResidueSub } := by
    rw [hstate, book_mk, bookOf_gateway, bookOf_delegation, bookOf_self]
    simp [Book.apply, pending_mk, hpend₂, Nat.cast_sub hle, Nat.cast_sub hle', ← hown, ← hshares,
      ← hindex, ← hprin, sub_eq_add_neg]
  have hadm : AdmitsAll precision [.settle k payer, .share k payer (-(amount + residue))]
      { book plan.state with tokens := (book s).tokens - plan.stakePoolDrain
        - plan.counterDelegatedResidueSub } := by
    simp only [AdmitsAll, Admits, Book.apply, Function.update_self, pending_mk, and_true, true_and]
    rw [← hpend₂, hprin]
    zify at hle
    linarith
  have hsol := w.solvent hL
  have hsol' := hsol.play precision_pos hadm
  rw [← hplay] at hsol'
  have hnn := (hsol'.totals_nonneg precision_pos).2.1
  have htot := congrArg Book.totalOwn hplay
  have htot' := congrArg Book.totalShares hplay
  have htot'' := congrArg Book.totalVault hplay
  simp only [play_cons, play_nil, totalOwn_apply, totalOwn_tokens, ownChange] at htot
  simp only [play_cons, play_nil, totalShares_apply, totalShares_tokens, sharesChange, pending_mk,
    ← hpend₂] at htot'
  simp only [play_cons, play_nil, totalVault_apply, totalVault_tokens, vaultChange] at htot''
  rw [totalShares_tokens, htot', w.totalShares] at hnn
  have hcov : (book s).totalShares + plan.counterDelegatedAdd
      + (settleDelegateRewards g d).settled ≤ (book s).tokens := by
    have hone := hsol.pending_le_total precision_pos k payer
    rw [pending_mk, ← hpend₂] at hone
    have hsum := hsol.rounded precision_pos
    obtain ⟨n1, n2, n3, n4⟩ := hsol.totals_nonneg precision_pos
    rw [totalShares_tokens, w.totalShares] at hsum
    have : (plan.stakePoolDrain : ℤ) = plan.counterDelegatedSub + plan.counterStakedSub
      + plan.counterWithdrawnSub := by exact_mod_cast hdrain
    simp only at hsum
    linarith
  have htok := hL.tokens_lt
  have hn0 := (hL.solvent.totals_nonneg precision_pos).2.1
  have hadd : plan.counterDelegatedAdd + (settleDelegateRewards g d).settled < 2 ^ 64 := by
    zify; linarith
  have hsub : plan.counterDelegatedSub + amount < 2 ^ 64 := by linarith
  have hres : plan.counterDelegatedResidueSub + residue < 2 ^ 64 := by
    zify; linarith
  rw [saturatingAdd_of_lt hsub] at h1
  rw [saturatingAdd_of_lt hadd] at h2
  rw [saturatingAdd_of_lt hres] at h3
  have hres' : plan'.counterDelegatedResidueSub = plan.counterDelegatedResidueSub + residue ∧
      (plan'.residueTargets.map (·.2)).sum = (plan.residueTargets.map (·.2)).sum + residue := by
    rcases h3 with ⟨rfl, -, h3, h6⟩ | ⟨-, -, -, h3, h6⟩
    · exact ⟨h3, by rw [h6]; rfl⟩
    · exact ⟨h3, by rw [h6]; simp⟩
  obtain ⟨h3, h6⟩ := hres'
  refine ⟨w.toTrack.delegation h, w.post (by simp [About]) hadm hplay ?_, ?_, ?_, ?_, ?_, ?_,
    ?_, ?_⟩
  · rw [hdr, h3]; push_cast; ring
  · rw [htot, w.totalOwn, h4]; ring
  · rw [htot', w.totalShares, h1, h2, h3]; push_cast; ring
  · rw [htot'', w.totalVault, h5]; ring
  · rw [hdr, h1, h4, h5, hdrain]; ring
  · rw [hdr]; exact hlt
  · rw [h6, h3, w.residues]
  · rw [h2]; push_cast; linarith

lemma balance {b : Bool} (w : Walk s payer plan)
    (h : plan.drawBalance b amount = .ok plan') : Walk s payer plan' := by
  simp only [FundingPlan.drawBalance, bind_eq_ok, require_eq_ok, add64_eq_ok, pure_eq_ok,
    exists_const] at h
  obtain ⟨-, _, -, rfl⟩ := h
  exact ⟨⟨w.quiet, w.settings, w.tokens, w.gateways, w.withdrawals⟩, w.posted, w.totalOwn,
    w.totalShares, w.totalVault, w.drain, w.fits, w.residues, w.covered⟩

lemma draw {b : Bool} {source : FundingSourceSpec} (hL : Ledger env s) (w : Walk s payer plan)
    (h : plan.draw payer b source = .ok plan') : Walk s payer plan' := by
  unfold FundingPlan.draw at h
  split at h
  · exact w.balance h
  · exact w.delegation hL h
  · exact w.operatorStake h
  · exact w.withdrawal h

lemma drawAll {b : Bool} {sources : List FundingSourceSpec} (hL : Ledger env s)
    (w : Walk s payer plan) (h : FundingPlan.drawAll payer b sources plan = .ok plan') :
    Walk s payer plan' := by
  induction sources generalizing plan with
  | nil =>
    obtain rfl := pure_eq_ok.mp h
    exact w
  | cons source sources ih =>
    simp only [FundingPlan.drawAll, bind_eq_ok] at h
    obtain ⟨p, hp, h⟩ := h
    exact ih (w.draw hL hp) h

end Walk

/-! ### Residue vaults -/

/-- Creating the residue vaults adds their amounts to the vaults of the payer. -/
lemma createResidueVaults_ok {targets : List (Pubkey × ℕ)} {rest rest' : List AccountMeta}
    (h : createResidueVaults clock payer targets (s, rest) = .ok (s', rest')) :
    ∃ ms, (∀ m ∈ ms, About id payer m) ∧
      (∀ b : Book Pubkey Pubkey WithdrawalId, (∀ v, 0 ≤ b.vault v) → AdmitsAll precision ms b) ∧
      (∀ t, { book s' with tokens := t + (targets.map (·.2)).sum }
        = play precision ms { book s with tokens := t }) ∧
      (book s').totalVault = (book s).totalVault + (targets.map (·.2)).sum ∧
      (∃ counters W, s' = { s with withdrawalCounters := counters, withdrawals := W } ∧
        ((∀ u id w, s.withdrawals (u, id) = some w → w.Own u) →
          ∀ u id w, W (u, id) = some w → w.Own u)) := by
  induction targets generalizing s rest with
  | nil =>
    obtain ⟨rfl, rfl⟩ := Prod.mk.inj (pure_eq_ok.mp h)
    refine ⟨[], by simp, fun _ _ => trivial, by simp, by simp, s.withdrawalCounters, s.withdrawals,
      rfl, id⟩
  | cons target targets ih =>
    obtain ⟨k, residue⟩ := target
    cases rest with
    | nil => simp [createResidueVaults] at h
    | cons info rest =>
      simp only [createResidueVaults, bind_eq_ok, WithdrawalId.next_eq_ok, require_eq_ok,
        addTime_eq_ok, exists_const, Option.isNone_iff_eq_none] at h
      obtain ⟨nextId, -, -, hnone, -, _, ⟨-, rfl⟩, h⟩ := h
      obtain ⟨ms, hab, hadm, hplay, htot, counters, W, hs', hown⟩ := ih h
      have hvault := book_no_withdrawal hnone
      refine ⟨.vault payer (loadCounter s payer).nextId residue :: ms, ?_, ?_, ?_, ?_, counters, W,
        hs', fun hw => hown ?_⟩
      · intro m hm
        rcases List.mem_cons.mp hm with rfl | hm
        · simp [About]
        · exact hab m hm
      · intro b hb
        have h0 : 0 ≤ b.vault (payer, (loadCounter s payer).nextId) + residue := by
          have := hb (payer, (loadCounter s payer).nextId)
          linarith
        exact ⟨h0, hadm _ (nonneg_update hb h0)⟩
      · intro t
        rw [play_cons, List.map_cons, List.sum_cons, Nat.cast_add, ← add_assoc, hplay]
        congr 1
        simp only [State.setCounter, State.setWithdrawal]
        rw [book_mk, bookOf_withdrawal, bookOf_self]
        simp [Book.apply, hvault]
      · rw [htot]
        simp only [State.setCounter, State.setWithdrawal]
        rw [book_mk, bookOf_withdrawal, bookOf_self, totalVault, totalVault]
        simp [hvault]
        ring
      · exact own_update hw fun w hw' => by cases hw'; rintro ⟨⟩

lemma foldl_saturatingAdd {targets : List (Pubkey × ℕ)} {a : ℕ}
    (h : a + (targets.map (·.2)).sum < 2 ^ 64) :
    targets.foldl (fun sum target => saturatingAdd 64 sum target.2) a
      = a + (targets.map (·.2)).sum := by
  induction targets generalizing a with
  | nil => rfl
  | cons target targets ih =>
    simp only [List.map_cons, List.sum_cons] at h
    have hhead : a + target.2 < 2 ^ 64 := by omega
    rw [List.foldl_cons, saturatingAdd_of_lt hhead, ih (by omega)]
    simp [add_assoc]

/-! ### The instruction -/

lemma payBalance_ok {pta : Option Pubkey} {q : Pubkey}
    (h : payBalance payer pta q amount s = .ok s') :
    ∃ t, s' = { s with tokens := t } ∧
      (t = s.tokens ∨ ∃ a, Tokens.Transferred s.tokens t a q payer amount) := by
  unfold payBalance at h
  split at h
  · simp only [bind_eq_ok, okOr_eq_ok, splTransfer_eq_ok] at h
    obtain ⟨a, -, t, ht, rfl⟩ := h
    exact ⟨t, rfl, .inr ⟨a, Tokens.transfer_ok ht⟩⟩
  · obtain rfl := pure_eq_ok.mp h
    exact ⟨s.tokens, rfl, .inl rfl⟩

/-- Paying keeps the terms and the supply. -/
lemma paid_kept {t t' : Tokens} {a b c q : Pubkey} {n m : ℕ} (ht : s.tokens.Moved t a b c n)
    (htr : t' = t ∨ ∃ k, Tokens.Transferred t t' k q payer m) :
    t'.terms = s.tokens.terms ∧ ∀ mint, t'.supply mint = s.tokens.supply mint := by
  rcases htr with rfl | ⟨k, htr⟩
  · exact ⟨ht.terms_eq, fun mint => ht.supply_eq⟩
  · exact ⟨htr.terms_eq.trans ht.terms_eq,
      fun mint => (Tokens.supply_of_transferred htr).trans ht.supply_eq⟩

/-- The pool pays what was drawn on it, and the payer's own account is another one. -/
lemma paid_pool {t t' : Tokens} {c : Pubkey} {n m : ℕ} (hL : Ledger env s) (hu : env.CanSign payer)
    (ht : s.tokens.Moved t s.settings.stakeTokenAccount s.settings.protocolTokenAccount c n)
    (htr : t' = t ∨
      ∃ k, Tokens.Transferred t t' k s.settings.protocolTokenAccount payer m) :
    (t'.balance s.settings.stakeTokenAccount : ℤ) = (book s).tokens - n := by
  have hpay := ht.balance_eq s.settings.stakeTokenAccount
  rw [if_neg hL.treasury_ne_pool.symm, if_pos rfl, balance_eq] at hpay
  rcases htr with rfl | ⟨k, htr⟩
  · linarith
  · have hne : k ≠ s.settings.stakeTokenAccount := by
      rintro rfl
      obtain ⟨src, hsrc, hauth, -⟩ := htr.source_exists
      have hp := hL.pool
      rw [← ht.terms_eq, Tokens.terms, hsrc, Option.map_some] at hp
      simp only [Option.some.injEq, Prod.mk.injEq] at hp
      exact hu.2.1 (hauth.trans hp.2)
    rw [htr.balance_eq, if_neg hL.treasury_ne_pool.symm, if_neg hne.symm]
    linarith

/-- Nothing that a plan adds to exact counters or takes from them leaves the word. -/
lemma Walk.within (hL : Ledger env s) (w : Walk s payer plan) (he : Exact s) :
    s.settings.totalDelegated + plan.counterDelegatedAdd < 2 ^ 64 ∧
    plan.counterDelegatedSub + plan.counterDelegatedResidueSub
      ≤ s.settings.totalDelegated + plan.counterDelegatedAdd ∧
    plan.counterStakedSub ≤ s.settings.totalStaked ∧
    plan.counterWithdrawnSub ≤ s.settings.totalWithdrawn ∧
    plan.residueTargets.foldl (fun sum target => saturatingAdd 64 sum target.2) 0
      = plan.counterDelegatedResidueSub := by
  have h1 := he.staked
  have h2 := he.delegated
  have h3 := he.withdrawn
  obtain ⟨n1, n2, n3, -⟩ := (w.ledger hL).solvent.totals_nonneg precision_pos
  rw [w.totalOwn] at n1
  rw [w.totalShares] at n2
  rw [w.totalVault] at n3
  have hlt := hL.tokens_lt
  have hcov := w.covered
  have hadd : s.settings.totalDelegated + plan.counterDelegatedAdd < 2 ^ 64 := by
    zify; linarith
  have hsub : plan.counterDelegatedSub + plan.counterDelegatedResidueSub
      ≤ s.settings.totalDelegated + plan.counterDelegatedAdd := by zify; linarith
  have hown : plan.counterStakedSub ≤ s.settings.totalStaked := by zify; linarith
  have hwith : plan.counterWithdrawnSub ≤ s.settings.totalWithdrawn := by zify; linarith
  refine ⟨hadd, hsub, hown, hwith, ?_⟩
  rw [foldl_saturatingAdd (by rw [zero_add, w.residues]; linarith), zero_add, w.residues]

lemma payFromFundingPlan_footprint {p q : Pubkey} {pta : Option Pubkey}
    {remaining : List AccountMeta} {sources : List FundingSourceSpec} {total count : ℕ}
    (hF : Footing env s)
    (h : payFromFundingPlan env clock payer p q pta remaining sources total count s = .ok s') :
    Footprint s s' ∧ Quiet s s' := by
  simp only [payFromFundingPlan, bind_eq_ok, checkPaymentAccounts_eq_ok, require_eq_ok,
    splTransferNonzero_eq_ok, add64_eq_ok, pure_eq_ok, exists_const, Prod.exists] at h
  obtain ⟨⟨rfl, rfl, -, -⟩, -, -, -, -, -, _, -, -, plan, hplan, -, s₁, ⟨t, ht, rfl⟩, s₂, hbal,
    s₃, rest, hvaults, rfl, _, ⟨-, rfl⟩, rfl⟩ := h
  have w := (Track.start hF).drawAll hplan
  obtain ⟨t', rfl, htr⟩ := payBalance_ok hbal
  obtain ⟨-, -, -, -, -, counters, W, rfl, hown⟩ := createResidueVaults_ok hvaults
  rw [w.tokens] at ht
  have hkept := paid_kept ht htr
  refine ⟨⟨w.gateways, hown w.withdrawals, ?_, hkept.1, hkept.2⟩,
    w.quiet.trans ⟨rfl, rfl, rfl, rfl, rfl, rfl, rfl⟩⟩
  simp only [State.setCounter, w.settings]
  rfl

theorem payFromFundingPlan_effect {p q : Pubkey} {pta : Option Pubkey}
    {remaining : List AccountMeta} {sources : List FundingSourceSpec} {total count : ℕ}
    (hL : Ledger env s) (hu : env.CanSign payer)
    (h : payFromFundingPlan env clock payer p q pta remaining sources total count s = .ok s') :
    Effect s s' payer := by
  have hfoot := (payFromFundingPlan_footprint hL.footing h).1
  simp only [payFromFundingPlan, bind_eq_ok, checkPaymentAccounts_eq_ok, require_eq_ok,
    splTransferNonzero_eq_ok, add64_eq_ok, pure_eq_ok, exists_const, Prod.exists] at h
  obtain ⟨⟨rfl, rfl, -, -⟩, -, -, -, -, -, _, -, -, plan, hplan, -, s₁, ⟨t, ht, rfl⟩, s₂, hbal,
    s₃, rest, hvaults, rfl, _, ⟨htw, rfl⟩, rfl⟩ := h
  have w := (Walk.start hL).drawAll hL hplan
  obtain ⟨t', rfl, htr⟩ := payBalance_ok hbal
  obtain ⟨ms₂, hab₂, hadm₂, hplay₂, htot₂, counters, W, hs₃, hown⟩ := createResidueVaults_ok hvaults
  obtain ⟨ms₁, hab₁, hadm₁, hplay₁⟩ := w.posted
  obtain ⟨htok, hset⟩ := And.intro w.tokens w.settings
  rw [htok] at ht
  have hpool := paid_pool hL hu ht htr
  have hG : s₃.gateways = plan.state.gateways := by rw [hs₃]; rfl
  have hD : s₃.delegations = plan.state.delegations := by rw [hs₃]; rfl
  have hset₃ : s₃.settings = s.settings := by rw [hs₃]; exact hset
  have htok₃ : s₃.tokens = t' := by rw [hs₃]; rfl
  set settings' : GatewaySettings := { s₃.settings with
    totalDelegated := saturatingSub (saturatingSub (saturatingAdd 64 s₃.settings.totalDelegated
      plan.counterDelegatedAdd) plan.counterDelegatedSub) plan.counterDelegatedResidueSub
    totalStaked := saturatingSub s₃.settings.totalStaked plan.counterStakedSub
    totalWithdrawn := saturatingSub s₃.settings.totalWithdrawn plan.counterWithdrawnSub
      + plan.residueTargets.foldl (fun sum target => saturatingAdd 64 sum target.2) 0 } with hdef
  have hbook : book { s₃ with settings := settings' } = play precision (ms₁ ++ ms₂) (book s) := by
    have hpre := book_congr plan.state (State.setCounter { plan.state with tokens := t' } payer
      (loadCounter { plan.state with tokens := t' } payer)) rfl rfl rfl
    rw [play_append, hplay₁, ← hpre, ← hplay₂]
    have htokens : (book { s₃ with settings := settings' }).tokens = (book s).tokens
        - plan.stakePoolDrain - plan.counterDelegatedResidueSub
        + ((plan.residueTargets.map (·.2)).sum : ℕ) := by
      rw [← balance_eq, w.residues]
      have : settings'.stakeTokenAccount = s.settings.stakeTokenAccount := by
        rw [hdef, hset₃]
      simp only [this, htok₃, hpool]
      ring
    calc book { s₃ with settings := settings' }
        = { book { s₃ with settings := settings' } with
            tokens := (book { s₃ with settings := settings' }).tokens } := rfl
      _ = _ := by
        rw [htokens]
        exact book_congr s₃ { s₃ with settings := settings' } rfl rfl rfl _
  obtain ⟨htot, htot'⟩ := totals_congr plan.state { s₃ with settings := settings' } hG
  have hvault : (book { s₃ with settings := settings' }).totalVault = (book plan.state).totalVault
      + plan.counterDelegatedResidueSub := by
    have h1 := congrArg Book.totalVault
      (book_congr s₃ { s₃ with settings := settings' } rfl rfl rfl 0)
    have h2 := congrArg Book.totalVault (book_congr plan.state (State.setCounter
      { plan.state with tokens := t' } payer (loadCounter { plan.state with tokens := t' } payer))
      rfl rfl rfl 0)
    simp only [totalVault_tokens] at h1 h2
    rw [h1, htot₂, h2, w.residues]
  refine ⟨hfoot, ⟨ms₁ ++ ms₂, ?_, ?_, hbook⟩, ?_⟩
  · intro m hm
    rcases List.mem_append.mp hm with hm | hm
    · exact hab₁ m hm
    · exact hab₂ m hm
  · rw [admitsAll_append]
    have hsol := hL.solvent.play precision_pos hadm₁
    exact ⟨hadm₁, hadm₂ _ hsol.vault_nonneg⟩
  · intro he
    have h1 := he.staked
    have h2 := he.delegated
    have h3 := he.withdrawn
    obtain ⟨hadd, hsub, hown, hwith, hfold⟩ := w.within hL he
    refine ⟨?_, ?_, ?_⟩
    · rw [htot, w.totalOwn, ← h1]
      simp only [hdef, hset₃, saturatingSub, Nat.cast_sub hown]
    · rw [htot', w.totalShares, ← h2]
      simp only [hdef, hset₃, saturatingSub, saturatingAdd_of_lt hadd, Nat.sub_sub,
        Nat.cast_sub hsub]
      push_cast
      ring
    · rw [hvault, w.totalVault, ← h3]
      simp only [hdef, hset₃, saturatingSub, hfold]
      push_cast [Nat.cast_sub hwith]
      ring

end Gar
end ArioSolana
