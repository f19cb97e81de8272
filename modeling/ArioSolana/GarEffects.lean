import ArioSolana.GarSpecs

/-!
# Effects of the stake instructions

Each instruction on stake is described once more, in the terms of the ledger: the moves it
posts, all of them about one person, that the supply counters stay exact, and that it touches
nothing but stake (`Quiet`).
-/

namespace ArioSolana
namespace Gar

open Checked Solana Book Finset

-- settled amounts are never computed here
attribute [local irreducible] book settleDelegateRewards Book.pending

/-! ### Effects -/

/-- What an instruction leaves standing, whatever the gateways count for their delegates. -/
structure Footprint (s s' : State) : Prop where
  gateways : ∀ k g, s'.gateways k = some g → g.Sound s.settings.minOperatorStake
  withdrawals : ∀ u id w, s'.withdrawals (u, id) = some w → w.Own u
  kept : Kept s s'

/-- What an instruction on the stake of one person does to the ledger. -/
structure Effect (s s' : State) (who : Pubkey) : Prop extends Footprint s s' where
  posted : ∃ ms, (∀ m ∈ ms, About id who m) ∧ AdmitsAll precision ms (book s) ∧
    book s' = play precision ms (book s)
  exact : Exact s → Exact s'

/-- The part of a gateway that is neither stake nor description. -/
structure Shell where
  operator : Pubkey
  status : GatewayStatus
  startTimestamp : ℤ
  leaveTimestamp : Option ℤ
  leaveEpochDuration : ℤ
  stats : GatewayStats
  weights : GatewayWeights
  registryIndex : ℕ
  observerAddress : Pubkey
  delegateRewardShareRatio : ℕ

def Gateway.shell (g : Gateway) : Shell :=
  ⟨g.operator, g.status, g.startTimestamp, g.leaveTimestamp, g.leaveEpochDuration, g.stats,
    g.weights, g.registryIndex, g.observerAddress, g.settings.delegateRewardShareRatio⟩

def State.shells (s : State) (k : Pubkey) : Option Shell := (s.gateways k).map Gateway.shell

/-- Nothing about the registry and the epochs changed. -/
structure Quiet (s s' : State) : Prop where
  registry : s'.registry = s.registry
  epochSettings : s'.epochSettings = s.epochSettings
  epochs : s'.epochs = s.epochs
  epochRentReceipts : s'.epochRentReceipts = s.epochRentReceipts
  observations : s'.observations = s.observations
  observerLookups : s'.observerLookups = s.observerLookups
  shells : s'.shells = s.shells

lemma Quiet.refl (s : State) : Quiet s s := ⟨rfl, rfl, rfl, rfl, rfl, rfl, rfl⟩

lemma Quiet.trans {s s' s'' : State} (h : Quiet s s') (h' : Quiet s' s'') : Quiet s s'' :=
  ⟨h'.registry.trans h.registry, h'.epochSettings.trans h.epochSettings,
    h'.epochs.trans h.epochs, h'.epochRentReceipts.trans h.epochRentReceipts,
    h'.observations.trans h.observations, h'.observerLookups.trans h.observerLookups,
    h'.shells.trans h.shells⟩

section

variable {s s' : State} {k : Pubkey} {g g' : Gateway} {G : Pubkey → Option Gateway}

lemma shells_update (hg : s.gateways k = some g)
    (hG : s'.gateways = Function.update s.gateways k (some g')) (hs : g'.shell = g.shell) :
    s'.shells = s.shells := by
  funext i
  rw [State.shells, State.shells, hG]
  by_cases hi : i = k
  · subst hi; simp [hg, hs]
  · simp [hi]

lemma sound_update {m : ℕ} (h : ∀ k g, G k = some g → g.Sound m) (hg : g'.Sound m) :
    ∀ i x, Function.update G k (some g') i = some x → x.Sound m := by
  intro i x hx
  by_cases hi : i = k
  · subst hi
    obtain rfl : g' = x := by simpa using hx
    exact hg
  · exact h i x (by simpa [hi] using hx)

lemma Gateway.Sound.counts {m n : ℕ} (h : g.Sound m) :
    { g with totalDelegatedStake := n }.Sound m :=
  ⟨⟨h.floor, h.departed, h.word, h.share⟩, h.stakeWord⟩

lemma Gateway.Sound.lessStake {m amount : ℕ} (h : g.Sound m)
    (hfloor : g.status = .joined → m ≤ g.operatorStake - amount) :
    { g with operatorStake := g.operatorStake - amount }.Sound m :=
  ⟨⟨hfloor, fun hne => by simp [h.departed hne], h.word, h.share⟩,
    (Nat.sub_le _ _).trans_lt h.stakeWord⟩

lemma Gateway.Sound.moreStake {m amount : ℕ} (h : g.Sound m) (hst : g.status = .joined)
    (hfits : g.operatorStake + amount < 2 ^ 64) :
    { g with operatorStake := g.operatorStake + amount }.Sound m :=
  ⟨⟨fun hj => (h.floor hj).trans (Nat.le_add_right _ _), fun hne => absurd hst hne, h.word,
    h.share⟩,
    hfits⟩

lemma own_update {W : Pubkey × WithdrawalId → Option Withdrawal} {o : Pubkey} {i : WithdrawalId}
    {v : Option Withdrawal} (h : ∀ u id w, W (u, id) = some w → w.Own u)
    (hv : ∀ w, v = some w → w.Own o) :
    ∀ u id w, Function.update W (o, i) v (u, id) = some w → w.Own u := by
  intro u id w hw
  by_cases hk : (u, id) = (o, i)
  · obtain ⟨rfl, rfl⟩ := Prod.mk.inj hk
    exact hv w (by simpa using hw)
  · exact h u id w (by simpa [hk] using hw)

end

variable {env : Env} {s s' : State} {clock : ℤ} {k a p q u : Pubkey} {amount : ℕ}
  {id : WithdrawalId} {remaining : List AccountMeta}

/-! ### Operator stake -/

lemma increaseOperatorStake_footprint (hF : Footing env s)
    (h : increaseOperatorStake k a p amount s = .ok s') : Footprint s s' ∧ Quiet s s' := by
  have hfits := increaseOperatorStake_fits h
  obtain ⟨g, t, hg, hst, -, -, ht, rfl⟩ := increaseOperatorStake_ok h
  refine ⟨⟨?_, hF.withdrawals, .of_transferred rfl (Tokens.transfer_ok ht)⟩,
    ⟨rfl, rfl, rfl, rfl, rfl, rfl, shells_update hg rfl (by simp only [Gateway.shell])⟩⟩
  exact sound_update hF.gateways ((hF.gateways _ _ hg).moreStake hst (hfits g hg))

theorem increaseOperatorStake_effect (hL : Ledger env s) (hu : env.CanSign k)
    (h : increaseOperatorStake k a p amount s = .ok s') : Effect s s' k := by
  obtain ⟨g, t, hg, hst, -, ha, ht, hs'⟩ := increaseOperatorStake_ok h
  obtain ⟨hown, hshares, hindex⟩ := book_gateway hg
  have htr := Tokens.transfer_ok ht
  have hbal := deposit (hL.wallet_ne_pool hu ha) htr
  have hbook : book s' = play precision [.own k amount] (book s) := by
    rw [hs', book_mk, bookOf_gateway, bookOf_self]
    simp [Book.apply, hbal, ← hown, ← hshares, ← hindex]
  refine ⟨(increaseOperatorStake_footprint hL.footing h).1, ⟨_, by simp [About], ?_, hbook⟩, ?_⟩
  · have := hL.solvent.own_nonneg k
    simp only [AdmitsAll, Admits, and_true]
    omega
  · rintro ⟨h1, h2, h3⟩
    refine ⟨?_, ?_, ?_⟩ <;> rw [hbook, hs'] <;>
      simp [ownChange, sharesChange, vaultChange] <;> linarith

lemma decreaseOperatorStake_footprint (hF : Footing env s)
    (h : decreaseOperatorStake clock k amount s = .ok s') : Footprint s s' ∧ Quiet s s' := by
  obtain ⟨g, nextId, hg, -, -, hfloor, -, -, rfl⟩ := decreaseOperatorStake_ok h
  refine ⟨⟨?_, ?_, .of_fixed rfl rfl⟩,
    ⟨rfl, rfl, rfl, rfl, rfl, rfl, shells_update hg rfl (by simp only [Gateway.shell])⟩⟩
  · exact sound_update hF.gateways ((hF.gateways _ _ hg).lessStake hfloor)
  · exact own_update hF.withdrawals fun w hw => by cases hw; exact fun _ => rfl

theorem decreaseOperatorStake_effect (hL : Ledger env s)
    (h : decreaseOperatorStake clock k amount s = .ok s') : Effect s s' k := by
  obtain ⟨g, nextId, hg, hpos, hle, hfloor, hnone, -, hs'⟩ := decreaseOperatorStake_ok h
  obtain ⟨hown, hshares, hindex⟩ := book_gateway hg
  have hvault := book_no_withdrawal hnone
  have hbook : book s' = play precision
      [.own k (-amount), .vault k (loadCounter s k).nextId amount] (book s) := by
    rw [hs', book_mk, bookOf_gateway, bookOf_withdrawal, bookOf_self]
    simp [Book.apply, hvault, Nat.cast_sub hle, ← hown, ← hshares, ← hindex, balance_eq,
      sub_eq_add_neg]
  refine ⟨(decreaseOperatorStake_footprint hL.footing h).1, ⟨_, by simp [About], ?_, hbook⟩, ?_⟩
  · simp only [AdmitsAll, Admits, Book.apply, hown, hvault, and_true]
    omega
  · intro he
    have h1 := he.staked
    have h2 := he.delegated
    have h3 := he.withdrawn
    have hle' := hle.trans (he.staked_le hL hg)
    refine ⟨?_, ?_, ?_⟩ <;> rw [hbook, hs'] <;>
      simp [ownChange, sharesChange, vaultChange, saturatingSub, Nat.cast_sub hle'] <;> linarith

/-! ### Delegated stake -/

lemma delegateStake_footprint (hF : Footing env s)
    (h : delegateStake clock u k a p remaining amount s = .ok s') :
    Footprint s s' ∧ Quiet s s' := by
  obtain ⟨g, d, t, hg, -, -, -, -, ht, rfl⟩ := delegateStake_ok h
  obtain ⟨n, hn⟩ := settled_gateway g d
  refine ⟨⟨?_, hF.withdrawals, .of_transferred rfl (Tokens.transfer_ok ht)⟩,
    ⟨rfl, rfl, rfl, rfl, rfl, rfl, shells_update hg rfl (by simp only [hn, Gateway.shell])⟩⟩
  simp only [hn]
  exact sound_update hF.gateways (hF.gateways _ _ hg).counts

theorem delegateStake_effect (hL : Ledger env s) (hu : env.CanSign u)
    (h : delegateStake clock u k a p remaining amount s = .ok s') :
    Effect s s' u := by
  obtain ⟨g, d, t, hg, hd, hst, -, ha, ht, hs'⟩ := delegateStake_ok h
  obtain ⟨hown, hshares, hindex⟩ := book_gateway hg
  obtain ⟨hprin, hmark⟩ := book_delegation hd
  obtain ⟨hpend, hr, hrd⟩ := settleDelegateRewards_spec hL.solvent hL.tokens_lt hg hd
  have htr := Tokens.transfer_ok ht
  have hbal := deposit (hL.wallet_ne_pool hu ha) htr
  simp only [hr, hrd] at hs'
  have hbook : book s' = play precision [.settle k u, .share k u amount] (book s) := by
    rw [hs', book_mk, bookOf_gateway, bookOf_delegation, bookOf_self]
    simp [Book.apply, hbal, hpend, ← hown, ← hshares, ← hindex, ← hprin]
  have hp := hL.solvent.pending_nonneg precision_pos k u
  refine ⟨(delegateStake_footprint hL.footing h).1, ⟨_, by simp [About], ?_, hbook⟩, ?_⟩
  · simp only [AdmitsAll, Admits, Book.apply, Function.update_self, hprin, and_true, true_and]
    omega
  · rintro ⟨h1, h2, h3⟩
    refine ⟨?_, ?_, ?_⟩ <;> rw [hbook, hs'] <;>
      simp [ownChange, sharesChange, vaultChange] <;> linarith

lemma Vaults.footprint (hF : Footing env s) (h : Vaults clock u k s s') :
    Footprint s s' ∧ Quiet s s' := by
  obtain ⟨g, d, amount, hg, -, -, -, h⟩ := h
  obtain ⟨nextId, -, -, rfl⟩ := vaultDelegation_ok h
  obtain ⟨n, hn⟩ := settled_gateway g d
  refine ⟨⟨?_, ?_, .of_fixed rfl rfl⟩,
    ⟨rfl, rfl, rfl, rfl, rfl, rfl, shells_update hg rfl (by simp only [hn, Gateway.shell])⟩⟩
  · simp only [hn]
    exact sound_update hF.gateways (hF.gateways _ _ hg).counts
  · exact own_update hF.withdrawals fun w hw => by cases hw; rintro ⟨⟩

theorem Vaults.effect (hL : Ledger env s) (h : Vaults clock u k s s') : Effect s s' u := by
  have hfoot := (h.footprint hL.footing).1
  obtain ⟨g, d, amount, hg, hd, hpos, hle, h⟩ := h
  obtain ⟨nextId, hnone, -, hs'⟩ := vaultDelegation_ok h
  obtain ⟨hown, hshares, hindex⟩ := book_gateway hg
  have hd' : (s.delegations (k, u)).getD Delegation.zeroed = d := by simp [hd]
  obtain ⟨hprin, hmark⟩ := book_delegation hd'
  obtain ⟨hpend, hr, hrd⟩ := settleDelegateRewards_spec hL.solvent hL.tokens_lt hg hd'
  have hvault := book_no_withdrawal hnone
  simp only [hr, hrd] at hs' hle
  have hle' := hL.settled_amount_le hg hd' hle
  have hbook : book s' = play precision
      [.settle k u, .share k u (-amount), .vault u (loadCounter s u).nextId amount] (book s) := by
    rw [hs', book_mk, bookOf_gateway, bookOf_delegation, bookOf_withdrawal, bookOf_self]
    simp [Book.apply, hvault, hpend, Nat.cast_sub hle, Nat.cast_sub hle', ← hown, ← hshares,
      ← hindex, ← hprin, balance_eq, sub_eq_add_neg]
  have hp := hL.solvent.pending_nonneg precision_pos k u
  refine ⟨hfoot, ⟨_, by simp [About], ?_, hbook⟩, ?_⟩
  · simp only [AdmitsAll, Admits, Book.apply, Function.update_self, hprin, hvault, and_true,
      true_and]
    omega
  · intro he
    have h1 := he.staked
    have h2 := he.delegated
    have h3 := he.withdrawn
    have hlt := he.settled_lt hL hg hd'
    have hsub := hle'.trans (Nat.add_le_add_right (he.delegated_le hL hg) _)
    refine ⟨?_, ?_, ?_⟩ <;> rw [hbook, hs'] <;>
      simp [ownChange, sharesChange, vaultChange, saturatingSub, saturatingAdd_of_lt hlt,
        Nat.cast_sub hsub] <;> linarith

lemma closeEmptyDelegation_footprint (hF : Footing env s)
    (h : closeEmptyDelegation u k s = .ok s') : Footprint s s' ∧ Quiet s s' := by
  obtain ⟨g, d, hg, -, -, rfl⟩ := closeEmptyDelegation_ok h
  exact ⟨⟨sound_update hF.gateways (hF.gateways _ _ hg), hF.withdrawals, .of_fixed rfl rfl⟩,
    ⟨rfl, rfl, rfl, rfl, rfl, rfl, shells_update hg rfl rfl⟩⟩

theorem closeEmptyDelegation_effect (hL : Ledger env s)
    (h : closeEmptyDelegation u k s = .ok s') : Effect s s' u := by
  obtain ⟨g, d, hg, hd, h0, hs'⟩ := closeEmptyDelegation_ok h
  obtain ⟨hown, hshares, hindex⟩ := book_gateway hg
  have hd' : (s.delegations (k, u)).getD Delegation.zeroed = d := by simp [hd]
  obtain ⟨hprin, -⟩ := book_delegation hd'
  rw [h0, Nat.cast_zero] at hprin
  have hbook : book s' = play precision [.remark k u 0] (book s) := by
    rw [hs', book_mk, bookOf_gateway, bookOf_delegation, bookOf_self]
    simp [Book.apply, ← hown, ← hshares, ← hindex, balance_eq, hprin]
  refine ⟨(closeEmptyDelegation_footprint hL.footing h).1, ⟨_, by simp [About], ?_, hbook⟩, ?_⟩
  · simpa [AdmitsAll, Admits] using hprin
  · rintro ⟨h1, h2, h3⟩
    refine ⟨?_, ?_, ?_⟩ <;> rw [hbook, hs'] <;>
      simp [ownChange, sharesChange, vaultChange] <;> linarith

lemma compoundDelegationRewards_footprint (hF : Footing env s)
    (h : compoundDelegationRewards u k s = .ok s') : Footprint s s' ∧ Quiet s s' := by
  obtain ⟨g, d, hg, -, rfl⟩ := compoundDelegationRewards_ok h
  obtain ⟨n, hn⟩ := settled_gateway g d
  refine ⟨⟨?_, hF.withdrawals, .of_fixed rfl rfl⟩,
    ⟨rfl, rfl, rfl, rfl, rfl, rfl, shells_update hg rfl (by simp only [hn, Gateway.shell])⟩⟩
  simp only [hn]
  exact sound_update hF.gateways (hF.gateways _ _ hg).counts

theorem compoundDelegationRewards_effect (hL : Ledger env s)
    (h : compoundDelegationRewards u k s = .ok s') : Effect s s' u := by
  obtain ⟨g, d, hg, hd, hs'⟩ := compoundDelegationRewards_ok h
  obtain ⟨hown, hshares, hindex⟩ := book_gateway hg
  have hd' : (s.delegations (k, u)).getD Delegation.zeroed = d := by simp [hd]
  obtain ⟨hprin, hmark⟩ := book_delegation hd'
  obtain ⟨hpend, hr, hrd⟩ := settleDelegateRewards_spec hL.solvent hL.tokens_lt hg hd'
  simp only [hr, hrd] at hs'
  have hbook : book s' = play precision [.settle k u] (book s) := by
    rw [hs', book_mk, bookOf_gateway, bookOf_delegation, bookOf_self]
    simp [Book.apply, hpend, ← hown, ← hshares, ← hindex, ← hprin, balance_eq]
  refine ⟨(compoundDelegationRewards_footprint hL.footing h).1, ⟨_, by simp [About], ?_, hbook⟩, ?_⟩
  · simp [AdmitsAll, Admits]
  · rintro ⟨h1, h2, h3⟩
    refine ⟨?_, ?_, ?_⟩ <;> rw [hbook, hs'] <;>
      simp [ownChange, sharesChange, vaultChange] <;> linarith

lemma redelegateStake_footprint {src tgt : Pubkey} {acc : TokenAccount} (hF : Footing env s)
    (h : redelegateStake env clock u src tgt acc p q remaining amount s = .ok s') :
    Footprint s s' ∧ Quiet s s' := by
  obtain ⟨g, d, g', d', fee, t, record, hne, hg, -, hg', -, -, -, -, ht, rfl⟩ :=
    redelegateStake_ok h
  obtain ⟨n, hn⟩ := settled_gateway g d
  obtain ⟨n', hn'⟩ := settled_gateway g' d'
  refine ⟨⟨?_, hF.withdrawals, rfl, ht.terms_eq, fun _ => ht.supply_eq⟩,
    ⟨rfl, rfl, rfl, rfl, rfl, rfl, ?_⟩⟩
  · simp only [hn, hn']
    exact sound_update (sound_update hF.gateways (hF.gateways _ _ hg).counts)
      (hF.gateways _ _ hg').counts
  · refine (shells_update (s := s.setGateway src _) (g := g') ?_ rfl
      (by simp only [hn', Gateway.shell])).trans
      (shells_update hg rfl (by simp only [hn, Gateway.shell]))
    simp [hne.symm, hg']

/-- The fee of a redelegation leaves the pool for the treasury. -/
theorem redelegateStake_effect {src tgt : Pubkey} {acc : TokenAccount} (hL : Ledger env s)
    (h : redelegateStake env clock u src tgt acc p q remaining amount s = .ok s') :
    Effect s s' u := by
  obtain ⟨g, d, g', d', fee, t, record, hne, hg, hd, hg', hd', hst, hle, hfee, ht, hs'⟩ :=
    redelegateStake_ok h
  obtain ⟨hown, hshares, hindex⟩ := book_gateway hg
  obtain ⟨hown', hshares', hindex'⟩ := book_gateway hg'
  have hdd : (s.delegations (src, u)).getD Delegation.zeroed = d := by simp [hd]
  obtain ⟨hprin, hmark⟩ := book_delegation hdd
  obtain ⟨hprin', hmark'⟩ := book_delegation hd'
  obtain ⟨hpend, hr, hrd⟩ := settleDelegateRewards_spec hL.solvent hL.tokens_lt hg hdd
  obtain ⟨hpend', hr', hrd'⟩ := settleDelegateRewards_spec hL.solvent hL.tokens_lt hg' hd'
  have hbal : (t.balance s.settings.stakeTokenAccount : ℤ) = (book s).tokens - fee := by
    rw [ht.balance_eq, if_neg hL.treasury_ne_pool.symm, if_pos rfl, balance_eq]
    ring
  simp only [hr, hrd, hr', hrd'] at hs' hle
  have hle' := hL.settled_amount_le hg hdd hle
  have hpend₂ := hpend'
  rw [Book.pending] at hpend₂
  have hbook : book s' = play precision [.settle src u, .share src u (-amount), .settle tgt u,
      .share tgt u (amount - fee)] (book s) := by
    rw [hs', book_mk, bookOf_gateway, bookOf_gateway, bookOf_delegation, bookOf_delegation,
      bookOf_self]
    simp [Book.apply, hbal, Nat.cast_sub hle, Nat.cast_sub hle', Nat.cast_sub hfee, pending_mk,
      hpend, hpend₂, hne.symm, ← hown, ← hshares, ← hindex, ← hprin, ← hown', ← hshares',
      ← hindex', ← hprin', Function.update_comm hne, sub_eq_add_neg]
  have hp := hL.solvent.pending_nonneg precision_pos src u
  have hp' := hL.solvent.pending_nonneg precision_pos tgt u
  refine ⟨(redelegateStake_footprint hL.footing h).1, ⟨_, by simp [About], ?_, hbook⟩, ?_⟩
  · simp [AdmitsAll, Admits, Book.apply, pending_mk, hne.symm, hprin]
    rw [← hpend₂, hprin']
    zify at hle hfee
    exact ⟨by linarith, by linarith⟩
  · intro he
    have h1 := he.staked
    have h2 := he.delegated
    have h3 := he.withdrawn
    have hlt := he.settled_add_lt hL hne hg hdd hg' hd'
    have hlt₂ := (Nat.le_add_left _ _).trans_lt hlt
    have hge := he.delegated_le hL hg
    have hsub : fee ≤ s.settings.totalDelegated + ((settleDelegateRewards g d).settled
      + (settleDelegateRewards g' d').settled) := by linarith
    have hcount : (if 0 < saturatingAdd 64 (settleDelegateRewards g d).settled
          (settleDelegateRewards g' d').settled ∨ 0 < fee then
        saturatingSub (saturatingAdd 64 s.settings.totalDelegated (saturatingAdd 64
          (settleDelegateRewards g d).settled (settleDelegateRewards g' d').settled)) fee
        else s.settings.totalDelegated) = s.settings.totalDelegated
          + ((settleDelegateRewards g d).settled + (settleDelegateRewards g' d').settled) -
              fee := by
      rw [saturatingAdd_of_lt hlt₂, saturatingAdd_of_lt hlt, saturatingSub]
      split
      · rfl
      · rename_i h0
        push Not at h0
        obtain ⟨h01, h02⟩ := h0
        rw [Nat.eq_zero_of_le_zero h01, Nat.eq_zero_of_le_zero h02]
        rfl
    rw [hcount] at hs'
    refine ⟨?_, ?_, ?_⟩ <;> rw [hbook, hs'] <;>
      simp only [play_cons, play_nil, totalOwn_apply, totalShares_apply, totalVault_apply] <;>
      simp [ownChange, sharesChange, vaultChange, Book.apply, pending_mk, hne.symm,
        Nat.cast_sub hsub, ← hpend₂] <;> linarith

/-! ### Withdrawals -/

lemma claimWithdrawal_footprint (hF : Footing env s)
    (h : claimWithdrawal env clock u id p a s = .ok s') : Footprint s s' ∧ Quiet s s' := by
  obtain ⟨w, t, -, -, -, ht, rfl⟩ := claimWithdrawal_ok h
  exact ⟨⟨hF.gateways, own_update hF.withdrawals nofun,
    .of_transferred rfl (Tokens.transfer_ok ht)⟩, rfl, rfl, rfl, rfl, rfl, rfl, rfl⟩

theorem claimWithdrawal_effect (hL : Ledger env s) (hu : env.CanSign u)
    (h : claimWithdrawal env clock u id p a s = .ok s') : Effect s s' u := by
  obtain ⟨w, t, hw, -, ha, ht, hs'⟩ := claimWithdrawal_ok h
  have hvault := book_withdrawal hw
  have htr := Tokens.transfer_ok ht
  have hbal := spend (hL.wallet_ne_pool hu ha) htr
  have hbook : book s' = play precision [.vault u id (-w.amount)] (book s) := by
    rw [hs', book_mk, bookOf_withdrawal, bookOf_self]
    simp [Book.apply, hbal, hvault, sub_eq_add_neg]
  refine ⟨(claimWithdrawal_footprint hL.footing h).1, ⟨_, by simp [About], ?_, hbook⟩, ?_⟩
  · simp [AdmitsAll, Admits, hvault]
  · intro he
    have h1 := he.staked
    have h2 := he.delegated
    have h3 := he.withdrawn
    have hle := he.withdrawn_le hL hw
    refine ⟨?_, ?_, ?_⟩ <;> rw [hbook, hs'] <;>
      simp [ownChange, sharesChange, vaultChange, saturatingSub, Nat.cast_sub hle] <;> linarith

lemma instantWithdrawal_footprint (hF : Footing env s)
    (h : instantWithdrawal env clock u id p a q s = .ok s') : Footprint s s' ∧ Quiet s s' := by
  obtain ⟨w, rate, t, t', -, -, -, -, -, ht, ht', rfl⟩ := instantWithdrawal_ok h
  have htr := Tokens.transfer_ok ht
  have htr' := Tokens.transfer_ok ht'
  refine ⟨⟨hF.gateways, own_update hF.withdrawals nofun, rfl,
    htr'.terms_eq.trans htr.terms_eq, fun _ => ?_⟩, rfl, rfl, rfl, rfl, rfl, rfl, rfl⟩
  exact (Tokens.supply_of_transferred htr').trans (Tokens.supply_of_transferred htr)

theorem instantWithdrawal_effect (hL : Ledger env s) (hu : env.CanSign u)
    (h : instantWithdrawal env clock u id p a q s = .ok s') : Effect s s' u := by
  obtain ⟨w, rate, t, t', hw, -, -, hrate, ha, ht, ht', hs'⟩ := instantWithdrawal_ok h
  have hvault := book_withdrawal hw
  have htr := Tokens.transfer_ok ht
  have htr' := Tokens.transfer_ok ht'
  have hne := hL.wallet_ne_pool hu ha
  have hfee : instantFee w.amount rate ≤ w.amount :=
    instantFee_le ((penaltyRate_bounds hL.penalties.1 hrate).2.trans hL.penalties.2)
  have hbal : (t'.balance s.settings.stakeTokenAccount : ℤ) = (book s).tokens - w.amount := by
    rw [htr'.balance_eq, htr.balance_eq, if_neg hL.treasury_ne_pool.symm, if_neg hne.symm,
      if_pos rfl, if_pos rfl, balance_eq, Nat.cast_sub hfee]
    ring
  have hbook : book s' = play precision [.vault u id (-w.amount)] (book s) := by
    rw [hs', book_mk, bookOf_withdrawal, bookOf_self]
    simp [Book.apply, hbal, hvault, sub_eq_add_neg]
  refine ⟨(instantWithdrawal_footprint hL.footing h).1, ⟨_, by simp [About], ?_, hbook⟩, ?_⟩
  · simp [AdmitsAll, Admits, hvault]
  · intro he
    have h1 := he.staked
    have h2 := he.delegated
    have h3 := he.withdrawn
    have hle := he.withdrawn_le hL hw
    refine ⟨?_, ?_, ?_⟩ <;> rw [hbook, hs'] <;>
      simp [ownChange, sharesChange, vaultChange, saturatingSub, Nat.cast_sub hle] <;> linarith

lemma closeDrainedWithdrawal_footprint (hF : Footing env s)
    (h : closeDrainedWithdrawal u id s = .ok s') : Footprint s s' ∧ Quiet s s' := by
  obtain ⟨w, -, -, rfl⟩ := closeDrainedWithdrawal_ok h
  exact ⟨⟨hF.gateways, own_update hF.withdrawals nofun, .of_fixed rfl rfl⟩,
    rfl, rfl, rfl, rfl, rfl, rfl, rfl⟩

theorem closeDrainedWithdrawal_effect (hL : Ledger env s)
    (h : closeDrainedWithdrawal u id s = .ok s') : Effect s s' u := by
  obtain ⟨w, hw, h0, hs'⟩ := closeDrainedWithdrawal_ok h
  have hvault := book_withdrawal hw
  rw [h0, Nat.cast_zero] at hvault
  have hbook : book s' = play precision [] (book s) := by
    rw [hs', book_mk, bookOf_withdrawal, bookOf_self]
    simp [balance_eq, ← hvault]
  refine ⟨(closeDrainedWithdrawal_footprint hL.footing h).1, ⟨[], by simp, trivial, hbook⟩, ?_⟩
  · rintro ⟨h1, h2, h3⟩
    refine ⟨?_, ?_, ?_⟩ <;> rw [hbook, hs'] <;> simpa

lemma cancelWithdrawal_footprint {withDelegation : Bool} (hF : Footing env s)
    (h : cancelWithdrawal u k id withDelegation s = .ok s') : Footprint s s' ∧ Quiet s s' := by
  have hfits := cancelWithdrawal_fits h
  obtain ⟨w, g, hw, hg, hgw, hst, ⟨hisd, d, -, rfl⟩ | ⟨hisd, rfl⟩⟩ := cancelWithdrawal_ok h
  · obtain ⟨n, hn⟩ := settled_gateway g d
    refine ⟨⟨?_, own_update hF.withdrawals nofun, .of_fixed rfl rfl⟩,
      ⟨rfl, rfl, rfl, rfl, rfl, rfl, shells_update hg rfl (by simp only [hn, Gateway.shell])⟩⟩
    simp only [hn]
    exact sound_update hF.gateways (hF.gateways _ _ hg).counts
  · refine ⟨⟨?_, own_update hF.withdrawals nofun, .of_fixed rfl rfl⟩,
      ⟨rfl, rfl, rfl, rfl, rfl, rfl, shells_update hg rfl (by simp only [Gateway.shell])⟩⟩
    exact sound_update hF.gateways ((hF.gateways _ _ hg).moreStake hst (hfits w hw g hg hisd))

theorem cancelWithdrawal_effect {withDelegation : Bool} (hL : Ledger env s)
    (h : cancelWithdrawal u k id withDelegation s = .ok s') : Effect s s' u := by
  have hfoot := (cancelWithdrawal_footprint hL.footing h).1
  obtain ⟨w, g, hw, hg, hgw, hst, ⟨hisd, d, hd, hs'⟩ | ⟨hisd, hs'⟩⟩ := cancelWithdrawal_ok h
  · -- back into the delegation
    have hvault := book_withdrawal hw
    obtain ⟨hown, hshares, hindex⟩ := book_gateway hg
    have hd' : (s.delegations (k, u)).getD Delegation.zeroed = d := by simp [hd]
    obtain ⟨hprin, hmark⟩ := book_delegation hd'
    obtain ⟨hpend, hr, hrd⟩ := settleDelegateRewards_spec hL.solvent hL.tokens_lt hg hd'
    simp only [hr, hrd] at hs'
    have hbook : book s' = play precision
        [.settle k u, .share k u w.amount, .vault u id (-w.amount)] (book s) := by
      rw [hs', book_mk, bookOf_gateway, bookOf_delegation, bookOf_withdrawal, bookOf_self]
      simp [Book.apply, hvault, hpend, ← hown, ← hshares, ← hindex, ← hprin, balance_eq]
    have hp := hL.solvent.pending_nonneg precision_pos k u
    refine ⟨hfoot, ⟨_, by simp [About], ?_, hbook⟩, ?_⟩
    · simp only [AdmitsAll, Admits, Book.apply, Function.update_self, hprin, hvault, and_true,
        true_and]
      omega
    · intro he
      have h1 := he.staked
      have h2 := he.delegated
      have h3 := he.withdrawn
      have hle := he.withdrawn_le hL hw
      refine ⟨?_, ?_, ?_⟩ <;> rw [hbook, hs'] <;>
        simp [ownChange, sharesChange, vaultChange, saturatingSub, Nat.cast_sub hle] <;> linarith
  · -- back into the operator stake, of the operator who owns the withdrawal
    obtain rfl : k = u := by rw [← hgw]; exact hL.withdrawals _ _ _ hw hisd
    have hvault := book_withdrawal hw
    obtain ⟨hown, hshares, hindex⟩ := book_gateway hg
    have hbook : book s' = play precision [.own k w.amount, .vault k id (-w.amount)] (book s) := by
      rw [hs', book_mk, bookOf_gateway, bookOf_withdrawal, bookOf_self]
      simp [Book.apply, hvault, ← hown, ← hshares, ← hindex, balance_eq]
    refine ⟨hfoot, ⟨_, by simp [About], ?_, hbook⟩, ?_⟩
    · have := hL.solvent.own_nonneg k
      simp only [AdmitsAll, Admits, Book.apply, hvault, and_true]
      omega
    · intro he
      have h1 := he.staked
      have h2 := he.delegated
      have h3 := he.withdrawn
      have hle := he.withdrawn_le hL hw
      refine ⟨?_, ?_, ?_⟩ <;> rw [hbook, hs'] <;>
        simp [ownChange, sharesChange, vaultChange, saturatingSub, Nat.cast_sub hle] <;> linarith

/-! ### Payments from one source -/

lemma deductDelegationForPayment_footprint (hF : Footing env s)
    (h : deductDelegationForPayment env u k p q amount s = .ok s') :
    Footprint s s' ∧ Quiet s s' := by
  obtain ⟨g, d, t, hg, -, -, -, ht, rfl⟩ := deductDelegationForPayment_ok h
  obtain ⟨n, hn⟩ := settled_gateway g d
  refine ⟨⟨?_, hF.withdrawals, .of_transferred rfl (Tokens.transfer_ok ht)⟩,
    ⟨rfl, rfl, rfl, rfl, rfl, rfl, shells_update hg rfl (by simp only [hn, Gateway.shell])⟩⟩
  simp only [hn]
  exact sound_update hF.gateways (hF.gateways _ _ hg).counts

theorem deductDelegationForPayment_effect (hL : Ledger env s)
    (h : deductDelegationForPayment env u k p q amount s = .ok s') :
    Effect s s' u := by
  obtain ⟨g, d, t, hg, hd, hst, hle, ht, hs'⟩ := deductDelegationForPayment_ok h
  obtain ⟨hown, hshares, hindex⟩ := book_gateway hg
  have hd' : (s.delegations (k, u)).getD Delegation.zeroed = d := by simp [hd]
  obtain ⟨hprin, hmark⟩ := book_delegation hd'
  obtain ⟨hpend, hr, hrd⟩ := settleDelegateRewards_spec hL.solvent hL.tokens_lt hg hd'
  have htr := Tokens.transfer_ok ht
  have hbal := spend hL.treasury_ne_pool htr
  simp only [hr, hrd] at hs' hle
  have hle' := hL.settled_amount_le hg hd' hle
  have hbook : book s' = play precision [.settle k u, .share k u (-amount)] (book s) := by
    rw [hs', book_mk, bookOf_gateway, bookOf_delegation, bookOf_self]
    simp [Book.apply, hbal, hpend, Nat.cast_sub hle, Nat.cast_sub hle', ← hown, ← hshares,
      ← hindex, ← hprin, sub_eq_add_neg]
  have hp := hL.solvent.pending_nonneg precision_pos k u
  refine ⟨(deductDelegationForPayment_footprint hL.footing h).1,
    ⟨_, by simp [About], ?_, hbook⟩, ?_⟩
  · simp only [AdmitsAll, Admits, Book.apply, Function.update_self, hprin, and_true, true_and]
    omega
  · intro he
    have h1 := he.staked
    have h2 := he.delegated
    have h3 := he.withdrawn
    have hlt := he.settled_lt hL hg hd'
    have hsub := hle'.trans (Nat.add_le_add_right (he.delegated_le hL hg) _)
    refine ⟨?_, ?_, ?_⟩ <;> rw [hbook, hs'] <;>
      simp [ownChange, sharesChange, vaultChange, saturatingSub, saturatingAdd_of_lt hlt,
        Nat.cast_sub hsub] <;> linarith

lemma deductOperatorStakeForPayment_footprint (hF : Footing env s)
    (h : deductOperatorStakeForPayment env k p q amount s = .ok s') :
    Footprint s s' ∧ Quiet s s' := by
  obtain ⟨g, t, hg, -, -, hmin, ht, rfl⟩ := deductOperatorStakeForPayment_ok h
  exact ⟨⟨sound_update hF.gateways ((hF.gateways _ _ hg).lessStake fun _ => hmin), hF.withdrawals,
    .of_transferred rfl (Tokens.transfer_ok ht)⟩,
    ⟨rfl, rfl, rfl, rfl, rfl, rfl, shells_update hg rfl (by simp only [Gateway.shell])⟩⟩

theorem deductOperatorStakeForPayment_effect (hL : Ledger env s)
    (h : deductOperatorStakeForPayment env k p q amount s = .ok s') :
    Effect s s' k := by
  obtain ⟨g, t, hg, hst, hle, hmin, ht, hs'⟩ := deductOperatorStakeForPayment_ok h
  obtain ⟨hown, hshares, hindex⟩ := book_gateway hg
  have htr := Tokens.transfer_ok ht
  have hbal := spend hL.treasury_ne_pool htr
  have hbook : book s' = play precision [.own k (-amount)] (book s) := by
    rw [hs', book_mk, bookOf_gateway, bookOf_self]
    simp [Book.apply, hbal, Nat.cast_sub hle, ← hown, ← hshares, ← hindex, sub_eq_add_neg]
  refine ⟨(deductOperatorStakeForPayment_footprint hL.footing h).1,
    ⟨_, by simp [About], ?_, hbook⟩, ?_⟩
  · simp only [AdmitsAll, Admits, hown, and_true]
    omega
  · intro he
    have h1 := he.staked
    have h2 := he.delegated
    have h3 := he.withdrawn
    have hle' := hle.trans (he.staked_le hL hg)
    refine ⟨?_, ?_, ?_⟩ <;> rw [hbook, hs'] <;>
      simp [ownChange, sharesChange, vaultChange, saturatingSub, Nat.cast_sub hle'] <;> linarith

lemma deductWithdrawalForPayment_footprint (hF : Footing env s)
    (h : deductWithdrawalForPayment env u id p q amount s = .ok s') :
    Footprint s s' ∧ Quiet s s' := by
  obtain ⟨w, t, hw, -, -, ht, rfl⟩ := deductWithdrawalForPayment_ok h
  have hown := hF.withdrawals _ _ _ hw
  exact ⟨⟨hF.gateways, own_update hF.withdrawals fun w' hw' => by cases hw'; exact hown,
    .of_transferred rfl (Tokens.transfer_ok ht)⟩, rfl, rfl, rfl, rfl, rfl, rfl, rfl⟩

theorem deductWithdrawalForPayment_effect (hL : Ledger env s)
    (h : deductWithdrawalForPayment env u id p q amount s = .ok s') :
    Effect s s' u := by
  obtain ⟨w, t, hw, -, hle, ht, hs'⟩ := deductWithdrawalForPayment_ok h
  have hvault := book_withdrawal hw
  have htr := Tokens.transfer_ok ht
  have hbal := spend hL.treasury_ne_pool htr
  have hbook : book s' = play precision [.vault u id (-amount)] (book s) := by
    rw [hs', book_mk, bookOf_withdrawal, bookOf_self]
    simp [Book.apply, hbal, hvault, Nat.cast_sub hle, sub_eq_add_neg]
  refine ⟨(deductWithdrawalForPayment_footprint hL.footing h).1,
    ⟨_, by simp [About], ?_, hbook⟩, ?_⟩
  · simp only [AdmitsAll, Admits, hvault, and_true]
    omega
  · intro he
    have h1 := he.staked
    have h2 := he.delegated
    have h3 := he.withdrawn
    have hle' := hle.trans (he.withdrawn_le hL hw)
    refine ⟨?_, ?_, ?_⟩ <;> rw [hbook, hs'] <;>
      simp [ownChange, sharesChange, vaultChange, saturatingSub, Nat.cast_sub hle'] <;> linarith

/-! ### Instructions without stake -/

lemma idle_footprint (hF : Footing env s) (hw : s'.withdrawals = s.withdrawals)
    (ht : s'.tokens = s.tokens) (hf : s'.settings.fixed = s.settings.fixed)
    (hs : ∀ k g, s'.gateways k = some g → g.settings.ShareOk)
    (hG : ∀ k, (s'.gateways k).map (fun g => (g.operatorStake, g.totalDelegatedStake,
        g.cumulativeRewardPerToken, g.status))
      = (s.gateways k).map fun g => (g.operatorStake, g.totalDelegatedStake,
        g.cumulativeRewardPerToken, g.status)) : Footprint s s' := by
  refine ⟨fun k g hg => ?_, hw ▸ hF.withdrawals, .of_fixed hf ht⟩
  have := hG k
  rw [hg] at this
  obtain ⟨g₀, hg₀, heq⟩ := Option.map_eq_some_iff.mp this.symm
  simp only [Prod.mk.injEq] at heq
  obtain ⟨h1, -, h3, h4⟩ := heq
  have hok := hF.gateways _ _ hg₀
  exact ⟨⟨fun hj => by rw [← h1]; exact hok.floor (by rw [h4]; exact hj),
    fun hne => by rw [← h1]; exact hok.departed (by rw [h4]; exact hne),
    by rw [← h3]; exact hok.word, hs k g hg⟩, by rw [← h1]; exact hok.stakeWord⟩

lemma idle_effect (hL : Ledger env s) (hw : s'.withdrawals = s.withdrawals)
    (hd : s'.delegations = s.delegations) (ht : s'.tokens = s.tokens)
    (hc : s'.settings.totalStaked = s.settings.totalStaked ∧
      s'.settings.totalDelegated = s.settings.totalDelegated ∧
      s'.settings.totalWithdrawn = s.settings.totalWithdrawn)
    (hf : s'.settings.fixed = s.settings.fixed)
    (hs : ∀ k g, s'.gateways k = some g → g.settings.ShareOk)
    (hG : ∀ k, (s'.gateways k).map (fun g => (g.operatorStake, g.totalDelegatedStake,
        g.cumulativeRewardPerToken, g.status))
      = (s.gateways k).map fun g => (g.operatorStake, g.totalDelegatedStake,
        g.cumulativeRewardPerToken, g.status)) : Effect s s' u := by
  have hkept := Kept.of_fixed hf ht
  have helim : ∀ (φ : ℕ × ℕ × ℕ × GatewayStatus → ℤ) k,
      (s'.gateways k).elim 0 (fun g => φ (g.operatorStake, g.totalDelegatedStake,
        g.cumulativeRewardPerToken, g.status))
      = (s.gateways k).elim 0 fun g => φ (g.operatorStake, g.totalDelegatedStake,
        g.cumulativeRewardPerToken, g.status) := by
    intro φ k
    have := congrArg (fun o => o.elim 0 φ) (hG k)
    simp only [Option.elim_map] at this
    exact this
  have hbook : book s' = book s := by
    rw [book, book, hw, hd, ht, hkept.stakeTokenAccount]
    simp only [bookOf]
    refine Book.ext ?_ ?_ ?_ rfl rfl rfl rfl
    · exact funext (helim fun x => x.1)
    · exact funext (helim fun x => x.2.1)
    · exact funext (helim fun x => x.2.2.1)
  refine ⟨idle_footprint hL.footing hw ht hf hs hG, ⟨[], by simp, trivial, hbook⟩, ?_⟩
  rintro ⟨h1, h2, h3⟩
  refine ⟨?_, ?_, ?_⟩ <;> rw [hbook] <;> simp only [hc] <;> assumption

end Gar
end ArioSolana
