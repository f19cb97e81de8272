import ArioSolana.GarPlan

/-!
# Effects of joining, leaving, pruning and finalizing

When a gateway departs its stake is split into two exit vaults. The split is the same for leaving
and for being pruned: `ExitVaults` is the one description of both.
-/

namespace ArioSolana
namespace Gar

open Checked Solana Book Finset

attribute [local irreducible] book settleDelegateRewards Book.pending

variable {env : Env} {s s' : State} {clock : ℤ} {k a p q : Pubkey}
  {excess : Option Address} {flag : Bool} {remaining : List AccountMeta} {stake : ℕ}

/-! ### Joining -/

lemma joinNetwork_ok {params : JoinNetworkParams} (h : joinNetwork clock k a p params s = .ok s') :
    ∃ g t, s.gateways k = none ∧ s.observerLookups params.observerAddress = none ∧
      s.settings.minOperatorStake ≤ params.operatorStake ∧
      s.tokens.terms a = some (s.settings.mint, k) ∧
      s.tokens.transfer a s.settings.stakeTokenAccount k params.operatorStake = .ok t ∧
      s.registry.count < GatewayRegistry.maxGateways ∧
      g.operator = k ∧ g.operatorStake = params.operatorStake ∧ g.totalDelegatedStake = 0 ∧
        g.status = .joined ∧
      g.startTimestamp = clock ∧ g.stats = {} ∧ g.weights = {} ∧
      g.registryIndex = s.registry.count ∧ g.observerAddress = params.observerAddress ∧
      g.cumulativeRewardPerToken = 0 ∧ g.settings.ShareOk ∧
      s' = { s with
        gateways := Function.update s.gateways k (some g)
        observerLookups := Function.update s.observerLookups params.observerAddress (some ⟨k⟩)
        tokens := t
        registry := {
          count := s.registry.count + 1
          gateways := Function.update s.registry.gateways s.registry.count
            ⟨k, 0, clock, GatewaySlot.statusJoined, 0⟩ }
        settings := { s.settings with
          totalStaked := s.settings.totalStaked + params.operatorStake } } := by
  simp only [joinNetwork, bind_eq_ok, requireAbsent_eq_ok, checkUserTokenAccount_eq_ok,
    checkStakeTokenAccount_eq_ok, require_eq_ok, splTransfer_eq_ok, add64_eq_ok, pure_eq_ok,
    exists_const] at h
  obtain ⟨hnone, ha, ⟨rfl, -⟩, hlook, hmin, _, -, _, -, _, hshare, _, ⟨t, ht, rfl⟩, _, -, _, -, -,
    hcount, _, ⟨-, rfl⟩, rfl⟩ := h
  refine ⟨_, t, hnone, hlook, hmin, ha, ht, hcount, ?_, ?_, ?_, ?_, ?_, ?_, ?_, ?_, ?_, ?_,
    ⟨?_, ?_⟩, rfl⟩
  any_goals rfl
  · simpa [checkRewardShare] using hshare
  · rintro r ⟨⟩

lemma Footing.amount_lt {t : Tokens} {b : Pubkey} {amount : ℕ} (hF : Footing env s)
    (ha : s.tokens.terms a = some (s.settings.mint, k))
    (h : Tokens.Transferred s.tokens t a b k amount) : amount < 2 ^ 64 := by
  obtain ⟨src, hsrc, -, hle⟩ := h.source_exists
  have hcap : (s.tokens.balance a : ℤ) ≤ s.tokens.supply s.settings.mint :=
    Tokens.balance_le_supply (by simp [ha])
  have hsupply := hF.supply
  rw [Tokens.balance, hsrc, Option.elim_some] at hcap
  omega

lemma joinNetwork_footprint {params : JoinNetworkParams} (hF : Footing env s)
    (h : joinNetwork clock k a p params s = .ok s') : Footprint s s' := by
  obtain ⟨g, t, -, -, hmin, ha, ht, -, -, hstake, -, hst, -, -, -, -, -, hcum, hshare, rfl⟩ :=
    joinNetwork_ok h
  have htr := Tokens.transfer_ok ht
  refine ⟨sound_update hF.gateways ⟨⟨fun _ => hstake ▸ hmin, fun hne => absurd hst hne,
    by rw [hcum]; simp, hshare⟩, ?_⟩, hF.withdrawals, .of_transferred rfl htr⟩
  rw [hstake]
  exact hF.amount_lt ha htr

theorem joinNetwork_effect {params : JoinNetworkParams} (hL : Ledger env s) (hu : env.CanSign k)
    (h : joinNetwork clock k a p params s = .ok s') : Effect s s' k := by
  obtain ⟨g, t, hnone, -, -, ha, ht, -, -, hstake, hzero, -, -, -, -, -, -, hcum, -, hs'⟩ :=
    joinNetwork_ok h
  have htr := Tokens.transfer_ok ht
  have hbal := deposit (hL.wallet_ne_pool hu ha) htr
  obtain ⟨hown, hshares, hindex⟩ := book_no_gateway hnone
  have hsame : Function.update (book s).shares k 0 = (book s).shares := by
    rw [← hshares, Function.update_eq_self]
  have hsame' : Function.update (book s).index k 0 = (book s).index := by
    rw [← hindex, Function.update_eq_self]
  have hbook : book s' = play precision [.own k params.operatorStake] (book s) := by
    rw [hs', book_mk, bookOf_gateway, bookOf_self]
    simp [Book.apply, hbal, hown, hstake, hzero, hcum, hsame, hsame']
  refine ⟨joinNetwork_footprint hL.footing h, ⟨_, by simp [About], ?_, hbook⟩, ?_⟩
  · simp [AdmitsAll, Admits, hown]
  · rintro ⟨h1, h2, h3⟩
    refine ⟨?_, ?_, ?_⟩ <;> rw [hbook, hs'] <;>
      simp [ownChange, sharesChange, vaultChange] <;> linarith

/-! ### Exit vaults -/

/-- The vault for up to the minimum stake. -/
def exitVault (clock : ℤ) (k : Pubkey) (id : WithdrawalId) (amount : ℕ) (flag : Bool) :
    Withdrawal where
  owner := k
  withdrawalId := id
  gateway := k
  amount
  createdAt := clock
  availableAt := if 0 < amount then clock + gatewayLeavePeriod else clock
  isDelegate := false
  isExitVault := flag || 0 < amount
  isProtected := 0 < amount

/-- The vault for the stake above the minimum. -/
def excessVault (clock : ℤ) (k : Pubkey) (id : WithdrawalId) (amount : ℕ) (period : ℤ) :
    Withdrawal where
  owner := k
  withdrawalId := id
  gateway := k
  amount
  createdAt := clock
  availableAt := clock + period
  isDelegate := false
  isExitVault := true
  isProtected := false

/-- The vaults `W` and the counters `C` after an exit with `stake`. -/
structure ExitVaults (clock : ℤ) (k : Pubkey) (stake : ℕ) (flag : Bool) (s : State)
    (C : Pubkey → Option WithdrawalCounter) (W : Pubkey × WithdrawalId → Option Withdrawal) :
    Prop where
  absent : s.withdrawals (k, (loadCounter s k).nextId) = none
  vaults : ∃ excessId nextId : WithdrawalId, excessId.val = (loadCounter s k).nextId.val + 1 ∧
    C = Function.update s.withdrawalCounters k (some { loadCounter s k with nextId }) ∧
    (stake ≤ s.settings.minOperatorStake ∧ nextId = excessId ∧
      W = Function.update s.withdrawals (k, (loadCounter s k).nextId)
        (some (exitVault clock k (loadCounter s k).nextId stake flag)) ∨
     s.settings.minOperatorStake < stake ∧ nextId.val = excessId.val + 1 ∧
      s.withdrawals (k, excessId) = none ∧
      W = Function.update (Function.update s.withdrawals (k, (loadCounter s k).nextId)
        (some (exitVault clock k (loadCounter s k).nextId s.settings.minOperatorStake flag)))
        (k, excessId) (some (excessVault clock k excessId
          (stake - s.settings.minOperatorStake) s.settings.withdrawalPeriod)))

lemma createExitVaults_ok (h : createExitVaults clock k stake excess flag s = .ok s') :
    ∃ C W, ExitVaults clock k stake flag s C W ∧
      s' = { s with withdrawalCounters := C, withdrawals := W } := by
  simp only [createExitVaults, bind_eq_ok, addTime_eq_ok, requireAbsent_eq_ok,
    WithdrawalId.next_eq_ok, exists_const] at h
  obtain ⟨_, ⟨-, rfl⟩, _, ⟨-, rfl⟩, hnone, excessId, hnext, h⟩ := h
  split at h
  · rename_i hpos
    simp only [bind_eq_ok, okOr_eq_ok, require_eq_ok, WithdrawalId.next_eq_ok, pure_eq_ok,
      exists_const, Option.isNone_iff_eq_none] at h
    obtain ⟨_, -, -, hnone₂, nextId, hnext₂, rfl⟩ := h
    have hlt : s.settings.minOperatorStake < stake := by unfold saturatingSub at hpos; omega
    have hne : ((k, excessId) : Pubkey × WithdrawalId) ≠ (k, (loadCounter s k).nextId) := by
      intro heq
      have := congrArg Fin.val (Prod.mk.inj heq).2
      omega
    refine ⟨_, _, ⟨hnone, excessId, nextId, hnext, rfl, .inr ⟨hlt, hnext₂, ?_, rfl⟩⟩, ?_⟩
    · simpa [State.setWithdrawal, hne] using hnone₂
    · simp only [State.setWithdrawal, State.setCounter, exitVault, excessVault, saturatingSub,
        min_eq_right hlt.le]
  · rename_i hpos
    obtain rfl := pure_eq_ok.mp h
    have hle : stake ≤ s.settings.minOperatorStake := by unfold saturatingSub at hpos; omega
    refine ⟨_, _, ⟨hnone, excessId, excessId, hnext, rfl, .inl ⟨hle, rfl, rfl⟩⟩, ?_⟩
    simp only [State.setWithdrawal, State.setCounter, exitVault, min_eq_left hle]

lemma ExitVaults.post {C : Pubkey → Option WithdrawalCounter}
    {W : Pubkey × WithdrawalId → Option Withdrawal} (h : ExitVaults clock k stake flag s C W) :
    ∃ ms, (∀ m ∈ ms, About id k m) ∧
      (∀ b : Book Pubkey Pubkey WithdrawalId, (∀ v, 0 ≤ b.vault v) → AdmitsAll precision ms b) ∧
      (∀ G D T, bookOf G D W (T + stake) = play precision ms (bookOf G D s.withdrawals T)) ∧
      (∀ b : Book Pubkey Pubkey WithdrawalId, (play precision ms b).totalOwn = b.totalOwn ∧
        (play precision ms b).totalShares = b.totalShares ∧
        (play precision ms b).totalVault = b.totalVault + stake) := by
  obtain ⟨hnone, excessId, nextId, hnext, -, h⟩ := h
  have hvault : ∀ (G : Pubkey → Option Gateway) (D : Pubkey × Pubkey → Option Delegation) (T : ℤ),
      (bookOf G D s.withdrawals T).vault (k, (loadCounter s k).nextId) = 0 := by
    intro G D T
    simp [bookOf, hnone]
  rcases h with ⟨-, -, rfl⟩ | ⟨hlt, -, hnone₂, rfl⟩
  · refine ⟨[.vault k (loadCounter s k).nextId stake], by simp [About], ?_, ?_, ?_⟩
    · intro b hb
      have := hb (k, (loadCounter s k).nextId)
      simp only [AdmitsAll, Admits, and_true]
      linarith
    · intro G D T
      rw [bookOf_withdrawal, play_cons, play_nil, Book.apply, hvault]
      simp only [exitVault, Option.elim_some, zero_add]
      rfl
    · intro b
      simp [ownChange, sharesChange, vaultChange]
  · have hne : ((k, excessId) : Pubkey × WithdrawalId) ≠ (k, (loadCounter s k).nextId) := by
      intro heq
      have := congrArg Fin.val (Prod.mk.inj heq).2
      omega
    refine ⟨[.vault k (loadCounter s k).nextId s.settings.minOperatorStake,
      .vault k excessId (stake - s.settings.minOperatorStake)], by simp [About], ?_, ?_, ?_⟩
    · intro b hb
      have h1 := hb (k, (loadCounter s k).nextId)
      have h2 := hb (k, excessId)
      simp only [AdmitsAll, Admits, Book.apply, Function.update_of_ne hne, and_true]
      constructor
      · linarith
      · zify at hlt; linarith
    · intro G D T
      have hvault₂ : (bookOf G D s.withdrawals T).vault (k, excessId) = 0 := by
        simp [bookOf, hnone₂]
      rw [bookOf_withdrawal, bookOf_withdrawal, play_cons, play_cons, play_nil]
      simp only [Book.apply, Function.update_of_ne hne, hvault, hvault₂, zero_add]
      simp only [exitVault, excessVault, Option.elim_some, Nat.cast_sub hlt.le]
      refine Book.ext rfl rfl rfl rfl rfl rfl ?_
      change T + stake = T + s.settings.minOperatorStake + (stake - s.settings.minOperatorStake)
      ring
    · intro b
      simp [ownChange, sharesChange, vaultChange]

lemma ExitVaults.own {C : Pubkey → Option WithdrawalCounter}
    {W : Pubkey × WithdrawalId → Option Withdrawal} (h : ExitVaults clock k stake flag s C W)
    (hw : ∀ u id w, s.withdrawals (u, id) = some w → w.Own u) :
    ∀ u id w, W (u, id) = some w → w.Own u := by
  obtain ⟨-, excessId, nextId, -, -, ⟨-, -, rfl⟩ | ⟨-, -, -, rfl⟩⟩ := h
  · exact own_update hw fun w hw => by cases hw; exact fun _ => rfl
  · refine own_update (own_update hw fun w hw => ?_) fun w hw => ?_
    · cases hw; exact fun _ => rfl
    · cases hw; exact fun _ => rfl

/-! ### Leaving and pruning -/

lemma markLeaving_ok {g : Gateway} {duration : ℤ} (h : markLeaving clock k g duration s = .ok s') :
    g.registryIndex < s.registry.count ∧ (s.registry.gateways g.registryIndex).address =
      g.operator ∧
    s' = { s with
      gateways := Function.update s.gateways k (some { g with
        operatorStake := 0
        status := .leaving
        leaveTimestamp := some clock
        leaveEpochDuration := duration })
      registry := s.registry.setSlot g.registryIndex { s.registry.gateways g.registryIndex with
        compositeWeight := 0
        status := GatewaySlot.statusLeaving } } := by
  simp only [markLeaving, bind_eq_ok, require_eq_ok, pure_eq_ok, exists_const] at h
  obtain ⟨-, hlt, haddr, rfl⟩ := h
  exact ⟨hlt, haddr, rfl⟩

/-- The last account of a call is the lookup of an observer, and it may be written to. -/
def PassesLookup (o : Pubkey) (remaining : List AccountMeta) : Prop :=
  ∃ info, remaining.getLast? = some info ∧ info.address = .observerLookup o ∧ info.isWritable

/-- The lookup of the departing gateway is closed when it was passed; else all lookups stay. -/
lemma closeLastObserverLookup_ok {o : Pubkey}
    (h : closeLastObserverLookup o remaining s = .ok s') :
    ∃ L, s' = { s with observerLookups := L } ∧
      (¬ PassesLookup o remaining ∧ L = s.observerLookups ∨
        L = Function.update s.observerLookups o none) := by
  unfold closeLastObserverLookup at h
  split at h
  · rename_i hlast
    obtain rfl := pure_eq_ok.mp h
    refine ⟨_, rfl, .inl ⟨?_, rfl⟩⟩
    rintro ⟨info, hinfo, -⟩
    rw [hlast] at hinfo
    cases hinfo
  · rename_i x hlast
    split at h
    · simp only [bind_eq_ok, require_eq_ok, pure_eq_ok, exists_const] at h
      obtain ⟨-, rfl⟩ := h
      exact ⟨_, rfl, .inr rfl⟩
    · rename_i hno
      obtain rfl := pure_eq_ok.mp h
      refine ⟨_, rfl, .inl ⟨?_, rfl⟩⟩
      rintro ⟨info, hinfo, hyes⟩
      rw [hlast] at hinfo
      cases hinfo
      exact hno hyes

/-- A gateway as a departure leaves it. -/
def Gateway.departed (g : Gateway) (clock duration : ℤ) : Gateway :=
  { g with
    operatorStake := 0
    status := .leaving
    leaveTimestamp := some clock
    leaveEpochDuration := duration }

lemma leaveNetwork_ok (h : leaveNetwork clock k excess remaining s = .ok s') :
    ∃ g settings C W L, s.gateways k = some g ∧ s.epochSettings = some settings ∧
      g.operator = k ∧ g.status = .joined ∧ ExitVaults clock k g.operatorStake true s C W ∧
      g.registryIndex < s.registry.count ∧
      (s.registry.gateways g.registryIndex).address = g.operator ∧
      (¬ PassesLookup g.observerAddress remaining ∧ L = s.observerLookups ∨
        L = Function.update s.observerLookups g.observerAddress none) ∧
      s' = { s with
        withdrawalCounters := C
        withdrawals := W
        observerLookups := L
        gateways := Function.update s.gateways k (some (g.departed clock settings.epochDuration))
        registry := s.registry.setSlot g.registryIndex { s.registry.gateways g.registryIndex with
          compositeWeight := 0
          status := GatewaySlot.statusLeaving }
        settings := { s.settings with
          totalStaked := saturatingSub s.settings.totalStaked g.operatorStake
          totalWithdrawn := s.settings.totalWithdrawn + g.operatorStake } } := by
  simp only [leaveNetwork, bind_eq_ok, loadOwnGateway_eq_ok, loadEpochSettings, okOr_eq_ok,
    require_eq_ok, add64_eq_ok, pure_eq_ok, exists_const] at h
  obtain ⟨g, ⟨hg, hop⟩, settings, hset, hst, _, h₁, _, h₂, _, h₃, _, ⟨-, rfl⟩, rfl⟩ := h
  obtain ⟨C, W, hexit, rfl⟩ := createExitVaults_ok h₁
  obtain ⟨hlt, haddr, rfl⟩ := markLeaving_ok h₂
  obtain ⟨L, rfl, hL⟩ := closeLastObserverLookup_ok h₃
  exact ⟨g, settings, C, W, L, hg, hset, hop, hst, hexit, hlt, haddr, hL, rfl⟩

lemma Gateway.Sound.leaves {g : Gateway} {m : ℕ} {duration : ℤ} (h : g.Sound m) :
    (g.departed clock duration).Sound m :=
  ⟨⟨fun hj => by simp [Gateway.departed] at hj, fun _ => rfl, h.word, h.share⟩, by
    norm_num [Gateway.departed]⟩

lemma leaveNetwork_footprint (hF : Footing env s)
    (h : leaveNetwork clock k excess remaining s = .ok s') : Footprint s s' := by
  obtain ⟨g, settings, C, W, L, hg, -, -, -, hexit, -, -, -, rfl⟩ := leaveNetwork_ok h
  exact ⟨sound_update hF.gateways (hF.gateways _ _ hg).leaves, hexit.own hF.withdrawals,
    .of_fixed rfl rfl⟩

theorem leaveNetwork_effect (hL : Ledger env s)
    (h : leaveNetwork clock k excess remaining s = .ok s') : Effect s s' k := by
  obtain ⟨g, settings, C, W, L, hg, -, -, -, hexit, -, -, -, hs'⟩ := leaveNetwork_ok h
  obtain ⟨hown, hshares, hindex⟩ := book_gateway hg
  obtain ⟨ms, hab, hadm, hplay, htot⟩ := hexit.post
  have hbook : book s' = play precision (.own k (-g.operatorStake) :: ms) (book s) := by
    rw [hs', book_mk, balance_eq, play_cons,
      show (book s).tokens = ((book s).tokens + -g.operatorStake) + g.operatorStake by ring, hplay,
      bookOf_gateway, bookOf_self]
    simp [Book.apply, Gateway.departed, ← hown, ← hshares, ← hindex]
  refine ⟨leaveNetwork_footprint hL.footing h, ⟨_, ?_, ?_, hbook⟩, ?_⟩
  · intro m hm
    rcases List.mem_cons.mp hm with rfl | hm
    · simp [About]
    · exact hab m hm
  · exact ⟨by simp [Admits, hown], hadm _ hL.solvent.vault_nonneg⟩
  · intro he
    have h1 := he.staked
    have h2 := he.delegated
    have h3 := he.withdrawn
    have hle := he.staked_le hL hg
    obtain ⟨t1, t2, t3⟩ := htot ((book s).apply precision (.own k (-g.operatorStake)))
    refine ⟨?_, ?_, ?_⟩ <;> rw [hbook, hs', play_cons]
    · rw [t1]; simp [ownChange, saturatingSub, Nat.cast_sub hle]; linarith
    · rw [t2]; simp [sharesChange]; linarith
    · rw [t3]; simp [vaultChange]; linarith

lemma pruneGateway_ok (h : pruneGateway env clock k p q excess remaining s = .ok s') :
    ∃ g settings slash C W L t, s.gateways k = some g ∧ s.epochSettings = some settings ∧
      g.operator = k ∧ g.status = .joined ∧
      settings.maxConsecutiveFailures ≤ g.stats.failedConsecutive ∧
      slash = min s.settings.minOperatorStake g.operatorStake ∧
      ExitVaults clock k (g.operatorStake - slash) false s C W ∧
      s.tokens.Moved t s.settings.stakeTokenAccount s.settings.protocolTokenAccount
        env.settingsPda slash ∧
      g.registryIndex < s.registry.count ∧
      (s.registry.gateways g.registryIndex).address = g.operator ∧
      (¬ PassesLookup g.observerAddress remaining ∧ L = s.observerLookups ∨
        L = Function.update s.observerLookups g.observerAddress none) ∧
      s' = { s with
        withdrawalCounters := C
        withdrawals := W
        observerLookups := L
        tokens := t
        gateways := Function.update s.gateways k (some (g.departed clock settings.epochDuration))
        registry := s.registry.setSlot g.registryIndex { s.registry.gateways g.registryIndex with
          compositeWeight := 0
          status := GatewaySlot.statusLeaving }
        settings := { s.settings with
          totalStaked := saturatingSub s.settings.totalStaked
            (saturatingAdd 64 slash (g.operatorStake - slash))
          totalWithdrawn := s.settings.totalWithdrawn + (g.operatorStake - slash) } } := by
  simp only [pruneGateway, bind_eq_ok, loadGateway_eq_ok, loadEpochSettings, okOr_eq_ok,
    checkStakeTokenAccount_eq_ok, checkProtocolTokenAccount_eq_ok, require_eq_ok,
    splTransferNonzero_eq_ok, add64_eq_ok, pure_eq_ok, exists_const] at h
  obtain ⟨settings, hset, g, ⟨hg, hop⟩, ⟨rfl, -⟩, ⟨rfl, -⟩, hst, hfail, _, h₁, _, ⟨t, ht, rfl⟩,
    _, h₂,
    _, h₃, _, ⟨-, rfl⟩, rfl⟩ := h
  obtain ⟨C, W, hexit, rfl⟩ := createExitVaults_ok h₁
  obtain ⟨hlt, haddr, rfl⟩ := markLeaving_ok h₂
  obtain ⟨L, rfl, hL⟩ := closeLastObserverLookup_ok h₃
  exact ⟨g, settings, _, C, W, L, t, hg, hset, hop, hst, hfail, rfl, hexit, ht, hlt, haddr, hL, rfl⟩

lemma pruneGateway_footprint (hF : Footing env s)
    (h : pruneGateway env clock k p q excess remaining s = .ok s') : Footprint s s' := by
  obtain ⟨g, settings, slash, C, W, L, t, hg, -, -, -, -, -, hexit, ht, -, -, -, rfl⟩ :=
    pruneGateway_ok h
  exact ⟨sound_update hF.gateways (hF.gateways _ _ hg).leaves, hexit.own hF.withdrawals, rfl,
    ht.terms_eq, fun _ => ht.supply_eq⟩

theorem pruneGateway_effect (hL : Ledger env s)
    (h : pruneGateway env clock k p q excess remaining s = .ok s') : Effect s s' k := by
  obtain ⟨g, settings, slash, C, W, L, t, hg, -, -, -, -, hslash, hexit, ht, -, -, -, hs'⟩ :=
    pruneGateway_ok h
  obtain ⟨hown, hshares, hindex⟩ := book_gateway hg
  obtain ⟨ms, hab, hadm, hplay, htot⟩ := hexit.post
  have hle : slash ≤ g.operatorStake := hslash ▸ min_le_right _ _
  have hbal : (t.balance s.settings.stakeTokenAccount : ℤ) = (book s).tokens - slash := by
    rw [ht.balance_eq, if_neg hL.treasury_ne_pool.symm, if_pos rfl, balance_eq]
    ring
  have hbook : book s' = play precision (.own k (-g.operatorStake) :: ms) (book s) := by
    rw [hs', book_mk, hbal, play_cons, show (book s).tokens - slash = ((book s).tokens
      + -g.operatorStake) + (g.operatorStake - slash : ℕ) by rw [Nat.cast_sub hle]; ring, hplay,
      bookOf_gateway, bookOf_self]
    simp [Book.apply, Gateway.departed, ← hown, ← hshares, ← hindex]
  refine ⟨pruneGateway_footprint hL.footing h, ⟨_, ?_, ?_, hbook⟩, ?_⟩
  · intro m hm
    rcases List.mem_cons.mp hm with rfl | hm
    · simp [About]
    · exact hab m hm
  · exact ⟨by simp [Admits, hown], hadm _ hL.solvent.vault_nonneg⟩
  · intro he
    have h1 := he.staked
    have h2 := he.delegated
    have h3 := he.withdrawn
    have hle₂ := he.staked_le hL hg
    obtain ⟨t1, t2, t3⟩ := htot ((book s).apply precision (.own k (-g.operatorStake)))
    have hsum : saturatingAdd 64 slash (g.operatorStake - slash) = g.operatorStake := by
      have := (hL.footing.gateways _ _ hg).stakeWord
      rw [saturatingAdd_of_lt (by rwa [Nat.add_sub_of_le hle]), Nat.add_sub_of_le hle]
    rw [hsum] at hs'
    refine ⟨?_, ?_, ?_⟩ <;> rw [hbook, hs', play_cons]
    · rw [t1]; simp [ownChange, saturatingSub, Nat.cast_sub hle₂]; linarith
    · rw [t2]; simp [sharesChange]; linarith
    · rw [t3]; simp [vaultChange, Nat.cast_sub hle]; linarith

/-! ### Finalizing -/

lemma moveLastSlot_ok {index : ℕ} (h : moveLastSlot index remaining s = .ok s') :
    (index = s.registry.count - 1 ∧ s' = s) ∨
    ∃ g, index ≠ s.registry.count - 1 ∧
      s.gateways (s.registry.gateways (s.registry.count - 1)).address = some g ∧
      s' = { s with
        gateways := Function.update s.gateways
          (s.registry.gateways (s.registry.count - 1)).address (some { g with
            registryIndex := index })
        registry := s.registry.setSlot index
          (s.registry.gateways (s.registry.count - 1)) } := by
  unfold moveLastSlot at h
  simp only at h
  split at h
  · rename_i hne
    simp only [bind_eq_ok, okOr_eq_ok, require_eq_ok, pure_eq_ok, exists_const] at h
    obtain ⟨_, -, -, g, hg, rfl⟩ := h
    exact .inr ⟨g, hne, hg, rfl⟩
  · rename_i heq
    obtain rfl := pure_eq_ok.mp h
    exact .inl ⟨by simpa using heq, rfl⟩

lemma finalizeGone_ok (h : finalizeGone clock k remaining s = .ok s') :
    ∃ g settings s₁, s.gateways k = some g ∧ s.epochSettings = some settings ∧ g.operator = k ∧
      g.status = .leaving ∧ g.totalDelegatedStake = 0 ∧
      (∃ expiry, finalizeGoneExpiry g settings.epochDuration = .ok expiry ∧ expiry ≤ clock) ∧
      (∃ u, requireLatestEpochFinished settings.currentEpochIndex remaining s = .ok u) ∧
      g.registryIndex < s.registry.count ∧
      (s.registry.gateways g.registryIndex).address = g.operator ∧
      moveLastSlot g.registryIndex remaining s = .ok s₁ ∧
      s' = { s₁ with
        registry := s₁.registry.dropLast
        gateways := Function.update s₁.gateways k none } := by
  simp only [finalizeGone, bind_eq_ok, loadGateway_eq_ok, loadEpochSettings, okOr_eq_ok,
    require_eq_ok, pure_eq_ok, exists_const] at h
  obtain ⟨g, ⟨hg, hop⟩, settings, hset, hst, expiry, hexp, hready, h0, u, hfin, -, -, hlt, haddr,
    s₁, hmove, rfl⟩ := h
  exact ⟨g, settings, s₁, hg, hset, hop, hst, h0, ⟨expiry, hexp, hready⟩, ⟨u, hfin⟩, hlt, haddr,
    hmove, rfl⟩

lemma moveLastSlot_bookOf {index : ℕ} (h : moveLastSlot index remaining s = .ok s') :
    book s' = book s ∧ s'.delegations = s.delegations ∧ s'.withdrawals = s.withdrawals ∧
      s'.tokens = s.tokens ∧ s'.settings = s.settings ∧
      ∀ i g, s'.gateways i = some g → ∃ g₀, s.gateways i = some g₀ ∧
        g.operatorStake = g₀.operatorStake ∧ g.status = g₀.status ∧
        g.cumulativeRewardPerToken = g₀.cumulativeRewardPerToken ∧ g.settings = g₀.settings := by
  rcases moveLastSlot_ok h with ⟨-, rfl⟩ | ⟨g, -, hg, rfl⟩
  · exact ⟨rfl, rfl, rfl, rfl, rfl, fun i g hg => ⟨g, hg, rfl, rfl, rfl, rfl⟩⟩
  · obtain ⟨hown, hshares, hindex⟩ := book_gateway hg
    refine ⟨?_, rfl, rfl, rfl, rfl, fun i x hx => ?_⟩
    · rw [book_mk, bookOf_gateway, bookOf_self, balance_eq]
      simp [← hown, ← hshares, ← hindex]
    · by_cases hi : i = (s.registry.gateways (s.registry.count - 1)).address
      · subst hi
        obtain rfl : { g with registryIndex := index } = x := by simpa using hx
        exact ⟨g, hg, rfl, rfl, rfl, rfl⟩
      · exact ⟨x, by simpa [hi] using hx, rfl, rfl, rfl, rfl⟩

lemma finalizeGone_footprint (hF : Footing env s)
    (h : finalizeGone clock k remaining s = .ok s') : Footprint s s' := by
  obtain ⟨g, settings, s₁, -, -, -, -, -, -, -, -, -, hmove, hs'⟩ := finalizeGone_ok h
  obtain ⟨-, -, hW, hT, hS, hG⟩ := moveLastSlot_bookOf hmove
  rw [hs']
  refine ⟨fun i x hx => ?_, by simp only [hW]; exact hF.withdrawals,
    .of_fixed (by simp only [hS]) (by simp only [hT])⟩
  by_cases hi : i = k
  · subst hi; simp at hx
  · obtain ⟨g₀, hg₀, e1, e2, e3, e4⟩ := hG i x (by simpa [hi] using hx)
    have hok₀ := hF.gateways _ _ hg₀
    exact ⟨⟨fun hj => e1 ▸ hok₀.floor (e2 ▸ hj), fun hne => e1 ▸ hok₀.departed (e2 ▸ hne),
      e3 ▸ hok₀.word, e4 ▸ hok₀.share⟩, e1 ▸ hok₀.stakeWord⟩

theorem finalizeGone_effect (hL : Ledger env s)
    (h : finalizeGone clock k remaining s = .ok s') : Effect s s' k := by
  obtain ⟨g, settings, s₁, hg, -, -, hst, h0, -, -, -, -, hmove, hs'⟩ := finalizeGone_ok h
  obtain ⟨hbook₁, -, -, -, hS, -⟩ := moveLastSlot_bookOf hmove
  obtain ⟨hown, hshares, -⟩ := book_gateway hg
  have hok := hL.gateways _ _ hg
  rw [hok.departed (by rw [hst]; decide), Nat.cast_zero] at hown
  rw [h0, Nat.cast_zero] at hshares
  have hsame : Function.update (book s).own k 0 = (book s).own := by
    rw [← hown, Function.update_eq_self]
  have hsame' : Function.update (book s).shares k 0 = (book s).shares := by
    rw [← hshares, Function.update_eq_self]
  have hbook : book s' = play precision [.clear k] (book s) := by
    rw [hs', book_mk, bookOf_gateway, bookOf_self, balance_eq, hbook₁]
    simp [Book.apply, hsame, hsame']
  refine ⟨finalizeGone_footprint hL.footing h, ⟨_, by simp [About], ?_, hbook⟩, ?_⟩
  · -- nobody holds shares at a gateway whose counter is zero
    simp only [AdmitsAll, Admits, and_true]
    intro u
    have h1 := hL.solvent.principal_le_shares k u
    have h2 := hL.solvent.principal_nonneg (k, u)
    rw [hshares] at h1
    exact le_antisymm h1 h2
  · rintro ⟨h1, h2, h3⟩
    refine ⟨?_, ?_, ?_⟩ <;> rw [hbook, hs'] <;> simp [ownChange, sharesChange, vaultChange, hS] <;>
      assumption

end Gar
end ArioSolana
