import ArioSolana.GarProgram

/-!
# The ledger behind the accounts

`book` reads a state of the program as a share ledger: gateways are desks, delegations are
holdings, withdrawals are vaults, and the tokens are those of the stake pool. `Ledger` is the
invariant of the stake accounting. An instruction that touches the stake of one person is
described by `Effect`: it posts moves about that person only, and carries along the supply
counters of the settings.
-/

namespace ArioSolana
namespace Gar

open Checked Solana Book Finset

/-! ### The book of a state -/

/-- `rewardPrecision` as an integer. -/
abbrev precision : ℤ := 1000000000000000000

lemma precision_pos : 0 < precision := by decide

/-- The book of some accounts. -/
def bookOf (gateways : Pubkey → Option Gateway) (delegations : Pubkey × Pubkey → Option Delegation)
    (withdrawals : Pubkey × WithdrawalId → Option Withdrawal) (tokens : ℤ) :
    Book Pubkey Pubkey WithdrawalId where
  own g := (gateways g).elim 0 fun x => (x.operatorStake : ℤ)
  shares g := (gateways g).elim 0 fun x => (x.totalDelegatedStake : ℤ)
  index g := (gateways g).elim 0 fun x => (x.cumulativeRewardPerToken : ℤ)
  principal k := (delegations k).elim 0 fun x => (x.amount : ℤ)
  mark k := (delegations k).elim 0 fun x => (x.rewardDebt : ℤ)
  vault k := (withdrawals k).elim 0 fun x => (x.amount : ℤ)
  tokens

/-- The stake accounting of a state. -/
def book (s : State) : Book Pubkey Pubkey WithdrawalId :=
  bookOf s.gateways s.delegations s.withdrawals (s.tokens.balance s.settings.stakeTokenAccount)

section

variable {s : State} {k u : Pubkey} {g : Gateway} {d : Delegation} {w : Withdrawal}
  {id : WithdrawalId}

lemma book_gateway (h : s.gateways k = some g) : (book s).own k = g.operatorStake ∧
    (book s).shares k = g.totalDelegatedStake ∧
    (book s).index k = g.cumulativeRewardPerToken := by
  simp [book, bookOf, h]

lemma book_delegation (h : (s.delegations (k, u)).getD Delegation.zeroed = d) :
    (book s).principal (k, u) = d.amount ∧ (book s).mark (k, u) = d.rewardDebt := by
  cases hd : s.delegations (k, u) with
  | none =>
    obtain rfl : Delegation.zeroed = d := by simpa [hd] using h
    simp [book, bookOf, hd, Delegation.zeroed]
  | some d' =>
    obtain rfl : d' = d := by simpa [hd] using h
    simp [book, bookOf, hd]

lemma book_withdrawal (h : s.withdrawals (u, id) = some w) :
    (book s).vault (u, id) = w.amount := by
  simp [book, bookOf, h]

lemma book_no_gateway (h : s.gateways k = none) : (book s).own k = 0 ∧ (book s).shares k = 0 ∧
    (book s).index k = 0 := by
  simp [book, bookOf, h]

lemma book_no_withdrawal (h : s.withdrawals (u, id) = none) : (book s).vault (u, id) = 0 := by
  simp [book, bookOf, h]

lemma balance_eq :
    (s.tokens.balance s.settings.stakeTokenAccount : ℤ) = (book s).tokens := rfl

lemma book_congr (s s' : State) (hG : s'.gateways = s.gateways)
    (hD : s'.delegations = s.delegations)
    (hW : s'.withdrawals = s.withdrawals) (t : ℤ) :
    { book s' with tokens := t } = { book s with tokens := t } := by
  simp only [book, bookOf, hG, hD, hW]

lemma totals_congr (s s' : State) (hG : s'.gateways = s.gateways) :
    (book s').totalOwn = (book s).totalOwn ∧ (book s').totalShares = (book s).totalShares := by
  rw [totalOwn, totalShares, totalOwn, totalShares]
  simp only [book, bookOf, hG, and_self]

lemma totalVault_congr (s s' : State) (hW : s'.withdrawals = s.withdrawals) :
    (book s').totalVault = (book s).totalVault := by
  rw [totalVault, totalVault]
  simp only [book, bookOf, hW]

lemma book_settings {staked delegated withdrawn : ℕ} : book { s with settings := { s.settings with
    totalStaked := staked
    totalDelegated := delegated
    totalWithdrawn := withdrawn } } = book s := rfl

@[simp] lemma book_setEpoch (i : ℕ) (e : Option Epoch) : book (s.setEpoch i e) = book s := rfl

end

/-! ### Books of updated accounts -/

section Updates

variable (s : State) (G : Pubkey → Option Gateway) (D : Pubkey × Pubkey → Option Delegation)
  (W : Pubkey × WithdrawalId → Option Withdrawal) (T : ℤ) (k : Pubkey) (kd : Pubkey × Pubkey)
  (kw : Pubkey × WithdrawalId)

lemma elim_update {α β : Type} [DecidableEq α] (F : α → Option β) (φ : β → ℤ) (a : α)
    (x : Option β) : (fun i => (Function.update F a x i).elim 0 φ)
      = Function.update (fun i => (F i).elim 0 φ) a (x.elim 0 φ) := by
  funext i
  by_cases h : i = a
  · subst h; simp
  · simp [h]

lemma bookOf_gateway (x : Option Gateway) : bookOf (Function.update G k x) D W T =
    { bookOf G D W T with
      own := Function.update (bookOf G D W T).own k (x.elim 0 fun g => (g.operatorStake : ℤ))
      shares := Function.update (bookOf G D W T).shares k
        (x.elim 0 fun g => (g.totalDelegatedStake : ℤ))
      index := Function.update (bookOf G D W T).index k
        (x.elim 0 fun g => (g.cumulativeRewardPerToken : ℤ)) } := by
  simp only [bookOf, elim_update]

lemma bookOf_delegation (x : Option Delegation) : bookOf G (Function.update D kd x) W T =
    { bookOf G D W T with
      principal := Function.update (bookOf G D W T).principal kd
        (x.elim 0 fun d => (d.amount : ℤ))
      mark := Function.update (bookOf G D W T).mark kd
        (x.elim 0 fun d => (d.rewardDebt : ℤ)) } := by
  simp only [bookOf, elim_update]

lemma bookOf_withdrawal (x : Option Withdrawal) : bookOf G D (Function.update W kw x) T =
    { bookOf G D W T with
      vault := Function.update (bookOf G D W T).vault kw
        (x.elim 0 fun w => (w.amount : ℤ)) } := by
  simp only [bookOf, elim_update]

lemma bookOf_self :
    bookOf s.gateways s.delegations s.withdrawals T = { book s with tokens := T } := rfl

lemma book_mk (settings registry epochSettings counters allowlist lookups redelegations epochs
    receipts observations) (t : Tokens) :
    book ⟨settings, registry, epochSettings, G, D, counters, W, allowlist, lookups, redelegations,
      epochs, receipts, observations, t⟩
      = bookOf G D W (t.balance settings.stakeTokenAccount) := rfl

end Updates

/-! ### Invariants of the stake accounting -/

/-- Neither the share of the delegates nor the one staged for the next tally exceeds the
maximum. -/
structure GatewaySettings2.ShareOk (x : GatewaySettings2) : Prop where
  ratio : x.delegateRewardShareRatio ≤ maxDelegateRewardShare
  staged : ∀ r, x.pendingDelegateRewardShareRatio = some r → r ≤ maxDelegateRewardShare

/-- A joined gateway has at least the minimum stake and a departed one has none, and an
accumulator is a word of 128 bits. -/
structure Gateway.StakeOk (g : Gateway) (minStake : ℕ) : Prop where
  floor : g.status = .joined → minStake ≤ g.operatorStake
  departed : g.status ≠ .joined → g.operatorStake = 0
  word : g.cumulativeRewardPerToken < 2 ^ 128
  share : g.settings.ShareOk

/-- The gateway of an operator's withdrawal is the operator's own. -/
def Withdrawal.Own (w : Withdrawal) (owner : Pubkey) : Prop :=
  w.isDelegate = false → w.gateway = owner

/-- The invariant of the stake accounting. -/
structure Ledger (env : Env) (s : State) : Prop where
  solvent : (book s).Solvent precision
  addresses : env.settingsPda ≠ env.arioConfig
  pool : s.tokens.terms s.settings.stakeTokenAccount = some (s.settings.mint, env.settingsPda)
  treasury :
    s.tokens.terms s.settings.protocolTokenAccount = some (s.settings.mint, env.arioConfig)
  supply : s.tokens.supply s.settings.mint < 2 ^ 64
  /-- no penalty exceeds the whole -/
  penalties : s.settings.minExpeditedWithdrawalPenalty ≤ s.settings.maxExpeditedWithdrawalPenalty ∧
    s.settings.maxExpeditedWithdrawalPenalty ≤ rateScale
  gateways : ∀ k g, s.gateways k = some g → g.StakeOk s.settings.minOperatorStake
  withdrawals : ∀ u id w, s.withdrawals (u, id) = some w → w.Own u

/-- A gateway whose stake is in order and fits in a word. -/
structure Gateway.Sound (g : Gateway) (minStake : ℕ) : Prop extends g.StakeOk minStake where
  stakeWord : g.operatorStake < 2 ^ 64

/-- What the accounting rests on. It does not depend on what the gateways count for their delegates.
-/
structure Footing (env : Env) (s : State) : Prop where
  addresses : env.settingsPda ≠ env.arioConfig
  pool : s.tokens.terms s.settings.stakeTokenAccount = some (s.settings.mint, env.settingsPda)
  treasury :
    s.tokens.terms s.settings.protocolTokenAccount = some (s.settings.mint, env.arioConfig)
  supply : s.tokens.supply s.settings.mint < 2 ^ 64
  penalties : s.settings.minExpeditedWithdrawalPenalty ≤ s.settings.maxExpeditedWithdrawalPenalty ∧
    s.settings.maxExpeditedWithdrawalPenalty ≤ rateScale
  gateways : ∀ k g, s.gateways k = some g → g.Sound s.settings.minOperatorStake
  withdrawals : ∀ u id w, s.withdrawals (u, id) = some w → w.Own u

/-- The supply counters of the settings are the sums they stand for. -/
structure Exact (s : State) : Prop where
  staked : (s.settings.totalStaked : ℤ) = (book s).totalOwn
  delegated : (s.settings.totalDelegated : ℤ) = (book s).totalShares
  withdrawn : (s.settings.totalWithdrawn : ℤ) = (book s).totalVault

/-- The settings without the fields that instructions change. -/
def GatewaySettings.fixed (x : GatewaySettings) : GatewaySettings :=
  { x with
    authority := Pubkey.default
    withdrawalPeriod := 0
    migrationActive := false
    totalStaked := 0
    totalDelegated := 0
    totalWithdrawn := 0 }

/-- The fixed settings and the ownership of all token accounts are kept. -/
structure Kept (s s' : State) : Prop where
  fixed : s'.settings.fixed = s.settings.fixed
  terms : s'.tokens.terms = s.tokens.terms
  supply : ∀ mint, s'.tokens.supply mint = s.tokens.supply mint

namespace Kept

variable {s s' s'' : State}

lemma refl (s : State) : Kept s s := ⟨rfl, rfl, fun _ => rfl⟩

lemma trans (h : Kept s s') (h' : Kept s' s'') : Kept s s'' :=
  ⟨h'.fixed.trans h.fixed, h'.terms.trans h.terms, fun m => (h'.supply m).trans (h.supply m)⟩

lemma of_fixed (h : s'.settings.fixed = s.settings.fixed) (ht : s'.tokens = s.tokens) :
    Kept s s' :=
  ⟨h, by rw [ht], fun _ => by rw [ht]⟩

lemma of_transferred {a b c : Pubkey} {amount : ℕ}
    (h : s'.settings.fixed = s.settings.fixed)
    (ht : Tokens.Transferred s.tokens s'.tokens a b c amount) : Kept s s' :=
  ⟨h, ht.terms_eq, fun _ => Tokens.supply_of_transferred ht⟩

lemma mint (h : Kept s s') : s'.settings.mint = s.settings.mint := by
  have := congrArg GatewaySettings.mint h.fixed
  exact this

lemma stakeTokenAccount (h : Kept s s') :
    s'.settings.stakeTokenAccount = s.settings.stakeTokenAccount := by
  have := congrArg GatewaySettings.stakeTokenAccount h.fixed
  exact this

lemma protocolTokenAccount (h : Kept s s') :
    s'.settings.protocolTokenAccount = s.settings.protocolTokenAccount := by
  have := congrArg GatewaySettings.protocolTokenAccount h.fixed
  exact this

lemma penalties (h : Kept s s') :
    s'.settings.minExpeditedWithdrawalPenalty = s.settings.minExpeditedWithdrawalPenalty ∧
    s'.settings.maxExpeditedWithdrawalPenalty = s.settings.maxExpeditedWithdrawalPenalty := by
  have h1 := congrArg GatewaySettings.minExpeditedWithdrawalPenalty h.fixed
  have h2 := congrArg GatewaySettings.maxExpeditedWithdrawalPenalty h.fixed
  exact ⟨h1, h2⟩

lemma minOperatorStake (h : Kept s s') :
    s'.settings.minOperatorStake = s.settings.minOperatorStake := by
  have := congrArg GatewaySettings.minOperatorStake h.fixed
  exact this

end Kept

section LedgerFacts

variable {env : Env} {s : State} {k u a b : Pubkey} {g : Gateway} {d : Delegation} {t : Tokens}
  {amount : ℕ}

lemma Footing.treasury_ne_pool (h : Footing env s) :
    s.settings.protocolTokenAccount ≠ s.settings.stakeTokenAccount := by
  intro heq
  have hp := h.pool
  rw [← heq, h.treasury] at hp
  simp only [Option.some.injEq, Prod.mk.injEq, true_and] at hp
  exact h.addresses hp.symm

lemma Footing.wallet_ne_pool (h : Footing env s) (hu : env.CanSign u)
    (ha : s.tokens.terms a = some (s.settings.mint, u)) : a ≠ s.settings.stakeTokenAccount := by
  rintro rfl
  rw [h.pool] at ha
  simp only [Option.some.injEq, Prod.mk.injEq, true_and] at ha
  exact hu.2.1 ha.symm

lemma Ledger.tokens_lt (h : Ledger env s) : (book s).tokens < 2 ^ 64 := by
  have hle : (s.tokens.balance s.settings.stakeTokenAccount : ℤ)
      ≤ s.tokens.supply s.settings.mint := Tokens.balance_le_supply (by simp [h.pool])
  have := h.supply
  simp only [book, bookOf]
  omega

lemma Ledger.footing (h : Ledger env s) : Footing env s where
  addresses := h.addresses
  pool := h.pool
  treasury := h.treasury
  supply := h.supply
  penalties := h.penalties
  withdrawals := h.withdrawals
  gateways k g hg := by
    refine ⟨h.gateways k g hg, ?_⟩
    have hcap := h.solvent.own_le_total k
    have := h.solvent.rounded precision_pos
    obtain ⟨n1, n2, n3, n4⟩ := h.solvent.totals_nonneg precision_pos
    have hlt := h.tokens_lt
    rw [(book_gateway hg).1] at hcap
    zify
    linarith

lemma Ledger.treasury_ne_pool (h : Ledger env s) :
    s.settings.protocolTokenAccount ≠ s.settings.stakeTokenAccount := h.footing.treasury_ne_pool

lemma Ledger.wallet_ne_pool (h : Ledger env s) (hu : env.CanSign u)
    (ha : s.tokens.terms a = some (s.settings.mint, u)) : a ≠ s.settings.stakeTokenAccount :=
  h.footing.wallet_ne_pool hu ha

/-! ### Settlement -/

/-- The two ways to compute a pending reward agree wherever the reward is a word. -/
lemma pendingRewards_eq {amount delta : ℕ} (ha : amount < 2 ^ 64)
    (h : amount * delta / rewardPrecision < 2 ^ 64) :
    pendingRewards amount delta = amount * delta / rewardPrecision := by
  unfold pendingRewards checkedMul
  split
  · simp
  · have hsplit : amount * delta / rewardPrecision = amount * (delta / rewardPrecision)
        + amount * (delta % rewardPrecision) / rewardPrecision := by
      conv_lhs => rw [← Nat.div_add_mod delta rewardPrecision]
      rw [show amount * (rewardPrecision * (delta / rewardPrecision) + delta % rewardPrecision)
        = amount * (delta % rewardPrecision) + rewardPrecision *
          (amount * (delta / rewardPrecision))
        by ring, Nat.add_mul_div_left _ _ (by decide), add_comm]
    have hrem : amount * (delta % rewardPrecision) < 2 ^ 64 * rewardPrecision :=
      Nat.mul_lt_mul'' ha (Nat.mod_lt _ (by decide))
    have hrem' : amount * (delta % rewardPrecision) < 2 ^ 128 := hrem.trans (by decide)
    rw [hsplit] at h ⊢
    have hquot : amount * (delta / rewardPrecision) < 2 ^ 128 := by
      have := (Nat.le_add_right _ _).trans_lt h
      omega
    simp only [Option.map_none, Option.getD_none]
    rw [saturatingMul_of_lt hquot, saturatingMul_of_lt hrem', saturatingAdd_of_lt (by omega)]

/-- **Settlement.** In a solvent state whose tokens fit in a word, a settlement credits the
pending reward of the book, without cutting it, to the gateway and to the delegation. -/
theorem settleDelegateRewards_spec (hb : (book s).Solvent precision)
    (ht : (book s).tokens < 2 ^ 64) (hg : s.gateways k = some g)
    (hd : (s.delegations (k, u)).getD Delegation.zeroed = d) :
    ((settleDelegateRewards g d).settled : ℤ) = (book s).pending precision k u ∧
    (settleDelegateRewards g d).gateway = { g with
      totalDelegatedStake := g.totalDelegatedStake + (settleDelegateRewards g d).settled } ∧
    (settleDelegateRewards g d).delegation = { d with
      amount := d.amount + (settleDelegateRewards g d).settled
      rewardDebt := g.cumulativeRewardPerToken } := by
  obtain ⟨hown, hshares, hindex⟩ := book_gateway hg
  obtain ⟨hprin, hmark⟩ := book_delegation hd
  have hle := hb.single_le precision_pos k u k (u, 0)
  have hpend := hb.pending_nonneg precision_pos k u
  have hps := hb.principal_le_shares k u
  have hv := hb.vault_nonneg (u, (0 : WithdrawalId))
  have ho := hb.own_nonneg k
  have hpu : (book s).pending precision k u
      = (d.amount : ℤ) * (g.cumulativeRewardPerToken - d.rewardDebt) / precision := by
    rw [Book.pending, hprin, hmark, hindex]
  have hsettled : ((settleDelegateRewards g d).settled : ℤ) = (book s).pending precision k u := by
    simp only [settleDelegateRewards]
    split
    · rename_i hcond
      obtain ⟨hpos, hlt⟩ := hcond
      have hcast : (book s).pending precision k u
          = (d.amount * (g.cumulativeRewardPerToken - d.rewardDebt) / rewardPrecision : ℕ) := by
        rw [hpu]
        push_cast [Nat.cast_sub hlt.le, rewardPrecision]
        rfl
      have hlt64 : d.amount * (g.cumulativeRewardPerToken - d.rewardDebt) / rewardPrecision
          < 2 ^ 64 := by omega
      rw [pendingRewards_eq (by omega) hlt64, tryFrom, if_pos hlt64, Option.getD_some, hcast]
    · rename_i hcond
      have hzero : (d.amount : ℤ) * (g.cumulativeRewardPerToken - d.rewardDebt) = 0 := by
        rcases Nat.eq_zero_or_pos d.amount with h0 | hpos
        · simp [h0]
        · have hm := hb.marked k u (by omega)
          have : g.cumulativeRewardPerToken = d.rewardDebt := by omega
          simp [this]
      rw [hpu, hzero]
      simp
  have hsum : g.totalDelegatedStake + (settleDelegateRewards g d).settled < 2 ^ 64 := by omega
  have hsum' : d.amount + (settleDelegateRewards g d).settled < 2 ^ 64 := by omega
  refine ⟨hsettled, ?_, ?_⟩
  · have hg' : (settleDelegateRewards g d).gateway = { g with
        totalDelegatedStake := if 0 < (settleDelegateRewards g d).settled
          then saturatingAdd 64 g.totalDelegatedStake (settleDelegateRewards g d).settled
          else g.totalDelegatedStake } := rfl
    rw [hg']
    congr 1
    split
    · rw [saturatingAdd_of_lt hsum]
    · omega
  · have hd' : (settleDelegateRewards g d).delegation = { d with
        amount := if 0 < (settleDelegateRewards g d).settled
          then saturatingAdd 64 d.amount (settleDelegateRewards g d).settled else d.amount
        rewardDebt := g.cumulativeRewardPerToken } := rfl
    rw [hd']
    congr 1
    split
    · rw [saturatingAdd_of_lt hsum']
    · omega

lemma Exact.settled_lt (he : Exact s) (hL : Ledger env s) (hg : s.gateways k = some g)
    (hd : (s.delegations (k, u)).getD Delegation.zeroed = d) :
    s.settings.totalDelegated + (settleDelegateRewards g d).settled < 2 ^ 64 := by
  obtain ⟨hpend, -, -⟩ := settleDelegateRewards_spec hL.solvent hL.tokens_lt hg hd
  have hone := hL.solvent.pending_le_total precision_pos k u
  obtain ⟨hn1, -, hn3, -⟩ := hL.solvent.totals_nonneg precision_pos
  have hsum := hL.solvent.rounded precision_pos
  have hlt := hL.tokens_lt
  have h2 := he.delegated
  zify
  linarith

lemma Exact.settled_add_lt {k' : Pubkey} {g' : Gateway} {d' : Delegation} (he : Exact s)
    (hL : Ledger env s) (hne : k ≠ k') (hg : s.gateways k = some g)
    (hd : (s.delegations (k, u)).getD Delegation.zeroed = d) (hg' : s.gateways k' = some g')
    (hd' : (s.delegations (k', u)).getD Delegation.zeroed = d') :
    s.settings.totalDelegated + ((settleDelegateRewards g d).settled
      + (settleDelegateRewards g' d').settled) < 2 ^ 64 := by
  obtain ⟨hpend, -, -⟩ := settleDelegateRewards_spec hL.solvent hL.tokens_lt hg hd
  obtain ⟨hpend', -, -⟩ := settleDelegateRewards_spec hL.solvent hL.tokens_lt hg' hd'
  have hone := hL.solvent.pending_add_le_total precision_pos hne u
  obtain ⟨hn1, -, hn3, -⟩ := hL.solvent.totals_nonneg precision_pos
  have hsum := hL.solvent.rounded precision_pos
  have hlt := hL.tokens_lt
  have h2 := he.delegated
  zify
  linarith

lemma Exact.staked_le (he : Exact s) (hL : Ledger env s) (hg : s.gateways k = some g) :
    g.operatorStake ≤ s.settings.totalStaked := by
  have := hL.solvent.own_le_total k
  have h1 := he.staked
  rw [(book_gateway hg).1] at this
  zify
  linarith

lemma Exact.delegated_le (he : Exact s) (hL : Ledger env s) (hg : s.gateways k = some g) :
    g.totalDelegatedStake ≤ s.settings.totalDelegated := by
  have := hL.solvent.shares_le_total k
  have h2 := he.delegated
  rw [(book_gateway hg).2.1] at this
  zify
  linarith

lemma Exact.withdrawn_le {w : Withdrawal} {id : WithdrawalId} (he : Exact s) (hL : Ledger env s)
    (hw : s.withdrawals (u, id) = some w) : w.amount ≤ s.settings.totalWithdrawn := by
  have := hL.solvent.vault_le_total (u, id)
  have h3 := he.withdrawn
  rw [book_withdrawal hw] at this
  zify
  linarith

lemma Ledger.settled_amount_le (hL : Ledger env s) (hg : s.gateways k = some g)
    (hd : (s.delegations (k, u)).getD Delegation.zeroed = d) (hle : amount ≤ d.amount +
      (settleDelegateRewards g d).settled) :
    amount ≤ g.totalDelegatedStake + (settleDelegateRewards g d).settled := by
  have := hL.solvent.principal_le_shares k u
  rw [(book_gateway hg).2.1, (book_delegation hd).1] at this
  have : d.amount ≤ g.totalDelegatedStake := by exact_mod_cast this
  exact hle.trans (Nat.add_le_add_right this _)

/-! ### Token movements -/

lemma deposit (hne : a ≠ s.settings.stakeTokenAccount)
    (h : Tokens.Transferred s.tokens t a s.settings.stakeTokenAccount b amount) :
    (t.balance s.settings.stakeTokenAccount : ℤ) = (book s).tokens + amount := by
  have := h.balance_eq s.settings.stakeTokenAccount
  simp [Ne.symm hne] at this
  simpa [book, bookOf] using this

lemma spend (hne : a ≠ s.settings.stakeTokenAccount)
    (h : Tokens.Transferred s.tokens t s.settings.stakeTokenAccount a b amount) :
    (t.balance s.settings.stakeTokenAccount : ℤ) = (book s).tokens - amount := by
  have := h.balance_eq s.settings.stakeTokenAccount
  simp [Ne.symm hne] at this
  simpa [book, bookOf] using this

end LedgerFacts

end Gar
end ArioSolana
