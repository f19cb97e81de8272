import ArioSolana.GarSteps

/-!
# The accounting over whole runs

Every step keeps the ledger and the registry in order, whoever takes it. The sums that the
accounts stand for are stated here in the words of the program, and read off the ledger.
-/

namespace ArioSolana
namespace Gar

open Checked Solana Book Finset

attribute [local irreducible] book settleDelegateRewards Book.pending

/-! ### Sums over the accounts -/

namespace State

/-- The delegated stake that all gateways count. -/
def delegatedStakes (s : State) : ℕ := ∑ k, (s.gateways k).elim 0 (·.totalDelegatedStake)

/-- The amounts of all withdrawals. -/
def withdrawalAmounts (s : State) : ℕ := ∑ k, (s.withdrawals k).elim 0 (·.amount)

/-- The amounts of all delegations to a gateway. -/
def delegatedTo (s : State) (gateway : Pubkey) : ℕ :=
  ∑ u, (s.delegations (gateway, u)).elim 0 (·.amount)

/-- What a settlement of a delegation would credit now. -/
def pendingReward (s : State) (gateway delegator : Pubkey) : ℕ :=
  match s.gateways gateway, s.delegations (gateway, delegator) with
  | some g, some d => (settleDelegateRewards g d).settled
  | _, _ => 0

/-- What settlements of all delegations would credit now. -/
def pendingRewards (s : State) : ℕ := ∑ k : Pubkey × Pubkey, s.pendingReward k.1 k.2

/-- Everything that belongs to `u`: the stake of its gateway, its delegations with the rewards
they would be credited now, and its withdrawals. -/
def claim (s : State) (u : Pubkey) : ℕ :=
  (s.gateways u).elim 0 (·.operatorStake)
    + ∑ k, ((s.delegations (k, u)).elim 0 (·.amount) + s.pendingReward k u)
    + ∑ id, (s.withdrawals (u, id)).elim 0 (·.amount)

/-- The tokens in the stake pool. -/
def poolBalance (s : State) : ℕ := s.tokens.balance s.settings.stakeTokenAccount

end State

variable {env : Env} {s s' s₀ : State} {k u : Pubkey} {tr : Trace} {e : Event}

section Sums

attribute [local semireducible] book

lemma totalOwn_eq (s : State) : (book s).totalOwn = s.operatorStakes := by
  rw [totalOwn, State.operatorStakes, Nat.cast_sum]
  refine sum_congr rfl fun k _ => ?_
  cases h : s.gateways k <;> simp [book, bookOf, h]

lemma totalShares_eq (s : State) : (book s).totalShares = s.delegatedStakes := by
  rw [totalShares, State.delegatedStakes, Nat.cast_sum]
  refine sum_congr rfl fun k _ => ?_
  cases h : s.gateways k <;> simp [book, bookOf, h]

lemma totalVault_eq (s : State) : (book s).totalVault = s.withdrawalAmounts := by
  rw [totalVault, State.withdrawalAmounts, Nat.cast_sum]
  refine sum_congr rfl fun k _ => ?_
  cases h : s.withdrawals k <;> simp [book, bookOf, h]

lemma principal_eq (s : State) (k u : Pubkey) :
    (book s).principal (k, u) = ((s.delegations (k, u)).elim 0 (·.amount) : ℕ) := by
  cases h : s.delegations (k, u) <;> simp [book, bookOf, h]

lemma own_eq (s : State) (k : Pubkey) :
    (book s).own k = ((s.gateways k).elim 0 (·.operatorStake) : ℕ) := by
  cases h : s.gateways k <;> simp [book, bookOf, h]

lemma shares_eq (s : State) (k : Pubkey) :
    (book s).shares k = ((s.gateways k).elim 0 (·.totalDelegatedStake) : ℕ) := by
  cases h : s.gateways k <;> simp [book, bookOf, h]

lemma vault_eq (s : State) (k : Pubkey × WithdrawalId) :
    (book s).vault k = ((s.withdrawals k).elim 0 (·.amount) : ℕ) := by
  cases h : s.withdrawals k <;> simp [book, bookOf, h]

end Sums

lemma sum_principal_eq (s : State) (k : Pubkey) :
    ∑ u, (book s).principal (k, u) = s.delegatedTo k := by
  rw [State.delegatedTo, Nat.cast_sum]
  exact sum_congr rfl fun u _ => principal_eq s k u

lemma pending_eq (hL : Ledger env s) (k u : Pubkey) :
    (book s).pending precision k u = s.pendingReward k u := by
  have hzero : (book s).principal (k, u) = 0 → (book s).pending precision k u = 0 := by
    intro h
    rw [Book.pending, h]
    simp
  unfold State.pendingReward
  cases hg : s.gateways k with
  | none =>
    refine hzero (le_antisymm ?_ (hL.solvent.principal_nonneg _))
    have := hL.solvent.principal_le_shares k u
    rwa [(book_no_gateway hg).2.1] at this
  | some g =>
    cases hd : s.delegations (k, u) with
    | none =>
      refine hzero ?_
      rw [principal_eq, hd]
      rfl
    | some d =>
      exact (settleDelegateRewards_spec hL.solvent hL.tokens_lt hg (by rw [hd]; rfl)).1.symm

lemma totalPending_eq (hL : Ledger env s) :
    (book s).totalPending precision = s.pendingRewards := by
  rw [totalPending, State.pendingRewards, Nat.cast_sum]
  exact sum_congr rfl fun k _ => pending_eq hL k.1 k.2

lemma claim_eq (hL : Ledger env s) (u : Pubkey) :
    Book.claim id precision (book s) u = s.claim u := by
  rw [Book.claim, State.claim]
  push_cast
  refine congrArg₂ (· + ·) (congrArg₂ (· + ·) ?_ ?_) ?_
  · simp [own_eq]
  · exact sum_congr rfl fun k _ => by rw [principal_eq, pending_eq hL]
  · exact sum_congr rfl fun i _ => vault_eq s (u, i)

/-! ### One step -/

/-- The stake that a gateway counts covers its delegations. -/
def Covered (s : State) : Prop :=
  ∀ k g, s.gateways k = some g → s.delegatedTo k ≤ g.totalDelegatedStake

/-- The event is an instruction of the given kind. -/
def Event.Calls (e : Event) (P : Instruction → Prop) : Prop :=
  ∃ i, e.action = .call i ∧ P i

def Instruction.IsReconcile : Instruction → Prop
  | .adminReconcileDelegatedStake .. => True
  | _ => False

def Instruction.IsResync : Instruction → Prop
  | .adminResyncSupplyCounters .. => True
  | _ => False

lemma Footprint.footing (hF : Footing env s) (h : Footprint s s') : Footing env s' where
  addresses := hF.addresses
  pool := by rw [h.kept.terms, h.kept.stakeTokenAccount, h.kept.mint]; exact hF.pool
  treasury := by rw [h.kept.terms, h.kept.protocolTokenAccount, h.kept.mint]; exact hF.treasury
  supply := by rw [h.kept.supply, h.kept.mint]; exact hF.supply
  penalties := by rw [h.kept.penalties.1, h.kept.penalties.2]; exact hF.penalties
  gateways := by rw [h.kept.minOperatorStake]; exact h.gateways
  withdrawals := h.withdrawals

lemma Footing.ledger (hF : Footing env s) (h : (book s).Solvent precision) : Ledger env s where
  solvent := h
  addresses := hF.addresses
  pool := hF.pool
  treasury := hF.treasury
  supply := hF.supply
  penalties := hF.penalties
  gateways k g hg := (hF.gateways k g hg).toStakeOk
  withdrawals := hF.withdrawals

lemma Ledger.of_moves (hL : Ledger env s) {ms : List (Move Pubkey Pubkey WithdrawalId)}
    (hadm : AdmitsAll precision ms (book s)) (hbook : book s' = play precision ms (book s))
    (h : Footprint s s') : Ledger env s' :=
  (h.footing hL.footing).ledger (hbook ▸ hL.solvent.play precision_pos hadm)

lemma Effect.ledger (hL : Ledger env s) (h : Effect s s' u) : Ledger env s' := by
  obtain ⟨ms, -, hadm, hbook⟩ := h.posted
  exact hL.of_moves hadm hbook h.toFootprint

lemma Gain.ledger (hL : Ledger env s) (h : Gain s s') : Ledger env s' := by
  obtain ⟨ms, -, hadm, hbook⟩ := h.posted
  exact hL.of_moves hadm hbook h.toFootprint

lemma reconcile_effect {authority : Pubkey} {remaining : List AccountMeta} {counter removed : ℕ}
    (hL : Ledger env s)
    (h : adminReconcileDelegatedStake authority k remaining counter removed s = .ok s') :
    (book s' = play precision [.lower k removed] (book s)) ∧
    (Covered s' → Ledger env s') ∧ (Exact s → Exact s') := by
  obtain ⟨g, sum, hg, hsum, hle, hs'⟩ := adminReconcileDelegatedStake_ok h
  obtain ⟨hown, hshares, hindex⟩ := book_gateway hg
  have hbook : book s' = play precision [.lower k removed] (book s) := by
    rw [hs', book_mk, bookOf_gateway, bookOf_self]
    have : (sum : ℤ) = g.totalDelegatedStake - removed := by rw [← hsum]; push_cast; ring
    simp [Book.apply, ← hown, ← hindex, hshares, this, balance_eq]
  refine ⟨hbook, fun hcov => ?_, fun he => ?_⟩
  · have hcov' := hcov k { g with totalDelegatedStake := sum } (by rw [hs']; simp)
    have hsame : s'.delegatedTo k = s.delegatedTo k := by rw [hs']; rfl
    have hadm : AdmitsAll precision [.lower k removed] (book s) := by
      simp only [AdmitsAll, Admits, and_true]
      refine ⟨Int.natCast_nonneg _, ?_⟩
      rw [sum_principal_eq, hshares, ← hsum, ← hsame]
      push_cast
      simp only at hcov'
      zify at hcov'
      linarith
    have hok := hL.footing.gateways _ _ hg
    refine hL.of_moves hadm hbook ?_
    rw [hs']
    exact ⟨sound_update hL.footing.gateways hok.counts, hL.withdrawals, .of_fixed rfl rfl⟩
  · have h1 := he.staked
    have h2 := he.delegated
    have h3 := he.withdrawn
    refine ⟨?_, ?_, ?_⟩ <;> rw [hbook, hs'] <;>
      simp [ownChange, sharesChange, vaultChange, Nat.cast_sub hle] <;> linarith

lemma walletTransfer_footprint {source destination authority : Pubkey} {amount : ℕ} {t : Tokens}
    (hF : Footing env s) (h : s.tokens.transfer source destination authority amount = .ok t)
    (hs' : s' = { s with tokens := t }) : Footprint s s' := by
  rw [hs']
  exact ⟨hF.gateways, hF.withdrawals, .of_transferred rfl (Tokens.transfer_ok h)⟩

lemma walletTransfer_gain {source destination authority : Pubkey} {amount : ℕ} {t : Tokens}
    (hL : Ledger env s) (hne : authority ≠ env.settingsPda)
    (h : s.tokens.transfer source destination authority amount = .ok t)
    (hs' : s' = { s with tokens := t }) : Gain s s' := by
  have htr := Tokens.transfer_ok h
  have hsrc : s.settings.stakeTokenAccount ≠ source := by
    rintro rfl
    obtain ⟨src, hsrc, hown, -⟩ := htr.source_exists
    have hpool := hL.pool
    simp only [Tokens.terms, hsrc, Option.map_some, Option.some.injEq, Prod.mk.injEq] at hpool
    exact hne (hown.trans hpool.2)
  have hbal := htr.balance_eq s.settings.stakeTokenAccount
  rw [if_neg hsrc, sub_zero, balance_eq] at hbal
  have hbook : book s' = play precision [.donate (if s.settings.stakeTokenAccount = destination
      then (amount : ℤ) else 0)] (book s) := by
    rw [hs', book_mk, bookOf_self, hbal]
    simp [Book.apply]
  refine ⟨walletTransfer_footprint hL.footing h hs', ⟨_, ?_, ?_, hbook⟩, fun he => ?_⟩
  · intro m hm
    rw [List.mem_singleton.mp hm]
    trivial
  · simp only [AdmitsAll, Admits, and_true]
    split <;> simp
  · have h1 := he.staked
    have h2 := he.delegated
    have h3 := he.withdrawn
    refine ⟨?_, ?_, ?_⟩ <;> rw [hbook, hs'] <;>
      simp [ownChange, sharesChange, vaultChange] <;> linarith

lemma openTokenAccount_footing {key mint owner : Pubkey} (hF : Footing env s)
    (hnone : s.tokens.accounts key = none)
    (hs' : s' = { s with tokens := { s.tokens with
      accounts := Function.update s.tokens.accounts key (some ⟨mint, owner, 0⟩) } }) :
    book s' = book s ∧ Footing env s' := by
  have hne : ∀ a x, s.tokens.terms a = some x → a ≠ key := by
    rintro a x ha rfl
    simp [Tokens.terms, hnone] at ha
  have hterms : ∀ a ≠ key, s'.tokens.terms a = s.tokens.terms a := by
    intro a ha
    rw [hs']
    simp [Tokens.terms, ha]
  have hbal : ∀ a, s'.tokens.balance a = s.tokens.balance a := by
    intro a
    rw [hs']
    by_cases ha : a = key
    · subst ha; simp [Tokens.balance, hnone]
    · simp [Tokens.balance, ha]
  have hset : s'.settings = s.settings := by rw [hs']
  have hbook : book s' = book s := by
    have := hbal s.settings.stakeTokenAccount
    rw [hs'] at this ⊢
    rw [book_mk, this, bookOf_self, balance_eq]
  have hsup : s'.tokens.supply s.settings.mint = s.tokens.supply s.settings.mint := by
    refine sum_congr rfl fun a _ => ?_
    rw [hbal a]
    by_cases ha : a = key
    · subst ha
      simp [Tokens.balance, hnone]
    · rw [hterms a ha]
  refine ⟨hbook, hF.addresses, ?_, ?_, ?_, ?_, ?_, ?_⟩
  · rw [hset, hterms _ (hne _ _ hF.pool)]; exact hF.pool
  · rw [hset, hterms _ (hne _ _ hF.treasury)]; exact hF.treasury
  · rw [hset, hsup]; exact hF.supply
  · rw [hset]; exact hF.penalties
  · rw [hs']; exact hF.gateways
  · rw [hs']; exact hF.withdrawals

/-- **One step.** What the accounting rests on stays, and the registry stays in order. -/
theorem step_footing (hF : Footing env s) (hR : Registered s) (h : GarStep env s e s') :
    Footing env s' ∧ Registered s' := by
  obtain ⟨clock, action⟩ := e
  simp only [GarStep, Event.exec] at h
  cases action with
  | call i =>
    simp only [Instruction.exec, bind_eq_ok, require_eq_ok, exists_const] at h
    obtain ⟨hsign, h⟩ := h
    exact ⟨(handler_footprint hF hR h).footing hF, handler_registered hF hR hsign h⟩
  | walletTransfer source destination authority amount =>
    simp only [bind_eq_ok, require_eq_ok, splTransfer_eq_ok, exists_const] at h
    obtain ⟨-, t, ht, hs'⟩ := h
    refine ⟨(walletTransfer_footprint hF ht hs').footing hF, ?_⟩
    rw [hs']
    exact hR.of_sameSeats (.of_registry rfl rfl)
  | openTokenAccount key mint owner =>
    simp only [bind_eq_ok, requireAbsent_eq_ok, pure_eq_ok, exists_const] at h
    obtain ⟨hnone, rfl⟩ := h
    exact ⟨(openTokenAccount_footing hF hnone rfl).2, hR.of_sameSeats (.of_registry rfl rfl)⟩

/-- **One step.** It keeps the ledger and the registry in order, provided that a reconciliation
leaves the counter it writes at or above the delegations that it stands for. -/
theorem step_ledger (hL : Ledger env s) (hR : Registered s) (h : GarStep env s e s')
    (hcov : e.Calls Instruction.IsReconcile → Covered s') :
    Ledger env s' ∧ Registered s' := by
  refine ⟨?_, (step_footing hL.footing hR h).2⟩
  obtain ⟨clock, action⟩ := e
  simp only [GarStep, Event.exec] at h
  cases action with
  | call i =>
    simp only [Instruction.exec, bind_eq_ok, require_eq_ok, exists_const] at h
    obtain ⟨hsign, h⟩ := h
    by_cases hi : i.IsSpecial
    · cases i <;> try exact hi.elim
      case adminReconcileDelegatedStake authority gateway remaining counter removed =>
        exact (reconcile_effect hL h).2.1 (hcov ⟨_, rfl, trivial⟩)
      case adminResyncSupplyCounters authority es ns ed nd =>
        refine ((handler_footprint hL.footing hR h).footing hL.footing).ledger ?_
        rw [adminResyncSupplyCounters_ok h, book_settings]
        exact hL.solvent
      case distributeEpoch index treasury pool remaining =>
        exact (distributeEpoch_gain hL hR h).ledger hL
    · exact (handler_effect hL hsign hi h).ledger hL
  | walletTransfer source destination authority amount =>
    simp only [bind_eq_ok, require_eq_ok, splTransfer_eq_ok, exists_const] at h
    obtain ⟨hne, t, ht, hs'⟩ := h
    exact (walletTransfer_gain hL hne ht hs').ledger hL
  | openTokenAccount key mint owner =>
    simp only [bind_eq_ok, requireAbsent_eq_ok, pure_eq_ok, exists_const] at h
    obtain ⟨hnone, rfl⟩ := h
    obtain ⟨hbook, hF⟩ := openTokenAccount_footing hL.footing hnone rfl
    exact hF.ledger (hbook ▸ hL.solvent)

/-- **One step and the counters.** Every step but a resynchronization keeps them exact. -/
theorem step_exact (hL : Ledger env s) (hR : Registered s) (h : GarStep env s e s')
    (hsync : ¬ e.Calls Instruction.IsResync) (he : Exact s) : Exact s' := by
  obtain ⟨clock, action⟩ := e
  simp only [GarStep, Event.exec] at h
  cases action with
  | call i =>
    simp only [Instruction.exec, bind_eq_ok, require_eq_ok, exists_const] at h
    obtain ⟨hsign, h⟩ := h
    by_cases hi : i.IsSpecial
    · cases i <;> try exact hi.elim
      case adminReconcileDelegatedStake authority gateway remaining counter removed =>
        exact (reconcile_effect hL h).2.2 he
      case adminResyncSupplyCounters authority es ns ed nd =>
        exact absurd ⟨_, rfl, trivial⟩ hsync
      case distributeEpoch index treasury pool remaining =>
        exact (distributeEpoch_gain hL hR h).exact he
    · exact (handler_effect hL hsign hi h).exact he
  | walletTransfer source destination authority amount =>
    simp only [bind_eq_ok, require_eq_ok, splTransfer_eq_ok, exists_const] at h
    obtain ⟨hne, t, ht, hs'⟩ := h
    exact (walletTransfer_gain hL hne ht hs').exact he
  | openTokenAccount key mint owner =>
    simp only [bind_eq_ok, requireAbsent_eq_ok, pure_eq_ok, exists_const] at h
    obtain ⟨hnone, hs'⟩ := h
    have hbook := (openTokenAccount_footing hL.footing hnone hs'.symm).1
    rw [← hs'] at hbook ⊢
    exact ⟨by rw [hbook]; exact he.staked, by rw [hbook]; exact he.delegated,
      by rw [hbook]; exact he.withdrawn⟩

/-! ### Runs -/

/-- A fresh program has an empty ledger and an empty registry. -/
theorem Fresh.sound (h : Fresh env s) : Ledger env s ∧ Registered s ∧ Exact s := by
  obtain ⟨⟨payer, mint, params, tokens, hinit⟩, haddr, hpool, htreasury, hsupply⟩ := h
  simp only [initializeGar, bind_eq_ok, require_eq_ok, pure_eq_ok, exists_const] at hinit
  obtain ⟨-, hs⟩ := hinit
  have hG : ∀ k, s.gateways k = none := fun k => by rw [← hs]
  have hD : ∀ k, s.delegations k = none := fun k => by rw [← hs]
  have hW : ∀ k, s.withdrawals k = none := fun k => by rw [← hs]
  have hprin : ∀ k, (book s).principal k = 0 := fun k => by rw [principal_eq, hD]; rfl
  have hown : (book s).totalOwn = 0 := by
    rw [totalOwn_eq, State.operatorStakes]
    simp [hG]
  have hshares : (book s).totalShares = 0 := by
    rw [totalShares_eq, State.delegatedStakes]
    simp [hG]
  have hvault : (book s).totalVault = 0 := by
    rw [totalVault_eq, State.withdrawalAmounts]
    simp [hW]
  refine ⟨⟨⟨?_, ?_, ?_, ?_, ?_, ?_⟩, haddr, hpool, htreasury, hsupply, ?_, ?_, ?_⟩,
    ⟨?_, ?_, ?_, ?_, ?_, ?_, ?_⟩, ⟨?_, ?_, ?_⟩⟩
  · intro k; rw [own_eq, hG]; rfl
  · intro k; rw [hprin]
  · intro k; rw [vault_eq, hW]; rfl
  · intro k
    rw [shares_eq, hG]
    simp [hprin]
  · intro k u hpos
    rw [hprin] at hpos
    exact absurd hpos (lt_irrefl _)
  · rw [liability, hown, hshares, hvault, accrued]
    simp only [hprin, zero_mul, sum_const_zero, add_zero, mul_zero]
    rw [← balance_eq]
    exact mul_nonneg precision_pos.le (Int.natCast_nonneg _)
  · rw [← hs]; exact ⟨by simp only; decide, by simp only; decide⟩
  · intro k g hg; rw [hG] at hg; cases hg
  · intro k i w hw; rw [hW] at hw; cases hw
  · rw [← hs]; exact Nat.zero_le _
  · intro k g hg; rw [hG] at hg; cases hg
  · intro k g hg; rw [hG] at hg; cases hg
  · intro k g hg; rw [hG] at hg; cases hg
  · intro k g hg; rw [hG] at hg; cases hg
  · intro i hi; rw [← hs] at hi; exact absurd hi (Nat.not_lt_zero _)
  · intro i _; rw [← hs]
  · rw [hown, ← hs]; rfl
  · rw [hshares, ← hs]; rfl
  · rw [hvault, ← hs]; rfl

/-- Every reconciliation of a history leaves the counters that it writes at or above the
delegations that they stand for. -/
def Reconciled (tr : Trace) : Prop :=
  ∀ x ∈ tr, x.label.Calls Instruction.IsReconcile → Covered x.after

/-- No event of a history is an instruction of the given kind. -/
def Trace.Avoids (tr : Trace) (P : Instruction → Prop) : Prop := ∀ x ∈ tr, ¬ x.label.Calls P

lemma Trace.Avoids.reconciled (h : tr.Avoids Instruction.IsReconcile) : Reconciled tr :=
  fun x hx hc => absurd hc (h x hx)

/-- **Whole runs.** What the accounting rests on holds in every state that is reached, and the
registry is in order. -/
theorem run_footing (hfresh : Fresh env s₀) (run : Run (GarStep env) s₀ tr s) :
    Footing env s ∧ Registered s := by
  induction run with
  | nil => exact ⟨hfresh.sound.1.footing, hfresh.sound.2.1⟩
  | cons run last ih => exact step_footing ih.1 ih.2 last

/-- The ledger is in order in every state that is reached. -/
theorem run_ledger (hfresh : Fresh env s₀) (run : Run (GarStep env) s₀ tr s)
    (hrec : Reconciled tr) : Ledger env s ∧ Registered s := by
  induction run with
  | nil => exact ⟨hfresh.sound.1, hfresh.sound.2.1⟩
  | cons run last ih =>
    obtain ⟨hL, hR⟩ := ih fun x hx => hrec x (List.mem_cons_of_mem _ hx)
    exact step_ledger hL hR last (hrec _ List.mem_cons_self)

/-! ### A small network -/

namespace SmallNetwork

/-- Keys and addresses are small numbers here. -/
def chain : Env where
  settingsPda := ⟨1⟩
  arioConfig := ⟨2⟩
  coreTreasury := ⟨12⟩
  upgradeAuthority := some ⟨3⟩
  nameRegistryPda := fun k => k
  hash := fun _ => 0

/-- The mint is 10, the pool 11 and the treasury 12; the account of wallet `n` is `n + 10`. -/
def tokens : Tokens where
  accounts := Tokens.accountsOf [(⟨11⟩, ⟨⟨10⟩, ⟨1⟩, 0⟩), (⟨12⟩, ⟨⟨10⟩, ⟨2⟩, 1000000000000⟩),
    (⟨31⟩, ⟨⟨10⟩, ⟨21⟩, 100000000000⟩), (⟨32⟩, ⟨⟨10⟩, ⟨22⟩, 100000000000⟩),
    (⟨33⟩, ⟨⟨10⟩, ⟨23⟩, 100000000000⟩), (⟨34⟩, ⟨⟨10⟩, ⟨24⟩, 100000000000⟩)]
  transfers := []

def start : State :=
  (initializeGar chain ⟨3⟩ ⟨10⟩ ⟨⟨4⟩, ⟨5⟩, ⟨11⟩, ⟨12⟩, ⟨13⟩⟩ tokens).toOption.get
    (by decide +kernel)

lemma start_eq : initializeGar chain ⟨3⟩ ⟨10⟩ ⟨⟨4⟩, ⟨5⟩, ⟨11⟩, ⟨12⟩, ⟨13⟩⟩ tokens = .ok start := by
  have h : (initializeGar chain ⟨3⟩ ⟨10⟩ ⟨⟨4⟩, ⟨5⟩, ⟨11⟩, ⟨12⟩, ⟨13⟩⟩ tokens).toOption
      = some start := by rw [start, Option.some_get]
  revert h
  cases initializeGar chain ⟨3⟩ ⟨10⟩ ⟨⟨4⟩, ⟨5⟩, ⟨11⟩, ⟨12⟩, ⟨13⟩⟩ tokens with
  | ok s => exact fun h => congrArg _ (Option.some.inj h)
  | error e => exact fun h => by cases h

theorem fresh : Fresh chain start where
  initialized := ⟨_, _, _, _, start_eq⟩
  addresses := by decide +kernel
  pool := by decide +kernel
  treasury := by decide +kernel
  supply := by
    rw [show start.tokens = tokens from rfl]
    refine (Tokens.supply_accountsOf_le _ _).trans_lt ?_
    norm_num

/-- Operator `n` joins, with observer `n + 20`, and lets delegates in for half of the rewards. -/
def join (n : Fin (2 ^ 256)) : Event := ⟨⟨0, 1000⟩, .call (.joinNetwork ⟨n⟩ ⟨n + 10⟩ ⟨11⟩ {
  operatorStake := 30000000000
  label := [97]
  fqdn := [97]
  port := 443
  protocol := .https
  properties := none
  note := none
  allowDelegatedStaking := true
  delegateRewardShareRatio := 50
  minDelegateStake := none
  observerAddress := ⟨n + 20⟩ })⟩

def delegate (n gateway : Fin (2 ^ 256)) (amount : ℕ) : Event :=
  ⟨⟨0, 1001⟩, .call (.delegateStake ⟨n⟩ ⟨gateway⟩ ⟨n + 10⟩ ⟨11⟩ [] amount)⟩

def undelegate (n gateway : Fin (2 ^ 256)) (amount : ℕ) : Event :=
  ⟨⟨0, 1002⟩, .call (.decreaseDelegateStake ⟨n⟩ ⟨gateway⟩ amount)⟩

/-- The authority lowers a counter without showing any delegation. -/
def reconcile (gateway : Fin (2 ^ 256)) (counter : ℕ) : Event :=
  ⟨⟨0, 1002⟩, .call (.adminReconcileDelegatedStake ⟨4⟩ ⟨gateway⟩ [] counter counter)⟩

/-- Whether all events of a list succeed, one after the other. -/
def Works (es : List Event) : Prop := (runAll (Event.exec chain) start es).isOk = true

instance (es : List Event) : Decidable (Works es) := inferInstanceAs (Decidable (_ = true))

/-- The state after a list of events. -/
@[irreducible] def after (es : List Event) : State :=
  outcome (runAll (Event.exec chain) start es) start

lemma run_after (es : List Event) (h : Works es) :
    ∃ tr : Trace, Run (GarStep chain) start tr (after es) ∧ tr.map (·.label) = es.reverse := by
  rw [after]
  exact run_outcome h

/-- A list of events that succeed, one after the other. -/
structure Script where
  events : List Event
  works : Works events

def delegated : Script := ⟨[join 21, delegate 23 21 20000000], by decide +kernel⟩

def twoJoined : Script := ⟨[join 21, join 22], by decide +kernel⟩

/-- The counter of gateway 21 is lowered below its delegation. -/
def lowered : Script :=
  ⟨[join 21, join 22, delegate 23 21 30000000, delegate 24 22 20000000, reconcile 21 30000000,
    undelegate 23 21 30000000], by decide +kernel⟩

def call (t : ℤ) (i : Instruction) : Event := ⟨⟨0, t⟩, .call i⟩

/-- Gateway 21 has a delegate when epoch 0 is created. -/
def opening : List Event :=
  [join 21, delegate 23 21 20000000,
    call 1002 (.initializeEpochs ⟨3⟩ ⟨⟨4⟩, 86400, 50, 2, 10, 4⟩),
    call 1002 (.setEpochsEnabled ⟨4⟩ true), call 1002 (.createEpoch ⟨24⟩ ⟨12⟩ [])]

def tally : Event := call 1002 (.tallyWeights 0 [⟨.gateway ⟨21⟩, true⟩])

/-- The epoch is prescribed and observed. -/
def observing : List Event :=
  [call 1002 (.prescribeEpoch 0 [⟨.gateway ⟨21⟩, true⟩] ⟨⟨0⟩, []⟩),
    call 1003 (.saveObservations ⟨41⟩ 0 (BitVec.allOnes 3000) 1 0)]

def distribution : Instruction := .distributeEpoch 0 ⟨12⟩ ⟨11⟩ [⟨.gateway ⟨21⟩, true⟩]

/-- Gateway 21 has earned rewards for its delegate. -/
def earned : Script :=
  ⟨opening ++ tally :: observing ++ [call 90000 distribution], by decide +kernel⟩

lemma earned_plain : ∀ e ∈ earned.events, ∀ i, e.action = .call i → ¬ i.IsReconcile := by
  simp [earned, opening, observing, tally, distribution, call, join, delegate,
    Instruction.IsReconcile]

lemma run_around (es es' : List Event) (e : Event) (h : Works (es ++ e :: es')) :
    ∃ earlier later : Trace, Run (GarStep chain) start
        (later ++ ⟨after es, e, after (es ++ [e])⟩ :: earlier) (after (es ++ e :: es')) ∧
      earlier.map (·.label) = es.reverse ∧ later.map (·.label) = es'.reverse := by
  simp only [after]
  exact run_outcome_around h

end SmallNetwork

lemma avoids_of_labels {P : Instruction → Prop} {es : List Event}
    (hl : tr.map (·.label) = es.reverse)
    (h : ∀ e ∈ es, ∀ i, e.action = .call i → ¬ P i) : tr.Avoids P := by
  rintro x hx ⟨i, hi, hP⟩
  have hmem : x.label ∈ es := by
    rw [← List.mem_reverse, ← hl]
    exact List.mem_map_of_mem hx
  exact h _ hmem i hi hP

/-! ### The sums -/

/-- **Solvency.** In every state that can be reached, the stake pool holds at least all operator
stakes, all delegated stakes, all withdrawals, and the rewards that all delegations would be
credited now. -/
theorem pool_solvent (hfresh : Fresh env s₀) (run : Run (GarStep env) s₀ tr s)
    (hrec : tr.Avoids Instruction.IsReconcile) :
    s.operatorStakes + s.delegatedStakes + s.withdrawalAmounts + s.pendingRewards
      ≤ s.poolBalance := by
  obtain ⟨hL, -⟩ := run_ledger hfresh run hrec.reconciled
  have hround := hL.solvent.rounded precision_pos
  rw [totalOwn_eq, totalShares_eq, totalVault_eq, totalPending_eq hL, ← balance_eq] at hround
  exact_mod_cast hround

open SmallNetwork in
theorem pool_solvent_small : ∃ s, s = after earned.events ∧ 0 < s.pendingReward ⟨21⟩ ⟨23⟩ ∧
    s.operatorStakes + s.delegatedStakes + s.withdrawalAmounts + s.pendingRewards
      ≤ s.poolBalance := by
  obtain ⟨tr, run, hl⟩ := run_after earned.events earned.works
  have hpending : 0 < (after earned.events).pendingReward ⟨21⟩ ⟨23⟩ := by
    unfold after
    decide +kernel
  exact ⟨_, rfl, hpending, pool_solvent fresh run (avoids_of_labels hl earned_plain)⟩

/-- **Counters.** The supply counters of the settings are the sums they stand for. -/
theorem counters_exact (hfresh : Fresh env s₀) (run : Run (GarStep env) s₀ tr s)
    (hrec : Reconciled tr) (hsync : tr.Avoids Instruction.IsResync) :
    s.settings.totalStaked = s.operatorStakes ∧ s.settings.totalDelegated = s.delegatedStakes ∧
      s.settings.totalWithdrawn = s.withdrawalAmounts := by
  have hexact : Exact s := by
    induction run with
    | nil => exact hfresh.sound.2.2
    | cons run last ih =>
      have hrec' := fun x hx => hrec x (List.mem_cons_of_mem _ hx)
      obtain ⟨hL, hR⟩ := run_ledger hfresh run hrec'
      exact step_exact hL hR last (hsync _ List.mem_cons_self)
        (ih hrec' fun x hx => hsync x (List.mem_cons_of_mem _ hx))
  obtain ⟨h1, h2, h3⟩ := hexact
  rw [totalOwn_eq] at h1
  rw [totalShares_eq] at h2
  rw [totalVault_eq] at h3
  exact ⟨by exact_mod_cast h1, by exact_mod_cast h2, by exact_mod_cast h3⟩

open SmallNetwork in
theorem counters_exact_small : ∃ s, s = after [join 21, delegate 23 21 20000000] ∧
    s.settings.totalStaked = s.operatorStakes ∧ s.settings.totalDelegated = s.delegatedStakes ∧
      s.settings.totalWithdrawn = s.withdrawalAmounts := by
  obtain ⟨tr, run, hl⟩ := run_after [join 21, delegate 23 21 20000000] delegated.works
  refine ⟨_, rfl, counters_exact fresh run (Trace.Avoids.reconciled ?_) ?_⟩ <;>
    exact avoids_of_labels hl (by
      simp [join, delegate, Instruction.IsReconcile, Instruction.IsResync])

lemma stake_le_delegatedStakes {g : Gateway} (hg : s.gateways k = some g) :
    g.totalDelegatedStake ≤ s.delegatedStakes := by
  have := single_le_sum (f := fun k => (s.gateways k).elim 0 (·.totalDelegatedStake))
    (s := univ) (fun _ _ => Nat.zero_le _) (mem_univ k)
  rw [hg] at this
  exact this

-- the counter of gateway 21 is lowered below its delegation, so that the later withdrawal takes
-- from the global counter what the gateway's own counter no longer has
open SmallNetwork in
/-- A reconciliation that is shown no delegations makes the counters drift apart. -/
theorem counters_drift : ∃ (tr : Trace) (s : State), Run (GarStep chain) start tr s ∧
    tr.Avoids Instruction.IsResync ∧ s.settings.totalDelegated ≠ s.delegatedStakes := by
  obtain ⟨tr, run, hl⟩ := run_after [join 21, join 22, delegate 23 21 30000000,
    delegate 24 22 20000000, reconcile 21 30000000, undelegate 23 21 30000000] lowered.works
  refine ⟨tr, _, run, avoids_of_labels hl (by
    simp [join, delegate, undelegate, reconcile, Instruction.IsResync]), fun heq => ?_⟩
  have hlook : ((after [join 21, join 22, delegate 23 21 30000000, delegate 24 22 20000000,
      reconcile 21 30000000, undelegate 23 21 30000000]).settings.totalDelegated,
      ((after [join 21, join 22, delegate 23 21 30000000, delegate 24 22 20000000,
        reconcile 21 30000000, undelegate 23 21 30000000]).gateways ⟨22⟩).map
        (·.totalDelegatedStake)) = (0, some 20000000) := by
    unfold after
    decide +kernel
  obtain ⟨h0, h22⟩ := Prod.mk.inj hlook
  obtain ⟨g, hg, hstake⟩ := Option.map_eq_some_iff.mp h22
  have := stake_le_delegatedStakes hg
  rw [← heq, h0, hstake] at this
  exact absurd this (by norm_num)

/-! ### The counters of the gateways -/

/-- By how much the stake that a gateway counts exceeds the delegations to it. -/
def State.counterGap (s : State) (k : Pubkey) : ℤ :=
  ((s.gateways k).elim 0 (·.totalDelegatedStake) : ℕ) - (s.delegatedTo k : ℤ)

lemma gap_eq (s : State) (k : Pubkey) : (book s).gap k = s.counterGap k := by
  rw [Book.gap, State.counterGap, shares_eq, sum_principal_eq]

lemma not_isLowering_of_isGain {m : Move Pubkey Pubkey WithdrawalId} (h : IsGain m) :
    ¬ IsLowering m := by
  cases m <;> simp_all [IsGain, IsLowering]

/-- **The gap of a counter.** Every step but a reconciliation leaves it alone. -/
theorem step_gap (hL : Ledger env s) (hR : Registered s) (h : GarStep env s e s')
    (hrec : ¬ e.Calls Instruction.IsReconcile) (k : Pubkey) :
    s'.counterGap k = s.counterGap k := by
  rw [← gap_eq, ← gap_eq]
  have hgain : Gain s s' → (book s').gap k = (book s).gap k := by
    rintro ⟨-, ⟨ms, hms, -, hbook⟩, -⟩
    rw [hbook, gap_play fun m hm => not_isLowering_of_isGain (hms m hm)]
  obtain ⟨clock, action⟩ := e
  simp only [GarStep, Event.exec] at h
  cases action with
  | call i =>
    simp only [Instruction.exec, bind_eq_ok, require_eq_ok, exists_const] at h
    obtain ⟨hsign, h⟩ := h
    by_cases hi : i.IsSpecial
    · cases i <;> try exact hi.elim
      case adminReconcileDelegatedStake authority gateway remaining counter removed =>
        exact absurd ⟨_, rfl, trivial⟩ hrec
      case adminResyncSupplyCounters authority es ns ed nd =>
        rw [adminResyncSupplyCounters_ok h, book_settings]
      case distributeEpoch index treasury pool remaining =>
        exact hgain (distributeEpoch_gain hL hR h)
    · obtain ⟨-, ⟨ms, hms, -, hbook⟩, -⟩ := handler_effect hL hsign hi h
      rw [hbook, gap_play fun m hm => not_isLowering_of_about (hms m hm)]
  | walletTransfer source destination authority amount =>
    simp only [bind_eq_ok, require_eq_ok, splTransfer_eq_ok, exists_const] at h
    obtain ⟨hne, t, ht, hs'⟩ := h
    exact hgain (walletTransfer_gain hL hne ht hs')
  | openTokenAccount key mint owner =>
    simp only [bind_eq_ok, requireAbsent_eq_ok, pure_eq_ok, exists_const] at h
    obtain ⟨hnone, hs'⟩ := h
    rw [(openTokenAccount_footing hL.footing hnone hs'.symm).1]

lemma run_gap (hfresh : Fresh env s₀) (run : Run (GarStep env) s₀ tr s)
    (hrec : tr.Avoids Instruction.IsReconcile) (k : Pubkey) : s.counterGap k = 0 := by
  induction run with
  | nil =>
    obtain ⟨⟨payer, mint, params, tokens, hinit⟩, -⟩ := hfresh
    simp only [initializeGar, bind_eq_ok, require_eq_ok, pure_eq_ok, exists_const] at hinit
    obtain ⟨-, hs⟩ := hinit
    rw [State.counterGap, State.delegatedTo, ← hs]
    simp
  | cons run last ih =>
    have hrec' : Trace.Avoids _ Instruction.IsReconcile :=
      fun x hx => hrec x (List.mem_cons_of_mem _ hx)
    obtain ⟨hL, hR⟩ := run_ledger hfresh run hrec'.reconciled
    rw [step_gap hL hR last (hrec _ List.mem_cons_self), ih hrec']

/-- **The counters of the gateways.** From a state whose accounting is in order, every step but a
reconciliation leaves the difference between the stake that a gateway counts and its delegations
as it is. So they are equal in every state that is reached from the start without a
reconciliation; a delegation that is closed was empty, and a gateway that is removed has no
delegation with stake left. -/
theorem delegated_counter :
    (∀ env s e s', Ledger env s → Registered s → GarStep env s e s' →
      ¬ e.Calls Instruction.IsReconcile → ∀ k, s'.counterGap k = s.counterGap k) ∧
    (∀ env s₀ (tr : Trace) s, Fresh env s₀ → Run (GarStep env) s₀ tr s →
      tr.Avoids Instruction.IsReconcile →
      (∀ k g, s.gateways k = some g → g.totalDelegatedStake = s.delegatedTo k) ∧
      (∀ clock delegator gateway s',
        (Instruction.closeEmptyDelegation delegator gateway).exec env clock s = .ok s' →
        ∃ d, s.delegations (gateway, delegator) = some d ∧ d.amount = 0) ∧
      (∀ clock operator remaining s',
        (Instruction.finalizeGone operator remaining).exec env clock s = .ok s' →
        ∀ u d, s.delegations (operator, u) = some d → d.amount = 0)) := by
  refine ⟨fun env s e s' hL hR h hrec k => step_gap hL hR h hrec k,
    fun env s₀ tr s hfresh run hrec => ?_⟩
  have hgap := fun k => run_gap hfresh run hrec k
  have heq : ∀ k g, s.gateways k = some g → g.totalDelegatedStake = s.delegatedTo k := by
    intro k g hg
    have := hgap k
    rw [State.counterGap, hg, Option.elim_some] at this
    omega
  refine ⟨heq, fun clock delegator gateway s' h =>
    ?_, fun clock operator remaining s' h u d hd => ?_⟩
  · simp only [Instruction.exec, bind_eq_ok, Instruction.handler] at h
    obtain ⟨-, -, h⟩ := h
    obtain ⟨g, d, -, hd, h0, -⟩ := closeEmptyDelegation_ok h
    exact ⟨d, hd, h0⟩
  · simp only [Instruction.exec, bind_eq_ok, Instruction.handler] at h
    obtain ⟨-, -, h⟩ := h
    obtain ⟨g, settings, s₁, hg, -, -, -, h0, -⟩ := finalizeGone_ok h
    have hsum := heq _ _ hg
    rw [h0, State.delegatedTo] at hsum
    have := (Finset.sum_eq_zero_iff.mp hsum.symm) u (mem_univ u)
    simpa [hd] using this

open SmallNetwork in
theorem delegated_counter_small : ∃ s, s = after [join 21, delegate 23 21 20000000] ∧
    ∀ k g, s.gateways k = some g → g.totalDelegatedStake = s.delegatedTo k := by
  obtain ⟨tr, run, hl⟩ := run_after [join 21, delegate 23 21 20000000] delegated.works
  exact ⟨_, rfl, (delegated_counter.2 _ _ _ _ fresh run (avoids_of_labels hl (by
    simp [join, delegate, Instruction.IsReconcile]))).1⟩

namespace SmallNetwork

def joined : Script := ⟨[join 21], by decide +kernel⟩

/-- A gateway that does not count a delegation to it. -/
def uncounted : State := { after [join 21] with
  delegations := Function.update (fun _ => none) (⟨21⟩, ⟨23⟩)
    (some ⟨⟨21⟩, ⟨23⟩, 30000000, 1000, 0⟩) }

/-- The state after the delegation was withdrawn. -/
@[irreducible] def emptied : State :=
  outcome ((undelegate 23 21 30000000).exec chain uncounted) uncounted

lemma emptied_values : (after [join 21]).poolBalance = 30000000000 ∧
    ((undelegate 23 21 30000000).exec chain uncounted).isOk = true ∧
    (emptied.delegations (⟨21⟩, ⟨23⟩)).elim 0 (·.amount) = 0 ∧
    (uncounted.gateways ⟨21⟩).elim 0 (·.totalDelegatedStake) = 0 ∧
    (emptied.gateways ⟨21⟩).elim 0 (·.totalDelegatedStake) = 0 := by
  unfold emptied uncounted after
  decide +kernel

lemma uncounted_delegatedTo (k : Pubkey) :
    uncounted.delegatedTo k = if k = ⟨21⟩ then 30000000 else 0 := by
  rw [State.delegatedTo, sum_eq_single ⟨23⟩]
  · by_cases hk : k = ⟨21⟩ <;> simp [uncounted, hk]
  · intro u _ hu
    simp [uncounted, hu]
  · simp

lemma uncounted_amounts : uncounted.operatorStakes + uncounted.delegatedStakes
    + uncounted.withdrawalAmounts + ∑ k, uncounted.delegatedTo k < 2 ^ 64 := by
  obtain ⟨tr, run, hl⟩ := run_after [join 21] joined.works
  obtain ⟨hL, -⟩ := run_ledger fresh run (Trace.Avoids.reconciled (avoids_of_labels hl (by
    simp [join, Instruction.IsReconcile])))
  have hround := hL.solvent.rounded precision_pos
  rw [totalOwn_eq, totalShares_eq, totalVault_eq, totalPending_eq hL, ← balance_eq] at hround
  have hsum : (after [join 21]).operatorStakes + (after [join 21]).delegatedStakes
      + (after [join 21]).withdrawalAmounts + (after [join 21]).pendingRewards
      ≤ (after [join 21]).poolBalance := by exact_mod_cast hround
  have hpool : (after [join 21]).poolBalance = 30000000000 := emptied_values.1
  have h1 : uncounted.operatorStakes = (after [join 21]).operatorStakes := rfl
  have h2 : uncounted.delegatedStakes = (after [join 21]).delegatedStakes := rfl
  have h3 : uncounted.withdrawalAmounts = (after [join 21]).withdrawalAmounts := rfl
  simp only [uncounted_delegatedTo, sum_ite_eq', mem_univ, if_true]
  rw [h1, h2, h3]
  omega

lemma emptied_step : GarStep chain uncounted (undelegate 23 21 30000000) emptied := by
  rw [emptied]
  exact eq_ok_outcome emptied_values.2.1

lemma emptied_delegatedTo : emptied.delegatedTo ⟨21⟩ = 0 := by
  have h := emptied_step
  simp only [GarStep, Event.exec, undelegate, Instruction.exec, bind_eq_ok,
    Instruction.handler] at h
  obtain ⟨-, -, h⟩ := h
  obtain ⟨g, d, amount, -, -, -, -, h⟩ := decreaseDelegateStake_ok h
  obtain ⟨nextId, -, -, hs'⟩ := vaultDelegation_ok h
  obtain ⟨-, -, hamount, -⟩ := emptied_values
  refine Finset.sum_eq_zero fun u _ => ?_
  by_cases hu : u = ⟨23⟩
  · rw [hu]
    exact hamount
  · rw [hs']
    simp [hu, uncounted]

end SmallNetwork

-- the counter of the gateway stops at zero while the delegation is paid out
open SmallNetwork in
/-- From a state that counts too little, a withdrawal changes the gap. -/
theorem gap_changes : ∃ s e s', s.operatorStakes + s.delegatedStakes + s.withdrawalAmounts
      + ∑ k, s.delegatedTo k < 2 ^ 64 ∧
    GarStep chain s e s' ∧ ¬ e.Calls Instruction.IsReconcile ∧
    ∃ k, s'.counterGap k ≠ s.counterGap k := by
  refine ⟨uncounted, _, emptied, uncounted_amounts, emptied_step, ?_, ⟨21⟩, ?_⟩
  · rintro ⟨i, hi, hrec⟩
    simp only [undelegate, Action.call.injEq] at hi
    subst hi
    exact hrec
  · obtain ⟨-, -, -, h⟩ := emptied_values
    rw [State.counterGap, State.counterGap, h.1, h.2, emptied_delegatedTo, uncounted_delegatedTo]
    decide

end Gar
end ArioSolana
