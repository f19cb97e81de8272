import ArioSolana.GarFunding
import ArioSolana.GarLocks

/-!
# Cashing out

Tokens leave the stake pool for the treasury, or for a wallet in one of two ways: the owner claims a
withdrawal whose time has come, or takes it early and pays the penalty. The date of a withdrawal is
set when it is created and never moves, and no second withdrawal ever gets its id. So there is no
way round the lock, whatever the owner does with the stake in between. -/

namespace ArioSolana
namespace Gar

open Checked Solana

/-- A transfer from the pool to a wallet, among the transfers `new` of the instruction. -/
inductive CashesOut (i : Instruction) (now : ℤ) (s : State) (new : List SplTransfer) :
    SplTransfer → Prop
  | claimed {u p a id w} (call : i = .claimWithdrawal u id p a)
      (was : s.withdrawals (u, id) = some w) (ready : w.availableAt ≤ now)
      (own : s.tokens.terms a = some (s.settings.mint, u)) :
      CashesOut i now s new ⟨s.settings.stakeTokenAccount, a, w.amount⟩
  | expedited {u p a q id w rate fee} (call : i = .instantWithdrawal u id p a q)
      (was : s.withdrawals (u, id) = some w) (plain : w.isProtected = false)
      (rated : penaltyRate s.settings w.createdAt now = .ok rate)
      (floor : w.amount < 2 ^ 64 → fee = w.amount * rate / 1000000)
      (own : s.tokens.terms a = some (s.settings.mint, u))
      (paid : ⟨s.settings.stakeTokenAccount, s.settings.protocolTokenAccount, fee⟩ ∈ new) :
      CashesOut i now s new ⟨s.settings.stakeTokenAccount, a, w.amount - fee⟩

/-- What leaves the pool goes to the treasury, unless it cashes out. -/
def LeavesPool (i : Instruction) (now : ℤ) (s : State) (new : List SplTransfer) : Prop :=
  ∀ t ∈ new, t.source = s.settings.stakeTokenAccount →
    t.destination = s.settings.protocolTokenAccount ∨ CashesOut i now s new t

/-- The pool and the treasury have their owners, and the penalties are shares of the whole. -/
structure Guarded (env : Env) (s : State) : Prop extends Custody env s where
  penalties : s.settings.minExpeditedWithdrawalPenalty ≤ s.settings.maxExpeditedWithdrawalPenalty
  share : s.settings.maxExpeditedWithdrawalPenalty ≤ rateScale

/-- What an instruction does to the tokens. -/
structure TokenStep (env : Env) (i : Instruction) (now : ℤ) (s s' : State) : Prop where
  kept : Kept s s'
  log : Guarded env s → ∃ new, s'.tokens.transfers = new ++ s.tokens.transfers ∧
    LeavesPool i now s new

section

variable {env : Env} {s s' s₀ : State} {i : Instruction} {clock : Clock} {now : ℤ} {tr : Trace}
  {a b c k u : Pubkey} {n : ℕ} {t : Tokens} {e : Event} {id : WithdrawalId} {w : Withdrawal}

lemma Guarded.of_kept (h : Guarded env s) (hk : Kept s s') : Guarded env s' where
  addresses := h.addresses
  pool := by rw [hk.terms, hk.stakeTokenAccount, hk.mint, h.pool]
  treasury := by rw [hk.terms, hk.protocolTokenAccount, hk.mint, h.treasury]
  penalties := by
    rw [hk.penalties.1, hk.penalties.2]
    exact h.penalties
  share := by
    rw [hk.penalties.2]
    exact h.share

lemma Custody.source_ne (h : Custody env s) (ht : Tokens.Transferred s.tokens t a b c n)
    (hc : c ≠ env.settingsPda) : a ≠ s.settings.stakeTokenAccount := by
  rintro rfl
  obtain ⟨src, hsrc, rfl, -⟩ := ht.source_exists
  have hpool := h.pool
  rw [Tokens.terms, hsrc, Option.map_some, Option.some.injEq, Prod.mk.injEq] at hpool
  exact hc hpool.2

/-! ### Instructions -/

namespace TokenStep

lemma idle (hfixed : s'.settings.fixed = s.settings.fixed) (ht : s'.tokens = s.tokens) :
    TokenStep env i now s s' where
  kept := .of_fixed hfixed ht
  log _ := ⟨[], by rw [ht]; rfl, fun _ h => by cases h⟩

lemma one (hfixed : s'.settings.fixed = s.settings.fixed)
    (ht : Tokens.Transferred s.tokens s'.tokens a b c n)
    (hto : b = s.settings.protocolTokenAccount ∨ (Custody env s → c ≠ env.settingsPda)) :
    TokenStep env i now s s' where
  kept := .of_transferred hfixed ht
  log hguard := by
    refine ⟨[⟨a, b, n⟩], ht.log_eq, fun x hx hsource => ?_⟩
    obtain rfl := List.mem_singleton.mp hx
    obtain hto | hother := hto
    · exact .inl hto
    · exact absurd hsource (hguard.source_ne ht (hother hguard.toCustody))

lemma moved (hfixed : s'.settings.fixed = s.settings.fixed) (ht : s.tokens.Moved s'.tokens a b c n)
    (hto : b = s.settings.protocolTokenAccount ∨ (Custody env s → c ≠ env.settingsPda)) :
    TokenStep env i now s s' := by
  obtain ⟨ht, -⟩ | ⟨ht, -⟩ := ht.cases
  · exact .one hfixed ht hto
  · exact .idle hfixed ht

lemma pair {a' c' : Pubkey} {n' : ℕ} (hfixed : s'.settings.fixed = s.settings.fixed)
    (ht : s.tokens.Moved t a b c n) (ht' : t.Moved s'.tokens a' b c' n')
    (hb : b = s.settings.protocolTokenAccount) : TokenStep env i now s s' := by
  have hfirst : TokenStep env i now s { s with tokens := t } := .moved rfl ht (.inl hb)
  have hsecond : TokenStep env i now { s with tokens := t } s' := .moved hfixed ht' (.inl hb)
  refine ⟨hfirst.kept.trans hsecond.kept, fun _ => ?_⟩
  have hone {t t' : Tokens} {a c : Pubkey} {n : ℕ} (h : t.Moved t' a b c n) :
      ∃ new, t'.transfers = new ++ t.transfers ∧ ∀ x ∈ new, x.destination = b := by
    obtain ⟨h, -⟩ | ⟨rfl, -⟩ := h.cases
    · exact ⟨[⟨a, b, n⟩], h.log_eq, by simp⟩
    · exact ⟨[], rfl, by simp⟩
  obtain ⟨new, hnew, hto⟩ := hone ht
  obtain ⟨new', hnew', hto'⟩ := hone ht'
  refine ⟨new' ++ new, by rw [hnew', hnew, List.append_assoc], fun x hx _ => .inl ?_⟩
  rw [← hb]
  exact (List.mem_append.mp hx).elim (hto' x) (hto x)

end TokenStep

lemma joinNetwork_tokens {p : Pubkey} {params : JoinNetworkParams} (hu : env.CanSign k)
    (h : joinNetwork now k a p params s = .ok s') :
    TokenStep env (.joinNetwork k a p params) now s s' := by
  obtain ⟨g, t, -, -, -, -, ht, -, -, -, -, -, -, -, -, -, -, -, -, rfl⟩ := joinNetwork_ok h
  exact .one rfl (Tokens.transfer_ok ht) (.inr fun _ => hu.2.1)

lemma claimWithdrawal_tokens {p : Pubkey} (h : claimWithdrawal env now u id p a s = .ok s') :
    TokenStep env (.claimWithdrawal u id p a) now s s' := by
  obtain ⟨w, t, hw, hready, ha, ht, rfl⟩ := claimWithdrawal_ok h
  have ht := Tokens.transfer_ok ht
  refine ⟨.of_transferred rfl ht, fun _ => ⟨[_], ht.log_eq, fun x hx _ => ?_⟩⟩
  obtain rfl := List.mem_singleton.mp hx
  exact .inr (.claimed rfl hw hready ha)

lemma instantFee_eq {amount rate : ℕ} (ha : amount < 2 ^ 64) (hr : rate ≤ rateScale) :
    instantFee amount rate = amount * rate / 1000000 := by
  have hle : amount * rate / rateScale ≤ amount :=
    Nat.div_le_of_le_mul (by rw [Nat.mul_comm]; exact Nat.mul_le_mul_right _ hr)
  exact Nat.mod_eq_of_lt (hle.trans_lt ha)

lemma instantWithdrawal_tokens {p q : Pubkey}
    (h : instantWithdrawal env now u id p a q s = .ok s') :
    TokenStep env (.instantWithdrawal u id p a q) now s s' := by
  obtain ⟨w, rate, t, t', hw, hplain, -, hrate, ha, ht, ht', rfl⟩ := instantWithdrawal_ok h
  have ht := Tokens.transfer_ok ht
  have ht' := Tokens.transfer_ok ht'
  have hkept : Kept s { s with tokens := t } := .of_transferred rfl ht
  let new : List SplTransfer := [⟨s.settings.stakeTokenAccount, s.settings.protocolTokenAccount,
    instantFee w.amount rate⟩,
    ⟨s.settings.stakeTokenAccount, a, w.amount - instantFee w.amount rate⟩]
  refine ⟨hkept.trans (.of_transferred rfl ht'), fun hguard => ⟨new, ?_, fun x hx _ => ?_⟩⟩
  · rw [ht'.log_eq, ht.log_eq]
    rfl
  · -- the penalty was paid last
    simp only [new, List.mem_cons, List.not_mem_nil, or_false] at hx
    obtain rfl | rfl := hx
    · exact .inl rfl
    · have hshare := (penaltyRate_bounds hguard.penalties hrate).2.trans hguard.share
      exact .inr (.expedited rfl hw hplain hrate (fun hword => instantFee_eq hword hshare) ha
        List.mem_cons_self)

lemma payBalance_moved {pta : Option Pubkey} (h : payBalance u pta b n s = .ok s') :
    ∃ a, s.tokens.Moved s'.tokens a b u n ∧ s' = { s with tokens := s'.tokens } := by
  unfold payBalance at h
  unfold Tokens.Moved
  split at h
  · rename_i hpos
    simp only [bind_eq_ok, splTransfer_eq_ok] at h
    obtain ⟨a, -, t, ht, rfl⟩ := h
    exact ⟨a, by rw [if_pos hpos]; exact ht, rfl⟩
  · rename_i hpos
    obtain rfl := pure_eq_ok.mp h
    exact ⟨Pubkey.default, by rw [if_neg hpos], rfl⟩

lemma payFromFundingPlan_tokens {p q : Pubkey} {pta : Option Pubkey} {remaining : List AccountMeta}
    {sources : List FundingSourceSpec} {total count : ℕ}
    (h : payFromFundingPlan env now u p q pta remaining sources total count s = .ok s') :
    TokenStep env i now s s' := by
  obtain ⟨residues, x⟩ := payFromFundingPlan_accounts h
  obtain ⟨G, D, W, C, tokens, staked, delegated, withdrawn, hs'⟩ := x.rest
  simp only [payFromFundingPlan, bind_eq_ok, checkPaymentAccounts_eq_ok, require_eq_ok,
    splTransferNonzero_eq_ok, add64_eq_ok, pure_eq_ok, exists_const, Prod.exists] at h
  obtain ⟨⟨rfl, rfl, -, -⟩, -, -, -, -, -, _, hsum, -, plan, hplan, -, s₁, ⟨t, ht, rfl⟩, s₂, hbal,
    s₃, rest, hvaults, -, _, -, hend⟩ := h
  obtain ⟨-, hpos⟩ := sumSources_ok hsum
  obtain ⟨wd, -, -, -⟩ := Drawing.start.drawAll hpos hplan
  obtain ⟨G', D', W', hstate⟩ := wd.rest
  obtain ⟨C', W'', hs₃⟩ := (createResidueVaults_spec hvaults).rest
  obtain ⟨a, hpaid, -⟩ := payBalance_moved hbal
  have htokens : s₂.tokens = s'.tokens := by
    rw [← hend, hs₃]
    rfl
  rw [hstate] at ht
  rw [htokens] at hpaid
  exact .pair (by rw [hs']; rfl) ht hpaid rfl

lemma distributeEpoch_tokens {index : ℕ} {p q : Pubkey} {remaining : List AccountMeta}
    (h : distributeEpoch env now index p q remaining s = .ok s') : TokenStep env i now s s' := by
  obtain ⟨settings, epoch, -, -, rfl, rfl, -, -, -, ⟨-, -, rfl⟩ |
    ⟨batch, payout, t, -, hb, hpay, hmoved, -, hs'⟩⟩ := distributeEpoch_ok h
  · exact .idle rfl rfl
  · obtain ⟨idxs, xs, hpend, -, hscan, -⟩ := scanBatch_ok hb
    rw [List.nil_append] at hpend
    have hxs : ∀ x ∈ batch.pending, s.gateways x.gateway.operator = some x.gateway := by
      intro x hx
      obtain ⟨j, -, info, hslot⟩ := exists_of_forall₂ hscan (hpend ▸ hx)
      exact (scanSlot_ok hslot).1
    obtain ⟨-, G, hrest⟩ := payBatch_leaving hxs (.refl s) ⟨_, rfl⟩ hpay
    rw [hrest] at hmoved hs'
    have ht : s.tokens.Moved s'.tokens s.settings.protocolTokenAccount
        s.settings.stakeTokenAccount env.arioConfig
        (min batch.totalReward (s.tokens.balance s.settings.protocolTokenAccount)
          - payout.orphaned) := by
      rw [hs']
      exact hmoved
    exact .moved (by rw [hs']; rfl) ht (.inr fun hcustody => hcustody.addresses.symm)

/-- **What every instruction does to the tokens.** -/
theorem handler_tokenStep (hsign : ∀ k ∈ i.signer, env.CanSign k)
    (h : i.handler env clock s = .ok s') : TokenStep env i clock.unixTimestamp s s' := by
  by_cases hm : i.MovesTokens
  · cases i <;> try exact hm.elim
    all_goals simp only [Instruction.handler] at h
    case joinNetwork operator account pool params => exact joinNetwork_tokens (hsign _ rfl) h
    case pruneGateway operator pool treasury excess remaining =>
      obtain ⟨_, _, _, _, _, _, _, -, -, -, -, -, -, -, ht, -, -, -, rfl⟩ := pruneGateway_ok h
      exact .moved rfl ht (.inl rfl)
    case increaseOperatorStake operator account pool amount =>
      obtain ⟨g, t, -, -, -, -, ht, rfl⟩ := increaseOperatorStake_ok h
      exact .one rfl (Tokens.transfer_ok ht) (.inr fun _ => (hsign _ rfl).2.1)
    case delegateStake delegator gateway account pool remaining amount =>
      obtain ⟨g, d, t, -, -, -, -, -, ht, rfl⟩ := delegateStake_ok h
      exact .one rfl (Tokens.transfer_ok ht) (.inr fun _ => (hsign _ rfl).2.1)
    case redelegateStake delegator source target account pool treasury remaining amount =>
      obtain ⟨g, d, g', d', fee, t, record, -, -, -, -, -, -, -, -, ht, rfl⟩ :=
        redelegateStake_ok h
      exact .moved rfl ht (.inl rfl)
    case claimWithdrawal owner id pool account => exact claimWithdrawal_tokens h
    case instantWithdrawal owner id pool account treasury => exact instantWithdrawal_tokens h
    case deductDelegationForPayment delegator gateway pool treasury amount =>
      obtain ⟨g, d, t, -, -, -, -, ht, rfl⟩ := deductDelegationForPayment_ok h
      exact .one rfl (Tokens.transfer_ok ht) (.inl rfl)
    case deductOperatorStakeForPayment operator pool treasury amount =>
      obtain ⟨g, t, -, -, -, -, ht, rfl⟩ := deductOperatorStakeForPayment_ok h
      exact .one rfl (Tokens.transfer_ok ht) (.inl rfl)
    case deductWithdrawalForPayment owner id pool treasury amount =>
      obtain ⟨w, t, -, -, -, ht, rfl⟩ := deductWithdrawalForPayment_ok h
      exact .one rfl (Tokens.transfer_ok ht) (.inl rfl)
    case payFromFundingPlan payer pool treasury account remaining sources total count =>
      exact payFromFundingPlan_tokens h
    case distributeEpoch index treasury pool remaining => exact distributeEpoch_tokens h
  · obtain ⟨htokens, hfixed⟩ := handler_idle hm h
    exact .idle hfixed htokens

/-! ### Histories -/

/-- The transfer pays out of the pool in a step with the transfers `new`. -/
def CashedOut (x : Step State Event) (new : List SplTransfer) (t : SplTransfer) : Prop :=
  ∃ i, x.label.action = .call i ∧ CashesOut i x.label.clock.unixTimestamp x.before new t

lemma Fresh.guarded (h : Fresh env s) : Guarded env s := by
  obtain ⟨⟨payer, mint, params, tokens, hinit⟩, haddr, hpool, htreasury, -⟩ := h
  simp only [initializeGar, bind_eq_ok, pure_eq_ok] at hinit
  obtain ⟨-, -, rfl⟩ := hinit
  exact ⟨⟨haddr, hpool, htreasury⟩, by simp only; decide, by simp only; decide⟩

lemma Guarded.opened {key mint owner : Pubkey} (h : Guarded env s)
    (hnone : s.tokens.accounts key = none) : Guarded env { s with tokens := { s.tokens with
      accounts := Function.update s.tokens.accounts key (some ⟨mint, owner, 0⟩) } } := by
  have hkeep (a : Pubkey) (x : Pubkey × Pubkey) (ha : s.tokens.terms a = some x) :
      Tokens.terms { s.tokens with
        accounts := Function.update s.tokens.accounts key (some ⟨mint, owner, 0⟩) } a = some x := by
    have hne : a ≠ key := by
      rintro rfl
      rw [Tokens.terms, hnone] at ha
      cases ha
    rw [← ha, Tokens.terms, Tokens.terms]
    exact congrArg (Option.map _) (Function.update_of_ne hne ..)
  exact ⟨⟨h.addresses, hkeep _ _ h.pool, hkeep _ _ h.treasury⟩, h.penalties, h.share⟩

lemma garStep_tokens (hguard : Guarded env s) (h : GarStep env s e s') : Guarded env s' ∧
    ∃ new, s'.tokens.transfers = new ++ s.tokens.transfers ∧
      ∀ t ∈ new, t.source = s.settings.stakeTokenAccount →
        t.destination = s.settings.protocolTokenAccount ∨
          CashedOut ⟨s, e, s'⟩ new t := by
  obtain ⟨clock, action⟩ := e
  simp only [GarStep, Event.exec] at h
  cases action with
  | call i =>
    simp only [Instruction.exec, bind_eq_ok, require_eq_ok, exists_const] at h
    have hstep := handler_tokenStep h.1 h.2
    obtain ⟨new, hnew, hleaves⟩ := hstep.log hguard
    exact ⟨hguard.of_kept hstep.kept, new, hnew, fun t ht hsource =>
      (hleaves t ht hsource).imp_right fun hcash => ⟨i, rfl, hcash⟩⟩
  | walletTransfer source destination authority amount =>
    simp only [bind_eq_ok, require_eq_ok, splTransfer_eq_ok, exists_const] at h
    obtain ⟨hauthority, t, ht, rfl⟩ := h
    have ht := Tokens.transfer_ok ht
    refine ⟨hguard.of_kept (.of_transferred rfl ht), [_], ht.log_eq, fun x hx hsource => ?_⟩
    obtain rfl := List.mem_singleton.mp hx
    exact absurd hsource (hguard.source_ne ht hauthority)
  | openTokenAccount key mint owner =>
    simp only [bind_eq_ok, requireAbsent_eq_ok, pure_eq_ok, exists_const] at h
    obtain ⟨hnone, rfl⟩ := h
    exact ⟨hguard.opened hnone, [], rfl, fun _ hx => by cases hx⟩

lemma run_guarded (hfresh : Fresh env s₀) (run : Run (GarStep env) s₀ tr s) : Guarded env s := by
  induction run with
  | nil => exact hfresh.guarded
  | cons _ last ih => exact (garStep_tokens ih last).1

/-- The step creates the withdrawal `id` of `u`. -/
def Created (x : Step State Event) (u : Pubkey) (id : WithdrawalId) (w : Withdrawal) : Prop :=
  x.before.withdrawals (u, id) = none ∧ x.after.withdrawals (u, id) = some w

/-- The dates and the protection are those of `w₀`, and there is no more in it. -/
structure Withdrawal.Within (w w₀ : Withdrawal) : Prop where
  createdAt : w.createdAt = w₀.createdAt
  availableAt : w.availableAt = w₀.availableAt
  isProtected : w.isProtected = w₀.isProtected
  amount : w.amount ≤ w₀.amount

lemma Withdrawal.Within.refl (w : Withdrawal) : w.Within w := ⟨rfl, rfl, rfl, le_rfl⟩

lemma Withdrawal.Within.trans {w' w'' : Withdrawal} (h : w''.Within w') (h' : w'.Within w) :
    w''.Within w :=
  ⟨h.createdAt.trans h'.createdAt, h.availableAt.trans h'.availableAt,
    h.isProtected.trans h'.isProtected, h.amount.trans h'.amount⟩

lemma garStep_within {w' : Withdrawal} (h : GarStep env s e s')
    (hw : s.withdrawals (u, id) = some w) (hw' : s'.withdrawals (u, id) = some w') :
        w'.Within w := by
  cases (garStep_vaults h).vault u id with
  | same same =>
    obtain rfl := Option.some.inj (hw'.symm.trans (same.trans hw))
    exact .refl _
  | created absent =>
    rw [hw] at absent
    cases absent
  | drawn was covered left =>
    obtain rfl := Option.some.inj (hw.symm.trans was)
    obtain rfl := Option.some.inj (hw'.symm.trans left)
    exact ⟨rfl, rfl, rfl, Nat.sub_le _ _⟩
  | closed was gone =>
    rw [hw'] at gone
    cases gone

lemma garStep_creates (h : GarStep env s e s') (hw : Created ⟨s, e, s'⟩ u id w) :
    w.Born e.clock.unixTimestamp s.settings.withdrawalPeriod ∧ nextIdOf s u ≤ id.val ∧
      id.val < nextIdOf s' u := by
  obtain ⟨hnone, hsome⟩ := hw
  dsimp only at hnone hsome
  cases (garStep_vaults h).vault u id with
  | same same =>
    rw [same, hnone] at hsome
    cases hsome
  | created absent present next counted born =>
    obtain rfl := Option.some.inj (hsome.symm.trans present)
    exact ⟨born, next, counted⟩
  | drawn was =>
    rw [hnone] at was
    cases was
  | closed was =>
    rw [hnone] at was
    cases was

lemma run_created (hfresh : Fresh env s₀) (run : Run (GarStep env) s₀ tr s)
    (hw : s.withdrawals (u, id) = some w) : ∃ x ∈ tr, ∃ w₀, Created x u id w₀ ∧
      w₀.Born x.label.clock.unixTimestamp x.before.settings.withdrawalPeriod ∧ w.Within w₀ := by
  induction run generalizing w with
  | nil =>
    rw [hfresh.withdrawals] at hw
    cases hw
  | @cons tr s e s' run last ih =>
    cases hold : s.withdrawals (u, id) with
    | none =>
      have hcreates : Created ⟨s, e, s'⟩ u id w := ⟨hold, hw⟩
      exact ⟨_, List.mem_cons_self, w, hcreates, (garStep_creates last hcreates).1, .refl w⟩
    | some w' =>
      obtain ⟨x, hx, w₀, hcreates, hborn, hwithin⟩ := ih hold
      exact ⟨x, List.mem_cons_of_mem _ hx, w₀, hcreates, hborn,
        (garStep_within last hold hw).trans hwithin⟩

lemma run_counted (run : Run (GarStep env) s₀ tr s) :
    ∀ x ∈ tr, ∀ w, Created x u id w → id.val < nextIdOf s u := by
  induction run with
  | nil => simp
  | cons run last ih =>
    intro x hx w hcreates
    rcases List.mem_cons.mp hx with rfl | hx
    · exact (garStep_creates last hcreates).2.2
    · exact (ih x hx w hcreates).trans_le ((garStep_vaults last).counter u)

lemma run_idsOnce (run : Run (GarStep env) s₀ tr s) :
    tr.Pairwise fun x y => ∀ w w', ¬ (Created x u id w ∧ Created y u id w') := by
  induction run with
  | nil => exact .nil
  | cons run last ih =>
    refine List.pairwise_cons.mpr ⟨fun y hy w w' ⟨hlast, hearlier⟩ => ?_, ih⟩
    have hused := run_counted run y hy w' hearlier
    have hnext := (garStep_creates last hlast).2.1
    omega

/-- **No early cash-out.** Every withdrawal was created by a step of the history with the lock that
its protection asks for, and has kept its dates; no id is used twice; and what leaves the pool in
any step goes to the treasury, or is a claim of all that is left when the time has come, or the rest
of an unprotected withdrawal that pays its penalty. -/
theorem no_early_cash_out (hfresh : Fresh env s₀) (run : Run (GarStep env) s₀ tr s) :
    (∀ u id w, s.withdrawals (u, id) = some w → ∃ x ∈ tr, ∃ w₀, Created x u id w₀ ∧
      w₀.createdAt = x.label.clock.unixTimestamp ∧
      (0 < w₀.amount → w₀.availableAt = w₀.createdAt +
        if w₀.isProtected then 90 * 86400 else x.before.settings.withdrawalPeriod) ∧
      w.Within w₀) ∧
    (∀ x ∈ tr, ∀ u id w w', x.before.withdrawals (u, id) = some w →
      x.after.withdrawals (u, id) = some w' → w'.Within w) ∧
    (∀ u id, tr.Pairwise fun x y => ∀ w w', ¬ (Created x u id w ∧ Created y u id w')) ∧
    (∀ x ∈ tr, ∃ new, x.after.tokens.transfers = new ++ x.before.tokens.transfers ∧
      ∀ t ∈ new, t.source = x.before.settings.stakeTokenAccount →
        t.destination = x.before.settings.protocolTokenAccount ∨ CashedOut x new t) := by
  refine ⟨fun u id w hw => ?_, fun x hx u id w w' hw hw' => ?_, fun u id => run_idsOnce run,
    fun x hx => ?_⟩
  · obtain ⟨x, hx, w₀, hcreates, hborn, hwithin⟩ := run_created hfresh run hw
    refine ⟨x, hx, w₀, hcreates, hborn.created, fun hpos => ?_, hwithin⟩
    rw [hborn.lock hpos, hborn.created]
    rfl
  · obtain ⟨_, -, hstep, -⟩ := run.of_mem hx
    exact garStep_within hstep hw hw'
  · obtain ⟨tr', run', hstep, -⟩ := run.of_mem hx
    exact (garStep_tokens (run_guarded hfresh run') hstep).2

end

open SmallNetwork in
theorem no_early_cash_out_small : ∃ tr w, Run (GarStep chain) start tr (after departed.events) ∧
    (after departed.events).withdrawals (⟨21⟩, 0) = some w ∧
    ∃ x ∈ tr, w.availableAt = x.label.clock.unixTimestamp + 90 * 86400 := by
  obtain ⟨tr, run, -⟩ := run_after departed.events departed.works
  have hvault : ((after departed.events).withdrawals (⟨21⟩, 0)).map
      (fun w => (w.isProtected, w.amount)) = some (true, 20000000000) := by
    unfold after
    decide +kernel
  obtain ⟨w, hw, hfields⟩ := Option.map_eq_some_iff.mp hvault
  obtain ⟨hprot, hamount⟩ := Prod.mk.inj hfields
  obtain ⟨x, hx, w₀, -, hcreated, hlock, hwithin⟩ :=
    (no_early_cash_out fresh run).1 ⟨21⟩ 0 w hw
  refine ⟨tr, w, run, hw, x, hx, ?_⟩
  have hpos : 0 < w₀.amount := by
    have hle := hwithin.amount
    omega
  rw [hwithin.availableAt, hlock hpos, hcreated, if_pos (hwithin.isProtected.symm.trans hprot)]

end Gar
end ArioSolana
